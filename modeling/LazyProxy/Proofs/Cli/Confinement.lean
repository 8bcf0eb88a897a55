import LazyProxy.Proofs.Cli.Effects
import LazyProxy.Proofs.Target.Paths

/-!
This module contains that sources stay below the directory that they are written to. Whatever a type
is called, the path of its proxy consists of identifiers, and leads downwards only.
-/

namespace LazyProxy

theorem Target.exists_fileName_eq (t : Target) {className : String} (h : isIdentifier className)
    : ∃ stem, t.fileName className = stem ++ "." ++ t.fileExtension ∧ isIdentifier stem := by
  cases t with
  | php => exact ⟨className, rfl, h⟩
  | rust => exact ⟨snakeCase className, rfl, isIdentifier_snakeCase h⟩

variable {c : Config} {d : Descriptor} {source : Source}

theorem exists_relativePath_of_generate (h : c.generate d = .ok source)
    : ∃ proxy : ProxyClass, proxy.WellNamed ∧ source.path = proxy.relativePath c.target := by
  rcases Config.generate_eq_ok h with ⟨proxy, hmodel, -, -, -, hpath⟩
  exact ⟨proxy, (Config.wellNamed_of_model hmodel).left, hpath⟩

theorem exists_pathPieces_of_generate (h : c.generate d = .ok source)
    : ∃ directories stem,
      pathPieces source.path = directories ++ [stem ++ "." ++ c.target.fileExtension]
        ∧
      ∀ name ∈ directories ++ [stem], isIdentifier name := by
  rcases exists_relativePath_of_generate h with ⟨proxy, hwell, hpath⟩
  rcases c.target.exists_fileName_eq hwell.name with ⟨stem, hstem, hidentifier⟩
  refine ⟨c.target.directories proxy.namespaceSegments, stem, ?_, ?_⟩
  . rw [hpath, ProxyClass.pathPieces_relativePath hwell, hstem]
  . intro name hname
    rw [List.mem_append, List.mem_singleton] at hname
    rcases hname with hname | rfl
    . exact c.target.isIdentifier_of_mem_directories hwell.namespaceSegments name hname
    . exact hidentifier

theorem backslash_not_mem_of_mem_pathPieces (h : c.generate d = .ok source)
    : ∀ piece ∈ pathPieces source.path, '\\' ∉ piece.toList := by
  rcases exists_pathPieces_of_generate h with ⟨directories, stem, hpieces, hidentifiers⟩
  intro piece hpiece
  rw [hpieces, List.mem_append, List.mem_singleton] at hpiece
  rcases hpiece with hpiece | rfl
  . exact not_mem_of_isIdentifier (hidentifiers piece (by simp [hpiece])) rfl
  . have hstem : '\\' ∉ stem.toList := not_mem_of_isIdentifier (hidentifiers stem (by simp)) rfl
    cases c.target with
    | php => simpa [Target.fileExtension] using hstem
    | rust => simpa [Target.fileExtension] using hstem

theorem startsWith_path_of_generate (h : c.generate d = .ok source)
    : source.path.startsWith "/" = false := by
  rcases exists_relativePath_of_generate h with ⟨proxy, hwell, hpath⟩
  rw [hpath, ProxyClass.startsWith_relativePath hwell]

theorem exists_path_eq_of_generate (h : c.generate d = .ok source)
    : ∃ directories stem,
      source.path = Text.join "/" (directories ++ [stem ++ "." ++ c.target.fileExtension])
        ∧
      pathPieces source.path = directories ++ [stem ++ "." ++ c.target.fileExtension]
        ∧
      ∀ name ∈ directories ++ [stem], name ≠ "" ∧ ∀ a ∈ name.toList, a.isAlphanum ∨ a = '_' := by
  rcases exists_pathPieces_of_generate h with ⟨directories, stem, hpieces, hidentifiers⟩
  refine ⟨directories, stem, by rw [← hpieces, join_pathPieces], hpieces, ?_⟩
  intro name hname
  have hidentifier := hidentifiers name hname
  refine ⟨ne_empty_of_isIdentifier hidentifier, ?_⟩
  intro a ha
  simpa [isIdentifierPart] using isIdentifierPart_of_mem hidentifier a ha

theorem pathPieces_lead_downwards (h : c.generate d = .ok source)
    : ∀ piece ∈ pathPieces source.path,
      piece ≠ "" ∧ piece ≠ "." ∧ piece ≠ ".." ∧ '/' ∉ piece.toList ∧ '\\' ∉ piece.toList := by
  intro piece hpiece
  have hbackslash := backslash_not_mem_of_mem_pathPieces h piece hpiece
  rcases exists_relativePath_of_generate h with ⟨proxy, hwell, hpath⟩
  rw [hpath, ProxyClass.pathPieces_relativePath hwell] at hpiece
  have hpieces := ProxyClass.isPiece_of_mem hwell c.target piece hpiece
  have hdots := ProxyClass.ne_dots_of_mem hwell c.target piece hpiece
  exact ⟨hpieces.ne_empty, hdots.left, hdots.right, hpieces.not_mem, hbackslash⟩

/-- Names that lead on from a directory. -/
def Below (directory names : List String) : Prop :=
  directory <+: names ∧ directory ≠ names

theorem below_append {directory rest : List String} (h : rest ≠ [])
    : Below directory (directory ++ rest) := by
  refine ⟨List.prefix_append directory rest, ?_⟩
  simpa using h

theorem below_of_locate {t : FileTree} {directory path : String} {names : List String}
    (hup : ¬leadsUpwards directory) (hrelative : path.startsWith "/" = false)
    (hdown : ".." ∉ pathNames path) (hne : pathNames path ≠ [])
    (h : t.locate (appendPath directory path) = .ok names)
    : Below (t.start directory ++ pathNames directory) names := by
  have hstart : t.start (appendPath directory path) = t.start directory := by
    rw [FileTree.start, FileTree.start, startsWith_appendPath directory hrelative]
  have hboth : ¬leadsUpwards (appendPath directory path) := by
    rw [leadsUpwards_iff] at *
    rw [pathNames_appendPath directory hrelative, List.mem_append, not_or]
    exact ⟨hup, hdown⟩
  rw [FileTree.locate_eq_ok hboth h, hstart, pathNames_appendPath directory hrelative]
  rw [← List.append_assoc]
  exact below_append hne

theorem Source.below_of_locate (h : c.generate d = .ok source) {t : FileTree} {directory : String}
    {names : List String} (hup : ¬leadsUpwards directory)
    (hlocate : t.locate (source.pathIn directory) = .ok names)
    : Below (t.start directory ++ pathNames directory) names := by
  rcases exists_relativePath_of_generate h with ⟨proxy, hwell, hpath⟩
  apply LazyProxy.below_of_locate hup (startsWith_path_of_generate h) _ _ hlocate
  . rw [hpath]
    exact ProxyClass.not_mem_pathNames_relativePath hwell c.target
  . rw [hpath, ProxyClass.pathNames_relativePath hwell]
    simp

namespace Cli

/-- The path of a generated source is relative. Its pieces are identifiers, but for the extension of
the last one, so none is empty or leads elsewhere. Hence, if a directory is accepted, all that is
written to it goes to files below it. -/
theorem output_confined (c : Config) (ss : List Source) (h : ∀ s ∈ ss, ∃ d, c.generate d = .ok s)
    : (∀ s ∈ ss,
        s.path.startsWith "/" = false
          ∧
        (∃ directories stem,
          s.path = Text.join "/" (directories ++ [stem ++ "." ++ c.target.fileExtension])
            ∧
          pathPieces s.path = directories ++ [stem ++ "." ++ c.target.fileExtension]
            ∧
          ∀ name ∈ directories ++ [stem], name ≠ "" ∧ ∀ a ∈ name.toList, a.isAlphanum ∨ a = '_')
          ∧
        ∀ piece ∈ pathPieces s.path,
          piece ≠ "" ∧ piece ≠ "." ∧ piece ≠ ".." ∧ '/' ∉ piece.toList ∧ '\\' ∉ piece.toList)
        ∧
      ∀ directory, ¬leadsUpwards directory → ∀ t : FileTree,
        (∀ s ∈ ss, ∀ names, t.locate (s.pathIn directory) = .ok names →
          Below (t.start directory ++ pathNames directory) names)
          ∧
        ∀ check, FileTree.Frame { names | Below (t.start directory ++ pathNames directory) names } t
          ((deliver (.directory directory check) ss : StateM FileTree Report) t).2 := by
  constructor
  . intro s hs
    rcases h s hs with ⟨d, hd⟩
    exact ⟨startsWith_path_of_generate hd, exists_path_eq_of_generate hd,
      pathPieces_lead_downwards hd⟩
  . intro directory hup t
    have hbelow : ∀ s ∈ ss, ∀ u : FileTree, u.home = t.home → ∀ names,
        u.locate (s.pathIn directory) = .ok names →
        names ∈ { names | Below (t.start directory ++ pathNames directory) names } := by
      intro s hs u hu names hlocate
      rcases h s hs with ⟨d, hd⟩
      have hnames := Source.below_of_locate hd hup hlocate
      rwa [FileTree.start, hu] at hnames
    refine ⟨?_, ?_⟩
    . intro s hs names hlocate
      exact hbelow s hs t rfl names hlocate
    . intro check
      exact changesOnly_deliver check hbelow t rfl

/-- A type whose name is made of underscores only. -/
def underscores : Descriptor :=
  ⟨{ name := ⟨["crate", "Crate", "__"]⟩ }, []⟩

theorem output_confined_underscores
    : ∃ source, ({ target := .rust } : Config).generate underscores = .ok source
        ∧
      source.path = "crate/_proxy/__.rs" ∧ ".." ∉ pathPieces source.path
        ∧
      ∀ t : FileTree, FileTree.Frame { names | Below (t.start "./gen" ++ ["gen"]) names } t
        ((deliver (.directory "./gen" false) [source] : StateM FileTree Report) t).2 := by
  have hpath : (({ target := .rust } : Config).generate underscores).map Source.path
      = .ok "crate/_proxy/__.rs" := by
    decide +kernel
  have hnames : pathNames "./gen" = ["gen"] := by decide
  have hup : ¬leadsUpwards "./gen" := by decide
  rcases map_eq_ok_iff.mp hpath with ⟨source, hsource, hpath⟩
  have hconfined := output_confined { target := .rust } [source] (by
    rw [List.forall_mem_singleton]
    exact ⟨underscores, hsource⟩)
  refine ⟨source, hsource, hpath, ?_, ?_⟩
  . intro hmem
    exact ((hconfined.left source (by simp)).right.right _ hmem).right.right.left rfl
  . intro t
    have hframe := (hconfined.right "./gen" hup t).right false
    rwa [hnames] at hframe

end Cli

end LazyProxy
