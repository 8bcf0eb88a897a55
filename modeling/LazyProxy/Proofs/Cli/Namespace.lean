import LazyProxy.Proofs.Cli.Effects
import LazyProxy.Proofs.Target.Agreement
import LazyProxy.Proofs.Target.Header
import LazyProxy.Proofs.Target.Isolation

/-!
This module contains that all that is said about the place of a proxy says the same: the names that
come with its source, the code and the path of its file, and what is printed for its type.
-/

namespace LazyProxy

namespace Config

variable {c : Config} {d : Descriptor} {source : Source}

theorem namespaceName_eq (c : Config) (d : Descriptor)
    : c.namespaceName d c.withName = Text.join c.target.separator (c.proxySegments d.name) := by
  rfl

theorem namespaceName_congr {c' : Config} (htarget : c'.target = c.target)
    (hsegment : c'.effectiveSegment = c.effectiveSegment) (hwithName : c'.withName = c.withName)
    : c'.namespaceName d c'.withName = c.namespaceName d c.withName := by
  rw [namespaceName, namespaceName, htarget, hsegment, hwithName]

theorem proxySegments_ne_nil (c : Config) (n : QualifiedName) : c.proxySegments n ≠ [] := by
  simp [proxySegments]

theorem className_eq_join (c : Config) (d : Descriptor)
    : c.className d
        =
      Text.join c.target.separator (c.proxySegments d.name ++ [d.name.shortName]) := by
  rw [className, namespaceName_eq, Text.join_append_singleton (c.proxySegments_ne_nil d.name)]

theorem names_of_generate (h : c.generate d = .ok source)
    : source.namespaceName = c.namespaceName d c.withName ∧ source.className = c.className d := by
  rcases generate_eq_ok h with ⟨proxy, hmodel, -, hnamespace, hclass, -⟩
  rcases wellNamed_of_model hmodel with ⟨-, hsegments, hshort⟩
  constructor
  . rw [hnamespace, hsegments, namespaceName_eq]
  . rw [hclass, QualifiedName.join, ProxyClass.qualifiedName, hsegments, hshort, className_eq_join]

end Config

namespace Php

/-- A path with a backslash in the place of each slash. -/
def backslashes (path : String) : String :=
  path.map fun a => if a = '/' then '\\' else a

theorem backslashes_of_not_mem {piece : String} (h : '/' ∉ piece.toList)
    : backslashes piece = piece := by
  apply String.toList_injective
  rw [backslashes, String.toList_map]
  apply (List.map_congr_left _).trans (List.map_id _)
  intro a ha
  rw [if_neg, id]
  rintro rfl
  exact h ha

theorem backslashes_join {pieces : List String} (h : ∀ piece ∈ pieces, '/' ∉ piece.toList)
    : backslashes (Text.join "/" pieces) = Text.join "\\" pieces := by
  have hpieces : pieces.map backslashes = pieces := by
    apply (List.map_congr_left _).trans (List.map_id _)
    intro piece hpiece
    exact backslashes_of_not_mem (h piece hpiece)
  have hseparator : backslashes "/" = "\\" := by decide +kernel
  unfold backslashes at *
  rw [Text.map_join, hseparator, hpieces]

variable {c : Config} {d : Descriptor} {source : Source}

theorem backslashes_path_of_generate (hphp : c.target = .php) (h : c.generate d = .ok source)
    : backslashes source.path = source.className ++ ".php" := by
  rcases Config.generate_eq_ok h with ⟨proxy, hmodel, -, -, hclass, hpath⟩
  rcases Config.wellNamed_of_model hmodel with ⟨hwell, hsegments, -⟩
  have hne : proxy.namespaceSegments ≠ [] := hsegments ▸ c.proxySegments_ne_nil d.name
  have hpieces := ProxyClass.pathPieces_relativePath hwell .php
  have hslash : ∀ piece ∈ pathPieces source.path, '/' ∉ piece.toList := by
    rw [hpath, hphp, hpieces]
    exact fun piece hpiece => (ProxyClass.isPiece_of_mem hwell .php piece hpiece).not_mem
  calc
    backslashes source.path
      = backslashes (Text.join "/" (pathPieces source.path)) := by rw [join_pathPieces]
    _ = Text.join "\\" (proxy.namespaceSegments ++ [proxy.name ++ ".php"]) := by
      rw [backslashes_join hslash, hpath, hphp, hpieces, Target.directories_php, Target.fileName_php]
    _ = Text.join "\\" proxy.qualifiedName.segments ++ ".php" := by
      rw [ProxyClass.qualifiedName, Text.join_append_singleton hne, Text.join_append_singleton hne,
        ← String.append_assoc]
    _ = source.className ++ ".php" := by
      rw [hclass, hphp]
      rfl

theorem lines_of_generate (hphp : c.target = .php) (h : c.generate d = .ok source)
    : (cutLines source.code).take 4
          = ["<?php", "", "namespace " ++ source.namespaceName ++ ";", ""]
        ∧
      (cutLines source.code).filter (·.startsWith "namespace ")
          = ["namespace " ++ source.namespaceName ++ ";"] := by
  rcases Config.generate_eq_ok h with ⟨proxy, hmodel, hrender, hnamespace, -, -⟩
  have hreadable := readable_of_model hmodel
  rw [hphp] at hrender hnamespace
  rw [hnamespace]
  refine ⟨?_, filter_startsWith_namespace hreadable hrender⟩
  rw [render_eq_ok hrender, cutLines_classSteps hreadable]
  rfl

end Php

theorem Rust.comment_of_generate {c : Config} {d : Descriptor} {source : Source}
    (hrust : c.target = .rust) (h : c.generate d = .ok source)
    : (cutLines source.code).takeWhile (·.startsWith "//")
        =
      headerLines c.banner source.namespaceName := by
  rcases exists_items_of_generate hrust h with ⟨proxy, is, read, hmodel, -, -, hcode⟩
  rcases Config.wellNamed_of_model hmodel with ⟨hwell, hsegments, -⟩
  have hnamespace : source.namespaceName = Text.join "::" proxy.namespaceSegments := by
    rw [(Config.names_of_generate h).left, Config.namespaceName_eq, hsegments, hrust]
    rfl
  have hnewline : '\n' ∉ source.namespaceName.toList := by
    rw [hnamespace]
    intro hmem
    rcases Text.mem_of_mem_join hmem with hmem | ⟨s, hs, hmem⟩
    . exact absurd hmem (by decide)
    . exact not_mem_of_isIdentifier (hwell.namespaceSegments s hs) rfl hmem
  have hne : source.namespaceName ≠ "" := by
    rw [hnamespace]
    apply Target.rust.join_ne_empty hwell.namespaceSegments
    rw [hsegments]
    exact c.proxySegments_ne_nil d.name
  rw [hcode, ← hnamespace, takeWhile_cutLines_header c.banner hne hnewline]

namespace Cli

theorem run_proxyNamespace {manifest typeName : String} {c : Config} {t : FileTree} {r : Registry}
    {d : Descriptor} (hr : Loads manifest t r) (hd : r.resolve typeName = .ok d)
    : ((Command.proxyNamespace manifest typeName c).execute : StateM FileTree Report) t
        =
      ({ output := c.namespaceName d c.withName ++ "\n" }, t) := by
  rw [Command.execute, run_withRegistry_of_loads hr, namespaceText, resolve, hd]
  rfl

/-- A source has the namespace and the class that are computed for its type, the class is the short
name below the namespace, and the namespace is what is printed for the type. In PHP the file opens
with a declaration of this namespace, no further line starts one, and the path leads where the
class's name says. In Rust the comment at the top of the file ends with the namespace. -/
theorem locations_agree (c : Config) (d : Descriptor) (source : Source)
    (h : c.generate d = .ok source)
    : source.namespaceName = c.namespaceName d c.withName
        ∧
      source.className = c.className d
        ∧
      source.className = source.namespaceName ++ c.target.separator ++ d.name.shortName
        ∧
      (∀ (c' : Config) (manifest typeName : String) (t : FileTree) (r : Registry),
        c'.target = c.target → c'.effectiveSegment = c.effectiveSegment → c'.withName = c.withName →
        Loads manifest t r → r.resolve typeName = .ok d →
        ((Command.proxyNamespace manifest typeName c').execute : StateM FileTree Report) t
          = ({ output := source.namespaceName ++ "\n" }, t))
        ∧
      (c.target = .php →
        (cutLines source.code).take 4
            = ["<?php", "", "namespace " ++ source.namespaceName ++ ";", ""]
          ∧
        (cutLines source.code).filter (·.startsWith "namespace ")
            = ["namespace " ++ source.namespaceName ++ ";"]
          ∧
        Php.backslashes source.path = source.className ++ ".php")
        ∧
      (c.target = .rust →
        ((cutLines source.code).takeWhile (·.startsWith "//")).getLast?
          = some ("// Module: " ++ source.namespaceName)) := by
  rcases Config.names_of_generate h with ⟨hnamespace, hclass⟩
  refine ⟨hnamespace, hclass, ?_, ?_, ?_, ?_⟩
  . rw [hclass, hnamespace]
    rfl
  . intro c' manifest typeName t r htarget hsegment hwithName hr hd
    rw [run_proxyNamespace hr hd, Config.namespaceName_congr htarget hsegment hwithName, hnamespace]
  . intro hphp
    rcases Php.lines_of_generate hphp h with ⟨hfront, hdeclarations⟩
    exact ⟨hfront, hdeclarations, Php.backslashes_path_of_generate hphp h⟩
  . intro hrust
    rw [Rust.comment_of_generate hrust h, Rust.headerLines, List.getLast?_concat]

/-- A type in the namespace that Rust knows as its crate. -/
def crateArticle : Descriptor :=
  ⟨{ name := ⟨["crate", "Article"]⟩ }, []⟩

def crateManifest : String :=
  "\x7b\"types\":[\x7b\"name\":\"crate::Article\"\x7d]\x7d"

def crateFiles : FileTree where
  files := [(["types.json"], .text crateManifest)]

theorem loads_crateFiles
    : Loads "types.json" crateFiles (.ofList [{ name := "crate::Article" }]) := by
  have hsize : crateFiles.fileSize "types.json" = .ok crateManifest.utf8ByteSize := by
    decide +kernel
  have htext : crateFiles.readText "types.json" = .ok crateManifest := by
    decide +kernel
  apply loads_of_declarations hsize _ htext
  . decide +kernel
  . decide

theorem locations_agree_crateArticle
    : (∃ php, ({ withName := true } : Config).generate crateArticle = .ok php
          ∧
        php.className = "crate\\_Proxy\\Article\\Article"
          ∧
        (cutLines php.code).filter (·.startsWith "namespace ")
          = ["namespace crate\\_Proxy\\Article;"]
          ∧
        Php.backslashes php.path = php.className ++ ".php"
          ∧
        ((Command.proxyNamespace "types.json" "crate\\Article"
          { segment := some "_Proxy", withName := true, banner := "" }).execute :
            StateM FileTree Report) crateFiles
          = ({ output := "crate\\_Proxy\\Article\n" }, crateFiles))
        ∧
      ∃ rust, ({ target := .rust } : Config).generate crateArticle = .ok rust
          ∧
        ((cutLines rust.code).takeWhile (·.startsWith "//")).getLast?
          = some "// Module: crate::_proxy" := by
  have hresolve : (Registry.ofList [{ name := "crate::Article" }]).resolve "crate\\Article"
      = .ok crateArticle := by
    decide +kernel
  constructor
  . have hnames : (({ withName := true } : Config).generate crateArticle).map
        (fun s => (s.namespaceName, s.className))
        = .ok ("crate\\_Proxy\\Article", "crate\\_Proxy\\Article\\Article") := by decide
    rcases map_eq_ok_iff.mp hnames with ⟨php, hphp, hnames⟩
    rw [Prod.mk.injEq] at hnames
    rcases locations_agree _ _ _ hphp with ⟨-, -, -, hcommand, hcode, -⟩
    rcases hcode rfl with ⟨-, hdeclarations, hpath⟩
    have hprinted := hcommand { segment := some "_Proxy", withName := true, banner := "" } _ _ _ _
      rfl rfl rfl loads_crateFiles hresolve
    rw [hnames.left] at hdeclarations hprinted
    exact ⟨php, hphp, hnames.right, hdeclarations, hpath, hprinted⟩
  . have hname : (({ target := .rust } : Config).generate crateArticle).map Source.namespaceName
        = .ok "crate::_proxy" := by
      decide +kernel
    rcases map_eq_ok_iff.mp hname with ⟨rust, hrust, hname⟩
    have hcomment := (locations_agree _ _ _ hrust).right.right.right.right.right rfl
    rw [hname] at hcomment
    exact ⟨rust, hrust, hcomment⟩

end Cli

end LazyProxy
