import LazyProxy.Proofs.Files.Path
import LazyProxy.Proofs.Naming.SnakeCase
import LazyProxy.Target.Location

/-!
This module contains what the path of a proxy's file still says about the proxy. In PHP it is all of
its name, in Rust case and leading crates are lost.
-/

namespace LazyProxy

open Text

/-- A proxy whose namespace and name are identifiers. -/
structure ProxyClass.WellNamed (c : ProxyClass) : Prop where
  namespaceSegments : ∀ s ∈ c.namespaceSegments, isIdentifier s
  name : isIdentifier c.name

theorem slash_not_mem {name : String} (h : ∀ c ∈ name.toList, isIdentifierPart c)
    : '/' ∉ name.toList := by
  intro hslash
  exact absurd (h _ hslash) (by decide)

theorem isPiece_of_isIdentifier {name : String} (h : isIdentifier name) : IsPiece name := by
  constructor
  . exact ne_empty_of_isIdentifier h
  . exact slash_not_mem (isIdentifierPart_of_mem h)

namespace Target

theorem directories_php (segments : List String) : php.directories segments = segments := by
  rfl

theorem directories_rust {segments : List String} (h : ∀ s ∈ segments, isIdentifier s)
    : rust.directories segments = (segments.dropWhile (· == "crate")).map foldCase := by
  unfold directories
  apply List.map_congr_left
  intro s hs
  have hs := h s ((List.dropWhile_suffix _).subset hs)
  rw [lower_eq_map (isAscii_of_isIdentifier hs)]
  rfl

theorem isIdentifier_of_mem_directories (t : Target) {segments : List String}
    (h : ∀ s ∈ segments, isIdentifier s)
    : ∀ piece ∈ t.directories segments, isIdentifier piece := by
  intro piece hpiece
  cases t with
  | php =>
    rw [directories_php] at hpiece
    exact h piece hpiece
  | rust =>
    rw [directories_rust h, List.mem_map] at hpiece
    rcases hpiece with ⟨s, hs, rfl⟩
    exact isIdentifier_foldCase (h s ((List.dropWhile_suffix _).subset hs))

theorem isPiece_of_mem_directories (t : Target) {segments : List String}
    (h : ∀ s ∈ segments, isIdentifier s)
    : ∀ piece ∈ t.directories segments, IsPiece piece := by
  intro piece hpiece
  exact isPiece_of_isIdentifier (t.isIdentifier_of_mem_directories h piece hpiece)

theorem dot_not_mem_directories (t : Target) {segments : List String}
    (h : ∀ s ∈ segments, isIdentifier s)
    : ∀ piece ∈ t.directories segments, '.' ∉ piece.toList := by
  intro piece hpiece hdot
  have hpart := isIdentifierPart_of_mem (t.isIdentifier_of_mem_directories h piece hpiece) _ hdot
  contradiction

theorem fileName_ne_dots (t : Target) (className : String)
    : t.fileName className ≠ "." ∧ t.fileName className ≠ ".." := by
  -- The extension ends in a letter.
  have hlast : (t.fileName className).toList.getLast? ≠ some '.' := by
    cases t with
    | php => simp [fileName, fileExtension]
    | rust => simp [fileName, fileExtension]
  constructor
  . intro h
    rw [h] at hlast
    contradiction
  . intro h
    rw [h] at hlast
    contradiction

theorem fileName_php (className : String) : php.fileName className = className ++ ".php" := by
  rw [fileName, String.append_assoc]
  rfl

theorem fileName_php_eq_iff (a b : String) : php.fileName a = php.fileName b ↔ a = b := by
  simp only [fileName, String.append_left_inj]

theorem fileName_rust_eq_iff (a b : String)
    : rust.fileName a = rust.fileName b ↔ snakeCase a = snakeCase b := by
  simp only [fileName, String.append_left_inj]

theorem isPiece_fileName (t : Target) {className : String} (h : isIdentifier className)
    : IsPiece (t.fileName className) := by
  have hparts := isIdentifierPart_of_mem h
  cases t with
  | php =>
    have hslash := slash_not_mem hparts
    constructor
    . simp [fileName]
    . simpa [fileName, fileExtension] using hslash
  | rust =>
    have hslash := slash_not_mem (isIdentifierPart_of_mem_snakeCase hparts)
    constructor
    . simp [fileName]
    . simpa [fileName, fileExtension] using hslash

end Target

namespace ProxyClass

variable {a b : ProxyClass}

theorem isPiece_of_mem (h : a.WellNamed) (t : Target)
    : ∀ piece ∈ t.directories a.namespaceSegments ++ [t.fileName a.name], IsPiece piece := by
  intro piece hpiece
  rw [List.mem_append, List.mem_singleton] at hpiece
  cases hpiece with
  | inl hpiece => exact t.isPiece_of_mem_directories h.namespaceSegments piece hpiece
  | inr hpiece =>
    subst hpiece
    exact t.isPiece_fileName h.name

theorem ne_dots_of_mem (h : a.WellNamed) (t : Target)
    : ∀ piece ∈ t.directories a.namespaceSegments ++ [t.fileName a.name],
        piece ≠ "." ∧ piece ≠ ".." := by
  intro piece hpiece
  rw [List.mem_append, List.mem_singleton] at hpiece
  cases hpiece with
  | inl hpiece =>
    have hdot := t.dot_not_mem_directories h.namespaceSegments piece hpiece
    constructor
    . rintro rfl
      exact hdot (by decide)
    . rintro rfl
      exact hdot (by decide)
  | inr hpiece =>
    subst hpiece
    exact t.fileName_ne_dots a.name

theorem pathPieces_relativePath (h : a.WellNamed) (t : Target)
    : pathPieces (a.relativePath t)
        =
      t.directories a.namespaceSegments ++ [t.fileName a.name] := by
  unfold relativePath
  apply pathPieces_foldl_appendPath_empty
  . simp
  . exact isPiece_of_mem h t

theorem startsWith_relativePath (h : a.WellNamed) (t : Target)
    : (a.relativePath t).startsWith "/" = false := by
  rw [Bool.eq_false_iff, Ne, startsWith_slash_iff]
  intro hslash
  have hpieces := pathPieces_relativePath h t
  cases hpath : (a.relativePath t).toList with
  | nil => simp [hpath] at hslash
  | cons c cs =>
    rw [hpath, List.head?_cons, Option.some.injEq] at hslash
    -- What stands before the slash would be an empty piece.
    have hempty : "" ∈ pathPieces (a.relativePath t) := by
      simp [pathPieces, hpath, hslash, splitWhen]
    rw [hpieces] at hempty
    exact (isPiece_of_mem h t _ hempty).ne_empty rfl

theorem pathNames_relativePath (h : a.WellNamed) (t : Target)
    : pathNames (a.relativePath t)
        =
      t.directories a.namespaceSegments ++ [t.fileName a.name] := by
  rw [pathNames, pathPieces_relativePath h, List.filter_eq_self]
  intro piece hpiece
  simp [isStill, (isPiece_of_mem h t piece hpiece).ne_empty, ne_dots_of_mem h t piece hpiece]

theorem not_mem_pathNames_relativePath (h : a.WellNamed) (t : Target)
    : ".." ∉ pathNames (a.relativePath t) := by
  rw [pathNames_relativePath h]
  intro hup
  exact (ne_dots_of_mem h t _ hup).right rfl

theorem relativePath_eq_iff (ha : a.WellNamed) (hb : b.WellNamed) (t : Target)
    : a.relativePath t = b.relativePath t
        ↔
      t.directories a.namespaceSegments = t.directories b.namespaceSegments
        ∧ t.fileName a.name = t.fileName b.name := by
  constructor
  . intro h
    -- Both names can be read back from the pieces of the path.
    have hpieces := congrArg pathPieces h
    rw [pathPieces_relativePath ha, pathPieces_relativePath hb] at hpieces
    exact List.append_singleton_inj.mp hpieces
  . rintro ⟨hdirectories, hfile⟩
    rw [relativePath, relativePath, hdirectories, hfile]

theorem relativePath_php_eq_iff (ha : a.WellNamed) (hb : b.WellNamed)
    : a.relativePath .php = b.relativePath .php
        ↔
      a.qualifiedName = b.qualifiedName := by
  rw [relativePath_eq_iff ha hb, Target.fileName_php_eq_iff]
  simp only [Target.directories_php, qualifiedName, QualifiedName.mk.injEq]
  exact List.append_singleton_inj.symm

theorem relativePath_rust_eq_iff (ha : a.WellNamed) (hb : b.WellNamed)
    : a.relativePath .rust = b.relativePath .rust
        ↔
      (a.namespaceSegments.dropWhile (· == "crate")).map foldCase
          = (b.namespaceSegments.dropWhile (· == "crate")).map foldCase
        ∧ snakeCase a.name = snakeCase b.name := by
  rw [relativePath_eq_iff ha hb, Target.fileName_rust_eq_iff]
  rw [Target.directories_rust ha.namespaceSegments, Target.directories_rust hb.namespaceSegments]

end ProxyClass

end LazyProxy
