import LazyProxy.Proofs.Target.RustReading

/-!
This module contains which qualified names are paths in Rust: those of identifiers, of which none is a
reserved word but for the names of modules and types, and `try`.
-/

namespace LazyProxy.Rust

open Code

/-- Whether the path of these segments starts with a double colon. -/
def isRooted (segments : List String) : Bool :=
  !segments.head?.any ["crate", "self", "super"].contains

theorem pathText_eq (segments : List String)
    : pathText segments = (if isRooted segments then "::" else "") ++ Text.join "::" segments := by
  unfold pathText
  dsimp only
  split
  . next h => simp [isRooted, h]
  . next h => simp [isRooted, h]
  . next h => simp [isRooted, h]
  . next hcrate hself hsuper =>
    have hroot : isRooted segments = true := by
      cases hhead : segments.head? with
      | none => simp [isRooted, hhead]
      | some s => simp_all [isRooted]
    rw [hroot, if_pos rfl]

/-- The words that a segment cannot be are those that the error names. -/
theorem isSegment_plain (name : String)
    : (plain name).isSegment
        =
      !(reservedWords.contains name
        && !(["self", "Self", "super", "crate", "try"].contains name)) := by
  simp [Ident.isSegment, Ident.isName, plain]

theorem all_isSegment_iff (segments : List String)
    : (segments.map plain).all Ident.isSegment ↔ keywordIn? segments = none := by
  rw [keywordIn?, List.find?_eq_none, List.all_map, List.all_eq_true]
  simp only [Function.comp_apply, isSegment_plain, Bool.not_eq_true', Bool.not_eq_true]

theorem startsTy_isRooted {segments : List String} (hne : segments ≠ [])
    : startsTy (isRooted segments) (segments.map plain) := by
  rcases List.exists_cons_of_ne_nil hne with ⟨s, others, rfl⟩
  by_cases hs : s ∈ ["crate", "self", "super"]
  . simp only [List.mem_cons, List.not_mem_nil, or_false] at hs
    rcases hs with rfl | rfl | rfl
    . rfl
    . rfl
    . rfl
  . have hroot : isRooted (s :: others) = true := by simpa [isRooted] using hs
    rw [startsTy, hroot, Bool.true_or]

variable {n : QualifiedName} {p : Path}

theorem path_eq_ok_iff (hne : n.segments ≠ []) (h : ∀ s ∈ n.segments, isIdentifier s)
    : path n = .ok p
        ↔
      keywordIn? n.segments = none
        ∧
      p = .ofNames (isRooted n.segments) (n.segments.map plain) := by
  have hwritten : ∀ i ∈ n.segments.map plain, i.IsWritten := by
    rw [List.forall_mem_map]
    intro s hs
    exact Ident.isWritten_of_isIdentifier (h s hs)
  have htexts : (n.segments.map plain).map Ident.text = n.segments := by
    rw [List.map_map]
    exact List.map_id'' (fun s => rfl) n.segments
  have hnames : n.segments.map plain ≠ [] := by simpa using hne
  have hread := ofText?_ofNames hnames hwritten (isRooted n.segments)
  rw [htexts, ← pathText_eq] at hread
  rw [path, hread, ← all_isSegment_iff]
  cases (n.segments.map plain).all Ident.isSegment with
  | true => simp [eq_comm]
  | false => simp

theorem isNamed_of_path (hne : n.segments ≠ []) (h : ∀ s ∈ n.segments, isIdentifier s)
    (hp : path n = .ok p)
    : p.IsNamed := by
  rw [path_eq_ok_iff hne h] at hp
  rcases hp with ⟨hkeyword, rfl⟩
  exact ⟨_, _, rfl, by simpa using hne, (all_isSegment_iff _).mpr hkeyword, startsTy_isRooted hne⟩

theorem isUnrawable_or_isRustKeyword_of_mem
    : ∀ word ∈ reservedWords, isUnrawable word ∨ isRustKeyword word := by
  decide

theorem isName_of_identifier {name : String} {i : Ident} (h : identifier name = .ok i) : i.isName := by
  unfold identifier at h
  split at h
  . contradiction
  . next hraw =>
    cases h
    cases hkeyword : isRustKeyword name with
    | true => rfl
    | false =>
      rw [Ident.isName, Bool.false_or, Bool.not_eq_true', Bool.eq_false_iff]
      intro hreserved
      rw [List.contains_iff_mem] at hreserved
      cases isUnrawable_or_isRustKeyword_of_mem name hreserved with
      | inl h => exact hraw h
      | inr h =>
        rw [hkeyword] at h
        contradiction

/-- The keywords that may stand in a path as they are. -/
def pathKeywords : List String :=
  ["crate", "super", "try", "gen"]

theorem keywordIn?_eq_none_iff {segments : List String}
    : keywordIn? segments = none
        ↔
      ∀ s ∈ segments, isRustKeyword s ∨ s = "_" → s ∈ pathKeywords := by
  have hkept : ∀ s ∈ rustKeywords ++ ["_"], s ∉ pathKeywords →
      reservedWords.contains s && !(["self", "Self", "super", "crate", "try"].contains s) := by
    decide
  have hrefused : ∀ s ∈ reservedWords, !(["self", "Self", "super", "crate", "try"].contains s) →
      s ∈ rustKeywords ++ ["_"] ∧ s ∉ pathKeywords := by
    decide
  rw [keywordIn?, List.find?_eq_none]
  refine forall₂_congr fun s hs => ?_
  have hword : (isRustKeyword s ∨ s = "_") ↔ s ∈ rustKeywords ++ ["_"] := by
    simp [isRustKeyword]
  rw [hword]
  constructor
  . intro hnone hkeyword
    exact Decidable.of_not_not fun hpath => hnone (hkept s hkeyword hpath)
  . intro hkeyword hrefuse
    rw [Bool.and_eq_true, List.contains_iff_mem] at hrefuse
    rcases hrefused s hrefuse.left hrefuse.right with ⟨hword, hpath⟩
    exact hpath (hkeyword hword)

/-- Paths have no raw names. Keywords stand in them as they are, if the name is a path at all. -/
theorem path_of_keywords (n : QualifiedName) (hne : n.segments ≠ [])
    (h : ∀ s ∈ n.segments, isIdentifier s)
    : path n
        =
      if ∀ s ∈ n.segments, isRustKeyword s ∨ s = "_" → s ∈ pathKeywords then
        .ok (.ofNames (isRooted n.segments) (n.segments.map plain))
      else .error (.invalidPath (pathText n.segments) (keywordIn? n.segments)) := by
  split
  . next hkeywords =>
    exact (path_eq_ok_iff hne h).mpr ⟨keywordIn?_eq_none_iff.mpr hkeywords, rfl⟩
  . next hkeywords =>
    rw [← keywordIn?_eq_none_iff] at hkeywords
    cases hpath : path n with
    | ok p => exact absurd ((path_eq_ok_iff hne h).mp hpath).left hkeywords
    | error e =>
      rw [path] at hpath
      split at hpath
      . contradiction
      . rw [← hpath]

/-- A module of a name that is a keyword only since the last edition. -/
def genArticle : QualifiedName :=
  ⟨["crate", "gen", "Article"]⟩

/-- A module whose name has been a keyword all along. -/
def typeArticle : QualifiedName :=
  ⟨["crate", "type", "Article"]⟩

theorem path_of_keywords_article
    : path genArticle = .ok (.ofNames false [plain "crate", plain "gen", plain "Article"])
        ∧
      path typeArticle = .error (.invalidPath "crate::type::Article" (some "type")) := by
  have hgen := path_of_keywords genArticle (by decide) (by decide)
  have htype := path_of_keywords typeArticle (by decide) (by decide)
  rw [if_pos (by decide)] at hgen
  rw [if_neg (by decide)] at htype
  exact ⟨hgen, htype⟩

/-- Not all keywords are written in the raw form that have one. -/
theorem keywords_not_raw
    : ¬∀ n : QualifiedName, n.segments ≠ [] → (∀ s ∈ n.segments, isIdentifier s ∧ s ≠ "_") →
        path n = .ok (.ofNames (isRooted n.segments)
          (n.segments.map fun s => ⟨s, isRustKeyword s && !isUnrawable s⟩)) := by
  intro hraw
  have hgen := hraw genArticle (by decide) (by decide)
  have hplain := ((path_eq_ok_iff (by decide) (by decide)).mp hgen).right
  simp [Path.ofNames, genArticle, plain, isRustKeyword, isUnrawable, rustKeywords,
    unrawableKeywords] at hplain

end LazyProxy.Rust
