import LazyProxy.Files.Path
import LazyProxy.Proofs.Text.Join

/-!
This module contains that a path put together from pieces still shows them.
-/

namespace LazyProxy

open Text

/-- A name in a directory: it is not empty and leads nowhere else. -/
structure IsPiece (piece : String) : Prop where
  ne_empty : piece ≠ ""
  not_mem : '/' ∉ piece.toList

theorem IsPiece.startsWith_eq_false {piece : String} (h : IsPiece piece)
    : piece.startsWith "/" = false := by
  rw [String.startsWith_string_eq_false_iff]
  intro hstart
  exact h.not_mem (hstart.subset (by simp))

theorem pathPieces_of_isPiece {piece : String} (h : IsPiece piece) : pathPieces piece = [piece] := by
  simp [pathPieces, splitWhen_of_not_mem h.not_mem]

theorem IsPiece.getLast?_toList_append {piece : String} (h : IsPiece piece) (path : String)
    : (path ++ piece).toList.getLast? ≠ some '/' := by
  have hne : piece.toList ≠ [] := by
    simpa using h.ne_empty
  rw [String.toList_append, List.getLast?_append, List.getLast?_eq_some_getLast hne]
  intro hlast
  simp only [Option.some_or, Option.some.injEq] at hlast
  apply h.not_mem
  rw [← hlast]
  exact List.getLast_mem hne

theorem appendPath_empty {piece : String} : appendPath "" piece = piece := by
  simp [appendPath]

theorem appendPath_eq {path piece : String} (hne : path ≠ "")
    (hlast : path.toList.getLast? ≠ some '/') (h : IsPiece piece)
    : appendPath path piece = path ++ "/" ++ piece := by
  have hends : path.endsWith "/" = false := by
    rw [Bool.eq_false_iff]
    intro hends
    rw [String.endsWith, String.Slice.endsWith_string_iff, String.copy_toSlice] at hends
    rcases hends with ⟨front, hfront⟩
    rw [← hfront] at hlast
    simp at hlast
  simp [appendPath, h.startsWith_eq_false, hne, hends]

theorem join_pathPieces (path : String) : Text.join "/" (pathPieces path) = path := by
  apply String.toList_injective
  rw [Text.join, String.toList_intercalate, pathPieces, List.map_map]
  have hid : (splitWhen (· == '/') path.toList).map (String.toList ∘ String.ofList)
      = splitWhen (· == '/') path.toList := by
    simp [Function.comp_def]
  rw [hid]
  exact intercalate_splitWhen '/' path.toList

theorem pathPieces_append (path rest : String)
    : pathPieces (path ++ "/" ++ rest) = pathPieces path ++ pathPieces rest := by
  unfold pathPieces
  have hslash : "/".toList = ['/'] := rfl
  rw [String.toList_append, String.toList_append, hslash, List.append_assoc, List.singleton_append]
  rw [splitWhen_append_cons (by rfl), List.map_append]

theorem pathPieces_foldl_appendPath {path : String} {pieces : List String} (hne : path ≠ "")
    (hlast : path.toList.getLast? ≠ some '/') (h : ∀ piece ∈ pieces, IsPiece piece)
    : pathPieces (pieces.foldl appendPath path) = pathPieces path ++ pieces := by
  induction pieces generalizing path with
  | nil => simp
  | cons p ps ih =>
    have hp := h p (by simp)
    rw [List.foldl_cons, appendPath_eq hne hlast hp, ih]
    . rw [pathPieces_append, pathPieces_of_isPiece hp, List.append_assoc, List.singleton_append]
    . simp [hne]
    . exact hp.getLast?_toList_append _
    . intro q hq
      exact h q (List.mem_cons_of_mem _ hq)

theorem pathPieces_foldl_appendPath_empty {pieces : List String} (hne : pieces ≠ [])
    (h : ∀ piece ∈ pieces, IsPiece piece)
    : pathPieces (pieces.foldl appendPath "") = pieces := by
  cases pieces with
  | nil => contradiction
  | cons p ps =>
    have hp := h p (by simp)
    rw [List.foldl_cons, appendPath_empty, pathPieces_foldl_appendPath hp.ne_empty]
    . rw [pathPieces_of_isPiece hp]
      rfl
    . simpa using hp.getLast?_toList_append ""
    . intro q hq
      exact h q (List.mem_cons_of_mem _ hq)

theorem startsWith_slash_iff (path : String)
    : path.startsWith "/" ↔ path.toList.head? = some '/' := by
  rw [String.startsWith_string_iff]
  cases path.toList with
  | nil => simp
  | cons c cs => simp [eq_comm]

theorem eq_append_of_endsWith_slash {path : String} (h : path.endsWith "/")
    : ∃ front, path = front ++ "/" := by
  rw [String.endsWith, String.Slice.endsWith_string_iff, String.copy_toSlice] at h
  rcases h with ⟨front, hfront⟩
  refine ⟨String.ofList front, ?_⟩
  apply String.toList_injective
  simp [← hfront]

theorem appendPath_cases (path : String) {rest : String} (h : rest.startsWith "/" = false)
    : (path = "" ∧ appendPath path rest = rest)
        ∨
      (path ≠ "" ∧ ∃ front, appendPath path rest = front ++ "/" ++ rest
        ∧ (path = front ∨ path = front ++ "/")) := by
  unfold appendPath
  simp only [h, Bool.false_or, decide_eq_true_eq]
  split
  . next hempty => exact Or.inl ⟨hempty, rfl⟩
  . next hempty =>
    split
    . next hends =>
      rcases eq_append_of_endsWith_slash hends with ⟨front, rfl⟩
      exact Or.inr ⟨hempty, front, rfl, Or.inr rfl⟩
    . exact Or.inr ⟨hempty, path, rfl, Or.inl rfl⟩

theorem startsWith_appendPath (path : String) {rest : String} (h : rest.startsWith "/" = false)
    : (appendPath path rest).startsWith "/" = path.startsWith "/" := by
  rcases appendPath_cases path h with ⟨rfl, hpath⟩ | ⟨hempty, front, hpath, rfl | rfl⟩
  . rw [hpath, h]
    rfl
  . rw [Bool.eq_iff_iff, startsWith_slash_iff, startsWith_slash_iff, hpath]
    have hlist : path.toList ≠ [] := by simpa using hempty
    simp [List.head?_eq_some_head hlist]
  . rw [Bool.eq_iff_iff, startsWith_slash_iff, startsWith_slash_iff, hpath]
    simp

/-- The names that a path leads to if it never leads upwards. -/
def pathNames (path : String) : List String :=
  (pathPieces path).filter (!isStill ·)

theorem leadsUpwards_iff (path : String) : leadsUpwards path ↔ ".." ∈ pathNames path := by
  simp [leadsUpwards, pathNames, isStill]

theorem pathNames_append (path rest : String)
    : pathNames (path ++ "/" ++ rest) = pathNames path ++ pathNames rest := by
  simp only [pathNames, pathPieces_append, List.filter_append]

theorem pathNames_append_slash (path : String) : pathNames (path ++ "/") = pathNames path := by
  have := pathNames_append path ""
  rw [String.append_empty] at this
  rw [this]
  simp [pathNames, pathPieces, splitWhen, isStill]

theorem pathNames_appendPath (path : String) {rest : String} (h : rest.startsWith "/" = false)
    : pathNames (appendPath path rest) = pathNames path ++ pathNames rest := by
  rcases appendPath_cases path h with ⟨rfl, hpath⟩ | ⟨-, front, hpath, rfl | rfl⟩
  . rw [hpath]
    simp [pathNames, pathPieces, splitWhen, isStill]
  . rw [hpath, pathNames_append]
  . rw [hpath, pathNames_append, pathNames_append_slash]

end LazyProxy
