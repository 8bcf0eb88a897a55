import Mathlib.Data.Set.Insert
import LazyProxy.Files.Tree
import LazyProxy.Proofs.Files.Path
import LazyProxy.Proofs.Outcome

/-!
This module contains what a change to one file leaves as it is: the other files, and the ways to
them.
-/

namespace LazyProxy.FileTree

/-- `u` has the directories of `t`, and its files except for the changed ones. -/
structure Frame (changed : Set (List String)) (t u : FileTree) : Prop where
  home : u.home = t.home
  isDirectory : ∀ names, t.isDirectory names → u.isDirectory names
  file? : ∀ names ∉ changed, u.file? names = t.file? names

variable {t u v : FileTree} {changed changed' : Set (List String)}

theorem Frame.refl (t : FileTree) : Frame ∅ t t := by
  exact ⟨rfl, fun _ h => h, fun _ _ => rfl⟩

theorem Frame.trans (h : Frame changed t u) (h' : Frame changed' u v)
    : Frame (changed ∪ changed') t v := by
  constructor
  . rw [h'.home, h.home]
  . intro names hnames
    exact h'.isDirectory names (h.isDirectory names hnames)
  . intro names hnames
    rw [Set.mem_union, not_or] at hnames
    rw [h'.file? names hnames.right, h.file? names hnames.left]

theorem Frame.mono (h : Frame changed t u) (hsub : changed ⊆ changed') : Frame changed' t u := by
  refine ⟨h.home, h.isDirectory, ?_⟩
  intro names hnames
  exact h.file? names fun hmem => hnames (hsub hmem)

/-- What could be reached still can. -/
theorem Frame.follow (h : Frame changed t u) {names ps found : List String}
    (hfollow : t.follow names ps = .ok found)
    : u.follow names ps = .ok found := by
  induction ps generalizing names with
  | nil => exact hfollow
  | cons p ps ih =>
    unfold FileTree.follow at hfollow ⊢
    split at hfollow
    . contradiction
    . next hdirectory =>
      simp only [Bool.not_eq_true', Bool.not_eq_false] at hdirectory
      simp only [h.isDirectory names hdirectory, Bool.not_true, Bool.false_eq_true, ↓reduceIte]
      split at hfollow
      . next hstill =>
        rw [if_pos hstill]
        exact ih hfollow
      . next hstill =>
        rw [if_neg hstill]
        split at hfollow
        . next hup =>
          rw [if_pos hup]
          exact ih hfollow
        . next hup =>
          rw [if_neg hup]
          split at hfollow
          . contradiction
          . next hlength =>
            rw [if_neg hlength]
            exact ih hfollow

theorem Frame.locate (h : Frame changed t u) {path : String} {names : List String}
    (hlocate : t.locate path = .ok names)
    : u.locate path = .ok names := by
  unfold FileTree.locate at hlocate ⊢
  split at hlocate
  . contradiction
  . next hpath =>
    rw [if_neg hpath, start, h.home]
    exact h.follow hlocate

theorem follow_eq_ok {names ps found : List String} (hup : ".." ∉ ps)
    (h : t.follow names ps = .ok found)
    : found = names ++ ps.filter (!isStill ·) := by
  induction ps generalizing names with
  | nil =>
    simp only [follow, Except.ok.injEq] at h
    simp [h]
  | cons p ps ih =>
    rw [List.mem_cons, not_or] at hup
    unfold follow at h
    split at h
    . contradiction
    . split at h
      . next hstill =>
        rw [ih hup.right h, List.filter_cons_of_neg (by simpa using hstill)]
      . next hstill =>
        rw [if_neg (Ne.symm hup.left)] at h
        split at h
        . contradiction
        . rw [ih hup.right h, List.filter_cons_of_pos (by simpa using hstill), List.append_assoc]
          rfl

theorem locate_eq_ok {path : String} {names : List String} (hup : ¬leadsUpwards path)
    (h : t.locate path = .ok names)
    : names = t.start path ++ pathNames path := by
  unfold locate at h
  split at h
  . contradiction
  . apply follow_eq_ok
    . simpa [leadsUpwards] using hup
    . exact h

/-- Paths from one directory lead to one place only if they have the same names. -/
theorem pathNames_eq_of_locate {directory path other : String} {names : List String}
    (hpath : path.startsWith "/" = false) (hother : other.startsWith "/" = false)
    (hup : ".." ∉ pathNames directory ++ pathNames path ++ pathNames other)
    (h : t.locate (appendPath directory path) = .ok names)
    (h' : t.locate (appendPath directory other) = .ok names)
    : pathNames path = pathNames other := by
  simp only [List.mem_append, not_or] at hup
  have hlocate := locate_eq_ok (by simp [leadsUpwards_iff, pathNames_appendPath, hpath, hup]) h
  have hlocate' := locate_eq_ok (by simp [leadsUpwards_iff, pathNames_appendPath, hother, hup]) h'
  rw [pathNames_appendPath _ hpath] at hlocate
  rw [pathNames_appendPath _ hother] at hlocate'
  rw [start, startsWith_appendPath _ hpath] at hlocate
  rw [start, startsWith_appendPath _ hother, hlocate] at hlocate'
  simpa using hlocate'

theorem readText_eq_ok_iff {path text : String}
    : t.readText path = .ok text
        ↔
      ∃ names, t.locate path = .ok names ∧ t.file? names = some (.text text) := by
  unfold readText
  rw [bind_eq_ok_iff]
  apply exists_congr
  intro names
  apply and_congr_right
  intro _
  cases hfile : t.file? names with
  | none => simp
  | some content =>
    cases content with
    | text s => simp
    | binary size shown => simp

theorem file?_setFile (t : FileTree) (names other : List String) (content : FileContent)
    : (t.setFile names content).file? other
        =
      if other = names then some content else t.file? other := by
  unfold setFile FileTree.file?
  split
  . next h => simp [h]
  . next h =>
    have hne := beq_eq_false_iff_ne.mpr h
    rw [List.lookup_cons, hne]
    -- The files that `setFile` takes away are not looked for.
    induction t.files with
    | nil => rfl
    | cons f files ih =>
      rcases f with ⟨key, value⟩
      by_cases hkey : key = names
      . subst hkey
        simpa [List.lookup_cons, hne] using ih
      . simp_all [List.lookup_cons]

theorem writeText_eq_ok {path text : String} (h : t.writeText path text = .ok u)
    : ∃ names, t.locate path = .ok names
        ∧
      Frame {names} t u
        ∧
      u.file? names = some (.text text) := by
  unfold writeText at h
  rw [bind_eq_ok_iff] at h
  rcases h with ⟨names, hlocate, h⟩
  split at h
  . contradiction
  . rw [Except.ok.injEq] at h
    subst h
    refine ⟨names, hlocate, ⟨rfl, fun _ h => h, ?_⟩, ?_⟩
    . intro other hother
      rw [Set.mem_singleton_iff] at hother
      rw [file?_setFile, if_neg hother]
    . rw [file?_setFile, if_pos rfl]

theorem frame_addDirectory (t : FileTree) (names : List String)
    : Frame ∅ t (t.addDirectory names) := by
  unfold addDirectory
  split
  . exact Frame.refl t
  . refine ⟨rfl, ?_, fun _ _ => rfl⟩
    intro other hother
    simp only [FileTree.isDirectory, Bool.or_eq_true, List.contains_cons] at *
    cases hother with
    | inl h => exact Or.inl h
    | inr h => exact Or.inr (Or.inr h)

theorem frame_of_makeAlong {names ps : List String} (h : t.makeAlong names ps = .ok u)
    : Frame ∅ t u := by
  induction ps generalizing t names with
  | nil =>
    simp only [makeAlong, Except.ok.injEq] at h
    subst h
    exact Frame.refl t
  | cons p ps ih =>
    unfold makeAlong at h
    split at h
    . exact ih h
    . split at h
      . exact ih h
      . dsimp only at h
        split at h
        . contradiction
        . split at h
          . contradiction
          . have hadd := frame_addDirectory t (names ++ [p])
            simpa using hadd.trans (ih h)

theorem frame_of_makeDirectories {path : String} (h : t.makeDirectories path = .ok u)
    : Frame ∅ t u := by
  exact frame_of_makeAlong h

end LazyProxy.FileTree
