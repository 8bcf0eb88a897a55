import LazyProxy.Cli.Execute
import LazyProxy.Proofs.Files.Tree

/-!
This module contains what writing sources does to a tree of files. Once each file holds its code,
sources are found current, and to write them again changes nothing.
-/

namespace LazyProxy

/-- The file of a source holds its code. -/
def Source.IsCurrentIn (s : Source) (directory : String) (t : FileTree) : Prop :=
  t.readText (s.pathIn directory) = .ok s.code

namespace Cli

variable {directory : String} {s : Source} {ss : List Source} {t u : FileTree}

theorem run_bind {σ α β : Type} (x : StateM σ α) (f : α → StateM σ β) (t : σ)
    : (x >>= f) t = f (x t).1 (x t).2 := by
  rfl

theorem run_pure {σ α : Type} (a : α) (t : σ) : (pure a : StateM σ α) t = (a, t) := by
  rfl

theorem run_makeDirectories (path : String) (t : FileTree)
    : (FileAccess.makeDirectories path : StateM FileTree (Except FileError Unit)) t
        =
      match t.makeDirectories path with
      | .ok u => (.ok (), u)
      | .error e => (.error e, t) := by
  rfl

theorem run_writeText (path text : String) (t : FileTree)
    : (FileAccess.writeText path text : StateM FileTree (Except FileError Unit)) t
        =
      match t.writeText path text with
      | .ok u => (.ok (), u)
      | .error e => (.error e, t) := by
  rfl

theorem run_isCurrent (directory : String) (s : Source) (t : FileTree)
    : ∃ b, (isCurrent directory s : StateM FileTree Bool) t = (b, t)
        ∧
      (b ↔ s.IsCurrentIn directory t) := by
  unfold Source.IsCurrentIn isCurrent
  simp only [run_bind, FileAccess.readText]
  cases t.readText (s.pathIn directory) with
  | error e => exact ⟨false, rfl, by simp⟩
  | ok text => exact ⟨decide (text = s.code), rfl, by simp⟩

theorem isCurrent_of_isCurrentIn (h : s.IsCurrentIn directory t)
    : (isCurrent directory s : StateM FileTree Bool) t = (true, t) := by
  rcases run_isCurrent directory s t with ⟨b, hrun, hb⟩
  rw [hrun, hb.mpr h]

theorem isCurrentIn_iff
    : s.IsCurrentIn directory t
        ↔
      ∃ names, t.locate (s.pathIn directory) = .ok names ∧ t.file? names = some (.text s.code) := by
  exact FileTree.readText_eq_ok_iff

theorem writeSource_of_isCurrentIn (h : s.IsCurrentIn directory t)
    : (writeSource directory s : StateM FileTree (Except CommandError Bool)) t
        =
      (.ok false, t) := by
  unfold writeSource
  rw [run_bind, isCurrent_of_isCurrentIn h]
  rfl

theorem writeSource_eq_ok {written : Bool}
    (h : (writeSource directory s : StateM FileTree (Except CommandError Bool)) t
      = (.ok written, u))
    : ∃ names, u.locate (s.pathIn directory) = .ok names
        ∧
      u.file? names = some (.text s.code)
        ∧
      FileTree.Frame {names} t u := by
  rcases run_isCurrent directory s t with ⟨b, hrun, hb⟩
  unfold writeSource at h
  rw [run_bind, hrun] at h
  cases b with
  | true =>
    rcases isCurrentIn_iff.mp (hb.mp rfl) with ⟨names, hlocate, hfile⟩
    cases h
    exact ⟨names, hlocate, hfile, (FileTree.Frame.refl t).mono (Set.empty_subset _)⟩
  | false =>
    simp only [Bool.false_eq_true, ↓reduceIte, run_bind, run_makeDirectories] at h
    cases hmake : t.makeDirectories (parentPath (s.pathIn directory)) with
    | error e =>
      simp only [hmake, run_pure] at h
      cases h
    | ok v =>
      simp only [hmake, run_bind, run_writeText] at h
      cases hwrite : v.writeText (s.pathIn directory) s.code with
      | error e =>
        simp only [hwrite, run_pure] at h
        cases h
      | ok w =>
        simp only [hwrite, run_pure] at h
        cases h
        rcases FileTree.writeText_eq_ok hwrite with ⟨names, hlocate, hframe, hfile⟩
        refine ⟨names, hframe.locate hlocate, hfile, ?_⟩
        simpa using (FileTree.frame_of_makeDirectories hmake).trans hframe

/-- Where the files of sources are. -/
def places (directory : String) (ss : List Source) (t : FileTree) : Set (List String) :=
  { names | ∃ s ∈ ss, t.locate (s.pathIn directory) = .ok names }

/-- Sources whose files are one file have the same code. -/
def Consistent (directory : String) (ss : List Source) (t : FileTree) : Prop :=
  ∀ a ∈ ss, ∀ b ∈ ss, ∀ names, t.locate (a.pathIn directory) = .ok names →
    t.locate (b.pathIn directory) = .ok names → a.code = b.code

theorem writeEach_cons_eq_ok {count : Nat}
    (h : (writeEach directory (s :: ss) : StateM FileTree (Except CommandError Nat)) t
      = (.ok count, u))
    : ∃ written v n, (writeSource directory s : StateM FileTree (Except CommandError Bool)) t
          = (.ok written, v)
        ∧
      (writeEach directory ss : StateM FileTree (Except CommandError Nat)) v = (.ok n, u) := by
  unfold writeEach at h
  rw [run_bind] at h
  cases hsource : (writeSource directory s : StateM FileTree (Except CommandError Bool)) t with
  | mk result v =>
    rw [hsource] at h
    cases result with
    | error e => cases h
    | ok written =>
      simp only [run_bind, run_pure] at h
      cases hrest : (writeEach directory ss : StateM FileTree (Except CommandError Nat)) v with
      | mk rest w =>
        rw [hrest] at h
        cases rest with
        | error e => cases h
        | ok n =>
          cases h
          exact ⟨written, v, n, rfl, hrest⟩

theorem writeEach_eq_ok {count : Nat}
    (h : (writeEach directory ss : StateM FileTree (Except CommandError Nat)) t = (.ok count, u))
    (hconsistent : Consistent directory ss u)
    : (∀ s ∈ ss, s.IsCurrentIn directory u)
        ∧
      FileTree.Frame (places directory ss u) t u := by
  induction ss generalizing t count with
  | nil =>
    cases h
    exact ⟨by simp, (FileTree.Frame.refl _).mono (Set.empty_subset _)⟩
  | cons s ss ih =>
    rcases writeEach_cons_eq_ok h with ⟨written, v, n, hsource, hrest⟩
    have htail : Consistent directory ss u := fun a ha b hb =>
      hconsistent a (List.mem_cons_of_mem _ ha) b (List.mem_cons_of_mem _ hb)
    rcases ih hrest htail with ⟨hcurrent, hframe⟩
    rcases writeSource_eq_ok hsource with ⟨names, hlocate, hfile, hwritten⟩
    have hplace := hframe.locate hlocate
    have hs : u.file? names = some (.text s.code) := by
      by_cases hagain : names ∈ places directory ss u
      . -- A later source has the same file, and the same code.
        rcases hagain with ⟨b, hb, hbplace⟩
        rcases isCurrentIn_iff.mp (hcurrent b hb) with ⟨_, hblocate, hbfile⟩
        rw [hbplace, Except.ok.injEq] at hblocate
        subst hblocate
        rw [hbfile, hconsistent s (by simp) b (by simp [hb]) names hplace hbplace]
      . rw [hframe.file? names hagain, hfile]
    constructor
    . rw [List.forall_mem_cons]
      exact ⟨isCurrentIn_iff.mpr ⟨names, hplace, hs⟩, hcurrent⟩
    . apply (hwritten.trans hframe).mono
      rintro other (hother | ⟨b, hb, hbplace⟩)
      . rw [Set.mem_singleton_iff.mp hother]
        exact ⟨s, by simp, hplace⟩
      . exact ⟨b, by simp [hb], hbplace⟩

theorem writeEach_of_isCurrentIn (h : ∀ s ∈ ss, s.IsCurrentIn directory t)
    : (writeEach directory ss : StateM FileTree (Except CommandError Nat)) t = (.ok 0, t) := by
  induction ss with
  | nil => rfl
  | cons s ss ih =>
    rw [List.forall_mem_cons] at h
    unfold writeEach
    rw [run_bind, writeSource_of_isCurrentIn h.left]
    simp only [run_bind, ih h.right]
    rfl

theorem outdatedPaths_of_isCurrentIn (h : ∀ s ∈ ss, s.IsCurrentIn directory t)
    : (outdatedPaths directory ss : StateM FileTree (List String)) t = ([], t) := by
  induction ss with
  | nil => rfl
  | cons s ss ih =>
    rw [List.forall_mem_cons] at h
    unfold outdatedPaths
    rw [run_bind, isCurrent_of_isCurrentIn h.left]
    exact ih h.right

theorem deliver_of_isCurrentIn (hup : ¬leadsUpwards directory)
    (h : ∀ s ∈ ss, s.IsCurrentIn directory t)
    : (deliver (.directory directory true) ss : StateM FileTree Report) t
          = ({ output := "✓ " ++ toString ss.length ++ " proxy file(s) up to date\n" }, t)
        ∧
      (deliver (.directory directory false) ss : StateM FileTree Report) t
          = ({ output := "✓ 0 proxy file(s) written, " ++ toString ss.length ++ " unchanged\n" }, t)
    := by
  constructor
  . simp only [deliver, hup, Bool.false_eq_true, ↓reduceIte]
    unfold checkSources
    rw [run_bind, outdatedPaths_of_isCurrentIn h]
    rfl
  . simp only [deliver, hup, Bool.false_eq_true, ↓reduceIte]
    unfold writeSources
    rw [run_bind, writeEach_of_isCurrentIn h]
    rfl

theorem deliver_eq_ok {report : Report}
    (h : (deliver (.directory directory false) ss : StateM FileTree Report) t = (report, u))
    (hok : report.failure = none)
    : ¬leadsUpwards directory
        ∧
      ∃ count, (writeEach directory ss : StateM FileTree (Except CommandError Nat)) t
        = (.ok count, u) := by
  unfold deliver at h
  dsimp only at h
  split at h
  . cases h
    contradiction
  . next hup =>
    refine ⟨hup, ?_⟩
    simp only [Bool.false_eq_true, ↓reduceIte] at h
    unfold writeSources at h
    rw [run_bind] at h
    cases hrun : (writeEach directory ss : StateM FileTree (Except CommandError Nat)) t with
    | mk result v =>
      rw [hrun] at h
      cases result with
      | error e =>
        cases h
        contradiction
      | ok count =>
        cases h
        exact ⟨count, rfl⟩

end Cli

end LazyProxy
