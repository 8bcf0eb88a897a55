import LazyProxy.Proofs.Cli.Output
import LazyProxy.Proofs.Document.Registry

/-!
This module contains what commands leave as it is in a tree of files: all of it if they only read,
and else all but the files that they may write.
-/

namespace LazyProxy.Cli

variable {α β : Type} {x : StateM FileTree α} {f : α → StateM FileTree β}

/-- A computation that leaves the tree as it is. -/
def ReadsOnly (x : StateM FileTree α) : Prop :=
  ∀ t, (x t).2 = t

theorem readsOnly_pure (a : α) : ReadsOnly (pure a) := by
  intro t
  rfl

theorem ReadsOnly.run_bind (hx : ReadsOnly x) (t : FileTree) : (x >>= f) t = f (x t).1 t := by
  rw [Cli.run_bind, hx t]

theorem ReadsOnly.bind (hx : ReadsOnly x) (hf : ∀ a, ReadsOnly (f a)) : ReadsOnly (x >>= f) := by
  intro t
  rw [hx.run_bind]
  exact hf _ t

theorem readsOnly_isCurrent (directory : String) (s : Source)
    : ReadsOnly (isCurrent directory s) := by
  intro t
  rcases run_isCurrent directory s t with ⟨b, hrun, -⟩
  rw [hrun]

theorem readsOnly_outdatedPaths (directory : String) (ss : List Source)
    : ReadsOnly (outdatedPaths directory ss) := by
  induction ss with
  | nil => exact readsOnly_pure []
  | cons s ss ih =>
    apply (readsOnly_isCurrent directory s).bind
    intro b
    split
    . exact ih
    . exact ih.bind fun _ => readsOnly_pure _

theorem readsOnly_checkSources (directory : String) (ss : List Source)
    : ReadsOnly (checkSources directory ss) := by
  apply (readsOnly_outdatedPaths directory ss).bind
  intro paths
  split
  . exact readsOnly_pure _
  . exact readsOnly_pure _

theorem outdatedPaths_eq_nil_iff (directory : String) (ss : List Source) (t : FileTree)
    : ((outdatedPaths directory ss : StateM FileTree (List String)) t).1 = []
        ↔
      ∀ s ∈ ss, s.IsCurrentIn directory t := by
  induction ss with
  | nil => simp [outdatedPaths, run_pure]
  | cons s ss ih =>
    rcases run_isCurrent directory s t with ⟨b, hrun, hb⟩
    unfold outdatedPaths
    rw [List.forall_mem_cons, ← hb, ← ih, run_bind, hrun]
    cases b with
    | true => simp
    | false => simp [run_bind, run_pure]

theorem failure_checkSources_iff (directory : String) (ss : List Source) (t : FileTree)
    : ((checkSources directory ss : StateM FileTree Report) t).1.failure = none
        ↔
      ∀ s ∈ ss, s.IsCurrentIn directory t := by
  unfold checkSources
  rw [← outdatedPaths_eq_nil_iff, (readsOnly_outdatedPaths directory ss).run_bind]
  split
  . next h => simpa [run_pure] using h
  . next h => simpa [run_pure] using h

/-- The manifest at a path is text of an acceptable size, and these are the types that it declares. -/
def Loads (manifest : String) (t : FileTree) (r : Registry) : Prop :=
  ∃ size text, t.fileSize manifest = .ok size ∧ size ≤ maxManifestSize
    ∧ t.readText manifest = .ok text ∧ Manifest.registryOfText text = .ok r

theorem run_loadRegistry (manifest : String) (t : FileTree)
    : ∃ result, (loadRegistry manifest : StateM FileTree (Except CommandError Registry)) t
          = (result, t)
        ∧
      ∀ r, result = .ok r ↔ Loads manifest t r := by
  unfold loadRegistry Loads
  simp only [run_bind, FileAccess.fileSize]
  cases t.fileSize manifest with
  | error e => exact ⟨_, rfl, by simp⟩
  | ok size =>
    by_cases hsize : maxManifestSize < size
    . simp only [if_pos hsize]
      refine ⟨_, rfl, ?_⟩
      intro r
      constructor
      . intro h
        contradiction
      . rintro ⟨size', _, h, hle, -⟩
        cases h
        omega
    . simp only [if_neg hsize, run_bind, FileAccess.readText]
      cases t.readText manifest with
      | error e => exact ⟨_, rfl, by simp⟩
      | ok text =>
        refine ⟨_, rfl, ?_⟩
        intro r
        rw [mapError_eq_ok_iff]
        simp [Nat.not_lt.mp hsize]

theorem loads_of_declarations {manifest text : String} {t : FileTree} {r : Registry} {size : Nat}
    (hsize : t.fileSize manifest = .ok size) (hle : size ≤ maxManifestSize)
    (htext : t.readText manifest = .ok text)
    (h : (Manifest.registryOfText text).map Registry.declarations = .ok r.declarations)
    : Loads manifest t r := by
  rcases map_eq_ok_iff.mp h with ⟨r', hr', hsame⟩
  rw [Registry.eq_of_declarations_eq hsame] at hr'
  exact ⟨size, text, hsize, hle, htext, hr'⟩

theorem Loads.eq {manifest : String} {t : FileTree} {r r' : Registry} (h : Loads manifest t r)
    (h' : Loads manifest t r')
    : r = r' := by
  rcases run_loadRegistry manifest t with ⟨result, -, hresult⟩
  rw [← hresult] at h h'
  rw [h, Except.ok.injEq] at h'
  exact h'

theorem run_withRegistry_of_loads {manifest : String} {t : FileTree} {r : Registry}
    (h : Loads manifest t r) (run : Registry → StateM FileTree Report)
    : withRegistry manifest run t = run r t := by
  rcases run_loadRegistry manifest t with ⟨result, hrun, hresult⟩
  rw [← hresult] at h
  rw [withRegistry, run_bind, hrun, h]

theorem run_withRegistry_of_not_loads {manifest : String} {t : FileTree}
    (h : ¬∃ r, Loads manifest t r) (run : Registry → StateM FileTree Report)
    : ∃ e, withRegistry manifest run t = ({ failure := some e }, t) := by
  rcases run_loadRegistry manifest t with ⟨result, hrun, hresult⟩
  cases result with
  | error e => exact ⟨e, by rw [withRegistry, run_bind, hrun]; rfl⟩
  | ok r => exact absurd ⟨r, (hresult r).mp rfl⟩ h

/-- A computation that changes none but some of the files, if it runs in a tree with this home. -/
def ChangesOnly (home : List String) (changed : Set (List String)) (x : StateM FileTree α) : Prop :=
  ∀ t, t.home = home → FileTree.Frame changed t (x t).2

variable {home : List String} {changed : Set (List String)}

theorem ReadsOnly.changesOnly (h : ReadsOnly x) : ChangesOnly home changed x := by
  intro t _
  rw [h t]
  exact (FileTree.Frame.refl t).mono (Set.empty_subset _)

theorem ChangesOnly.bind (hx : ChangesOnly home changed x)
    (hf : ∀ a, ChangesOnly home changed (f a))
    : ChangesOnly home changed (x >>= f) := by
  intro t ht
  have hframe := hx t ht
  -- The rest runs in a tree with the same home.
  have hrest := hf (x t).1 (x t).2 (hframe.home.trans ht)
  rw [run_bind]
  simpa using hframe.trans hrest

theorem changesOnly_makeDirectories (path : String)
    : ChangesOnly home changed (FileAccess.makeDirectories path) := by
  intro t _
  rw [run_makeDirectories]
  cases hmake : t.makeDirectories path with
  | error e => exact (FileTree.Frame.refl t).mono (Set.empty_subset _)
  | ok u => exact (FileTree.frame_of_makeDirectories hmake).mono (Set.empty_subset _)

theorem changesOnly_writeText {path : String} (text : String)
    (h : ∀ t : FileTree, t.home = home → ∀ names, t.locate path = .ok names → names ∈ changed)
    : ChangesOnly home changed (FileAccess.writeText path text) := by
  intro t ht
  rw [run_writeText]
  cases hwrite : t.writeText path text with
  | error e => exact (FileTree.Frame.refl t).mono (Set.empty_subset _)
  | ok u =>
    rcases FileTree.writeText_eq_ok hwrite with ⟨names, hlocate, hframe, -⟩
    apply hframe.mono
    rw [Set.singleton_subset_iff]
    exact h t ht names hlocate

variable {directory : String} {ss : List Source}

theorem changesOnly_writeSource {s : Source}
    (h : ∀ t : FileTree, t.home = home → ∀ names, t.locate (s.pathIn directory) = .ok names →
      names ∈ changed)
    : ChangesOnly home changed (writeSource directory s) := by
  apply (readsOnly_isCurrent directory s).changesOnly.bind
  intro current
  split
  . exact (readsOnly_pure _).changesOnly
  . apply (changesOnly_makeDirectories _).bind
    rintro (e | _)
    . exact (readsOnly_pure _).changesOnly
    . apply (changesOnly_writeText _ h).bind
      rintro (e | _)
      . exact (readsOnly_pure _).changesOnly
      . exact (readsOnly_pure _).changesOnly

theorem changesOnly_writeEach
    (h : ∀ s ∈ ss, ∀ t : FileTree, t.home = home → ∀ names,
      t.locate (s.pathIn directory) = .ok names → names ∈ changed)
    : ChangesOnly home changed (writeEach directory ss) := by
  induction ss with
  | nil => exact (readsOnly_pure _).changesOnly
  | cons s ss ih =>
    rw [List.forall_mem_cons] at h
    apply (changesOnly_writeSource h.left).bind
    rintro (e | written)
    . exact (readsOnly_pure _).changesOnly
    . apply (ih h.right).bind
      intro count
      exact (readsOnly_pure _).changesOnly

/-- Delivery to a directory changes no file but those of the sources, whether it succeeds or not. -/
theorem changesOnly_deliver (check : Bool)
    (h : ∀ s ∈ ss, ∀ t : FileTree, t.home = home → ∀ names,
      t.locate (s.pathIn directory) = .ok names → names ∈ changed)
    : ChangesOnly home changed (deliver (.directory directory check) ss) := by
  unfold deliver
  dsimp only
  split
  . exact (readsOnly_pure _).changesOnly
  . split
    . exact (readsOnly_checkSources directory ss).changesOnly
    . apply (changesOnly_writeEach h).bind
      intro count
      exact (readsOnly_pure _).changesOnly

end LazyProxy.Cli
