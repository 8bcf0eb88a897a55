/-!
This module contains when computations that may fail in several steps succeed, and which of several
errors they fail with.
-/

namespace LazyProxy

variable {ε δ α β : Type}

theorem bind_eq_ok_iff {x : Except ε α} {f : α → Except ε β} {b : β}
    : x >>= f = .ok b ↔ ∃ a, x = .ok a ∧ f a = .ok b := by
  cases x with
  | error e => simp [bind, Except.bind]
  | ok a => simp [bind, Except.bind]

theorem bind_eq_error_iff {x : Except ε α} {f : α → Except ε β} {e : ε}
    : x >>= f = .error e ↔ x = .error e ∨ ∃ a, x = .ok a ∧ f a = .error e := by
  cases x with
  | error e => simp [bind, Except.bind]
  | ok a => simp [bind, Except.bind]

theorem mapError_eq_ok_iff {x : Except ε α} {f : ε → δ} {a : α}
    : x.mapError f = .ok a ↔ x = .ok a := by
  cases x with
  | error e =>
    constructor
    . intro h
      contradiction
    . intro h
      contradiction
  | ok b =>
    constructor
    . intro h
      cases h
      rfl
    . intro h
      cases h
      rfl

theorem mapError_eq_error_iff {x : Except ε α} {f : ε → δ} {e : δ}
    : x.mapError f = .error e ↔ ∃ e', x = .error e' ∧ f e' = e := by
  cases x with
  | error e' =>
    have herror : (.error e' : Except ε α).mapError f = .error (f e') := rfl
    simp [herror]
  | ok a =>
    have hok : (.ok a : Except ε α).mapError f = .ok a := rfl
    simp [hok]

theorem map_eq_ok_iff {x : Except ε α} {f : α → β} {b : β}
    : x.map f = .ok b ↔ ∃ a, x = .ok a ∧ f a = b := by
  cases x with
  | error e => simp [Except.map]
  | ok a => simp [Except.map]

theorem map_eq_error_iff {x : Except ε α} {f : α → β} {e : ε}
    : x.map f = .error e ↔ x = .error e := by
  cases x with
  | error e => simp [Except.map]
  | ok a => simp [Except.map]

/-- A computation fails if there are faults, and then with the first one. -/
def Reports (x : Except ε α) (faults : List ε) : Prop :=
  ∀ e, x = .error e ↔ faults.head? = some e

/-- The error of a computation, if it fails. -/
def faultOf : Except ε α → List ε
  | .ok _ => []
  | .error e => [e]

/-- The fault that there is if a condition is not met. -/
def faultUnless (p : Prop) [Decidable p] (e : ε) : List ε :=
  if p then [] else [e]

theorem mem_faultUnless {p : Prop} [Decidable p] {e f : ε}
    : f ∈ faultUnless p e ↔ ¬p ∧ f = e := by
  unfold faultUnless
  split
  . next h => simp [h]
  . next h => simp [h]

theorem faultUnless_eq_nil_iff {p : Prop} [Decidable p] {e : ε} : faultUnless p e = [] ↔ p := by
  unfold faultUnless
  split
  . next h => simp [h]
  . next h => simp [h]

theorem map_faultUnless {p : Prop} [Decidable p] {e : ε} (f : ε → δ)
    : (faultUnless p e).map f = faultUnless p (f e) := by
  unfold faultUnless
  split
  . rfl
  . rfl

namespace Reports

variable {x : Except ε α} {faults : List ε}

theorem ok (a : α) : Reports (.ok a : Except ε α) [] := by
  intro e
  simp

theorem error (e : ε) (rest : List ε) : Reports (.error e : Except ε α) (e :: rest) := by
  intro f
  simp

theorem faultOf (x : Except ε α) : Reports x (faultOf x) := by
  cases x with
  | error e => exact error e []
  | ok a => exact ok a

/-- The faults of a step are reported before those of the steps after it. -/
theorem bind {f : α → Except ε β} {rest : List ε} (hx : Reports x faults)
    (hf : ∀ a, x = .ok a → Reports (f a) rest)
    : Reports (x >>= f) (faults ++ rest) := by
  intro e
  cases x with
  | error first =>
    have hfirst := (hx first).mp rfl
    rw [List.head?_append, hfirst]
    simp [Bind.bind, Except.bind]
  | ok a =>
    have hnone : faults.head? = none := by
      rw [Option.eq_none_iff_forall_ne_some]
      intro first hfirst
      have := (hx first).mpr hfirst
      contradiction
    rw [List.head?_append, hnone]
    exact hf a rfl e

/-- A last step that cannot fail adds no fault. -/
theorem bind_ok (hx : Reports x faults) (f : α → β)
    : Reports (x >>= fun a => (.ok (f a) : Except ε β)) faults := by
  rw [← List.append_nil faults]
  exact hx.bind fun a _ => ok (f a)

theorem mapError (hx : Reports x faults) (f : ε → δ)
    : Reports (x.mapError f) (faults.map f) := by
  intro e
  rw [List.head?_map, Option.map_eq_some_iff]
  simp only [← hx _]
  cases x with
  | error first =>
    constructor
    . intro h
      cases h
      exact ⟨first, rfl, rfl⟩
    . rintro ⟨_, h, rfl⟩
      cases h
      rfl
  | ok a =>
    constructor
    . intro h
      contradiction
    . rintro ⟨_, h, -⟩
      contradiction

theorem congr {others : List ε} (hx : Reports x faults) (h : faults.head? = others.head?)
    : Reports x others := by
  intro e
  rw [hx e, h]

/-- What is reported is one of the faults. -/
theorem mem {e : ε} (hx : Reports x faults) (h : x = .error e) : e ∈ faults :=
  List.mem_of_head? ((hx e).mp h)

theorem exists_eq_ok_iff (hx : Reports x faults) : (∃ a, x = .ok a) ↔ faults = [] := by
  rw [← List.head?_eq_none_iff, Option.eq_none_iff_forall_ne_some]
  cases x with
  | error e =>
    constructor
    . rintro ⟨a, ha⟩
      contradiction
    . intro h
      exact absurd ((hx e).mp rfl) (h e)
  | ok a =>
    refine ⟨fun _ e he => ?_, fun _ => ⟨a, rfl⟩⟩
    have := (hx e).mpr he
    contradiction

end Reports

end LazyProxy
