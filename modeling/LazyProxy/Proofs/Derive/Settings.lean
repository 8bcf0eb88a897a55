import LazyProxy.Derive.Setting
import LazyProxy.Proofs.Naming.Accessor
import LazyProxy.Proofs.Outcome

/-!
This module contains what the settings of a field come to. Each one is read for itself, and of those
for one accessor the last one counts.
-/

namespace LazyProxy

open Code

/-- A setting of a field as it is written. -/
inductive FieldSetting where
  | skip
  /-- Whether the proxy has to define an accessor. -/
  | accessor (k : AccessorKind) (defined : Bool)
deriving DecidableEq

namespace FieldSetting

def change : FieldSetting → FieldSettings → FieldSettings
  | skip, s => { s with skipped := true }
  | accessor .getter b, s => { s with getter := b }
  | accessor .setter b, s => { s with setter := b }

/-- What a setting says about the accessor of a kind. -/
def defines? (k : AccessorKind) : FieldSetting → Option Bool
  | skip => none
  | accessor l b => if l = k then some b else none

def read (p : Path) (ts : List Token) : Except SettingError (FieldSetting × List Token) :=
  if isWord p "skip" then .ok (.skip, ts)
  else if isWord p "getter" then
    (readBooleanValue ts).map fun (b, ts) => (.accessor .getter b, ts)
  else if isWord p "setter" then
    (readBooleanValue ts).map fun (b, ts) => (.accessor .setter b, ts)
  else .error (.unsupported .field)

end FieldSetting

/-- The settings in attributes, as they are written. -/
def writtenSettings (as : List Attribute) : Except SettingError (List FieldSetting) :=
  settingsInAll FieldSetting.read as

/-- Whether no accessor of the kind is to be defined: the last setting about it says so. -/
def Suppresses (k : AccessorKind) (fs : List FieldSetting) : Prop :=
  (fs.filterMap (·.defines? k)).getLast? = some false

instance (k : AccessorKind) (fs : List FieldSetting) : Decidable (Suppresses k fs) :=
  inferInstanceAs (Decidable (_ = _))

/-- Whether the proxy has to define the accessor of a kind. -/
def FieldSettings.defines (s : FieldSettings) : AccessorKind → Bool
  | .getter => s.getter
  | .setter => s.setter

section Read

variable {α β : Type} {value : Path → List Token → Except SettingError (α × List Token)}
  {value' : Path → List Token → Except SettingError (β × List Token)} {f : α → β}

theorem readSettings_map (h : ∀ p ts, value' p ts = (value p ts).map (Prod.map f id)) (n : Nat)
    (ts : List Token)
    : readSettings value' n ts = (readSettings value n ts).map (List.map f) := by
  induction n generalizing ts with
  | zero => rfl
  | succ n ih =>
    unfold readSettings
    cases readSettingPath ts with
    | error e => rfl
    | ok r =>
      rcases r with ⟨p, ts⟩
      simp only [bind, Except.bind, h p ts]
      cases value p ts with
      | error e => rfl
      | ok r =>
        rcases r with ⟨a, ts⟩
        simp only [Except.map, Prod.map, id]
        split
        . rfl
        . split
          . rfl
          . rfl
          . rw [ih]
            cases readSettings value n _ with
            | error e => rfl
            | ok as => rfl

theorem settingsIn_map (h : ∀ p ts, value' p ts = (value p ts).map (Prod.map f id)) (a : Attribute)
    : settingsIn value' a = (settingsIn value a).map (List.map f) := by
  unfold settingsIn
  split
  . rfl
  . split
    . rfl
    . rfl
    . rfl
    . exact readSettings_map h _ _

theorem settingsInAll_map (h : ∀ p ts, value' p ts = (value p ts).map (Prod.map f id))
    (as : List Attribute)
    : settingsInAll value' as = (settingsInAll value as).map (List.map f) := by
  induction as with
  | nil => rfl
  | cons a as ih =>
    unfold settingsInAll
    rw [settingsIn_map h, ih]
    cases settingsIn value a with
    | error e => rfl
    | ok ss =>
      cases settingsInAll value as with
      | error e => rfl
      | ok more => simp [bind, Except.bind, Except.map]

end Read

theorem readFieldSetting_eq (p : Path) (ts : List Token)
    : readFieldSetting p ts = (FieldSetting.read p ts).map (Prod.map FieldSetting.change id) := by
  unfold readFieldSetting FieldSetting.read
  split
  . rfl
  . split
    . cases readBooleanValue ts with
      | error e => rfl
      | ok r => rfl
    . split
      . cases readBooleanValue ts with
        | error e => rfl
        | ok r => rfl
      . rfl

theorem skipped_foldl_change (fs : List FieldSetting) (s : FieldSettings)
    : (fs.foldl (fun s f => f.change s) s).skipped = (s.skipped || fs.contains .skip) := by
  induction fs generalizing s with
  | nil => simp
  | cons f fs ih =>
    rw [List.foldl_cons, ih, List.contains_cons]
    rcases f with _ | ⟨_ | _, b⟩
    . simp [FieldSetting.change]
    . rfl
    . rfl

theorem defines_foldl_change (k : AccessorKind) (fs : List FieldSetting) (s : FieldSettings)
    : (fs.foldl (fun s f => f.change s) s).defines k
        =
      ((fs.filterMap (·.defines? k)).getLast?).getD (s.defines k) := by
  induction fs generalizing s with
  | nil => rfl
  | cons f fs ih =>
    have hlast : ((f :: fs).filterMap (·.defines? k)).getLast?
        = ((fs.filterMap (·.defines? k)).getLast?).or (f.defines? k) := by
      rw [List.filterMap_cons]
      cases f.defines? k with
      | none => simp
      | some b => simp [List.getLast?_cons]
    rw [List.foldl_cons, ih, hlast]
    cases (fs.filterMap (·.defines? k)).getLast? with
    | some b => rfl
    | none => rcases f with _ | ⟨_ | _, b⟩ <;> cases k <;> rfl

theorem getD_true (b : Option Bool) : b.getD true = !decide (b = some false) := by
  rcases b with _ | _ | _
  . rfl
  . rfl
  . rfl

theorem fieldSettings_eq_ok {as : List Attribute} {s : FieldSettings}
    (h : fieldSettings as = .ok s)
    : ∃ fs, writtenSettings as = .ok fs
        ∧
      s.skipped = fs.contains .skip
        ∧
      ∀ k, s.defines k = !decide (Suppresses k fs) := by
  unfold fieldSettings at h
  rw [settingsInAll_map readFieldSetting_eq, map_eq_ok_iff] at h
  rcases h with ⟨changes, h, rfl⟩
  rw [map_eq_ok_iff] at h
  rcases h with ⟨fs, hfs, rfl⟩
  rw [List.foldl_map]
  refine ⟨fs, hfs, by rw [skipped_foldl_change]; rfl, ?_⟩
  intro k
  have hdefault : ({} : FieldSettings).defines k = true := by
    cases k with
    | getter => rfl
    | setter => rfl
  rw [defines_foldl_change, hdefault]
  exact getD_true _

end LazyProxy
