import LazyProxy.Proofs.Naming.SnakeCase
import LazyProxy.Proofs.Proxy.Members
import LazyProxy.Proofs.Target.Paths
import LazyProxy.Proofs.Target.RustItems
import LazyProxy.Text.Word

/-!
This module contains that proxies in Rust can be written with constructors of identifiers that refuse
what is no identifier. Whatever types are declared and however they are called, no constructor refuses:
there is a source or one of the errors.
-/

namespace LazyProxy

open Code Text

namespace Code.Ident

/-- Whether a text is a letter or underscore followed by letters, digits, marks and underscores, of
any script. -/
def isWord (text : String) : Bool :=
  match text.toList with
  | [] => false
  | c :: cs => isWordStart c && cs.all isWordPart

/-- The plain identifier. Nothing but a word has one. -/
def new? (text : String) : Option Ident :=
  if isWord text then some ⟨text, false⟩ else none

/-- Words that are refused in the raw form. -/
def withoutRawForm : List String :=
  ["_", "super", "self", "Self", "crate"]

/-- The identifier in the raw form, of a word that has one. -/
def newRaw? (text : String) : Option Ident :=
  if isWord text && !withoutRawForm.contains text then some ⟨text, true⟩ else none

/-- The identifier as a text gives it, in the raw form after `r#`. -/
def format? (text : String) : Option Ident :=
  match text.toList with
  | 'r' :: '#' :: cs => newRaw? (String.ofList cs)
  | _ => new? text

variable {name : String}

theorem isWordStart_of_isIdentifierStart {c : Char} (h : isIdentifierStart c) : isWordStart c := by
  have hc := toNat_lt_of_isIdentifierPart (isIdentifierPart_of_isIdentifierStart h)
  rw [isWordStart, if_pos hc]
  exact h

theorem isWordPart_of_isIdentifierPart {c : Char} (h : isIdentifierPart c) : isWordPart c := by
  rw [isWordPart, if_pos (toNat_lt_of_isIdentifierPart h)]
  exact h

theorem isWord_of_isIdentifier (h : isIdentifier name) : isWord name := by
  unfold isIdentifier at h
  unfold isWord
  cases hname : name.toList with
  | nil => simp [hname] at h
  | cons c cs =>
    simp only [hname, Bool.and_eq_true, List.all_eq_true] at h
    simp only [Bool.and_eq_true, List.all_eq_true]
    refine ⟨isWordStart_of_isIdentifierStart h.left, ?_⟩
    intro d hd
    exact isWordPart_of_isIdentifierPart (h.right d hd)

theorem new?_of_isIdentifier (h : isIdentifier name) : new? name = some ⟨name, false⟩ := by
  rw [new?, if_pos (isWord_of_isIdentifier h)]

theorem isUnrawable_of_mem_withoutRawForm
    : ∀ text ∈ withoutRawForm, isUnrawable text := by
  decide

theorem newRaw?_of_isIdentifier (h : isIdentifier name) (hraw : ¬isUnrawable name)
    : newRaw? name = some ⟨name, true⟩ := by
  have hmem : name ∉ withoutRawForm :=
    fun hmem => hraw (isUnrawable_of_mem_withoutRawForm name hmem)
  rw [newRaw?, if_pos]
  simp [isWord_of_isIdentifier h, hmem]

theorem format?_of_isIdentifier (h : isIdentifier name) : format? name = some ⟨name, false⟩ := by
  unfold format?
  split
  . next hname =>
    have hparts := isIdentifierPart_of_mem h
    exact absurd (hparts '#' (by simp [hname])) (by decide)
  . exact new?_of_isIdentifier h

end Code.Ident

/-- A computation that may end in an error, or in the refusal of a constructor, of which nothing is
told. -/
abbrev Attempt (ε : Type) := ExceptT ε Option

namespace Attempt

variable {ε δ α β : Type}

/-- What calls no constructor. -/
def of (x : Except ε α) : Attempt ε α :=
  ExceptT.mk (some x)

/-- What a constructor gives. -/
def made (x : Option α) : Attempt ε α :=
  ExceptT.lift x

theorem of_bind {x : Except ε α} {f : α → Attempt ε β} {g : α → Except ε β}
    (h : ∀ a, x = .ok a → f a = of (g a))
    : of x >>= f = of (x >>= g) := by
  cases x with
  | error e => rfl
  | ok a => exact h a rfl

theorem made_bind {x : Option α} {a : α} (h : x = some a) (f : α → Attempt ε β)
    : made x >>= f = f a := by
  subst h
  rfl

theorem adapt_of (f : ε → δ) (x : Except ε α) : ExceptT.adapt f (of x) = of (x.mapError f) := by
  rfl

end Attempt

namespace Member

/-- A member whose property and method have names that are identifiers. -/
def WellNamed : Member → Prop
  | .getter method p => isIdentifier p.name ∧ isIdentifier method
  | .setter method p => isIdentifier p.name ∧ isIdentifier method
  | _ => True

theorem wellNamed_of_model {c : Config} {d : Descriptor} {proxy : ProxyClass}
    (h : c.model d = .ok proxy)
    : ∀ m ∈ proxy.members, m.WellNamed := by
  intro m hm
  rcases Config.exists_member_of_model h hm with hm | ⟨p, hp, k, rfl⟩
  . simp only [List.mem_cons, List.not_mem_nil, or_false] at hm
    rcases hm with rfl | rfl | rfl
    . trivial
    . trivial
    . trivial
  . have hname := k.isIdentifier_nameFor hp
    cases k with
    | getter => exact ⟨hp, hname⟩
    | setter => exact ⟨hp, hname⟩

end Member

namespace Rust.Strict

/-! Writing a proxy, with constructors that may refuse. -/

def identifier (name : String) : Attempt RustError Ident :=
  if isUnrawable name then throw (.reservedIdentifier name)
  else if isRustKeyword name then .made (Ident.newRaw? name)
  else .made (Ident.new? name)

/-- The accessor of a property that is written in the given way. -/
def accessor (c : ProxyClass) (function : Ident → Ident → Ty → Function) (method : String)
    (p : Property) : Attempt RustError (Option Operation) := do
  let name ← .made (Ident.format? (snakeCase method))
  let field ← identifier p.name
  let type ← .of (propertyType c p)
  pure (some (.accessor (function name field type)))

def operation? (c : ProxyClass) : Member → Attempt RustError (Option Operation)
  | .flag => pure none
  | .isInitialized => pure (some (.marker flagReader))
  | .setInitialized => pure (some (.marker flagWriter))
  | .getter method p => accessor c getterFunction method p
  | .setter method p => accessor c setterFunction method p

def operations (c : ProxyClass) : List Member → Attempt RustError (List Operation)
  | [] => pure []
  | m :: ms => do
    let o ← operation? c m
    let os ← operations c ms
    pure (o.toList ++ os)

def items (c : ProxyClass) (visibility : Visibility) : Attempt RustError (List Item) := do
  let name ← identifier c.name
  let base ← .of (path c.base)
  let marker ← .of (path c.marker)
  let _ ← .made (Ident.format? baseField.name)
  let _ ← .made (Ident.format? flagField.name)
  let os ← operations c c.members
  pure
    [structItem c visibility name base, inherentItem name base (os.filterMap Operation.accessor?),
      conversionItem name base, derefItem name base, derefMutItem name,
      markerItem name marker (os.filterMap Operation.marker?)]

def render (c : ProxyClass) (config : Config) : Attempt EmissionError String := do
  let is ← (items c .everyone).adapt .rust
  let is ← .of (readBack is)
  pure (header config.banner (Text.join "::" c.namespaceSegments) ++ fileText is)

variable {c : ProxyClass}

theorem identifier_eq {name : String} (h : isIdentifier name)
    : identifier name = .of (Rust.identifier name) := by
  unfold identifier Rust.identifier
  split
  . rfl
  . next hraw =>
    split
    . next hkeyword =>
      rw [Ident.newRaw?_of_isIdentifier h hraw, hkeyword]
      rfl
    . next hkeyword =>
      rw [Ident.new?_of_isIdentifier h, eq_false_of_ne_true hkeyword]
      rfl

/-- A name that is not checked before is refused. -/
example : (identifier "2fa").run = none := by rfl

theorem accessor_eq {function : Ident → Ident → Ty → Function} {method : String} {p : Property}
    (hp : isIdentifier p.name) (hmethod : isIdentifier method)
    : accessor c function method p
        =
      .of (do
        let field ← Rust.identifier p.name
        let type ← propertyType c p
        .ok (some (.accessor (function (plain (snakeCase method)) field type)))) := by
  have hname := Ident.format?_of_isIdentifier (isIdentifier_snakeCase hmethod)
  rw [accessor, Attempt.made_bind hname, identifier_eq hp]
  apply Attempt.of_bind
  intro field _
  apply Attempt.of_bind
  intro type _
  rfl

theorem operation?_eq {m : Member} (h : m.WellNamed)
    : operation? c m = .of (Rust.operation? c m) := by
  cases m with
  | flag => rfl
  | isInitialized => rfl
  | setInitialized => rfl
  | getter method p => exact accessor_eq h.left h.right
  | setter method p => exact accessor_eq h.left h.right

theorem operations_eq {ms : List Member} (h : ∀ m ∈ ms, m.WellNamed)
    : operations c ms = .of (Rust.operations c ms) := by
  induction ms with
  | nil => rfl
  | cons m ms ih =>
    rw [List.forall_mem_cons] at h
    rw [operations, Rust.operations, operation?_eq h.left]
    apply Attempt.of_bind
    intro o _
    rw [ih h.right]
    apply Attempt.of_bind
    intro os _
    rfl

theorem items_eq {visibility : Visibility} (hname : isIdentifier c.name)
    (hmembers : ∀ m ∈ c.members, m.WellNamed)
    : items c visibility = .of (Rust.items c visibility) := by
  rw [items, Rust.items, identifier_eq hname]
  apply Attempt.of_bind
  intro name _
  apply Attempt.of_bind
  intro base _
  apply Attempt.of_bind
  intro marker _
  rw [Attempt.made_bind (a := baseField) (by decide)]
  rw [Attempt.made_bind (a := flagField) (by decide)]
  rw [operations_eq hmembers]
  apply Attempt.of_bind
  intro os _
  rfl

theorem render_eq {config : Config} (hname : isIdentifier c.name)
    (hmembers : ∀ m ∈ c.members, m.WellNamed)
    : render c config = .of (Rust.render c config) := by
  rw [render, Rust.render, items_eq hname hmembers, Attempt.adapt_of]
  apply Attempt.of_bind
  intro is _
  apply Attempt.of_bind
  intro is _
  rfl

end Rust.Strict

/-- The code of a proxy. In PHP it is text from the start, without constructors. -/
def Target.strictRender (t : Target) (c : ProxyClass) (config : Config)
    : Attempt EmissionError String :=
  match t with
  | php => .of (Php.render c config)
  | rust => Rust.Strict.render c config

namespace Config

def strictGenerate (c : Config) (d : Descriptor) : Attempt GenerationError Source := do
  let proxy ← .of (c.model d)
  let code ← (c.target.strictRender proxy c).adapt .emission
  pure
    { namespaceName := Text.join c.target.separator proxy.namespaceSegments
      className := proxy.qualifiedName.join c.target.separator
      path := proxy.relativePath c.target
      code }

def strictGenerateNamed (c : Config) (r : Registry) (name : String)
    : Attempt GenerationError Source := do
  let d ← .of ((r.resolve name).mapError .resolution)
  c.strictGenerate d

theorem strictGenerate_eq (c : Config) (d : Descriptor)
    : c.strictGenerate d = .of (c.generate d) := by
  unfold strictGenerate generate
  apply Attempt.of_bind
  intro proxy hmodel
  have hrender : c.target.strictRender proxy c = .of (c.target.render proxy c) := by
    cases c.target with
    | php => rfl
    | rust =>
      exact Rust.Strict.render_eq (wellNamed_of_model hmodel).left.name
        (Member.wellNamed_of_model hmodel)
  rw [hrender, Attempt.adapt_of]
  apply Attempt.of_bind
  intro code _
  rfl

/-- No constructor refuses, whatever the registry and the name: the outcome is the source or the
error. -/
theorem strictGenerateNamed_run (c : Config) (r : Registry) (name : String)
    : (c.strictGenerateNamed r name).run = some (c.generateNamed r name) := by
  have h : c.strictGenerateNamed r name = .of (c.generateNamed r name) := by
    unfold strictGenerateNamed generateNamed
    apply Attempt.of_bind
    intro d _
    exact c.strictGenerate_eq d
  rw [h]
  rfl

end Config

end LazyProxy
