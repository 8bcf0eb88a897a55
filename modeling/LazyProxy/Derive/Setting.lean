import LazyProxy.Code.Item
import LazyProxy.Code.Reader

/-!
Settings in the attributes of a structure and of its fields: `#[proxy(skip)]`, `#[proxy(getter =
false)]` and the like.
-/

namespace LazyProxy

open Code

/-- What a setting may be written for. -/
inductive SettingPlace where
  | type
  | field
deriving DecidableEq, Repr

/-- Something that has to stand inside a setting. -/
inductive SettingPart where
  | boolean
  | string
  | name
deriving DecidableEq, Repr

def SettingPart.text : SettingPart → String
  | boolean => "boolean literal"
  | string => "string literal"
  | name => "ident"

inductive SettingError where
  | bare
  | valued
  | missingComma
  | missingEquals
  /-- A part is missing, maybe because the settings end there. -/
  | missingPart (part : SettingPart) (atEnd : Bool)
  | endOfSettings
  | literalSetting
  | otherSetting
  | unsupported (place : SettingPlace)
deriving DecidableEq, Repr

def SettingError.message : SettingError → String
  | bare => "expected attribute arguments in parentheses: #[proxy(...)]"
  | valued => "expected parentheses: #[proxy(...)]"
  | missingComma => "expected `,`"
  | missingEquals => "expected `=`"
  | missingPart part atEnd =>
    (if atEnd then "unexpected end of input, " else "") ++ "expected " ++ part.text
  | endOfSettings => "unexpected end of input, expected nested attribute"
  | literalSetting => "unexpected literal in nested attribute, expected ident"
  | otherSetting => "unexpected token in nested attribute, expected ident"
  | unsupported .type => "unsupported proxy attribute, expected `module = \"...\"`"
  | unsupported .field => "unsupported proxy attribute, expected `skip`, `getter` or `setter`"

/-- The further names of a setting's path. -/
def readSettingNames : Nat → List Token → Except SettingError (List Ident × List Token)
  | 0, ts => .ok ([], ts)
  | n + 1, ts =>
    match after? "::" ts with
    | none => .ok ([], ts)
    | some (.ident i :: ts) => do
      let (is, ts) ← readSettingNames n ts
      .ok (i :: is, ts)
    | some ts => .error (.missingPart .name ts.isEmpty)

/-- What a setting is called. Every word may occur in it. -/
def readSettingPath (ts : List Token) : Except SettingError (Path × List Token) := do
  let (rooted, ts) := match after? "::" ts with
    | some ts => (true, ts)
    | none => (false, ts)
  match ts with
  | [] => .error .endOfSettings
  | .ident i :: ts => do
    let (is, ts) ← readSettingNames ts.length ts
    .ok (.mk rooted ((i :: is).map (.mk · .none)), ts)
  | ts => .error (if (readLiteral ts).isSome then .literalSetting else .otherSetting)

/-- The Boolean behind an equals sign. -/
def readBooleanValue (ts : List Token) : Except SettingError (Bool × List Token) :=
  match after? "=" ts with
  | none => .error .missingEquals
  | some ts =>
    match readLiteral ts with
    | some (.bool b, ts) => .ok (b, ts)
    | _ => .error (.missingPart .boolean ts.isEmpty)

/-- The string behind an equals sign. -/
def readStringValue (ts : List Token) : Except SettingError (String × List Token) :=
  match after? "=" ts with
  | none => .error .missingEquals
  | some ts =>
    match ts with
    | .literal .string written :: rest =>
      match stringValue? written with
      | some s => .ok (s, rest)
      | none => .error (.missingPart .string false)
    | _ => .error (.missingPart .string ts.isEmpty)

/-- Settings with commas between them, to the end of the tokens. `value` reads what follows the name
of a setting. -/
def readSettings {α : Type} (value : Path → List Token → Except SettingError (α × List Token)) :
    Nat → List Token → Except SettingError (List α)
  | 0, _ => .ok []
  | n + 1, ts => do
    let (p, ts) ← readSettingPath ts
    let (s, ts) ← value p ts
    match ts with
    | [] => .ok [s]
    | _ =>
      match after? "," ts with
      | none => .error .missingComma
      | some [] => .ok [s]
      | some ts => do
        let ss ← readSettings value n ts
        .ok (s :: ss)

/-- Whether a path is a single word. -/
def isWord (p : Path) (word : String) : Bool :=
  p.ident? == some ⟨word, false⟩

/-- The settings in an attribute. Attributes of other names have none. -/
def settingsIn {α : Type} (value : Path → List Token → Except SettingError (α × List Token))
    (a : Attribute) : Except SettingError (List α) :=
  if !isWord a.path "proxy" then .ok []
  else
    match a.body with
    | .bare => .error .bare
    | .value _ => .error .valued
    | .list _ [] => .ok []
    | .list _ body => readSettings value body.length body

/-- The settings in attributes, in order. -/
def settingsInAll {α : Type} (value : Path → List Token → Except SettingError (α × List Token)) :
    List Attribute → Except SettingError (List α)
  | [] => .ok []
  | a :: as => do
    let ss ← settingsIn value a
    let more ← settingsInAll value as
    .ok (ss ++ more)

/-- The value of `module`, the only setting of a structure. -/
def readModuleSetting (p : Path) (ts : List Token) : Except SettingError (String × List Token) :=
  if isWord p "module" then readStringValue ts else .error (.unsupported .type)

/-- The module that a structure's proxy is to be put in. The last setting counts. -/
def moduleSetting? (as : List Attribute) : Except SettingError (Option String) :=
  (settingsInAll readModuleSetting as).map List.getLast?

/-- What is set about a field. -/
structure FieldSettings where
  /-- The field is no property. -/
  skipped : Bool := false
  /-- The proxy has to define the getter unless this is false. -/
  getter : Bool := true
  /-- The proxy has to define the setter unless this is false. -/
  setter : Bool := true
deriving DecidableEq, Repr

/-- A setting of a field, as what it changes. -/
def readFieldSetting (p : Path) (ts : List Token) :
    Except SettingError ((FieldSettings → FieldSettings) × List Token) :=
  if isWord p "skip" then .ok (fun s => { s with skipped := true }, ts)
  else if isWord p "getter" then do
    let (b, ts) ← readBooleanValue ts
    .ok (fun s => { s with getter := b }, ts)
  else if isWord p "setter" then do
    let (b, ts) ← readBooleanValue ts
    .ok (fun s => { s with setter := b }, ts)
  else .error (.unsupported .field)

/-- What the attributes of a field set. Later settings take the place of earlier ones. -/
def fieldSettings (as : List Attribute) : Except SettingError FieldSettings :=
  (settingsInAll readFieldSetting as).map fun ss => ss.foldl (fun s change => change s) {}

end LazyProxy
