import LazyProxy.Cli.Usage

/-!
Reading the arguments of a command.
-/

namespace LazyProxy.Cli

/-- Why arguments cannot be used. -/
inductive UsageError where
  | missingCommand
  | unknownCommand
  | unknownArgument
  | missingArgument
  | repeatedArgument
  | unexpectedValue
  /-- A value that cannot be used, or none where one is needed. -/
  | invalidValue
deriving DecidableEq, Repr

def UsageError.message : UsageError → String
  | missingCommand => "a command is missing"
  | unknownCommand => "there is no such command"
  | unknownArgument => "an argument is unknown"
  | missingArgument => "a required argument is missing"
  | repeatedArgument => "an argument is given more than once"
  | unexpectedValue => "a value is given where none belongs"
  | invalidValue => "a value cannot be used or is missing"

/-- What was given to a command. -/
structure Arguments where
  operands : List (Operand × String) := []
  /-- The parameters with their values, in the order in which they were given. -/
  values : List (Parameter × String) := []
  /-- The parameters that take no value. -/
  flags : List Parameter := []
deriving DecidableEq, Repr

namespace Arguments

def operand? (a : Arguments) (o : Operand) : Option String :=
  a.operands.lookup o

/-- All values of a parameter. -/
def valuesOf (a : Arguments) (p : Parameter) : List String :=
  (a.values.filter (·.1 = p)).map (·.2)

/-- The value of a parameter that is given once at most. -/
def value? (a : Arguments) (p : Parameter) : Option String :=
  a.values.lookup p

def has (a : Arguments) (p : Parameter) : Bool :=
  a.flags.contains p || (a.value? p).isSome

def addOperand (a : Arguments) (o : Operand) (value : String) : Except UsageError Arguments :=
  if o.accepts value then .ok { a with operands := a.operands ++ [(o, value)] }
  else .error .invalidValue

def addValue (a : Arguments) (p : Parameter) (value : String) : Except UsageError Arguments :=
  if a.has p ∧ !p.repeats then .error .repeatedArgument
  else if p.accepts value then .ok { a with values := a.values ++ [(p, value)] }
  else .error .invalidValue

def addFlag (a : Arguments) (p : Parameter) : Except UsageError Arguments :=
  if a.has p then .error .repeatedArgument else .ok { a with flags := a.flags ++ [p] }

end Arguments

/-- How a parameter is named. -/
inductive Spelling where
  | long (name : String)
  | short (c : Char)
deriving DecidableEq, Repr

def Parameter.isSpelled (p : Parameter) : Spelling → Bool
  | .long name => p.long = name
  | .short c => p.short? = some c

/-- What an argument looks like. -/
inductive Shape where
  | word
  /-- Two hyphens. What comes behind them are words. -/
  | divider
  /-- A parameter, maybe with a value in the same argument. -/
  | parameter (spelling : Spelling) (value : Option String)
deriving DecidableEq, Repr

/-- The characters behind a sign, which may be an equals sign. -/
def attachedValue : List Char → Option String
  | [] => none
  | '=' :: cs => some (String.ofList cs)
  | cs => some (String.ofList cs)

def Shape.of (argument : String) : Shape :=
  match argument.toList with
  | ['-', '-'] => .divider
  | '-' :: '-' :: cs =>
    .parameter (.long (String.ofList (cs.takeWhile (· != '='))))
      (attachedValue (cs.dropWhile (· != '=')))
  | '-' :: c :: cs => .parameter (.short c) (attachedValue cs)
  | _ => .word

/-- Something given whose value is not yet checked. -/
inductive Pending where
  | operand (o : Operand) (value : String)
  /-- A parameter. Its value is the next argument, unless that one is a parameter too. -/
  | parameter (p : Parameter) (value : Option String)
deriving DecidableEq, Repr

/-- How far arguments have been read. Each is checked when the next one comes. -/
structure Reading where
  arguments : Arguments := {}
  pending : Option Pending := none
  /-- The operands to come. -/
  expected : List Operand
deriving DecidableEq, Repr

namespace Reading

/-- What was given so far, all of it checked. -/
def settle (r : Reading) : Except UsageError Arguments :=
  match r.pending with
  | none => .ok r.arguments
  | some (.operand o value) => r.arguments.addOperand o value
  | some (.parameter p (some value)) => r.arguments.addValue p value
  | some (.parameter _ none) => .error .invalidValue

/-- A word is the next operand. -/
def addWord (r : Reading) (word : String) : Except UsageError Reading := do
  match r.expected with
  | [] => .error .unknownArgument
  | o :: expected => .ok ⟨← r.settle, some (.operand o word), expected⟩

/-- A parameter comes. Without a value in the same argument, it waits for the next one. -/
def addParameter (r : Reading) (p : Parameter) (value : Option String) :
    Except UsageError Reading := do
  match value with
  | some value => .ok { r with arguments := ← (← r.settle).addValue p value, pending := none }
  | none => .ok { r with arguments := ← r.settle, pending := some (.parameter p none) }

/-- A parameter comes that takes no value. Behind one letter there may be others. -/
def addFlag (r : Reading) (p : Parameter) (spelling : Spelling) (value : Option String) :
    Except UsageError Reading := do
  match spelling, value with
  | .long _, some _ => .error .unexpectedValue
  | _, _ => .ok { r with arguments := ← (← r.settle).addFlag p, pending := none }

end Reading

/-- Reads arguments, which are none but words if `literal` holds. It stops where help is asked
for. -/
def readArguments (form : CommandForm) (literal : Bool) (r : Reading) :
    List String → Except UsageError Arguments
  | [] => r.settle
  | argument :: rest => do
    match if literal then .word else Shape.of argument with
    | .divider => readArguments form true r rest
    | .word =>
      match literal, r.pending with
      | false, some (.parameter p none) =>
        readArguments form literal { r with pending := some (.parameter p (some argument)) } rest
      | _, _ => readArguments form literal (← r.addWord argument) rest
    | .parameter spelling value =>
      match (form.parameters.map (·.1)).find? (·.isSpelled spelling) with
      | none => .error .unknownArgument
      | some p =>
        if p.takesValue then readArguments form literal (← r.addParameter p value) rest
        else
          let r ← r.addFlag p spelling value
          if p = .help then .ok r.arguments else readArguments form literal r rest

end LazyProxy.Cli
