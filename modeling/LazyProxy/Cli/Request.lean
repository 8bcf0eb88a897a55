import LazyProxy.Cli.Arguments

/-!
What the program is asked to do.
-/

namespace LazyProxy.Cli

/-- Where generated sources go. -/
inductive Destination where
  | standardOutput
  /-- The files of a directory. They are only compared with the sources if `check` holds. -/
  | directory (path : String) (check : Bool)
deriving DecidableEq, Repr

inductive Command where
  /-- Makes the proxies of the types, or of all types if none is given. -/
  | generate (manifest : String) (types : List String) (config : Config)
      (destination : Destination)
  | plan (manifest typeName : String)
  | proxyNamespace (manifest typeName : String) (config : Config)
  | marker (config : Config)
deriving DecidableEq, Repr

namespace Arguments

def require (a : Arguments) (o : Operand) : Except UsageError String :=
  match a.operand? o with
  | some value => .ok value
  | none => .error .missingArgument

def config (a : Arguments) : Config where
  target := ((a.value? .target).bind Target.ofName?).getD .php
  segment := a.value? .segment
  marker := a.value? .marker
  withName := a.has .withName

/-- Nothing can be checked but the files of a directory. -/
def destination (a : Arguments) : Except UsageError Destination :=
  match a.value? .out with
  | some path => .ok (.directory path (a.has .check))
  | none => if a.has .check then .error .missingArgument else .ok .standardOutput

end Arguments

/-- The command of a name with what was given to it. -/
def Command.of (a : Arguments) : CommandName → Except UsageError Command
  | .generate => do
    .ok (.generate (← a.require .manifest) (a.valuesOf .type) a.config (← a.destination))
  | .plan => do .ok (.plan (← a.require .manifest) (← a.require .typeName))
  | .proxyNamespace => do
    .ok (.proxyNamespace (← a.require .manifest) (← a.require .typeName) a.config)
  | .marker => .ok (.marker a.config)

inductive Request where
  | run (c : Command)
  /-- A text that explains the program. -/
  | explain (text : String)
deriving DecidableEq, Repr

namespace Request

/-- The request made by the arguments behind the name of a command. -/
def ofCommand (c : CommandName) (arguments : List String) : Except UsageError Request := do
  let a ← readArguments c.form false ⟨{}, none, c.form.operands⟩ arguments
  if a.has .help then .ok (.explain c.help) else .ok (.run (← Command.of a c))

/-- The help that is asked for by name. -/
def ofHelp : List String → Except UsageError Request
  | [] => .ok (.explain programHelp)
  | ["help"] => .ok (.explain helpOfHelp)
  | [name] =>
    match CommandName.ofText? name with
    | some c => .ok (.explain c.help)
    | none => .error .unknownCommand
  | _ => .error .unknownCommand

/-- Two hyphens come before the name of a command, where they do not belong. -/
def ofDivided : List String → Except UsageError Request
  | [] => .error .missingCommand
  | name :: _ =>
    if name = "help" ∨ (CommandName.ofText? name).isSome then .error .unknownArgument
    else .error .unknownCommand

/-- The request made by a parameter in the place of a command. -/
def ofParameter (spelling : Spelling) (value : Option String) : Except UsageError Request :=
  match [Parameter.help, .version].find? (·.isSpelled spelling), spelling, value with
  | none, _, _ => .error .unknownArgument
  | some _, .long _, some _ => .error .unexpectedValue
  | some .version, _, _ => .ok (.explain versionText)
  | some _, _, _ => .ok (.explain programHelp)

/-- The request made by the arguments of the program. -/
def ofArguments : List String → Except UsageError Request
  | [] => .error .missingCommand
  | argument :: rest =>
    match Shape.of argument with
    | .divider => ofDivided rest
    | .parameter spelling value => ofParameter spelling value
    | .word =>
      if argument = "help" then ofHelp rest
      else
        match CommandName.ofText? argument with
        | some c => ofCommand c rest
        | none => .error .unknownCommand

end Request

end LazyProxy.Cli
