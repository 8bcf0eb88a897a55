import LazyProxy.Target.Config
import LazyProxy.Text.Split

/-!
The commands with what may be given to them, and the texts that explain them.
-/

namespace LazyProxy.Cli

/-- What is given to a command by position. -/
inductive Operand where
  | manifest
  | typeName
deriving DecidableEq, Repr

namespace Operand

def placeholder : Operand → String
  | manifest => "<MANIFEST>"
  | typeName => "<TYPE>"

def about : Operand → String
  | manifest => "Type manifest (JSON)"
  | typeName => "Declared type name"

def accepts (o : Operand) (value : String) : Bool :=
  match o with
  | manifest => value ≠ ""
  | typeName => true

end Operand

/-- What is given to a command by name. -/
inductive Parameter where
  | type
  | out
  | withName
  | check
  | target
  | segment
  | marker
  | help
  | version
deriving DecidableEq, Repr

namespace Parameter

def long : Parameter → String
  | type => "type"
  | out => "out"
  | withName => "with-name"
  | check => "check"
  | target => "target"
  | segment => "segment"
  | marker => "marker"
  | help => "help"
  | version => "version"

def short? : Parameter → Option Char
  | type => some 't'
  | out => some 'o'
  | help => some 'h'
  | version => some 'V'
  | _ => none

/-- What stands for the value. A parameter without one is given by its name alone. -/
def placeholder? : Parameter → Option String
  | type => some "<TYPE>"
  | out => some "<DIR>"
  | target => some "<TARGET>"
  | segment => some "<SEGMENT>"
  | marker => some "<NAME>"
  | _ => none

def takesValue (p : Parameter) : Bool :=
  p.placeholder?.isSome

/-- Whether it may be given more than once. -/
def repeats (p : Parameter) : Bool :=
  p = type

def accepts (p : Parameter) (value : String) : Bool :=
  match p with
  | out => value ≠ ""
  | target => (Target.ofName? value).isSome
  | _ => true

/-- The names with the placeholder. -/
def synopsis (p : Parameter) : String :=
  let short := match p.short? with
    | some c => "-" ++ c.toString ++ ", "
    | none => "    "
  let value := match p.placeholder? with
    | some s => " " ++ s
    | none => ""
  short ++ "--" ++ p.long ++ value

end Parameter

inductive CommandName where
  | generate
  | plan
  | proxyNamespace
  | marker
deriving DecidableEq, Repr

/-- What may be given to a command. -/
structure CommandForm where
  about : String
  operands : List Operand
  /-- The parameters with what is said about them. -/
  parameters : List (Parameter × String)

def helpParameter : Parameter × String :=
  (.help, "Print help")

/-- The parameters of all commands that make proxies. -/
def configParameters : List (Parameter × String) :=
  [(.target, "Output language [default: " ++ ({} : Config).target.name ++
      "] [possible values: " ++ Text.join ", " (Target.all.map Target.name) ++ "]"),
    (.segment, "Namespace segment proxies are placed under (default: `" ++
      Target.php.defaultSegment ++ "` for php, `" ++ Target.rust.defaultSegment ++ "` for rust)"),
    (.marker, "Fully qualified capability marker the proxies implement")]

namespace CommandName

def text : CommandName → String
  | generate => "generate"
  | plan => "plan"
  | proxyNamespace => "namespace"
  | marker => "marker"

def all : List CommandName :=
  [generate, plan, proxyNamespace, marker]

def ofText? (s : String) : Option CommandName :=
  all.find? (·.text == s)

def form : CommandName → CommandForm
  | generate =>
    { about := "Generate proxy sources"
      operands := [.manifest]
      parameters :=
        [(.type, "Only generate these types (default: every declared type)"),
          (.out, "Write one file per proxy under this directory instead of printing"),
          (.withName, "Append the type's short name to the derived namespace"),
          (.check, "Fail if any generated file is missing or out of date, without writing")] ++
        configParameters ++ [helpParameter] }
  | plan =>
    { about := "Show the accessor plan of a type"
      operands := [.manifest, .typeName]
      parameters := [helpParameter] }
  | proxyNamespace =>
    { about := "Show the derived proxy namespace of a type"
      operands := [.manifest, .typeName]
      parameters :=
        (.withName, "Append the type's short name") :: configParameters ++ [helpParameter] }
  | marker =>
    { about := "Print the capability marker source"
      operands := []
      parameters := configParameters ++ [helpParameter] }

end CommandName

/-! Help texts. -/

def programName : String := "docproxy"

def versionText : String :=
  programName ++ " 0.1.0-alpha.1\n"

/-- Rows of two columns below a title. Without rows there is no table. -/
def table? (title : String) (rows : List (String × String)) : Option String :=
  let width := (rows.map (·.1.length)).foldl max 0
  let line (row : String × String) : String :=
    "  " ++ row.1.pushn ' ' (width - row.1.length) ++ "  " ++ row.2
  if rows.isEmpty then none else some (Text.join "\n" (title :: rows.map line))

/-- A help text. `usage` is what stands behind the name of the program. -/
def helpText (about usage : String) (tables : List (Option String)) : String :=
  Text.join "\n\n"
    (about :: ("Usage: " ++ programName ++ " " ++ usage) :: tables.filterMap id) ++ "\n"

def parameterRows (ps : List (Parameter × String)) : List (String × String) :=
  ps.map fun (p, about) => (p.synopsis, about)

namespace CommandName

/-- The name with what may stand behind it. Help alone is not worth mention. -/
def synopsis (c : CommandName) : String :=
  let options := if c.form.parameters.length ≤ 1 then [] else ["[OPTIONS]"]
  Text.join " " (c.text :: options ++ c.form.operands.map (·.placeholder))

def help (c : CommandName) : String :=
  helpText c.form.about c.synopsis
    [table? "Arguments:" (c.form.operands.map fun o => (o.placeholder, o.about)),
      table? "Options:" (parameterRows c.form.parameters)]

end CommandName

def aboutHelp : String := "Print this message or the help of the given subcommand(s)"

/-- The help text for the program. -/
def programHelp : String :=
  helpText "Generate lazy-initialization proxies for document types" "<COMMAND>"
    [table? "Commands:"
        (CommandName.all.map (fun c => (c.text, c.form.about)) ++ [("help", aboutHelp)]),
      table? "Options:" (parameterRows [helpParameter, (.version, "Print version")])]

/-- The help text for the command that shows help texts. -/
def helpOfHelp : String :=
  helpText aboutHelp "help [COMMAND]..."
    [table? "Arguments:" [("[COMMAND]...", "Print help for the subcommand(s)")]]

end LazyProxy.Cli
