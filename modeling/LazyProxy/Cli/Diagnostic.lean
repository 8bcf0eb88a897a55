import LazyProxy.Layout.Wrap
import LazyProxy.Manifest.Error
import LazyProxy.Target.Error

/-!
Errors as they are shown on a terminal.
-/

namespace LazyProxy.Cli

/-- What is shown of an error. -/
structure Diagnostic where
  code : String
  message : String
  causes : List String := []
  help : Option String := none
deriving DecidableEq, Repr

namespace Diagnostic

def ofManifest (e : ManifestError) : Diagnostic :=
  ⟨e.code, e.message, e.causes, e.help?⟩

def ofGeneration (e : GenerationError) : Diagnostic :=
  ⟨e.code, e.message, e.causes, some e.help⟩

/-- The width at which lines are wrapped. -/
def lineWidth : Nat := 78

/-- The causes below each other. A line on the left leads to the last of them. -/
def renderCauses : List String → String
  | [] => ""
  | [cause] => Layout.wrap lineWidth "  ╰─▶ " "      " cause ++ "\n"
  | cause :: causes => Layout.wrap lineWidth "  ├─▶ " "  │   " cause ++ "\n" ++ renderCauses causes

def renderHelp : Option String → String
  | none => ""
  | some help => Layout.wrap lineWidth "  help: " "        " help ++ "\n"

def render (d : Diagnostic) : String :=
  d.code ++ "\n\n" ++ Layout.wrap lineWidth "  × " "  │ " d.message ++ "\n" ++
    renderCauses d.causes ++ renderHelp d.help

end Diagnostic

end LazyProxy.Cli
