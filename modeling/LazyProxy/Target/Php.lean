import LazyProxy.Naming.Identifier
import LazyProxy.Proxy.Model
import LazyProxy.Target.Config
import LazyProxy.Target.Error
import LazyProxy.Target.Outline
import LazyProxy.Text.Split

/-!
Proxies in PHP: subclasses of the document class that read and write the inherited properties.
-/

namespace LazyProxy.Php

/-- The lines of a text. -/
def textLines (s : String) : List String :=
  (Text.lines s.toList).map String.ofList

/-- A line of a documentation comment. -/
def commentLine (line : String) : OutlineStep :=
  .line (if line = "" then " *" else " * " ++ line)

/-- What a file starts with: its opening tag, its namespace and the banner. -/
def header (namespaceSegments : List String) (banner : String) : List OutlineStep :=
  [.line "<?php", .newline] ++
    (if namespaceSegments.isEmpty then []
      else [.line ("namespace " ++ Text.join "\\" namespaceSegments ++ ";"), .newline]) ++
    (if banner = "" then []
      else [.line "/**"] ++ (textLines banner).map commentLine ++ [.line " */"])

def block (body : List OutlineStep) : OutlineStep :=
  .block "\x7b" "\x7d" body

def method (signature statement : String) : List OutlineStep :=
  [.line ("public function " ++ signature), block [.line statement]]

def memberSteps : Member → List OutlineStep
  | .flag => [.line "private $__isInitialized = false;"]
  | .isInitialized => method "__isInitialized()" "return $this->__isInitialized;"
  | .setInitialized =>
    method "__setInitialized($initialized)" "$this->__isInitialized = $initialized;"
  | .getter name p => method (name ++ "()") ("return $this->" ++ p.name ++ ";")
  | .setter name p =>
    method (name ++ "($" ++ p.name ++ ")") ("$this->" ++ p.name ++ " = $" ++ p.name ++ ";")

/-- Members with an empty line between neighbours. -/
def memberBlock : List Member → List OutlineStep
  | [] => []
  | [m] => memberSteps m
  | m :: ms => memberSteps m ++ .blankLines 1 :: memberBlock ms

/-- Whether a member is a setter whose parameter would have the name of the current object. -/
def assignsThis : Member → Bool
  | .setter _ p => p.name == "this"
  | _ => false

/-- What the file of a proxy consists of. -/
def classSteps (c : ProxyClass) (banner : String) : List OutlineStep :=
  header c.namespaceSegments banner ++
    [.line ("class " ++ c.name ++ " extends \\" ++ c.base.join "\\" ++ " implements \\" ++
        c.marker.join "\\"),
      block (memberBlock c.members)]

/-- The file of a proxy. -/
def render (c : ProxyClass) (config : Config) : Except EmissionError String :=
  if c.members.any assignsThis then .error (.invalidName .setterParameter "$this")
  else .ok (outlineText config.indent (classSteps c config.banner))

/-- What the file of the marker interface consists of. -/
def markerSteps (marker : QualifiedName) (banner : String) : List OutlineStep :=
  header marker.enclosing banner ++
    [.line ("interface " ++ marker.shortName),
      block [.line "public function __isInitialized();", .blankLines 1,
        .line "public function __setInitialized($initialized);"]]

/-- The file of the marker interface. -/
def renderMarker (config : Config) : Except EmissionError String :=
  match QualifiedName.parse? config.effectiveMarker with
  | none => .error (.invalidName .marker config.effectiveMarker)
  | some marker =>
    if marker.segments.all isIdentifier then
      .ok (outlineText config.indent (markerSteps marker config.banner))
    else .error (.invalidName .marker config.effectiveMarker)

end LazyProxy.Php
