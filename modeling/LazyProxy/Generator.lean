import LazyProxy.Document.Inspection
import LazyProxy.Document.Registry
import LazyProxy.Target.Location
import LazyProxy.Target.Php
import LazyProxy.Target.Rust

/-!
From a described type to the source of its proxy.
-/

namespace LazyProxy

/-- The source of a proxy, and where it belongs. -/
structure Source where
  /-- The namespace as text. -/
  namespaceName : String
  /-- The name of the class with its namespace. -/
  className : String
  /-- The path of the file below the output directory. -/
  path : String
  code : String
deriving DecidableEq, Repr

namespace Target

def render (t : Target) (c : ProxyClass) (config : Config) : Except EmissionError String :=
  match t with
  | php => Php.render c config
  | rust => Rust.render c config

def renderMarker (t : Target) (config : Config) : Except EmissionError String :=
  match t with
  | php => Php.renderMarker config
  | rust => Rust.renderMarker config

end Target

namespace Config

/-- The segment and the marker's name, if both can be used. The segment is checked first. -/
def names (c : Config) : Except EmissionError (String × QualifiedName) :=
  if !isIdentifier c.effectiveSegment then .error (.invalidName .proxySegment c.effectiveSegment)
  else
    match QualifiedName.parse? c.effectiveMarker with
    | none => .error (.invalidName .marker c.effectiveMarker)
    | some marker =>
      if marker.segments.all isIdentifier then .ok (c.effectiveSegment, marker)
      else .error (.invalidName .marker c.effectiveMarker)

/-- The namespace of a type's proxy as text. -/
def namespaceName (c : Config) (d : Descriptor) (withName : Bool) : String :=
  Text.join c.target.separator (d.proxyNamespace c.effectiveSegment withName)

/-- The name of a type's proxy with its namespace. -/
def className (c : Config) (d : Descriptor) : String :=
  c.namespaceName d c.withName ++ c.target.separator ++ d.name.shortName

/-- The proxy of a type: its properties are collected, their accessors planned. -/
def model (c : Config) (d : Descriptor) : Except GenerationError ProxyClass := do
  let (segment, marker) ← c.names.mapError .emission
  let properties ← d.collectProperties.mapError .resolution
  .ok (.build d (d.plan properties) segment c.withName marker)

/-- The source of a type's proxy. -/
def generate (c : Config) (d : Descriptor) : Except GenerationError Source := do
  let proxy ← c.model d
  let code ← (c.target.render proxy c).mapError .emission
  .ok
    { namespaceName := Text.join c.target.separator proxy.namespaceSegments
      className := proxy.qualifiedName.join c.target.separator
      path := proxy.relativePath c.target
      code }

/-- The source of the proxy of a declared type. -/
def generateNamed (c : Config) (r : Registry) (name : String) : Except GenerationError Source := do
  let d ← (r.resolve name).mapError .resolution
  c.generate d

/-- The sources for names in order, up to the first that fails. -/
def generateEach (c : Config) (r : Registry) : List String → Except GenerationError (List Source)
  | [] => .ok []
  | name :: names => do
    let s ← c.generateNamed r name
    let ss ← c.generateEach r names
    .ok (s :: ss)

/-- The sources for all declared types in order. -/
def generateAll (c : Config) (r : Registry) : Except GenerationError (List Source) :=
  c.generateEach r r.names

/-- The source of the marker. -/
def markerSource (c : Config) : Except GenerationError String :=
  (c.target.renderMarker c).mapError .emission

end Config

end LazyProxy
