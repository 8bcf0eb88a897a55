import LazyProxy.Cli.Output
import LazyProxy.Cli.Request
import LazyProxy.Manifest.Decode

/-!
What the commands do. They reach files through `FileAccess` only, so that they run on a value as
well as on a disk.
-/

namespace LazyProxy.Cli

variable {m : Type → Type} [Monad m] [FileAccess m]

/-- The types that a manifest declares. -/
def loadRegistry (path : String) : m (Except CommandError Registry) := do
  match ← FileAccess.fileSize path with
  | .error e => return .error (.inaccessible path e)
  | .ok size =>
    if maxManifestSize < size then return .error (.tooLarge path size)
    else
      match ← FileAccess.readText path with
      | .error e => return .error (.manifest (.unreadable path e.message))
      | .ok text => return (Manifest.registryOfText text).mapError .manifest

/-- The sources for the types, or for all types if none is given. -/
def selectSources (r : Registry) (types : List String) (c : Config) :
    Except CommandError (List Source) :=
  (if types.isEmpty then c.generateAll r else c.generateEach r types).mapError .generation

def resolve (r : Registry) (typeName : String) : Except CommandError Descriptor :=
  (r.resolve typeName).mapError fun e => .generation (.resolution e)

def accessorText (a : Accessor) : String :=
  a.name ++ if a.generate then " (generate)" else " (skip)"

def planLine (p : AccessorPlan) : String :=
  "  " ++ p.property.name ++ ": " ++ accessorText p.getter ++ ", " ++ accessorText p.setter ++ "\n"

/-- The name of a type and a line for each of its properties. -/
def planText (r : Registry) (typeName : String) : Except CommandError String := do
  let d ← resolve r typeName
  let properties ← d.collectProperties.mapError fun e => .generation (.resolution e)
  .ok (d.name.display ++ "\n" ++ Text.join "" ((d.plan properties).map planLine))

def namespaceText (r : Registry) (typeName : String) (c : Config) : Except CommandError String := do
  let d ← resolve r typeName
  .ok (c.namespaceName d c.withName ++ "\n")

/-- Puts sources where they go. -/
def deliver (destination : Destination) (ss : List Source) : m Report := do
  match destination with
  | .standardOutput => return { output := Text.join "\n" (ss.map (·.code)) }
  | .directory path check =>
    if leadsUpwards path then return { failure := some (.upwards path) }
    else if check then checkSources path ss
    else writeSources path ss

/-- Runs a command that starts with a manifest. -/
def withRegistry (manifest : String) (run : Registry → m Report) : m Report := do
  match ← loadRegistry manifest with
  | .error e => return { failure := some e }
  | .ok r => run r

def Command.execute : Command → m Report
  | .generate manifest types config destination =>
    withRegistry manifest fun r =>
      match selectSources r types config with
      | .error e => return { failure := some e }
      | .ok ss => deliver destination ss
  | .plan manifest typeName => withRegistry manifest fun r => return .ofResult (planText r typeName)
  | .proxyNamespace manifest typeName config =>
    withRegistry manifest fun r => return .ofResult (namespaceText r typeName config)
  | .marker config => return .ofResult (config.markerSource.mapError .generation)

/-- Does what is asked for. -/
def Request.serve : Request → m Report
  | .run c => c.execute
  | .explain text => return { output := text }

end LazyProxy.Cli
