import LazyProxy.Files.Path
import LazyProxy.Naming.SnakeCase
import LazyProxy.Proxy.Model
import LazyProxy.Target.Config

/-!
Where the file of a proxy goes below the output directory.
-/

namespace LazyProxy

namespace Target

/-- The directories of a proxy's file. Rust has its modules in lower case, and none for the crate.
-/
def directories (target : Target) (namespaceSegments : List String) : List String :=
  match target with
  | php => namespaceSegments
  | rust =>
    (namespaceSegments.dropWhile (· == "crate")).map fun s =>
      String.ofList (Text.lower s.toList)

/-- The name of a proxy's file. -/
def fileName (target : Target) (className : String) : String :=
  match target with
  | php => className ++ "." ++ target.fileExtension
  | rust => snakeCase className ++ "." ++ target.fileExtension

end Target

/-- The path of a proxy's file. -/
def ProxyClass.relativePath (c : ProxyClass) (target : Target) : String :=
  (target.directories c.namespaceSegments ++ [target.fileName c.name]).foldl appendPath ""

end LazyProxy
