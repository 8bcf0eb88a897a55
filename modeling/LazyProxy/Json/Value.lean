import LazyProxy.Json.Binary64

/-!
JSON values. Objects keep their fields in order, repeated ones included.
-/

namespace LazyProxy

namespace Json

inductive Number where
  | integer (n : Int)
  | float (negative : Bool) (magnitude : Binary64)
deriving DecidableEq, Repr

end Json

inductive Json where
  | null
  | bool (b : Bool)
  | number (n : Json.Number)
  | string (s : String)
  | array (elems : List Json)
  | object (fields : List (String × Json))
deriving Repr

end LazyProxy
