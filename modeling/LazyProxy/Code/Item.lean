import LazyProxy.Code.Tree

/-!
Syntax trees of Rust items: structures, traits and their implementations, modules and imports.
-/

namespace LazyProxy.Code

inductive AttributeBody where
  | bare
  | list (d : Delimiter) (body : List Token)
  | value (e : Expr)

structure Attribute where
  path : Path
  body : AttributeBody

/-- Who may use an item. -/
inductive Visibility where
  | inherited
  | everyone
  /-- A module and what is in it. `explicit` tells whether the path stands behind `in`. -/
  | within (explicit : Bool) (p : Path)

structure FieldDef where
  attributes : List Attribute := []
  visibility : Visibility := .inherited
  name : Ident
  type : Ty

/-- How a method takes the value it is called on. -/
inductive Receiver where
  | borrowed (mutable : Bool)
  | owned
deriving DecidableEq

structure Signature where
  name : Ident
  receiver : Option Receiver := none
  params : List (Ident × Ty) := []
  output : Option Ty := none

/-- A function. Without a body it is only required. -/
structure Function where
  attributes : List Attribute := []
  visibility : Visibility := .inherited
  signature : Signature
  body : Option (List Stmt)

inductive ImplMember where
  | function (f : Function)
  | type (name : Ident) (t : Ty)

inductive Item where
  | struct (attributes : List Attribute) (visibility : Visibility) (name : Ident)
      (fields : List FieldDef)
  /-- Members of a type, or of its implementation of a trait. -/
  | impl (attributes : List Attribute) (trait : Option Path) (self : Ty) (members : List ImplMember)
  | trait (attributes : List Attribute) (visibility : Visibility) (name : Ident)
      (functions : List Function)
  | module (attributes : List Attribute) (visibility : Visibility) (name : Ident)
      (items : List Item)
  /-- An import of all that a path holds. -/
  | importAll (attributes : List Attribute) (visibility : Visibility) (p : Path)

end LazyProxy.Code
