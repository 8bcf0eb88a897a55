import LazyProxy.Code.Item
import LazyProxy.Code.Writer

/-!
Items written as tokens.
-/

namespace LazyProxy.Code

open Token (word operator)

def Attribute.tokens (a : Attribute) : List Token :=
  let body := match a.body with
    | .bare => []
    | .list d body => [.group d body]
    | .value e => operator "=" ++ e.tokens
  operator "#" ++ [.group .bracket (a.path.tokens ++ body)]

def Attribute.tokensOfList (as : List Attribute) : List Token :=
  as.flatMap Attribute.tokens

def Visibility.tokens : Visibility → List Token
  | .inherited => []
  | .everyone => [word "pub"]
  | .within explicit p =>
    [word "pub", .group .paren ((if explicit then [word "in"] else []) ++ p.tokens)]

def FieldDef.tokens (f : FieldDef) : List Token :=
  Attribute.tokensOfList f.attributes ++ f.visibility.tokens ++ .ident f.name :: operator ":" ++
    f.type.tokens

def Receiver.tokens : Receiver → List Token
  | .borrowed mutable => operator "&" ++ mutTokens mutable ++ [word "self"]
  | .owned => [word "self"]

def Signature.tokens (s : Signature) : List Token :=
  let params := s.params.map fun (i, t) => .ident i :: operator ":" ++ t.tokens
  [word "fn", .ident s.name,
    .group .paren (commaSeparated ((s.receiver.map Receiver.tokens).toList ++ params))] ++
    Ty.outputTokens s.output

def Function.tokens (f : Function) : List Token :=
  Attribute.tokensOfList f.attributes ++ f.visibility.tokens ++ f.signature.tokens ++
    match f.body with
    | none => operator ";"
    | some body => [.group .brace (Stmt.tokensOfList body)]

def ImplMember.tokens : ImplMember → List Token
  | .function f => f.tokens
  | .type i t => word "type" :: .ident i :: operator "=" ++ t.tokens ++ operator ";"

mutual

def Item.tokens : Item → List Token
  | .struct attributes visibility name fields =>
    Attribute.tokensOfList attributes ++ visibility.tokens ++
      [word "struct", .ident name, .group .brace (commaSeparated (fields.map FieldDef.tokens))]
  | .impl attributes traitPath self members =>
    Attribute.tokensOfList attributes ++ word "impl" ::
      (match traitPath with | none => [] | some p => p.tokens ++ [word "for"]) ++ self.tokens ++
      [.group .brace (members.flatMap ImplMember.tokens)]
  | .trait attributes visibility name functions =>
    Attribute.tokensOfList attributes ++ visibility.tokens ++
      [word "trait", .ident name, .group .brace (functions.flatMap Function.tokens)]
  | .module attributes visibility name items =>
    Attribute.tokensOfList attributes ++ visibility.tokens ++
      [word "mod", .ident name, .group .brace (Item.tokensOfList items)]
  | .importAll attributes visibility p =>
    Attribute.tokensOfList attributes ++ visibility.tokens ++ word "use" :: p.tokens ++
      operator "::" ++ operator "*" ++ operator ";"

def Item.tokensOfList : List Item → List Token
  | [] => []
  | i :: is => i.tokens ++ Item.tokensOfList is

end

end LazyProxy.Code
