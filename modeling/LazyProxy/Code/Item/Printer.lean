import LazyProxy.Code.Item
import LazyProxy.Code.Printer
import LazyProxy.Text.Split

/-!
The layout of items, and of the files that hold them.
-/

namespace LazyProxy.Code

open Layout

/-- The end of a line, with the indentation of the next one changed. -/
def lineEnd (offset : Int) : Box :=
  .brk { blank := unbounded, offset }

/-- Lines between braces, each of which ends with a line end. The last one is indented less. -/
def bracedLines (lines : List (List Box)) : List Box :=
  .text "\x7b" :: (if lines.isEmpty then [] else [lineEnd 0]) ++ go lines
where
  go : List (List Box) → List Box
    | [] => []
    | [l] => l ++ [lineEnd (-step)]
    | l :: ls => l ++ [lineEnd 0] ++ go ls

/-- Whether a text can stand in a block comment: the comments in it are closed, and it closes none
that it has not opened. -/
def commentsMatch (depth : Nat) : List Char → Bool
  | [] => depth == 0
  | [c] => depth == 0 && c != '/'
  | c :: d :: cs =>
    if c == '/' && d == '*' then
      if cs.isEmpty then false else commentsMatch (depth + 1) cs
    else if c == '*' && d == '/' then
      if depth == 0 || cs.isEmpty then false else commentsMatch (depth - 1) cs
    else commentsMatch depth (d :: cs)

/-- A text without the blanks at its end. -/
def dropSpaces (s : String) : String :=
  String.ofList (s.toList.reverse.dropWhile (· == ' ')).reverse

/-- A text without the blanks at the ends of all its lines but the last. -/
def dropInnerSpaces (s : String) : String :=
  match (Text.splitWhen (· == '\n') s.toList).reverse with
  | [] => s
  | last :: before =>
    "\n".intercalate ((before.reverse.map fun l => dropSpaces (String.ofList l)) ++
      [String.ofList last])

/-- An attribute that is the documentation of an item. -/
def Attribute.doc? (a : Attribute) : Option String :=
  match a.path.ident?, a.body with
  | some ⟨"doc", false⟩, .value (.literal false .string text) => stringValue? text
  | _, _ => none

def Attribute.plainBoxes (a : Attribute) : List Box :=
  let body := match a.body with
    | .bare => []
    | .list d body =>
      [.text d.opening.toString] ++
        (if body.isEmpty then []
          else [indented (gap :: macroBoxes .start true body ++ [closingGap])]) ++
        [.text d.closing.toString]
    | .value e => .text " = " :: e.boxes false false
  .text "#[" :: a.path.boxes false ++ body ++ [.text "]", blank]

/-- An attribute. Documentation is written as a comment, if it can be. -/
def Attribute.boxes (a : Attribute) : List Box :=
  match a.doc? with
  | none => a.plainBoxes
  | some doc =>
    let cs := doc.toList
    if !cs.contains '\n' && cs.head? != some '/' then
      [.text "///", .text (dropSpaces doc), lineEnd 0]
    else if commentsMatch 0 cs && cs.head? != some '*' && cs.head? != some '/' then
      [.text "/**", .text (dropInnerSpaces doc), .text "*/", lineEnd 0]
    else a.plainBoxes

def Attribute.boxesOfList (as : List Attribute) : List Box :=
  as.flatMap Attribute.boxes

def Visibility.boxes : Visibility → List Box
  | .inherited => []
  | .everyone => [.text "pub "]
  | .within _ p =>
    let isRoot := match p.ident? with
      | some i => ["self", "super", "crate"].contains i.name
      | none => false
    .text (if isRoot then "pub(" else "pub(in ") :: p.boxes false ++ [.text ") "]

def FieldDef.boxes (f : FieldDef) : List Box :=
  Attribute.boxesOfList f.attributes ++ f.visibility.boxes ++
    f.name.box :: .text ": " :: f.type.boxes ++ [.text ","]

def Receiver.boxes : Receiver → List Box
  | .borrowed true => [.text "&mut self"]
  | .borrowed false => [.text "&self"]
  | .owned => [.text "self"]

def Signature.boxes (s : Signature) : List Box :=
  let params := (s.receiver.map Receiver.boxes).toList ++
    s.params.map fun (i, t) => i.box :: .text ": " :: t.boxes
  let inside := if params.isEmpty then [] else [Box.group 0 true none (gap :: listBoxes params)]
  [.text "fn ", s.name.box, .text "(", noBreak] ++ inside ++
    [.text ")", .group (-step) true none (Ty.outputBoxes s.output)]

def Function.boxes (f : Function) : List Box :=
  let head := f.visibility.boxes ++ f.signature.boxes
  Attribute.boxesOfList f.attributes ++
    match f.body with
    | none => [indented (head ++ [.text ";"])]
    | some body =>
      [indented (head ++ .text " " :: .text "\x7b" ::
        (if body.isEmpty then [] else lineEnd 0 :: Stmt.boxesOfList true body)), .text "\x7d"]

def ImplMember.boxes : ImplMember → List Box
  | .function f => f.boxes
  | .type i t =>
    [indented
      [.text "type ", i.box, .text " = ", noBreak, .group (-step) false none t.boxes, .text ";"]]

mutual

def Item.boxes : Item → List Box
  | .struct attributes visibility name fields =>
    Attribute.boxesOfList attributes ++
      [indented (visibility.boxes ++ .text "struct " :: name.box :: .text " " ::
        bracedLines (fields.map FieldDef.boxes)), .text "\x7d"]
  | .impl attributes traitPath self members =>
    let implemented := match traitPath with
      | none => []
      | some p => p.boxes false ++ [blank, .text "for "]
    Attribute.boxesOfList attributes ++
      [indented
        (.group (-step) false none
            (indented [.text "impl"] :: .text " " :: implemented ++ self.boxes) ::
          .text " " :: bracedLines (members.map ImplMember.boxes)), .text "\x7d"]
  | .trait attributes visibility name functions =>
    Attribute.boxesOfList attributes ++
      [indented (visibility.boxes ++ .text "trait " :: name.box :: .text " " ::
        bracedLines (functions.map Function.boxes)), .text "\x7d"]
  | .module attributes visibility name items =>
    Attribute.boxesOfList attributes ++
      [indented (visibility.boxes ++ .text "mod " :: name.box :: .text " " ::
        bracedLines (Item.boxesOfList items)), .text "\x7d"]
  | .importAll attributes visibility p =>
    Attribute.boxesOfList attributes ++ visibility.boxes ++ .text "use " :: p.boxes false ++
      [.text "::*;"]

def Item.boxesOfList : List Item → List (List Box)
  | [] => []
  | i :: is => i.boxes :: Item.boxesOfList is

end

/-- The text of a file with these items. -/
def fileText (items : List Item) : String :=
  Layout.render [.group 0 true none ((Item.boxesOfList items).flatMap (· ++ [lineEnd 0]))]

end LazyProxy.Code
