import Mathlib.Data.List.Basic
import LazyProxy.Proofs.Naming.Identifier
import LazyProxy.Proofs.Target.Outline
import LazyProxy.Proxy.Model

/-!
This module contains a reader for files with one class in PHP. It takes the text apart into lexemes
and puts these together to a class again, without a look at what the text was written from.
-/

namespace LazyProxy.Php

open Text

/-- The lexeme that a word of these characters is. -/
def wordLexeme (word : List Char) : List String :=
  if word.isEmpty then [] else [String.ofList word]

/-- The lexemes of characters that a word may go on with. Words are as long as they can be, and
other characters stand for themselves unless they are blank. -/
def lexemesAfter (word : List Char) : List Char → List String
  | [] => wordLexeme word
  | c :: cs =>
    if isIdentifierPart c then lexemesAfter (word ++ [c]) cs
    else wordLexeme word ++ (if isBlank c then [] else [String.ofList [c]]) ++ lexemesAfter [] cs

def lexemes (line : String) : List String :=
  lexemesAfter [] line.toList

/-- Whether a line belongs to the comment that may stand before a class. -/
def isComment (line : String) : Bool :=
  line.toList.head? == some ' ' || line.toList.head? == some '/'

def startsClass (line : String) : Bool :=
  "class ".toList.isPrefixOf line.toList

/-- The lexemes of a file. The comment can only stand before the line that the class starts with. -/
def fileLexemes (text : String) : List String :=
  let ls := cutLines text
  ((ls.takeWhile (!startsClass ·)).filter (!isComment ·) ++
    ls.dropWhile (!startsClass ·)).flatMap lexemes

/-- A declaration in the body of a class. -/
inductive Declaration where
  /-- A private property and its first value. -/
  | field (name value : String)
  /-- A public function that returns a property of its object. -/
  | reader (name property : String)
  /-- A public function with a parameter that assigns the value of a variable to a property. -/
  | writer (name parameter property value : String)
deriving DecidableEq, Repr

/-- The declarations up to the end of the class, which has to be the end of the file. -/
def declarations? : List String → Option (List Declaration)
  | ["\x7d"] => some []
  | "private" :: "$" :: name :: "=" :: value :: ";" :: rest =>
    (declarations? rest).map (.field name value :: ·)
  | "public" :: "function" :: name :: "(" :: ")" :: "\x7b" :: "return" :: "$" :: "this" :: "-" ::
      ">" :: property :: ";" :: "\x7d" :: rest =>
    (declarations? rest).map (.reader name property :: ·)
  | "public" :: "function" :: name :: "(" :: "$" :: parameter :: ")" :: "\x7b" :: "$" :: "this" ::
      "-" :: ">" :: property :: "=" :: "$" :: value :: ";" :: "\x7d" :: rest =>
    (declarations? rest).map (.writer name parameter property value :: ·)
  | _ => none

/-- The names with backslashes in front that lexemes start with, and what follows. -/
def rootedNames : List String → List String × List String
  | "\\" :: name :: rest => (name :: (rootedNames rest).1, (rootedNames rest).2)
  | rest => ([], rest)

/-- A file with one class. -/
structure ClassFile where
  namespaceSegments : List String
  name : String
  /-- The class that it extends, by its full name. -/
  base : List String
  /-- The interface that it implements, by its full name. -/
  marker : List String
  declarations : List Declaration
deriving DecidableEq, Repr

/-- Names with a backslash between neighbours, and what follows. -/
def joinedNames? : List String → Option (List String × List String)
  | [] => none
  | name :: rest => some (name :: (rootedNames rest).1, (rootedNames rest).2)

def classFile? (ls : List String) : Option ClassFile := do
  let (namespaceSegments, ls) ← joinedNames? (← ls.dropPrefix? ["<", "?", "php", "namespace"])
  let name :: ls ← ls.dropPrefix? [";", "class"] | none
  let (base, ls) := rootedNames (← ls.dropPrefix? ["extends"])
  let (marker, ls) := rootedNames (← ls.dropPrefix? ["implements"])
  let declarations ← declarations? (← ls.dropPrefix? ["\x7b"])
  return { namespaceSegments, name, base, marker, declarations }

/-- Reads the text of a file. -/
def readClass? (text : String) : Option ClassFile :=
  classFile? (fileLexemes text)

namespace Declaration

def function? : Declaration → Option String
  | field _ _ => none
  | reader name _ | writer name _ _ _ => some name

/-- The member of a proxy that a declaration is. Its property has no type here. -/
def member : Declaration → Member
  | field _ _ => .flag
  | reader name property =>
    if name = "__isInitialized" then .isInitialized else .getter name ⟨property, none⟩
  | writer name _ property _ =>
    if name = "__setInitialized" then .setInitialized else .setter name ⟨property, none⟩

def lexemes : Declaration → List String
  | field name value => ["private", "$", name, "=", value, ";"]
  | reader name property =>
    ["public", "function", name, "(", ")", "\x7b", "return", "$", "this", "-", ">", property, ";",
      "\x7d"]
  | writer name parameter property value =>
    ["public", "function", name, "(", "$", parameter, ")", "\x7b", "$", "this", "-", ">", property,
      "=", "$", value, ";", "\x7d"]

end Declaration

/-- The proxy that a class is. -/
def ClassFile.proxy (f : ClassFile) : ProxyClass where
  namespaceSegments := f.namespaceSegments
  name := f.name
  base := ⟨f.base⟩
  marker := ⟨f.marker⟩
  members := f.declarations.map Declaration.member

/-- A class that declares the flag once, false at first. One function has the name of the operation
that reads it, one the name of the operation that sets it, and this is what they do. -/
structure ClassFile.KeepsFlag (f : ClassFile) : Prop where
  field : f.declarations.filter (·.function? == none) = [.field "__isInitialized" "false"]
  reader : f.declarations.filter (·.function? == some "__isInitialized")
    = [.reader "__isInitialized" "__isInitialized"]
  writer : f.declarations.filter (·.function? == some "__setInitialized")
    = [.writer "__setInitialized" "initialized" "__isInitialized" "initialized"]

theorem declarations?_lexemes (d : Declaration) (rest : List String)
    : declarations? (d.lexemes ++ rest) = (declarations? rest).map (d :: ·) := by
  cases d with
  | field name value => rfl
  | reader name property => rfl
  | writer name parameter property value => rfl

theorem declarations?_flatMap_lexemes (ds : List Declaration)
    : declarations? (ds.flatMap Declaration.lexemes ++ ["\x7d"]) = some ds := by
  induction ds with
  | nil => rfl
  | cons d ds ih => rw [List.flatMap_cons, List.append_assoc, declarations?_lexemes, ih]; rfl

def rootedLexemes (names : List String) : List String :=
  names.flatMap fun name => ["\\", name]

theorem rootedNames_rootedLexemes (names : List String) {rest : List String}
    (h : rest.head? ≠ some "\\")
    : rootedNames (rootedLexemes names ++ rest) = (names, rest) := by
  induction names with
  | nil =>
    cases rest with
    | nil => rfl
    | cons l ls =>
      unfold rootedNames
      split
      . simp_all [rootedLexemes]
      . rfl
  | cons name names ih =>
    rw [rootedLexemes, List.flatMap_cons, List.append_assoc, ← rootedLexemes]
    simp only [List.cons_append, List.nil_append, rootedNames, ih]

def joinedLexemes : List String → List String
  | [] => []
  | name :: names => name :: rootedLexemes names

theorem joinedNames?_joinedLexemes {names rest : List String} (hne : names ≠ [])
    (h : rest.head? ≠ some "\\")
    : joinedNames? (joinedLexemes names ++ rest) = some (names, rest) := by
  cases names with
  | nil => contradiction
  | cons name names => simp only [joinedLexemes, List.cons_append, joinedNames?,
      rootedNames_rootedLexemes names h]

def ClassFile.lexemes (f : ClassFile) : List String :=
  ["<", "?", "php", "namespace"] ++ (joinedLexemes f.namespaceSegments ++
    ([";", "class"] ++ f.name :: (["extends"] ++ (rootedLexemes f.base ++
      (["implements"] ++ (rootedLexemes f.marker ++
        (["\x7b"] ++ (f.declarations.flatMap Declaration.lexemes ++ ["\x7d"]))))))))

theorem dropPrefix?_append (ls rest : List String) : (ls ++ rest).dropPrefix? ls = some rest := by
  exact List.dropPrefix?_append_of_beq rest (beq_self_eq_true ls)

theorem classFile?_lexemes (f : ClassFile) (h : f.namespaceSegments ≠ [])
    : classFile? f.lexemes = some f := by
  simp only [classFile?, ClassFile.lexemes, dropPrefix?_append, Option.bind_eq_bind,
    Option.bind_some]
  rw [joinedNames?_joinedLexemes h (by simp)]
  simp only [dropPrefix?_append, Option.bind_some]
  rw [rootedNames_rootedLexemes f.base (by simp)]
  simp only [dropPrefix?_append, Option.bind_some]
  rw [rootedNames_rootedLexemes f.marker (by simp)]
  simp only [dropPrefix?_append, Option.bind_some]
  rw [declarations?_flatMap_lexemes]
  rfl

/-- A name that is one lexeme. -/
structure IsWord (name : String) : Prop where
  ne_empty : name ≠ ""
  isIdentifierPart : ∀ c ∈ name.toList, isIdentifierPart c

theorem isWord_of_isIdentifier {name : String} (h : isIdentifier name) : IsWord name where
  ne_empty := ne_empty_of_isIdentifier h
  isIdentifierPart := isIdentifierPart_of_mem h

theorem lexemesAfter_append_word (before word cs : List Char) (h : ∀ c ∈ word, isIdentifierPart c)
    : lexemesAfter before (word ++ cs) = lexemesAfter (before ++ word) cs := by
  induction word generalizing before with
  | nil => simp
  | cons c word ih =>
    rw [List.forall_mem_cons] at h
    rw [List.cons_append, lexemesAfter, if_pos h.left, ih _ h.right]
    simp

theorem lexemesAfter_append_cons {c : Char} (h : ¬isIdentifierPart c) (word xs ys : List Char)
    : lexemesAfter word (xs ++ c :: ys)
        =
      lexemesAfter word xs ++ lexemesAfter [] [c] ++ lexemesAfter [] ys := by
  -- The word that may go on at `xs` has ended when `c` is reached.
  induction xs generalizing word with
  | nil => simp [lexemesAfter, h, wordLexeme]
  | cons x xs ih =>
    rw [List.cons_append, lexemesAfter, lexemesAfter, ih, ih]
    split
    . rfl
    . simp only [List.append_assoc]

theorem lexemes_eq_singleton {name : String} (h : IsWord name) : lexemes name = [name] := by
  have hword := lexemesAfter_append_word [] name.toList [] h.isIdentifierPart
  rw [List.append_nil, List.nil_append] at hword
  rw [lexemes, hword, lexemesAfter, wordLexeme, String.ofList_toList]
  simp [h.ne_empty]

def startsApart (s : String) : Bool :=
  s.toList.head?.all (!isIdentifierPart ·)

def endsApart (s : String) : Bool :=
  s.toList.getLast?.all (!isIdentifierPart ·)

theorem lexemes_append_of_startsApart (a : String) {b : String} (h : startsApart b)
    : lexemes (a ++ b) = lexemes a ++ lexemes b := by
  unfold lexemes
  rw [String.toList_append]
  unfold startsApart at h
  cases hb : b.toList with
  | nil => simp [lexemesAfter, wordLexeme]
  | cons c cs =>
    have hc : ¬isIdentifierPart c := by simpa [hb] using h
    have hcs := lexemesAfter_append_cons hc [] [] cs
    simp only [List.nil_append] at hcs
    rw [lexemesAfter_append_cons hc, hcs]
    simp [lexemesAfter, wordLexeme]

theorem lexemes_append_of_endsApart {a : String} (h : endsApart a) (b : String)
    : lexemes (a ++ b) = lexemes a ++ lexemes b := by
  unfold lexemes
  rw [String.toList_append]
  unfold endsApart at h
  rcases List.eq_nil_or_concat a.toList with ha | ⟨cs, c, ha⟩
  . simp [ha, lexemesAfter, wordLexeme]
  . have hc : ¬isIdentifierPart c := by simpa [ha] using h
    rw [ha, List.concat_eq_append, List.append_assoc, List.singleton_append]
    rw [lexemesAfter_append_cons hc, lexemesAfter_append_cons hc]
    simp [lexemesAfter, wordLexeme]

/-- Whether a text keeps the words before it from those after it. -/
def separates (s : String) : Bool :=
  s != "" && startsApart s && endsApart s

theorem lexemes_append_of_separates (a : String) {s : String} (h : separates s) (b : String)
    : lexemes (a ++ s ++ b) = lexemes a ++ lexemes s ++ lexemes b := by
  simp only [separates, Bool.and_eq_true, bne_iff_ne] at h
  have hends : endsApart (a ++ s) := by
    unfold endsApart at *
    rw [String.toList_append, List.getLast?_append_of_ne_nil _ (by simpa using h.left.left)]
    exact h.right
  rw [lexemes_append_of_endsApart hends, lexemes_append_of_startsApart a h.left.right]

end LazyProxy.Php
