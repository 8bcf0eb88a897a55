import LazyProxy.Generator
import LazyProxy.Proofs.Target.PhpShape

/-!
This module contains what the file of the marker interface in PHP is without its comment: one interface
under the marker's name, as long as the banner does not end the comment.
-/

namespace LazyProxy.Php

open Text
open OutlineStep (linesOf linesOf_append areWhole areWhole_append)

/-- Text without block comments. `inside` tells whether it starts in one. -/
def withoutComments : (inside : Bool) → List Char → List Char
  | _, [] => []
  | false, '/' :: '*' :: cs => withoutComments true cs
  | false, c :: cs => c :: withoutComments false cs
  | true, '*' :: '/' :: cs => withoutComments false cs
  | true, _ :: cs => withoutComments true cs

/-- Whether a comment that holds the text ends in it. -/
def endsComment : List Char → Bool
  | [] => false
  | c :: cs => (c == '*' && cs.head? == some '/') || endsComment cs

variable {xs ys : List Char}

theorem withoutComments_append (h : '/' ∉ xs) (ys : List Char)
    : withoutComments false (xs ++ ys) = xs ++ withoutComments false ys := by
  induction xs with
  | nil => rfl
  | cons x xs ih =>
    rw [List.mem_cons, not_or] at h
    rw [List.cons_append, withoutComments, ih h.right, List.cons_append]
    intro cs hx
    exact absurd hx.symm h.left

theorem withoutComments_comment (h : endsComment xs = false) (ys : List Char)
    : withoutComments true (xs ++ '*' :: '/' :: ys) = withoutComments false ys := by
  induction xs with
  | nil => rfl
  | cons x xs ih =>
    rw [endsComment, Bool.or_eq_false_iff] at h
    rw [List.cons_append, withoutComments, ih h.right]
    -- A slash that follows would end the comment here.
    rintro cs rfl hcs
    cases xs with
    | nil => simp at hcs
    | cons y xs =>
      rw [List.cons_append, List.cons.injEq] at hcs
      simp [hcs.left] at h

theorem endsComment_append_cons {c : Char} (hc : c ≠ '/') (xs ys : List Char)
    : endsComment (xs ++ c :: ys) = (endsComment xs || endsComment (c :: ys)) := by
  induction xs with
  | nil => rfl
  | cons x xs ih =>
    have hhead : ((xs ++ c :: ys).head? == some '/') = (xs.head? == some '/') := by
      cases xs with
      | nil => simpa using hc
      | cons y xs => rfl
    rw [List.cons_append, endsComment, ih, hhead, ← Bool.or_assoc]
    rfl

theorem endsComment_append_left (xs : List Char) (h : endsComment ys) : endsComment (xs ++ ys) := by
  induction xs with
  | nil => exact h
  | cons x xs ih => rw [List.cons_append, endsComment, ih, Bool.or_true]

theorem endsComment_append_right (h : endsComment xs) (ys : List Char) : endsComment (xs ++ ys) := by
  induction xs with
  | nil => contradiction
  | cons x xs ih =>
    rw [endsComment, Bool.or_eq_true] at h
    rw [List.cons_append, endsComment, Bool.or_eq_true]
    cases h with
    | inl h =>
      cases xs with
      | nil => simp at h
      | cons y xs => exact Or.inl h
    | inr h => exact Or.inr (ih h)

theorem endsComment_eq_false_of_mem_lines {line : List Char} (h : endsComment xs = false)
    (hline : line ∈ lines xs)
    : endsComment line = false := by
  rcases isInfix_of_mem_lines hline with ⟨before, behind, hxs⟩
  rw [Bool.eq_false_iff] at h ⊢
  intro hends
  rw [← hxs] at h
  exact h (endsComment_append_right (endsComment_append_left before hends) behind)

/-- A line of a comment with a banner. -/
def bannerLine (line : String) : String :=
  if line = "" then " *" else " * " ++ line

/-- The text of a comment with a banner, from behind what opens it to what closes it. -/
def commentBody (banner : String) : List Char :=
  "*\n".toList ++ ((textLines banner).flatMap fun line => (bannerLine line ++ "\n").toList) ++ [' ']

theorem toList_join_commentLines {banner : String} (h : banner ≠ "")
    : (String.join ((commentLines banner).map (· ++ "\n"))).toList
        =
      '/' :: '*' :: (commentBody banner ++ '*' :: '/' :: ['\n']) := by
  have hlines : commentLines banner
      = ["/**"] ++ (textLines banner).map bannerLine ++ [" */"] := by
    rw [commentLines, if_neg h]
    rfl
  rw [hlines, commentBody]
  simp [String.toList_join, List.flatMap_map]

theorem endsComment_commentBody {banner : String} (h : endsComment banner.toList = false)
    : endsComment (commentBody banner) = false := by
  have hline : ∀ line ∈ textLines banner, endsComment (bannerLine line).toList = false := by
    intro line hline
    rw [textLines, List.mem_map] at hline
    rcases hline with ⟨cs, hcs, rfl⟩
    have hends := endsComment_eq_false_of_mem_lines h hcs
    unfold bannerLine
    split
    . rfl
    . simpa [endsComment] using hends
  have hlines : ∀ ls : List String, (∀ line ∈ ls, endsComment (bannerLine line).toList = false) →
      endsComment ((ls.flatMap fun line => (bannerLine line ++ "\n").toList) ++ [' ']) = false := by
    intro ls hls
    induction ls with
    | nil => rfl
    | cons line ls ih =>
      rw [List.forall_mem_cons] at hls
      have htext : ((line :: ls).flatMap fun line => (bannerLine line ++ "\n").toList) ++ [' ']
          = (bannerLine line).toList ++ '\n' ::
            ((ls.flatMap fun line => (bannerLine line ++ "\n").toList) ++ [' ']) := by
        simp
      rw [htext, endsComment_append_cons (by decide), hls.left, Bool.false_or]
      simpa [endsComment] using ih hls.right
  have hbody := hlines _ hline
  simpa [commentBody, endsComment] using hbody

/-- Lines as text. -/
def linesText (ls : List String) : String :=
  String.join (ls.map (· ++ "\n"))

/-- Without its comment a banner leaves a blank or nothing. -/
theorem withoutComments_commentLines {banner : String} (h : endsComment banner.toList = false)
    (rest : List Char)
    : ∃ blank, (blank = "" ∨ blank = "\n")
        ∧
      withoutComments false ((linesText (commentLines banner)).toList ++ rest)
        =
      blank.toList ++ withoutComments false rest := by
  by_cases hempty : banner = ""
  . refine ⟨"", Or.inl rfl, ?_⟩
    rw [hempty]
    rfl
  . refine ⟨"\n", Or.inr rfl, ?_⟩
    rw [linesText, toList_join_commentLines hempty]
    have hclose := withoutComments_comment (endsComment_commentBody h) ('\n' :: rest)
    rw [List.cons_append, List.cons_append, withoutComments, List.append_assoc]
    rw [List.cons_append, List.cons_append, List.singleton_append, hclose]
    exact withoutComments_append (by decide : '/' ∉ ['\n']) rest

theorem linesText_append (ls ms : List String)
    : linesText (ls ++ ms) = linesText ls ++ linesText ms := by
  rw [linesText, List.map_append, String.join_append]
  rfl

theorem lexemes_linesText_append (ls : List String) (rest : String)
    : lexemes (linesText ls ++ rest) = ls.flatMap lexemes ++ lexemes rest := by
  have hbreak : lexemes "\n" = [] := rfl
  induction ls with
  | nil => simp [linesText]
  | cons l ls ih =>
    have htext : linesText (l :: ls) ++ rest = l ++ "\n" ++ (linesText ls ++ rest) := by
      simp [linesText, String.append_assoc]
    rw [htext, lexemes_append_of_separates _ (by decide), hbreak, ih]
    simp

/-- The lines in front of the comment. -/
def openingLines (segments : List String) : List String :=
  ["<?php", ""] ++
    if segments.isEmpty then [] else ["namespace " ++ Text.join "\\" segments ++ ";", ""]

/-- A file with one interface: its namespace, its name, and the functions that it asks for, with the
names of their parameters. -/
structure InterfaceFile where
  namespaceSegments : List String
  name : String
  functions : List (String × List String)

/-- The lexemes of a function without a body. -/
def functionLexemes (f : String × List String) : List String :=
  ["public", "function", f.1, "("] ++ List.intercalate [","] (f.2.map (["$", ·])) ++ [")", ";"]

def InterfaceFile.lexemes (f : InterfaceFile) : List String :=
  ["<", "?", "php"] ++
    (if f.namespaceSegments.isEmpty then []
      else "namespace" :: joinedLexemes f.namespaceSegments ++ [";"]) ++
    ["interface", f.name, "\x7b"] ++ f.functions.flatMap functionLexemes ++ ["\x7d"]

/-- The marker interface. -/
def markerFile (marker : QualifiedName) : InterfaceFile where
  namespaceSegments := marker.enclosing
  name := marker.shortName
  functions := [("__isInitialized", []), ("__setInitialized", ["initialized"])]

/-- The lines of the interface itself. -/
def interfaceLines (width : Nat) (name : String) : List String :=
  ["interface " ++ name, "\x7b",
    (⟨1, "public function __isInitialized();"⟩ : OutlineLine).indented width, "",
    (⟨1, "public function __setInitialized($initialized);"⟩ : OutlineLine).indented width, "\x7d"]

/-- The steps in front of the comment. -/
def openingSteps (segments : List String) : List OutlineStep :=
  [.line "<?php", .newline] ++
    if segments.isEmpty then []
    else [.line ("namespace " ++ Text.join "\\" segments ++ ";"), .newline]

theorem header_eq_append (segments : List String) (banner : String)
    : header segments banner = openingSteps segments ++ (commentLines banner).map .line := by
  by_cases hempty : banner = ""
  . simp [header, commentLines, openingSteps, hempty]
  . simp [header, commentLines, openingSteps, hempty, Function.comp_def, commentLine]

theorem linesOf_header (segments : List String) (banner : String) (width : Nat)
    : (linesOf 0 (header segments banner)).map (·.indented width)
        =
      openingLines segments ++ commentLines banner := by
  have hopening : (linesOf 0 (openingSteps segments)).map (·.indented width)
      = openingLines segments := by
    unfold openingSteps openingLines
    split
    . simp [linesOf, OutlineStep.lines, OutlineLine.indented_zero]
    . simp [linesOf, OutlineStep.lines, OutlineLine.indented_zero]
  rw [header_eq_append, linesOf_append, List.map_append, hopening, map_indented_linesOf_map_line]

theorem areWhole_header {segments : List String} (h : ∀ s ∈ segments, IsWord s) (banner : String)
    : areWhole (header segments banner) := by
  have hnamespace := newline_not_mem_join h
  have hcomment : areWhole ((commentLines banner).map .line) :=
    OutlineStep.areWhole_map_line fun l hl => (isComment_of_mem_commentLines hl).right
  rw [header_eq_append, areWhole_append, hcomment, Bool.and_true, openingSteps]
  split
  . rfl
  . simp [areWhole, OutlineStep.isWhole, hnamespace]

theorem outlineText_markerSteps {marker : QualifiedName} (h : ∀ s ∈ marker.segments, IsWord s)
    (hname : IsWord marker.shortName) (width : Nat) (banner : String)
    : outlineText width (markerSteps marker banner)
        =
      linesText (openingLines marker.enclosing ++ commentLines banner
        ++ interfaceLines width marker.shortName) := by
  have hwhole : areWhole (markerSteps marker banner) := by
    have hheader : areWhole (header marker.enclosing banner) :=
      areWhole_header (fun s hs => h s (List.dropLast_subset _ hs)) banner
    have hnewline := newline_not_mem_of_isWord hname
    rw [markerSteps, areWhole_append, hheader]
    simp [areWhole, OutlineStep.isWhole, block, hnewline]
  have hinterface : (linesOf 0 [.line ("interface " ++ marker.shortName),
      block [.line "public function __isInitialized();", .blankLines 1,
        .line "public function __setInitialized($initialized);"]]).map (·.indented width)
          = interfaceLines width marker.shortName := by
    simp [linesOf, OutlineStep.lines, block, OutlineLine.indented_zero, interfaceLines]
    rfl
  rw [outlineText_eq hwhole, markerSteps, linesOf_append, List.map_append, linesOf_header, hinterface]
  rfl

theorem slash_not_mem_linesText {ls : List String} (h : ∀ l ∈ ls, '/' ∉ l.toList)
    : '/' ∉ (linesText ls).toList := by
  rw [linesText, String.toList_join, List.mem_flatMap]
  rintro ⟨line, hline, hmem⟩
  rw [List.mem_map] at hline
  rcases hline with ⟨l, hl, rfl⟩
  rw [String.toList_append, List.mem_append] at hmem
  cases hmem with
  | inl hmem => exact h l hl hmem
  | inr hmem => exact absurd hmem (by decide)

theorem slash_not_mem_of_isWord {name : String} (h : IsWord name) : '/' ∉ name.toList := by
  intro hmem
  exact absurd (h.isIdentifierPart '/' hmem) (by decide)

theorem slash_not_mem_openingLines {segments : List String} (h : ∀ s ∈ segments, IsWord s)
    : ∀ l ∈ openingLines segments, '/' ∉ l.toList := by
  have hjoin : '/' ∉ (Text.join "\\" segments).toList := by
    intro hmem
    rcases mem_of_mem_join hmem with hmem | ⟨s, hs, hmem⟩
    . exact absurd hmem (by decide)
    . exact slash_not_mem_of_isWord (h s hs) hmem
  intro l hl
  unfold openingLines at hl
  split at hl
  . simp only [List.append_nil, List.mem_cons, List.not_mem_nil, or_false] at hl
    rcases hl with rfl | rfl
    . decide
    . decide
  . simp only [List.cons_append, List.nil_append, List.mem_cons, List.not_mem_nil, or_false] at hl
    rcases hl with rfl | rfl | rfl | rfl
    . decide
    . decide
    . simp [hjoin]
    . decide

theorem slash_not_mem_interfaceLines {name : String} (h : IsWord name) (width : Nat)
    : ∀ l ∈ interfaceLines width name, '/' ∉ l.toList := by
  have hindented : ∀ s : String, '/' ∉ s.toList →
      '/' ∉ ((⟨1, s⟩ : OutlineLine).indented width).toList := by
    intro s hs
    unfold OutlineLine.indented
    split
    . decide
    . simp [hs, Outline.toList_blanks]
  have hname := slash_not_mem_of_isWord h
  intro l hl
  simp only [interfaceLines, List.mem_cons, List.not_mem_nil, or_false] at hl
  rcases hl with rfl | rfl | rfl | rfl | rfl | rfl
  . simp [hname]
  . decide
  . exact hindented _ (by decide)
  . decide
  . exact hindented _ (by decide)
  . decide

theorem lexemes_openingLines {segments : List String} (h : ∀ s ∈ segments, IsWord s)
    : (openingLines segments).flatMap lexemes
        =
      ["<", "?", "php"] ++
        if segments.isEmpty then [] else "namespace" :: joinedLexemes segments ++ [";"] := by
  cases hempty : segments.isEmpty with
  | true =>
    have htag : (["<?php", ""] : List String).flatMap lexemes = ["<", "?", "php"] := rfl
    simpa [openingLines, hempty] using htag
  | false =>
    have hlines : openingLines segments = frontLines segments := by
      simp [openingLines, frontLines, hempty]
    rw [hlines, lexemes_frontLines h]
    rfl

theorem lexemes_interfaceLines {name : String} (h : IsWord name) (width : Nat)
    : (interfaceLines width name).flatMap lexemes
        =
      ["interface", name, "\x7b"] ++
        [("__isInitialized", []), ("__setInitialized", ["initialized"])].flatMap functionLexemes ++
        ["\x7d"] := by
  have hinterface : lexemes "interface " = ["interface"] := rfl
  have hname : lexemes ("interface " ++ name) = ["interface", name] := by
    rw [lexemes_append_of_endsApart (by decide), hinterface, lexemes_eq_singleton h]
    rfl
  have hbody : ("\x7b" :: ["public function __isInitialized();", "",
      "public function __setInitialized($initialized);", "\x7d"]).flatMap lexemes
        = ["\x7b"] ++ ([("__isInitialized", []), ("__setInitialized", ["initialized"])] :
          List (String × List String)).flatMap functionLexemes ++ ["\x7d"] := by
    rfl
  simp only [interfaceLines, List.flatMap_cons, lexemes_indented, hname] at hbody ⊢
  rw [hbody]
  rfl

theorem lexemes_markerSteps {marker : QualifiedName} (h : ∀ s ∈ marker.segments, IsWord s)
    (hname : IsWord marker.shortName) {banner : String}
    (hbanner : endsComment banner.toList = false) (width : Nat)
    : lexemes (String.ofList (withoutComments false
          (outlineText width (markerSteps marker banner)).toList))
        =
      (markerFile marker).lexemes := by
  have henclosing : ∀ s ∈ marker.enclosing, IsWord s := fun s hs => h s (List.dropLast_subset _ hs)
  have hinterface := slash_not_mem_linesText (slash_not_mem_interfaceLines hname width)
  rcases withoutComments_commentLines hbanner
    (linesText (interfaceLines width marker.shortName)).toList with ⟨blank, hblank, hcomment⟩
  have htext : (outlineText width (markerSteps marker banner)).toList
      = (linesText (openingLines marker.enclosing)).toList ++
        ((linesText (commentLines banner)).toList ++
          (linesText (interfaceLines width marker.shortName)).toList) := by
    rw [outlineText_markerSteps h hname, List.append_assoc, linesText_append, linesText_append,
      String.toList_append, String.toList_append]
  have hstripped : String.ofList (withoutComments false
      (outlineText width (markerSteps marker banner)).toList)
        = linesText (openingLines marker.enclosing) ++
          (blank ++ linesText (interfaceLines width marker.shortName)) := by
    have hrest := withoutComments_append hinterface []
    rw [List.append_nil, withoutComments, List.append_nil] at hrest
    rw [htext, withoutComments_append (slash_not_mem_linesText (slash_not_mem_openingLines henclosing)),
      hcomment, hrest]
    simp
  have hblank : lexemes (blank ++ linesText (interfaceLines width marker.shortName))
      = (interfaceLines width marker.shortName).flatMap lexemes := by
    have hread := lexemes_linesText_append (interfaceLines width marker.shortName) ""
    have hempty : lexemes "" = [] := rfl
    have hbreak : lexemes "\n" = [] := rfl
    rw [String.append_empty, hempty, List.append_nil] at hread
    rcases hblank with rfl | rfl
    . rw [String.empty_append, hread]
    . rw [lexemes_append_of_endsApart (by decide), hbreak, hread, List.nil_append]
  rw [hstripped, lexemes_linesText_append, hblank, lexemes_openingLines henclosing,
    lexemes_interfaceLines hname]
  simp [InterfaceFile.lexemes, markerFile]

end LazyProxy.Php
