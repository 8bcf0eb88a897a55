import LazyProxy.Proofs.Target.PhpReader
import LazyProxy.Proofs.Text.Join
import LazyProxy.Target.Php

/-!
This module contains what is read from a file that a proxy is rendered to in PHP. No line of it is
taken for another, whatever the banner and the indentation.
-/

namespace LazyProxy.Php

open Text
open OutlineStep (linesOf linesOf_append areWhole areWhole_append)

def memberNames : Member → List String
  | .flag | .isInitialized | .setInitialized => []
  | .getter name p | .setter name p => [name, p.name]

/-- The declaration that a member is rendered to. -/
def memberDeclaration : Member → Declaration
  | .flag => .field "__isInitialized" "false"
  | .isInitialized => .reader "__isInitialized" "__isInitialized"
  | .setInitialized => .writer "__setInitialized" "initialized" "__isInitialized" "initialized"
  | .getter name p => .reader name p.name
  | .setter name p => .writer name p.name p.name p.name

/-- A proxy whose names are words. -/
structure Readable (c : ProxyClass) : Prop where
  namespaceSegments : ∀ s ∈ c.namespaceSegments, IsWord s
  namespaceSegments_ne_nil : c.namespaceSegments ≠ []
  name : IsWord c.name
  base : ∀ s ∈ c.base.segments, IsWord s
  base_ne_nil : c.base.segments ≠ []
  marker : ∀ s ∈ c.marker.segments, IsWord s
  marker_ne_nil : c.marker.segments ≠ []
  members : ∀ m ∈ c.members, ∀ name ∈ memberNames m, IsWord name

theorem lexemes_blanks (count : Nat)
    : lexemes (String.ofList (List.replicate count ' ')) = [] := by
  rw [lexemes, String.toList_ofList]
  induction count with
  | zero => rfl
  | succ count ih =>
    rw [List.replicate_succ, lexemesAfter, ih]
    rfl

theorem lexemes_indented (width : Nat) (l : OutlineLine)
    : lexemes (l.indented width) = lexemes l.text := by
  unfold OutlineLine.indented
  split
  . next h => rw [h]
  . have hblanks : endsApart (Outline.blanks width l.level) := by
      rw [endsApart, Outline.toList_blanks, List.getLast?_replicate]
      split
      . rfl
      . rfl
    rw [lexemes_append_of_endsApart hblanks, Outline.blanks, lexemes_blanks, List.nil_append]

theorem lexemes_method (level : Nat) (signature statement : String)
    : (linesOf level (method signature statement)).flatMap (lexemes ·.text)
        =
      ["public", "function"] ++ lexemes signature ++ ["\x7b"] ++ lexemes statement ++ ["\x7d"] := by
  have hpublic : lexemes "public function " = ["public", "function"] := rfl
  have hopening : lexemes "\x7b" = ["\x7b"] := rfl
  have hclosing : lexemes "\x7d" = ["\x7d"] := rfl
  have hlines : linesOf level (method signature statement)
      = [⟨level, "public function " ++ signature⟩, ⟨level, "\x7b"⟩, ⟨level + 1, statement⟩,
        ⟨level, "\x7d"⟩] := rfl
  rw [hlines]
  simp only [List.flatMap_cons, List.flatMap_nil, hopening, hclosing]
  rw [lexemes_append_of_endsApart (by decide), hpublic]
  simp

theorem lexemes_memberSteps (level : Nat) (m : Member) (h : ∀ name ∈ memberNames m, IsWord name)
    : (linesOf level (memberSteps m)).flatMap (lexemes ·.text)
        =
      (memberDeclaration m).lexemes := by
  cases m with
  | flag =>
    change lexemes "private $__isInitialized = false;" ++ [] = _
    decide
  | isInitialized =>
    rw [memberSteps, lexemes_method]
    decide
  | setInitialized =>
    rw [memberSteps, lexemes_method]
    decide
  | getter name p =>
    have hname : lexemes name = [name] := lexemes_eq_singleton (h name (by simp [memberNames]))
    have hp : lexemes p.name = [p.name] := lexemes_eq_singleton (h p.name (by simp [memberNames]))
    have hparameters : lexemes "()" = ["(", ")"] := rfl
    have hreturn : lexemes "return $this->" = ["return", "$", "this", "-", ">"] := rfl
    have hend : lexemes ";" = [";"] := rfl
    rw [memberSteps, lexemes_method]
    rw [lexemes_append_of_startsApart _ (by decide), hname, hparameters]
    rw [lexemes_append_of_startsApart _ (by decide), hend]
    rw [lexemes_append_of_endsApart (by decide), hreturn, hp]
    rfl
  | setter name p =>
    have hname : lexemes name = [name] := lexemes_eq_singleton (h name (by simp [memberNames]))
    have hp : lexemes p.name = [p.name] := lexemes_eq_singleton (h p.name (by simp [memberNames]))
    have hopening : lexemes "($" = ["(", "$"] := rfl
    have hclosing : lexemes ")" = [")"] := rfl
    have hthis : lexemes "$this->" = ["$", "this", "-", ">"] := rfl
    have hassign : lexemes " = $" = ["=", "$"] := rfl
    have hend : lexemes ";" = [";"] := rfl
    rw [memberSteps, lexemes_method]
    rw [lexemes_append_of_startsApart _ (by decide), hclosing]
    rw [lexemes_append_of_separates _ (by decide), hname, hopening, hp]
    rw [lexemes_append_of_startsApart _ (by decide), hend]
    rw [lexemes_append_of_separates _ (by decide), hassign]
    rw [lexemes_append_of_endsApart (by decide), hthis, hp]
    rfl

theorem memberBlock_cons_cons (m n : Member) (ms : List Member)
    : memberBlock (m :: n :: ms) = memberSteps m ++ [.blankLines 1] ++ memberBlock (n :: ms) := by
  simp [memberBlock]

theorem lexemes_memberBlock (level : Nat) (ms : List Member)
    (h : ∀ m ∈ ms, ∀ name ∈ memberNames m, IsWord name)
    : (linesOf level (memberBlock ms)).flatMap (lexemes ·.text)
        =
      (ms.map memberDeclaration).flatMap Declaration.lexemes := by
  induction ms with
  | nil => rfl
  | cons m ms ih =>
    rw [List.forall_mem_cons] at h
    have hm := lexemes_memberSteps level m h.left
    specialize ih h.right
    cases ms with
    | nil => simpa [memberBlock] using hm
    | cons n ns =>
      have hblank : (linesOf level [.blankLines 1]).flatMap (lexemes ·.text) = [] := rfl
      rw [memberBlock_cons_cons, linesOf_append, linesOf_append]
      rw [List.flatMap_append, List.flatMap_append, hm, hblank, ih]
      simp

theorem newline_not_mem_of_isWord {name : String} (h : IsWord name) : '\n' ∉ name.toList := by
  intro hmem
  exact absurd (h.isIdentifierPart _ hmem) (by decide)

theorem areWhole_memberSteps (m : Member) (h : ∀ name ∈ memberNames m, IsWord name)
    : areWhole (memberSteps m) := by
  cases m with
  | flag => decide
  | isInitialized => decide
  | setInitialized => decide
  | getter name p =>
    have hname := newline_not_mem_of_isWord (h name (by simp [memberNames]))
    have hp := newline_not_mem_of_isWord (h p.name (by simp [memberNames]))
    simp [memberSteps, method, block, areWhole, OutlineStep.isWhole, hname, hp]
  | setter name p =>
    have hname := newline_not_mem_of_isWord (h name (by simp [memberNames]))
    have hp := newline_not_mem_of_isWord (h p.name (by simp [memberNames]))
    simp [memberSteps, method, block, areWhole, OutlineStep.isWhole, hname, hp]

theorem areWhole_memberBlock (ms : List Member)
    (h : ∀ m ∈ ms, ∀ name ∈ memberNames m, IsWord name)
    : areWhole (memberBlock ms) := by
  induction ms with
  | nil => rfl
  | cons m ms ih =>
    rw [List.forall_mem_cons] at h
    have hm := areWhole_memberSteps m h.left
    specialize ih h.right
    cases ms with
    | nil => simpa [memberBlock] using hm
    | cons n ns =>
      rw [memberBlock_cons_cons, areWhole_append, areWhole_append, hm, ih]
      rfl

theorem newline_not_mem_join {names : List String} (h : ∀ name ∈ names, IsWord name)
    : '\n' ∉ (Text.join "\\" names).toList := by
  intro hmem
  rcases mem_of_mem_join hmem with hmem | ⟨name, hname, hmem⟩
  . contradiction
  . exact newline_not_mem_of_isWord (h name hname) hmem

theorem lexemes_join {names : List String} (h : ∀ name ∈ names, IsWord name)
    : lexemes (Text.join "\\" names) = joinedLexemes names := by
  unfold Text.join
  induction names with
  | nil => decide
  | cons name names ih =>
    rw [List.forall_mem_cons] at h
    have hname := lexemes_eq_singleton h.left
    have hbackslash : lexemes "\\" = ["\\"] := rfl
    specialize ih h.right
    cases names with
    | nil => simpa [joinedLexemes, rootedLexemes] using hname
    | cons other names =>
      rw [String.intercalate_cons_cons, lexemes_append_of_separates _ (by decide)]
      rw [hname, hbackslash, ih]
      rfl

theorem rootedLexemes_eq_cons {names : List String} (h : names ≠ [])
    : rootedLexemes names = "\\" :: joinedLexemes names := by
  cases names with
  | nil => contradiction
  | cons name names => rfl

def frontLines (segments : List String) : List String :=
  ["<?php", "", "namespace " ++ Text.join "\\" segments ++ ";", ""]

def classLine (c : ProxyClass) : String :=
  "class " ++ c.name ++ " extends \\" ++ c.base.join "\\" ++ " implements \\" ++ c.marker.join "\\"

theorem lexemes_classLine {c : ProxyClass} (h : Readable c)
    : lexemes (classLine c)
        =
      ["class", c.name, "extends"] ++ rootedLexemes c.base.segments ++ ["implements"]
        ++ rootedLexemes c.marker.segments := by
  have hclass : lexemes "class " = ["class"] := rfl
  have hextends : lexemes " extends \\" = ["extends", "\\"] := rfl
  have himplements : lexemes " implements \\" = ["implements", "\\"] := rfl
  unfold classLine QualifiedName.join
  rw [lexemes_append_of_separates _ (by decide), himplements, lexemes_join h.marker]
  rw [lexemes_append_of_separates _ (by decide), hextends, lexemes_join h.base]
  rw [lexemes_append_of_endsApart (by decide), hclass, lexemes_eq_singleton h.name]
  rw [rootedLexemes_eq_cons h.base_ne_nil, rootedLexemes_eq_cons h.marker_ne_nil]
  simp

/-- The lines of a comment with a banner. -/
def commentLines (banner : String) : List String :=
  if banner = "" then []
  else
    ["/**"] ++ (textLines banner).map (fun line => if line = "" then " *" else " * " ++ line) ++
      [" */"]

theorem header_eq {segments : List String} (h : segments ≠ []) (banner : String)
    : header segments banner
        =
      [.line "<?php", .newline, .line ("namespace " ++ Text.join "\\" segments ++ ";"), .newline]
        ++ (commentLines banner).map .line := by
  have hempty : segments.isEmpty = false := by simpa using h
  unfold header commentLines
  rw [hempty, if_neg (by decide)]
  split
  . rfl
  . simp [Function.comp_def, commentLine]

theorem isComment_of_mem_commentLines {banner l : String} (h : l ∈ commentLines banner)
    : isComment l ∧ '\n' ∉ l.toList := by
  unfold commentLines at h
  split at h
  . contradiction
  . simp only [List.mem_append, List.mem_singleton, List.mem_map] at h
    rcases h with (rfl | ⟨line, hline, rfl⟩) | rfl
    . decide
    . split
      . decide
      . rw [textLines, List.mem_map] at hline
        rcases hline with ⟨cs, hcs, rfl⟩
        have hnewline := newline_not_mem_of_mem_lines hcs
        simp [isComment, hnewline]
    . decide

theorem head?_of_startsClass {l : String} (h : startsClass l) : l.toList.head? = some 'c' := by
  rw [startsClass, List.isPrefixOf_iff_prefix] at h
  rcases h with ⟨rest, h⟩
  rw [← h]
  rfl

theorem not_startsClass_of_isComment {l : String} (h : isComment l) : ¬startsClass l := by
  intro hclass
  rw [isComment, head?_of_startsClass hclass] at h
  contradiction

theorem fileLexemes_eq {text : String} {front rest : List String} {line : String}
    (h : cutLines text = front ++ line :: rest) (hfront : ∀ l ∈ front, ¬startsClass l)
    (hline : startsClass line)
    : fileLexemes text = (front.filter (!isComment ·) ++ line :: rest).flatMap lexemes := by
  unfold fileLexemes
  dsimp only
  rw [h, List.takeWhile_append_of_pos, List.dropWhile_append_of_pos]
  rw [List.takeWhile_cons_of_neg, List.dropWhile_cons_of_neg, List.append_nil]
  all_goals simp_all

theorem areWhole_classSteps {c : ProxyClass} (h : Readable c) (banner : String)
    : areWhole (classSteps c banner) := by
  have hnamespace := newline_not_mem_join h.namespaceSegments
  have hname := newline_not_mem_of_isWord h.name
  have hbase := newline_not_mem_join h.base
  have hmarker := newline_not_mem_join h.marker
  have hcomment : areWhole ((commentLines banner).map .line) :=
    OutlineStep.areWhole_map_line fun l hl => (isComment_of_mem_commentLines hl).right
  have hmembers := areWhole_memberBlock c.members h.members
  rw [classSteps, header_eq h.namespaceSegments_ne_nil, areWhole_append, areWhole_append, hcomment]
  simp [areWhole, OutlineStep.isWhole, block, QualifiedName.join, hnamespace, hname, hbase, hmarker,
    hmembers]

theorem cutLines_classSteps {c : ProxyClass} (h : Readable c) (width : Nat) (banner : String)
    : cutLines (outlineText width (classSteps c banner))
        =
      (frontLines c.namespaceSegments ++ commentLines banner) ++ classLine c
        :: ((linesOf 0 [block (memberBlock c.members)]).map (·.indented width) ++ [""]) := by
  rw [cutLines_outlineText (areWhole_classSteps h banner)]
  rw [classSteps, header_eq h.namespaceSegments_ne_nil, linesOf_append, linesOf_append]
  rw [List.map_append, List.map_append, map_indented_linesOf_map_line]
  simp [linesOf, OutlineStep.lines, OutlineLine.indented_zero, frontLines, classLine]

theorem lexemes_body (width : Nat) {ms : List Member}
    (h : ∀ m ∈ ms, ∀ name ∈ memberNames m, IsWord name)
    : ((linesOf 0 [block (memberBlock ms)]).map (·.indented width) ++ [""]).flatMap lexemes
        =
      ["\x7b"] ++ ((ms.map memberDeclaration).flatMap Declaration.lexemes ++ ["\x7d"]) := by
  have hopening : lexemes "\x7b" = ["\x7b"] := rfl
  have hclosing : lexemes "\x7d" = ["\x7d"] := rfl
  have hempty : lexemes "" = [] := rfl
  rw [List.flatMap_append, List.flatMap_map]
  simp only [lexemes_indented]
  simp only [linesOf, block, OutlineStep.lines, List.flatMap_append, List.flatMap_cons,
    List.flatMap_nil, hopening, hclosing, hempty, lexemes_memberBlock 1 ms h]
  simp

theorem not_startsClass_of_mem_frontLines {segments : List String} {l : String}
    (h : l ∈ frontLines segments)
    : ¬startsClass l := by
  intro hclass
  have hhead := head?_of_startsClass hclass
  simp only [frontLines, List.mem_cons, List.not_mem_nil, or_false] at h
  rcases h with rfl | rfl | rfl | rfl
  . contradiction
  . contradiction
  . simp at hhead
  . contradiction

theorem filter_frontLines (segments : List String)
    : (frontLines segments).filter (!isComment ·) = frontLines segments := by
  rw [List.filter_eq_self]
  intro l hl
  simp only [frontLines, List.mem_cons, List.not_mem_nil, or_false] at hl
  rcases hl with rfl | rfl | rfl | rfl
  . rfl
  . rfl
  . simp [isComment]
  . rfl

theorem lexemes_frontLines {segments : List String} (h : ∀ s ∈ segments, IsWord s)
    : (frontLines segments).flatMap lexemes
        =
      ["<", "?", "php", "namespace"] ++ joinedLexemes segments ++ [";"] := by
  have htag : lexemes "<?php" = ["<", "?", "php"] := rfl
  have hempty : lexemes "" = [] := rfl
  have hnamespace : lexemes "namespace " = ["namespace"] := rfl
  have hend : lexemes ";" = [";"] := rfl
  simp only [frontLines, List.flatMap_cons, List.flatMap_nil, htag, hempty]
  rw [lexemes_append_of_startsApart _ (by decide), hend]
  rw [lexemes_append_of_endsApart (by decide), hnamespace, lexemes_join h]
  simp

theorem startsClass_classLine (c : ProxyClass) : startsClass (classLine c) := by
  simp [startsClass, classLine, List.append_assoc]

theorem render_eq_ok {c : ProxyClass} {config : Config} {code : String}
    (h : render c config = .ok code)
    : code = outlineText config.indent (classSteps c config.banner) := by
  unfold render at h
  split at h
  . contradiction
  . simpa using h.symm

theorem readClass?_render {c : ProxyClass} {config : Config} {code : String} (h : Readable c)
    (hrender : render c config = .ok code)
    : readClass? code
        =
      some
        { namespaceSegments := c.namespaceSegments
          name := c.name
          base := c.base.segments
          marker := c.marker.segments
          declarations := c.members.map memberDeclaration } := by
  have hfront : ∀ l ∈ frontLines c.namespaceSegments ++ commentLines config.banner,
      ¬startsClass l := by
    intro l hl
    cases List.mem_append.mp hl with
    | inl hl => exact not_startsClass_of_mem_frontLines hl
    | inr hl => exact not_startsClass_of_isComment (isComment_of_mem_commentLines hl).left
  have hcomment : (commentLines config.banner).filter (!isComment ·) = [] := by
    rw [List.filter_eq_nil_iff]
    intro l hl
    simp [(isComment_of_mem_commentLines hl).left]
  -- What is left without the comment is exactly what the reader makes this class of.
  rw [render_eq_ok hrender, readClass?,
    fileLexemes_eq (cutLines_classSteps h config.indent config.banner) hfront
      (startsClass_classLine c)]
  rw [List.filter_append, filter_frontLines, hcomment, List.append_nil, List.flatMap_append]
  rw [List.flatMap_cons, lexemes_frontLines h.namespaceSegments, lexemes_classLine h]
  rw [lexemes_body config.indent h.members]
  rw [← classFile?_lexemes _ (by simpa using h.namespaceSegments_ne_nil)]
  simp [ClassFile.lexemes]

end LazyProxy.Php
