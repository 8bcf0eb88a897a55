import LazyProxy.Proofs.Target.PhpReading
import LazyProxy.Target.Rust

/-!
This module contains where generated files name their namespace: in a line of its own, which no banner
and no member can be taken for.
-/

namespace LazyProxy

open Text

namespace Php

open OutlineStep (linesOf linesOf_append)

theorem head?_of_startsWith_namespace {l : String} (h : l.startsWith "namespace ")
    : l.toList.head? = some 'n' := by
  rw [String.startsWith_string_iff] at h
  rcases h with ⟨rest, h⟩
  rw [← h]
  rfl

theorem head?_ne_of_mem_method {signature statement : String} {level : Nat} {l : OutlineLine}
    (hstatement : statement.toList.head? ≠ some 'n')
    (h : l ∈ linesOf level (method signature statement))
    : l.text.toList.head? ≠ some 'n' := by
  have hlines : linesOf level (method signature statement)
      = [⟨level, "public function " ++ signature⟩, ⟨level, "\x7b"⟩, ⟨level + 1, statement⟩,
        ⟨level, "\x7d"⟩] := rfl
  rw [hlines] at h
  simp only [List.mem_cons, List.not_mem_nil, or_false] at h
  rcases h with rfl | rfl | rfl | rfl
  . simp
  . simp
  . exact hstatement
  . simp

theorem head?_ne_of_mem_memberSteps {m : Member} {level : Nat} {l : OutlineLine}
    (h : l ∈ linesOf level (memberSteps m))
    : l.text.toList.head? ≠ some 'n' := by
  cases m with
  | flag =>
    have hlines : linesOf level (memberSteps .flag)
        = [⟨level, "private $__isInitialized = false;"⟩] := rfl
    rw [hlines, List.mem_singleton] at h
    simp [h]
  | isInitialized => exact head?_ne_of_mem_method (by decide) h
  | setInitialized => exact head?_ne_of_mem_method (by decide) h
  | getter name p => exact head?_ne_of_mem_method (by simp) h
  | setter name p => exact head?_ne_of_mem_method (by simp) h

theorem head?_ne_of_mem_memberBlock {ms : List Member} {level : Nat} {l : OutlineLine}
    (h : l ∈ linesOf level (memberBlock ms))
    : l.text.toList.head? ≠ some 'n' := by
  induction ms with
  | nil => contradiction
  | cons m ms ih =>
    cases ms with
    | nil => exact head?_ne_of_mem_memberSteps h
    | cons n ns =>
      rw [memberBlock_cons_cons, linesOf_append, linesOf_append, List.mem_append,
        List.mem_append] at h
      rcases h with (h | h) | h
      . exact head?_ne_of_mem_memberSteps h
      . have hlines : linesOf level [.blankLines 1] = [⟨level, ""⟩] := rfl
        rw [hlines, List.mem_singleton] at h
        simp [h]
      . exact ih h

theorem not_startsWith_namespace_indented (width : Nat) {l : OutlineLine}
    (h : l.text.toList.head? ≠ some 'n')
    : (l.indented width).startsWith "namespace " = false := by
  rw [Bool.eq_false_iff]
  intro hstarts
  have hhead := head?_of_startsWith_namespace hstarts
  unfold OutlineLine.indented at hhead
  split at hhead
  . contradiction
  . -- Either the line starts with blanks or with its text.
    rw [String.toList_append, Outline.toList_blanks, List.head?_append] at hhead
    generalize l.level * width % UInt64.size = count at hhead
    cases count with
    | zero => simp_all
    | succ count => simp [List.replicate_succ] at hhead

/-- Of all lines of a file, only that of its namespace starts like a declaration of one. -/
theorem filter_startsWith_namespace {c : ProxyClass} {config : Config} {code : String}
    (h : Readable c) (hrender : render c config = .ok code)
    : (cutLines code).filter (·.startsWith "namespace ")
        =
      ["namespace " ++ Text.join "\\" c.namespaceSegments ++ ";"] := by
  have hfront : (frontLines c.namespaceSegments).filter (·.startsWith "namespace ")
      = ["namespace " ++ Text.join "\\" c.namespaceSegments ++ ";"] := by
    have htag : "<?php".startsWith "namespace " = false := by decide
    have hempty : "".startsWith "namespace " = false := by decide
    have hnamespace : ("namespace " ++ Text.join "\\" c.namespaceSegments ++ ";").startsWith
        "namespace " := by
      simp [String.startsWith_string_iff]
    simp [frontLines, htag, hempty, hnamespace]
  have hcomment : (commentLines config.banner).filter (·.startsWith "namespace ") = [] := by
    rw [List.filter_eq_nil_iff]
    intro l hl hstarts
    have hcomment := (isComment_of_mem_commentLines hl).left
    rw [isComment, head?_of_startsWith_namespace hstarts] at hcomment
    contradiction
  have hclass : (classLine c).startsWith "namespace " = false := by
    rw [Bool.eq_false_iff]
    intro hstarts
    have hhead := head?_of_startsWith_namespace hstarts
    rw [head?_of_startsClass (startsClass_classLine c)] at hhead
    contradiction
  have hbody : ((linesOf 0 [block (memberBlock c.members)]).map (·.indented config.indent)
      ++ [""]).filter (·.startsWith "namespace ") = [] := by
    rw [List.filter_eq_nil_iff]
    intro l hl
    rw [List.mem_append, List.mem_map, List.mem_singleton] at hl
    rw [Bool.not_eq_true]
    rcases hl with ⟨l, hl, rfl⟩ | rfl
    . apply not_startsWith_namespace_indented
      simp only [linesOf, block, OutlineStep.lines, List.append_nil, List.mem_append,
        List.mem_singleton] at hl
      rcases hl with (rfl | hl) | rfl
      . simp
      . exact head?_ne_of_mem_memberBlock hl
      . simp
    . decide
  rw [render_eq_ok hrender, cutLines_classSteps h, List.filter_append, List.filter_append, hfront,
    hcomment, List.filter_cons, hclass, hbody]
  rfl

end Php

namespace Rust

/-- A line of a comment, without its line feed. -/
def commentText (line : List Char) : String :=
  if line.isEmpty then "//" else "// " ++ String.ofList line

theorem commentLine_eq (line : List Char) : commentLine line = commentText line ++ "\n" := by
  unfold commentLine commentText
  split
  . rfl
  . rfl

/-- The lines that a file starts with, up to the first empty one. -/
def headerLines (banner modulePath : String) : List String :=
  (Text.lines banner.toList).map commentText ++ ["// Module: " ++ modulePath]

theorem header_eq_join (banner : String) {modulePath : String} (h : modulePath ≠ "")
    : header banner modulePath
        =
      String.join ((headerLines banner modulePath ++ [""]).map (· ++ "\n")) := by
  have hcomments : (Text.lines banner.toList).map commentLine
      = ((Text.lines banner.toList).map commentText).map (· ++ "\n") := by
    rw [List.map_map]
    exact List.map_congr_left fun line _ => commentLine_eq line
  rw [header, if_neg h, hcomments, headerLines]
  simp [String.append_assoc]

theorem startsWith_of_mem_headerLines {banner modulePath l : String}
    (h : l ∈ headerLines banner modulePath)
    : l.startsWith "//" := by
  rw [String.startsWith_string_iff]
  rw [headerLines, List.mem_append, List.mem_singleton, List.mem_map] at h
  rcases h with ⟨line, -, rfl⟩ | rfl
  . unfold commentText
    split
    . exact List.prefix_refl _
    . simp
  . simp

theorem newline_not_mem_of_mem_headerLines {banner modulePath l : String}
    (hmodule : '\n' ∉ modulePath.toList) (h : l ∈ headerLines banner modulePath)
    : '\n' ∉ l.toList := by
  rw [headerLines, List.mem_append, List.mem_singleton, List.mem_map] at h
  rcases h with ⟨line, hline, rfl⟩ | rfl
  . have hnewline := newline_not_mem_of_mem_lines hline
    unfold commentText
    split
    . decide
    . simp [hnewline]
  . simp [hmodule]

theorem takeWhile_cutLines_header (banner : String) {modulePath : String} (h : modulePath ≠ "")
    (hmodule : '\n' ∉ modulePath.toList) (rest : String)
    : (cutLines (header banner modulePath ++ rest)).takeWhile (·.startsWith "//")
        =
      headerLines banner modulePath := by
  have hlines : ∀ l ∈ headerLines banner modulePath ++ [""], '\n' ∉ l.toList := by
    intro l hl
    rw [List.mem_append, List.mem_singleton] at hl
    rcases hl with hl | rfl
    . exact newline_not_mem_of_mem_headerLines hmodule hl
    . decide
  rw [header_eq_join banner h, cutLines_join_append hlines, List.append_assoc]
  rw [List.takeWhile_append_of_pos fun l hl => startsWith_of_mem_headerLines hl]
  simp

end Rust

end LazyProxy
