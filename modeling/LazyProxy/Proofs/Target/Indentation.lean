import Mathlib.Algebra.GroupWithZero.Nat
import Mathlib.Algebra.Order.BigOperators.Group.List
import Mathlib.Algebra.Order.Group.Nat
import Mathlib.Data.List.Infix
import LazyProxy.Proofs.Text.Join
import LazyProxy.Target.Outline

/-!
This module contains which lines steps write, whatever they are and however they are nested. A line
is indented by the level at which its first text comes that is not empty. It has all the blanks of its
level unless these are more than a machine word counts.
-/

namespace LazyProxy

open Text

/-- A line without the blanks in front of it, and its level of indentation. -/
structure OutlineLine where
  level : Nat
  text : String
deriving DecidableEq, Repr

namespace OutlineLine

/-- The text of a line behind the blanks that are written for its level. An empty line has none. -/
def indented (width : Nat) (l : OutlineLine) : String :=
  if l.text = "" then "" else Outline.blanks width l.level ++ l.text

/-- The text of a line behind `width` blanks per level, however many these are. -/
def fullyIndented (width : Nat) (l : OutlineLine) : String :=
  if l.text = "" then "" else String.ofList (List.replicate (l.level * width) ' ') ++ l.text

/-- Whether a machine word counts the blanks of a line. -/
def Fits (width : Nat) (l : OutlineLine) : Prop :=
  l.text = "" ∨ l.level * width < UInt64.size

instance (width : Nat) : DecidablePred (Fits width) :=
  fun l => inferInstanceAs (Decidable (l.text = "" ∨ l.level * width < UInt64.size))

end OutlineLine

/-- What steps come down to. -/
inductive OutlineEvent where
  | text (s : String)
  | lineEnd
  | deeper
  | back
deriving DecidableEq, Repr

namespace OutlineStep

mutual

/-- What a step comes down to, in its order. -/
def events : OutlineStep → List OutlineEvent
  | .write s => [.text s]
  | .line s => [.text s, .lineEnd]
  | .newline => [.lineEnd]
  | .indent => [.deeper]
  | .dedent => [.back]
  | .blankLines count => List.replicate count .lineEnd
  | .block opening closing body =>
    [.text opening, .lineEnd, .deeper] ++ eventsOf body ++ [.back, .text closing, .lineEnd]

def eventsOf : List OutlineStep → List OutlineEvent
  | [] => []
  | s :: ss => events s ++ eventsOf ss

end

end OutlineStep

namespace OutlineEvent

/-- The text that an event adds to its line. -/
def written : OutlineEvent → String
  | .text s => s
  | .lineEnd | .deeper | .back => ""

/-- The level after an event. No level is below zero. -/
def levelAfter (level : Nat) : OutlineEvent → Nat
  | .deeper => level + 1
  | .back => level - 1
  | .text _ | .lineEnd => level

/-- The line of events that end none, if they start at a level. Its own level is the one at which
the first text comes that is not empty. -/
def lineOf (level : Nat) (es : List OutlineEvent) : OutlineLine where
  level := (es.takeWhile (·.written = "")).foldl levelAfter level
  text := String.join (es.map written)

/-- The lines of events that are cut where lines end. -/
def linesFrom (level : Nat) : List (List OutlineEvent) → List OutlineLine
  | [] => []
  | es :: pieces => lineOf level es :: linesFrom (es.foldl levelAfter level) pieces

/-- The lines of events that start at a level. The last line is not ended, and may be empty. -/
def layout (level : Nat) (es : List OutlineEvent) : List OutlineLine :=
  linesFrom level (es.splitOn .lineEnd)

/-- Whether events end at the level that they start at, and go below it nowhere. -/
def IsBalanced (es : List OutlineEvent) : Prop :=
  es.count .back = es.count .deeper
    ∧
  ∀ front ∈ es.inits, front.count .back ≤ front.count .deeper

instance (es : List OutlineEvent) : Decidable (IsBalanced es) :=
  inferInstanceAs (Decidable (_ ∧ _))

theorem lineOf_cons_of_written_eq {e : OutlineEvent} (he : e.written = "") (level : Nat)
    (es : List OutlineEvent)
    : lineOf level (e :: es) = lineOf (levelAfter level e) es := by
  simp [lineOf, he, String.join_cons]

theorem lineOf_cons_of_written_ne {e : OutlineEvent} (he : e.written ≠ "") (level : Nat)
    (es : List OutlineEvent)
    : lineOf level (e :: es) = ⟨level, e.written ++ String.join (es.map written)⟩ := by
  simp [lineOf, he, String.join_cons]

theorem layout_ne_nil (level : Nat) (es : List OutlineEvent) : layout level es ≠ [] := by
  rcases List.exists_cons_of_ne_nil (List.splitOn_ne_nil .lineEnd es) with ⟨ds, pieces, hpieces⟩
  rw [layout, hpieces, linesFrom]
  exact List.cons_ne_nil _ _

theorem exists_of_mem_linesFrom {level : Nat} {pieces : List (List OutlineEvent)} {l : OutlineLine}
    (h : l ∈ linesFrom level pieces)
    : ∃ es ∈ pieces, l.text = String.join (es.map written) := by
  induction pieces generalizing level with
  | nil => contradiction
  | cons es pieces ih =>
    cases List.mem_cons.mp h with
    | inl h => exact ⟨es, List.mem_cons_self, h ▸ rfl⟩
    | inr h =>
      rcases ih h with ⟨ds, hds, htext⟩
      exact ⟨ds, List.mem_cons_of_mem es hds, htext⟩

theorem newline_not_mem_of_mem_layout {level : Nat} {es : List OutlineEvent}
    (h : ∀ e ∈ es, '\n' ∉ e.written.toList)
    : ∀ l ∈ layout level es, '\n' ∉ l.text.toList := by
  intro l hl hmem
  rcases exists_of_mem_linesFrom hl with ⟨piece, hpiece, htext⟩
  rw [htext, String.toList_join, List.mem_flatMap] at hmem
  rcases hmem with ⟨t, ht, hmem⟩
  rcases List.mem_map.mp ht with ⟨e, he, rfl⟩
  rw [List.splitOn_eq_splitOnP] at hpiece
  exact h e (mem_of_mem_splitOnP hpiece he).left hmem

theorem levelAfter_add_count {level : Nat} {e : OutlineEvent}
    (h : [e].count .back ≤ level + [e].count .deeper)
    : levelAfter level e + [e].count .back = level + [e].count .deeper := by
  cases e with
  | text s => rfl
  | lineEnd => rfl
  | deeper => rfl
  | back => exact Nat.sub_add_cancel h

/-- Where no event goes below zero, the level is a matter of counting. -/
theorem foldl_levelAfter_add_count {level : Nat} {es : List OutlineEvent}
    (h : ∀ front ∈ es.inits, front.count .back ≤ level + front.count .deeper)
    : es.foldl levelAfter level + es.count .back = level + es.count .deeper := by
  induction es generalizing level with
  | nil => rfl
  | cons e es ih =>
    have hcount : ∀ a front, (e :: front).count a = [e].count a + front.count a := by
      intro a front
      rw [← List.singleton_append, List.count_append]
    have hfirst := levelAfter_add_count (h [e] (by simp))
    have hrest : ∀ front ∈ es.inits,
        front.count .back ≤ levelAfter level e + front.count .deeper := by
      intro front hfront
      have hfront := h (e :: front) (by simpa using hfront)
      rw [hcount .back front, hcount .deeper front] at hfront
      omega
    specialize ih hrest
    rw [List.foldl_cons, hcount .back es, hcount .deeper es]
    omega

theorem foldl_levelAfter_of_isBalanced {es : List OutlineEvent} (h : IsBalanced es) (level : Nat)
    : es.foldl levelAfter level = level := by
  have hcount : es.foldl levelAfter level + es.count .back = level + es.count .deeper :=
    foldl_levelAfter_add_count fun front hfront =>
      (h.right front hfront).trans (Nat.le_add_left _ level)
  have hend := h.left
  omega

end OutlineEvent

namespace Outline

open OutlineEvent OutlineStep

/-- Performs one event, with `width` blanks per level. -/
def perform (width : Nat) (o : Outline) : OutlineEvent → Outline
  | .text s => o.write width s
  | .lineEnd => o.newline
  | .deeper => o.indent
  | .back => o.dedent

variable (width : Nat)

theorem repeat_newline_eq_foldl (o : Outline) (count : Nat)
    : count.repeat newline o = (List.replicate count .lineEnd).foldl (perform width) o := by
  induction count with
  | zero => rfl
  | succ count ih =>
    rw [Nat.repeat, ih, List.replicate_succ', List.foldl_append]
    rfl

mutual

theorem step_eq_foldl_perform (o : Outline) (s : OutlineStep)
    : step width o s = s.events.foldl (perform width) o := by
  cases s with
  | write s => rfl
  | line s => rfl
  | newline => rfl
  | indent => rfl
  | dedent => rfl
  | blankLines count => exact repeat_newline_eq_foldl width o count
  | block opening closing body =>
    rw [step, steps_eq_foldl_perform _ body, events, List.foldl_append, List.foldl_append]
    rfl

theorem steps_eq_foldl_perform (o : Outline) (ss : List OutlineStep)
    : steps width o ss = (eventsOf ss).foldl (perform width) o := by
  cases ss with
  | nil => rfl
  | cons s ss =>
    rw [steps, step_eq_foldl_perform o s, steps_eq_foldl_perform _ ss, eventsOf,
      List.foldl_append]

end

theorem level_perform (o : Outline) (e : OutlineEvent)
    : (o.perform width e).level = levelAfter o.level e := by
  cases e with
  | text s =>
    rw [perform, write]
    split
    . rfl
    . rfl
  | lineEnd => rfl
  | deeper => rfl
  | back => rfl

theorem level_foldl_perform (o : Outline) (es : List OutlineEvent)
    : (es.foldl (perform width) o).level = es.foldl levelAfter o.level := by
  induction es generalizing o with
  | nil => rfl
  | cons e es ih => rw [List.foldl_cons, ih, level_perform, List.foldl_cons]

/-- An event without text changes nothing but the level. -/
theorem perform_of_written_eq (o : Outline) {e : OutlineEvent} (hend : e ≠ .lineEnd)
    (he : e.written = "")
    : o.perform width e = { o with level := levelAfter o.level e } := by
  cases e with
  | text s =>
    rw [written] at he
    rw [perform, write, if_pos he]
    rfl
  | lineEnd => exact absurd rfl hend
  | deeper => rfl
  | back => rfl

theorem perform_of_written_ne (o : Outline) {e : OutlineEvent} (he : e.written ≠ "")
    : o.perform width e
        =
      { o with
        text := o.text ++
          (if o.atLineStart then blanks width o.level else "") ++
          e.written
        atLineStart := false } := by
  cases e with
  | text s =>
    rw [written] at he
    rw [perform, write, if_neg he]
    rfl
  | lineEnd => exact absurd rfl he
  | deeper => exact absurd rfl he
  | back => exact absurd rfl he

variable {es : List OutlineEvent}

/-- What follows within a line is not indented again. -/
theorem text_foldl_perform_of_not_atLineStart (o : Outline) (ho : o.atLineStart = false)
    (hes : .lineEnd ∉ es)
    : (es.foldl (perform width) o).text = o.text ++ String.join (es.map written) := by
  induction es generalizing o with
  | nil => simp [String.join]
  | cons e es ih =>
    rw [List.mem_cons, not_or] at hes
    rw [List.foldl_cons, List.map_cons, String.join_cons, ← String.append_assoc]
    by_cases he : e.written = ""
    . rw [perform_of_written_eq width o (Ne.symm hes.left) he, he, String.append_empty]
      exact ih _ ho hes.right
    . rw [perform_of_written_ne width o he, ho, if_neg Bool.false_ne_true, String.append_empty]
      exact ih _ rfl hes.right

/-- From the start of a line, events that end none write their line. -/
theorem text_foldl_perform_of_atLineStart (o : Outline) (ho : o.atLineStart)
    (hes : .lineEnd ∉ es)
    : (es.foldl (perform width) o).text = o.text ++ (lineOf o.level es).indented width := by
  induction es generalizing o with
  | nil => simp [lineOf, OutlineLine.indented, String.join]
  | cons e es ih =>
    rw [List.mem_cons, not_or] at hes
    rw [List.foldl_cons]
    by_cases he : e.written = ""
    . rw [perform_of_written_eq width o (Ne.symm hes.left) he, lineOf_cons_of_written_eq he]
      exact ih _ ho hes.right
    . have hline : e.written ++ String.join (es.map written) ≠ "" := by simp [he]
      rw [perform_of_written_ne width o he, if_pos ho, lineOf_cons_of_written_ne he,
        text_foldl_perform_of_not_atLineStart width _ rfl hes.right, OutlineLine.indented,
        if_neg hline]
      simp only [String.append_assoc]

/-- Events that are cut where lines end write the lines of their pieces. -/
theorem text_foldl_perform_intercalate {pieces : List (List OutlineEvent)} (hne : pieces ≠ [])
    (hpieces : ∀ es ∈ pieces, .lineEnd ∉ es) (o : Outline) (ho : o.atLineStart)
    : ((List.intercalate [.lineEnd] pieces).foldl (perform width) o).text
        =
      o.text ++ join "\n" ((linesFrom o.level pieces).map (·.indented width)) := by
  induction pieces generalizing o with
  | nil => exact absurd rfl hne
  | cons es pieces ih =>
    rw [List.forall_mem_cons] at hpieces
    have hline := text_foldl_perform_of_atLineStart width o ho hpieces.left
    cases pieces with
    | nil =>
      rw [List.intercalate_singleton, hline]
      simp [linesFrom, join]
    | cons ds pieces =>
      let ended := (es.foldl (perform width) o).newline
      have hlevel : ended.level = es.foldl levelAfter o.level := level_foldl_perform width o es
      have htext : ended.text = o.text ++ (lineOf o.level es).indented width ++ "\n" := by
        rw [← hline]
        rfl
      have hended : [.lineEnd].foldl (perform width) (es.foldl (perform width) o) = ended := rfl
      rw [List.intercalate_cons_cons, List.foldl_append, List.foldl_append, hended,
        ih (List.cons_ne_nil ds pieces) hpieces.right ended rfl, hlevel, htext]
      simp [linesFrom, join, String.append_assoc]

end Outline

open OutlineEvent OutlineStep

theorem outlineText_eq_join (width : Nat) (ss : List OutlineStep)
    : outlineText width ss = join "\n" ((layout 0 (eventsOf ss)).map (·.indented width)) := by
  have hpieces : ∀ es ∈ (eventsOf ss).splitOn .lineEnd, .lineEnd ∉ es := by
    intro es hes hmem
    rw [List.splitOn_eq_splitOnP] at hes
    exact absurd (mem_of_mem_splitOnP hes hmem).right (by decide)
  have htext := Outline.text_foldl_perform_intercalate width
    (List.splitOn_ne_nil .lineEnd (eventsOf ss)) hpieces {} rfl
  rw [List.intercalate_splitOn] at htext
  rw [outlineText, Outline.steps_eq_foldl_perform, htext, String.empty_append]
  rfl

/-- The lines of a text, without the line feeds that they end with. -/
def cutLines (text : String) : List String :=
  (splitWhen (· == '\n') text.toList).map String.ofList

theorem cutLines_join {ls : List String} (hne : ls ≠ []) (h : ∀ l ∈ ls, '\n' ∉ l.toList)
    : cutLines (join "\n" ls) = ls := by
  have hpieces : ∀ p ∈ ls.map String.toList, '\n' ∉ p := List.forall_mem_map.mpr h
  rw [cutLines, join, String.toList_intercalate]
  have hsplit := splitWhen_intercalate hpieces (by simpa using hne)
  have hnewline : "\n".toList = ['\n'] := rfl
  rw [hnewline, hsplit, List.map_map]
  simp

theorem Outline.toList_blanks (width level : Nat)
    : (blanks width level).toList = List.replicate (level * width % UInt64.size) ' ' :=
  String.toList_ofList

theorem newline_not_mem_indented (width : Nat) {l : OutlineLine} (h : '\n' ∉ l.text.toList)
    : '\n' ∉ (l.indented width).toList := by
  unfold OutlineLine.indented
  split
  . simp
  . simp [h, Outline.toList_blanks]

theorem cutLines_outlineText_eq_map {width : Nat} {ss : List OutlineStep}
    (h : ∀ l ∈ layout 0 (eventsOf ss), '\n' ∉ l.text.toList)
    : cutLines (outlineText width ss) = (layout 0 (eventsOf ss)).map (·.indented width) := by
  rw [outlineText_eq_join]
  apply cutLines_join
  . simpa using layout_ne_nil 0 (eventsOf ss)
  . rw [List.forall_mem_map]
    exact fun l hl => newline_not_mem_indented width (h l hl)

theorem Outline.level_step_block {body : List OutlineStep} (h : IsBalanced (eventsOf body))
    (width : Nat) (o : Outline) (opening closing : String)
    : (o.step width (.block opening closing body)).level = o.level := by
  rw [step_eq_foldl_perform, level_foldl_perform, events, List.foldl_append, List.foldl_append]
  simp only [List.foldl_cons, List.foldl_nil, levelAfter]
  rw [foldl_levelAfter_of_isBalanced h, Nat.add_sub_cancel]

namespace OutlineLine

theorem indented_eq_fullyIndented {width : Nat} {l : OutlineLine} (h : l.Fits width)
    : l.indented width = l.fullyIndented width := by
  unfold indented fullyIndented
  split
  . rfl
  . next hne =>
    rw [Outline.blanks, Nat.mod_eq_of_lt (h.resolve_left hne)]

theorem length_indented_le (width : Nat) (l : OutlineLine)
    : (l.indented width).length ≤ (l.fullyIndented width).length := by
  unfold indented fullyIndented
  split
  . exact Nat.le_refl _
  . have hmod := Nat.mod_le (l.level * width) UInt64.size
    simpa [Outline.blanks] using hmod

theorem length_indented_lt {width : Nat} {l : OutlineLine} (h : ¬l.Fits width)
    : (l.indented width).length < (l.fullyIndented width).length := by
  rw [Fits, not_or, Nat.not_lt] at h
  rw [indented, fullyIndented, if_neg h.left, if_neg h.left]
  have hmod : l.level * width % UInt64.size < l.level * width :=
    (Nat.mod_lt _ (by decide)).trans_le h.right
  simpa [Outline.blanks] using hmod

end OutlineLine

theorem length_join_newline (ls : List String)
    : (join "\n" ls).length = (ls.map String.length).sum + (ls.length - 1) := by
  induction ls with
  | nil => rfl
  | cons l ls ih =>
    cases ls with
    | nil => simp [join]
    | cons m ls =>
      have hnewline : "\n".length = 1 := rfl
      rw [join, String.intercalate_cons_of_ne_nil (by simp), ← join, String.length_append,
        String.length_append, ih, hnewline]
      simp only [List.map_cons, List.sum_cons, List.length_cons, Nat.add_sub_cancel]
      omega

theorem outlineText_eq_fullyIndented_iff (width : Nat) (ss : List OutlineStep)
    : outlineText width ss = join "\n" ((layout 0 (eventsOf ss)).map (·.fullyIndented width))
        ↔
      ∀ l ∈ layout 0 (eventsOf ss), l.Fits width := by
  rw [outlineText_eq_join]
  constructor
  . intro h
    by_contra hfits
    simp only [not_forall, exists_prop] at hfits
    have hlength := congrArg String.length h
    rw [length_join_newline, length_join_newline, List.length_map, List.length_map, List.map_map,
      List.map_map] at hlength
    have hlt := List.sum_lt_sum (fun l : OutlineLine => (l.indented width).length)
      (fun l => (l.fullyIndented width).length) (fun l _ => l.length_indented_le width)
      (hfits.imp fun l hl => ⟨hl.left, OutlineLine.length_indented_lt hl.right⟩)
    exact absurd hlt (by rw [Nat.not_lt]; exact (Nat.add_right_cancel hlength).ge)
  . intro h
    rw [List.map_congr_left fun l hl => OutlineLine.indented_eq_fullyIndented (h l hl)]

/-- A body that ends at the level that it starts at. -/
def steppedBody : List OutlineStep :=
  [.indent, .block "(" ")" [.write "x", .newline], .dedent]

/-- Steps that go back below zero, change the level within a line, and end a line without text. -/
def raggedSteps : List OutlineStep :=
  [.dedent, .write "", .indent, .write "a", .indent, .write "b", .newline, .blankLines 1,
    .block "[" "]" steppedBody, .write ""]

/-- Steps that write a line at the second level. -/
def deepSteps : List OutlineStep :=
  [.indent, .indent, .write "x"]

end LazyProxy
