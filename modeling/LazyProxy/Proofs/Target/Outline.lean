import LazyProxy.Proofs.Target.Indentation

/-!
This module contains the lines that steps write if they keep to whole lines. Each line stands on its
own, so that the text can be cut into lines again.
-/

namespace LazyProxy

open Text

namespace OutlineStep

mutual

/-- Whether a step writes lines with no further line feed in them, and leaves the level as it is. -/
def isWhole : OutlineStep → Bool
  | .line s => !s.toList.contains '\n'
  | .newline | .blankLines _ => true
  | .block opening closing body =>
    !opening.toList.contains '\n' && !closing.toList.contains '\n' && areWhole body
  | .write _ | .indent | .dedent => false

def areWhole : List OutlineStep → Bool
  | [] => true
  | s :: ss => isWhole s && areWhole ss

end

mutual

/-- The lines that a step writes at a level of indentation. -/
def lines (level : Nat) : OutlineStep → List OutlineLine
  | .line s => [⟨level, s⟩]
  | .newline => [⟨level, ""⟩]
  | .blankLines count => List.replicate count ⟨level, ""⟩
  | .block opening closing body =>
    [⟨level, opening⟩] ++ linesOf (level + 1) body ++ [⟨level, closing⟩]
  | .write _ | .indent | .dedent => []

def linesOf (level : Nat) : List OutlineStep → List OutlineLine
  | [] => []
  | s :: ss => lines level s ++ linesOf level ss

end

theorem linesOf_append (level : Nat) (ss ts : List OutlineStep)
    : linesOf level (ss ++ ts) = linesOf level ss ++ linesOf level ts := by
  induction ss with
  | nil => rfl
  | cons s ss ih => simp only [List.cons_append, linesOf, ih, List.append_assoc]

theorem areWhole_append (ss ts : List OutlineStep)
    : areWhole (ss ++ ts) = (areWhole ss && areWhole ts) := by
  induction ss with
  | nil => rfl
  | cons s ss ih => simp only [List.cons_append, areWhole, ih, Bool.and_assoc]

theorem areWhole_map_line {ts : List String} (h : ∀ t ∈ ts, '\n' ∉ t.toList)
    : areWhole (ts.map .line) := by
  induction ts with
  | nil => rfl
  | cons t ts ih => simp_all [areWhole, isWhole]

mutual

theorem newline_not_mem_of_mem_lines {s : OutlineStep} {level : Nat} (hs : s.isWhole)
    {l : OutlineLine} (hl : l ∈ s.lines level)
    : '\n' ∉ l.text.toList := by
  cases s with
  | line s => simp_all [isWhole, lines]
  | newline => simp_all [lines]
  | blankLines count => simp_all [lines]
  | block opening closing body =>
    simp only [isWhole, Bool.and_eq_true, Bool.not_eq_true', List.contains_eq_mem,
      decide_eq_false_iff_not] at hs
    simp only [lines, List.mem_append, List.mem_singleton] at hl
    rcases hl with (hl | hl) | hl
    . rw [hl]
      exact hs.left.left
    . exact newline_not_mem_of_mem_linesOf hs.right hl
    . rw [hl]
      exact hs.left.right
  | write s => contradiction
  | indent => contradiction
  | dedent => contradiction

theorem newline_not_mem_of_mem_linesOf {ss : List OutlineStep} {level : Nat} (hs : areWhole ss)
    {l : OutlineLine} (hl : l ∈ linesOf level ss)
    : '\n' ∉ l.text.toList := by
  cases ss with
  | nil => simp [linesOf] at hl
  | cons s ss =>
    rw [areWhole, Bool.and_eq_true] at hs
    rw [linesOf, List.mem_append] at hl
    cases hl with
    | inl hl => exact newline_not_mem_of_mem_lines hs.left hl
    | inr hl => exact newline_not_mem_of_mem_linesOf hs.right hl

end

end OutlineStep

namespace OutlineEvent

theorem layout_nil (level : Nat) : layout level [] = [⟨level, ""⟩] := rfl

theorem layout_append_lineEnd_cons {ds : List OutlineEvent} (hds : .lineEnd ∉ ds) (level : Nat)
    (es : List OutlineEvent)
    : layout level (ds ++ .lineEnd :: es)
        =
      lineOf level ds :: layout (ds.foldl levelAfter level) es := by
  rw [layout, List.splitOn_append_cons_self_of_not_mem hds, linesFrom]
  rfl

theorem layout_lineEnd_cons (level : Nat) (es : List OutlineEvent)
    : layout level (.lineEnd :: es) = ⟨level, ""⟩ :: layout level es :=
  layout_append_lineEnd_cons List.not_mem_nil level es

theorem layout_text_lineEnd_cons (level : Nat) (s : String) (es : List OutlineEvent)
    : layout level (.text s :: .lineEnd :: es) = ⟨level, s⟩ :: layout level es := by
  have hline : lineOf level [.text s] = ⟨level, s⟩ := by
    by_cases hs : (text s).written = ""
    . rw [lineOf_cons_of_written_eq hs, show s = "" from hs]
      rfl
    . rw [lineOf_cons_of_written_ne hs]
      simp [written, String.join]
  have htext : .lineEnd ∉ [text s] := by simp
  rw [← hline]
  exact layout_append_lineEnd_cons htext level es

theorem layout_replicate_lineEnd_append (level count : Nat) (es : List OutlineEvent)
    : layout level (List.replicate count .lineEnd ++ es)
        =
      List.replicate count ⟨level, ""⟩ ++ layout level es := by
  induction count with
  | zero => rfl
  | succ count ih =>
    rw [List.replicate_succ, List.cons_append, layout_lineEnd_cons, ih]
    rfl

/-- An event without text only changes the level that the first line starts at. -/
theorem layout_cons_of_written_eq {e : OutlineEvent} (hend : e ≠ .lineEnd) (he : e.written = "")
    (level : Nat) (es : List OutlineEvent)
    : layout level (e :: es) = layout (levelAfter level e) es := by
  rcases List.exists_cons_of_ne_nil (List.splitOn_ne_nil .lineEnd es) with ⟨ds, pieces, hpieces⟩
  rw [layout, layout, List.splitOn_cons_eq_if_modifyHead, if_neg (by simpa using hend), hpieces,
    List.modifyHead_cons, linesFrom, linesFrom, lineOf_cons_of_written_eq he]
  rfl

theorem layout_deeper_cons (level : Nat) (es : List OutlineEvent)
    : layout level (.deeper :: es) = layout (level + 1) es :=
  layout_cons_of_written_eq (by decide) rfl level es

theorem layout_back_cons (level : Nat) (es : List OutlineEvent)
    : layout level (.back :: es) = layout (level - 1) es :=
  layout_cons_of_written_eq (by decide) rfl level es

end OutlineEvent

namespace OutlineStep

open OutlineEvent

mutual

theorem layout_events_append {s : OutlineStep} (hs : s.isWhole) (level : Nat)
    (es : List OutlineEvent)
    : layout level (s.events ++ es) = s.lines level ++ layout level es := by
  cases s with
  | line s => exact layout_text_lineEnd_cons level s es
  | newline => exact layout_lineEnd_cons level es
  | blankLines count => exact layout_replicate_lineEnd_append level count es
  | block opening closing body =>
    rw [isWhole, Bool.and_eq_true] at hs
    have hevents : (block opening closing body).events ++ es
        = .text opening :: .lineEnd :: .deeper ::
          (eventsOf body ++ .back :: .text closing :: .lineEnd :: es) := by
      simp [events]
    -- The body starts one level deeper and ends there, so the closing line is back at the level.
    rw [hevents, layout_text_lineEnd_cons, layout_deeper_cons, layout_eventsOf_append hs.right,
      layout_back_cons, layout_text_lineEnd_cons, lines, List.append_assoc]
    rfl
  | write s => contradiction
  | indent => contradiction
  | dedent => contradiction

theorem layout_eventsOf_append {ss : List OutlineStep} (hs : areWhole ss) (level : Nat)
    (es : List OutlineEvent)
    : layout level (eventsOf ss ++ es) = linesOf level ss ++ layout level es := by
  cases ss with
  | nil => rfl
  | cons s ss =>
    rw [areWhole, Bool.and_eq_true] at hs
    rw [eventsOf, List.append_assoc, layout_events_append hs.left,
      layout_eventsOf_append hs.right, linesOf, List.append_assoc]

end

/-- Behind whole lines, a line without text is left open. -/
theorem layout_eventsOf {ss : List OutlineStep} (hs : areWhole ss) (level : Nat)
    : layout level (eventsOf ss) = linesOf level ss ++ [⟨level, ""⟩] := by
  have hlayout := layout_eventsOf_append hs level []
  rwa [List.append_nil, layout_nil] at hlayout

end OutlineStep

theorem join_append_empty (ls : List String)
    : join "\n" (ls ++ [""]) = String.join (ls.map (· ++ "\n")) := by
  induction ls with
  | nil => rfl
  | cons l ls ih =>
    rw [List.cons_append, join, String.intercalate_cons_of_ne_nil (by simp), ← join, ih,
      List.map_cons, String.join_cons]

theorem outlineText_eq {width : Nat} {ss : List OutlineStep} (h : OutlineStep.areWhole ss)
    : outlineText width ss
        =
      String.join (((OutlineStep.linesOf 0 ss).map (·.indented width)).map (· ++ "\n")) := by
  rw [outlineText_eq_join, OutlineStep.layout_eventsOf h, List.map_append, ← join_append_empty]
  rfl

theorem cutLines_append_newline {l : String} (h : '\n' ∉ l.toList) (rest : String)
    : cutLines (l ++ "\n" ++ rest) = l :: cutLines rest := by
  have htext : (l ++ "\n" ++ rest).toList = l.toList ++ '\n' :: rest.toList := by
    simp
  unfold cutLines
  rw [htext, splitWhen_append_cons (by rfl), splitWhen_of_not_mem h, List.map_append]
  rw [List.map_singleton, String.ofList_toList]
  rfl

theorem cutLines_join_append {ls : List String} (h : ∀ l ∈ ls, '\n' ∉ l.toList) (rest : String)
    : cutLines (String.join (ls.map (· ++ "\n")) ++ rest) = ls ++ cutLines rest := by
  induction ls with
  | nil => simp [String.join]
  | cons l ls ih =>
    rw [List.forall_mem_cons] at h
    rw [List.map_cons, String.join_cons, String.append_assoc, cutLines_append_newline h.left]
    rw [ih h.right]
    rfl

theorem OutlineLine.indented_zero (width : Nat) (s : String)
    : (⟨0, s⟩ : OutlineLine).indented width = s := by
  unfold indented
  split
  . next h => exact h.symm
  . simp [Outline.blanks]

theorem map_indented_linesOf_map_line (width : Nat) (ts : List String)
    : (OutlineStep.linesOf 0 (ts.map .line)).map (·.indented width) = ts := by
  induction ts with
  | nil => rfl
  | cons t ts ih =>
    simp [OutlineStep.linesOf, OutlineStep.lines, OutlineLine.indented_zero, ih]

theorem cutLines_outlineText {width : Nat} {ss : List OutlineStep} (h : OutlineStep.areWhole ss)
    : cutLines (outlineText width ss)
        =
      (OutlineStep.linesOf 0 ss).map (·.indented width) ++ [""] := by
  rw [cutLines_outlineText_eq_map, OutlineStep.layout_eventsOf h, List.map_append]
  . rfl
  . rw [OutlineStep.layout_eventsOf h, List.forall_mem_append, List.forall_mem_singleton]
    exact ⟨fun l => OutlineStep.newline_not_mem_of_mem_linesOf h, by simp⟩

end LazyProxy
