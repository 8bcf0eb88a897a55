import LazyProxy.Layout.Box

/-!
This module contains how boxes with ends of lines in them are laid out: line by line, and alike whatever
has been written before.
-/

namespace LazyProxy.Layout

/-- A page with more text in front. -/
def Page.after (w : String) (p : Page) : Page :=
  { p with written := w ++ p.written }

variable (w : String) (p : Page)

theorem Page.write_after (s : String) : (p.after w).write s = (p.write s).after w := by
  simp [write, writeBlanks, after, String.append_assoc]

theorem Page.skip_after (b : Break) : (p.after w).skip b = (p.skip b).after w := by
  rfl

theorem append_push (s : String) (c : Char) : w ++ s.push c = (w ++ s).push c := by
  rw [← String.append_singleton, ← String.append_singleton, String.append_assoc]

theorem Page.newLine_after (b : Break) : (p.after w).newLine b = (p.newLine b).after w := by
  unfold newLine
  cases b.lastChar with
  | none => simp [after, append_push]
  | some c => simp [after, writeBlanks, append_push, String.append_assoc]

mutual

theorem renderBox_after (mode : Mode) (outside : Nat) (p : Page) (b : Box)
    : renderBox mode outside (p.after w) b = (renderBox mode outside p b).after w := by
  cases b with
  | text s => exact p.write_after w s
  | brk b =>
    have hspace : (p.after w).space = p.space := rfl
    unfold renderBox
    simp only [hspace, p.skip_after, p.newLine_after]
    exact (apply_ite (Page.after w) _ _ _).symm
  | group indent consistent limit body =>
    have hspace : (p.after w).space = p.space := rfl
    unfold renderBox
    simp only [hspace]
    split
    . exact renderBoxes_after .flat outside p body
    . exact congrArg (fun q : Page => { q with indent := p.indent })
        (renderBoxes_after _ outside { p with indent := p.indent + indent } body)

theorem renderBoxes_after (mode : Mode) (outside : Nat) (p : Page) (bs : List Box)
    : renderBoxes mode outside (p.after w) bs = (renderBoxes mode outside p bs).after w := by
  cases bs with
  | nil => rfl
  | cons b bs =>
    rw [renderBoxes, renderBoxes, renderBox_after mode _ p b, renderBoxes_after mode outside _ bs]

end

theorem Box.width_le_widthOf {b : Box} {bs : List Box} (h : b ∈ bs) : b.width ≤ widthOf bs := by
  induction bs with
  | nil => contradiction
  | cons c bs ih =>
    rw [widthOf]
    cases List.mem_cons.mp h with
    | inl h => rw [h]; omega
    | inr h => have := ih h; omega

variable {p} {outside : Nat} {bs : List Box}

theorem renderBoxes_text (mode : Mode) (s : String)
    : renderBoxes mode outside p (.text s :: bs) = renderBoxes mode outside (p.write s) bs := by
  rfl

theorem renderBoxes_brk {b : Break} (h : b.never = false)
    : renderBoxes .consistent outside p (.brk b :: bs)
        =
      renderBoxes .consistent outside (p.newLine b) bs := by
  simp only [renderBoxes, renderBox, h]
  rfl

/-- A box that a line has to end in does not fit. -/
theorem renderBoxes_group {mode : Mode} {q r : Page} {indent : Int} {body : List Box} {b : Break}
    (hb : .brk b ∈ body) (hspace : p.space < b.blank)
    (hq : q = { p with indent := p.indent + indent })
    (hr : renderBoxes .consistent (Box.widthToBreak outside bs) q body = r)
    : renderBoxes mode outside p (.group indent true none body :: bs)
        =
      renderBoxes mode outside { r with indent := p.indent } bs := by
  have hwidth : b.blank ≤ Box.widthOf body := Box.width_le_widthOf hb
  subst hq
  subst hr
  rw [renderBoxes, renderBox, if_neg (by simp only [Box.width]; omega)]
  rfl

end LazyProxy.Layout
