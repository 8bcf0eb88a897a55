import LazyProxy.Proofs.Naming.QualifiedName
import LazyProxy.Proofs.Text.Join

/-!
This module contains the form in which names are reported, with backslashes between their segments.
Plain names have different forms and can be read again in them.
-/

namespace LazyProxy.QualifiedName

open Text

/-- A name none of whose segments holds a backslash. All names are plain whose separators are of one
kind. -/
def IsPlain (n : QualifiedName) : Prop :=
  ∀ s ∈ n.segments, '\\' ∉ s.toList

instance (n : QualifiedName) : Decidable n.IsPlain :=
  inferInstanceAs (Decidable (∀ s ∈ n.segments, '\\' ∉ s.toList))

theorem map_toList_map_ofList (ps : List (List Char))
    : (ps.map String.ofList).map String.toList = ps := by
  rw [List.map_map]
  exact (List.map_congr_left fun p _ => String.toList_ofList).trans (List.map_id ps)

theorem map_toList_inj {a b : List String} : a.map String.toList = b.map String.toList ↔ a = b := by
  exact List.map_inj_right fun _ _ => String.toList_inj.mp

theorem parse?_eq_some_iff {written : String} {n : QualifiedName}
    : parse? written = some n
        ↔
      [] ∉ pieces (body written.toList)
        ∧
      n.segments.map String.toList = pieces (body written.toList) := by
  unfold parse?
  dsimp only
  split
  . next h =>
    simp only [List.any_eq_true, List.isEmpty_iff, exists_eq_right] at h
    simp [h]
  . next h =>
    simp only [List.any_eq_true, List.isEmpty_iff, exists_eq_right] at h
    cases n with
    | mk segments =>
      rw [Option.some.injEq, QualifiedName.mk.injEq, ← map_toList_inj, map_toList_map_ofList]
      simp only [h, not_false_eq_true, true_and, eq_comm]

theorem exists_parse?_iff {written : String}
    : (∃ n, parse? written = some n) ↔ [] ∉ pieces (body written.toList) := by
  constructor
  . rintro ⟨n, h⟩
    exact (parse?_eq_some_iff.mp h).left
  . intro h
    refine ⟨⟨(pieces (body written.toList)).map String.ofList⟩, ?_⟩
    exact parse?_eq_some_iff.mpr ⟨h, map_toList_map_ofList _⟩

theorem toList_display (n : QualifiedName)
    : n.display.toList = List.intercalate ['\\'] (n.segments.map String.toList) := by
  rw [display, join, Text.join, String.toList_intercalate]
  rfl

theorem splitWhen_toList_display {n : QualifiedName} (h : n.IsPlain) (hne : n.segments ≠ [])
    : splitWhen (· == '\\') n.display.toList = n.segments.map String.toList := by
  rw [toList_display]
  apply splitWhen_intercalate
  . rw [List.forall_mem_map]
    exact h
  . simpa using hne

theorem display_inj {a b : QualifiedName} (ha : a.IsPlain) (hb : b.IsPlain) (hane : a.segments ≠ [])
    (hbne : b.segments ≠ [])
    : a.display = b.display ↔ a = b := by
  constructor
  . intro h
    have hsegments := splitWhen_toList_display ha hane
    rw [h, splitWhen_toList_display hb hbne] at hsegments
    cases a with
    | mk as =>
      cases b with
      | mk bs =>
        rw [QualifiedName.mk.injEq, ← map_toList_inj]
        exact hsegments.symm
  . rintro rfl
    rfl

/-- Cutting a name loses nothing but the separators. -/
theorem exists_intercalate_pieces (cs : List Char)
    : ∃ separator, List.intercalate separator (pieces cs) = cs := by
  unfold pieces
  split
  . exact ⟨[':', ':'], intercalate_splitColons cs⟩
  . exact ⟨['\\'], intercalate_splitWhen '\\' cs⟩

theorem pieces_ne_nil (cs : List Char) : pieces cs ≠ [] := by
  unfold pieces
  split
  . exact splitColons_ne_nil cs
  . exact splitWhen_ne_nil _ cs

variable {written : String} {n : QualifiedName}

theorem hasColons_display (h : parse? written = some n) : hasColons n.display.toList = false := by
  rw [toList_display, (parse?_eq_some_iff.mp h).right]
  unfold pieces
  split
  . apply hasColons_intercalate (by decide)
    exact hasColons_eq_false_of_mem_splitColons _
  . next hcolons =>
    rw [intercalate_splitWhen]
    simpa using hcolons

theorem body_suffix (cs : List Char) : body cs <:+ trim cs :=
  (List.dropWhile_suffix _).trans (dropColons_suffix _)

theorem exists_getLast?_display (h : parse? written = some n)
    : ∃ p c, p ∈ n.segments.map String.toList ∧ c ∈ p
        ∧
      n.display.toList.getLast? = some c ∧ isBlank c = false := by
  rcases parse?_eq_some_iff.mp h with ⟨hnil, hsegments⟩
  rcases exists_intercalate_pieces (body written.toList) with ⟨separator, hjoin⟩
  rw [toList_display, hsegments]
  have hlast := List.getLast?_eq_some_getLast (pieces_ne_nil (body written.toList))
  have hp := List.getLast_mem (pieces_ne_nil (body written.toList))
  generalize (pieces (body written.toList)).getLast _ = p at hlast hp
  have hne : p ≠ [] := by
    rintro rfl
    exact hnil hp
  have hc := List.getLast?_eq_some_getLast hne
  refine ⟨p, p.getLast hne, hp, List.getLast_mem hne, ?_, ?_⟩
  . rw [getLast?_intercalate hlast hne, hc]
  . -- The name ends where the text without blanks around it ends.
    have hbody : (body written.toList).getLast? = some (p.getLast hne) := by
      rw [← hjoin, getLast?_intercalate hlast hne, hc]
    rcases body_suffix written.toList with ⟨before, hbefore⟩
    have htrim : (trim written.toList).getLast? = some (p.getLast hne) := by
      rw [← hbefore, List.getLast?_append, hbody]
      rfl
    exact isBlank_of_getLast?_trim htrim

theorem body_eq {cs : List Char} {c : Char} (hcolons : hasColons cs = false)
    (hlast : cs.getLast? = some c) (hblank : isBlank c = false)
    : body cs = (cs.dropWhile isBlank).dropWhile (· == '\\') := by
  have hfront := getLast?_dropWhile hlast hblank
  rcases List.dropWhile_suffix isBlank (l := cs) with ⟨xs, hxs⟩
  rw [← hxs] at hcolons
  rw [body, trim, trimEnd_eq_self hfront hblank]
  rw [dropColons_eq_self (hasColons_eq_false_of_append hcolons)]

theorem exists_head?_body {cs : List Char} {c : Char} (h : (body cs).getLast? = some c)
    : ∃ d, (body cs).head? = some d ∧ (d == '\\') = false := by
  have hhead := List.head?_dropWhile_not (· == '\\') (dropColons (trim cs))
  rw [← body] at hhead
  cases hd : (body cs).head? with
  | none =>
    rw [List.head?_eq_none_iff.mp hd] at h
    contradiction
  | some d =>
    rw [hd] at hhead
    exact ⟨d, rfl, hhead⟩

/-- A plain name can be read in the form in which it is reported, though blanks that its first segment
starts with are lost. -/
theorem exists_parse?_display (h : parse? written = some n) (hplain : n.IsPlain)
    : ∃ m, parse? n.display = some m := by
  rcases exists_getLast?_display h with ⟨p, c, hp, hc, hlast, hblank⟩
  have hbackslash : (c == '\\') = false := by
    rw [beq_eq_false_iff_ne]
    rintro rfl
    rcases List.mem_map.mp hp with ⟨s, hs, rfl⟩
    exact hplain s hs hc
  have hcolons := hasColons_display h
  have hnil : [] ∉ splitWhen (· == '\\') n.display.toList := by
    rw [splitWhen_toList_display hplain (segments_ne_nil_of_parse? h), (parse?_eq_some_iff.mp h).right]
    exact (parse?_eq_some_iff.mp h).left
  have hbody := body_eq hcolons hlast hblank
  have hend : (body n.display.toList).getLast? = some c := by
    rw [hbody]
    exact getLast?_dropWhile (getLast?_dropWhile hlast hblank) hbackslash
  have hsuffix : body n.display.toList <:+ n.display.toList := by
    rw [hbody]
    exact (List.dropWhile_suffix _).trans (List.dropWhile_suffix _)
  rcases hsuffix with ⟨xs, hxs⟩
  rw [← hxs] at hnil hcolons
  rw [exists_parse?_iff, pieces, hasColons_eq_false_of_append hcolons]
  exact nil_not_mem_splitWhen_of_append (exists_head?_body hend) hnil

end LazyProxy.QualifiedName
