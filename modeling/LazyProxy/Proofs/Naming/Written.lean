import LazyProxy.Proofs.Naming.Display
import LazyProxy.Proofs.Naming.Identifier

/-!
This module contains how a name whose segments are identifiers may be written: there may be blanks around
it, double colons and then backslashes in front, and one of the two separators between its segments.
-/

namespace LazyProxy

namespace Text

theorem dropWhile_eq_self {p : Char → Bool} {cs : List Char} (h : ∀ c ∈ cs, p c = false)
    : cs.dropWhile p = cs := by
  cases cs with
  | nil => rfl
  | cons c cs => rw [List.dropWhile_cons, h c List.mem_cons_self, if_neg Bool.false_ne_true]

theorem exists_eq_append_trim (cs : List Char)
    : ∃ before after, cs = before ++ trim cs ++ after
        ∧
      (∀ c ∈ before, isBlank c) ∧ ∀ c ∈ after, isBlank c := by
  refine ⟨cs.takeWhile isBlank, ((cs.dropWhile isBlank).reverse.takeWhile isBlank).reverse, ?_, ?_, ?_⟩
  . rw [trim, trimEnd, List.append_assoc, ← List.reverse_append, List.takeWhile_append_dropWhile,
      List.reverse_reverse, List.takeWhile_append_dropWhile]
  . intro c hc
    exact List.mem_takeWhile_imp hc
  . intro c hc
    rw [List.mem_reverse] at hc
    exact List.mem_takeWhile_imp hc

theorem trimEnd_append {cs after : List Char} (hafter : ∀ c ∈ after, isBlank c)
    (hcs : ∀ c ∈ cs, isBlank c = false)
    : trimEnd (cs ++ after) = cs := by
  rw [trimEnd, List.reverse_append, List.dropWhile_append_of_pos (by simpa using hafter),
    dropWhile_eq_self (by simpa using hcs), List.reverse_reverse]

theorem trim_append {before cs after : List Char} (hbefore : ∀ c ∈ before, isBlank c)
    (hafter : ∀ c ∈ after, isBlank c) (hcs : ∀ c ∈ cs, isBlank c = false)
    : trim (before ++ cs ++ after) = cs := by
  rw [trim, List.append_assoc, List.dropWhile_append_of_pos hbefore]
  cases cs with
  | nil =>
    rw [List.nil_append, List.dropWhile_eq_nil_iff.mpr hafter]
    rfl
  | cons c cs =>
    rw [List.cons_append, List.dropWhile_cons, hcs c List.mem_cons_self, if_neg Bool.false_ne_true]
    exact trimEnd_append hafter hcs

theorem exists_eq_append_dropColons (cs : List Char)
    : ∃ k, cs = (List.replicate k [':', ':']).flatten ++ dropColons cs := by
  fun_induction dropColons cs with
  | case1 c d cs hcolons ih =>
    rcases ih with ⟨k, hk⟩
    refine ⟨k + 1, ?_⟩
    rw [List.replicate_succ, List.flatten_cons, List.append_assoc, ← hk, hcolons.left, hcolons.right]
    rfl
  | case2 => exact ⟨0, rfl⟩
  | case3 => exact ⟨0, rfl⟩

theorem dropColons_append (k : Nat) (cs : List Char)
    : dropColons ((List.replicate k [':', ':']).flatten ++ cs) = dropColons cs := by
  induction k with
  | zero => rfl
  | succ k ih =>
    rw [List.replicate_succ, List.flatten_cons, List.append_assoc]
    simpa [dropColons] using ih

theorem dropColons_of_head?_ne {cs : List Char} (h : cs.head? ≠ some ':') : dropColons cs = cs := by
  fun_cases dropColons cs with
  | case1 c d cs hcolons => simp [hcolons.left] at h
  | case2 => rfl
  | case3 => rfl

theorem exists_eq_append_dropBackslashes (cs : List Char)
    : ∃ k, cs = List.replicate k '\\' ++ cs.dropWhile (· == '\\') := by
  refine ⟨(cs.takeWhile (· == '\\')).length, ?_⟩
  have hall : ∀ c ∈ cs.takeWhile (· == '\\'), c = '\\' := by
    intro c hc
    simpa using List.mem_takeWhile_imp hc
  rw [← List.eq_replicate_of_mem hall, List.takeWhile_append_dropWhile]

theorem hasColons_append_colons (xs ys : List Char) : hasColons (xs ++ ':' :: ':' :: ys) := by
  induction xs with
  | nil => rfl
  | cons x xs ih =>
    cases xs with
    | nil =>
      rw [List.nil_append] at ih
      rw [List.singleton_append, hasColons, ih, Bool.or_true]
    | cons z zs =>
      simp only [List.cons_append] at *
      rw [hasColons, ih, Bool.or_true]

theorem hasColons_of_not_mem {p : List Char} (h : ':' ∉ p) : hasColons p = false := by
  fun_induction hasColons p with
  | case1 c d cs ih =>
    rw [List.mem_cons, not_or] at h
    rw [ih h.right, Bool.or_false, Bool.and_eq_false_imp]
    intro hc
    exact absurd (eq_of_beq hc).symm h.left
  | case2 => rfl

theorem splitColons_of_not_mem {p : List Char} (h : ':' ∉ p) : splitColons p = [p] := by
  fun_induction splitColons p with
  | case1 => rfl
  | case2 c => rfl
  | case3 c d cs hcolons ih => simp [hcolons.left] at h
  | case4 c d cs hcolons w ws hw ih =>
    rw [List.mem_cons, not_or] at h
    rw [ih h.right, List.cons.injEq] at hw
    rw [← hw.left, ← hw.right]
  | case5 c d cs hcolons hw => exact absurd hw (splitColons_ne_nil _)

theorem splitColons_append_colons {p : List Char} (h : ':' ∉ p) (cs : List Char)
    : splitColons (p ++ ':' :: ':' :: cs) = p :: splitColons cs := by
  induction p with
  | nil => simp [splitColons]
  | cons c p ih =>
    rw [List.mem_cons, not_or] at h
    cases p with
    | nil =>
      have hc : ¬(c = ':' ∧ ':' = ':') := fun hcolons => h.left hcolons.left.symm
      rw [List.singleton_append, splitColons, if_neg hc, ← List.nil_append (':' :: ':' :: cs),
        ih h.right]
    | cons d p =>
      have hc : ¬(c = ':' ∧ d = ':') := fun hcolons => h.left hcolons.left.symm
      rw [List.cons_append, List.cons_append, splitColons, if_neg hc, ← List.cons_append, ih h.right]

theorem splitColons_intercalate {ps : List (List Char)} (h : ∀ p ∈ ps, ':' ∉ p) (hne : ps ≠ [])
    : splitColons (List.intercalate [':', ':'] ps) = ps := by
  induction ps with
  | nil => contradiction
  | cons p ps ih =>
    rw [List.forall_mem_cons] at h
    cases ps with
    | nil => rw [List.intercalate_singleton, splitColons_of_not_mem h.left]
    | cons q qs =>
      rw [List.intercalate_cons_cons, List.append_assoc]
      rw [List.cons_append, List.singleton_append, splitColons_append_colons h.left]
      rw [ih h.right (List.cons_ne_nil q qs)]

end Text

namespace QualifiedName

open Text

/-- A text of a name: separators in front, double colons before backslashes, and its segments with one
separator between them. -/
def spelling (n : QualifiedName) (colons backslashes : Nat) (separator : String) : List Char :=
  (List.replicate colons [':', ':']).flatten ++ List.replicate backslashes '\\' ++
    (n.join separator).toList

/-- Whether a text is one of the name, apart from the blanks around it. -/
def IsWritten (n : QualifiedName) (written : String) : Prop :=
  ∃ before after colons backslashes, ∃ separator ∈ ["::", "\\"],
    (∀ c ∈ before, isBlank c) ∧ (∀ c ∈ after, isBlank c)
      ∧
    written.toList = before ++ n.spelling colons backslashes separator ++ after

theorem toList_join (n : QualifiedName) (separator : String)
    : (n.join separator).toList
        =
      List.intercalate separator.toList (n.segments.map String.toList) := by
  rw [join, Text.join, String.toList_intercalate]

theorem isWritten_join (n : QualifiedName) {separator : String}
    (hseparator : separator ∈ ["::", "\\"])
    : n.IsWritten (n.join separator) :=
  ⟨[], [], 0, 0, separator, hseparator, by simp, by simp, by simp [spelling]⟩

/-- Whatever is read as a name is a text of it. -/
theorem isWritten_of_parse? {n : QualifiedName} {written : String} (h : parse? written = some n)
    : n.IsWritten written := by
  rcases exists_eq_append_trim written.toList with ⟨before, after, htrim, hbefore, hafter⟩
  rcases exists_eq_append_dropColons (trim written.toList) with ⟨colons, hcolons⟩
  rcases exists_eq_append_dropBackslashes (dropColons (trim written.toList)) with
    ⟨backslashes, hbackslashes⟩
  have hsegments := (parse?_eq_some_iff.mp h).right
  have hjoin : ∃ separator ∈ ["::", "\\"], body written.toList = (n.join separator).toList := by
    rw [pieces] at hsegments
    split at hsegments
    . refine ⟨"::", by simp, ?_⟩
      rw [toList_join, hsegments]
      exact (intercalate_splitColons _).symm
    . refine ⟨"\\", by simp, ?_⟩
      rw [toList_join, hsegments]
      exact (intercalate_splitWhen '\\' _).symm
  rcases hjoin with ⟨separator, hseparator, hbody⟩
  refine ⟨before, after, colons, backslashes, separator, hseparator, hbefore, hafter, ?_⟩
  rw [spelling, ← hbody, body, List.append_assoc (List.flatten _), ← hbackslashes, ← hcolons]
  exact htrim

section Identifiers

variable {n : QualifiedName} (hne : n.segments ≠ []) (h : ∀ s ∈ n.segments, isIdentifier s)

include h in
/-- What a text of a name is made of. -/
theorem mem_spelling {colons backslashes : Nat} {separator : String}
    (hseparator : separator ∈ ["::", "\\"]) {c : Char}
    (hc : c ∈ n.spelling colons backslashes separator)
    : c = ':' ∨ c = '\\' ∨ isIdentifierPart c := by
  rw [spelling, List.mem_append, List.mem_append, List.mem_flatten] at hc
  rcases hc with (⟨pair, hpair, hc⟩ | hc) | hc
  . rw [List.eq_of_mem_replicate hpair] at hc
    exact Or.inl (by simpa using hc)
  . exact Or.inr (Or.inl (List.eq_of_mem_replicate hc))
  . rcases mem_of_mem_join hc with hc | ⟨s, hs, hc⟩
    . simp only [List.mem_cons, List.not_mem_nil, or_false] at hseparator
      rcases hseparator with rfl | rfl
      . exact Or.inl (by simpa using hc)
      . exact Or.inr (Or.inl (by simpa using hc))
    . exact Or.inr (Or.inr (isIdentifierPart_of_mem (h s hs) c hc))

include h in
theorem isPlain_of_isIdentifier : n.IsPlain :=
  fun s hs => not_mem_of_isIdentifier (h s hs) (by decide)

include hne h

/-- The text of the segments starts with neither separator. -/
theorem exists_head?_join (separator : String)
    : ∃ c, (n.join separator).toList.head? = some c ∧ isIdentifierStart c := by
  rcases List.exists_cons_of_ne_nil hne with ⟨s, segments, hs⟩
  rcases isIdentifier_iff.mp (h s (by simp [hs])) with ⟨⟨c, hhead, hc⟩, -⟩
  refine ⟨c, ?_, hc⟩
  cases hlist : s.toList with
  | nil => simp [hlist] at hhead
  | cons d ds =>
    rw [toList_join, hs, List.map_cons, hlist, intercalate_cons_left]
    rw [hlist] at hhead
    exact hhead

theorem pieces_join {separator : String} (hseparator : separator ∈ ["::", "\\"])
    : pieces (n.join separator).toList = n.segments.map String.toList := by
  have hcolon : ∀ p ∈ n.segments.map String.toList, ':' ∉ p := by
    rw [List.forall_mem_map]
    exact fun s hs => not_mem_of_isIdentifier (h s hs) (by decide)
  simp only [List.mem_cons, List.not_mem_nil, or_false] at hseparator
  rcases hseparator with rfl | rfl
  . rw [pieces, toList_join]
    split
    . exact splitColons_intercalate hcolon (by simpa using hne)
    . next hcolons =>
      -- Without a double colon there is one segment only.
      rcases List.exists_cons_of_ne_nil hne with ⟨s, segments, hs⟩
      rw [hs, List.map_cons] at hcolons ⊢
      cases segments with
      | nil =>
        rw [List.map_nil, List.intercalate_singleton]
        exact splitWhen_of_not_mem (not_mem_of_isIdentifier (h s (by simp [hs])) (by decide))
      | cons t segments =>
        rw [List.map_cons, List.intercalate_cons_cons, List.append_assoc] at hcolons
        exact absurd (hasColons_append_colons _ _) hcolons
  . have hcolons : hasColons n.display.toList = false := by
      rw [toList_display]
      exact hasColons_intercalate (by decide) fun p hp => hasColons_of_not_mem (hcolon p hp)
    rw [← display, pieces, hcolons, if_neg Bool.false_ne_true]
    exact splitWhen_toList_display (isPlain_of_isIdentifier h) hne

theorem body_spelling {before after : List Char} (hbefore : ∀ c ∈ before, isBlank c)
    (hafter : ∀ c ∈ after, isBlank c) (colons backslashes : Nat) {separator : String}
    (hseparator : separator ∈ ["::", "\\"])
    : body (before ++ n.spelling colons backslashes separator ++ after)
        =
      (n.join separator).toList := by
  have hblank : ∀ c ∈ n.spelling colons backslashes separator, isBlank c = false := by
    intro c hc
    rcases mem_spelling h hseparator hc with rfl | rfl | hc
    . rfl
    . rfl
    . exact isBlank_eq_false_of_isIdentifierPart hc
  rcases exists_head?_join hne h separator with ⟨c, hhead, hstart⟩
  have hcolon : c ≠ ':' := by
    rintro rfl
    contradiction
  have hbackslash : c ≠ '\\' := by
    rintro rfl
    contradiction
  have hfront : (List.replicate backslashes '\\' ++ (n.join separator).toList).head? ≠ some ':' := by
    cases backslashes with
    | zero => simpa [hhead] using hcolon
    | succ k => simp [List.replicate_succ]
  rw [body, trim_append hbefore hafter hblank, spelling, List.append_assoc, dropColons_append,
    dropColons_of_head?_ne hfront, List.dropWhile_append_of_pos (by simp)]
  cases hjoin : (n.join separator).toList with
  | nil => rfl
  | cons d ds =>
    rw [hjoin, List.head?_cons, Option.some.injEq] at hhead
    rw [List.dropWhile_cons, hhead, if_neg (by simpa using hbackslash)]

/-- Each text of a name is read as the name. -/
theorem parse?_of_isWritten {written : String} (hwritten : n.IsWritten written)
    : parse? written = some n := by
  rcases hwritten with
    ⟨before, after, colons, backslashes, separator, hseparator, hbefore, hafter, hwritten⟩
  rw [parse?_eq_some_iff, hwritten, body_spelling hne h hbefore hafter _ _ hseparator,
    pieces_join hne h hseparator]
  refine ⟨?_, rfl⟩
  intro hnil
  rcases List.mem_map.mp hnil with ⟨s, hs, hempty⟩
  exact ne_empty_of_isIdentifier (h s hs) (String.toList_eq_nil_iff.mp hempty)

end Identifiers

/-- A name of identifiers is read from its texts and from nothing else. They include its segments with
either separator, and the segments are those of the namespace followed by the short name. -/
theorem parse?_eq_some_iff_isWritten (n : QualifiedName) (hne : n.segments ≠ [])
    (h : ∀ s ∈ n.segments, isIdentifier s)
    : (∀ written, parse? written = some n ↔ n.IsWritten written)
        ∧
      (∀ separator ∈ ["::", "\\"], parse? (n.join separator) = some n)
        ∧
      n.enclosing ++ [n.shortName] = n.segments := by
  have hread : ∀ separator ∈ ["::", "\\"], parse? (n.join separator) = some n :=
    fun separator hseparator => parse?_of_isWritten hne h (n.isWritten_join hseparator)
  refine ⟨fun written => ⟨isWritten_of_parse?, parse?_of_isWritten hne h⟩, hread, ?_⟩
  have hshort := isIdentifier_shortName (hread "\\" (by simp)) h
  exact (segments_eq hshort).symm

/-- Separators in front are taken off in their order, so that double colons behind a backslash stay. -/
theorem parse?_eq_some_iff_isWritten_article
    : let n : QualifiedName := ⟨["App", "Article"]⟩
      n.segments ≠ [] ∧ (∀ s ∈ n.segments, isIdentifier s)
        ∧
      parse? "\u2003::::\\App::Article\n" = some n
        ∧
      ¬n.IsWritten "\\::App\\Article" := by
  intro n
  have hne : n.segments ≠ [] := by decide
  have h : ∀ s ∈ n.segments, isIdentifier s := by decide
  have hiff := (parse?_eq_some_iff_isWritten n hne h).left
  refine ⟨hne, h, (hiff _).mpr ?_, fun hwritten => absurd ((hiff _).mpr hwritten) (by decide)⟩
  have hbefore : ∀ c ∈ ['\u2003'], isBlank c := List.forall_mem_singleton.mpr rfl
  have hafter : ∀ c ∈ ['\n'], isBlank c := List.forall_mem_singleton.mpr rfl
  exact ⟨_, _, 2, 1, "::", by decide, hbefore, hafter, by decide⟩

end QualifiedName

end LazyProxy
