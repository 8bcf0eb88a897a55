import Mathlib.Logic.Basic
import LazyProxy.Code.Reader
import LazyProxy.Proofs.Code.Words
import LazyProxy.Target.Rust

/-!
This module contains what text is read as, piece by piece, and that the identifiers among its tokens can
be written.
-/

namespace LazyProxy.Code

open Text

mutual

def Token.decEq : (s t : Token) → Decidable (s = t)
  | .ident i, .ident j => decidable_of_iff (i = j) (by rw [Token.ident.injEq])
  | .lifetime i, .lifetime j => decidable_of_iff (i = j) (by rw [Token.lifetime.injEq])
  | .punct c a, .punct d b => decidable_of_iff (c = d ∧ a = b) (by rw [Token.punct.injEq])
  | .literal k a, .literal l b => decidable_of_iff (k = l ∧ a = b) (by rw [Token.literal.injEq])
  | .group d ss, .group e ts =>
    have := Token.decEqAll ss ts
    decidable_of_iff (d = e ∧ ss = ts) (by rw [Token.group.injEq])
  | .ident _, .lifetime _ | .ident _, .punct .. | .ident _, .literal .. | .ident _, .group ..
  | .lifetime _, .ident _ | .lifetime _, .punct .. | .lifetime _, .literal ..
  | .lifetime _, .group .. | .punct .., .ident _ | .punct .., .lifetime _
  | .punct .., .literal .. | .punct .., .group .. | .literal .., .ident _
  | .literal .., .lifetime _ | .literal .., .punct .. | .literal .., .group ..
  | .group .., .ident _ | .group .., .lifetime _ | .group .., .punct .. | .group .., .literal .. =>
    isFalse nofun

def Token.decEqAll : (ss ts : List Token) → Decidable (ss = ts)
  | [], [] => isTrue rfl
  | s :: ss, t :: ts =>
    have := Token.decEq s t
    have := Token.decEqAll ss ts
    decidable_of_iff (s = t ∧ ss = ts) (by rw [List.cons.injEq])
  | [], _ :: _ | _ :: _, [] => isFalse nofun

end

instance : DecidableEq Token :=
  Token.decEq

deriving instance DecidableEq for Lexeme

variable {cs rest : List Char} {i : Ident}

theorem lexemes?_gap {c : Char} (h : isGap c) (rest : List Char)
    : lexemes? (c :: rest) = lexemes? rest := by
  have hread : readLexeme? (c :: rest) = some ([], rest) := by rw [readLexeme?, if_pos h]
  rw [lexemes?_eq hread (by simp)]
  simp

theorem dropLine_append {line : List Char} (h : '\n' ∉ line) (rest : List Char)
    : dropLine (line ++ '\n' :: rest) = '\n' :: rest := by
  unfold dropLine
  rw [List.dropWhile_append_of_pos]
  . rfl
  . intro c hc
    rw [bne_iff_ne]
    rintro rfl
    exact h hc

/-- A comment up to the end of its line, in front of which a blank sets it off from documentation. -/
theorem readLexeme?_comment {line : List Char} (h : '\n' ∉ line) (rest : List Char)
    : readLexeme? ('/' :: '/' :: ' ' :: (line ++ '\n' :: rest)) = some ([], '\n' :: rest) := by
  have hline : '\n' ∉ ' ' :: line := by simpa using h
  have hdrop := dropLine_append hline rest
  have hcomment : readComment? ('/' :: '/' :: ' ' :: (line ++ '\n' :: rest))
      = some ([], dropLine (' ' :: line ++ '\n' :: rest)) := rfl
  have hstarts : startsComment ('/' :: '/' :: ' ' :: (line ++ '\n' :: rest)) = true := rfl
  rw [readLexeme?, if_neg (by decide), if_pos hstarts, hcomment]
  exact congrArg (fun r => some ([], r)) hdrop

theorem lexemes?_comment {line : List Char} (h : '\n' ∉ line) (rest : List Char)
    : lexemes? ('/' :: '/' :: ' ' :: (line ++ '\n' :: rest)) = lexemes? rest := by
  rw [lexemes?_eq (readLexeme?_comment h rest) (by simp; omega), lexemes?_gap (by decide)]
  simp

theorem exists_commentLine (line : List Char)
    : ∃ cs, (Rust.commentLine line).toList = '/' :: '/' :: cs := by
  unfold Rust.commentLine
  split
  . exact ⟨['\n'], rfl⟩
  . exact ⟨' ' :: (line ++ ['\n']), by simp⟩

theorem readLexeme?_commentLine {line : List Char} (h : '\n' ∉ line) (rest : List Char)
    : readLexeme? ((Rust.commentLine line).toList ++ rest) = some ([], '\n' :: rest) := by
  unfold Rust.commentLine
  split
  . rfl
  . have htext : ("// " ++ String.ofList line ++ "\n").toList
        = '/' :: '/' :: ' ' :: (line ++ ['\n']) := by
      simp
    rw [htext]
    simpa using readLexeme?_comment h rest

theorem length_lt_commentLine (line rest : List Char)
    : ('\n' :: rest).length < ((Rust.commentLine line).toList ++ rest).length := by
  rcases exists_commentLine line with ⟨cs, hcs⟩
  rw [hcs]
  simp only [List.length_append, List.length_cons]
  omega

theorem lexemes?_commentLine {line : List Char} (h : '\n' ∉ line) (rest : List Char)
    : lexemes? ((Rust.commentLine line).toList ++ rest) = lexemes? rest := by
  rw [lexemes?_eq (readLexeme?_commentLine h rest) (length_lt_commentLine line rest),
    lexemes?_gap (by decide)]
  simp

/-- What a file starts with is all comments. -/
theorem lexemes?_header (banner : String) {modulePath : String} (h : '\n' ∉ modulePath.toList)
    (rest : List Char)
    : lexemes? ((Rust.header banner modulePath).toList ++ rest) = lexemes? rest := by
  have hbanner : ∀ (lines : List (List Char)) (rest : List Char), (∀ l ∈ lines, '\n' ∉ l) →
      lexemes? ((String.join (lines.map Rust.commentLine)).toList ++ rest) = lexemes? rest := by
    intro lines rest hlines
    induction lines with
    | nil => rfl
    | cons l lines ih =>
      rw [List.forall_mem_cons] at hlines
      rw [List.map_cons, String.join_cons, String.toList_append, List.append_assoc,
        lexemes?_commentLine hlines.left, ih hlines.right]
  have hmodule : ∀ rest : List Char, lexemes? ((if modulePath = "" then ""
      else "// Module: " ++ modulePath ++ "\n").toList ++ rest) = lexemes? rest := by
    intro rest
    split
    . rfl
    . have htext : ("// Module: " ++ modulePath ++ "\n").toList
          = '/' :: '/' :: ' ' :: (("Module: ".toList ++ modulePath.toList) ++ ['\n']) := by
        simp
      have hline : '\n' ∉ "Module: ".toList ++ modulePath.toList := by
        rw [List.mem_append]
        simpa using h
      rw [htext]
      simpa using lexemes?_comment hline rest
  rw [Rust.header, String.toList_append, String.toList_append, List.append_assoc, List.append_assoc,
    hbanner _ _ (fun l hl => newline_not_mem_of_mem_lines hl), hmodule]
  exact lexemes?_gap (by decide) rest

theorem tokens?_eq {text : String} (h : text.toList.head? ≠ some '\ufeff')
    : tokens? text = (lexemes? text.toList).bind (nest? [] []) := by
  unfold tokens?
  split
  . next htext => simp [htext] at h
  . rfl

section Identifiers

theorem isWord_of_dropWord? (h : dropWord? cs = some rest)
    : Ident.isWord (String.ofList (cs.take (cs.length - rest.length))) := by
  cases cs with
  | nil => contradiction
  | cons c cs =>
    rw [dropWord?] at h
    split at h
    . next hc =>
      rw [Option.some.injEq] at h
      have hcs : cs.takeWhile isWordPart ++ rest = cs := by
        rw [← h, List.takeWhile_append_dropWhile]
      have htake := take_append_sub (c :: cs.takeWhile isWordPart) rest
      rw [List.cons_append, hcs] at htake
      rw [htake, Ident.isWord, String.toList_ofList]
      simp only [hc, Bool.true_and, List.all_eq_true]
      intro d hd
      exact List.mem_takeWhile_imp hd
    . contradiction

theorem isWritten_of_readIdent? (h : readIdent? cs = some (i, rest)) : i.IsWritten := by
  unfold readIdent? at h
  split at h
  . next r =>
    cases hdrop : dropWord? r with
    | none => simp [hdrop] at h
    | some rest' =>
      rw [hdrop, Option.bind_eq_bind, Option.bind_some] at h
      dsimp only at h
      split at h
      . contradiction
      . next hraw =>
        cases h
        exact ⟨isWord_of_dropWord? hdrop, fun _ => by simpa [Ident.withoutRawForm] using hraw⟩
  . cases hdrop : dropWord? cs with
    | none => simp [hdrop] at h
    | some rest' =>
      rw [hdrop, Option.bind_eq_bind, Option.bind_some] at h
      cases h
      exact ⟨isWord_of_dropWord? hdrop, by simp⟩

theorem isWritten_of_readToken? (h : readToken? cs = some (.ident i, rest)) : i.IsWritten := by
  unfold readToken? at h
  split at h
  . simp at h
  . split at h
    . split at h
      . rw [Option.map_eq_some_iff] at h
        rcases h with ⟨_, -, h⟩
        simp at h
      . simp at h
      . contradiction
    . split at h
      . contradiction
      . rw [Option.map_eq_some_iff] at h
        rcases h with ⟨r, hr, h⟩
        cases h
        exact isWritten_of_readIdent? hr

theorem ident_not_mem_docAttribute (inner : Bool) (comment : List Char)
    : .token (.ident i) ∉ docAttribute inner comment := by
  unfold docAttribute
  cases inner with
  | true => simp
  | false => simp

theorem ident_not_mem_of_readDocLine? {inner : Bool} {ls : List Lexeme}
    (h : readDocLine? inner cs = some (ls, rest))
    : .token (.ident i) ∉ ls := by
  unfold readDocLine? at h
  dsimp only at h
  rw [Option.ite_none_right_eq_some] at h
  cases h.right
  exact ident_not_mem_docAttribute _ _

theorem ident_not_mem_of_readDocBlock? {inner : Bool} {ls : List Lexeme}
    (h : readDocBlock? inner cs = some (ls, rest))
    : .token (.ident i) ∉ ls := by
  unfold readDocBlock? at h
  cases hdrop : dropComment? 0 cs with
  | none => simp [hdrop] at h
  | some rest' =>
    rw [hdrop, Option.bind_eq_bind, Option.bind_some] at h
    dsimp only at h
    rw [Option.ite_none_right_eq_some] at h
    cases h.right
    exact ident_not_mem_docAttribute _ _

theorem ident_not_mem_of_readComment? {ls : List Lexeme} (h : readComment? cs = some (ls, rest))
    : .token (.ident i) ∉ ls := by
  have hdropped : ∀ {r : Option (List Char)}, r.map (([] : List Lexeme), ·) = some (ls, rest) →
      .token (.ident i) ∉ ls := by
    intro r hr
    rw [Option.map_eq_some_iff] at hr
    rcases hr with ⟨_, -, hr⟩
    cases hr
    simp
  unfold readComment? at h
  split at h
  . exact ident_not_mem_of_readDocLine? h
  . cases h
    simp
  . exact ident_not_mem_of_readDocLine? h
  . cases h
    simp
  . cases h
    simp
  . exact ident_not_mem_of_readDocBlock? h
  . exact hdropped h
  . exact ident_not_mem_of_readDocBlock? h
  . exact hdropped h

theorem isWritten_of_readLexeme? {ls : List Lexeme} (h : readLexeme? cs = some (ls, rest))
    (hi : .token (.ident i) ∈ ls)
    : i.IsWritten := by
  unfold readLexeme? at h
  split at h
  . contradiction
  . split at h
    . cases h
      contradiction
    . split at h
      . exact absurd hi (ident_not_mem_of_readComment? h)
      . split at h
        . cases h
          simp at hi
        . cases h
          simp at hi
        . rw [Option.map_eq_some_iff] at h
          rcases h with ⟨⟨t, r⟩, ht, h⟩
          cases h
          rw [List.mem_singleton] at hi
          cases hi
          exact isWritten_of_readToken? ht

theorem isWritten_of_mem_lexemes? {text : List Char} {ls : List Lexeme} (h : lexemes? text = some ls)
    (hi : .token (.ident i) ∈ ls)
    : i.IsWritten := by
  rw [lexemes?] at h
  split at h
  . cases h
    contradiction
  . split at h
    . contradiction
    . next first rest hread =>
      split at h
      . next hlength =>
        rw [Option.map_eq_some_iff] at h
        rcases h with ⟨others, hothers, rfl⟩
        rw [List.mem_append] at hi
        cases hi with
        | inl hi => exact isWritten_of_readLexeme? hread hi
        | inr hi => exact isWritten_of_mem_lexemes? hothers hi
      . contradiction
termination_by text.length
decreasing_by assumption

/-- The identifiers among tokens are lexemes of their own, as groups hold theirs inside. -/
theorem mem_of_nest? {enclosing : List (Delimiter × List Token)} {done ts : List Token}
    {ls : List Lexeme} (h : nest? enclosing done ls = some ts) (hi : .ident i ∈ ts)
    : .ident i ∈ done ∨ (∃ e ∈ enclosing, .ident i ∈ e.2) ∨ .token (.ident i) ∈ ls := by
  induction ls generalizing enclosing done with
  | nil =>
    rw [nest?] at h
    split at h
    . cases h
      exact Or.inl (List.mem_reverse.mp hi)
    . contradiction
  | cons l ls ih =>
    cases l with
    | opening d =>
      rw [nest?] at h
      rcases ih h with hdone | ⟨e, he, hie⟩ | hls
      . contradiction
      . cases List.mem_cons.mp he with
        | inl he =>
          subst he
          exact Or.inl hie
        | inr he => exact Or.inr (Or.inl ⟨e, he, hie⟩)
      . exact Or.inr (Or.inr (by simp [hls]))
    | closing d =>
      unfold nest? at h
      split at h
      . contradiction
      . next e before outer =>
        split at h
        . rcases ih h with hdone | ⟨e', he, hie⟩ | hls
          . exact Or.inr (Or.inl ⟨(e, before), by simp, by simpa using hdone⟩)
          . exact Or.inr (Or.inl ⟨e', by simp [he], hie⟩)
          . exact Or.inr (Or.inr (by simp [hls]))
        . contradiction
    | token t =>
      rw [nest?] at h
      rcases ih h with hdone | henclosing | hls
      . cases List.mem_cons.mp hdone with
        | inl hdone => exact Or.inr (Or.inr (by simp [hdone]))
        | inr hdone => exact Or.inl hdone
      . exact Or.inr (Or.inl henclosing)
      . exact Or.inr (Or.inr (by simp [hls]))

theorem isWritten_of_mem_tokens? {text : String} {ts : List Token} (h : tokens? text = some ts)
    (hi : .ident i ∈ ts)
    : i.IsWritten := by
  unfold tokens? at h
  dsimp only at h
  rw [Option.bind_eq_some_iff] at h
  rcases h with ⟨ls, hls, hnest⟩
  rcases mem_of_nest? hnest hi with hdone | ⟨e, he, -⟩ | hmem
  . contradiction
  . contradiction
  . exact isWritten_of_mem_lexemes? hls hmem

theorem readName_eq_some {ts rest : List Token} (h : readName ts = some (i, rest))
    : ts = .ident i :: rest ∧ i.isName := by
  unfold readName at h
  split at h
  . rw [Option.ite_none_right_eq_some] at h
    cases h.right
    exact ⟨rfl, h.left⟩
  . contradiction

theorem isWritten_of_ofText? {text : String} (h : Ident.ofText? text = some i)
    : i.IsWritten ∧ i.isName := by
  unfold Ident.ofText? at h
  cases hts : tokens? text with
  | none => simp [hts] at h
  | some ts =>
    rw [hts, Option.bind_eq_bind, Option.bind_some, Option.bind_eq_bind,
      Option.bind_eq_some_iff] at h
    rcases h with ⟨⟨j, rest⟩, hname, h⟩
    split at h
    . next heq =>
      cases h
      cases heq
      rcases readName_eq_some hname with ⟨rfl, hj⟩
      exact ⟨isWritten_of_mem_tokens? hts (by simp), hj⟩
    . contradiction

end Identifiers

end LazyProxy.Code
