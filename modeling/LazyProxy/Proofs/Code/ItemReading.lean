import LazyProxy.Code.Item.Reader
import LazyProxy.Code.Item.Writer
import LazyProxy.Proofs.Code.PlainPath

/-!
This module contains that items are read back from their tokens as they are, whatever follows them, as
soon as the types and statements in them are.
-/

namespace LazyProxy.Code

open Token (word operator)

variable {rest : List Token} {n : Nat}

theorem countAll_append (ts us : List Token)
    : Token.countAll (ts ++ us) = Token.countAll ts + Token.countAll us := by
  induction ts with
  | nil => simp [Token.countAll]
  | cons t ts ih => rw [List.cons_append, Token.countAll, Token.countAll, ih, Nat.add_assoc]

/-- What may follow a type: the end of the tokens, a block, a comma, a semicolon or a closing angle
bracket. -/
def endsTy : List Token → Bool
  | [] => true
  | .group .brace _ :: _ => true
  | .punct c _ :: _ => [',', ';', '>'].contains c
  | _ => false

/-- A type that is read where it has been written. `plus` tells whether it may be a sum there. -/
def Ty.ReadsBack (plus : Bool) (t : Ty) : Prop :=
  ∀ ⦃n : Nat⦄ ⦃rest : List Token⦄, readingDepth t.tokens ≤ n → endsTy rest →
    readTy n plus (t.tokens ++ rest) = some (t, rest)

/-- A path that is read in front of the type that implements it. -/
def Path.ReadsBack (p : Path) : Prop :=
  ∀ ⦃n : Nat⦄ ⦃rest : List Token⦄, readingDepth p.tokens ≤ n →
    readTy n true (p.tokens ++ word "for" :: rest) = some (.path p, word "for" :: rest)

/-- What an attribute has between its brackets. -/
def Attribute.content (a : Attribute) : List Token :=
  a.path.tokens ++
    match a.body with
    | .bare => []
    | .list d body => [.group d body]
    | .value e => operator "=" ++ e.tokens

def Attribute.ReadsBack (a : Attribute) : Prop :=
  readAttribute a.content = some a

/-- Statements that are read back as the body of a function. -/
def ReadBack (body : List Stmt) : Prop :=
  readStmts (readingDepth (Stmt.tokensOfList body)) (Stmt.tokensOfList body) = some body

theorem readingDepth_le_append (ts us : List Token)
    : readingDepth ts ≤ readingDepth (ts ++ us) := by
  rw [readingDepth, readingDepth, countAll_append]
  omega

theorem Ty.ReadsBack.readTy {plus : Bool} {t : Ty} (h : t.ReadsBack plus) (hrest : endsTy rest)
    : readTy (readingDepth (t.tokens ++ rest)) plus (t.tokens ++ rest) = some (t, rest) :=
  h (readingDepth_le_append _ _) hrest

theorem Path.ReadsBack.readTy {p : Path} (h : p.ReadsBack) (ts : List Token)
    : Code.readTy (readingDepth (p.tokens ++ word "for" :: ts)) true (p.tokens ++ word "for" :: ts)
        =
      some (.path p, word "for" :: ts) :=
  h (readingDepth_le_append _ _)

theorem readAttributes_tokensOfList {attributes : List Attribute}
    (h : ∀ a ∈ attributes, a.ReadsBack) (i : Ident) (ts : List Token)
    : readAttributes (Attribute.tokensOfList attributes ++ .ident i :: ts)
        =
      some (attributes, .ident i :: ts) := by
  induction attributes with
  | nil => rfl
  | cons a attributes ih =>
    rw [List.forall_mem_cons] at h
    have hcons : Attribute.tokensOfList (a :: attributes) ++ .ident i :: ts
        = .punct '#' false :: .group .bracket a.content ::
          (Attribute.tokensOfList attributes ++ .ident i :: ts) := rfl
    have ha : readAttribute a.content = some a := h.left
    rw [hcons, readAttributes, ha, ih h.right]
    rfl

/-- A visibility without a path. -/
def Visibility.isSimple : Visibility → Bool
  | .within .. => false
  | _ => true

theorem readVisibility_tokens {v : Visibility} (h : v.isSimple) {i : Ident}
    (hi : i ≠ ⟨"pub", false⟩) (ts : List Token)
    : readVisibility (v.tokens ++ .ident i :: ts) = some (v, .ident i :: ts) := by
  cases v with
  | inherited =>
    have hpub : afterWord? "pub" (.ident i :: ts) = none := by
      rcases i with ⟨name, _ | _⟩
      . rw [afterWord?, if_neg]
        rintro rfl
        exact hi rfl
      . rfl
    rw [Visibility.tokens, List.nil_append, readVisibility, hpub]
  | everyone => rfl
  | within explicit p => contradiction

theorem readAttributes_visibility {attributes : List Attribute} (h : ∀ a ∈ attributes, a.ReadsBack)
    {v : Visibility} (hv : v.isSimple) (i : Ident) (ts : List Token)
    : readAttributes (Attribute.tokensOfList attributes ++ (v.tokens ++ .ident i :: ts))
        =
      some (attributes, v.tokens ++ .ident i :: ts) := by
  cases v with
  | inherited => exact readAttributes_tokensOfList h i ts
  | everyone => exact readAttributes_tokensOfList h ⟨"pub", false⟩ (.ident i :: ts)
  | within explicit p => contradiction

theorem Ident.ne_of_isName {i : Ident} (h : i.isName) {name : String}
    (hname : reservedWords.contains name)
    : i ≠ ⟨name, false⟩ := by
  rintro rfl
  rw [isName, hname] at h
  contradiction

theorem readName_ident {i : Ident} (h : i.isName) (ts : List Token)
    : readName (.ident i :: ts) = some (i, ts) := by
  rw [readName, if_pos h]

theorem after?_colon (ts : List Token) : after? ":" (operator ":" ++ ts) = some ts := by
  rfl

theorem after?_comma (ts : List Token) : after? "," (operator "," ++ ts) = some ts := by
  rfl

/-- What is read one by one up to the end of the tokens is read back from tokens with commas between
neighbours. -/
theorem read_commaSeparated {α : Type} {read : Nat → List Token → Option (List α)}
    {tokens : α → List Token} {as : List α} (hnil : ∀ n, read (n + 1) [] = some [])
    (hcons : ∀ a ∈ as, ∀ n rest, endsTy rest → read (n + 1) (tokens a ++ rest)
      = if rest.isEmpty then some [a] else ((after? "," rest).bind (read n)).map (a :: ·))
    (hn : as.length < n)
    : read n (commaSeparated (as.map tokens)) = some as := by
  obtain ⟨n, rfl⟩ := Nat.exists_eq_add_one_of_ne_zero (Nat.ne_zero_of_lt hn)
  induction as generalizing n with
  | nil => exact hnil n
  | cons a as ih =>
    rw [List.forall_mem_cons] at hcons
    cases as with
    | nil =>
      have hread := hcons.left n [] rfl
      rwa [List.append_nil] at hread
    | cons b as =>
      obtain ⟨n, rfl⟩ := Nat.exists_eq_add_one_of_ne_zero (n := n) (by rintro rfl; simp at hn)
      have hsplit : commaSeparated ((a :: b :: as).map tokens)
          = tokens a ++ (operator "," ++ commaSeparated ((b :: as).map tokens)) := by
        simp [commaSeparated, separated]
      rw [hsplit, hcons.left _ _ rfl, after?_comma, Option.bind_some,
        ih hcons.right n (by simpa using hn)]
      rfl

theorem length_le_length_commaSeparated {α : Type} {tokens : α → List Token}
    (h : ∀ a, tokens a ≠ []) (as : List α)
    : as.length ≤ (commaSeparated (as.map tokens)).length := by
  match as with
  | [] => simp
  | [a] => exact List.length_pos_of_ne_nil (h a)
  | a :: b :: as =>
    have ha := List.length_pos_of_ne_nil (h a)
    have htail := length_le_length_commaSeparated h (b :: as)
    simp only [commaSeparated, List.map_cons, separated, List.length_append,
      List.length_cons] at htail ⊢
    omega

theorem length_le_length_flatMap {α : Type} {tokens : α → List Token} (h : ∀ a, tokens a ≠ [])
    (as : List α)
    : as.length ≤ (as.flatMap tokens).length := by
  induction as with
  | nil => simp
  | cons a as ih =>
    have ha := List.length_pos_of_ne_nil (h a)
    rw [List.flatMap_cons, List.length_append, List.length_cons]
    omega

structure FieldDef.IsReadable (f : FieldDef) : Prop where
  attributes : ∀ a ∈ f.attributes, a.ReadsBack
  visibility : f.visibility.isSimple
  name : f.name.isName
  type : f.type.ReadsBack true

namespace FieldDef

variable {f : FieldDef}

theorem tokens_append (f : FieldDef) (rest : List Token)
    : f.tokens ++ rest
        =
      Attribute.tokensOfList f.attributes ++ (f.visibility.tokens ++
        .ident f.name :: (operator ":" ++ (f.type.tokens ++ rest))) := by
  simp [tokens]

theorem tokens_ne_nil (f : FieldDef) : f.tokens ≠ [] := by
  simp [tokens]

/-- The reader of fields takes a field from the front of the tokens. -/
theorem IsReadable.readFields (h : f.IsReadable) (hrest : endsTy rest) (n : Nat)
    : readFields (n + 1) (f.tokens ++ rest)
        =
      if rest.isEmpty then some [f]
      else ((after? "," rest).bind (Code.readFields n)).map (f :: ·) := by
  have hattributes := readAttributes_visibility h.attributes h.visibility f.name
  have hvisibility := readVisibility_tokens h.visibility
    (Ident.ne_of_isName h.name (by decide : reservedWords.contains "pub"))
  have hname : f.name ≠ ⟨"_", false⟩ := Ident.ne_of_isName h.name (by decide)
  rcases List.exists_cons_of_ne_nil f.tokens_ne_nil with ⟨t, ts, hts⟩
  have hcons : f.tokens ++ rest = t :: (ts ++ rest) := by rw [hts, List.cons_append]
  rw [hcons]
  simp only [Code.readFields]
  rw [← hcons, tokens_append, hattributes]
  simp only [Option.bind_eq_bind, Option.bind_some, hvisibility]
  split
  . next heq =>
    rw [List.cons.injEq, Token.ident.injEq] at heq
    exact absurd heq.left hname
  . simp only [readName_ident h.name, Option.bind_some, after?_colon, h.type.readTy hrest]
    cases rest with
    | nil => rfl
    | cons t rest =>
      simp only [List.isEmpty_cons, Bool.false_eq_true, if_false]
      cases after? "," (t :: rest) with
      | none => rfl
      | some us =>
        rw [Option.bind_some, Option.bind_some]
        cases Code.readFields n us with
        | none => rfl
        | some fields => rfl

end FieldDef

theorem readFields_commaSeparated {fields : List FieldDef} (h : ∀ f ∈ fields, f.IsReadable)
    (hn : fields.length < n)
    : readFields n (commaSeparated (fields.map FieldDef.tokens)) = some fields := by
  refine read_commaSeparated (fun n => rfl) ?_ hn
  intro f hf n rest hrest
  exact (h f hf).readFields hrest n

namespace Signature

variable {p : Ident × Ty} {params : List (Ident × Ty)}

/-- The tokens of a parameter. -/
def paramTokens (p : Ident × Ty) : List Token :=
  .ident p.1 :: operator ":" ++ p.2.tokens

theorem paramTokens_ne_nil (p : Ident × Ty) : paramTokens p ≠ [] := by
  simp [paramTokens]

theorem readNamedParams_paramTokens (hname : p.1.isName) (htype : p.2.ReadsBack true)
    (hrest : endsTy rest) (n : Nat)
    : readNamedParams (n + 1) (paramTokens p ++ rest)
        =
      if rest.isEmpty then some [p]
      else ((after? "," rest).bind (readNamedParams n)).map (p :: ·) := by
  have hcons : paramTokens p ++ rest = .ident p.1 :: (operator ":" ++ (p.2.tokens ++ rest)) := by
    simp [paramTokens]
  rw [hcons]
  simp only [readNamedParams, Option.bind_eq_bind, readName_ident hname, Option.bind_some,
    after?_colon, htype.readTy hrest]
  cases rest with
  | nil => rfl
  | cons t rest =>
    simp only [List.isEmpty_cons, Bool.false_eq_true, if_false]
    cases after? "," (t :: rest) with
    | none => rfl
    | some us =>
      rw [Option.bind_some, Option.bind_some]
      cases readNamedParams n us with
      | none => rfl
      | some params => rfl

theorem readNamedParams_commaSeparated (h : ∀ p ∈ params, p.1.isName ∧ p.2.ReadsBack true)
    (hn : params.length < n)
    : readNamedParams n (commaSeparated (params.map paramTokens)) = some params := by
  refine read_commaSeparated (fun n => rfl) ?_ hn
  intro p hp n rest hrest
  exact readNamedParams_paramTokens (h p hp).left (h p hp).right hrest n

structure IsReadable (s : Signature) : Prop where
  name : s.name.isName
  params : ∀ p ∈ s.params, p.1.isName ∧ p.2.ReadsBack true
  output : ∀ t ∈ s.output, t.ReadsBack true

variable {s : Signature}

/-- How the value is taken is told from the parameters that follow. -/
theorem readReceiver_tokens (receiver : Option Receiver) (h : ∀ p ∈ params, p.1.isName)
    : readReceiver (commaSeparated ((receiver.map Receiver.tokens).toList
        ++ params.map paramTokens))
        =
      (receiver,
        if receiver.isSome && !params.isEmpty then
          operator "," ++ commaSeparated (params.map paramTokens)
        else commaSeparated (params.map paramTokens)) := by
  cases receiver with
  | none =>
    cases params with
    | nil => rfl
    | cons p params =>
      have hself : p.1 ≠ ⟨"self", false⟩ := Ident.ne_of_isName (h p (by simp)) (by decide)
      have hhead : ∃ ts, commaSeparated ((p :: params).map paramTokens) = .ident p.1 :: ts := by
        cases params with
        | nil => exact ⟨_, rfl⟩
        | cons q params => exact ⟨_, rfl⟩
      rcases hhead with ⟨ts, hts⟩
      simp only [Option.map_none, Option.toList_none, List.nil_append, Option.isSome_none,
        Bool.false_and, Bool.false_eq_true, if_false, hts]
      unfold readReceiver
      split
      . next heq =>
        rw [List.cons.injEq, Token.ident.injEq] at heq
        exact absurd heq.left hself
      . next heq => simp at heq
      . next heq => simp at heq
      . rfl
  | some r =>
    cases params with
    | nil =>
      cases r with
      | borrowed mutable => cases mutable with
        | true => rfl
        | false => rfl
      | owned => rfl
    | cons p params =>
      cases r with
      | borrowed mutable => cases mutable with
        | true => rfl
        | false => rfl
      | owned => rfl

theorem readOutput_outputTokens {output : Option Ty} (h : ∀ t ∈ output, t.ReadsBack true)
    (hrest : endsTy rest) (harrow : after? "->" rest = none)
    : readOutput (readingDepth (Ty.outputTokens output ++ rest)) true (Ty.outputTokens output ++ rest)
        =
      some (output, rest) := by
  cases output with
  | none =>
    obtain ⟨n, hn⟩ : ∃ n, readingDepth rest = n + 1 := ⟨16 * Token.countAll rest + 15, rfl⟩
    rw [Ty.outputTokens, List.nil_append, hn, readOutput, harrow]
  | some t =>
    have hdepth : readingDepth (operator "->" ++ t.tokens ++ rest)
        = 16 * (Token.countAll t.tokens + Token.countAll rest + 2) + 15 + 1 := by
      have harrow : Token.countAll (operator "->") = 2 := rfl
      rw [readingDepth, countAll_append, countAll_append, harrow]
      omega
    have hafter : after? "->" (operator "->" ++ t.tokens ++ rest) = some (t.tokens ++ rest) := rfl
    rw [Ty.outputTokens, hdepth, readOutput, hafter]
    dsimp only
    rw [h t rfl (by rw [readingDepth]; omega) hrest]
    rfl

theorem IsReadable.readSignature (h : s.IsReadable) (hrest : endsTy rest)
    (harrow : after? "->" rest = none)
    : readSignature (s.tokens ++ rest) = some (s, rest) := by
  have hfn (ts : List Token) : afterWord? "fn" (word "fn" :: ts) = some ts := rfl
  have hparams := readNamedParams_commaSeparated h.params
    (Nat.lt_succ_of_le (length_le_length_commaSeparated paramTokens_ne_nil s.params))
  have hreceiver := readReceiver_tokens s.receiver fun p hp => (h.params p hp).left
  have hsplit : s.tokens ++ rest = word "fn" :: .ident s.name :: .group .paren
      (commaSeparated ((s.receiver.map Receiver.tokens).toList ++ s.params.map paramTokens))
        :: (Ty.outputTokens s.output ++ rest) := by
    simp only [Signature.tokens, List.cons_append, List.nil_append]
    rfl
  rw [hsplit, Code.readSignature]
  simp only [hfn, Option.bind_eq_bind, Option.bind_some, readName_ident h.name, hreceiver]
  have hread : (readNamedParams ((commaSeparated (s.params.map paramTokens)).length + 1)
      (commaSeparated (s.params.map paramTokens))).bind (fun params =>
        (readOutput (readingDepth (Ty.outputTokens s.output ++ rest)) true
          (Ty.outputTokens s.output ++ rest)).bind fun r =>
            some (⟨s.name, s.receiver, params, r.1⟩, r.2)) = some (s, rest) := by
    rw [hparams, Option.bind_some, readOutput_outputTokens h.output hrest harrow]
    rfl
  -- A comma stands between what the method is called on and a first parameter.
  split
  . next heq =>
    split at heq
    . contradiction
    . rwa [heq] at hread
  . next hnone _ =>
    have hcomma : (s.receiver.isSome && !s.params.isEmpty) = false := by rw [hnone]; rfl
    rw [hcomma]
    exact hread
  . next r hsome hne =>
    cases hparams : s.params with
    | nil => simp [hparams, commaSeparated, separated] at hne
    | cons p params =>
      have hcomma : ((some r).isSome && !(p :: params).isEmpty) = true := rfl
      rw [hparams, hsome] at hread
      rw [hsome, if_pos hcomma, after?_comma]
      exact hread

end Signature

structure Function.IsReadable (f : Function) : Prop where
  attributes : ∀ a ∈ f.attributes, a.ReadsBack
  visibility : f.visibility.isSimple
  signature : f.signature.IsReadable
  body : ∀ b ∈ f.body, ReadBack b

/-- What stands in the place of a function's body. -/
def Function.bodyTokens : Option (List Stmt) → List Token
  | none => operator ";"
  | some body => [.group .brace (Stmt.tokensOfList body)]

theorem Function.tokens_append (f : Function) (rest : List Token)
    : f.tokens ++ rest
        =
      Attribute.tokensOfList f.attributes ++ (f.visibility.tokens ++
        (f.signature.tokens ++ (bodyTokens f.body ++ rest))) := by
  rcases f with ⟨attributes, visibility, signature, _ | body⟩
  . simp [tokens, bodyTokens]
  . simp [tokens, bodyTokens]

theorem Function.IsReadable.readFunction {f : Function} (h : f.IsReadable) (rest : List Token)
    : readFunction (f.tokens ++ rest) = some (f, rest) := by
  have hfn : ∃ ts, f.signature.tokens ++ (bodyTokens f.body ++ rest)
      = .ident ⟨"fn", false⟩ :: ts := ⟨_, rfl⟩
  have hattributes : readAttributes (f.tokens ++ rest) = some (f.attributes, f.visibility.tokens ++
      (f.signature.tokens ++ (bodyTokens f.body ++ rest))) := by
    rcases hfn with ⟨ts, hts⟩
    rw [tokens_append, hts]
    exact readAttributes_visibility h.attributes h.visibility _ ts
  have hvisibility : readVisibility (f.visibility.tokens ++
      (f.signature.tokens ++ (bodyTokens f.body ++ rest)))
        = some (f.visibility, f.signature.tokens ++ (bodyTokens f.body ++ rest)) := by
    rcases hfn with ⟨ts, hts⟩
    rw [hts]
    exact readVisibility_tokens h.visibility (by decide) ts
  rw [Code.readFunction, hattributes]
  simp only [Option.bind_eq_bind, Option.bind_some, hvisibility]
  rcases f with ⟨attributes, visibility, signature, _ | body⟩
  . have hend : endsTy (operator ";" ++ rest) := rfl
    simp only [bodyTokens, h.signature.readSignature hend rfl]
    rfl
  . have hbody := h.body body rfl
    have hend : endsTy (.group .brace (Stmt.tokensOfList body) :: rest) := rfl
    have hread := h.signature.readSignature hend rfl
    simp only [bodyTokens, List.cons_append, List.nil_append, hread, Option.bind_some]
    rw [hbody]
    rfl

theorem Function.tokens_ne_nil (f : Function) : f.tokens ≠ [] := by
  simp [tokens, Signature.tokens]

/-- A function starts with an attribute, its visibility or the word for functions. -/
theorem Function.exists_tokens_eq_cons {f : Function} (h : f.visibility.isSimple)
    : ∃ t ts, f.tokens = t :: ts ∧ t ≠ word "type" := by
  rcases f with ⟨_ | ⟨a, attributes⟩, visibility, signature, body⟩
  . cases visibility with
    | inherited => exact ⟨word "fn", _, rfl, by decide⟩
    | everyone => exact ⟨word "pub", _, rfl, by decide⟩
    | within explicit p => contradiction
  . exact ⟨.punct '#' false, _, rfl, by decide⟩

inductive ImplMember.IsReadable : ImplMember → Prop where
  | function {f : Function} (h : f.IsReadable) (hbody : f.body.isSome) : IsReadable (.function f)
  | type {i : Ident} {t : Ty} (hname : i.isName) (htype : t.ReadsBack true) : IsReadable (.type i t)

theorem ImplMember.tokens_ne_nil (m : ImplMember) : m.tokens ≠ [] := by
  cases m with
  | function f => exact f.tokens_ne_nil
  | type i t => simp [tokens]

theorem readImplMembers_cons {m : ImplMember} (h : m.IsReadable) (n : Nat) (rest : List Token)
    : readImplMembers (n + 1) (m.tokens ++ rest) = (readImplMembers n rest).map (m :: ·) := by
  cases h with
  | function h hbody =>
    next f =>
    rcases Function.exists_tokens_eq_cons h.visibility with ⟨t, ts, hts, ht⟩
    have hcons : (ImplMember.function f).tokens ++ rest = t :: (ts ++ rest) := by
      rw [ImplMember.tokens, hts, List.cons_append]
    have hread := h.readFunction rest
    rw [hts, List.cons_append] at hread
    rw [hcons, readImplMembers]
    . rw [hread]
      rw [Option.isSome_iff_ne_none, ne_eq, ← Option.isNone_iff_eq_none] at hbody
      simp only [Option.bind_eq_bind, Option.bind_some, if_neg hbody]
      cases readImplMembers n rest with
      | none => rfl
      | some members => rfl
    . simp
    . intro us hus
      rw [List.cons.injEq] at hus
      exact ht hus.left
  | type hname htype =>
    next i t =>
    have hsplit : (ImplMember.type i t).tokens ++ rest
        = .ident ⟨"type", false⟩ :: .ident i :: (operator "=" ++ (t.tokens ++
          (operator ";" ++ rest))) := by
      simp [ImplMember.tokens, word]
    have hequals (ts : List Token) : after? "=" (operator "=" ++ ts) = some ts := rfl
    have hsemicolon (ts : List Token) : after? ";" (operator ";" ++ ts) = some ts := rfl
    have hend : endsTy (operator ";" ++ rest) := rfl
    rw [hsplit, readImplMembers]
    simp only [Option.bind_eq_bind, readName_ident hname, Option.bind_some, hequals,
      htype.readTy hend, hsemicolon]
    cases readImplMembers n rest with
    | none => rfl
    | some members => rfl

theorem readImplMembers_append {members : List ImplMember} (h : ∀ m ∈ members, m.IsReadable)
    (n : Nat) (rest : List Token)
    : readImplMembers (members.length + n) (members.flatMap ImplMember.tokens ++ rest)
        =
      (readImplMembers n rest).map (members ++ ·) := by
  induction members with
  | nil => simp
  | cons m members ih =>
    rw [List.forall_mem_cons] at h
    rw [List.flatMap_cons, List.append_assoc, List.length_cons, Nat.add_right_comm,
      readImplMembers_cons h.left, ih h.right, Option.map_map]
    rfl

theorem readImplMembers_tokens {members : List ImplMember} (h : ∀ m ∈ members, m.IsReadable)
    (hn : members.length < n)
    : readImplMembers n (members.flatMap ImplMember.tokens) = some members := by
  obtain ⟨k, rfl⟩ := Nat.exists_eq_add_of_le (Nat.succ_le_of_lt hn)
  have hread := readImplMembers_append h (k + 1) []
  rw [List.append_nil, readImplMembers, Option.map_some, List.append_nil] at hread
  rw [Nat.succ_add, ← Nat.add_succ]
  exact hread

theorem readFunctions_tokens {functions : List Function} (h : ∀ f ∈ functions, f.IsReadable)
    (hn : functions.length < n)
    : readFunctions n (functions.flatMap Function.tokens) = some functions := by
  induction functions generalizing n with
  | nil =>
    obtain ⟨n, rfl⟩ := Nat.exists_eq_add_one_of_ne_zero (Nat.ne_zero_of_lt hn)
    rfl
  | cons f functions ih =>
    obtain ⟨n, rfl⟩ := Nat.exists_eq_add_one_of_ne_zero (Nat.ne_zero_of_lt hn)
    rw [List.forall_mem_cons] at h
    rcases Function.exists_tokens_eq_cons h.left.visibility with ⟨t, ts, hts, -⟩
    have hread := h.left.readFunction (functions.flatMap Function.tokens)
    rw [hts, List.cons_append] at hread
    rw [List.flatMap_cons, hts, List.cons_append, readFunctions]
    . rw [hread]
      simp only [Option.bind_eq_bind, Option.bind_some, ih h.right (by simpa using hn)]
    . simp

/-- A structure, an implementation or a trait whose parts are read back. -/
inductive Item.IsReadable : Item → Prop where
  | struct {attributes : List Attribute} {visibility : Visibility} {name : Ident}
      {fields : List FieldDef} (hattributes : ∀ a ∈ attributes, a.ReadsBack)
      (hvisibility : visibility.isSimple) (hname : name.isName)
      (hfields : ∀ f ∈ fields, f.IsReadable)
      : IsReadable (.struct attributes visibility name fields)
  | impl {attributes : List Attribute} {trait : Option Path} {self : Ty}
      {members : List ImplMember} (hattributes : ∀ a ∈ attributes, a.ReadsBack)
      (htrait : ∀ p ∈ trait, p.ReadsBack) (hself : self.ReadsBack true)
      (hmembers : ∀ m ∈ members, m.IsReadable)
      : IsReadable (.impl attributes trait self members)
  | trait {attributes : List Attribute} {visibility : Visibility} {name : Ident}
      {functions : List Function} (hattributes : ∀ a ∈ attributes, a.ReadsBack)
      (hvisibility : visibility.isSimple) (hname : name.isName)
      (hfunctions : ∀ f ∈ functions, f.IsReadable)
      : IsReadable (.trait attributes visibility name functions)

theorem Item.tokens_ne_nil (item : Item) : item.tokens ≠ [] := by
  cases item with
  | struct attributes visibility name fields => simp [tokens]
  | impl attributes trait self members => simp [tokens]
  | trait attributes visibility name functions => simp [tokens]
  | module attributes visibility name items => simp [tokens]
  | importAll attributes visibility p => simp [tokens]

/-- The reader of items takes an implementation from the front of the tokens, with the members that
are read from its block. -/
theorem readItems_impl {attributes : List Attribute} {trait : Option Path} {self : Ty}
    {members : List ImplMember} (hattributes : ∀ a ∈ attributes, a.ReadsBack)
    (htrait : ∀ p ∈ trait, p.ReadsBack) (hself : self.ReadsBack true) (n : Nat) (rest : List Token)
    : readItems (n + 1) ((Item.impl attributes trait self members).tokens ++ rest)
        =
      (readImplMembers ((members.flatMap ImplMember.tokens).length + 1)
        (members.flatMap ImplMember.tokens)).bind fun read =>
          (readItems n rest).map (.impl attributes trait self read :: ·) := by
  have hvisibility (ts : List Token) : readVisibility (.ident ⟨"impl", false⟩ :: ts)
      = some (.inherited, .ident ⟨"impl", false⟩ :: ts) := rfl
  have hblock : endsTy (.group .brace (members.flatMap ImplMember.tokens) :: rest) := rfl
  have hend := hself.readTy hblock
  cases trait with
  | none =>
    have hsplit : (Item.impl attributes none self members).tokens ++ rest
        = Attribute.tokensOfList attributes ++ .ident ⟨"impl", false⟩ :: (self.tokens ++
          .group .brace (members.flatMap ImplMember.tokens) :: rest) := by
      simp [Item.tokens, word]
    have hfor (ts us : List Token) : afterWord? "for" (.group .brace ts :: us) = none := rfl
    rw [hsplit, readItems]
    . rw [readAttributes_tokensOfList hattributes]
      simp only [Option.bind_eq_bind, Option.bind_some, hvisibility, hend, hfor]
      cases readImplMembers _ (members.flatMap ImplMember.tokens) with
      | none => rfl
      | some read =>
        cases readItems n rest with
        | none => rfl
        | some items => rfl
    . simp
  | some p =>
    have hsplit : (Item.impl attributes (some p) self members).tokens ++ rest
        = Attribute.tokensOfList attributes ++ .ident ⟨"impl", false⟩ :: (p.tokens ++
          word "for" :: (self.tokens ++ .group .brace (members.flatMap ImplMember.tokens)
            :: rest)) := by
      simp [Item.tokens, word]
    have hpath := (htrait p rfl).readTy
      (self.tokens ++ .group .brace (members.flatMap ImplMember.tokens) :: rest)
    have hfor (ts : List Token) : afterWord? "for" (word "for" :: ts) = some ts := rfl
    rw [hsplit, readItems]
    . rw [readAttributes_tokensOfList hattributes]
      simp only [Option.bind_eq_bind, Option.bind_some, hvisibility, hpath, hfor, hend]
      cases readImplMembers _ (members.flatMap ImplMember.tokens) with
      | none => rfl
      | some read =>
        cases readItems n rest with
        | none => rfl
        | some items => rfl
    . simp

theorem readItems_cons {item : Item} (h : item.IsReadable) (n : Nat) (rest : List Token)
    : readItems (n + 1) (item.tokens ++ rest) = (readItems n rest).map (item :: ·) := by
  cases h with
  | struct hattributes hvisibility hname hfields =>
    next attributes visibility name fields =>
    have hsplit : (Item.struct attributes visibility name fields).tokens ++ rest
        = Attribute.tokensOfList attributes ++ (visibility.tokens ++ .ident ⟨"struct", false⟩ ::
          .ident name :: .group .brace (commaSeparated (fields.map FieldDef.tokens)) :: rest) := by
      simp [Item.tokens, word]
    have hread := readFields_commaSeparated hfields
      (Nat.lt_succ_of_le (length_le_length_commaSeparated FieldDef.tokens_ne_nil fields))
    rw [hsplit, readItems]
    . rw [readAttributes_visibility hattributes hvisibility]
      simp only [Option.bind_eq_bind, Option.bind_some,
        readVisibility_tokens hvisibility (i := ⟨"struct", false⟩) (by decide), readName_ident hname]
      rw [hread]
      cases readItems n rest with
      | none => rfl
      | some items => rfl
    . simp
  | impl hattributes htrait hself hmembers =>
    next attributes trait self members =>
    have hbody := readImplMembers_tokens hmembers
      (Nat.lt_succ_of_le (length_le_length_flatMap ImplMember.tokens_ne_nil members))
    rw [readItems_impl hattributes htrait hself, hbody, Option.bind_some]
  | trait hattributes hvisibility hname hfunctions =>
    next attributes visibility name functions =>
    have hsplit : (Item.trait attributes visibility name functions).tokens ++ rest
        = Attribute.tokensOfList attributes ++ (visibility.tokens ++ .ident ⟨"trait", false⟩ ::
          .ident name :: .group .brace (functions.flatMap Function.tokens) :: rest) := by
      simp [Item.tokens, word]
    have hread := readFunctions_tokens hfunctions
      (Nat.lt_succ_of_le (length_le_length_flatMap Function.tokens_ne_nil functions))
    rw [hsplit, readItems]
    . rw [readAttributes_visibility hattributes hvisibility]
      simp only [Option.bind_eq_bind, Option.bind_some,
        readVisibility_tokens hvisibility (i := ⟨"trait", false⟩) (by decide), readName_ident hname]
      rw [hread]
      cases readItems n rest with
      | none => rfl
      | some items => rfl
    . simp

variable {items : List Item}

theorem readItems_append (h : ∀ item ∈ items, item.IsReadable) (n : Nat) (rest : List Token)
    : readItems (items.length + n) (Item.tokensOfList items ++ rest)
        =
      (readItems n rest).map (items ++ ·) := by
  induction items with
  | nil => simp [Item.tokensOfList]
  | cons item items ih =>
    rw [List.forall_mem_cons] at h
    rw [Item.tokensOfList, List.append_assoc, List.length_cons, Nat.add_right_comm,
      readItems_cons h.left, ih h.right, Option.map_map]
    rfl

theorem tokensOfList_append (items others : List Item)
    : Item.tokensOfList (items ++ others) = Item.tokensOfList items ++ Item.tokensOfList others := by
  induction items with
  | nil => rfl
  | cons item items ih => rw [List.cons_append, Item.tokensOfList, ih, Item.tokensOfList,
      List.append_assoc]

theorem length_le_countAll_tokensOfList (items : List Item)
    : items.length ≤ Token.countAll (Item.tokensOfList items) := by
  refine Nat.le_trans ?_ (length_le_countAll _)
  induction items with
  | nil => simp
  | cons item items ih =>
    have hitem := List.length_pos_of_ne_nil item.tokens_ne_nil
    rw [Item.tokensOfList, List.length_append, List.length_cons]
    omega

/-- Items are read back as a file. -/
theorem readFile?_tokensOfList (h : ∀ item ∈ items, item.IsReadable)
    : readFile? (Item.tokensOfList items) = some items := by
  have hlength := length_le_countAll_tokensOfList items
  obtain ⟨n, hn⟩ := Nat.exists_eq_add_of_le hlength
  have hread := readItems_append h (n + 1) []
  rw [readFile?, hn, Nat.add_assoc]
  rw [List.append_nil, readItems, Option.map_some, List.append_nil] at hread
  exact hread

/-- If the members of one implementation are not known to be read back, all else is. -/
theorem readFile?_impl {before behind : List Item} {attributes : List Attribute}
    {trait : Option Path} {self : Ty} (members : List ImplMember)
    (hbefore : ∀ item ∈ before, item.IsReadable) (hbehind : ∀ item ∈ behind, item.IsReadable)
    (hattributes : ∀ a ∈ attributes, a.ReadsBack) (htrait : ∀ p ∈ trait, p.ReadsBack)
    (hself : self.ReadsBack true)
    : readFile? (Item.tokensOfList (before ++ .impl attributes trait self members :: behind))
        =
      (readImplMembers ((members.flatMap ImplMember.tokens).length + 1)
        (members.flatMap ImplMember.tokens)).map
          fun read => before ++ .impl attributes trait self read :: behind := by
  have hlength := length_le_countAll_tokensOfList
    (before ++ .impl attributes trait self members :: behind)
  rw [List.length_append, List.length_cons] at hlength
  obtain ⟨n, hn⟩ := Nat.exists_eq_add_of_le hlength
  have hdepth : before.length + (behind.length + 1) + n + 1
      = before.length + (behind.length + (n + 1) + 1) := by omega
  have hread := readItems_append hbehind (n + 1) []
  rw [List.append_nil, readItems, Option.map_some, List.append_nil] at hread
  rw [readFile?, hn, hdepth, tokensOfList_append, readItems_append hbefore, Item.tokensOfList,
    readItems_impl hattributes htrait hself, hread]
  cases readImplMembers _ (members.flatMap ImplMember.tokens) with
  | none => rfl
  | some read => rfl

end LazyProxy.Code
