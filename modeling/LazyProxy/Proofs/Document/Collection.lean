import LazyProxy.Proofs.Document.Inspection

/-!
This module contains what inspection answers for each chain of class levels: the first fault of the
levels that it looks at, that there are too many levels, or the first property of each name.
-/

namespace LazyProxy

namespace ClassLevel

/-- What is wrong with the names of one part of a class level. -/
def invalidNames (c : ClassLevel) (part : NamePart) (names : List String) : List ResolutionError :=
  (names.filter (!isIdentifier ·)).map (.invalidIdentifier c.name.display part)

/-- All that is wrong with the names of a class level, in the order in which it counts. -/
def faults (c : ClassLevel) : List ResolutionError :=
  (if c.name.shortName = "" then [.emptyName] else []) ++
    c.invalidNames .shortName [c.name.shortName] ++
    c.invalidNames .namespaceSegment c.name.enclosing ++
    c.invalidNames .propertyName (c.properties.map (·.name))

theorem head?_invalidNames (c : ClassLevel) (part : NamePart) (names : List String)
    : (c.invalidNames part names).head?
        =
      (names.find? (!isIdentifier ·)).map (.invalidIdentifier c.name.display part) := by
  rw [invalidNames, List.head?_map, List.head?_filter]

/-- Validation reports the first fault. -/
theorem validate_eq (c : ClassLevel)
    : c.validate = match c.faults.head? with
        | some e => .error e
        | none => .ok () := by
  unfold validate
  dsimp only
  split
  . next hempty => simp [faults, hempty]
  . next hempty =>
    simp only [faults, if_neg hempty, List.nil_append, List.head?_append, head?_invalidNames,
      List.find?_singleton, List.find?_map]
    split
    . rfl
    . simp only [Option.map_none, Option.none_or]
      cases henclosing : c.name.enclosing.find? (!isIdentifier ·) with
      | some s => rfl
      | none =>
        simp only [Option.map_none, Option.none_or, Function.comp_def]
        cases c.properties.find? (!isIdentifier ·.name) with
        | some p => rfl
        | none => rfl

theorem validate_eq_error_iff {c : ClassLevel} {e : ResolutionError}
    : c.validate = .error e ↔ c.faults.head? = some e := by
  rw [validate_eq]
  cases c.faults.head? with
  | some f => simp
  | none => simp

theorem validate_eq_ok_iff {c : ClassLevel} : c.validate = .ok () ↔ c.faults = [] := by
  rw [validate_eq, ← List.head?_eq_none_iff]
  cases c.faults.head? with
  | some f => simp
  | none => simp

end ClassLevel

namespace PropertySet

theorem insert_of_mem {s : PropertySet} {p : Property} (h : p.name ∈ s.names)
    : s.insert p = s := by
  rw [insert, dif_pos h]

theorem properties_insert_of_not_mem {s : PropertySet} {p : Property} (h : p.name ∉ s.names)
    : (s.insert p).properties = s.properties ++ [p] := by
  rw [insert, dif_neg h]

/-- Of the properties that are added, those of new names stay, each where its name comes first. -/
theorem properties_foldl_insert (s : PropertySet) (ps : List Property)
    : (ps.foldl insert s).properties
        =
      s.properties ++
        (ps.filter (·.name ∉ s.names)).eraseDupsBy (fun p q => p.name == q.name) := by
  induction ps generalizing s with
  | nil => simp
  | cons p ps ih =>
    rw [List.foldl_cons, ih]
    by_cases h : p.name ∈ s.names
    . rw [insert_of_mem h, List.filter_cons_of_neg (by simpa using h)]
    . have hnames : (s.insert p).names = s.names ++ [p.name] := by
        rw [names, properties_insert_of_not_mem h, List.map_append]
        rfl
      rw [properties_insert_of_not_mem h, List.filter_cons_of_pos (by simpa using h),
        List.eraseDupsBy_cons, List.append_assoc, List.singleton_append, List.filter_filter]
      -- What has the name of `p` is dropped as found on one side and as a repetition on the other.
      congr 3
      refine List.filter_congr fun q _ => ?_
      simp [hnames, and_comm]

theorem get?_insert (s : PropertySet) (p : Property) (name : String)
    : (s.insert p).get? name = (s.get? name).or (if p.name = name then some p else none) := by
  by_cases h : p.name ∈ s.names
  . rw [insert_of_mem h]
    split
    . next hname =>
      subst hname
      rcases List.mem_map.mp h with ⟨q, hq, hname⟩
      have hsome : (s.get? p.name).isSome := by
        rw [get?, List.find?_isSome]
        exact ⟨q, hq, by simpa using hname⟩
      rw [Option.or_of_isSome hsome]
    . rw [Option.or_none]
  . rw [get?, properties_insert_of_not_mem h, List.find?_append, List.find?_singleton]
    simp only [get?, decide_eq_true_eq]

/-- Under each name there is the property that was added first. -/
theorem get?_foldl_insert (s : PropertySet) (ps : List Property) (name : String)
    : (ps.foldl insert s).get? name = (s.get? name).or (ps.find? (·.name = name)) := by
  induction ps generalizing s with
  | nil => rw [List.foldl_nil, List.find?_nil, Option.or_none]
  | cons p ps ih =>
    rw [List.foldl_cons, ih, get?_insert, List.find?_cons, Option.or_assoc]
    by_cases h : p.name = name
    . simp [h]
    . simp [h]

theorem properties_ofList (ps : List Property)
    : (ofList ps).properties = ps.eraseDupsBy (fun p q => p.name == q.name) := by
  have hnew : ps.filter (·.name ∉ (∅ : PropertySet).names) = ps := by
    apply List.filter_eq_self.mpr
    intro p _
    exact decide_eq_true (List.not_mem_nil)
  rw [ofList, properties_foldl_insert, hnew]
  rfl

theorem get?_ofList (ps : List Property) (name : String)
    : (ofList ps).get? name = ps.find? (·.name = name) := by
  rw [ofList, get?_foldl_insert]
  rfl

end PropertySet

namespace Descriptor

/-- The properties that the levels declare, level by level. -/
def declaredProperties (d : Descriptor) : List Property :=
  d.levels.flatMap (·.properties)

theorem collectFrom_eq (d : Descriptor) (found : PropertySet) (room : Nat) (levels : List ClassLevel)
    : d.collectFrom found room levels
        =
      match ((levels.take room).flatMap ClassLevel.faults).head? with
      | some e => .error e
      | none =>
        if room < levels.length then .error (.tooDeep d.name.display)
        else .ok ((levels.flatMap (·.properties)).foldl PropertySet.insert found) := by
  induction levels generalizing found room with
  | nil => simp [collectFrom]
  | cons c cs ih =>
    cases room with
    | zero => simp [collectFrom]
    | succ room =>
      unfold collectFrom
      rw [ClassLevel.validate_eq, ih, List.take_succ_cons, List.flatMap_cons, List.head?_append]
      cases c.faults.head? with
      | some e => rfl
      | none =>
        simp [bind, Except.bind, List.foldl_append]

variable {d : Descriptor}

theorem collectProperties_of_faults {e : ResolutionError}
    (h : ((d.levels.take maxInheritanceDepth).flatMap ClassLevel.faults).head? = some e)
    : d.collectProperties = .error e := by
  rw [collectProperties, collectFrom_eq, h]

theorem collectProperties_of_faultless
    (h : ∀ c ∈ d.levels.take maxInheritanceDepth, c.faults = [])
    : d.collectProperties
        =
      if maxInheritanceDepth < d.levels.length then .error (.tooDeep d.name.display)
      else .ok (.ofList d.declaredProperties) := by
  rw [collectProperties, collectFrom_eq, List.flatMap_eq_nil_iff.mpr h]
  rfl

/-- What a level adds to the faults if there is none before it. -/
theorem head?_flatMap_faults {levels : List ClassLevel} {i : Nat} {c : ClassLevel}
    (hlevel : levels[i]? = some c) (hbefore : ∀ b ∈ levels.take i, b.faults = [])
    {e : ResolutionError} (he : c.faults.head? = some e)
    : (levels.flatMap ClassLevel.faults).head? = some e := by
  have hdrop : levels.drop i = c :: levels.drop (i + 1) := by
    rcases List.getElem?_eq_some_iff.mp hlevel with ⟨hi, hc⟩
    rw [List.drop_eq_getElem_cons hi, hc]
  rw [← List.take_append_drop i levels, List.flatMap_append, List.flatMap_eq_nil_iff.mpr hbefore,
    List.nil_append, hdrop, List.flatMap_cons, List.head?_append, he]
  rfl

theorem levels_ofEndless (level : Nat → ClassLevel)
    : (ofEndless level).levels = (List.range (maxInheritanceDepth + 1)).map level := by
  rw [levels, ofEndless, List.range_succ_eq_map, List.map_cons, List.map_map]
  rfl

variable {level : Nat → ClassLevel}

theorem getElem?_levels_ofEndless {i : Nat} (hi : i ≤ maxInheritanceDepth)
    : (ofEndless level).levels[i]? = some (level i) := by
  rw [levels_ofEndless, List.getElem?_map, List.getElem?_range (by omega)]
  rfl

/-- Inspection looks at no more levels than it may take and asks whether there is one more. -/
theorem collectProperties_of_begins
    (h : ∀ i ≤ maxInheritanceDepth, d.levels[i]? = some (level i))
    : d.collectProperties
        =
      match (((List.range maxInheritanceDepth).map level).flatMap ClassLevel.faults).head? with
      | some e => .error e
      | none => .error (.tooDeep (level 0).name.display) := by
  have htake : d.levels.take maxInheritanceDepth = (List.range maxInheritanceDepth).map level := by
    apply List.ext_getElem?
    intro i
    rw [List.getElem?_take, List.getElem?_map]
    split
    . next hi =>
      rw [h i (by omega), List.getElem?_range hi]
      rfl
    . next hi => rw [List.getElem?_eq_none (by simp; omega)]; rfl
  have hlength : maxInheritanceDepth < d.levels.length :=
    (List.getElem?_eq_some_iff.mp (h _ (Nat.le_refl _))).choose
  have hown : d.own = level 0 := Option.some.inj (h 0 (Nat.zero_le _))
  rw [collectProperties, collectFrom_eq, htake, if_pos hlength, name, hown]

/-- Validation reports the first fault of a level, and inspection that of the first level that has one, of
all levels that it may take. If these have none, there must not be more of them. The properties are then
those that the levels declare, in order, of each name the first. An endless chain has the answer of a
chain that begins like it. -/
theorem collectProperties_answers (d : Descriptor)
    : (∀ c : ClassLevel, (c.validate = .ok () ↔ c.faults = [])
        ∧ ∀ e, c.validate = .error e ↔ c.faults.head? = some e)
        ∧
      (∀ (i : Nat) (c : ClassLevel) (e : ResolutionError), i < maxInheritanceDepth →
        d.levels[i]? = some c → (∀ b ∈ d.levels.take i, b.validate = .ok ()) →
          c.validate = .error e → d.collectProperties = .error e)
        ∧
      ((∀ c ∈ d.levels.take maxInheritanceDepth, c.validate = .ok ()) →
        maxInheritanceDepth < d.levels.length →
          d.collectProperties = .error (.tooDeep d.name.display))
        ∧
      ((∀ c ∈ d.levels, c.validate = .ok ()) → d.levels.length ≤ maxInheritanceDepth →
        ∃ s, d.collectProperties = .ok s
          ∧
        s.properties = d.declaredProperties.eraseDupsBy (fun p q => p.name == q.name)
          ∧
        (∀ name, s.get? name = d.declaredProperties.find? (·.name = name))
          ∧
        s.names.Nodup ∧ ∀ p ∈ s.properties, isIdentifier p.name)
        ∧
      ∀ level : Nat → ClassLevel,
        ((∀ i ≤ maxInheritanceDepth, d.levels[i]? = some (level i)) →
          (ofEndless level).collectProperties = d.collectProperties)
          ∧
        ((∀ i < maxInheritanceDepth, (level i).validate = .ok ()) →
          (ofEndless level).collectProperties = .error (.tooDeep (level 0).name.display)) := by
  refine ⟨fun _ => ⟨ClassLevel.validate_eq_ok_iff, fun _ => ClassLevel.validate_eq_error_iff⟩, ?_⟩
  -- The other parts are about the faults of all levels, one after another.
  simp only [ClassLevel.validate_eq_ok_iff, ClassLevel.validate_eq_error_iff]
  refine ⟨?_, ?_, ?_, ?_⟩
  . intro i c e hi hlevel hbefore he
    apply collectProperties_of_faults
    apply head?_flatMap_faults (i := i) _ _ he
    . rw [List.getElem?_take_of_lt hi, hlevel]
    . rw [List.take_take, Nat.min_eq_left (by omega)]
      exact hbefore
  . intro hfaultless hlength
    rw [collectProperties_of_faultless hfaultless, if_pos hlength]
  . intro hfaultless hlength
    have hok : d.collectProperties = .ok (.ofList d.declaredProperties) := by
      rw [collectProperties_of_faultless fun c hc => hfaultless c (List.mem_of_mem_take hc),
        if_neg (by omega)]
    exact ⟨_, hok, PropertySet.properties_ofList _, PropertySet.get?_ofList _,
      PropertySet.distinct _, isIdentifier_of_collectProperties hok⟩
  . intro level
    constructor
    . intro h
      rw [collectProperties_of_begins h]
      exact collectProperties_of_begins fun i hi => getElem?_levels_ofEndless hi
    . intro hfaultless
      have hnone : ((List.range maxInheritanceDepth).map level).flatMap ClassLevel.faults = [] := by
        rw [List.flatMap_eq_nil_iff, List.forall_mem_map]
        intro i hi
        exact hfaultless i (List.mem_range.mp hi)
      rw [collectProperties_of_begins fun i hi => getElem?_levels_ofEndless hi, hnone]
      rfl

/-- A reply, which gives the body of a comment another type. -/
def reply : Descriptor where
  own := ⟨⟨["App", "Reply"]⟩,
    [⟨"author", none⟩, ⟨"body", some "Option<String>"⟩, ⟨"author", none⟩], []⟩
  ancestors := [⟨⟨["App", "Comment"]⟩, [⟨"body", some "String"⟩, ⟨"date", none⟩], []⟩]

theorem collectProperties_answers_reply
    : (∀ c ∈ reply.levels, c.validate = .ok ())
        ∧
      ∃ s, reply.collectProperties = .ok s
        ∧
      s.properties = [⟨"author", none⟩, ⟨"body", some "Option<String>"⟩, ⟨"date", none⟩] := by
  have hvalid : ∀ c ∈ reply.levels, c.validate = .ok () := by
    simp only [ClassLevel.validate_eq_ok_iff]
    decide
  rcases collectProperties_answers reply with ⟨-, -, -, hok, -⟩
  rcases hok hvalid (by decide) with ⟨s, hs, hproperties, -⟩
  refine ⟨hvalid, s, hs, ?_⟩
  rw [hproperties]
  decide

end Descriptor

end LazyProxy
