import LazyProxy.Document.Descriptor
import LazyProxy.Document.Resolution

/-!
Flat declarations of document types, which name their parents, and their resolution into inheritance
chains.
-/

namespace LazyProxy

/-- A document type as declared: the parent is given by name. -/
structure Declaration where
  name : String
  parent : Option String := none
  properties : List Property := []
  methods : List String := []
deriving DecidableEq, Repr, Inhabited

/-- The form in which a name is looked up, if it can be read: `\App\Article` and `App::Article` have
the same. -/
def lookupKey? (name : String) : Option String :=
  (QualifiedName.parse? name).map (·.display)

/-- The key a declaration is stored under. A name that cannot be read stands for itself. -/
def Declaration.key (d : Declaration) : String :=
  (lookupKey? d.name).getD d.name

/-- What the declaration says about its own class. -/
def Declaration.level (d : Declaration) : ClassLevel :=
  .ofName d.name d.properties d.methods

/-- Declarations in the order in which their keys came first, no two of one key. -/
structure Registry where
  declarations : List Declaration
  distinct : (declarations.map Declaration.key).Nodup

namespace Registry

instance : EmptyCollection Registry := ⟨⟨[], List.nodup_nil⟩⟩

def size (r : Registry) : Nat :=
  r.declarations.length

/-- The declared names as they were written. -/
def names (r : Registry) : List String :=
  r.declarations.map (·.name)

/-- The declaration stored under a key. -/
def find? (r : Registry) (key : String) : Option Declaration :=
  r.declarations.find? (·.key = key)

/-- The declaration of a name. A name that cannot be read finds none. -/
def get? (r : Registry) (name : String) : Option Declaration :=
  (lookupKey? name).bind r.find?

def contains (r : Registry) (name : String) : Bool :=
  (r.get? name).isSome

/-- The declarations with `d` in the place of the one of its key. -/
def replaced (ds : List Declaration) (d : Declaration) : List Declaration :=
  ds.map fun e => if e.key = d.key then d else e

theorem map_key_replaced (ds : List Declaration) (d : Declaration) :
    (replaced ds d).map Declaration.key = ds.map Declaration.key := by
  simp only [replaced, List.map_map]
  refine List.map_congr_left fun e _ => ?_
  simp only [Function.comp]
  split <;> simp_all

/-- Adds a declaration. It takes the place of an earlier one of its key and otherwise comes last. -/
def insert (r : Registry) (d : Declaration) : Registry :=
  if h : d.key ∈ r.declarations.map Declaration.key then
    { declarations := replaced r.declarations d
      distinct := by rw [map_key_replaced]; exact r.distinct }
  else
    { declarations := r.declarations ++ [d]
      distinct := by
        rw [List.map_append, List.nodup_append]
        refine ⟨r.distinct, by simp, ?_⟩
        intro a ha b hb
        simp only [List.map_cons, List.map_nil, List.mem_singleton] at hb
        exact fun hab => h (hb ▸ hab ▸ ha) }

def ofList (ds : List Declaration) : Registry :=
  ds.foldl insert ∅

theorem mem_of_find? {r : Registry} {key : String} {d : Declaration} (h : r.find? key = some d) :
    d ∈ r.declarations ∧ d.key = key := by
  refine ⟨List.mem_of_find?_eq_some h, ?_⟩
  simpa using List.find?_some h

/-- The declarations whose keys are not among the visited ones. -/
def unvisited (r : Registry) (visited : List String) : List Declaration :=
  r.declarations.filter (!visited.contains ·.key)

theorem length_unvisited_lt {r : Registry} {visited : List String} {key : String} {d : Declaration}
    (h : r.find? key = some d) (hv : key ∉ visited) :
    (r.unvisited (key :: visited)).length < (r.unvisited visited).length := by
  obtain ⟨hd, rfl⟩ := mem_of_find? h
  have hsub : r.unvisited (d.key :: visited) =
      (r.unvisited visited).filter fun e => e.key != d.key := by
    simp only [unvisited, List.filter_filter]
    refine List.filter_congr fun e _ => ?_
    simp only [List.contains_cons, Bool.not_or, bne]
  rw [hsub]
  refine List.length_filter_lt_length_iff_exists.2 ⟨d, ?_, by simp⟩
  simp only [unvisited, List.mem_filter]
  exact ⟨hd, by simpa using hv⟩

/-- The ancestors of a declaration, nearest first. `visited` holds the keys of the types that lead
to it, its own included; meeting one of them again means that the chain runs in a circle. -/
def ancestors (r : Registry) (visited : List String) (d : Declaration) :
    Except ResolutionError (List Declaration) :=
  match d.parent with
  | none => .ok []
  | some parent =>
    match lookupKey? parent with
    | none => .error (.unknownParent d.name parent)
    | some key =>
      if _hv : key ∈ visited then .error (.cycle parent)
      else
        match _h : r.find? key with
        | none => .error (.unknownParent d.name parent)
        | some e => (r.ancestors (key :: visited) e).map (e :: ·)
termination_by (r.unvisited visited).length
decreasing_by exact length_unvisited_lt _h _hv

/-- The inheritance chain of a declared type. -/
def resolve (r : Registry) (name : String) : Except ResolutionError Descriptor :=
  match lookupKey? name with
  | none => .error .emptyName
  | some key =>
    match r.find? key with
    | none => .error (.unknownType name)
    | some d => (r.ancestors [key] d).map fun as => ⟨d.level, as.map Declaration.level⟩

end Registry

end LazyProxy
