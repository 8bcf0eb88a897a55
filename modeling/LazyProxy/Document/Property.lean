/-!
Properties of document types, and sets of them.
-/

namespace LazyProxy

/-- An instance property. Its type is text of the host language; only Rust output needs it. -/
structure Property where
  name : String
  type : Option String := none
deriving DecidableEq, Repr, Inhabited

/-- Properties in the order in which their names came first, no two of one name. -/
structure PropertySet where
  properties : List Property
  distinct : (properties.map (·.name)).Nodup

namespace PropertySet

instance : EmptyCollection PropertySet := ⟨⟨[], List.nodup_nil⟩⟩

def names (s : PropertySet) : List String :=
  s.properties.map (·.name)

def size (s : PropertySet) : Nat :=
  s.properties.length

def get? (s : PropertySet) (name : String) : Option Property :=
  s.properties.find? (·.name = name)

def contains (s : PropertySet) (name : String) : Bool :=
  s.names.contains name

/-- Adds a property at the end unless one of its name is there already. -/
def insert (s : PropertySet) (p : Property) : PropertySet :=
  if h : p.name ∈ s.names then s
  else
    { properties := s.properties ++ [p]
      distinct := by
        have hs := s.distinct
        simp only [names] at h
        rw [List.map_append, List.nodup_append]
        refine ⟨hs, by simp, ?_⟩
        intro a ha b hb
        simp only [List.map_cons, List.map_nil, List.mem_singleton] at hb
        exact fun hab => h (hb ▸ hab ▸ ha) }

/-- The first of each name among the properties of a list. -/
def ofList (ps : List Property) : PropertySet :=
  ps.foldl insert ∅

end PropertySet

end LazyProxy
