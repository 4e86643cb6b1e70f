import RecordSchema.Schema.Basic

/-!
# Sets of schemas

A set of schemas keeps its members in the order in which they were first inserted. Of equal
schemas only the first one is kept.
-/

namespace RecordSchema

/-- A set of schemas. -/
structure SchemaSet where
  /-- The members, in the order of insertion. -/
  members : List Schema := []
deriving Inhabited

namespace SchemaSet

instance : BEq SchemaSet := ⟨fun s t => equalSchemas s.members t.members⟩

/-- Whether a member is equal to a schema. -/
def contains (set : SchemaSet) (schema : Schema) : Bool := set.members.any (·.equal schema)

/-- Insert a schema behind all members unless it has an equal member, and say whether it is
added. -/
def insertNew (set : SchemaSet) (schema : Schema) : Bool × SchemaSet :=
  if set.contains schema then (false, set) else (true, ⟨set.members ++ [schema]⟩)

/-- The set with a schema, unless it has an equal member. -/
def insert (set : SchemaSet) (schema : Schema) : SchemaSet := (set.insertNew schema).2

/-- The set of the schemas of a list. -/
def ofList (schemas : List Schema) : SchemaSet := schemas.foldl insert {}

/-- The first member with an identifier. -/
def get? (set : SchemaSet) (id : String) : Option Schema :=
  set.members.find? (·.id? == some id)

variable {set : SchemaSet} {schema : Schema}

/-- A schema with an equal member leaves the set as it is. -/
theorem insertNew_of_contains (h : set.contains schema = true) :
  set.insertNew schema = (false, set)
  := if_pos h

/-- A schema without an equal member is added. -/
theorem insertNew_of_not_contains (h : set.contains schema = false) :
  set.insertNew schema = (true, ⟨set.members ++ [schema]⟩)
  := if_neg (Bool.eq_false_iff.mp h)

end SchemaSet

end RecordSchema
