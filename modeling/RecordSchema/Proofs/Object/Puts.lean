import RecordSchema.Schema.Object
import RecordSchema.Proofs.Occurrences
import RecordSchema.Proofs.StringSet
import Mathlib.Data.List.Induction

/-!
# Runs of puts

Properties are put into an object schema one by one. However many are put, and in whatever
order, no two properties have the same name. The names stand in the order in which they were
first put, and under each name stands the property that was put last.
-/

namespace RecordSchema

/-! ### One put -/

/-- Putting a property adds its name behind all others, unless it is there already. -/
theorem names_putProperty (p : Property) (properties : List Property) :
  (putProperty p properties).map (·.name)
    = if p.name ∈ properties.map (·.name) then properties.map (·.name)
      else properties.map (·.name) ++ [p.name]
  := by
  induction properties with
  | nil => rfl
  | cons q rest ih =>
      by_cases hq : q.name = p.name
      · simp [putProperty, hq]
      · have hp : p.name ≠ q.name := Ne.symm hq
        simp only [putProperty, hq, if_false, List.map_cons, ih, List.mem_cons, hp, false_or]
        split
        · rfl
        · rfl

/-- A property with a new name is put behind all others. -/
theorem putProperty_of_not_mem {p : Property} {properties : List Property}
    (h : p.name ∉ properties.map (·.name)) :
  putProperty p properties = properties ++ [p]
  := by
  induction properties with
  | nil => rfl
  | cons q rest ih =>
      simp only [List.map_cons, List.mem_cons, not_or] at h
      rw [putProperty, if_neg (Ne.symm h.1), ih h.2]
      rfl

/-- A property that is there after a put was put or was there before. -/
theorem mem_of_mem_putProperty {p q : Property} {properties : List Property}
    (h : q ∈ putProperty p properties) :
  q = p ∨ q ∈ properties
  := by
  induction properties with
  | nil => simpa [putProperty] using h
  | cons r rest ih =>
      rw [putProperty] at h
      split at h
      · simp only [List.mem_cons] at h ⊢
        tauto
      · simp only [List.mem_cons] at h ⊢
        rcases h with rfl | h
        · tauto
        · have := ih h
          tauto

/-- A put keeps the names of the properties different. -/
theorem nodup_names_putProperty (p : Property) {properties : List Property}
    (h : (properties.map (·.name)).Nodup) :
  ((putProperty p properties).map (·.name)).Nodup
  := by
  rw [names_putProperty]
  split
  · apply h
  · rename_i hp
    apply List.Nodup.append h (List.nodup_singleton _)
    simpa using hp

/-! ### Runs of puts -/

/-- Properties put one by one into those before. -/
def putAll (puts before : List Property) : List Property :=
  puts.foldl (fun properties p => putProperty p properties) before

@[simp]
theorem putAll_nil (before : List Property) :
  putAll [] before = before
  := rfl

@[simp]
theorem putAll_cons (p : Property) (puts before : List Property) :
  putAll (p :: puts) before = putAll puts (putProperty p before)
  := rfl

theorem putAll_append (puts more before : List Property) :
  putAll (puts ++ more) before = putAll more (putAll puts before)
  := List.foldl_append

/-- After a run of puts the names are those that were put, in the order of their first put. -/
theorem names_putAll (puts : List Property) :
  (putAll puts []).map (·.name) = (puts.map (·.name)).eraseDups
  := by
  induction puts using List.reverseRecOn with
  | nil => rfl
  | append_singleton puts p ih =>
      rw [putAll_append, putAll_cons, putAll_nil, names_putProperty, ih, List.map_append,
        List.map_singleton, eraseDups_concat]
      simp only [List.mem_eraseDups]

/-- After a run of puts no two properties have the same name. -/
theorem nodup_names_putAll (puts : List Property) :
  ((putAll puts []).map (·.name)).Nodup
  := by
  induction puts using List.reverseRecOn with
  | nil => apply List.nodup_nil
  | append_singleton puts p ih =>
      rw [putAll_append, putAll_cons, putAll_nil]
      apply nodup_names_putProperty p ih

/-- After a run of puts the property with a name is the one that was put last under it. -/
theorem find?_putAll (puts : List Property) (name : String) :
  (putAll puts []).find? (·.name == name) = puts.findRev? (·.name == name)
  := by
  induction puts using List.reverseRecOn with
  | nil => rfl
  | append_singleton puts p ih =>
      rw [putAll_append, putAll_cons, putAll_nil, find?_putProperty, ih,
        List.findRev?_eq_find?_reverse, List.findRev?_eq_find?_reverse, List.reverse_append]
      by_cases hp : p.name = name
      · simp [hp]
      · simp [hp]

/-- Putting properties with different names that are not there yet adds them in their order. -/
theorem putAll_of_nodup {puts before : List Property}
    (h : ((before ++ puts).map (·.name)).Nodup) :
  putAll puts before = before ++ puts
  := by
  induction puts generalizing before with
  | nil => simp
  | cons p puts ih =>
      have hput : putProperty p before = before ++ [p] := by
        apply putProperty_of_not_mem
        have := h
        simp only [List.map_append, List.map_cons, List.nodup_append, List.nodup_cons] at this
        grind
      rw [putAll_cons, hput, ih (by simpa using h)]
      simp

/-! ### Object schemas after a run of puts -/

/-- The set of the required names, kept by adding and removing one name at each put. -/
def requiredAfter (puts : List Property) : StringSet :=
  puts.foldl (fun names p => if p.required then names.insert p.name else names.erase p.name) ∅

/-- A name is required after a run of puts when the last put under it was a required one. -/
theorem mem_requiredAfter {puts : List Property} {name : String} :
  name ∈ requiredAfter puts
    ↔ ∃ p, puts.findRev? (·.name == name) = some p ∧ p.required = true
  := by
  induction puts using List.reverseRecOn with
  | nil => simp [requiredAfter]
  | append_singleton puts p ih =>
      simp only [requiredAfter, List.foldl_append, List.foldl_cons, List.foldl_nil] at ih ⊢
      simp only [List.findRev?_eq_find?_reverse, List.reverse_append, List.reverse_singleton,
        List.singleton_append] at ih ⊢
      by_cases hname : p.name = name
      · subst hname
        split
        · simp [*]
        · simp [*]
      · have hne : name ≠ p.name := Ne.symm hname
        rw [List.find?_cons_of_neg (by simpa using hname), ← ih]
        split
        · simp [hne]
        · simp [hne]

/-- What an object schema says about its properties after a run of puts. -/
structure ObjectSchema.Holds (object : ObjectSchema) (puts : List Property) : Prop where
  /-- No two properties have the same name. -/
  distinct : object.names.Nodup
  /-- The names stand in the order of their first put. -/
  ordered : object.names = (puts.map (·.name)).eraseDups
  /-- Under each name stands the schema that was put last, if any was. -/
  found : ∀ name, object.property? name = (puts.findRev? (·.name == name)).map (·.schema)
  /-- A name is required when the last put under it was a required one. -/
  requires : ∀ name, object.isRequired name = true
    ↔ ∃ p, puts.findRev? (·.name == name) = some p ∧ p.required = true
  /-- The set of required names is the one that is kept put by put. -/
  required : object.required = requiredAfter puts
  /-- The required names are names of properties. -/
  subset : ∀ name ∈ object.required, name ∈ object.names
  /-- The optional names are the other ones, in the same order. -/
  optional : object.optional = object.names.filter (· ∉ object.required)

namespace ObjectSchema

/-- No name is both required and optional. -/
theorem Holds.disjoint {object : ObjectSchema} {puts : List Property} (h : object.Holds puts)
    {name : String} (hname : name ∈ object.required) :
  name ∉ object.optional
  := by
  rw [h.optional]
  simp [hname]

/-- The names of the properties are the required and the optional ones. -/
theorem Holds.mem_names_iff {object : ObjectSchema} {puts : List Property}
    (h : object.Holds puts) {name : String} :
  name ∈ object.names ↔ name ∈ object.required ∨ name ∈ object.optional
  := by
  have hsubset := h.subset name
  rw [h.optional, List.mem_filter, decide_eq_true_iff]
  tauto

/-- A name is required when there is a required property with it. -/
theorem mem_required_iff {object : ObjectSchema} {name : String} :
  name ∈ object.required ↔ ∃ p ∈ object.properties, p.required = true ∧ p.name = name
  := by
  rw [ObjectSchema.required, StringSet.mem_ofList]
  simp [and_assoc]

/-- Where names differ, a name is required when the property with it is. -/
theorem mem_required_iff_find? {object : ObjectSchema} (h : object.names.Nodup)
    {name : String} :
  name ∈ object.required ↔ ∃ p, object.find? name = some p ∧ p.required = true
  := by
  rw [mem_required_iff]
  constructor
  · rintro ⟨p, hp, hrequired, hname⟩
    use p, (find?_key_eq_some_iff h).mpr ⟨hp, hname⟩
  · rintro ⟨p, hp, hrequired⟩
    obtain ⟨hmem, hname⟩ := (find?_key_eq_some_iff h).mp hp
    use p, hmem

/-- A set of required names answers as the test of a single name. -/
theorem isRequired_iff {object : ObjectSchema} {name : String} :
  object.isRequired name = true ↔ name ∈ object.required
  := by
  rw [mem_required_iff, isRequired, List.any_eq_true]
  simp

/-- Where names differ, the optional names are those that are not required. -/
theorem optional_eq_filter {object : ObjectSchema} (h : object.names.Nodup) :
  object.optional = object.names.filter (· ∉ object.required)
  := by
  rw [optional, names, List.filter_map]
  congr 1
  apply List.filter_congr
  intro p hp
  have hfind : object.find? p.name = some p := (find?_key_eq_some_iff h).mpr ⟨hp, rfl⟩
  have : p.name ∈ object.required ↔ p.required = true := by
    rw [mem_required_iff_find? h, hfind]
    simp
  simp [this]

/-- An object schema whose properties were put one by one says about them what the run of
puts says. -/
theorem holds_of_properties_eq {object : ObjectSchema} {puts : List Property}
    (h : object.properties = putAll puts []) :
  object.Holds puts
  := by
  have hdistinct : object.names.Nodup := by
    rw [names, h]
    apply nodup_names_putAll
  have hfind (name : String) : object.find? name = puts.findRev? (·.name == name) := by
    rw [find?, h, find?_putAll]
  have hrequired (name : String) : name ∈ object.required
      ↔ ∃ p, puts.findRev? (·.name == name) = some p ∧ p.required = true := by
    rw [mem_required_iff_find? hdistinct, hfind]
  constructor
  · apply hdistinct
  · rw [names, h, names_putAll]
  · intro name
    rw [property?, hfind]
  · intro name
    rw [isRequired_iff, hrequired]
  · apply StringSet.eq_of_mem_iff
    intro name
    rw [hrequired, mem_requiredAfter]
  · intro name hname
    obtain ⟨p, hp, -, hname⟩ := mem_required_iff.mp hname
    apply List.mem_map.mpr
    use p
  · apply optional_eq_filter hdistinct

end ObjectSchema

end RecordSchema
