import RecordSchema.Proofs.Draft.Records

/-!
# Roots

The instances of a root are the objects that are valid for exactly one of the alternatives. So
a root covers its alternatives exactly when no value is valid for two of them.

For the schemas of an object this fails as soon as some record could be a page: such a value is
valid for both alternatives, and therefore not for the root. It fails for the root of the shapes
of the interface, as an object without members is an instance of every shape.
-/

namespace RecordSchema

open Json Draft

/-! ### One of several schemas -/

section

variable (reading : Reading) (refs : String → Json → Prop)

theorem validNever_iff (schemas : List Schema) (v : Json) :
  ValidNever reading refs (schemaDocuments schemas) v
    ↔ ∀ s ∈ schemas, ¬ Valid reading refs s.document v
  := by
  induction schemas with
  | nil => simp [schemaDocuments, ValidNever]
  | cons s rest ih => rw [schemaDocuments, ValidNever, ih, List.forall_mem_cons]

/-- The schemas in a list for which a value is valid are at one place. -/
theorem validOnce_iff (schemas : List Schema) (v : Json) :
  ValidOnce reading refs (schemaDocuments schemas) v
    ↔ ∃ index s, schemas[index]? = some s ∧ Valid reading refs s.document v
      ∧ ∀ (other : Nat) (t : Schema), schemas[other]? = some t →
        Valid reading refs t.document v → other = index
  := by
  induction schemas with
  | nil => simp [schemaDocuments, ValidOnce]
  | cons first rest ih =>
      rw [schemaDocuments, ValidOnce, ih, validNever_iff]
      constructor
      · rintro (⟨hfirst, hrest⟩ | ⟨hfirst, index, s, hs, hvalid, hunique⟩)
        · use 0, first, rfl, hfirst
          intro other t ht hvalid
          rcases other with _ | other
          · rfl
          · exact absurd hvalid (hrest t (List.mem_of_getElem? ht))
        · use index + 1, s, hs, hvalid
          intro other t ht hother
          rcases other with _ | other
          · obtain rfl := Option.some.inj ht
            exact absurd hother hfirst
          · rw [hunique other t ht hother]
      · rintro ⟨index, s, hs, hvalid, hunique⟩
        rcases index with _ | index
        · left
          obtain rfl := Option.some.inj hs
          use hvalid
          intro t ht hother
          obtain ⟨other, hother'⟩ := List.mem_iff_getElem?.mp ht
          exact absurd (hunique (other + 1) t hother' hother) (Nat.succ_ne_zero other)
        · right
          constructor
          · intro hfirst
            exact absurd (hunique 0 first rfl hfirst).symm (Nat.succ_ne_zero index)
          · use index, s, hs, hvalid
            intro other t ht hother
            apply Nat.succ.inj (hunique (other + 1) t ht hother)

end

/-! ### Roots of sets -/

namespace Draft

variable (reading : Reading)

/-- A value is valid for exactly one of the members of a set. -/
def ValidForOne (set : SchemaSet) (v : Json) : Prop :=
  ∃ index member, set.members[index]? = some member ∧ ValidIn reading set member v
    ∧ ∀ (other : Nat) (another : Schema), set.members[other]? = some another →
      ValidIn reading set another v → other = index

/-- The values of all members of a set are values of a schema. -/
def Covers (set : SchemaSet) (root : Schema) : Prop :=
  ∀ member ∈ set.members, ∀ v, ValidIn reading set member v → ValidIn reading set root v

/-- No value is valid for members of a set at different places. -/
def Apart (set : SchemaSet) : Prop :=
  ∀ (index other : Nat) (member another : Schema) (v : Json),
    set.members[index]? = some member → set.members[other]? = some another →
    ValidIn reading set member v → ValidIn reading set another v → index = other

end Draft

section

variable (reading : Reading)

/-- The instances of a root are the objects that are valid for exactly one member. -/
theorem validIn_rootOf_iff (set : SchemaSet) (id : String) (v : Json) :
  ValidIn reading set (rootOf set id) v
    ↔ (∃ members, v = .object members) ∧ ValidForOne reading set v
  := by
  have hrequired (name : String) :
      name ∉ ObjectSchema.required
        { id := some id, metaSchema := some draft, oneOf := some set.members } := by
    rw [ObjectSchema.mem_required_iff]
    simp
  rw [ValidIn, rootOf, Schema.document, valid_members]
  simp only [hrequired, Option.some.injEq, forall_eq', validOnce_iff]
  constructor
  · rintro ⟨members, rfl, -, -, hone⟩
    use ⟨members, rfl⟩
    apply hone
  · rintro ⟨⟨members, rfl⟩, hone⟩
    use members, rfl
    refine ⟨?_, ?_, hone⟩
    · rintro name ⟨⟩
    · rintro p ⟨⟩

/-- A root covers the members of a set of object schemas exactly when these are apart. -/
theorem covers_rootOf_iff {set : SchemaSet}
    (hobjects : ∀ member ∈ set.members, ∃ object, member = .object object) (id : String) :
  Covers reading set (rootOf set id) ↔ Apart reading set
  := by
  constructor
  · intro hcovers index other member another v hmember hanother hvalid hother
    have hroot := hcovers member (List.mem_of_getElem? hmember) v hvalid
    obtain ⟨-, one, _, -, -, hunique⟩ := (validIn_rootOf_iff reading set id v).mp hroot
    calc index = one := hunique index member hmember hvalid
      _ = other := (hunique other another hanother hother).symm
  · intro hapart member hmember v hvalid
    apply (validIn_rootOf_iff reading set id v).mpr
    constructor
    · obtain ⟨object, rfl⟩ := hobjects member hmember
      rw [ValidIn, Schema.document, valid_members] at hvalid
      obtain ⟨members, hv, -⟩ := hvalid
      use members
    · obtain ⟨index, hindex⟩ := List.mem_iff_getElem?.mp hmember
      use index, member, hindex, hvalid
      intro other another hanother hother
      apply hapart other index another member v hanother hindex hother hvalid

/-- The only member of a set is apart from the others. -/
theorem apart_of_members_eq_singleton {set : SchemaSet} {a : Schema} (h : set.members = [a]) :
  Apart reading set
  := by
  intro index other member another v hmember hanother _ _
  rw [h] at hmember hanother
  rw [List.getElem?_singleton] at hmember hanother
  split at hmember
  · rename_i hindex
    split at hanother
    · rename_i hother
      rw [hindex, hother]
    · cases hanother
  · cases hmember

/-- The two members of a set are apart when no value is valid for both. -/
theorem apart_iff_of_members_eq_pair {set : SchemaSet} {a b : Schema} (h : set.members = [a, b]) :
  Apart reading set ↔ ∀ v, ¬ (ValidIn reading set a v ∧ ValidIn reading set b v)
  := by
  constructor
  · rintro hapart v ⟨ha, hb⟩
    have hzero : set.members[0]? = some a := by rw [h]; rfl
    have hone : set.members[1]? = some b := by rw [h]; rfl
    exact absurd (hapart 0 1 a b v hzero hone ha hb) Nat.zero_ne_one
  · intro hnone index other member another v hmember hanother hvalid hother
    rw [h] at hmember hanother
    match index, other with
    | 0, 0 => rfl
    | 1, 1 => rfl
    | 0, 1 =>
        obtain rfl := Option.some.inj hmember
        obtain rfl := Option.some.inj hanother
        exact absurd ⟨hvalid, hother⟩ (hnone v)
    | 1, 0 =>
        obtain rfl := Option.some.inj hmember
        obtain rfl := Option.some.inj hanother
        exact absurd ⟨hother, hvalid⟩ (hnone v)
    | index + 2, _ => cases hmember
    | _, other + 2 => cases hanother

end

/-! ### Records that could be pages -/

/-- The types that a page demands of what it says about itself. -/
def pageTypes : List (String × String) :=
  [("done", "boolean"), ("nextRecordsUrl", "string"), ("totalSize", "integer")]

namespace Description

/-- A record must have a member with a name. -/
def Needs (description : Description) (name : String) : Prop :=
  ∃ field, description.governing? name = some field ∧ field.nillable = false

/-- A member of a record can also be one of a page. -/
def Fits (reading : Reading) (description : Description) (name : String) (value : Json) :
    Prop :=
  (∀ field, description.governing? name = some field → field.Admits reading value)
    ∧ ∀ type, (name, type) ∈ pageTypes → HasType reading type value

/-- Some record could be a page: no field is named like the list of the records of a page, and
what a record must have can be had by a page. -/
def Overlaps (reading : Reading) (description : Description) : Prop :=
  description.governing? recordsProperty = none
    ∧ ∀ name, description.Needs name → ∃ value, description.Fits reading name value

end Description

section

variable (reading : Reading)

/-- No array is the value of a field. -/
theorem Field.not_admits_array (field : Field) (items : List Json) :
  ¬ field.Admits reading (.array items)
  := by
  rw [Field.Admits]
  split
  · simp
  · simp
  · rintro ⟨type, -, h⟩
    cases type
    case address | location =>
      obtain ⟨members, h, -⟩ := h
      cases h
    all_goals simp [SoapType.Admits, HasType] at h

/-- Where there is a fitting value for each name that is needed, there are fitting members with
these names and no others. -/
theorem exists_members_of_forall {names : List String} {Needed : String → Prop}
    {Fitting : String → Json → Prop}
    (h : ∀ name ∈ names, Needed name → ∃ value, Fitting name value) :
  ∃ members : List (String × Json),
    (∀ name ∈ names, Needed name → ∃ value, (name, value) ∈ members)
      ∧ ∀ name value, (name, value) ∈ members → Needed name ∧ Fitting name value
  := by
  induction names with
  | nil =>
      use []
      simp
  | cons name rest ih =>
      obtain ⟨hname, hrest⟩ := List.forall_mem_cons.mp h
      obtain ⟨members, hmembers, hfitting⟩ := ih hrest
      by_cases hneeded : Needed name
      · obtain ⟨value, hvalue⟩ := hname hneeded
        use (name, value) :: members
        constructor
        · rw [List.forall_mem_cons]
          constructor
          · intro _
            use value
            apply List.mem_cons_self
          · intro other hother hneeds
            obtain ⟨another, hanother⟩ := hmembers other hother hneeds
            use another
            apply List.mem_cons_of_mem _ hanother
        · intro other another hother
          rcases List.mem_cons.mp hother with heq | hother
          · obtain ⟨rfl, rfl⟩ := Prod.mk.inj heq
            use hneeded
          · apply hfitting other another hother
      · use members
        constructor
        · rw [List.forall_mem_cons]
          use fun hneeds => absurd hneeds hneeded
        · apply hfitting

namespace Description

variable {reading} {description : Description} {members : List (String × Json)}

/-- Fitting members with all names that are needed make a record. -/
theorem admits_of_fits
    (hneeds : ∀ name, description.Needs name → ∃ value, (name, value) ∈ members)
    (hfits : ∀ name value, (name, value) ∈ members → description.Fits reading name value) :
  description.Admits reading (.object members)
  := by
  use members, rfl
  constructor
  · intro name field hfield hnillable
    apply hneeds name
    use field
  · intro name value hvalue
    apply (hfits name value hvalue).1

/-- Fitting members with an empty list of records make a page. -/
theorem admitsPage_of_fits (hrecords : ∃ value, (recordsProperty, value) ∈ members)
    (hempty : ∀ value, (recordsProperty, value) ∈ members → value = .array [])
    (hfits : ∀ name value, (name, value) ∈ members → description.Fits reading name value) :
  description.AdmitsPage reading (.object members)
  := by
  constructor
  · use members, rfl
    intro name type htype value hvalue
    apply (hfits name value hvalue).2 type htype
  · use members, rfl, hrecords
    intro value hvalue
    use [], hempty value hvalue
    rintro item ⟨⟩

/-- A record that is a page shows that some record could be one. -/
theorem overlaps_of_admits {v : Json} (hrecord : description.Admits reading v)
    (hpage : description.AdmitsPage reading v) :
  description.Overlaps reading
  := by
  obtain ⟨members, rfl, hrequired, hvalues⟩ := hrecord
  obtain ⟨⟨_, hv, htypes⟩, _, hv', ⟨list, hlist⟩, hlists⟩ := hpage
  obtain rfl := Json.object.inj hv
  obtain rfl := Json.object.inj hv'
  constructor
  · obtain ⟨items, rfl, -⟩ := hlists list hlist
    rw [Option.eq_none_iff_forall_ne_some]
    intro field hfield
    exact field.not_admits_array reading items (hvalues _ _ hlist field hfield)
  · rintro name ⟨field, hfield, hnillable⟩
    obtain ⟨value, hvalue⟩ := hrequired name field hfield hnillable
    use value
    constructor
    · apply hvalues name value hvalue
    · intro type htype
      apply htypes name type htype value hvalue

/-- A record that could be a page is one with an empty list of records. -/
theorem exists_admits_of_overlaps (h : description.Overlaps reading) :
  ∃ v, description.Admits reading v ∧ description.AdmitsPage reading v
  := by
  obtain ⟨hrecords, hneeds⟩ := h
  have hneeds' : ∀ name ∈ description.fields.map (·.name), description.Needs name →
      ∃ value, description.Fits reading name value := by
    intro name _
    apply hneeds
  obtain ⟨members, hmembers, hfits⟩ := exists_members_of_forall hneeds'
  have hrecords' : ∀ value, (recordsProperty, value) ∉ members := by
    intro value hvalue
    obtain ⟨⟨field, hfield, -⟩, -⟩ := hfits _ value hvalue
    rw [hrecords] at hfield
    cases hfield
  have hall : ∀ name value, (name, value) ∈ (recordsProperty, .array []) :: members →
      description.Fits reading name value := by
    intro name value hvalue
    rcases List.mem_cons.mp hvalue with heq | hvalue
    · obtain ⟨rfl, rfl⟩ := Prod.mk.inj heq
      constructor
      · intro field hfield
        rw [hrecords] at hfield
        cases hfield
      · simp [pageTypes, recordsProperty]
    · apply (hfits name value hvalue).2
  use .object ((recordsProperty, .array []) :: members)
  constructor
  · refine admits_of_fits ?_ hall
    rintro name ⟨field, hfield, hnillable⟩
    have hname : name ∈ description.fields.map (·.name) := by
      apply List.mem_map.mpr
      apply isSome_governing?_iff.mp
      rw [hfield]
      rfl
    obtain ⟨value, hvalue⟩ := hmembers name hname ⟨field, hfield, hnillable⟩
    use value
    apply List.mem_cons_of_mem _ hvalue
  · refine admitsPage_of_fits ?_ ?_ hall
    · use .array []
      apply List.mem_cons_self
    · intro value hvalue
      rcases List.mem_cons.mp hvalue with heq | hvalue
      · apply (Prod.mk.inj heq).2
      · exact absurd hvalue (hrecords' value)

end Description

/-! ### Roots of objects -/

/-- The schemas of an object are apart, unless there are two and some record could be a page. -/
theorem apart_generatedSet_iff {settings : Settings} {description : Description}
    {session : Session} {object : ObjectSchema} (hsession : session.Sound)
    (hobject : ((recordSchema settings description).runIn session).1 = .ok object) :
  Apart reading (generatedSet settings description.name object)
    ↔ ¬ (settings.addQuery = true ∧ description.Overlaps reading)
  := by
  by_cases hquery : settings.addQuery = true
  · have hmembers : (generatedSet settings description.name object).members
        = [.object object, .object (queryObject settings description.name object)] := by
      rw [generatedSet, if_pos hquery]
    rw [apart_iff_of_members_eq_pair reading hmembers]
    simp only [validIn_record reading hsession hobject,
      validIn_queryObject reading hsession hobject hquery, hquery, true_and]
    constructor
    · intro hnone hoverlaps
      obtain ⟨v, hv⟩ := Description.exists_admits_of_overlaps hoverlaps
      apply hnone v hv
    · rintro hoverlaps v ⟨hrecord, hpage⟩
      apply hoverlaps
      apply Description.overlaps_of_admits hrecord hpage
  · have hmembers : (generatedSet settings description.name object).members
        = [.object object] := by
      rw [generatedSet, if_neg hquery]
    constructor
    · rintro - ⟨h, -⟩
      exact hquery h
    · intro _
      apply apart_of_members_eq_singleton reading hmembers

/-- The generated schemas of an object are object schemas. -/
theorem exists_object_of_mem_generatedSet {settings : Settings} {name : String}
    {object : ObjectSchema} {member : Schema}
    (h : member ∈ (generatedSet settings name object).members) :
  ∃ other, member = .object other
  := by
  obtain ⟨index, hindex⟩ := List.mem_iff_getElem?.mp h
  rcases getElem?_generatedSet_iff.mp hindex with ⟨-, rfl⟩ | ⟨-, -, rfl⟩
  · use object
  · use queryObject settings name object

/-! ### The root of the interface -/

/-- An object that has no member named like a property of a shape is an instance of it. -/
theorem validIn_shape {shape : Shape} {members : List (String × Json)}
    (h : ∀ m ∈ members, m.1 ∉ shape.object.names) (set : SchemaSet) :
  ValidIn reading set (.object shape.object) (.object members)
  := by
  have hoptional : (shape.object.properties.all fun p => !p.required) = true := by
    cases shape <;> rfl
  have honeOf : shape.object.oneOf = none := by
    cases shape <;> rfl
  rw [ValidIn, Schema.document, valid_members]
  use members, rfl
  refine ⟨?_, ?_, ?_⟩
  · intro name hname
    obtain ⟨p, hp, hrequired, -⟩ := ObjectSchema.mem_required_iff.mp hname
    have := List.all_eq_true.mp hoptional p hp
    rw [hrequired] at this
    cases this
  · intro p hp value hvalue
    exact absurd (List.mem_map_of_mem hp) (h _ hvalue)
  · intro schemas hschemas
    rw [honeOf] at hschemas
    cases hschemas

/-- For every shape of the interface there are two others that have no names in common with
it. -/
theorem Shape.exists_others {shape : Shape} (h : shape ∈ Shape.published) :
  ∃ (index other : Nat) (s t : Shape), Shape.published[index]? = some s
    ∧ Shape.published[other]? = some t ∧ index ≠ other
    ∧ ∀ name ∈ shape.object.names, name ∉ s.object.names ∧ name ∉ t.object.names
  := by
  cases shape
  case queryPage => exact absurd h (by decide)
  case attributes => exact ⟨3, 4, .choice, .recentItem, rfl, rfl, by decide, by decide +kernel⟩
  case choice => exact ⟨2, 4, .attributes, .recentItem, rfl, rfl, by decide, by decide +kernel⟩
  all_goals exact ⟨2, 3, .attributes, .choice, rfl, rfl, by decide, by decide +kernel⟩

/-- No object whose members are named like properties of one shape is an instance of the root of
the interface. -/
theorem not_validIn_interfaceRoot {shape : Shape} (h : shape ∈ Shape.published)
    {members : List (String × Json)} (hmembers : ∀ m ∈ members, m.1 ∈ shape.object.names) :
  ¬ ValidIn reading publishedSet (rootOf publishedSet interfaceId) (.object members)
  := by
  obtain ⟨index, other, s, t, hs, ht, hne, hnames⟩ := Shape.exists_others h
  rw [validIn_rootOf_iff]
  rintro ⟨-, one, _, -, -, hunique⟩
  apply hne
  calc index = one := by
        apply hunique index (.object s.object)
        · rw [publishedSet, List.getElem?_map, hs]
          rfl
        · apply validIn_shape
          intro m hm
          apply (hnames m.1 (hmembers m hm)).1
    _ = other := by
        symm
        apply hunique other (.object t.object)
        · rw [publishedSet, List.getElem?_map, ht]
          rfl
        · apply validIn_shape
          intro m hm
          apply (hnames m.1 (hmembers m hm)).2

end

/-! ### What the roots cover -/

/-- The instances of a root are the objects that are valid for exactly one alternative. The root
of the schemas of an object covers them unless there are two and some record could be a page.
The root of the interface does not cover the shapes: no object whose members are named like
properties of one shape is an instance of it. -/
theorem roots_cover_iff (reading : Reading) (session : Session) :
  (∀ (settings : Settings) (description : Description) (root : Schema) (after : Session),
      (objectRoot settings description).runIn session = (.ok root, after) →
      ∃ set, (generate settings description).runIn session = (.ok set, after)
        ∧ (∀ v, ValidIn reading set root v
          ↔ (∃ members, v = .object members) ∧ ValidForOne reading set v)
        ∧ (Covers reading set root
          ↔ ¬ (settings.addQuery = true ∧ description.Overlaps reading)))
    ∧ ∃ root after, interfaceRoot.runIn session = (.ok root, after)
      ∧ (∀ v, ValidIn reading publishedSet root v
        ↔ (∃ members, v = .object members) ∧ ValidForOne reading publishedSet v)
      ∧ (∀ shape ∈ Shape.published, ∀ members : List (String × Json),
        (∀ m ∈ members, m.1 ∈ shape.object.names) →
        ¬ ValidIn reading publishedSet root (.object members))
      ∧ ¬ Covers reading publishedSet root
  := by
  constructor
  · intro settings description root after h
    obtain ⟨set, hset, rfl⟩ := exists_set_of_objectRoot h
    use set, hset
    constructor
    · apply validIn_rootOf_iff
    · obtain ⟨object, hobject, rfl⟩ := exists_record_of_generate hset
      rw [covers_rootOf_iff reading fun _ => exists_object_of_mem_generatedSet]
      apply apart_generatedSet_iff reading (Session.sound_forget _) hobject
  · obtain ⟨after, hroot⟩ := exists_runIn_interfaceRoot session
    use rootOf publishedSet interfaceId, after, hroot
    refine ⟨?_, ?_, ?_⟩
    · apply validIn_rootOf_iff
    · intro shape hshape members
      apply not_validIn_interfaceRoot reading hshape
    · intro hcovers
      have haddress : Shape.address ∈ Shape.published := List.mem_cons_self
      have hnames : ∀ m ∈ ([] : List (String × Json)), m.1 ∈ Shape.address.object.names := by
        rintro m ⟨⟩
      apply not_validIn_interfaceRoot reading haddress hnames
      apply hcovers (.object Shape.address.object) List.mem_cons_self
      apply validIn_shape
      rintro m ⟨⟩

/-- A page without records is also a record of an object without fields. It is valid for both
schemas of the object, and therefore not for their root. -/
theorem not_covers_note :
  ∃ set root after, (generate {} { name := "Note" }).runIn {} = (.ok set, after)
    ∧ (objectRoot {} { name := "Note" }).runIn {} = (.ok root, after)
    ∧ (∃ member ∈ set.members,
      ValidIn literalReading set member (.object [("records", .array [])]))
    ∧ ¬ ValidIn literalReading set root (.object [("records", .array [])])
  := by
  obtain ⟨set, after, h⟩ : ∃ set after,
      (generate {} { name := "Note" }).runIn {} = (.ok set, after) := ⟨_, _, rfl⟩
  have hroot : (objectRoot {} { name := "Note" }).runIn {}
      = (.ok (rootOf set (Settings.idPrefix {})), after) := by
    rw [objectRoot, Build.runIn_bind_ok _ h]
    rfl
  use set, rootOf set (Settings.idPrefix {}), after, h, hroot
  obtain ⟨object, hobject, rfl⟩ := exists_record_of_generate h
  have hfits : ∀ name value, (name, value) ∈ [("records", Json.array [])] →
      Description.Fits literalReading { name := "Note" } name value := by
    intro name value hvalue
    obtain ⟨rfl, rfl⟩ := Prod.mk.inj (List.mem_singleton.mp hvalue)
    constructor
    · rintro field ⟨⟩
    · simp [pageTypes]
  have hrecord : ValidIn literalReading (generatedSet {} "Note" object) (.object object)
      (.object [("records", .array [])]) := by
    apply (validIn_record literalReading (Session.sound_forget _) hobject _).mpr
    refine Description.admits_of_fits ?_ hfits
    rintro name ⟨field, ⟨⟩, -⟩
  have hpage : ValidIn literalReading (generatedSet {} "Note" object)
      (.object (queryObject {} "Note" object)) (.object [("records", .array [])]) := by
    apply (validIn_queryObject literalReading (Session.sound_forget _) hobject rfl _).mpr
    refine Description.admitsPage_of_fits ?_ ?_ hfits
    · use .array []
      apply List.mem_singleton_self
    · simp [recordsProperty]
  constructor
  · use .object object, List.mem_cons_self
  · rw [validIn_rootOf_iff]
    rintro ⟨-, one, _, -, -, hunique⟩
    have hzero := hunique 0 (.object object) rfl hrecord
    have hone := hunique 1 (.object (queryObject {} "Note" object)) rfl hpage
    exact absurd (hzero.trans hone.symm) Nat.zero_ne_one

end RecordSchema
