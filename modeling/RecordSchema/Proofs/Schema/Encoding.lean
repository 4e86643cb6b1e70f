import RecordSchema.Proofs.Schema.Told

/-!
# Schemas with the same document

The document of a schema tells the schema, but for two things: which sign the zeros in default
values have where these are compared by value, and where a shared schema is used instead of being
written out. So two schemas are equal exactly when their documents are equal in value and they use
shared schemas at the same positions.
-/

namespace RecordSchema

/-! ### Sharing -/

/-- The annotations of a use of a shared schema, and those of the shared schema itself. -/
def Schema.sharing? : Schema → Option (Annotations × Annotations)
  | .shared _ o a => some (a.representative, o.annotations.representative)
  | _ => none

/-- Two schemas use shared schemas at the same positions, with annotations that are equal. -/
def Schema.SharesAlike (s t : Schema) : Prop :=
  ∀ path u v, s.At path u → t.At path v → u.sharing? = v.sharing?

namespace Schema

variable {s t u v : Schema}

theorem SharesAlike.of_leads (h : s.SharesAlike t) {step : Step} (hu : s.Leads step u)
    (hv : t.Leads step v) :
  u.SharesAlike v
  := by
  intro path x y hx hy
  apply h (step :: path) x y ⟨u, hu, hx⟩ ⟨v, hv, hy⟩

theorem HasDistinctNames.of_leads (h : s.HasDistinctNames) {step : Step} (hu : s.Leads step u) :
  u.HasDistinctNames
  := by
  intro path x object hx
  apply h (step :: path) x object ⟨u, hu, hx⟩

theorem HasDistinctNames.nodup (h : s.HasDistinctNames) {object : ObjectSchema}
    (hobject : s.object? = some object) :
  object.names.Nodup
  := h [] s object rfl hobject

theorem sharing?_eq_of_representative (h : s.representative = t.representative) :
  s.sharing? = t.sharing?
  := by
  have hsharing (s : Schema) : s.sharing? = match s.representative with
      | .shared _ o a => some (a, o.annotations)
      | _ => none := by
    cases s with
    | array array =>
        rw [representative_array]
        rfl
    | shared node o a =>
        simp only [Schema.representative, o.representative_eq, sharing?]
    | _ => simp only [Schema.representative, sharing?]
  rw [hsharing, h, ← hsharing]

/-! ### From documents to schemas -/

/-- Of properties with different names, those that are required are told by the set of their
names. -/
theorem required_eq_of_name {object other : ObjectSchema} (hnames : object.names.Nodup)
    (hnames' : other.names.Nodup) (hrequired : object.required = other.required) {p q : Property}
    (hp : p ∈ object.properties) (hq : q ∈ other.properties) (hname : p.name = q.name) :
  p.required = q.required
  := by
  have hmem {object : ObjectSchema} (hnames : object.names.Nodup) {p : Property}
      (hp : p ∈ object.properties) : p.name ∈ object.required ↔ p.required = true := by
    have hfind : object.find? p.name = some p := (find?_key_eq_some_iff hnames).mpr ⟨hp, rfl⟩
    rw [ObjectSchema.mem_required_iff_find? hnames, hfind]
    simp
  rw [Bool.eq_iff_iff, ← hmem hnames hp, ← hmem hnames' hq, hrequired, hname]

/-- Object schemas of which the members tell the same have the same representative but for their
annotations, if schemas in them with the same document have. -/
theorem representative_eq_of_told {object other : ObjectSchema} (h : object.Told other)
    (hs : s.object? = some object) (ht : t.object? = some other) (hnames : s.HasDistinctNames)
    (hshare : s.SharesAlike t)
    (hproperties : ∀ p ∈ object.properties, ∀ {u : Schema}, p.schema.HasDistinctNames →
      p.schema.SharesAlike u → p.schema.document.representative = u.document.representative →
      p.schema.representative = u.representative)
    (honeOf : ∀ schemas, object.oneOf = some schemas → ∀ v ∈ schemas, ∀ {u : Schema},
      v.HasDistinctNames → v.SharesAlike u → v.document.representative = u.document.representative →
      v.representative = u.representative)
    (ha : object.annotations.representative = other.annotations.representative) :
  object.representative = other.representative
  := by
  have hnodup := hnames.nodup hs
  have hnodup' : other.names.Nodup := by
    have hsame := congrArg (List.map Prod.fst) h.properties
    rw [List.map_map, List.map_map] at hsame
    rw [ObjectSchema.names] at hnodup ⊢
    exact hsame ▸ hnodup
  have hps : (object.properties.map fun p => { p with schema := p.schema.representative })
      = other.properties.map fun p => { p with schema := p.schema.representative } := by
    apply map_eq_map_of_map_eq h.properties
    intro i p q hp hq hpq
    obtain ⟨hname, hdocument⟩ := Prod.mk.inj hpq
    have hpmem := List.mem_of_getElem? hp
    have hqmem := List.mem_of_getElem? hq
    have hu : s.Leads (.property p.name) p.schema := ⟨object, p, hs, hpmem, rfl, rfl⟩
    have hv : t.Leads (.property p.name) q.schema := ⟨other, q, ht, hqmem, hname.symm, rfl⟩
    rw [hproperties p hpmem (hnames.of_leads hu) (hshare.of_leads hu hv) hdocument, hname,
      required_eq_of_name hnodup hnodup' h.required hpmem hqmem hname]
  have hss : object.oneOf.map (fun schemas => schemas.map Schema.representative)
      = other.oneOf.map (fun schemas => schemas.map Schema.representative) := by
    apply optionMap_eq_of_optionMap_eq h.oneOf
    intro schemas schemas' hone hone' htold
    apply map_eq_map_of_map_eq htold
    intro i u v hu hv huv
    have hleads : s.Leads (.alternative i) u := ⟨object, schemas, hs, hone, hu⟩
    have hleads' : t.Leads (.alternative i) v := ⟨other, schemas', ht, hone', hv⟩
    apply honeOf schemas hone u (List.mem_of_getElem? hu) (hnames.of_leads hleads)
      (hshare.of_leads hleads hleads') huv
  rw [object.representative_eq, other.representative_eq, h.id, h.metaSchema, ha, hps, hss]

theorem eq_simple_of_type? {k : SimpleKind} (h : t.type? = some k.kind) :
  ∃ a, t = .simple k a
  := by
  cases t with
  | simple l a =>
      obtain rfl := SimpleKind.kind_injective l k (Option.some.inj h)
      exact ⟨a, rfl⟩
  | _ => cases k <;> simp [type?, Schema.kind, SimpleKind.kind] at h

theorem eq_string_of_type? (h : t.type? = some .string) :
  ∃ string, t = .string string
  := by
  cases t with
  | string string => exact ⟨string, rfl⟩
  | simple k a => cases k <;> simp [type?, Schema.kind, SimpleKind.kind] at h
  | _ => simp [type?, Schema.kind] at h

theorem eq_array_of_type? (h : t.type? = some .array) :
  ∃ array, t = .array array
  := by
  cases t with
  | array array => exact ⟨array, rfl⟩
  | simple k a => cases k <;> simp [type?, Schema.kind, SimpleKind.kind] at h
  | _ => simp [type?, Schema.kind] at h

theorem eq_ref_of_type? (h : t.type? = none) :
  ∃ id, t = .ref id
  := by
  cases t with
  | ref id => exact ⟨id, rfl⟩
  | _ => cases h

theorem eq_object_of_type? (h : t.type? = some .object) (hsharing : t.sharing? = none) :
  ∃ object, t = .object object
  := by
  cases t with
  | object object => exact ⟨object, rfl⟩
  | shared node object a => cases hsharing
  | simple k a => cases k <;> simp [type?, Schema.kind, SimpleKind.kind] at h
  | _ => simp [type?, Schema.kind] at h

theorem eq_shared_of_sharing? {a b : Annotations} (h : t.sharing? = some (a, b)) :
  ∃ node object own, t = .shared node object own
    ∧ own.representative = a ∧ object.annotations.representative = b
  := by
  cases t with
  | shared node object own =>
      obtain ⟨ha, hb⟩ := Prod.mk.inj (Option.some.inj h)
      exact ⟨node, object, own, rfl, ha, hb⟩
  | _ => cases h

/-- String schemas with the same document have the same representative. -/
theorem representative_eq_of_string {x y : StringSchema}
    (h : (Json.object x.members).representative = (Json.object y.members).representative) :
  x.representative = y.representative
  := by
  have hsame (key : String) := Json.lookup_eq_of_representative h key
  simp only [StringSchema.lookup_members] at hsame
  have hformat : x.format = y.format := by
    apply eq_of_map_representative _ (hsame "format")
    rintro ⟨⟩ ⟨⟩ -
    rfl
  have hvalues : x.values = y.values :=
    eq_of_map_representative StringSet.document_injective (hsame "enum")
  have hpattern : x.pattern = y.pattern :=
    eq_of_map_representative string_eq_of_representative (hsame "pattern")
  have ha : x.annotations.representative = y.annotations.representative := by
    apply Annotations.representative_eq_of_lookup
    · simpa using hsame "title"
    · simpa using hsame "default"
    · simpa using hsame "readonly"
  rw [StringSchema.representative, StringSchema.representative, ha, hformat, hvalues, hpattern]

/-- Schemas with documents that are equal in value, which use shared schemas alike, have the same
representative. -/
theorem representative_eq_of_document (hnames : s.HasDistinctNames) (hshare : s.SharesAlike t)
    (h : s.document.representative = t.document.representative) :
  s.representative = t.representative
  := by
  induction s using treeInduction generalizing t with
  | simple k a =>
      obtain ⟨b, rfl⟩ := eq_simple_of_type? (type?_eq_of_document h).symm
      have hsame (key : String) := Json.lookup_eq_of_representative h key
      simp only [lookup_simple] at hsame
      have ha : a.representative = b.representative := by
        apply Annotations.representative_eq_of_lookup
        · simpa using hsame "title"
        · simpa using hsame "default"
        · simpa using hsame "readonly"
      simp only [Schema.representative, ha]
  | string x =>
      obtain ⟨y, rfl⟩ := eq_string_of_type? (type?_eq_of_document h).symm
      simp only [Schema.representative, representative_eq_of_string h]
  | object object hproperties honeOf =>
      have hsharing := (hshare [] _ _ rfl rfl).symm
      obtain ⟨other, rfl⟩ := eq_object_of_type? (type?_eq_of_document h).symm hsharing
      obtain ⟨ha, htold⟩ := ObjectSchema.told_of_members h
      have hobject : object.representative = other.representative :=
        representative_eq_of_told htold rfl rfl hnames hshare hproperties honeOf ha
      simp only [Schema.representative, hobject]
  | array array ih =>
      obtain ⟨other, rfl⟩ := eq_array_of_type? (type?_eq_of_document h).symm
      rw [document_array, document_array] at h
      have hsame (key : String) := Json.lookup_eq_of_representative h key
      simp only [lookup_array] at hsame
      have ha : array.annotations.representative = other.annotations.representative := by
        apply Annotations.representative_eq_of_lookup
        · simpa using hsame "title"
        · simpa using hsame "default"
        · simpa using hsame "readonly"
      have hitems : array.items.map Schema.representative
          = other.items.map Schema.representative := by
        have hdocument := hsame "items"
        rw [if_neg (by decide), if_pos rfl, if_neg (by decide), if_pos rfl, Option.map_map,
          Option.map_map] at hdocument
        apply optionMap_eq_of_optionMap_eq hdocument
        intro u v hitem hother huv
        have hu : (Schema.array array).Leads .items u := ⟨array, rfl, hitem⟩
        have hv : (Schema.array other).Leads .items v := ⟨other, rfl, hother⟩
        apply ih u hitem (hnames.of_leads hu) (hshare.of_leads hu hv) huv
      rw [representative_array, representative_array, ha, hitems]
  | ref id =>
      obtain ⟨id', rfl⟩ := eq_ref_of_type? (type?_eq_of_document h).symm
      have hsame := Json.lookup_eq_of_representative h "$ref"
      simp only [List.lookup_cons_self] at hsame
      rw [string_eq_of_representative _ _ (Option.some.inj hsame)]
  | shared node object a hproperties honeOf =>
      have hsharing := (hshare [] _ _ rfl rfl).symm
      obtain ⟨node', other, b, rfl, hb, ha⟩ := eq_shared_of_sharing? hsharing
      obtain ⟨-, htold⟩ := ObjectSchema.told_of_members h
      have hobject : object.representative = other.representative :=
        representative_eq_of_told htold rfl rfl hnames hshare hproperties honeOf ha.symm
      simp only [Schema.representative, hobject, hb]

/-! ### Steps in representatives -/

theorem object?_representative (s : Schema) :
  s.representative.object? = s.object?.map ObjectSchema.representative
  := by
  cases s with
  | array array =>
      rw [representative_array]
      rfl
  | _ => simp only [Schema.representative, object?, Option.map_some, Option.map_none]

theorem array?_representative (s : Schema) :
  (s.representative.array?.bind (·.items))
    = (s.array?.bind (·.items)).map Schema.representative
  := by
  cases s with
  | array array =>
      rw [representative_array]
      rfl
  | _ => simp only [Schema.representative, array?, Option.bind_none, Option.map_none]

/-- A step leads from schemas with the same representative to schemas with the same
representative. -/
theorem representative_eq_of_leads (hnames : s.HasDistinctNames)
    (h : s.representative = t.representative) {step : Step} (hu : s.Leads step u)
    (hv : t.Leads step v) :
  u.representative = v.representative
  := by
  have hobjects {object other : ObjectSchema} (hs : s.object? = some object)
      (ht : t.object? = some other) : object.representative = other.representative := by
    have hsame := object?_representative s
    rw [h, object?_representative, hs, ht] at hsame
    exact (Option.some.inj hsame).symm
  cases step with
  | property name =>
      obtain ⟨object, p, hs, hp, hpname, rfl⟩ := hu
      obtain ⟨other, q, ht, hq, hqname, rfl⟩ := hv
      have hmem : { q with schema := q.schema.representative }
          ∈ object.properties.map fun p => { p with schema := p.schema.representative } := by
        rw [← object.properties_representative, hobjects hs ht, other.properties_representative]
        apply List.mem_map_of_mem hq
      obtain ⟨p', hp', hpq⟩ := List.mem_map.mp hmem
      obtain ⟨hname, -, hschema⟩ := Property.mk.inj hpq
      have hsame : p' = p := by
        apply List.inj_on_of_nodup_map (hnames.nodup hs) hp' hp
        rw [hname, hqname, hpname]
      rw [← hsame, hschema]
  | items =>
      obtain ⟨array, hs, hu⟩ := hu
      obtain ⟨other, ht, hv⟩ := hv
      have hsame := array?_representative s
      rw [h, array?_representative, hs, ht] at hsame
      simp only [Option.bind_some, hu, hv, Option.map_some, Option.some.injEq] at hsame
      apply hsame.symm
  | alternative index =>
      obtain ⟨object, schemas, hs, hschemas, hu⟩ := hu
      obtain ⟨other, schemas', ht, hschemas', hv⟩ := hv
      have hmap := object.oneOf_representative
      rw [hobjects hs ht, other.oneOf_representative, hschemas, hschemas', Option.map_some,
        Option.map_some, Option.some.injEq] at hmap
      have hindex : (schemas.map Schema.representative)[index]?
          = (schemas'.map Schema.representative)[index]? := by rw [← hmap]
      rw [List.getElem?_map, List.getElem?_map, hu, hv] at hindex
      apply Option.some.inj hindex

/-- Schemas with the same representative use shared schemas alike. -/
theorem sharesAlike_of_representative (hnames : s.HasDistinctNames)
    (h : s.representative = t.representative) :
  s.SharesAlike t
  := by
  intro path
  induction path generalizing s t with
  | nil =>
      intro u v hu hv
      rw [at_nil.mp hu, at_nil.mp hv]
      apply sharing?_eq_of_representative h
  | cons step path ih =>
      rintro u v ⟨x, hx, hu⟩ ⟨y, hy, hv⟩
      apply ih (hnames.of_leads hx) (representative_eq_of_leads hnames h hx hy) u v hu hv

/-- Schemas are equal exactly when their documents are equal in value and they use shared schemas at
the same positions. -/
theorem equal_iff_document (hnames : s.HasDistinctNames) :
  s.equal t = true
    ↔ s.document.representative = t.document.representative ∧ s.SharesAlike t
  := by
  rw [equal_iff]
  constructor
  · intro h
    constructor
    · rw [← document_representative, h, document_representative]
    · apply sharesAlike_of_representative hnames h
  · rintro ⟨h, hshare⟩
    apply representative_eq_of_document hnames hshare h

end Schema

end RecordSchema
