import RecordSchema.Proofs.Build.Sharing

/-!
# Providers

Several providers of shared schemas are asked in any order, each for shared schemas and for the
schemas of fields, and number their nodes in common. What is handed out for one compound value
by one provider is always the same node, and no other request is given it. Whether a shared
schema has been derived says whether the provider has been asked for something that maps to its
compound value.
-/

namespace RecordSchema

/-! ### Requests -/

/-- What a provider can be asked for. -/
inductive Request where
  | shared (compound : Compound)
  | field (field : Field)

namespace Request

/-- The schema that is asked for. -/
def schema : Request → Build Schema
  | .shared value => return (← Build.shared value).use
  | .field asked => asked.schema

/-- The compound value to which the request maps, if it maps to one. -/
def compound? : Request → Option Compound
  | .shared value => some value
  | .field asked => asked.compound?

/-- Whether a node is handed out as it is, without choices that make another schema of it. -/
def KeepsNode : Request → Prop
  | .shared _ => True
  | .field asked => asked.selection = .free

instance : DecidablePred KeepsNode
  | .shared _ => inferInstanceAs (Decidable True)
  | .field asked => inferInstanceAs (Decidable (asked.selection = .free))

theorem runIn_shared (compound : Compound) (session : Session) :
  (Request.shared compound).schema.runIn session
    = (.ok (session.obtain compound).1.use, (session.obtain compound).2)
  := by
  rw [schema, Build.runIn_bind_ok session (Build.runIn_shared session compound)]
  rfl

/-- A request visits the compound value to which it maps. -/
theorem memory_runIn (request : Request) (session : Session) :
  (request.schema.runIn session).2.memory
    = session.memory.after Compound.object request.compound?.toList
  := by
  cases request with
  | shared compound =>
      rw [runIn_shared, Session.memory_obtain]
      rfl
  | field field => apply field.memory_runIn_schema

/-- A request that maps to a compound value does not fail. Unless choices make another schema of
it, it is given the node of the compound value. -/
theorem exists_schema_of_compound? {request : Request} {compound : Compound}
    (h : request.compound? = some compound) (session : Session) :
  ∃ schema, (request.schema.runIn session).1 = .ok schema
    ∧ schema.node? = if request.KeepsNode
      then (request.schema.runIn session).2.memory.node? compound else none
  := by
  cases request with
  | shared other =>
      obtain rfl := Option.some.inj h
      use (session.obtain other).1.use
      have hkeeps : (Request.shared other).KeepsNode := trivial
      rw [runIn_shared, Session.node?_memory_obtain, if_pos hkeeps]
      use rfl
      rfl
  | field field => apply Field.exists_schema_of_compound? h

/-- A node that is handed out is the one of the compound value to which the request maps. -/
theorem exists_compound?_of_node? {request : Request} {session : Session} {schema : Schema}
    {shared : SharedObject} (hschema : (request.schema.runIn session).1 = .ok schema)
    (hshared : schema.node? = some shared) :
  ∃ compound, request.compound? = some compound
    ∧ (request.schema.runIn session).2.memory.node? compound = some shared
  := by
  cases request with
  | shared compound =>
      use compound, rfl
      rw [runIn_shared] at hschema ⊢
      obtain rfl := Except.ok.inj hschema
      rw [Session.node?_memory_obtain]
      apply hshared
  | field field => apply Field.exists_compound?_of_node? hschema hshared

end Request

/-! ### Providers that number their nodes in common -/

/-- Providers, told from each other by numbers: the shared schemas that each of them remembers
for each compound value, and the log. -/
structure Providers where
  memory : Memory (Nat × Compound)
  log : List Event

/-- A request to a provider, and what came of it. -/
structure Answer where
  provider : Nat
  request : Request
  result : Except Failure Schema

/-- The node that is handed out, if one is. -/
def Answer.node? (answer : Answer) : Option SharedObject :=
  match answer.result with
  | .ok schema => schema.node?
  | .error _ => none

namespace Providers

/-- The object schema of a compound value, whichever provider is asked for it. -/
def object (place : Nat × Compound) : ObjectSchema := place.2.object

/-- Providers that have not been asked for anything. -/
def new (nextNode : Nat) (log : List Event) : Providers := ⟨⟨fun _ => none, nextNode⟩, log⟩

/-- The session in which a provider is asked. -/
def session (providers : Providers) (provider : Nat) : Session where
  address := providers.memory.node? (provider, .address)
  geolocation := providers.memory.node? (provider, .geolocation)
  nextNode := providers.memory.nextNode
  log := providers.log

/-- What a provider answers, and the providers after that. -/
def ask (providers : Providers) (provider : Nat) (request : Request) :
    Answer × Providers :=
  let (result, after) := request.schema.runIn (providers.session provider)
  (⟨provider, request, result⟩, ⟨providers.memory.withPart provider after.memory, after.log⟩)

/-- The answers to requests, made one after the other. -/
def answers (providers : Providers) : List (Nat × Request) → List Answer
  | [] => []
  | (provider, request) :: rest =>
    (providers.ask provider request).1 :: (providers.ask provider request).2.answers rest

/-- The providers after requests, made one after the other. -/
def after (providers : Providers) : List (Nat × Request) → Providers
  | [] => providers
  | (provider, request) :: rest => (providers.ask provider request).2.after rest

/-- The place that a request to a provider visits, if it maps to a compound value. -/
def place? (asked : Nat × Request) : Option (Nat × Compound) :=
  asked.2.compound?.map (asked.1, ·)

theorem place?_eq_some_iff {asked : Nat × Request} {provider : Nat} {compound : Compound} :
  place? asked = some (provider, compound)
    ↔ asked.1 = provider ∧ asked.2.compound? = some compound
  := by
  simp [place?, and_comm]

/-! ### Memories -/

/-- A provider remembers its part of what all of them remember. -/
theorem memory_session (providers : Providers) (provider : Nat) :
  (providers.session provider).memory = providers.memory.part provider
  := by
  rw [Session.memory, Memory.part]
  congr 1
  funext compound
  cases compound with
  | address => rfl
  | geolocation => rfl

theorem shared?_session (providers : Providers) (provider : Nat) (compound : Compound) :
  (providers.session provider).shared? compound = providers.memory.node? (provider, compound)
  := congrFun (congrArg Memory.node? (providers.memory_session provider)) compound

/-- A request visits the place to which it maps. -/
theorem memory_ask (providers : Providers) (provider : Nat) (request : Request) :
  (providers.ask provider request).2.memory
    = providers.memory.after object (place? (provider, request)).toList
  := by
  rw [ask]
  dsimp only
  rw [request.memory_runIn, memory_session, place?]
  cases request.compound? with
  | none => apply Memory.withPart_part
  | some compound => apply Memory.withPart_visit

/-- Requests visit the places to which they map. -/
theorem memory_after (providers : Providers) (asked : List (Nat × Request)) :
  (providers.after asked).memory
    = providers.memory.after object (asked.filterMap place?)
  := by
  induction asked generalizing providers with
  | nil => rfl
  | cons first rest ih =>
      obtain ⟨provider, request⟩ := first
      rw [after, ih, memory_ask]
      cases h : place? (provider, request) with
      | none => rw [List.filterMap_cons_none h]; rfl
      | some place => rw [List.filterMap_cons_some h]; rfl

theorem after_append (providers : Providers) (asked more : List (Nat × Request)) :
  providers.after (asked ++ more) = (providers.after asked).after more
  := by
  induction asked generalizing providers with
  | nil => rfl
  | cons first rest ih => apply ih

/-! ### Answers -/

/-- A request that maps to a compound value does not fail. It hands out a node unless choices
make another schema of it. -/
theorem exists_schema_of_ask {request : Request} {compound : Compound}
    (h : request.compound? = some compound) (providers : Providers) (provider : Nat) :
  ∃ schema, (providers.ask provider request).1.result = .ok schema
    ∧ (schema.node?.isSome = true ↔ request.KeepsNode)
  := by
  obtain ⟨schema, hschema, hnode⟩ :=
    Request.exists_schema_of_compound? h (providers.session provider)
  obtain ⟨shared, hshared⟩ := Memory.exists_node?_visit Compound.object
    (providers.session provider).memory compound
  use schema, hschema
  rw [hnode, request.memory_runIn, h, Option.toList_some, Memory.after_cons, Memory.after_nil,
    hshared]
  split
  · rename_i hkeeps
    simp [hkeeps]
  · rename_i hkeeps
    simp [hkeeps]

/-- A node that is handed out is remembered at the place to which the request maps. -/
theorem exists_node?_of_ask {providers : Providers} {provider : Nat} {request : Request}
    {shared : SharedObject} (h : (providers.ask provider request).1.node? = some shared) :
  ∃ compound, request.compound? = some compound
    ∧ (providers.ask provider request).2.memory.node? (provider, compound) = some shared
  := by
  cases hresult : (request.schema.runIn (providers.session provider)).1 with
  | error failure => simp [ask, Answer.node?, hresult] at h
  | ok schema =>
      have hnode : schema.node? = some shared := by simpa [ask, Answer.node?, hresult] using h
      obtain ⟨compound, hcompound, hmemory⟩ := Request.exists_compound?_of_node? hresult hnode
      use compound, hcompound
      rw [← hmemory]
      apply if_pos rfl

/-- An answer to a request is given by the providers after those before it. -/
theorem exists_ask_of_mem_answers {providers : Providers} {asked : List (Nat × Request)}
    {answer : Answer} (h : answer ∈ providers.answers asked) :
  ∃ before rest, asked = before ++ (answer.provider, answer.request) :: rest
    ∧ answer = ((providers.after before).ask answer.provider answer.request).1
  := by
  induction asked generalizing providers with
  | nil => cases h
  | cons first asked ih =>
      obtain ⟨provider, request⟩ := first
      rcases List.mem_cons.mp h with rfl | h
      · use [], asked
        constructor
        · rfl
        · rfl
      · obtain ⟨before, rest, rfl, hanswer⟩ := ih h
        use (provider, request) :: before, rest, rfl, hanswer

/-- An answer to a request that maps to a compound value is a schema, which is a node unless choices
make another schema of it. -/
theorem exists_schema_of_mem_answers {providers : Providers} {asked : List (Nat × Request)}
    {answer : Answer} (hanswer : answer ∈ providers.answers asked) {compound : Compound}
    (h : answer.request.compound? = some compound) :
  ∃ schema, answer.result = .ok schema
    ∧ (schema.node?.isSome = true ↔ answer.request.KeepsNode)
  := by
  obtain ⟨before, rest, -, hask⟩ := exists_ask_of_mem_answers hanswer
  rw [hask]
  apply exists_schema_of_ask h

/-- A node that has been handed out is remembered from then on at the place to which the request
maps. -/
theorem exists_node?_of_mem_answers {providers : Providers} {asked : List (Nat × Request)}
    {answer : Answer} (hanswer : answer ∈ providers.answers asked) {shared : SharedObject}
    (hshared : answer.node? = some shared) :
  ∃ compound, answer.request.compound? = some compound
    ∧ (providers.after asked).memory.node? (answer.provider, compound) = some shared
  := by
  obtain ⟨before, rest, hasked, hask⟩ := exists_ask_of_mem_answers hanswer
  rw [hask] at hshared
  obtain ⟨compound, hcompound, hnode⟩ := exists_node?_of_ask hshared
  use compound, hcompound
  rw [hasked, after_append, after, memory_after]
  apply Memory.node?_after_of_some _ hnode

/-! ### Providers that are asked for the first time -/

/-- New providers number all nodes from the next one on. -/
theorem numbered_after_new (nextNode : Nat) (log : List Event)
    (asked : List (Nat × Request)) :
  ((new nextNode log).after asked).memory.Numbered object nextNode
  := by
  have hnone (place : Nat × Compound) : (new nextNode log).memory.node? place = none := rfl
  have hnew := Memory.numbered_of_none object hnone
  rw [memory_after]
  apply hnew.after

/-- New providers have derived what they have been asked for. -/
theorem isDerived_after_new_iff (nextNode : Nat) (log : List Event)
    (asked : List (Nat × Request)) (provider : Nat) (compound : Compound) :
  (((new nextNode log).after asked).session provider).isDerived compound = true
    ↔ ∃ request, (provider, request) ∈ asked ∧ request.compound? = some compound
  := by
  rw [Session.isDerived, shared?_session, memory_after, Memory.isSome_node?_after,
    List.mem_filterMap]
  simp [new, place?_eq_some_iff]

/-- What comes of requests to providers, made one after the other. -/
structure Shares (start : Providers) (asked : List (Nat × Request)) : Prop where
  /-- A request that maps to a compound value does not fail. It hands out a node, unless
  choices make another schema of it. -/
  handed : ∀ answer ∈ start.answers asked, ∀ compound,
    answer.request.compound? = some compound →
    ∃ schema, answer.result = .ok schema
      ∧ (schema.node?.isSome = true ↔ answer.request.KeepsNode)
  /-- A request that fails maps to no compound value. -/
  failed : ∀ answer ∈ start.answers asked, ∀ failure, answer.result = .error failure →
    answer.request.compound? = none
  /-- A node that is handed out has the schema that is derived from the shape of the compound
  value to which the request maps. -/
  schema : ∀ answer ∈ start.answers asked, ∀ shared, answer.node? = some shared →
    ∃ compound, answer.request.compound? = some compound
      ∧ compound.shape.schema = .ok shared.schema
  /-- Two nodes that are handed out are the same exactly when one provider hands them out for
  one compound value. -/
  same : ∀ answer ∈ start.answers asked, ∀ other ∈ start.answers asked, ∀ shared same,
    answer.node? = some shared → other.node? = some same →
    (shared.node = same.node
      ↔ answer.provider = other.provider
        ∧ answer.request.compound? = other.request.compound?)
  /-- The shared schema of a compound value has been derived by the providers that have been
  asked for something that maps to it. -/
  derived : ∀ provider compound,
    ((start.after asked).session provider).isDerived compound = true
      ↔ ∃ request, (provider, request) ∈ asked ∧ request.compound? = some compound
  /-- What has been derived stays derived. -/
  lasting : ∀ more provider compound,
    ((start.after asked).session provider).isDerived compound = true →
    ((start.after (asked ++ more)).session provider).isDerived compound = true
  /-- One more request leaves all shared schemas as they are, but the one of the compound value
  to which it maps, with the provider that is asked. -/
  elsewhere : ∀ provider request other compound,
    ¬ (other = provider ∧ request.compound? = some compound) →
    (((start.after asked).ask provider request).2.session other).shared? compound
      = ((start.after asked).session other).shared? compound

/-- Requests to new providers share nodes. -/
theorem shares_of_new (nextNode : Nat) (log : List Event) (asked : List (Nat × Request)) :
  Shares (new nextNode log) asked
  := by
  have hnumbered := numbered_after_new nextNode log asked
  constructor
  case handed => exact fun answer hanswer compound => exists_schema_of_mem_answers hanswer
  case failed =>
    intro answer hanswer failure hfailure
    cases hcompound : answer.request.compound? with
    | none => rfl
    | some compound =>
        obtain ⟨schema, hschema, -⟩ := exists_schema_of_mem_answers hanswer hcompound
        rw [hfailure] at hschema
        cases hschema
  case schema =>
    intro answer hanswer shared hshared
    obtain ⟨compound, hcompound, hnode⟩ := exists_node?_of_mem_answers hanswer hshared
    use compound, hcompound
    rw [compound.shape.schema_eq_ok, hnumbered.schema_eq hnode]
    rfl
  case same =>
    intro answer hanswer other hother shared same hshared hsame
    obtain ⟨compound, hcompound, hnode⟩ := exists_node?_of_mem_answers hanswer hshared
    obtain ⟨compound', hcompound', hnode'⟩ := exists_node?_of_mem_answers hother hsame
    rw [Memory.Numbered.node_eq_iff _ hnumbered hnode hnode', hcompound, hcompound']
    simp
  case derived => apply isDerived_after_new_iff
  case lasting =>
    intro more provider compound h
    rw [isDerived_after_new_iff] at h ⊢
    obtain ⟨request, hrequest, hcompound⟩ := h
    use request, List.mem_append_left _ hrequest
  case elsewhere =>
    intro provider request other compound h
    rw [shared?_session, shared?_session, memory_ask]
    cases hplace : place? (provider, request) with
    | none => rfl
    | some place =>
        apply Memory.node?_visit_of_ne
        rintro rfl
        obtain ⟨hprovider, hcompound⟩ := place?_eq_some_iff.mp hplace
        exact h ⟨hprovider.symm, hcompound⟩

end Providers

/-- Requests to new providers share nodes, one for each provider and compound value that is
asked for; and of the properties of an object schema that is made where nothing had been
derived, exactly those share a node whose governing fields map to the same compound value. -/
theorem shares_nodes (nextNode : Nat) (log : List Event) (asked : List (Nat × Request)) :
  Providers.Shares (.new nextNode log) asked
    ∧ ∀ (settings : Settings) (description : Description) (session after : Session)
        (object : ObjectSchema), (∀ compound, session.isDerived compound = false) →
      (recordSchema settings description).runIn session = (.ok object, after) →
      SharesNodes description session after object
  := by
  constructor
  · apply Providers.shares_of_new
  · intro settings description session after object hnew hrun
    apply sharesNodes_of_recordSchema hnew hrun

/-- An object with two addresses, a location between them, and a choice in place of an address. -/
def depotDescription : Description where
  name := "Depot"
  fields := [
    { name := "Region", tag := "urn:address", typeName := "picklist" },
    { name := "Billing", tag := "urn:address" },
    { name := "Point", tag := "urn:location" },
    { name := "Shipping", tag := "urn:address" }]

/-- The addresses of a depot use one node and its location uses another one. The choice uses none,
although it is the first to ask for an address. -/
theorem shares_nodes_depot :
  ∃ object after billing point shipping,
    (recordSchema {} depotDescription).runIn {} = (.ok object, after)
    ∧ object.properties.map (fun p => (p.name, p.schema.node?))
      = [("Region", none), ("Billing", some billing), ("Point", some point),
        ("Shipping", some shipping)]
    ∧ billing.node = shipping.node ∧ billing.node ≠ point.node
    ∧ Compound.address.shape.schema = .ok billing.schema
  := by
  obtain ⟨object, after, billing, point, shipping, hrun, hproperties⟩ :
      ∃ object after billing point shipping,
        (recordSchema {} depotDescription).runIn {} = (.ok object, after)
        ∧ object.properties.map (fun p => (p.name, p.schema.node?))
          = [("Region", none), ("Billing", some billing), ("Point", some point),
            ("Shipping", some shipping)] := ⟨_, _, _, _, _, rfl, rfl⟩
  have hnew (compound : Compound) : Session.isDerived {} compound = false := by
    cases compound with
    | address => rfl
    | geolocation => rfl
  obtain ⟨-, hrecord⟩ := shares_nodes 0 [] []
  have hnodes := hrecord {} depotDescription {} after object hnew hrun
  have hproperty {name : String} {field : Field} (shared : SharedObject)
      (hfield : depotDescription.governing? name = some field)
      (h : (name, some shared) ∈ object.properties.map fun p => (p.name, p.schema.node?)) :
      ∃ p ∈ object.properties, depotDescription.governing? p.name = some field
        ∧ p.schema.node? = some shared := by
    obtain ⟨p, hp, heq⟩ := List.mem_map.mp h
    obtain ⟨rfl, hnode⟩ := Prod.mk.inj heq
    use p, hp, hfield
  have hbilling : depotDescription.governing? "Billing"
      = some { name := "Billing", tag := "urn:address" } := rfl
  have hpoint : depotDescription.governing? "Point"
      = some { name := "Point", tag := "urn:location" } := rfl
  have hshipping : depotDescription.governing? "Shipping"
      = some { name := "Shipping", tag := "urn:address" } := rfl
  obtain ⟨p, hp, hfield, hnode⟩ := hproperty billing hbilling (by simp [hproperties])
  obtain ⟨q, hq, hfield', hnode'⟩ := hproperty point hpoint (by simp [hproperties])
  obtain ⟨r, hr, hfield'', hnode''⟩ := hproperty shipping hshipping (by simp [hproperties])
  use object, after, billing, point, shipping, hrun, hproperties
  refine ⟨?_, ?_, ?_⟩
  · apply (hnodes.same p hp r hr _ _ hnode hnode'' _ _ hfield hfield'').mpr rfl
  · intro h
    have hcompound := (hnodes.same p hp q hq _ _ hnode hnode' _ _ hfield hfield').mp h
    cases hcompound
  · obtain ⟨-, -, field, compound, hgoverning, hcompound, hschema⟩ := hnodes.made p hp _ hnode
    obtain rfl := Option.some.inj (hfield.symm.trans hgoverning)
    obtain rfl := Option.some.inj hcompound
    apply hschema

/-- Of two providers, the one that is asked twice for an address hands out one node both times. -/
example :
  ((Providers.new 0 []).answers [
      (0, .shared .address),
      (1, .field { name := "Place", tag := "urn:address" }),
      (0, .field { name := "Place", tag := "urn:address" })]).map
    (fun answer => answer.node?.map (·.node))
    = [some 0, some 1, some 0]
  := rfl

end RecordSchema
