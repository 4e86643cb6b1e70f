import RecordSchema.Failure
import RecordSchema.SoapType

/-!
# Sessions

While schemas are made, a session remembers the schemas of compound values that have been
derived, so that all fields of a compound type share one node, and keeps a log of what
happens. Both survive a failure. Nodes are numbered in the order in which they are made, also
after the remembered ones have been forgotten, so that no number is used twice.
-/

namespace RecordSchema

/-! ### Log -/

/-- The levels of log entries. -/
inductive Level where
  | debug
  | trace
deriving DecidableEq

/-- The name of a level. -/
def Level.name : Level → String
  | .debug => "DEBUG"
  | .trace => "TRACE"

/-- What is worth an entry in the log. -/
inductive Event where
  /-- The schema of an object is generated. -/
  | generating (object : String) (fields : Nat)
  /-- The schema of a field is looked for. -/
  | mapping (field : String) (tag : String)
  /-- The schema of a compound value is derived, as it is not yet there. -/
  | sharing (shape : Shape)
  /-- The schema of a shape is derived. -/
  | shaping (shape : Shape)
  /-- The schema of the whole interface has been put together. -/
  | composed (shapes : Nat)
deriving DecidableEq

namespace Event

/-- The level of an entry. -/
def level : Event → Level
  | .generating _ _ | .sharing _ | .composed _ => .debug
  | .mapping _ _ | .shaping _ => .trace

/-- The text of an entry. -/
def message : Event → String
  | .generating object fields =>
    "generating JSON schema for " ++ object ++ " (" ++ Nat.repr fields ++ " fields)"
  | .mapping field tag => "mapping field " ++ field ++ " (" ++ tag ++ ")"
  | .sharing shape => "deriving shared " ++ shape.name ++ " schema"
  | .shaping shape => "deriving schema for " ++ shape.name
  | .composed shapes => "composed API schema from " ++ Nat.repr shapes ++ " shapes"

end Event

/-! ### Sessions -/

/-- An object schema that is shared, as the node with a number. -/
structure SharedObject where
  node : Nat
  schema : ObjectSchema
deriving Inhabited

/-- A use of the shared schema that says nothing of its own. -/
def SharedObject.use (shared : SharedObject) : Schema := .shared shared.node shared.schema {}

/-- What is kept while schemas are made. -/
structure Session where
  address : Option SharedObject := none
  geolocation : Option SharedObject := none
  /-- The number of the next node. -/
  nextNode : Nat := 0
  /-- The entries of the log, in order. -/
  log : List Event := []
deriving Inhabited

namespace Session

/-- The shared schema of a compound value, if it has been derived. -/
def shared? (session : Session) : Compound → Option SharedObject
  | .address => session.address
  | .geolocation => session.geolocation

/-- Whether the shared schema of a compound value has been derived. -/
def isDerived (session : Session) (compound : Compound) : Bool :=
  (session.shared? compound).isSome

/-- The session without any shared schemas. -/
def forget (session : Session) : Session :=
  { session with address := none, geolocation := none }

/-- The session with one more entry in the log. -/
def note (session : Session) (event : Event) : Session :=
  { session with log := session.log ++ [event] }

/-- The session in which an object schema is the shared schema of a compound value. -/
def share (session : Session) (compound : Compound) (schema : ObjectSchema) : Session :=
  let shared := some ⟨session.nextNode, schema⟩
  match compound with
  | .address => { session with address := shared, nextNode := session.nextNode + 1 }
  | .geolocation => { session with geolocation := shared, nextNode := session.nextNode + 1 }

end Session

/-- The making of a result within a session. -/
abbrev Build (α : Type) : Type := ExceptT Failure (StateM Session) α

namespace Build

/-- The result of a build and the session after it. -/
def runIn {α : Type} (session : Session) (build : Build α) : Except Failure α × Session :=
  (ExceptT.run build).run session

/-- The result of a build in a session of its own. -/
def result {α : Type} (build : Build α) : Except Failure α := (runIn {} build).1

/-- An entry in the log. -/
def note (event : Event) : Build Unit := modify (·.note event)

/-- Derive the object schema of a shape. -/
def shape (shape : Shape) : Build ObjectSchema := do
  note (.shaping shape)
  match shape.schema with
  | .ok schema => pure schema
  | .error failure => throw failure

/-- The shared schema of a compound value, which is derived if it is not yet there. -/
def shared (compound : Compound) : Build SharedObject := do
  match (← get).shared? compound with
  | some shared => pure shared
  | none =>
    note (.sharing compound.shape)
    let schema ← shape compound.shape
    let session ← get
    set (session.share compound schema)
    pure ⟨session.nextNode, schema⟩

end Build

end RecordSchema
