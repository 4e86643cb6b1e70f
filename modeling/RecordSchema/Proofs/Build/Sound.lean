import RecordSchema.Proofs.Build.Record

/-!
# Sound sessions

A session is sound when the shared schemas that it remembers are those of their shapes. A
session that remembers none is sound, and every step of a build leaves a sound session. In a
sound session the schema of a compound value is that of its shape, at some node.
-/

namespace RecordSchema

namespace Session

/-- The shared schemas that the session remembers are those of their shapes. -/
def Sound (session : Session) : Prop :=
  ∀ compound shared, session.shared? compound = some shared →
    shared.schema = compound.shape.object

theorem sound_forget (session : Session) :
  session.forget.Sound
  := by
  intro compound shared h
  cases compound with
  | address => cases h
  | geolocation => cases h

namespace Sound

variable {session : Session} (h : session.Sound)

include h

theorem note (event : Event) :
  (session.note event).Sound
  := by
  intro compound shared hshared
  apply h
  cases compound with
  | address => apply hshared
  | geolocation => apply hshared

/-- A session stays sound when the schema of a shape is remembered for it. -/
theorem share (compound : Compound) :
  (session.share compound compound.shape.object).Sound
  := by
  intro other shared hshared
  cases compound with
  | address =>
      cases other with
      | address =>
          cases hshared
          rfl
      | geolocation => apply h .geolocation shared hshared
  | geolocation =>
      cases other with
      | address => apply h .address shared hshared
      | geolocation =>
          cases hshared
          rfl

/-- What a sound session gives for a compound value is the schema of its shape. -/
theorem schema_obtain (compound : Compound) :
  (session.obtain compound).1.schema = compound.shape.object
  := by
  rw [Session.obtain]
  cases hshared : session.shared? compound with
  | none => rfl
  | some shared => apply h compound shared hshared

theorem obtain (compound : Compound) :
  (session.obtain compound).2.Sound
  := by
  rw [Session.obtain]
  cases session.shared? compound with
  | none => apply ((h.note _).note _).share
  | some shared => apply h

theorem represent (representation : Representation) :
  (session.represent representation).2.Sound
  := by
  cases representation with
  | plain kind => apply h
  | dateTime => apply h
  | compound compound => apply h.obtain

/-- Making the schema of a field leaves a sound session, also where it fails. -/
theorem runIn_schema (field : Field) :
  (Build.runIn session field.schema).2.Sound
  := by
  cases htype : SoapType.ofTag? field.tag with
  | none =>
      rw [Field.runIn_schema_of_unsupported (by simp [Field.isUnsupported, htype])]
      apply h.note
  | some type =>
      rw [Field.runIn_schema_of_ofTag? htype]
      apply (h.note _).represent

/-- Making the schemas of fields leaves a sound session. -/
theorem afterFields (fields : List Field) :
  (session.afterFields fields).Sound
  := by
  induction fields generalizing session with
  | nil => apply h
  | cons field rest ih =>
      have hafter := h.runIn_schema field
      rw [Session.afterFields]
      split
      · rename_i after hrun
        rw [hrun] at hafter
        apply ih hafter
      · rename_i after hrun
        rw [hrun] at hafter
        apply hafter

/-- Putting the schemas of fields leaves a sound session, also where one of them fails. -/
theorem runIn_putFields (object : ObjectSchema) (fields : List Field) :
  ((putFields object fields).runIn session).2.Sound
  := by
  induction fields generalizing object session with
  | nil => apply h
  | cons field rest ih =>
      have hafter := h.runIn_schema field
      rw [putFields, Build.runIn_bind]
      split
      · rename_i schema after hrun
        rw [hrun] at hafter
        apply ih hafter
      · rename_i failure after hrun
        rw [hrun] at hafter
        apply hafter

end Sound

end Session

end RecordSchema
