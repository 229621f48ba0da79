import BrokerSession.Proofs.Schema.RoundTrip
import Mathlib.Logic.Relation

namespace BrokerSession

/-!
# Evolution of schemas

A schema evolves by gaining or losing fields, at the top or inside of nested
records and array elements.  An edit that only touches fields outside of a
version's range leaves no trace at that version: the writer and the reader pass
over the same fields at every depth, before and after the edit.  Fields that
exist at all versions are read alike at each of them.
-/

/-! ## Edits outside of a version -/

mutual

/-- One edit to a schema nested in a type. -/
inductive FieldType.Edits (version : Int16) : FieldType → FieldType → Prop where
  | array {element edited : FieldType}
      (inside : FieldType.Edits version element edited) :
      FieldType.Edits version (.array element) (.array edited)
  | struct {schema edited : Schema}
      (inside : Schema.Edits version schema edited) :
      FieldType.Edits version (.struct schema) (.struct edited)

/-- One field that a version does not have is inserted or deleted. -/
inductive Schema.Edits (version : Int16) : Schema → Schema → Prop where
  | insert (name : String) (type : FieldType) {versions : VersionRange}
      (schema : Schema) (inactive : ¬ versions.contains version) :
      Schema.Edits version schema (.cons name type versions schema)
  | delete (name : String) (type : FieldType) {versions : VersionRange}
      (schema : Schema) (inactive : ¬ versions.contains version) :
      Schema.Edits version (.cons name type versions schema) schema
  | inside (name : String) {type edited : FieldType} (versions : VersionRange)
      (rest : Schema) (inside : FieldType.Edits version type edited) :
      Schema.Edits version (.cons name type versions rest)
        (.cons name edited versions rest)
  | after (name : String) (type : FieldType) (versions : VersionRange)
      {rest edited : Schema} (after : Schema.Edits version rest edited) :
      Schema.Edits version (.cons name type versions rest)
        (.cons name type versions edited)

end

/-- A field may be inserted at any position. -/
theorem Schema.edits_ofFields_insert {version : Int16} {field : Field}
    (inactive : ¬ field.isActive version) (earlier later : List Field) :
    Schema.Edits version (.ofFields (earlier ++ later))
      (.ofFields (earlier ++ field :: later)) := by
  induction earlier with
  | nil =>
      exact .insert field.name field.type (.ofFields later) inactive
  | cons first rest inductionHypothesis =>
      exact .after first.name first.type first.versions inductionHypothesis

mutual

/-- A value of the edited type is written as before. -/
theorem FieldType.Edits.write_eq (field : String) {version : Int16}
    {type edited : FieldType} (value : Value) :
    FieldType.Edits version type edited →
      type.write field version value = edited.write field version value
  | .array inside => by
      have sameItem := funext (inside.write_eq field)
      cases value with
      | array items =>
          simp only [FieldType.write, sameItem]
      | _ =>
          rfl
  | .struct inside => by
      cases value with
      | struct record =>
          simp only [FieldType.write, inside.write_eq record]
      | _ =>
          rfl

/-- A record is written as before the edit. -/
theorem Schema.Edits.write_eq {version : Int16} {schema edited : Schema}
    (record : Record) :
    Schema.Edits version schema edited →
      schema.write version record = edited.write version record
  | .insert _ _ _ inactive => (Schema.write_cons_of_inactive inactive).symm
  | .delete _ _ _ inactive => Schema.write_cons_of_inactive inactive
  | .inside name _ _ inside => by
      simp only [Schema.write, inside.write_eq name]
  | .after _ _ _ after => by
      simp only [Schema.write, after.write_eq record]

end

mutual

/-- A value of the edited type is read as before. -/
theorem FieldType.Edits.read_eq (field : String) {version : Int16}
    {type edited : FieldType} :
    FieldType.Edits version type edited →
      type.read field version = edited.read field version
  | .array inside => by
      simp only [FieldType.read, inside.read_eq field]
  | .struct inside => by
      simp only [FieldType.read, inside.readInto_eq ∅]

/-- A record is read as before the edit. -/
theorem Schema.Edits.readInto_eq {version : Int16} {schema edited : Schema}
    (held : Record) :
    Schema.Edits version schema edited →
      schema.readInto version held = edited.readInto version held
  | .insert _ _ _ inactive => by
      rw [Schema.readInto, if_neg inactive]
  | .delete _ _ _ inactive => by
      rw [Schema.readInto, if_neg inactive]
  | .inside name _ _ inside => by
      simp only [Schema.readInto, inside.read_eq name]
  | .after name _ _ after => by
      simp only [Schema.readInto]
      split
      · congr 1
        funext value
        exact after.readInto_eq (held.insert name value)
      · exact after.readInto_eq held

end

/-! ## Fields at all versions -/

/-- The fields of two lists are read one list after the other. -/
theorem Schema.readInto_append (version : Int16) (earlier later : List Field)
    (held : Record) :
    (Schema.ofFields (earlier ++ later)).readInto version held = (do
      let record ← (Schema.ofFields earlier).readInto version held
      (Schema.ofFields later).readInto version record) := by
  induction earlier generalizing held with
  | nil =>
      exact (pure_bind held _).symm
  | cons field rest inductionHypothesis =>
      simp only [List.cons_append, Schema.ofFields, Schema.readInto]
      split
      · rw [bind_assoc]
        congr 1
        funext value
        exact inductionHypothesis (held.insert field.name value)
      · exact inductionHypothesis held

mutual

/-- Whether a type has the same fields at all versions. -/
def FieldType.IsPermanent : FieldType → Prop
  | .array element => element.IsPermanent
  | .struct schema => schema.IsPermanent
  | _ => True

/-- Whether a schema has the same fields at all versions, at every depth. -/
def Schema.IsPermanent : Schema → Prop
  | .nil => True
  | .cons _ type versions rest =>
      versions = .all ∧ type.IsPermanent ∧ rest.IsPermanent

end

section IsPermanent

variable {version other : Int16}

mutual

/-- A type without versions of its own is read alike at two versions. -/
theorem FieldType.IsPermanent.read_eq
    (active : VersionRange.all.contains version = true)
    (otherActive : VersionRange.all.contains other = true) (field : String) :
    (type : FieldType) → type.IsPermanent →
      type.read field version = type.read field other
  | .int8, _ | .int16, _ | .int32, _ | .int64, _ | .boolean, _ | .string, _
  | .nullableString, _ | .bytes, _ | .nullableBytes, _ => by
      simp only [FieldType.read]
  | .array element, permanent => by
      have sameElement := FieldType.IsPermanent.read_eq active otherActive field
        element permanent
      simp only [FieldType.read, sameElement]
  | .struct schema, permanent => by
      have sameSchema := Schema.IsPermanent.readInto_eq active otherActive
        schema permanent
      simp only [FieldType.read, sameSchema]

/-- A schema without versions of its own is read alike at two versions. -/
theorem Schema.IsPermanent.readInto_eq
    (active : VersionRange.all.contains version = true)
    (otherActive : VersionRange.all.contains other = true) :
    (schema : Schema) → schema.IsPermanent →
      schema.readInto version = schema.readInto other
  | .nil, _ => rfl
  | .cons name type _ rest, permanent => by
      obtain ⟨rfl, typePermanent, restPermanent⟩ := permanent
      have sameType := FieldType.IsPermanent.read_eq active otherActive name
        type typePermanent
      have sameRest := Schema.IsPermanent.readInto_eq active otherActive rest
        restPermanent
      funext held
      simp only [Schema.readInto, if_pos active, if_pos otherActive, sameType,
        sameRest]

end

end IsPermanent

/-! ## Records that agree on the active fields -/

mutual

/--
Whether two values agree as far as a type is concerned: nested records on their
active fields, everything else as a whole.
-/
def FieldType.Agree (version : Int16) : FieldType → Value → Value → Prop
  | .array element, .array lefts, .array rights =>
      List.Forall₂ (element.Agree version) lefts rights
  | .struct schema, .struct left, .struct right =>
      schema.Agree version left right
  | _, left, right => left = right

/-- Whether two records agree on every active field, held or missing. -/
def Schema.Agree (version : Int16) : Schema → Record → Record → Prop
  | .nil, _, _ => True
  | .cons name type versions rest, left, right =>
      (versions.contains version →
        Option.Rel (type.Agree version) (left.get? name) (right.get? name)) ∧
        rest.Agree version left right

end

/-- Items whose wire forms agree pairwise are written alike. -/
theorem writeEach_eq_of_forall₂ {Item : Type}
    {write : Item → Except SchemaError Bytes} {alike : Item → Item → Prop}
    (same : ∀ left right, alike left right → write left = write right)
    {lefts rights : List Item} (pairwise : List.Forall₂ alike lefts rights) :
    writeEach write lefts = writeEach write rights := by
  induction pairwise with
  | nil =>
      rfl
  | cons first _ inductionHypothesis =>
      rw [writeEach, writeEach, same _ _ first, inductionHypothesis]

mutual

/-- Values that agree are written alike. -/
theorem FieldType.write_eq_of_agree (field : String) (version : Int16)
    (type : FieldType) (left right : Value)
    (agree : type.Agree version left right) :
    type.write field version left = type.write field version right := by
  revert agree
  fun_cases FieldType.Agree version type left right <;> intro agree
  case case1 element lefts rights =>
    have sameItems := writeEach_eq_of_forall₂
      (FieldType.write_eq_of_agree field version element) agree
    rw [FieldType.write, FieldType.write, agree.length_eq, sameItems]
  case case2 schema left right =>
    exact Schema.write_eq_of_agree version schema left right agree
  case case3 =>
    rw [agree]

/-- Records that agree on the active fields are written alike. -/
theorem Schema.write_eq_of_agree (version : Int16) (schema : Schema)
    (left right : Record) (agree : schema.Agree version left right) :
    schema.write version left = schema.write version right := by
  cases schema with
  | nil =>
      rfl
  | cons name type versions rest =>
      obtain ⟨here, later⟩ := agree
      have sameRest := Schema.write_eq_of_agree version rest left right later
      rw [Schema.write, Schema.write, sameRest]
      generalize left.get? name = leftHeld, right.get? name = rightHeld at here
      split
      · next active =>
          cases here active with
          | some alike =>
              have sameValue :=
                FieldType.write_eq_of_agree name version type _ _ alike
              simp only [sameValue]
          | none =>
              rfl
      · rfl

end

/-! ## Any number of edits -/

/-- A buffer is read as before the edit, whether or not it holds a record. -/
theorem Schema.Edits.read_eq {version : Int16} {schema edited : Schema}
    (edit : Schema.Edits version schema edited) :
    schema.read version = edited.read version :=
  edit.readInto_eq ∅

/--
Inserting and deleting fields that a version does not have, any number of them
at any depth, changes nothing that the schema writes or reads at that version;
and what a schema writes depends on the active fields alone.
-/
theorem edits_leave_version_unchanged (version : Int16) (schema : Schema) :
    (∀ edited, Relation.ReflTransGen (Schema.Edits version) schema edited →
      (∀ record,
        schema.write version record = edited.write version record) ∧
      (∀ buffer : Bytes,
        (schema.read version).run buffer =
          (edited.read version).run buffer)) ∧
    (∀ left right, schema.Agree version left right →
      schema.write version left = schema.write version right) := by
  constructor
  · intro edited edits
    induction edits with
    | refl =>
        exact ⟨fun _ => rfl, fun _ => rfl⟩
    | tail _ edit inductionHypothesis =>
        obtain ⟨writes, reads⟩ := inductionHypothesis
        constructor
        · intro record
          rw [writes, edit.write_eq]
        · intro buffer
          rw [reads, edit.read_eq]
  · exact Schema.write_eq_of_agree version schema

/-- The topic with another set of fields from version one on. -/
def laterTopicSchema : Schema :=
  .ofFields [
    ⟨"topic", .string, .all⟩,
    ⟨"identifier", .bytes, .since 1⟩,
    ⟨"partitions", .arrayOf [
      ⟨"log", .nullableBytes, .all⟩,
      ⟨"replicas", .array .int16, .since 2⟩], .all⟩,
    ⟨"internal", .boolean, ⟨0, 0⟩⟩]

/-- A topic that differs from the other one in what version zero leaves out. -/
def leaderlessTopicRecord : Record :=
  .ofList [
    ("topic", .string "é"),
    ("identifier", .bytes [1, 2]),
    ("partitions", .array [.struct (.ofList [("log", .nullableBytes none)])]),
    ("internal", .boolean true)]

theorem edits_leave_version_unchanged_topic :
    ((∀ record,
        topicSchema.write 0 record = laterTopicSchema.write 0 record) ∧
      (∀ buffer : Bytes,
        (topicSchema.read 0).run buffer =
          (laterTopicSchema.read 0).run buffer)) ∧
    topicSchema.write 0 topicRecord =
      topicSchema.write 0 leaderlessTopicRecord := by
  have inactive : ∀ low : Int16, 0 < low →
      ¬ (VersionRange.since low).contains 0 = true := by
    intro low positive
    simp [VersionRange.contains, VersionRange.since, Int16.not_le.mpr positive]
  have unchanged := edits_leave_version_unchanged 0 topicSchema
  constructor
  · apply unchanged.1
    refine .trans (.single (.after _ _ _ (.inside _ _ _ (.array (.struct
      (.delete "leader" .int16 _ (inactive 1 (by decide)))))))) ?_
    refine .trans (.single (.after _ _ _ (.inside _ _ _ (.array (.struct
      (.after _ _ _ (.insert "replicas" (.array .int16) _
        (inactive 2 (by decide))))))))) ?_
    exact .single (.after _ _ _ (.insert "identifier" .bytes _
      (inactive 1 (by decide))))
  · apply unchanged.2
    refine ⟨fun _ => .some rfl, fun _ => .some ?_, fun _ => .some rfl, trivial⟩
    exact .cons ⟨fun active => absurd active (by decide),
      fun _ => .some rfl, trivial⟩ .nil

end BrokerSession
