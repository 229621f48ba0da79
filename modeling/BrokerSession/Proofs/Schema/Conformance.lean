import BrokerSession.Proofs.Schema.Writing
import BrokerSession.Proofs.Table

namespace BrokerSession

/-!
# Records that a schema writes

A record conforms to a schema at a version if every active field is there with
a value of the declared type that fits its length prefix.  Exactly these records
can be written.  What the wire keeps of them is their restriction: the active
fields, with the values of nested records restricted in turn.
-/

/-! ## Names of the active fields -/

namespace Schema

/-- The names on the wire at a version, in wire order. -/
def activeNames (schema : Schema) (version : Int16) : List String :=
  (schema.fieldsFor version).map Field.name

theorem fieldsFor_cons (version : Int16) (name : String)
    (type : FieldType) (versions : VersionRange) (rest : Schema) :
    (Schema.cons name type versions rest).fieldsFor version =
      if versions.contains version then
        ⟨name, type, versions⟩ :: rest.fieldsFor version
      else rest.fieldsFor version := by
  by_cases active : versions.contains version = true <;>
    simp [fieldsFor, fields, Field.isActive, active]

theorem activeNames_cons (version : Int16) (name : String)
    (type : FieldType) (versions : VersionRange) (rest : Schema) :
    (Schema.cons name type versions rest).activeNames version =
      if versions.contains version then name :: rest.activeNames version
      else rest.activeNames version := by
  rw [activeNames, fieldsFor_cons]
  split <;> rfl

end Schema

mutual

/-- Whether the schemas inside a type have distinct names at a version. -/
def FieldType.hasDistinctNames (version : Int16) : FieldType → Bool
  | .array element => element.hasDistinctNames version
  | .struct schema => schema.hasDistinctNames version
  | _ => true

/-- Whether the active fields differ in name, here and in every nested schema. -/
def Schema.hasDistinctNames (version : Int16) : Schema → Bool
  | .nil => true
  | .cons name type versions rest =>
      if versions.contains version then
        !(rest.activeNames version).contains name &&
          type.hasDistinctNames version && rest.hasDistinctNames version
      else
        rest.hasDistinctNames version

end

theorem Schema.hasDistinctNames_cons_iff {version : Int16} {name : String}
    {type : FieldType} {versions : VersionRange} {rest : Schema}
    (active : versions.contains version) :
    (Schema.cons name type versions rest).hasDistinctNames version ↔
      name ∉ rest.activeNames version ∧ type.hasDistinctNames version ∧
        rest.hasDistinctNames version := by
  rw [Schema.hasDistinctNames, if_pos active]
  simp [and_assoc]

/-! ## Restriction to the active fields -/

mutual

/-- A value with its nested records restricted to their active fields. -/
def FieldType.restrict (version : Int16) : FieldType → Value → Value
  | .array element, .array items =>
      .array (items.map (element.restrict version))
  | .struct schema, .struct record =>
      .struct (Table.ofList (schema.activeEntries version record))
  | _, value => value

/-- The active fields that a record holds, with their restricted values. -/
def Schema.activeEntries (version : Int16) :
    Schema → Record → List (String × Value)
  | .nil, _ => []
  | .cons name type versions rest, record =>
      if versions.contains version then
        match record.get? name with
        | none => rest.activeEntries version record
        | some value =>
            (name, type.restrict version value) ::
              rest.activeEntries version record
      else
        rest.activeEntries version record

end

namespace Schema

/-- A record without the fields that are not on the wire at a version. -/
def restrict (version : Int16) (schema : Schema) (record : Record) : Record :=
  Table.ofList (schema.activeEntries version record)

/-- Only active names remain. -/
theorem mem_activeNames_of_mem_activeEntries {version : Int16} {record : Record}
    {entry : String × Value} (schema : Schema)
    (member : entry ∈ schema.activeEntries version record) :
    entry.1 ∈ schema.activeNames version := by
  cases schema with
  | nil =>
      cases member
  | cons name type versions rest =>
      rw [activeEntries] at member
      rw [activeNames_cons]
      split at member
      · next active =>
          rw [if_pos active]
          split at member
          · exact List.mem_cons_of_mem _
              (mem_activeNames_of_mem_activeEntries rest member)
          · rcases List.mem_cons.mp member with isFirst | inRest
            · subst isFirst
              exact List.mem_cons_self
            · exact List.mem_cons_of_mem _
                (mem_activeNames_of_mem_activeEntries rest inRest)
      · next inactive =>
          rw [if_neg inactive]
          exact mem_activeNames_of_mem_activeEntries rest member

/-- A name that is not active is not among the restricted entries. -/
theorem not_mem_activeEntries {version : Int16} {schema : Schema}
    (record : Record) {name : String}
    (absent : name ∉ schema.activeNames version) :
    name ∉ (schema.activeEntries version record).map Prod.fst := by
  intro member
  obtain ⟨entry, isEntry, rfl⟩ := List.mem_map.mp member
  exact absent (mem_activeNames_of_mem_activeEntries schema isEntry)

/-- A restricted record holds no field that is not active. -/
theorem get?_restrict_of_not_mem {version : Int16} {record : Record}
    {schema : Schema} {name : String}
    (absent : name ∉ schema.activeNames version) :
    (schema.restrict version record).get? name = none :=
  Table.get?_insertAll_of_not_mem ∅ (not_mem_activeEntries record absent)

/-- Filling in the active entries gives each active field its own value. -/
theorem get?_insertAll_activeEntries {version : Int16} {record : Record}
    (schema : Schema) {held : Record}
    (distinct : schema.hasDistinctNames version) {field : Field}
    (isField : field ∈ schema.fieldsFor version)
    (absent : held.get? field.name = none) :
    (held.insertAll (schema.activeEntries version record)).get? field.name =
      (record.get? field.name).map (field.type.restrict version) := by
  cases schema with
  | nil =>
      cases isField
  | cons name type versions rest =>
      rw [fieldsFor_cons] at isField
      rw [activeEntries]
      by_cases active : versions.contains version = true
      · obtain ⟨fresh, -, restDistinct⟩ :=
          (hasDistinctNames_cons_iff active).mp distinct
        rw [if_pos active] at isField ⊢
        rcases List.mem_cons.mp isField with isFirst | inRest
        · subst isFirst
          have others := not_mem_activeEntries record fresh
          split
          · next noValue =>
              rw [Table.get?_insertAll_of_not_mem _ others, absent, noValue]
              rfl
          · next value hasValue =>
              rw [Table.insertAll_cons,
                Table.get?_insertAll_of_not_mem _ others, Table.get?_insert,
                if_pos rfl, hasValue]
              rfl
        · split
          · exact get?_insertAll_activeEntries rest restDistinct inRest absent
          · have other : field.name ≠ name := by
              intro same
              exact fresh (same ▸ List.mem_map_of_mem inRest)
            rw [Table.insertAll_cons]
            refine get?_insertAll_activeEntries rest restDistinct inRest ?_
            rw [Table.get?_insert, if_neg other, absent]
      · rw [hasDistinctNames, if_neg active] at distinct
        rw [if_neg active] at isField ⊢
        exact get?_insertAll_activeEntries rest distinct isField absent

/-- A restricted record holds what the record held for each active field. -/
theorem get?_restrict_of_mem {version : Int16} {record : Record}
    {schema : Schema} (distinct : schema.hasDistinctNames version)
    {field : Field} (isField : field ∈ schema.fieldsFor version) :
    (schema.restrict version record).get? field.name =
      (record.get? field.name).map (field.type.restrict version) :=
  get?_insertAll_activeEntries schema distinct isField rfl

end Schema

/-! ## Conformance -/

mutual

/-- Whether a value has a type and fits the length prefixes on the wire. -/
def FieldType.Conforms (version : Int16) : FieldType → Value → Prop
  | .int8, .int8 _ => True
  | .int16, .int16 _ => True
  | .int32, .int32 _ => True
  | .int64, .int64 _ => True
  | .boolean, .boolean _ => True
  | .string, .string text => text.utf8ByteSize ≤ Encode.maxStringLength
  | .nullableString, .nullableString value =>
      ∀ text ∈ value, text.utf8ByteSize ≤ Encode.maxStringLength
  | .bytes, .bytes content => content.length ≤ Encode.maxCount
  | .nullableBytes, .nullableBytes value =>
      ∀ content ∈ value, content.length ≤ Encode.maxCount
  | .array element, .array items =>
      items.length ≤ Encode.maxCount ∧
        ∀ item ∈ items, element.Conforms version item
  | .struct schema, .struct record => schema.Conforms version record
  | _, _ => False

/-- Whether a record holds a conforming value for every active field. -/
def Schema.Conforms (version : Int16) : Schema → Record → Prop
  | .nil, _ => True
  | .cons name type versions rest, record =>
      (versions.contains version →
        ∃ value, record.get? name = some value ∧ type.Conforms version value) ∧
        rest.Conforms version record

end

/-- A count is written if it fits its four bytes. -/
theorem Encode.exists_count_iff (field : String) {number : Nat} :
    (∃ written, Encode.count field number = .ok written) ↔
      number ≤ Encode.maxCount := by
  by_cases fits : number ≤ Encode.maxCount <;> simp [Encode.count, fits]

/-- A string is written if its length fits two bytes. -/
theorem Encode.exists_string_iff {field text : String} :
    (∃ written, Encode.string field text = .ok written) ↔
      text.utf8ByteSize ≤ Encode.maxStringLength := by
  by_cases fits : text.utf8ByteSize ≤ Encode.maxStringLength <;>
    simp [Encode.string, fits]

/-- A byte string is written if its length fits four bytes. -/
theorem Encode.exists_bytes_iff {field : String} {content : Bytes} :
    (∃ written, Encode.bytes field content = .ok written) ↔
      content.length ≤ Encode.maxCount := by
  rw [← Encode.exists_count_iff field]
  constructor
  · rintro ⟨written, wrote⟩
    obtain ⟨counted, wroteCount, -⟩ := except_bind_eq_ok_iff.mp wrote
    exact ⟨counted, wroteCount⟩
  · rintro ⟨counted, wroteCount⟩
    exact ⟨counted ++ content, except_bind_eq_ok_iff.mpr ⟨_, wroteCount, rfl⟩⟩

/-- Items are written together if each of them is written. -/
theorem exists_writeEach_iff {Item : Type}
    {write : Item → Except SchemaError Bytes} {items : List Item} :
    (∃ written, writeEach write items = .ok written) ↔
      ∀ item ∈ items, ∃ written, write item = .ok written := by
  induction items with
  | nil =>
      simp [writeEach]
  | cons item rest inductionHypothesis =>
      rw [List.forall_mem_cons, ← inductionHypothesis]
      constructor
      · rintro ⟨written, wrote⟩
        obtain ⟨first, others, wroteFirst, wroteOthers, -⟩ :=
          writeEach_cons_eq_ok_iff.mp wrote
        exact ⟨⟨first, wroteFirst⟩, others, wroteOthers⟩
      · rintro ⟨⟨first, wroteFirst⟩, others, wroteOthers⟩
        exact ⟨first ++ others,
          writeEach_cons_eq_ok_iff.mpr
            ⟨first, others, wroteFirst, wroteOthers, rfl⟩⟩

mutual

/-- A value is written exactly if it conforms to its type. -/
theorem FieldType.exists_write_iff (version : Int16) :
    (type : FieldType) → (field : String) → (value : Value) →
      ((∃ written, type.write field version value = .ok written) ↔
        type.Conforms version value)
  | .int8, field, value | .int16, field, value | .int32, field, value
  | .int64, field, value | .boolean, field, value => by
      cases value <;> simp [FieldType.write, FieldType.Conforms]
  | .string, field, value => by
      cases value <;>
        simp [FieldType.write, FieldType.Conforms, Encode.exists_string_iff]
  | .nullableString, field, value => by
      cases value with
      | nullableString text =>
          cases text <;>
            simp [FieldType.write, FieldType.Conforms, Encode.nullableString,
              Encode.exists_string_iff]
      | _ =>
          simp [FieldType.write, FieldType.Conforms]
  | .bytes, field, value => by
      cases value <;>
        simp [FieldType.write, FieldType.Conforms, Encode.exists_bytes_iff]
  | .nullableBytes, field, value => by
      cases value with
      | nullableBytes content =>
          cases content <;>
            simp [FieldType.write, FieldType.Conforms, Encode.nullableBytes,
              Encode.exists_bytes_iff]
      | _ =>
          simp [FieldType.write, FieldType.Conforms]
  | .array element, field, value => by
      cases value with
      | array items =>
          have each :
              (∃ written,
                writeEach (element.write field version) items = .ok written) ↔
                ∀ item ∈ items, element.Conforms version item := by
            rw [exists_writeEach_iff]
            exact forall₂_congr fun item _ =>
              FieldType.exists_write_iff version element field item
          rw [FieldType.Conforms, ← each,
            ← Encode.exists_count_iff field]
          constructor
          · rintro ⟨written, wrote⟩
            cases FieldType.write_eq_ok_iff.mp wrote with
            | array wroteCount wroteItems =>
                exact ⟨⟨_, wroteCount⟩, _, wroteItems⟩
          · rintro ⟨⟨counted, wroteCount⟩, others, wroteItems⟩
            exact ⟨_, FieldType.write_eq_ok_iff.mpr
              (.array wroteCount wroteItems)⟩
      | _ =>
          simp [FieldType.write, FieldType.Conforms]
  | .struct schema, field, value => by
      cases value with
      | struct record =>
          exact Schema.exists_write_iff version schema record
      | _ =>
          simp [FieldType.write, FieldType.Conforms]

/-- A record is written exactly if it conforms to the schema. -/
theorem Schema.exists_write_iff (version : Int16) :
    (schema : Schema) → (record : Record) →
      ((∃ written, schema.write version record = .ok written) ↔
        schema.Conforms version record)
  | .nil, record => by
      simp [Schema.write, Schema.Conforms]
  | .cons name type versions rest, record => by
      have others := Schema.exists_write_iff version rest record
      rw [Schema.Conforms, ← others]
      by_cases active : versions.contains version = true
      · constructor
        · rintro ⟨written, wrote⟩
          obtain ⟨value, first, _, held, wroteFirst, wroteOthers, -⟩ :=
            (Schema.write_cons_eq_ok_iff active).mp wrote
          refine ⟨fun _ => ⟨value, held, ?_⟩, _, wroteOthers⟩
          exact (FieldType.exists_write_iff version type name value).mp
            ⟨first, wroteFirst⟩
        · rintro ⟨present, _, wroteOthers⟩
          obtain ⟨value, held, conforms⟩ := present active
          obtain ⟨first, wroteFirst⟩ :=
            (FieldType.exists_write_iff version type name value).mpr conforms
          exact ⟨_, (Schema.write_cons_eq_ok_iff active).mpr
            ⟨value, first, _, held, wroteFirst, wroteOthers, rfl⟩⟩
      · rw [Schema.write_cons_of_inactive active]
        simp [active]

end

end BrokerSession
