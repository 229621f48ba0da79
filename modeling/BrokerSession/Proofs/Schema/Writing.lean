import BrokerSession.Proofs.Computation
import BrokerSession.Schema.Codec

namespace BrokerSession

/-!
# What a successful write has done

A write succeeds in one way for each field type, and a record is written field
by field.  Every argument about written bytes takes them apart along these
cases.
-/

/-- How the value of a field reaches the wire, with one case for each type. -/
inductive FieldType.Written (field : String) (version : Int16) :
    FieldType → Value → Bytes → Prop where
  | int8 (value : Int8) :
      Written field version .int8 (.int8 value) (Bytes.ofInt8 value)
  | int16 (value : Int16) :
      Written field version .int16 (.int16 value) (Bytes.ofInt16 value)
  | int32 (value : Int32) :
      Written field version .int32 (.int32 value) (Bytes.ofInt32 value)
  | int64 (value : Int64) :
      Written field version .int64 (.int64 value) (Bytes.ofInt64 value)
  | boolean (value : Bool) :
      Written field version .boolean (.boolean value) [if value then 1 else 0]
  | string {value : String} {written : Bytes}
      (wrote : Encode.string field value = .ok written) :
      Written field version .string (.string value) written
  | nullableString {value : Option String} {written : Bytes}
      (wrote : Encode.nullableString field value = .ok written) :
      Written field version .nullableString (.nullableString value) written
  | bytes {value written : Bytes}
      (wrote : Encode.bytes field value = .ok written) :
      Written field version .bytes (.bytes value) written
  | nullableBytes {value : Option Bytes} {written : Bytes}
      (wrote : Encode.nullableBytes field value = .ok written) :
      Written field version .nullableBytes (.nullableBytes value) written
  | array {element : FieldType} {items : List Value} {counted written : Bytes}
      (wroteCount : Encode.count field items.length = .ok counted)
      (wroteItems :
        writeEach (element.write field version) items = .ok written) :
      Written field version (.array element) (.array items)
        (counted ++ written)
  | struct {schema : Schema} {record : Record} {written : Bytes}
      (wrote : schema.write version record = .ok written) :
      Written field version (.struct schema) (.struct record) written

namespace FieldType

/-- A write succeeds exactly by the case of its type. -/
theorem write_eq_ok_iff {field : String} {version : Int16} {type : FieldType}
    {value : Value} {written : Bytes} :
    type.write field version value = .ok written ↔
      Written field version type value written := by
  constructor
  · intro wrote
    revert wrote
    fun_cases FieldType.write field version type value <;> intro wrote
    case case1 | case2 | case3 | case4 | case5 =>
      cases wrote
      constructor
    case case10 =>
      obtain ⟨counted, wroteCount, wroteRest⟩ := except_bind_eq_ok_iff.mp wrote
      obtain ⟨others, wroteItems, appended⟩ :=
        except_bind_eq_ok_iff.mp wroteRest
      cases appended
      exact .array wroteCount wroteItems
    case case12 =>
      cases wrote
    all_goals
      constructor
      exact wrote
  · intro wrote
    cases wrote with
    | array wroteCount wroteItems =>
        rw [FieldType.write, wroteCount, wroteItems]
        rfl
    | _ =>
        first
        | rfl
        | assumption

end FieldType

/-- The first item is written before the others. -/
theorem writeEach_cons_eq_ok_iff {Item : Type}
    {write : Item → Except SchemaError Bytes} {item : Item} {rest : List Item}
    {written : Bytes} :
    writeEach write (item :: rest) = .ok written ↔
      ∃ first others,
        write item = .ok first ∧ writeEach write rest = .ok others ∧
          written = first ++ others := by
  rw [writeEach, except_bind_eq_ok_iff]
  constructor
  · rintro ⟨first, wroteFirst, wroteRest⟩
    obtain ⟨others, wroteOthers, appended⟩ :=
      except_bind_eq_ok_iff.mp wroteRest
    cases appended
    exact ⟨first, others, wroteFirst, wroteOthers, rfl⟩
  · rintro ⟨first, others, wroteFirst, wroteOthers, rfl⟩
    refine ⟨first, wroteFirst, ?_⟩
    rw [wroteOthers]
    rfl

namespace Schema

/-- An active field is written before the rest of the record. -/
theorem write_cons_eq_ok_iff {version : Int16} {name : String}
    {type : FieldType} {versions : VersionRange} {rest : Schema}
    {record : Record} {written : Bytes}
    (active : versions.contains version) :
    (Schema.cons name type versions rest).write version record = .ok written ↔
      ∃ value first others,
        record.get? name = some value ∧
          type.write name version value = .ok first ∧
          rest.write version record = .ok others ∧
          written = first ++ others := by
  rw [write, if_pos active]
  cases held : record.get? name with
  | none =>
      simp
  | some value =>
      constructor
      · intro wrote
        obtain ⟨first, wroteFirst, wroteRest⟩ :=
          except_bind_eq_ok_iff.mp wrote
        obtain ⟨others, wroteOthers, appended⟩ :=
          except_bind_eq_ok_iff.mp wroteRest
        cases appended
        exact ⟨value, first, others, rfl, wroteFirst, wroteOthers, rfl⟩
      · rintro ⟨_, first, others, same, wroteFirst, wroteOthers, rfl⟩
        cases same
        simp only [wroteFirst, wroteOthers]
        rfl

/-- A field that is not active is passed over. -/
theorem write_cons_of_inactive {version : Int16} {name : String}
    {type : FieldType} {versions : VersionRange} {rest : Schema}
    {record : Record} (inactive : ¬ versions.contains version) :
    (Schema.cons name type versions rest).write version record =
      rest.write version record := by
  rw [write, if_neg inactive]

end Schema

end BrokerSession
