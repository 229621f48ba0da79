import BrokerSession.Proofs.Schema.Primitive
import BrokerSession.Proofs.Schema.Writing

namespace BrokerSession

/-!
# Fields and items in a row

A record is written and read field by field, and a list item by item.  What is
known of a single field or item carries over to the row.
-/

/-! ## Fields -/

/-- An active field that is held is written before the rest of the record. -/
theorem Schema.write_cons_eq_ok {version : Int16} {name : String}
    {type : FieldType} {versions : VersionRange} {rest : Schema}
    {record : Record} {value : Value} {first others : Bytes}
    (active : versions.contains version)
    (held : record.get? name = some value)
    (wrote : type.write name version value = .ok first)
    (wroteRest : rest.write version record = .ok others) :
    (Schema.cons name type versions rest).write version record =
      .ok (first ++ others) :=
  (write_cons_eq_ok_iff active).mpr
    ⟨value, first, others, held, wrote, wroteRest, rfl⟩

/-- An active field is read before the rest of the record. -/
theorem Schema.readInto_cons_eq_ok_iff {version : Int16} {name : String}
    {type : FieldType} {versions : VersionRange} {rest : Schema}
    {record result : Record} {input after : Bytes}
    (active : versions.contains version) :
    ((Schema.cons name type versions rest).readInto version record).run input =
        .ok result after ↔
      ∃ value between,
        (type.read name version).run input = .ok value between ∧
          (rest.readInto version (record.insert name value)).run between =
            .ok result after := by
  rw [readInto, if_pos active, run_bind_eq_ok_iff]

/-! ## Single fields -/

/-- A text that is not too long is written after its length. -/
theorem Encode.string_eq_ok_iff {field text : String} {written : Bytes} :
    Encode.string field text = .ok written ↔
      text.utf8ByteSize ≤ maxStringLength ∧
        written =
          Bytes.bigEndian 2 text.utf8ByteSize ++ Bytes.ofString text := by
  rw [Encode.string]
  split
  · next fits =>
      simp [fits, eq_comm]
  · next long =>
      simp [long]

/-- A count that is not too large is written in four bytes. -/
theorem Encode.count_eq_ok_iff {field : String} {number : Nat}
    {written : Bytes} :
    Encode.count field number = .ok written ↔
      number ≤ maxCount ∧ written = Bytes.bigEndian 4 number := by
  rw [Encode.count]
  split
  · next fits =>
      simp [fits, eq_comm]
  · next many =>
      simp [many]

namespace FieldType

variable {field : String} {version : Int16} {input rest : Bytes}
  {value : Value}

/-- A number is read exactly from its two bytes. -/
theorem read_int16_eq_ok_iff :
    (FieldType.int16.read field version).run input = .ok value rest ↔
      ∃ number,
        input = Bytes.ofInt16 number ++ rest ∧ value = .int16 number := by
  rw [FieldType.read, run_convert_eq_ok_iff]
  simp only [Decode.int16_eq_ok_iff]

/-- A number is read exactly from its four bytes. -/
theorem read_int32_eq_ok_iff :
    (FieldType.int32.read field version).run input = .ok value rest ↔
      ∃ number,
        input = Bytes.ofInt32 number ++ rest ∧ value = .int32 number := by
  rw [FieldType.read, run_convert_eq_ok_iff]
  simp only [Decode.int32_eq_ok_iff]

/-- A text is read exactly from its length and its bytes. -/
theorem read_string_eq_ok_iff :
    (FieldType.string.read field version).run input = .ok value rest ↔
      ∃ text,
        text.utf8ByteSize ≤ Encode.maxStringLength ∧
          input =
            Bytes.bigEndian 2 text.utf8ByteSize ++ Bytes.ofString text ++
              rest ∧
          value = .string text := by
  rw [FieldType.read, run_convert_eq_ok_iff]
  simp only [Decode.string_eq_ok_iff, Encode.string_eq_ok_iff]
  simp [and_assoc]

end FieldType

/-! ## Items -/

/-- Items that are written one by one are written one after the other. -/
theorem writeEach_map_eq_ok {Item Content : Type}
    {write : Content → Except SchemaError Bytes} {make : Item → Content}
    {wire : Item → Bytes} {items : List Item}
    (wrote : ∀ item ∈ items, write (make item) = .ok (wire item)) :
    writeEach write (items.map make) = .ok (items.flatMap wire) := by
  induction items with
  | nil =>
      rfl
  | cons item rest inductionHypothesis =>
      obtain ⟨wroteFirst, wroteOthers⟩ := List.forall_mem_cons.mp wrote
      exact writeEach_cons_eq_ok_iff.mpr
        ⟨_, _, wroteFirst, inductionHypothesis wroteOthers, rfl⟩

/-- A row of items is read exactly from the row of their wire forms. -/
theorem Decode.times_eq_ok_iff {Item Content : Type} {reader : Reader Content}
    {fits : Item → Prop} {wire : Item → Bytes} {convert : Item → Content}
    (single : ∀ {input rest : Bytes} {content : Content},
      reader.run input = .ok content rest ↔
        ∃ item, fits item ∧ input = wire item ++ rest ∧
          content = convert item)
    {number : Nat} {input rest : Bytes} {contents : List Content} :
    (times reader number).run input = .ok contents rest ↔
      ∃ items : List Item,
        items.length = number ∧ (∀ item ∈ items, fits item) ∧
          input = items.flatMap wire ++ rest ∧
          contents = items.map convert := by
  induction number generalizing input contents with
  | zero =>
      rw [times_zero_eq_ok_iff]
      constructor
      · rintro ⟨rfl, rfl⟩
        exact ⟨[], rfl, nofun, rfl, rfl⟩
      · rintro ⟨items, none, -, rfl, rfl⟩
        rw [List.length_eq_zero_iff.mp none]
        exact ⟨rfl, rfl⟩
  | succ number inductionHypothesis =>
      rw [times_succ_eq_ok_iff]
      constructor
      · rintro ⟨first, others, between, readFirst, readOthers, rfl⟩
        obtain ⟨item, itemFits, rfl, rfl⟩ := single.mp readFirst
        obtain ⟨items, sized, itemsFit, rfl, rfl⟩ :=
          inductionHypothesis.mp readOthers
        refine ⟨item :: items, congrArg (· + 1) sized,
          List.forall_mem_cons.mpr ⟨itemFits, itemsFit⟩, ?_, rfl⟩
        rw [List.flatMap_cons, List.append_assoc]
      · rintro ⟨items, sized, itemsFit, rfl, rfl⟩
        cases items with
        | nil =>
            cases sized
        | cons item others =>
            obtain ⟨itemFits, othersFit⟩ := List.forall_mem_cons.mp itemsFit
            rw [List.flatMap_cons, List.append_assoc]
            exact ⟨_, _, _, single.mpr ⟨item, itemFits, rfl, rfl⟩,
              inductionHypothesis.mpr
                ⟨others, Nat.succ.inj sized, othersFit, rfl, rfl⟩, rfl⟩

end BrokerSession
