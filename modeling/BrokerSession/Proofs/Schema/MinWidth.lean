import BrokerSession.Proofs.Schema.Canonical
import BrokerSession.Proofs.Schema.Offence
import BrokerSession.Proofs.Schema.Rows
import Mathlib.Algebra.BigOperators.Ring.List
import Mathlib.Algebra.Ring.Nat
import Mathlib.Order.Bounds.Defs

namespace BrokerSession

/-!
# What items cost

A value takes up at least the bytes of its type's integers and length prefixes.
Nothing is read for less, so each item that an array announces has to be paid
for in bytes.  If no item is free of charge, a record holds no more items than
bytes were consumed for it, however deep its arrays are nested.
-/

/-! ## Arrays inside of values -/

mutual

/-- The arrays inside of a value at any depth, the value itself included. -/
def Value.arrays : Value → List (List Value)
  | .array items => items :: Value.arraysOfItems items
  | .struct record => Record.arrays record
  | _ => []
  termination_by structural value => value

/-- The arrays inside of the items of a list. -/
def Value.arraysOfItems : List Value → List (List Value)
  | [] => []
  | item :: rest => item.arrays ++ Value.arraysOfItems rest
  termination_by structural items => items

/-- The arrays inside of a record at any depth. -/
def Record.arrays : Record → List (List Value)
  | ⟨entries⟩ => Record.arraysOfEntries entries
  termination_by structural record => record

/-- The arrays inside of the values of entries. -/
def Record.arraysOfEntries : List (String × Value) → List (List Value)
  | [] => []
  | entry :: rest => Record.arraysOfEntry entry ++ Record.arraysOfEntries rest
  termination_by structural entries => entries

/-- The arrays inside of the value of an entry. -/
def Record.arraysOfEntry : String × Value → List (List Value)
  | (_, value) => value.arrays
  termination_by structural entry => entry

end

/-- How many items the arrays inside of a value have together. -/
def Value.elements (value : Value) : Nat :=
  (value.arrays.map List.length).sum

/-- How many items the arrays inside of a record have together. -/
def Record.elements (record : Record) : Nat :=
  ((record.arrays).map List.length).sum

theorem Value.arraysOfItems_eq_flatMap (items : List Value) :
    Value.arraysOfItems items = items.flatMap Value.arrays := by
  induction items with
  | nil =>
      rfl
  | cons item rest inductionHypothesis =>
      rw [Value.arraysOfItems, inductionHypothesis, List.flatMap_cons]

theorem Value.arrays_array (items : List Value) :
    (Value.array items).arrays = items :: items.flatMap Value.arrays := by
  rw [Value.arrays, Value.arraysOfItems_eq_flatMap]

theorem Record.arrays_eq_flatMap (record : Record) :
    record.arrays = record.values.flatMap Value.arrays := by
  rcases record with ⟨entries⟩
  rw [Record.arrays, Table.values]
  induction entries with
  | nil =>
      rfl
  | cons entry rest inductionHypothesis =>
      rw [Record.arraysOfEntries, Record.arraysOfEntry, inductionHypothesis,
        List.map_cons, List.flatMap_cons]

/-- The lists of several parts are as long together as those of each part. -/
private theorem sum_lengths_flatMap {Part Item : Type}
    (lists : Part → List (List Item)) (parts : List Part) :
    ((parts.flatMap lists).map List.length).sum =
      (parts.map fun part => ((lists part).map List.length).sum).sum := by
  rw [List.map_flatMap, List.flatMap_def, List.sum_flatten, List.map_map]
  rfl

theorem Value.elements_array (items : List Value) :
    (Value.array items).elements =
      items.length + (items.map Value.elements).sum := by
  rw [Value.elements, Value.arrays_array, List.map_cons, List.sum_cons,
    sum_lengths_flatMap]
  rfl

theorem Record.elements_eq_sum (record : Record) :
    record.elements = (record.values.map Value.elements).sum := by
  rw [Record.elements, Record.arrays_eq_flatMap, sum_lengths_flatMap]
  rfl

/-- A new value brings its own items and no others. -/
theorem Record.elements_insert_le {record : Record}
    (ordered : record.IsOrdered) (name : String) (value : Value) :
    Record.elements (record.insert name value) ≤
      record.elements + value.elements := by
  have weighed := Table.sum_values_insert Value.elements ordered name value
  rw [Record.elements_eq_sum, Record.elements_eq_sum]
  omega

/-! ## Widths that every value has -/

mutual

/-- How many bytes a value of a type takes up if it is as short as possible. -/
def FieldType.minWidth (version : Int16) : FieldType → Nat
  | .int8 | .boolean => 1
  | .int16 | .string | .nullableString => 2
  | .int32 | .bytes | .nullableBytes | .array _ => 4
  | .int64 => 8
  | .struct schema => schema.minWidth version

/-- How many bytes the active fields take up if they are as short as possible. -/
def Schema.minWidth (version : Int16) : Schema → Nat
  | .nil => 0
  | .cons _ type versions rest =>
      if versions.contains version then
        type.minWidth version + rest.minWidth version
      else
        rest.minWidth version

end

mutual

/-- Whether the items of each array inside of a type take up enough bytes. -/
def FieldType.itemsTake (least : Nat) (version : Int16) : FieldType → Bool
  | .array element =>
      decide (least ≤ element.minWidth version) &&
        element.itemsTake least version
  | .struct schema => schema.itemsTake least version
  | _ => true

/-- Whether the items of each array in an active field take up enough bytes. -/
def Schema.itemsTake (least : Nat) (version : Int16) : Schema → Bool
  | .nil => true
  | .cons _ type versions rest =>
      if versions.contains version then
        type.itemsTake least version && rest.itemsTake least version
      else
        rest.itemsTake least version

end

mutual

theorem FieldType.itemsTake_zero (version : Int16) :
    (type : FieldType) → type.itemsTake 0 version = true
  | .int8 | .int16 | .int32 | .int64 | .boolean | .string | .nullableString
  | .bytes | .nullableBytes => rfl
  | .array element => by
      simp [FieldType.itemsTake, FieldType.itemsTake_zero version element]
  | .struct schema => Schema.itemsTake_zero version schema

theorem Schema.itemsTake_zero (version : Int16) :
    (schema : Schema) → schema.itemsTake 0 version = true
  | .nil => rfl
  | .cons _ type _ rest => by
      simp [Schema.itemsTake, FieldType.itemsTake_zero version type,
        Schema.itemsTake_zero version rest]

end

/-! ## What a reader consumes -/

/-- Whether a reader consumes at least the price of what it returns. -/
def Reader.Charges {Content : Type} (reader : Reader Content)
    (price : Content → Nat) : Prop :=
  ∀ input content rest, reader.run input = .ok content rest →
    ∃ consumed, input = consumed ++ rest ∧ price content ≤ consumed.length

/-- Items that are charged for one by one are charged for together. -/
theorem Decode.charges_times {Content : Type} {reader : Reader Content}
    {price : Content → Nat} (charges : Reader.Charges reader price)
    (number : Nat) :
    Reader.Charges (times reader number)
      fun contents => (contents.map price).sum := by
  induction number with
  | zero =>
      intro input contents rest read
      obtain ⟨rfl, rfl⟩ := times_zero_eq_ok_iff.mp read
      exact ⟨[], rfl, Nat.le_refl 0⟩
  | succ number inductionHypothesis =>
      intro input contents rest read
      obtain ⟨first, others, between, readFirst, readOthers, rfl⟩ :=
        times_succ_eq_ok_iff.mp read
      obtain ⟨consumed, rfl, paid⟩ := charges _ _ _ readFirst
      obtain ⟨later, rfl, paidLater⟩ := inductionHypothesis _ _ _ readOthers
      refine ⟨consumed ++ later, (List.append_assoc ..).symm, ?_⟩
      rw [List.length_append]
      exact Nat.add_le_add paid paidLater

/-- How many bytes a value takes up if its items take up no more than they must. -/
def FieldType.price (least : Nat) (version : Int16) (type : FieldType)
    (value : Value) : Nat :=
  least * value.elements + type.minWidth version

/-- The price of items is that of what is inside of them and of each of them. -/
theorem FieldType.sum_price (least : Nat) (version : Int16) (type : FieldType)
    (items : List Value) :
    (items.map (type.price least version)).sum =
      least * (items.map Value.elements).sum +
        items.length * type.minWidth version := by
  unfold FieldType.price
  rw [List.sum_map_add, List.sum_map_mul_left, List.map_const',
    List.sum_replicate_nat]

mutual

/--
A value is read for no fewer bytes than its type is wide, and for as many more
as the items inside of it take up at least.
-/
theorem FieldType.charges_read (least : Nat) (field : String)
    (version : Int16) :
    (type : FieldType) → type.itemsTake least version = true →
      Reader.Charges (type.read field version) (type.price least version)
  | .int8, _ | .int16, _ | .int32, _ | .int64, _ | .boolean, _ | .string, _
  | .nullableString, _ | .bytes, _ | .nullableBytes, _ => by
      intro input value rest read
      obtain ⟨written, wrote, rfl⟩ :=
        FieldType.write_of_read field version _ rfl value input rest read
      have sized := FieldType.length_of_write field version _ value written
        wrote
      refine ⟨written, rfl, ?_⟩
      rw [sized, FieldType.price]
      cases FieldType.write_eq_ok_iff.mp wrote
      simp [Value.elements, Value.arrays, FieldType.minWidth, FieldType.width]
  | .array element, takes => by
      intro input value rest read
      rw [FieldType.itemsTake, Bool.and_eq_true, decide_eq_true_eq] at takes
      obtain ⟨enough, inside⟩ := takes
      rw [FieldType.read, run_bind_eq_ok_iff] at read
      obtain ⟨number, between, readCount, readItems⟩ := read
      obtain ⟨items, readEach, rfl⟩ := run_convert_eq_ok_iff.mp readItems
      obtain ⟨counted, wroteCount, rfl⟩ := Decode.count_eq_ok_iff.mp readCount
      obtain ⟨consumed, rfl, paid⟩ :=
        Decode.charges_times
          (FieldType.charges_read least field version element inside) number
          _ _ _ readEach
      refine ⟨counted ++ consumed, (List.append_assoc ..).symm, ?_⟩
      have prefixed := Encode.length_of_count wroteCount
      -- An item pays for what is inside of it, and with its width for itself.
      have each := Nat.mul_le_mul_left items.length enough
      simp only [FieldType.sum_price] at paid
      rw [FieldType.price, Value.elements_array, FieldType.minWidth,
        List.length_append, prefixed, Nat.mul_add,
        Nat.mul_comm least items.length]
      omega
  | .struct schema, takes => by
      intro input value rest read
      obtain ⟨record, readRecord, rfl⟩ := run_convert_eq_ok_iff.mp read
      obtain ⟨consumed, rfl, paid⟩ :=
        Schema.charges_readInto least version schema takes ∅ record _ _
          List.Pairwise.nil readRecord
      exact ⟨consumed, rfl, Nat.le_trans paid (Nat.le_of_eq (Nat.zero_add _))⟩

/--
A record is charged for what is read into it.

A field that is read once more replaces the value that was read before, so the
record may end up with fewer items than were paid for.
-/
theorem Schema.charges_readInto (least : Nat) (version : Int16) :
    (schema : Schema) → schema.itemsTake least version = true →
      (held record : Record) → (input rest : Bytes) → held.IsOrdered →
        (schema.readInto version held).run input = .ok record rest →
          ∃ consumed, input = consumed ++ rest ∧
            least * record.elements + schema.minWidth version ≤
              least * held.elements + consumed.length
  | .nil, _, held, record, input, rest, _, read => by
      cases read
      exact ⟨[], rfl, Nat.le_refl _⟩
  | .cons name type versions others, takes, held, record, input, rest, ordered,
      read => by
      rw [Schema.itemsTake] at takes
      rw [Schema.minWidth]
      by_cases active : versions.contains version = true
      · rw [if_pos active, Bool.and_eq_true] at takes
        obtain ⟨value, between, readValue, readOthers⟩ :=
          (Schema.readInto_cons_eq_ok_iff active).mp read
        obtain ⟨first, rfl, paidFirst⟩ :=
          FieldType.charges_read least name version type takes.1 _ _ _
            readValue
        obtain ⟨later, rfl, paidLater⟩ :=
          Schema.charges_readInto least version others takes.2 _ record _ _
            (Table.isOrdered_insert ordered name value) readOthers
        have brought := Nat.mul_le_mul_left least
          (Record.elements_insert_le ordered name value)
        refine ⟨first ++ later, (List.append_assoc ..).symm, ?_⟩
        rw [FieldType.price] at paidFirst
        rw [Nat.mul_add] at brought
        rw [if_pos active, List.length_append]
        omega
      · rw [if_neg active] at takes ⊢
        rw [Schema.readInto, if_neg active] at read
        exact Schema.charges_readInto least version others takes held record
          input rest ordered read

end

/-- A value of any type is read for at least the bytes that the type is wide. -/
theorem FieldType.charges_minWidth (field : String) (version : Int16)
    (type : FieldType) :
    Reader.Charges (type.read field version)
      fun _ => type.minWidth version := by
  intro input value rest read
  obtain ⟨consumed, same, paid⟩ :=
    type.charges_read 0 field version (type.itemsTake_zero version) input value
      rest read
  exact ⟨consumed, same, Nat.le_trans (Nat.le_add_left _ _) paid⟩

/-- Items are read for at least the bytes that their type is wide, each. -/
theorem FieldType.length_mul_le_of_times {field : String} {version : Int16}
    {element : FieldType} {number : Nat} {input rest : Bytes}
    {items : List Value}
    (read :
      (Decode.times (element.read field version) number).run input =
        .ok items rest) :
    ∃ consumed, input = consumed ++ rest ∧
      items.length * element.minWidth version ≤ consumed.length := by
  obtain ⟨consumed, same, paid⟩ :=
    Decode.charges_times (element.charges_minWidth field version) number input
      items rest read
  simp only [List.map_const', List.sum_replicate_nat] at paid
  exact ⟨consumed, same, paid⟩

/-- A record holds no more items than bytes were consumed for it. -/
theorem Schema.elements_le_of_read {version : Int16} {schema : Schema}
    {buffer rest : Bytes} {record : Record}
    (takes : schema.itemsTake 1 version = true)
    (read : (schema.read version).run buffer = .ok record rest) :
    ∃ consumed, buffer = consumed ++ rest ∧
      record.elements ≤ consumed.length := by
  obtain ⟨consumed, same, paid⟩ :=
    Schema.charges_readInto 1 version schema takes ∅ record buffer rest
      List.Pairwise.nil read
  have none : Record.elements ∅ = 0 := rfl
  refine ⟨consumed, same, ?_⟩
  omega

/-! ## The shortest values -/

mutual

/-- Zeros are read as a value: zero, false, nothing in it, or no items. -/
theorem FieldType.exists_read_zeros (field : String) (version : Int16) :
    (type : FieldType) → (rest : Bytes) →
      ∃ value,
        (type.read field version).run
            (List.replicate (type.minWidth version) 0 ++ rest) =
          .ok value rest
  | .int8, _ | .int16, _ | .int32, _ | .int64, _ | .boolean, _ | .string, _
  | .nullableString, _ | .bytes, _ | .nullableBytes, _ | .array _, _ =>
      ⟨_, rfl⟩
  | .struct schema, rest => by
      obtain ⟨record, read⟩ :=
        Schema.exists_readInto_zeros version schema ∅ rest
      exact ⟨.struct record, run_convert_eq_ok_iff.mpr ⟨record, read, rfl⟩⟩

/-- Zeros are read as a record. -/
theorem Schema.exists_readInto_zeros (version : Int16) :
    (schema : Schema) → (held : Record) → (rest : Bytes) →
      ∃ record,
        (schema.readInto version held).run
            (List.replicate (schema.minWidth version) 0 ++ rest) =
          .ok record rest
  | .nil, held, _ => ⟨held, rfl⟩
  | .cons name type versions others, held, rest => by
      rw [Schema.readInto, Schema.minWidth]
      split
      · rw [List.replicate_add, List.append_assoc]
        obtain ⟨value, readValue⟩ :=
          FieldType.exists_read_zeros name version type
            (List.replicate (others.minWidth version) 0 ++ rest)
        obtain ⟨record, readOthers⟩ :=
          Schema.exists_readInto_zeros version others
            (held.insert name value) rest
        exact ⟨record, run_bind_eq_ok_iff.mpr
          ⟨value, _, readValue, readOthers⟩⟩
      · exact Schema.exists_readInto_zeros version others held rest

end

/-- The numbers of bytes that are read as a value of a type. -/
def FieldType.sizes (field : String) (version : Int16) (type : FieldType) :
    Set Nat :=
  fun size =>
    ∃ consumed value rest,
      (type.read field version).run (consumed ++ rest) = .ok value rest ∧
        consumed.length = size

/-- No value is shorter than its type is wide, and one is no longer. -/
theorem FieldType.isLeast_minWidth (field : String) (version : Int16)
    (type : FieldType) :
    IsLeast (type.sizes field version) (type.minWidth version) := by
  constructor
  · obtain ⟨value, read⟩ := type.exists_read_zeros field version []
    exact ⟨_, value, [], read, List.length_replicate⟩
  · rintro size ⟨consumed, value, rest, read, rfl⟩
    obtain ⟨spent, same, paid⟩ :=
      type.charges_minWidth field version _ value rest read
    rw [List.append_cancel_right same]
    exact paid

end BrokerSession
