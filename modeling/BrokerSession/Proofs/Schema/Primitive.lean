import BrokerSession.Proofs.Bytes
import BrokerSession.Proofs.Computation
import BrokerSession.Schema.Primitive

namespace BrokerSession.Decode

/-!
# Reading back the primitive types

Each reader accepts exactly what its writer produces: it returns a value and
leaves some bytes unread if and only if the input is the wire form of this
value followed by these bytes.
-/

/-- Taking succeeds exactly on inputs that begin with that many bytes. -/
theorem take_eq_ok_iff {field : String} {needed : Nat}
    {input taken rest : Bytes} :
    (take field needed).run input = .ok taken rest ↔
      taken.length = needed ∧ input = taken ++ rest := by
  constructor
  · intro succeeded
    simp only [EStateM.run, take] at succeeded
    split at succeeded
    · cases succeeded
    · next enough =>
        cases succeeded
        refine ⟨?_, (List.take_append_drop needed input).symm⟩
        rw [List.length_take] at enough ⊢
        omega
  · rintro ⟨sized, rfl⟩
    subst sized
    simp [EStateM.run, take]

/-- A reader that converts a field of fixed width accepts its wire forms. -/
private theorem converted_eq_ok_iff {Content : Type} {field : String} {width : Nat}
    {decode : Bytes → Content} {encode : Content → Bytes}
    (encodedLength : ∀ content, (encode content).length = width)
    (decode_encode : ∀ content, decode (encode content) = content)
    (encode_decode :
      ∀ {bytes : Bytes}, bytes.length = width → encode (decode bytes) = bytes)
    {input rest : Bytes} {content : Content} :
    (do return decode (← take field width) : Reader Content).run input =
        .ok content rest ↔
      input = encode content ++ rest := by
  rw [run_bind_eq_ok_iff]
  constructor
  · rintro ⟨taken, between, took, returned⟩
    obtain ⟨sized, rfl⟩ := take_eq_ok_iff.mp took
    cases returned
    rw [encode_decode sized]
  · rintro rfl
    refine ⟨encode content, rest,
      take_eq_ok_iff.mpr ⟨encodedLength content, rfl⟩, ?_⟩
    rw [decode_encode]
    rfl

theorem int8_eq_ok_iff {field : String} {input rest : Bytes} {value : Int8} :
    (int8 field).run input = .ok value rest ↔
      input = Bytes.ofInt8 value ++ rest :=
  converted_eq_ok_iff Bytes.length_ofInt8 Bytes.toInt8_ofInt8
    Bytes.ofInt8_toInt8

theorem int16_eq_ok_iff {field : String} {input rest : Bytes} {value : Int16} :
    (int16 field).run input = .ok value rest ↔
      input = Bytes.ofInt16 value ++ rest :=
  converted_eq_ok_iff Bytes.length_ofInt16 Bytes.toInt16_ofInt16
    Bytes.ofInt16_toInt16

theorem int32_eq_ok_iff {field : String} {input rest : Bytes} {value : Int32} :
    (int32 field).run input = .ok value rest ↔
      input = Bytes.ofInt32 value ++ rest :=
  converted_eq_ok_iff Bytes.length_ofInt32 Bytes.toInt32_ofInt32
    Bytes.ofInt32_toInt32

theorem int64_eq_ok_iff {field : String} {input rest : Bytes} {value : Int64} :
    (int64 field).run input = .ok value rest ↔
      input = Bytes.ofInt64 value ++ rest :=
  converted_eq_ok_iff Bytes.length_ofInt64 Bytes.toInt64_ofInt64
    Bytes.ofInt64_toInt64

/-- Only the bytes zero and one are booleans. -/
theorem boolean_eq_ok_iff {field : String} {input rest : Bytes} {value : Bool} :
    (boolean field).run input = .ok value rest ↔
      input = [if value then 1 else 0] ++ rest := by
  rw [boolean, run_bind_eq_ok_iff]
  constructor
  · rintro ⟨byte, between, read, returned⟩
    obtain rfl := int8_eq_ok_iff.mp read
    split at returned
    · next isZero =>
        cases returned
        subst isZero
        rfl
    · split at returned
      · next isOne =>
          cases returned
          subst isOne
          rfl
      · cases returned
  · rintro rfl
    cases value with
    | false =>
        exact ⟨0, rest, int8_eq_ok_iff.mpr rfl, rfl⟩
    | true =>
        exact ⟨1, rest, int8_eq_ok_iff.mpr rfl, rfl⟩

/-- A length below the sign bit is neither null nor negative. -/
private theorem int16_ofNat_nonneg {number : Nat} (fits : number < 2 ^ 15) :
    ¬ Int16.ofNat number < 0 := by
  rw [Int16.lt_iff_toInt_lt, Int16.toInt_ofNat_of_lt fits]
  simp

/-- A count below the sign bit is neither null nor negative. -/
private theorem int32_ofNat_nonneg {number : Nat} (fits : number < 2 ^ 31) :
    ¬ Int32.ofNat number < 0 := by
  rw [Int32.lt_iff_toInt_lt, Int32.toInt_ofNat_of_lt fits]
  simp

/-- A nullable string is read exactly from its wire forms. -/
theorem nullableString_eq_ok_iff {field : String} {input rest : Bytes}
    {value : Option String} :
    (nullableString field).run input = .ok value rest ↔
      ∃ written,
        Encode.nullableString field value = .ok written ∧
          input = written ++ rest := by
  rw [nullableString, run_bind_eq_ok_iff]
  constructor
  · rintro ⟨length, between, readLength, returned⟩
    obtain rfl := int16_eq_ok_iff.mp readLength
    split at returned
    · next isNull =>
        cases returned
        subst isNull
        exact ⟨_, rfl, rfl⟩
    · split at returned
      · cases returned
      · next nonneg =>
          obtain ⟨content, after, took, found⟩ :=
            run_bind_eq_ok_iff.mp returned
          obtain ⟨sized, rfl⟩ := take_eq_ok_iff.mp took
          split at found
          · next text isText =>
              cases found
              have textBytes := Bytes.ofString_of_toString? isText
              have lengthNonneg : 0 ≤ length := by
                simpa using nonneg
              have lengthBound := length.toNatClampNeg_lt
              have textLength : text.utf8ByteSize = length.toNatClampNeg := by
                rw [← Bytes.length_ofString, textBytes, sized]
              refine ⟨Bytes.ofInt16 length ++ content, ?_, by simp⟩
              rw [Encode.nullableString, Encode.string,
                if_pos (by rw [textLength, Encode.maxStringLength]; omega),
                textBytes, textLength, ← Bytes.ofInt16_ofNat lengthBound,
                Int16.ofNat_toNatClampNeg _ lengthNonneg]
          · cases found
  · rintro ⟨written, wrote, rfl⟩
    cases value with
    | none =>
        cases wrote
        exact ⟨-1, rest, int16_eq_ok_iff.mpr rfl, rfl⟩
    | some text =>
        simp only [Encode.nullableString, Encode.string] at wrote
        split at wrote
        · next fits =>
            cases wrote
            have lengthBound : text.utf8ByteSize < 2 ^ 15 :=
              Nat.lt_succ_of_le fits
            have nonneg := int16_ofNat_nonneg lengthBound
            refine ⟨Int16.ofNat text.utf8ByteSize,
              Bytes.ofString text ++ rest, int16_eq_ok_iff.mpr ?_, ?_⟩
            · rw [Bytes.ofInt16_ofNat lengthBound, List.append_assoc]
            · have notNull : Int16.ofNat text.utf8ByteSize ≠ -1 := by
                intro isNull
                exact nonneg (isNull ▸ by decide)
              rw [if_neg notNull, if_neg nonneg,
                Int16.toNatClampNeg_ofNat_of_lt lengthBound,
                run_bind_eq_ok_iff]
              refine ⟨Bytes.ofString text, rest,
                take_eq_ok_iff.mpr ⟨Bytes.length_ofString text, rfl⟩, ?_⟩
              rw [Bytes.toString?_ofString]
              rfl
        · cases wrote

/-- A string is read exactly from its wire form. -/
theorem string_eq_ok_iff {field : String} {input rest : Bytes} {value : String} :
    (string field).run input = .ok value rest ↔
      ∃ written,
        Encode.string field value = .ok written ∧ input = written ++ rest := by
  rw [string, run_bind_eq_ok_iff]
  constructor
  · rintro ⟨found, between, read, returned⟩
    cases found with
    | none =>
        cases returned
    | some text =>
        cases returned
        exact nullableString_eq_ok_iff.mp read
  · intro isWritten
    exact ⟨some value, rest, nullableString_eq_ok_iff.mpr isWritten, rfl⟩

/-- A count that is not negative is written as the integer it was read from. -/
private theorem count_toNatClampNeg {field : String} {length : Int32}
    (nonneg : ¬ length < 0) :
    Encode.count field length.toNatClampNeg = .ok (Bytes.ofInt32 length) := by
  have lengthNonneg : 0 ≤ length := by
    simpa using nonneg
  have lengthBound := length.toNatClampNeg_lt
  rw [Encode.count, if_pos (by rw [Encode.maxCount]; omega),
    Bytes.ofInt32_of_nonneg lengthNonneg]

/-- A written count is below the sign bit, so it reads as itself. -/
private theorem count_eq_ok {field : String} {number : Nat} {written : Bytes}
    (wrote : Encode.count field number = .ok written) :
    number < 2 ^ 31 ∧ written = Bytes.ofInt32 (Int32.ofNat number) := by
  rw [Encode.count] at wrote
  split at wrote
  · next fits =>
      cases wrote
      have numberBound : number < 2 ^ 31 := Nat.lt_succ_of_le fits
      exact ⟨numberBound, (Bytes.ofInt32_ofNat numberBound).symm⟩
  · cases wrote

/-- A count is read exactly from its wire form. -/
theorem count_eq_ok_iff {field : String} {input rest : Bytes} {number : Nat} :
    (count field).run input = .ok number rest ↔
      ∃ written,
        Encode.count field number = .ok written ∧ input = written ++ rest := by
  rw [count, run_bind_eq_ok_iff]
  constructor
  · rintro ⟨length, between, readLength, returned⟩
    obtain rfl := int32_eq_ok_iff.mp readLength
    split at returned
    · cases returned
    · next nonneg =>
        cases returned
        exact ⟨Bytes.ofInt32 length, count_toNatClampNeg nonneg, rfl⟩
  · rintro ⟨written, wrote, rfl⟩
    obtain ⟨fits, rfl⟩ := count_eq_ok wrote
    refine ⟨Int32.ofNat number, rest, int32_eq_ok_iff.mpr rfl, ?_⟩
    rw [if_neg (int32_ofNat_nonneg fits),
      Int32.toNatClampNeg_ofNat_of_lt fits]
    rfl

/-- A nullable byte string is read exactly from its wire forms. -/
theorem nullableBytes_eq_ok_iff {field : String} {input rest : Bytes}
    {value : Option Bytes} :
    (nullableBytes field).run input = .ok value rest ↔
      ∃ written,
        Encode.nullableBytes field value = .ok written ∧
          input = written ++ rest := by
  rw [nullableBytes, run_bind_eq_ok_iff]
  constructor
  · rintro ⟨length, between, readLength, returned⟩
    obtain rfl := int32_eq_ok_iff.mp readLength
    split at returned
    · next isNull =>
        cases returned
        subst isNull
        exact ⟨_, rfl, rfl⟩
    · split at returned
      · cases returned
      · next nonneg =>
          obtain ⟨content, after, took, found⟩ :=
            run_bind_eq_ok_iff.mp returned
          obtain ⟨sized, rfl⟩ := take_eq_ok_iff.mp took
          cases found
          refine ⟨Bytes.ofInt32 length ++ content, ?_, by simp⟩
          rw [Encode.nullableBytes, Encode.bytes, sized,
            count_toNatClampNeg nonneg]
          rfl
  · rintro ⟨written, wrote, rfl⟩
    cases value with
    | none =>
        cases wrote
        exact ⟨-1, rest, int32_eq_ok_iff.mpr rfl, rfl⟩
    | some content =>
        obtain ⟨counted, wroteCount, appended⟩ :=
          except_bind_eq_ok_iff.mp wrote
        cases appended
        obtain ⟨fits, rfl⟩ := count_eq_ok wroteCount
        have nonneg := int32_ofNat_nonneg fits
        refine ⟨Int32.ofNat content.length, content ++ rest,
          int32_eq_ok_iff.mpr (List.append_assoc ..), ?_⟩
        have notNull : Int32.ofNat content.length ≠ -1 := by
          intro isNull
          exact nonneg (isNull ▸ by decide)
        rw [if_neg notNull, if_neg nonneg,
          Int32.toNatClampNeg_ofNat_of_lt fits, run_bind_eq_ok_iff]
        exact ⟨content, rest, take_eq_ok_iff.mpr ⟨rfl, rfl⟩, rfl⟩

/-- A byte string is read exactly from its wire form. -/
theorem bytes_eq_ok_iff {field : String} {input rest value : Bytes} :
    (bytes field).run input = .ok value rest ↔
      ∃ written,
        Encode.bytes field value = .ok written ∧ input = written ++ rest := by
  rw [bytes, run_bind_eq_ok_iff]
  constructor
  · rintro ⟨found, between, read, returned⟩
    cases found with
    | none =>
        cases returned
    | some content =>
        cases returned
        exact nullableBytes_eq_ok_iff.mp read
  · intro isWritten
    exact ⟨some value, rest, nullableBytes_eq_ok_iff.mpr isWritten, rfl⟩

/-- The results of earlier runs stand before those of the remaining ones. -/
private theorem timesAfter_eq {Content : Type} (reader : Reader Content)
    (number : Nat) (done : List Content) (input : Bytes) :
    (timesAfter reader number done).run input =
      match (times reader number).run input with
      | .ok items rest => .ok (done.reverse ++ items) rest
      | .error failure rest => .error failure rest := by
  induction number generalizing done input with
  | zero =>
      simp [times, timesAfter]
  | succ number inductionHypothesis =>
      rw [times, timesAfter, timesAfter, EStateM.run_bind, EStateM.run_bind]
      cases reader.run input with
      | error failure rest =>
          rfl
      | ok content between =>
          simp only [inductionHypothesis]
          cases (times reader number).run between <;> simp

theorem times_zero_eq_ok_iff {Content : Type} {reader : Reader Content}
    {items : List Content} {input rest : Bytes} :
    (times reader 0).run input = .ok items rest ↔ items = [] ∧ input = rest := by
  rw [times, timesAfter, EStateM.run_pure]
  simp [eq_comm]

/-- One run more reads one item more, before all the others. -/
theorem times_succ_eq_ok_iff {Content : Type} {reader : Reader Content}
    {number : Nat} {items : List Content} {input rest : Bytes} :
    (times reader (number + 1)).run input = .ok items rest ↔
      ∃ first others between,
        reader.run input = .ok first between ∧
          (times reader number).run between = .ok others rest ∧
          items = first :: others := by
  rw [times, timesAfter, run_bind_eq_ok_iff]
  constructor
  · rintro ⟨first, between, readFirst, readOthers⟩
    rw [timesAfter_eq] at readOthers
    split at readOthers
    · next others after succeeded =>
        cases readOthers
        exact ⟨first, others, between, readFirst, succeeded, rfl⟩
    · cases readOthers
  · rintro ⟨first, others, between, readFirst, readOthers, rfl⟩
    refine ⟨first, between, readFirst, ?_⟩
    rw [timesAfter_eq, readOthers]
    rfl

end BrokerSession.Decode
