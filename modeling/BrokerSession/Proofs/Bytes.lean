import BrokerSession.Bytes
import Mathlib.Algebra.Group.Nat.Defs

namespace BrokerSession.Bytes

/-!
# Bytes, numbers and text

A big-endian field and the number it denotes determine each other, so a fixed
width integer is read back from its own bytes and written back to the bytes it
was read from.  The same holds for text and its UTF-8 form.
-/

/-! ## Big-endian numbers -/

private theorem foldl_eq (bytes : Bytes) (number : Nat) :
    bytes.foldl (fun number byte => number * 256 + byte.toNat) number =
      number * 256 ^ bytes.length + bytes.toNat := by
  induction bytes generalizing number with
  | nil =>
      simp [toNat]
  | cons byte rest inductionHypothesis =>
      simp only [toNat, List.foldl_cons, List.length_cons]
      rw [inductionHypothesis, inductionHypothesis (0 * 256 + byte.toNat),
        Nat.pow_succ]
      grind

/-- The first byte is the most significant one. -/
theorem toNat_cons (byte : UInt8) (rest : Bytes) :
    toNat (byte :: rest) = byte.toNat * 256 ^ rest.length + rest.toNat := by
  have unfolded := foldl_eq rest (0 * 256 + byte.toNat)
  rw [Nat.zero_mul, Nat.zero_add] at unfolded
  rw [← unfolded]
  simp [toNat]

/-- A byte string of some width denotes a number of that width. -/
theorem toNat_lt (bytes : Bytes) : bytes.toNat < 256 ^ bytes.length := by
  induction bytes with
  | nil =>
      simp [toNat]
  | cons byte rest inductionHypothesis =>
      rw [toNat_cons, List.length_cons, Nat.pow_succ]
      have byteBound : byte.toNat + 1 ≤ 256 := byte.toNat_lt
      have headBound :
          (byte.toNat + 1) * 256 ^ rest.length ≤
            256 * 256 ^ rest.length :=
        Nat.mul_le_mul_right _ byteBound
      rw [Nat.add_mul] at headBound
      omega

/-- A big-endian field denotes the part of the number that fits into it. -/
theorem toNat_bigEndian (width number : Nat) :
    (bigEndian width number).toNat = number % 256 ^ width := by
  induction width with
  | zero =>
      simp [bigEndian, toNat, Nat.mod_one]
  | succ width inductionHypothesis =>
      have headByte :
          (UInt8.ofNat (number >>> (8 * width))).toNat =
            number / 256 ^ width % 256 := by
        rw [UInt8.toNat_ofNat', Nat.shiftRight_eq_div_pow, Nat.pow_mul]
      rw [bigEndian, toNat_cons, length_bigEndian, inductionHypothesis,
        headByte, Nat.mod_pow_succ, Nat.mul_comm, Nat.add_comm]

/-- A number that fits into a big-endian field is read back from it. -/
theorem toNat_bigEndian_of_lt {width number : Nat}
    (fits : number < 256 ^ width) :
    (bigEndian width number).toNat = number := by
  rw [toNat_bigEndian, Nat.mod_eq_of_lt fits]

/-- Byte strings of one length that denote the same number are the same. -/
theorem eq_of_toNat_eq {left right : Bytes}
    (sameLength : left.length = right.length)
    (sameNumber : left.toNat = right.toNat) :
    left = right := by
  induction left generalizing right with
  | nil =>
      exact (List.eq_nil_of_length_eq_zero sameLength.symm).symm
  | cons leftByte leftRest inductionHypothesis =>
      cases right with
      | nil =>
          simp at sameLength
      | cons rightByte rightRest =>
          have restLength : leftRest.length = rightRest.length := by
            simpa using sameLength
          rw [toNat_cons, toNat_cons, restLength] at sameNumber
          have leftBound := toNat_lt leftRest
          have rightBound := toNat_lt rightRest
          rw [restLength] at leftBound
          have positive : 256 ^ rightRest.length > 0 :=
            Nat.pow_pos (by decide)
          have sameBytes : leftByte.toNat = rightByte.toNat := by
            have quotients :=
              congrArg (· / 256 ^ rightRest.length) sameNumber
            simpa [Nat.mul_comm _ (256 ^ _), Nat.mul_add_div positive,
              Nat.div_eq_of_lt leftBound,
              Nat.div_eq_of_lt rightBound] using quotients
          rw [sameBytes] at sameNumber
          rw [UInt8.toNat_inj.mp sameBytes,
            inductionHypothesis restLength (Nat.add_left_cancel sameNumber)]

/-- Writing the number that bytes denote gives the bytes back. -/
theorem bigEndian_toNat {bytes : Bytes} {width : Nat}
    (sized : bytes.length = width) :
    bigEndian width bytes.toNat = bytes := by
  apply eq_of_toNat_eq
  · rw [length_bigEndian, sized]
  · exact toNat_bigEndian_of_lt (sized ▸ toNat_lt bytes)

/-! ## Signed integers -/

/-- An 8-bit integer is read back from its byte. -/
@[simp] theorem toInt8_ofInt8 (value : Int8) : toInt8 (ofInt8 value) = value := by
  rw [toInt8, ofInt8, toNat_bigEndian_of_lt value.toUInt8.toNat_lt,
    UInt8.ofNat_toNat, Int8.toInt8_toUInt8]

/-- A 16-bit integer is read back from its bytes. -/
@[simp] theorem toInt16_ofInt16 (value : Int16) :
    toInt16 (ofInt16 value) = value := by
  rw [toInt16, ofInt16, toNat_bigEndian_of_lt value.toUInt16.toNat_lt,
    UInt16.ofNat_toNat, Int16.toInt16_toUInt16]

/-- A 32-bit integer is read back from its bytes. -/
@[simp] theorem toInt32_ofInt32 (value : Int32) :
    toInt32 (ofInt32 value) = value := by
  rw [toInt32, ofInt32, toNat_bigEndian_of_lt value.toUInt32.toNat_lt,
    UInt32.ofNat_toNat, Int32.toInt32_toUInt32]

/-- A 64-bit integer is read back from its bytes. -/
@[simp] theorem toInt64_ofInt64 (value : Int64) :
    toInt64 (ofInt64 value) = value := by
  rw [toInt64, ofInt64, toNat_bigEndian_of_lt value.toUInt64.toNat_lt,
    UInt64.ofNat_toNat, Int64.toInt64_toUInt64]

/-- The byte of an 8-bit integer that was read is the byte read. -/
theorem ofInt8_toInt8 {bytes : Bytes} (sized : bytes.length = 1) :
    ofInt8 bytes.toInt8 = bytes := by
  have fits : bytes.toNat < 256 ^ 1 := sized ▸ toNat_lt bytes
  rw [ofInt8, toInt8, UInt8.toUInt8_toInt8, UInt8.toNat_ofNat_of_lt' fits,
    bigEndian_toNat sized]

/-- The bytes of a 16-bit integer that was read are the bytes read. -/
theorem ofInt16_toInt16 {bytes : Bytes} (sized : bytes.length = 2) :
    ofInt16 bytes.toInt16 = bytes := by
  have fits : bytes.toNat < 256 ^ 2 := sized ▸ toNat_lt bytes
  rw [ofInt16, toInt16, UInt16.toUInt16_toInt16,
    UInt16.toNat_ofNat_of_lt' fits, bigEndian_toNat sized]

/-- The bytes of a 32-bit integer that was read are the bytes read. -/
theorem ofInt32_toInt32 {bytes : Bytes} (sized : bytes.length = 4) :
    ofInt32 bytes.toInt32 = bytes := by
  have fits : bytes.toNat < 256 ^ 4 := sized ▸ toNat_lt bytes
  rw [ofInt32, toInt32, UInt32.toUInt32_toInt32,
    UInt32.toNat_ofNat_of_lt' fits, bigEndian_toNat sized]

/-- The bytes of a 64-bit integer that was read are the bytes read. -/
theorem ofInt64_toInt64 {bytes : Bytes} (sized : bytes.length = 8) :
    ofInt64 bytes.toInt64 = bytes := by
  have fits : bytes.toNat < 256 ^ 8 := sized ▸ toNat_lt bytes
  rw [ofInt64, toInt64, UInt64.toUInt64_toInt64,
    UInt64.toNat_ofNat_of_lt' fits, bigEndian_toNat sized]

@[simp] theorem length_ofInt8 (value : Int8) : (ofInt8 value).length = 1 :=
  length_bigEndian _ _

@[simp] theorem length_ofInt16 (value : Int16) : (ofInt16 value).length = 2 :=
  length_bigEndian _ _

@[simp] theorem length_ofInt32 (value : Int32) : (ofInt32 value).length = 4 :=
  length_bigEndian _ _

@[simp] theorem length_ofInt64 (value : Int64) : (ofInt64 value).length = 8 :=
  length_bigEndian _ _

/-- A length below the sign bit is written like the 16-bit integer it is. -/
theorem ofInt16_ofNat {number : Nat} (fits : number < 2 ^ 15) :
    ofInt16 (Int16.ofNat number) = bigEndian 2 number := by
  rw [ofInt16, Int16.toUInt16_ofNat', UInt16.toNat_ofNat_of_lt']
  exact Nat.lt_trans fits (by decide)

/-- A length below the sign bit is written like the 32-bit integer it is. -/
theorem ofInt32_ofNat {number : Nat} (fits : number < 2 ^ 31) :
    ofInt32 (Int32.ofNat number) = bigEndian 4 number := by
  rw [ofInt32, Int32.toUInt32_ofNat', UInt32.toNat_ofNat_of_lt']
  exact Nat.lt_trans fits (by decide)

/-- A 32-bit integer that is not negative is written like the number it is. -/
theorem ofInt32_of_nonneg {value : Int32} (nonneg : 0 ≤ value) :
    ofInt32 value = bigEndian 4 value.toNatClampNeg := by
  have written := ofInt32_ofNat (Int32.toNatClampNeg_lt value)
  rw [Int32.ofNat_toNatClampNeg value nonneg] at written
  exact written

/-- Four bytes at the front are some 32-bit integer. -/
theorem exists_eq_ofInt32_append {bytes : Bytes} (enough : 4 ≤ bytes.length) :
    ∃ value others, bytes = ofInt32 value ++ others := by
  have sized : (bytes.take 4).length = 4 := by
    rw [List.length_take, Nat.min_eq_left enough]
  refine ⟨toInt32 (bytes.take 4), bytes.drop 4, ?_⟩
  rw [ofInt32_toInt32 sized, List.take_append_drop]

/-! ## Text -/

/-- Text is read back from its UTF-8 form. -/
@[simp] theorem toString?_ofString (text : String) :
    toString? (ofString text) = some text := by
  have valid : ByteArray.IsValidUTF8 ⟨(ofString text).toArray⟩ := by
    simpa [ofString] using text.isValidUTF8
  rw [toString?, String.fromUTF8?, dif_pos valid]
  simp [String.fromUTF8, ofString]

/-- The UTF-8 form of a text that was read is the bytes read. -/
theorem ofString_of_toString? {bytes : Bytes} {text : String}
    (isText : toString? bytes = some text) :
    ofString text = bytes := by
  unfold toString? String.fromUTF8? at isText
  split at isText
  · cases isText
    simp [ofString, String.fromUTF8]
  · cases isText

end BrokerSession.Bytes
