namespace BrokerSession

/-!
# Byte strings

Everything that crosses the wire is a list of bytes.  Integers travel with
their most significant byte first in two's complement, and text travels as
strict UTF-8.
-/

/-- A finite byte string. -/
abbrev Bytes := List UInt8

namespace Bytes

/-- The low `width` bytes of a number, most significant byte first. -/
def bigEndian : (width : Nat) → (number : Nat) → Bytes
  | 0, _ => []
  | width + 1, number =>
      UInt8.ofNat (number >>> (8 * width)) :: bigEndian width number

/-- The number that a byte string denotes, most significant byte first. -/
def toNat (bytes : Bytes) : Nat :=
  bytes.foldl (fun number byte => number * 256 + byte.toNat) 0

def ofInt8 (value : Int8) : Bytes :=
  bigEndian 1 value.toUInt8.toNat

/-- Two bytes holding a signed 16-bit integer. -/
def ofInt16 (value : Int16) : Bytes :=
  bigEndian 2 value.toUInt16.toNat

def ofInt32 (value : Int32) : Bytes :=
  bigEndian 4 value.toUInt32.toNat

def ofInt64 (value : Int64) : Bytes :=
  bigEndian 8 value.toUInt64.toNat

def toInt8 (bytes : Bytes) : Int8 :=
  (UInt8.ofNat bytes.toNat).toInt8

/-- The signed 16-bit integer held by two bytes. -/
def toInt16 (bytes : Bytes) : Int16 :=
  (UInt16.ofNat bytes.toNat).toInt16

def toInt32 (bytes : Bytes) : Int32 :=
  (UInt32.ofNat bytes.toNat).toInt32

def toInt64 (bytes : Bytes) : Int64 :=
  (UInt64.ofNat bytes.toNat).toInt64

/-- The UTF-8 form of a text. -/
def ofString (text : String) : Bytes :=
  text.toByteArray.data.toList

/-- The text whose UTF-8 form is the given bytes, if there is one. -/
def toString? (bytes : Bytes) : Option String :=
  String.fromUTF8? ⟨bytes.toArray⟩

/-- A big-endian field is exactly as wide as asked. -/
@[simp] theorem length_bigEndian (width number : Nat) :
    (bigEndian width number).length = width := by
  induction width with
  | zero => rfl
  | succ width inductionHypothesis =>
      simp [bigEndian, inductionHypothesis]

/-- Encoded text is as long as its UTF-8 size says. -/
@[simp] theorem length_ofString (text : String) :
    (ofString text).length = text.utf8ByteSize := by
  simp [ofString]

end Bytes

end BrokerSession
