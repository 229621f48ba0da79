import BrokerSession.Bytes
import BrokerSession.Schema.Error

namespace BrokerSession

/-!
# Wire forms of the primitive types

Fixed-width integers are big-endian.  A string has a two-byte length and a
byte string a four-byte one; the length `-1` stands for null.  `Encode` holds
the writers, which return the bytes to append, and `Decode` the readers, which
keep what they consumed even when they fail.
-/

/-- A reader over the bytes that are left; a failure keeps what was consumed. -/
abbrev Reader := EStateM SchemaError Bytes

namespace Encode

/-- The largest number of bytes or elements that a four-byte count holds. -/
def maxCount : Nat := 2147483647

/-- The longest string, in bytes, that a two-byte length holds. -/
def maxStringLength : Nat := 32767

/-- A four-byte count of bytes or elements. -/
def count (field : String) (number : Nat) : Except SchemaError Bytes :=
  if number ≤ maxCount then .ok (Bytes.bigEndian 4 number)
  else .error (.invalidLength field (-1))

/-- A two-byte length followed by the UTF-8 text. -/
def string (field : String) (text : String) : Except SchemaError Bytes :=
  if text.utf8ByteSize ≤ maxStringLength then
    .ok (Bytes.bigEndian 2 text.utf8ByteSize ++ Bytes.ofString text)
  else .error (.stringTooLong field text.utf8ByteSize)

/-- A string, or the length `-1` alone for null. -/
def nullableString (field : String) :
    Option String → Except SchemaError Bytes
  | some text => string field text
  | none => .ok (Bytes.ofInt16 (-1))

/-- A four-byte length followed by the bytes. -/
def bytes (field : String) (content : Bytes) : Except SchemaError Bytes := do
  return (← count field content.length) ++ content

/-- A byte string, or the length `-1` alone for null. -/
def nullableBytes (field : String) :
    Option Bytes → Except SchemaError Bytes
  | some content => bytes field content
  | none => .ok (Bytes.ofInt32 (-1))

end Encode

namespace Decode

/--
Take exactly `needed` bytes, or consume nothing and report how many are left.

Only the first `needed` cells of the input are looked at.
-/
def take (field : String) (needed : Nat) : Reader Bytes := fun input =>
  let taken := input.take needed
  if taken.length < needed then
    .error (.bufferUnderrun field needed taken.length) input
  else
    .ok taken (input.drop needed)

/-- Read a signed 8-bit integer. -/
def int8 (field : String) : Reader Int8 := do
  return Bytes.toInt8 (← take field 1)

def int16 (field : String) : Reader Int16 := do
  return Bytes.toInt16 (← take field 2)

def int32 (field : String) : Reader Int32 := do
  return Bytes.toInt32 (← take field 4)

def int64 (field : String) : Reader Int64 := do
  return Bytes.toInt64 (← take field 8)

/-- Read a boolean, refusing every byte but zero and one. -/
def boolean (field : String) : Reader Bool := do
  let value ← int8 field
  if value = 0 then return false
  else if value = 1 then return true
  else throw (.invalidBoolean field value)

/-- Read a string, or null for the length `-1`. -/
def nullableString (field : String) : Reader (Option String) := do
  let length ← int16 field
  if length = -1 then return none
  else if length < 0 then throw (.invalidLength field length.toInt32)
  else
    match Bytes.toString? (← take field length.toNatClampNeg) with
    | some text => return some text
    | none => throw (.invalidString field)

/-- Read a string, refusing null. -/
def string (field : String) : Reader String := do
  match ← nullableString field with
  | some text => return text
  | none => throw (.invalidLength field (-1))

/-- Read a byte string, or null for the length `-1`. -/
def nullableBytes (field : String) : Reader (Option Bytes) := do
  let length ← int32 field
  if length = -1 then return none
  else if length < 0 then throw (.invalidLength field length)
  else return some (← take field length.toNatClampNeg)

/-- Read a byte string, refusing null. -/
def bytes (field : String) : Reader Bytes := do
  match ← nullableBytes field with
  | some content => return content
  | none => throw (.invalidLength field (-1))

/-- Read the number of elements of an array. -/
def count (field : String) : Reader Nat := do
  let number ← int32 field
  if number < 0 then throw (.invalidLength field number)
  else return number.toNatClampNeg

/-- Run a reader a number of times, adding its results to those before. -/
def timesAfter {Content : Type} (reader : Reader Content) :
    Nat → List Content → Reader (List Content)
  | 0, done => return done.reverse
  | number + 1, done => do
      let content ← reader
      timesAfter reader number (content :: done)

/-- Run a reader a number of times and list its results. -/
def times {Content : Type} (reader : Reader Content) (number : Nat) :
    Reader (List Content) :=
  timesAfter reader number []

end Decode

end BrokerSession
