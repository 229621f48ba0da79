import BrokerSession.Bytes
import BrokerSession.Schema.Error
import BrokerSession.Table

namespace BrokerSession

/-!
# Values and records

A record maps field names to values, listed by name.  A value carries the type
it was made with, and every typed getter refuses a value of another type.
-/

/-- A field value, tagged with its type. -/
inductive Value where
  | int8 (value : Int8)
  | int16 (value : Int16)
  | int32 (value : Int32)
  | int64 (value : Int64)
  | boolean (value : Bool)
  | string (value : String)
  | nullableString (value : Option String)
  | bytes (value : Bytes)
  | nullableBytes (value : Option Bytes)
  | array (items : List Value)
  | struct (record : Table String Value)
  deriving Repr

/-- A record: field names with their values. -/
abbrev Record := Table String Value

namespace Value

mutual

/-- Whether two values have the same type and content. -/
def same : Value → Value → Bool
  | .int8 left, .int8 right => left = right
  | .int16 left, .int16 right => left = right
  | .int32 left, .int32 right => left = right
  | .int64 left, .int64 right => left = right
  | .boolean left, .boolean right => left = right
  | .string left, .string right => left = right
  | .nullableString left, .nullableString right => left = right
  | .bytes left, .bytes right => left = right
  | .nullableBytes left, .nullableBytes right => left = right
  | .array left, .array right => sameItems left right
  | .struct left, .struct right => sameRecord left right
  | _, _ => false
  termination_by structural value => value

/-- Whether two lists hold the same values in the same order. -/
def sameItems : List Value → List Value → Bool
  | [], [] => true
  | left :: lefts, right :: rights => same left right && sameItems lefts rights
  | _, _ => false
  termination_by structural items => items

/-- Whether two records hold the same values under the same names. -/
def sameRecord : Table String Value → Table String Value → Bool
  | ⟨left⟩, ⟨right⟩ => sameEntries left right
  termination_by structural record => record

/-- Whether two entry lists agree name by name and value by value. -/
def sameEntries : List (String × Value) → List (String × Value) → Bool
  | [], [] => true
  | left :: lefts, right :: rights =>
      sameEntry left right && sameEntries lefts rights
  | _, _ => false
  termination_by structural entries => entries

/-- Whether two entries agree in name and value. -/
def sameEntry : String × Value → String × Value → Bool
  | (leftName, left), (rightName, right) =>
      leftName = rightName && same left right
  termination_by structural entry => entry

end

/-- The content of a signed 8-bit value. -/
def int8? : Value → Option Int8
  | .int8 value => some value
  | _ => none

def int16? : Value → Option Int16
  | .int16 value => some value
  | _ => none

def int32? : Value → Option Int32
  | .int32 value => some value
  | _ => none

def int64? : Value → Option Int64
  | .int64 value => some value
  | _ => none

def boolean? : Value → Option Bool
  | .boolean value => some value
  | _ => none

def string? : Value → Option String
  | .string value => some value
  | _ => none

def nullableString? : Value → Option (Option String)
  | .nullableString value => some value
  | _ => none

def bytes? : Value → Option Bytes
  | .bytes value => some value
  | _ => none

def nullableBytes? : Value → Option (Option Bytes)
  | .nullableBytes value => some value
  | _ => none

def array? : Value → Option (List Value)
  | .array items => some items
  | _ => none

def struct? : Value → Option Record
  | .struct record => some record
  | _ => none

end Value

namespace Record

/--
Look a field up as one type.

An absent field is reported for version `-1`, because a getter knows no
version; a value that `project` refuses is reported under the `expected` name.
-/
def require {Content : Type}
    (record : Record) (field expected : String)
    (project : Value → Option Content) :
    Except SchemaError Content :=
  match record.get? field with
  | none => .error (.missingField field (-1))
  | some value =>
      match project value with
      | some content => .ok content
      | none => .error (.typeMismatch field expected)

/-- The signed 8-bit value of a field. -/
def int8 (record : Record) (field : String) : Except SchemaError Int8 :=
  record.require field "int8" Value.int8?

def int16 (record : Record) (field : String) : Except SchemaError Int16 :=
  record.require field "int16" Value.int16?

def int32 (record : Record) (field : String) : Except SchemaError Int32 :=
  record.require field "int32" Value.int32?

def int64 (record : Record) (field : String) : Except SchemaError Int64 :=
  record.require field "int64" Value.int64?

def boolean (record : Record) (field : String) : Except SchemaError Bool :=
  record.require field "boolean" Value.boolean?

def string (record : Record) (field : String) : Except SchemaError String :=
  record.require field "string" Value.string?

def nullableString (record : Record) (field : String) :
    Except SchemaError (Option String) :=
  record.require field "nullable string" Value.nullableString?

def bytes (record : Record) (field : String) : Except SchemaError Bytes :=
  record.require field "bytes" Value.bytes?

def nullableBytes (record : Record) (field : String) :
    Except SchemaError (Option Bytes) :=
  record.require field "nullable bytes" Value.nullableBytes?

def array (record : Record) (field : String) :
    Except SchemaError (List Value) :=
  record.require field "array" Value.array?

/-- The items of an array field, all of one type. -/
def arrayOf {Content : Type}
    (record : Record) (field expected : String)
    (project : Value → Option Content) :
    Except SchemaError (List Content) := do
  (← record.array field).mapM fun item =>
    match project item with
    | some content => .ok content
    | none => .error (.typeMismatch field expected)

def structArray (record : Record) (field : String) :
    Except SchemaError (List Record) :=
  record.arrayOf field "struct" Value.struct?

end Record

end BrokerSession
