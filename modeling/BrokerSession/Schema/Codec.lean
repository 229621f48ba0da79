import BrokerSession.Schema.Basic
import BrokerSession.Schema.Primitive
import BrokerSession.Schema.Value

namespace BrokerSession

/-!
# Writing and reading records

Both directions walk the fields of a schema in wire order and pass over those
that are not active at the version in use, so a field of a later version shifts
no bytes of an earlier one.  A record may hold more fields than are written,
but every active field has to be there with a value of its type.
-/

/-- Write the items of a list one after the other. -/
def writeEach {Item : Type} (write : Item → Except SchemaError Bytes) :
    List Item → Except SchemaError Bytes
  | [] => .ok []
  | item :: rest => do
      let bytes ← write item
      return bytes ++ (← writeEach write rest)

mutual

/-- The wire form of a value under the name of its field. -/
def FieldType.write (field : String) (version : Int16) :
    FieldType → Value → Except SchemaError Bytes
  | .int8, .int8 value => .ok (Bytes.ofInt8 value)
  | .int16, .int16 value => .ok (Bytes.ofInt16 value)
  | .int32, .int32 value => .ok (Bytes.ofInt32 value)
  | .int64, .int64 value => .ok (Bytes.ofInt64 value)
  | .boolean, .boolean value => .ok [if value then 1 else 0]
  | .string, .string value => Encode.string field value
  | .nullableString, .nullableString value =>
      Encode.nullableString field value
  | .bytes, .bytes value => Encode.bytes field value
  | .nullableBytes, .nullableBytes value => Encode.nullableBytes field value
  | .array element, .array items => do
      let count ← Encode.count field items.length
      return count ++ (← writeEach (element.write field version) items)
  | .struct schema, .struct record => schema.write version record
  | type, _ => .error (.typeMismatch field type.name)

/-- The wire form of a record: its active fields in wire order. -/
def Schema.write (version : Int16) :
    Schema → Record → Except SchemaError Bytes
  | .nil, _ => .ok []
  | .cons name type versions rest, record =>
      if versions.contains version then
        match record.get? name with
        | none => .error (.missingField name version)
        | some value => do
            let bytes ← type.write name version value
            return bytes ++ (← rest.write version record)
      else
        rest.write version record

end

mutual

/-- Read a value of a type under the name of its field. -/
def FieldType.read (field : String) (version : Int16) :
    FieldType → Reader Value
  | .int8 => return .int8 (← Decode.int8 field)
  | .int16 => return .int16 (← Decode.int16 field)
  | .int32 => return .int32 (← Decode.int32 field)
  | .int64 => return .int64 (← Decode.int64 field)
  | .boolean => return .boolean (← Decode.boolean field)
  | .string => return .string (← Decode.string field)
  | .nullableString => return .nullableString (← Decode.nullableString field)
  | .bytes => return .bytes (← Decode.bytes field)
  | .nullableBytes => return .nullableBytes (← Decode.nullableBytes field)
  | .array element => do
      let count ← Decode.count field
      return .array (← Decode.times (element.read field version) count)
  | .struct schema => return .struct (← schema.readInto version ∅)

/-- Read the active fields in wire order into a record. -/
def Schema.readInto (version : Int16) : Schema → Record → Reader Record
  | .nil, record => return record
  | .cons name type versions rest, record =>
      if versions.contains version then do
        let value ← type.read name version
        rest.readInto version (record.insert name value)
      else
        rest.readInto version record

end

/-- Read a record; what follows it is left unread. -/
def Schema.read (version : Int16) (schema : Schema) : Reader Record :=
  schema.readInto version ∅

/-- A message body: a schema with a name and the versions it exists at. -/
structure MessageSchema where
  name : String
  versions : VersionRange
  body : Schema

namespace MessageSchema

/-- Refuse the versions at which the message does not exist. -/
def checkVersion (message : MessageSchema) (version : Int16) :
    Except SchemaError Unit :=
  if message.versions.contains version then .ok ()
  else .error (.unsupportedVersion message.name version)

/-- The wire form of a message body at a version. -/
def encode (message : MessageSchema) (version : Int16) (record : Record) :
    Except SchemaError Bytes := do
  message.checkVersion version
  message.body.write version record

/-- Read a message body at a version; what follows it is left unread. -/
def read (message : MessageSchema) (version : Int16) : Reader Record := do
  match message.checkVersion version with
  | .ok () => message.body.read version
  | .error refusal => throw refusal

end MessageSchema

end BrokerSession
