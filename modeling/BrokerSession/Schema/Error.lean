namespace BrokerSession

/-!
# Structural failures

Everything that can go wrong while a record is written to or read from the
wire.  A failure names the field it concerns; its text is produced by
`SchemaError.message`.
-/

/-- Why a record could not be written or read. -/
inductive SchemaError where
  /-- Fewer bytes are left than the value occupies. -/
  | bufferUnderrun (field : String) (needed available : Nat)
  /-- A length that no value has. -/
  | invalidLength (field : String) (length : Int32)
  | invalidString (field : String)
  /-- A boolean byte other than zero and one. -/
  | invalidBoolean (field : String) (value : Int8)
  /-- The version lies outside of the message's range. -/
  | unsupportedVersion (message : String) (version : Int16)
  | missingField (field : String) (version : Int16)
  | typeMismatch (field : String) (expected : String)
  /-- The string does not fit a two-byte length. -/
  | stringTooLong (field : String) (length : Nat)
  | unknownApiKey (key : Int16)
  deriving Repr, DecidableEq

namespace SchemaError

def kind : SchemaError → String
  | .bufferUnderrun .. => "BufferUnderrun"
  | .invalidLength .. => "InvalidLength"
  | .invalidString .. => "InvalidString"
  | .invalidBoolean .. => "InvalidBoolean"
  | .unsupportedVersion .. => "UnsupportedVersion"
  | .missingField .. => "MissingField"
  | .typeMismatch .. => "TypeMismatch"
  | .stringTooLong .. => "StringTooLong"
  | .unknownApiKey .. => "UnknownApiKey"

def message : SchemaError → String
  | .bufferUnderrun field needed available =>
      s!"Buffer underrun reading '{field}': needed {needed} bytes, {available} available"
  | .invalidLength field length =>
      s!"Invalid length {length.toInt} for '{field}'"
  | .invalidString field =>
      s!"Invalid UTF-8 in '{field}'"
  | .invalidBoolean field value =>
      s!"Invalid boolean value {value.toInt} for '{field}'"
  | .unsupportedVersion message version =>
      s!"{message} does not support version {version.toInt}"
  | .missingField field version =>
      s!"Missing required field '{field}' for version {version.toInt}"
  | .typeMismatch field expected =>
      s!"Field '{field}' expected a value of type {expected}"
  | .stringTooLong field length =>
      s!"String for '{field}' is too long: {length} bytes"
  | .unknownApiKey key =>
      s!"Unknown API key {key.toInt}"

end SchemaError

end BrokerSession
