namespace BrokerSession

/-!
# Versioned schemas

A schema is an ordered list of named, typed fields.  Each field lives over an
inclusive range of protocol versions and is invisible outside of it.  Field
types and schemas refer to each other: a field may hold a nested record, or an
array of any type.
-/

/-- An inclusive range of protocol versions. -/
structure VersionRange where
  low : Int16
  high : Int16
  deriving Repr, DecidableEq

namespace VersionRange

/-- Every version from zero on. -/
def all : VersionRange := ⟨0, 32767⟩

/-- Every version from `low` on. -/
def since (low : Int16) : VersionRange := ⟨low, 32767⟩

/-- Whether a version lies in the range, both ends included. -/
def contains (range : VersionRange) (version : Int16) : Bool :=
  range.low ≤ version && version ≤ range.high

end VersionRange

mutual

/-- The type of a field. -/
inductive FieldType where
  | int8
  | int16
  | int32
  | int64
  | boolean
  | string
  | nullableString
  | bytes
  | nullableBytes
  | array (element : FieldType)
  | struct (schema : Schema)
  deriving Repr

/-- An ordered list of named fields with their version ranges. -/
inductive Schema where
  | nil
  | cons
      (name : String)
      (type : FieldType)
      (versions : VersionRange)
      (rest : Schema)
  deriving Repr

end

/-- One named, typed and versioned member of a schema. -/
structure Field where
  name : String
  type : FieldType
  versions : VersionRange := .all
  deriving Repr

namespace Field

/-- Whether the field is on the wire at a version. -/
def isActive (field : Field) (version : Int16) : Bool :=
  field.versions.contains version

end Field

namespace Schema

/-- The schema with the given fields in wire order. -/
def ofFields : List Field → Schema
  | [] => .nil
  | field :: rest =>
      .cons field.name field.type field.versions (ofFields rest)

/-- The fields in wire order. -/
def fields : Schema → List Field
  | .nil => []
  | .cons name type versions rest => ⟨name, type, versions⟩ :: rest.fields

/-- The first field of a name. -/
def field? (schema : Schema) (name : String) : Option Field :=
  schema.fields.find? fun field => field.name = name

/-- The fields on the wire at a version, in wire order. -/
def fieldsFor (schema : Schema) (version : Int16) : List Field :=
  schema.fields.filter fun field => field.isActive version

/-- Listing the fields of a schema made from fields gives them back. -/
@[simp] theorem fields_ofFields (listed : List Field) :
    (ofFields listed).fields = listed := by
  induction listed with
  | nil => rfl
  | cons field rest inductionHypothesis =>
      simp [ofFields, fields, inductionHypothesis]

end Schema

namespace FieldType

/-- An array of nested records with the given fields. -/
def arrayOf (listed : List Field) : FieldType :=
  .array (.struct (Schema.ofFields listed))

/-- The type's name as error messages spell it. -/
def name : FieldType → String
  | .int8 => "int8"
  | .int16 => "int16"
  | .int32 => "int32"
  | .int64 => "int64"
  | .boolean => "boolean"
  | .string => "string"
  | .nullableString => "nullable string"
  | .bytes => "bytes"
  | .nullableBytes => "nullable bytes"
  | .array _ => "array"
  | .struct _ => "struct"

end FieldType

end BrokerSession
