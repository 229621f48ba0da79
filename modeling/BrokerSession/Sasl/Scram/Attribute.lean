import BrokerSession.Sasl.Error

namespace BrokerSession.Scram

/-!
# Attribute lists

The messages of a SCRAM exchange are attributes separated by commas.  An
attribute is one letter, an equals sign and a value that may itself hold equals
signs.  Names are escaped so that they hold neither of the two separators.
-/

/-- A letter and its value. -/
abbrev Attribute := Char × List Char

/-- Read one part of a message as an attribute. -/
def parsePart (part : List Char) : Except MechanismError Attribute :=
  match part with
  | key :: '=' :: value =>
      if key = '=' then
        .error (.invalidChallenge (.malformedAttribute (String.ofList part)))
      else .ok (key, value)
  | _ => .error (.invalidChallenge (.malformedAttribute (String.ofList part)))

/-- Read a message as attributes, keeping their order. -/
def attributes (message : List Char) :
    Except MechanismError (List Attribute) :=
  (message.splitOn ',').mapM parsePart

/-- The first value of a key, if it has one. -/
def find? (listed : List Attribute) (key : Char) : Option (List Char) :=
  (listed.find? fun entry => entry.1 = key).map Prod.snd

/-- The first value of a key that has to be there. -/
def find (listed : List Attribute) (key : Char) :
    Except MechanismError (List Char) :=
  match find? listed key with
  | some value => .ok value
  | none => .error (.invalidChallenge (.missingAttribute key))

/-- One character of a name, the separators escaped. -/
def escapeChar (char : Char) : List Char :=
  if char = '=' then ['=', '3', 'D']
  else if char = ',' then ['=', '2', 'C']
  else [char]

/-- A name without separators. -/
def escape (name : List Char) : List Char :=
  name.flatMap escapeChar

end BrokerSession.Scram
