import BrokerSession.Text.Unprintable

namespace BrokerSession.Text

/-!
# Quoted text

Error messages and descriptions show text between double quotes.  Quotes and
backslashes are escaped by a backslash, the common control characters by their
letters, and every other unprintable character by its code point in braces.
-/

/-- The lower-case hexadecimal digits of a number, without leading zeros. -/
def hexDigits (number : Nat) : String :=
  String.ofList (Nat.toDigits 16 number)

/-- One character as it stands between double quotes. -/
def quotedChar (char : Char) : String :=
  if char = '"' then "\\\""
  else if char = '\\' then "\\\\"
  else if char = '\n' then "\\n"
  else if char = '\r' then "\\r"
  else if char = '\t' then "\\t"
  else if char = '\x00' then "\\0"
  else if isUnprintable char then
    "\\u\x7b" ++ hexDigits char.toNat ++ "\x7d"
  else char.toString

/-- A text between double quotes. -/
def quoted (text : String) : String :=
  "\"" ++ String.join (text.toList.map quotedChar) ++ "\""

/-- A bracketed list of quoted texts. -/
def quotedList (texts : List String) : String :=
  "[" ++ String.intercalate ", " (texts.map quoted) ++ "]"

/-- An optional description, spelled `None` or `Some(..)`. -/
def optional : Option String → String
  | some shown => s!"Some({shown})"
  | none => "None"

/-- A described structure: its name and its members in braces. -/
def structured (name : String) (members : List (String × String)) : String :=
  let shown := members.map fun member => member.1 ++ ": " ++ member.2
  name ++ " \x7b " ++ String.intercalate ", " shown ++ " \x7d"

end BrokerSession.Text
