import BrokerSession.Json.Token

namespace BrokerSession.Json

/-!
# JSON documents

The tokens of a text are folded into a document, with the containers that are
still open on a stack, so documents may be nested to any depth.
-/

/-- A JSON value; numbers and strings are kept as their tokens keep them. -/
inductive Document where
  | null
  | boolean (value : Bool)
  | number (natural : Option Nat)
  | string (text : Option String)
  | array (items : List Document)
  | object (members : List (Option String × Document))

/-- A container whose end has not been reached, with its contents reversed. -/
inductive Container where
  | array (items : List Document)
  | object (members : List (Option String × Document)) (key : Option String)

/-- What may come next. -/
inductive Expectation where
  | value
  /-- The first item of an array, or its end. -/
  | firstItem
  /-- The first key of an object, or its end. -/
  | firstKey
  | key
  | colon
  /-- What follows a finished value: a comma, an end, or nothing. -/
  | afterValue (finished : Document)

/-- Fold the remaining tokens into the document that they complete. -/
def complete? :
    List Container → Expectation → List Token → Option Document
  | [], .afterValue finished, [] => some finished
  | _, _, [] => none
  | stack, expected, token :: rest =>
      match expected, token, stack with
      | .afterValue finished, .comma, .array items :: outer =>
          complete? (.array (finished :: items) :: outer) .value rest
      | .afterValue finished, .closeBracket, .array items :: outer =>
          complete? outer
            (.afterValue (.array (finished :: items).reverse)) rest
      | .afterValue finished, .comma, .object members key :: outer =>
          complete? (.object ((key, finished) :: members) none :: outer)
            .key rest
      | .afterValue finished, .closeBrace, .object members key :: outer =>
          complete? outer
            (.afterValue (.object ((key, finished) :: members).reverse)) rest
      | .afterValue _, _, _ => none
      | .colon, .colon, stack => complete? stack .value rest
      | .colon, _, _ => none
      | .firstKey, .closeBrace, .object _ _ :: outer =>
          complete? outer (.afterValue (.object [])) rest
      | .firstKey, .string text, .object members _ :: outer =>
          complete? (.object members text :: outer) .colon rest
      | .key, .string text, .object members _ :: outer =>
          complete? (.object members text :: outer) .colon rest
      | .firstKey, _, _ => none
      | .key, _, _ => none
      | .firstItem, .closeBracket, .array _ :: outer =>
          complete? outer (.afterValue (.array [])) rest
      | _, .null, stack => complete? stack (.afterValue .null) rest
      | _, .boolean value, stack =>
          complete? stack (.afterValue (.boolean value)) rest
      | _, .number natural, stack =>
          complete? stack (.afterValue (.number natural)) rest
      | _, .string text, stack =>
          complete? stack (.afterValue (.string text)) rest
      | _, .openBracket, stack =>
          complete? (.array [] :: stack) .firstItem rest
      | _, .openBrace, stack =>
          complete? (.object [] none :: stack) .firstKey rest
      | _, _, _ => none

namespace Document

/-- The document that a text writes. -/
def ofText? (text : String) : Option Document :=
  (tokens? text).bind (complete? [] .value)

/-- The text of a string whose characters are known. -/
def text? : Document → Option String
  | .string text => text
  | _ => none

/-- The text of a string, or null. -/
def nullableText? : Document → Option (Option String)
  | .null => some none
  | document => some <$> document.text?

def boolean? : Document → Option Bool
  | .boolean value => some value
  | _ => none

/-- The value of a number written by digits alone that fits 64 bits. -/
def unsigned64? : Document → Option UInt64
  | .number (some natural) =>
      if natural < UInt64.size then some (UInt64.ofNat natural) else none
  | _ => none

/--
The members of a document under the given names.

An object has its own members, whose keys have to be known; an array holds the
values of the first names in order, and no more than there are names.
-/
def members? (names : List String) :
    Document → Option (List (String × Document))
  | .object members => members.mapM fun member => do
      return (← member.1, member.2)
  | .array items =>
      if items.length ≤ names.length then some (names.zip items) else none
  | _ => none

end Document

/--
The value of a member, or a default where there is none.

A member that is repeated or that cannot be read is refused.
-/
def member? {Content : Type} (members : List (String × Document))
    (name : String) (read : Document → Option Content) (missing : Content) :
    Option Content :=
  match members.filter fun member => member.1 = name with
  | [] => some missing
  | [member] => read member.2
  | _ => none

/-! ## Writing -/

/-- One character as it stands in a JSON string. -/
def writtenChar (char : Char) : List Char :=
  if char = '"' then ['\\', '"']
  else if char = '\\' then ['\\', '\\']
  else if char = '\x08' then ['\\', 'b']
  else if char = '\x0c' then ['\\', 'f']
  else if char = '\n' then ['\\', 'n']
  else if char = '\r' then ['\\', 'r']
  else if char = '\t' then ['\\', 't']
  else if char.toNat < 0x20 then
    ['\\', 'u', '0', '0', (char.toNat / 16).digitChar,
      (char.toNat % 16).digitChar]
  else [char]

/-- A text as a JSON string. -/
def writtenText (text : String) : String :=
  "\"" ++ String.ofList (text.toList.flatMap writtenChar) ++ "\""

/-- An object with its members in order and no space. -/
def writtenObject (members : List (String × String)) : String :=
  let shown := members.map fun member => writtenText member.1 ++ ":" ++ member.2
  "\x7b" ++ String.intercalate "," shown ++ "\x7d"

end BrokerSession.Json
