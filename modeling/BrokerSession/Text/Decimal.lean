namespace BrokerSession.Text

/-!
# Decimal numbers

Unsigned numbers are written as ASCII digits.  A reader of 32-bit numbers takes
one plus sign in front and leading zeros, and nothing else.
-/

/-- The value of an ASCII digit. -/
def digit? (char : Char) : Option Nat :=
  if '0' ≤ char ∧ char ≤ '9' then some (char.toNat - '0'.toNat) else none

/-- The number written by a list of digits, added to those read before. -/
def digitsAfter? : Nat → List Char → Option Nat
  | number, [] => some number
  | number, char :: rest =>
      match digit? char with
      | some digit => digitsAfter? (number * 10 + digit) rest
      | none => none

/-- The number written by a non-empty list of digits. -/
def digits? : List Char → Option Nat
  | [] => none
  | chars => digitsAfter? 0 chars

/-- The unsigned 32-bit number written by a text, with at most one plus sign. -/
def unsigned32? (chars : List Char) : Option UInt32 :=
  let unsigned := match chars with
    | '+' :: rest => rest
    | _ => chars
  match digits? unsigned with
  | some number =>
      if number < UInt32.size then some (UInt32.ofNat number) else none
  | none => none

end BrokerSession.Text
