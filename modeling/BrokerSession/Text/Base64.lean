import BrokerSession.Bytes

namespace BrokerSession.Text

/-!
# Base64

Three bytes are written as four letters of a 64-letter alphabet, each standing
for six bits, and a shorter last group is filled up with equals signs.  Reading
accepts exactly what writing produces: whole groups, padding only in the last
one, and zeros in the bits that padding leaves unused.
-/

/-- The letter that stands for a six-bit number. -/
def base64Letter (sextet : Nat) : Char :=
  if sextet < 26 then Char.ofNat ('A'.toNat + sextet)
  else if sextet < 52 then Char.ofNat ('a'.toNat + (sextet - 26))
  else if sextet < 62 then Char.ofNat ('0'.toNat + (sextet - 52))
  else if sextet = 62 then '+'
  else '/'

/-- The six-bit number that a letter stands for. -/
def base64Sextet? (letter : Char) : Option Nat :=
  if 'A' ≤ letter ∧ letter ≤ 'Z' then some (letter.toNat - 'A'.toNat)
  else if 'a' ≤ letter ∧ letter ≤ 'z' then
    some (letter.toNat - 'a'.toNat + 26)
  else if '0' ≤ letter ∧ letter ≤ '9' then
    some (letter.toNat - '0'.toNat + 52)
  else if letter = '+' then some 62
  else if letter = '/' then some 63
  else none

/-- The letters that write a byte string. -/
def base64Encode : Bytes → List Char
  | [] => []
  | [first] =>
      let group := first.toNat * 16
      [base64Letter (group / 64), base64Letter (group % 64), '=', '=']
  | [first, second] =>
      let group := (first.toNat * 256 + second.toNat) * 4
      [base64Letter (group / 4096), base64Letter (group / 64 % 64),
        base64Letter (group % 64), '=']
  | first :: second :: third :: rest =>
      let group := (first.toNat * 256 + second.toNat) * 256 + third.toNat
      base64Letter (group / 262144) :: base64Letter (group / 4096 % 64) ::
        base64Letter (group / 64 % 64) :: base64Letter (group % 64) ::
        base64Encode rest

/-- The byte string that a list of letters writes, if it writes one. -/
def base64Decode? : List Char → Option Bytes
  | [] => some []
  | [first, second, '=', '='] => do
      let group := (← base64Sextet? first) * 64 + (← base64Sextet? second)
      if group % 16 = 0 then return [UInt8.ofNat (group / 16)] else none
  | [first, second, third, '='] => do
      let group := ((← base64Sextet? first) * 64 + (← base64Sextet? second)) * 64
        + (← base64Sextet? third)
      if group % 4 = 0 then
        return [UInt8.ofNat (group / 1024), UInt8.ofNat (group / 4)]
      else none
  | first :: second :: third :: fourth :: rest => do
      let group := (((← base64Sextet? first) * 64 + (← base64Sextet? second)) * 64
        + (← base64Sextet? third)) * 64 + (← base64Sextet? fourth)
      return UInt8.ofNat (group / 65536) :: UInt8.ofNat (group / 256) ::
        UInt8.ofNat group :: (← base64Decode? rest)
  | _ => none

end BrokerSession.Text
