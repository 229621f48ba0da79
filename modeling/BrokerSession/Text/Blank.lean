namespace BrokerSession.Text

/-!
# Blank text

White space is the Unicode property White_Space: twenty-five characters.  The
zero-width space and the byte order mark are not among them.
-/

/-- The code points with the White_Space property, as inclusive ranges. -/
def whiteSpaceRanges : List (Nat × Nat) :=
  [(0x9, 0xd), (0x20, 0x20), (0x85, 0x85), (0xa0, 0xa0), (0x1680, 0x1680),
    (0x2000, 0x200a), (0x2028, 0x2029), (0x202f, 0x202f), (0x205f, 0x205f),
    (0x3000, 0x3000)]

/-- Whether a character is white space. -/
def isWhiteSpace (char : Char) : Bool :=
  whiteSpaceRanges.any fun range =>
    range.1 ≤ char.toNat && char.toNat ≤ range.2

/-- Whether nothing is left of a text once the white space is removed. -/
def isBlank (text : String) : Bool :=
  text.toList.all isWhiteSpace

end BrokerSession.Text
