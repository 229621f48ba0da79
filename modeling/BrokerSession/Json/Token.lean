import BrokerSession.Text.Decimal

namespace BrokerSession.Json

/-!
# Tokens of JSON text

A text is cut into punctuation, words, numbers and strings.  A number keeps its
value only if it is written by digits alone, and a string only if its escapes
pair up to characters: what cannot be kept is still a well-formed token, which
matters for members that nobody reads.
-/

/-- One token of a JSON text. -/
inductive Token where
  | openBrace
  | closeBrace
  | openBracket
  | closeBracket
  | colon
  | comma
  | null
  | boolean (value : Bool)
  /-- A number, with its value if it is written by digits alone. -/
  | number (natural : Option Nat)
  /-- A string, with its text unless it holds an unpaired surrogate. -/
  | string (text : Option String)
  deriving Repr, DecidableEq

/-- Whether a character may stand between two tokens. -/
def isBlank (char : Char) : Bool :=
  char = ' ' || char = '\t' || char = '\n' || char = '\r'

/-- The token of a punctuation character. -/
def punctuation? : Char → Option Token
  | '\x7b' => some .openBrace
  | '\x7d' => some .closeBrace
  | '[' => some .openBracket
  | ']' => some .closeBracket
  | ':' => some .colon
  | ',' => some .comma
  | _ => none

/-- The token of a word. -/
def word? (word : List Char) : Option Token :=
  if word = "null".toList then some .null
  else if word = "true".toList then some (.boolean true)
  else if word = "false".toList then some (.boolean false)
  else none

/-! ## Numbers -/

/-- Whether a character occurs in numbers. -/
def isNumberChar (char : Char) : Bool :=
  (Text.digit? char).isSome || char = '-' || char = '+' || char = '.' ||
    char = 'e' || char = 'E'

/-- Whether there is at least one character and all are digits. -/
def isDigits (chars : List Char) : Bool :=
  !chars.isEmpty && chars.all fun char => (Text.digit? char).isSome

/-- Whether the rest of a number is nothing, or a mark, a sign and digits. -/
def isExponent : List Char → Bool
  | [] => true
  | mark :: rest =>
      (mark = 'e' || mark = 'E') &&
        match rest with
        | '+' :: digits | '-' :: digits => isDigits digits
        | digits => isDigits digits

/-- Whether the rest of a number is a fraction, an exponent or both, or none. -/
def isFraction : List Char → Bool
  | '.' :: rest =>
      let digits := rest.takeWhile fun char => (Text.digit? char).isSome
      isDigits digits && isExponent (rest.drop digits.length)
  | rest => isExponent rest

/-- Whether digits write a whole number, without a leading zero. -/
def isWhole (digits : List Char) : Bool :=
  isDigits digits && (digits.head? != some '0' || digits.length = 1)

/-- The token of a number as it is written. -/
def number? (written : List Char) : Option Token :=
  let unsigned := match written with
    | '-' :: rest => rest
    | _ => written
  let digits := unsigned.takeWhile fun char => (Text.digit? char).isSome
  if isWhole digits && isFraction (unsigned.drop digits.length) then
    some (.number (if digits.length = written.length then Text.digits? digits
      else none))
  else none

/-! ## Strings -/

/-- The value of a hexadecimal digit of either case. -/
def hexDigit? (char : Char) : Option Nat :=
  if '0' ≤ char ∧ char ≤ '9' then some (char.toNat - '0'.toNat)
  else if 'a' ≤ char ∧ char ≤ 'f' then some (char.toNat - 'a'.toNat + 10)
  else if 'A' ≤ char ∧ char ≤ 'F' then some (char.toNat - 'A'.toNat + 10)
  else none

/-- The character that a one-letter escape stands for. -/
def escaped? : Char → Option Char
  | '"' => some '"'
  | '\\' => some '\\'
  | '/' => some '/'
  | 'b' => some '\x08'
  | 'f' => some '\x0c'
  | 'n' => some '\n'
  | 'r' => some '\r'
  | 't' => some '\t'
  | _ => none

/--
The code points that the inside of a string writes, surrogates included.

Control characters have to be escaped.
-/
def codePoints? : List Char → Option (List Nat)
  | [] => some []
  | '\\' :: 'u' :: first :: second :: third :: fourth :: rest => do
      let high := (← hexDigit? first) * 16 + (← hexDigit? second)
      let low := (← hexDigit? third) * 16 + (← hexDigit? fourth)
      return (high * 256 + low) :: (← codePoints? rest)
  | '\\' :: letter :: rest => do
      return (← escaped? letter).toNat :: (← codePoints? rest)
  | char :: rest =>
      if char.toNat < 0x20 then none
      else do return char.toNat :: (← codePoints? rest)

/-- Whether a code point is the first half of a surrogate pair. -/
def isHighSurrogate (code : Nat) : Bool := 0xd800 ≤ code && code < 0xdc00

/-- Whether a code point is the second half of a surrogate pair. -/
def isLowSurrogate (code : Nat) : Bool := 0xdc00 ≤ code && code < 0xe000

/-- The characters of code points, unless a surrogate is unpaired. -/
def characters? : List Nat → Option (List Char)
  | [] => some []
  | code :: rest =>
      if isLowSurrogate code then none
      else if isHighSurrogate code then
        match rest with
        | low :: later =>
            if isLowSurrogate low then do
              let joined := 0x10000 + (code - 0xd800) * 0x400 + (low - 0xdc00)
              return Char.ofNat joined :: (← characters? later)
            else none
        | [] => none
      else do return Char.ofNat code :: (← characters? rest)

/-- Split at the quote that ends a string. -/
def splitQuote? : List Char → Option (List Char × List Char)
  | [] => none
  | '"' :: rest => some ([], rest)
  | '\\' :: char :: rest => do
      let (inside, later) ← splitQuote? rest
      return ('\\' :: char :: inside, later)
  | char :: rest => do
      let (inside, later) ← splitQuote? rest
      return (char :: inside, later)

/-- What follows a string is shorter than what began it. -/
theorem length_splitQuote?
    {chars inside later : List Char}
    (split : splitQuote? chars = some (inside, later)) :
    later.length < chars.length := by
  fun_induction splitQuote? chars generalizing inside later with
  | case1 => cases split
  | case2 rest =>
      cases split
      exact Nat.lt_succ_self _
  | case3 char rest inductionHypothesis =>
      simp only [bind, Option.bind_eq_some_iff] at split
      obtain ⟨⟨found, after⟩, inner, rebuilt⟩ := split
      cases rebuilt
      have shorter := inductionHypothesis inner
      simp only [List.length_cons]
      omega
  | case4 char rest _ _ inductionHypothesis =>
      simp only [bind, Option.bind_eq_some_iff] at split
      obtain ⟨⟨found, after⟩, inner, rebuilt⟩ := split
      cases rebuilt
      have shorter := inductionHypothesis inner
      simp only [List.length_cons]
      omega

/-- The token of a string, given what stands between its quotes. -/
def string? (inside : List Char) : Option Token := do
  let codes ← codePoints? inside
  return .string ((characters? codes).map String.ofList)

/-! ## Texts -/

/-- Cut a text into tokens, adding them in front of those before. -/
def tokensAfter? (chars : List Char) (before : List Token) :
    Option (List Token) :=
  match chars with
  | [] => some before.reverse
  | char :: rest =>
      if isBlank char then tokensAfter? rest before
      else
        match punctuation? char with
        | some token => tokensAfter? rest (token :: before)
        | none =>
            if char = '"' then
              match split : splitQuote? rest with
              | some (inside, later) =>
                  match string? inside with
                  | some token => tokensAfter? later (token :: before)
                  | none => none
              | none => none
            else if isNumberChar char then
              match number? (char :: rest.takeWhile isNumberChar) with
              | some token =>
                  tokensAfter? (rest.dropWhile isNumberChar) (token :: before)
              | none => none
            else
              match word? (char :: rest.takeWhile Char.isAlpha) with
              | some token =>
                  tokensAfter? (rest.dropWhile Char.isAlpha) (token :: before)
              | none => none
termination_by chars.length
decreasing_by
  · exact Nat.lt_succ_self _
  · exact Nat.lt_succ_self _
  · exact Nat.lt_succ_of_lt (length_splitQuote? split)
  · exact Nat.lt_succ_of_le (List.dropWhile_suffix _).length_le
  · exact Nat.lt_succ_of_le (List.dropWhile_suffix _).length_le

/-- The tokens of a text. -/
def tokens? (text : String) : Option (List Token) :=
  tokensAfter? text.toList []

end BrokerSession.Json
