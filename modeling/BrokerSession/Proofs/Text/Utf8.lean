import BrokerSession.Proofs.Bytes
import Mathlib.Tactic.SplitIfs

namespace BrokerSession.Bytes

/-!
# The order of UTF-8

UTF-8 keeps the order of the code points: the texts are in the same order as
their bytes.  A character is written as a first byte, which tells how many more
bytes there are, and the rest of its number in base 64.  The zero byte stands
for the null character and for nothing else.
-/

/-- A text is written character by character. -/
theorem ofString_eq_flatMap (text : String) :
    ofString text = text.toList.flatMap String.utf8EncodeChar := by
  have encoded : text.toByteArray = text.toList.utf8Encode := by
    rw [← String.toByteArray_ofList, String.ofList_toList]
  rw [ofString, encoded, List.utf8Encode, List.toList_data_toByteArray]

/-! ## Single characters -/

/-- The last digits of a number in base 64, as UTF-8 writes them. -/
def continuation : (count : Nat) → (number : Nat) → Bytes
  | 0, _ => []
  | count + 1, number =>
      UInt8.ofNat (number / 64 ^ count % 64 + 0x80) ::
        continuation count number

/-- How many bytes follow the first one of a code point. -/
def following (number : Nat) : Nat :=
  if number ≤ 0x7f then 0
  else if number ≤ 0x7ff then 1
  else if number ≤ 0xffff then 2
  else 3

/-- What marks a first byte that is followed by some bytes. -/
def mark : (count : Nat) → Nat
  | 0 => 0
  | 1 => 0xc0
  | 2 => 0xe0
  | _ => 0xf0

/-- The number that the first byte of a code point is. -/
def leading (number : Nat) : Nat :=
  number / 64 ^ following number + mark (following number)

theorem toNat_char_lt (char : Char) : char.toNat < 0x110000 := by
  have valid := char.valid
  simp only [UInt32.isValidChar, Nat.isValidChar] at valid
  change char.val.toNat < _
  omega

/-- The numbers of code points fit the first bytes that they are given. -/
theorem utf8EncodeChar_eq (char : Char) :
    String.utf8EncodeChar char =
      UInt8.ofNat (leading char.toNat) ::
        continuation (following char.toNat) char.toNat := by
  have bound := toNat_char_lt char
  rw [show char.toNat = char.val.toNat from rfl] at bound ⊢
  unfold String.utf8EncodeChar leading following
  generalize char.val.toNat = number at bound
  dsimp only
  split
  · simp [mark, continuation]
  · split
    · have fits : number / 64 % 32 = number / 64 := by omega
      simp [mark, continuation, fits]
    · split
      · have fits : number / 4096 % 16 = number / 4096 := by omega
        simp [mark, continuation, fits]
      · have fits : number / 262144 % 8 = number / 262144 := by omega
        simp [mark, continuation, fits]

theorem leading_lt (number : Nat) (bound : number < 0x110000) :
    leading number < 256 := by
  unfold leading following
  split_ifs <;> simp only [mark] <;> omega

theorem following_le {less more : Nat} (below : less < more) :
    following less ≤ following more := by
  unfold following
  split_ifs <;> omega

/-- More bytes to follow are announced by a greater first byte. -/
theorem leading_lt_of_following_lt {less more : Nat}
    (fewer : following less < following more) :
    leading less < leading more := by
  unfold leading
  unfold following at fewer ⊢
  split_ifs at fewer ⊢ <;> simp only [mark] <;> omega

/-- A number is less for its first digit, or else for the others. -/
theorem div_lt_or_mod_lt {less more : Nat} (below : less < more)
    (unit : Nat) :
    less / unit < more / unit ∨
      less / unit = more / unit ∧ less % unit < more % unit := by
  rcases Nat.lt_or_ge (less / unit) (more / unit) with first | notLess
  · exact Or.inl first
  · have same : less / unit = more / unit :=
      Nat.le_antisymm (Nat.div_le_div_right (Nat.le_of_lt below)) notLess
    have lessParts := Nat.div_add_mod less unit
    have moreParts := Nat.div_add_mod more unit
    rw [same] at lessParts
    exact Or.inr ⟨same, by omega⟩

/-! ## Bytes in order -/

/-- Bytes compare as the numbers that they are. -/
theorem ofNat_lt_ofNat {less more : Nat} (below : less < more)
    (bound : more < 256) : UInt8.ofNat less < UInt8.ofNat more := by
  rw [UInt8.lt_iff_toNat_lt,
    UInt8.toNat_ofNat_of_lt' (Nat.lt_trans below bound),
    UInt8.toNat_ofNat_of_lt' bound]
  exact below

/-- The first digits decide before the others. -/
theorem continuation_append_lt {count less more : Nat}
    (below : less % 64 ^ count < more % 64 ^ count) (rest others : Bytes) :
    continuation count less ++ rest < continuation count more ++ others := by
  induction count with
  | zero =>
      rw [Nat.pow_zero, Nat.mod_one, Nat.mod_one] at below
      exact (Nat.lt_irrefl 0 below).elim
  | succ count inductionHypothesis =>
      have digit : ∀ number, number % 64 ^ (count + 1) / 64 ^ count =
          number / 64 ^ count % 64 := by
        intro number
        rw [Nat.pow_succ, Nat.mod_mul_right_div_self]
      have remainder : ∀ number, number % 64 ^ (count + 1) % 64 ^ count =
          number % 64 ^ count := by
        intro number
        exact Nat.mod_mod_of_dvd _ (Nat.pow_dvd_pow 64 (Nat.le_succ count))
      rw [continuation, continuation, List.cons_append, List.cons_append,
        List.cons_lt_cons_iff]
      have compared := div_lt_or_mod_lt below (64 ^ count)
      rw [digit, digit, remainder, remainder] at compared
      rcases compared with first | ⟨same, later⟩
      · exact Or.inl (ofNat_lt_ofNat (by omega) (by omega))
      · rw [same]
        exact Or.inr ⟨rfl, inductionHypothesis later⟩

/-- The bytes of a lesser character come first, whatever follows them. -/
theorem utf8EncodeChar_append_lt {first second : Char} (below : first < second)
    (rest others : Bytes) :
    String.utf8EncodeChar first ++ rest <
      String.utf8EncodeChar second ++ others := by
  have less : first.toNat < second.toNat := below
  have fits := leading_lt second.toNat (toNat_char_lt second)
  rw [utf8EncodeChar_eq, utf8EncodeChar_eq, List.cons_append,
    List.cons_append, List.cons_lt_cons_iff]
  rcases Nat.lt_or_eq_of_le (following_le less) with fewer | equallyMany
  · exact Or.inl (ofNat_lt_ofNat (leading_lt_of_following_lt fewer) fits)
  · rcases div_lt_or_mod_lt less (64 ^ following second.toNat) with
      leads | ⟨same, later⟩
    · refine Or.inl (ofNat_lt_ofNat ?_ fits)
      rw [leading, leading, equallyMany]
      exact Nat.add_lt_add_right leads _
    · rw [leading, leading, equallyMany, same]
      exact Or.inr ⟨rfl, continuation_append_lt later rest others⟩

/-! ## Texts in order -/

theorem flatMap_utf8EncodeChar_lt {first second : List Char}
    (below : first < second) :
    first.flatMap String.utf8EncodeChar <
      second.flatMap String.utf8EncodeChar := by
  induction below with
  | nil =>
      rw [List.flatMap_nil, List.flatMap_cons, utf8EncodeChar_eq,
        List.cons_append]
      exact List.nil_lt_cons _ _
  | cons later inductionHypothesis =>
      rw [List.flatMap_cons, List.flatMap_cons]
      exact List.append_left_lt inductionHypothesis
  | rel less =>
      rw [List.flatMap_cons, List.flatMap_cons]
      exact utf8EncodeChar_append_lt less _ _

/-- A text in front of another one is written in front of it. -/
theorem ofString_lt_of_compare_eq_lt {first second : String}
    (below : compare first second = .lt) :
    ofString first < ofString second := by
  rw [ofString_eq_flatMap, ofString_eq_flatMap]
  exact flatMap_utf8EncodeChar_lt
    (String.lt_iff.mp (compareOfLessAndEq_eq_lt.mp below))

/-- Texts are in the order of their bytes. -/
theorem ofString_lt_ofString_iff {first second : String} :
    ofString first < ofString second ↔ compare first second = .lt := by
  constructor
  · intro below
    cases order : compare first second with
    | lt =>
        rfl
    | eq =>
        have same := Std.LawfulEqCmp.eq_of_compare order
        rw [same] at below
        exact (List.lt_irrefl _ below).elim
    | gt =>
        have above :=
          ofString_lt_of_compare_eq_lt (Std.OrientedCmp.lt_of_gt order)
        exact (List.lt_asymm below above).elim
  · exact ofString_lt_of_compare_eq_lt

/-! ## The zero byte -/

theorem ofString_append (first second : String) :
    ofString (first ++ second) = ofString first ++ ofString second := by
  rw [ofString_eq_flatMap, ofString_eq_flatMap, ofString_eq_flatMap,
    String.toList_append, List.flatMap_append]

/-- The bytes that follow a first one are marked, so none of them is zero. -/
theorem zero_not_mem_continuation (count number : Nat) :
    0 ∉ continuation count number := by
  induction count with
  | zero =>
      exact List.not_mem_nil
  | succ count inductionHypothesis =>
      rw [continuation, List.mem_cons, not_or]
      refine ⟨fun zero => ?_, inductionHypothesis⟩
      have fits : number / 64 ^ count % 64 + 0x80 < 256 := by omega
      have marked := congrArg UInt8.toNat zero
      rw [UInt8.toNat_ofNat_of_lt' fits, UInt8.toNat_zero] at marked
      omega

theorem leading_eq_zero_iff {number : Nat} :
    leading number = 0 ↔ number = 0 := by
  unfold leading following
  split_ifs <;> simp only [mark] <;> omega

/-- Only the null character is written with a zero byte. -/
theorem zero_mem_utf8EncodeChar_iff {char : Char} :
    0 ∈ String.utf8EncodeChar char ↔ char = Char.ofNat 0 := by
  have fits := leading_lt char.toNat (toNat_char_lt char)
  rw [utf8EncodeChar_eq, List.mem_cons,
    or_iff_left (zero_not_mem_continuation _ _), ← UInt8.toNat_inj,
    UInt8.toNat_ofNat_of_lt' fits, UInt8.toNat_zero, eq_comm,
    leading_eq_zero_iff]
  exact ⟨fun null => Char.toNat_inj.mp null, fun null => null ▸ rfl⟩

/-- A text with a zero byte has a null character. -/
theorem zero_mem_ofString_iff {text : String} :
    0 ∈ ofString text ↔ Char.ofNat 0 ∈ text.toList := by
  rw [ofString_eq_flatMap, List.mem_flatMap]
  constructor
  · rintro ⟨char, listed, zero⟩
    exact zero_mem_utf8EncodeChar_iff.mp zero ▸ listed
  · intro listed
    exact ⟨_, listed, zero_mem_utf8EncodeChar_iff.mpr rfl⟩

/-- Text around a zero byte is text. -/
theorem exists_ofString_eq_append_zero (before after : String) :
    ∃ text, ofString text = ofString before ++ 0 :: ofString after := by
  refine ⟨before ++ (String.singleton (Char.ofNat 0) ++ after), ?_⟩
  rw [ofString_append, ofString_append]
  rfl

/-- A text with a null character is cut there into shorter texts. -/
theorem exists_ofString_append_zero_eq {text : String}
    (null : Char.ofNat 0 ∈ text.toList) :
    ∃ before after, before ≠ text ∧ after ≠ text ∧
      ofString before ++ 0 :: ofString after = ofString text := by
  obtain ⟨before, after, cut⟩ := List.append_of_mem null
  have sized := congrArg List.length cut
  rw [List.length_append, List.length_cons] at sized
  refine ⟨String.ofList before, String.ofList after, ?_, ?_, ?_⟩
  · rintro rfl
    rw [String.toList_ofList] at sized
    omega
  · rintro rfl
    rw [String.toList_ofList] at sized
    omega
  · rw [ofString_eq_flatMap, ofString_eq_flatMap, ofString_eq_flatMap, cut,
      String.toList_ofList, String.toList_ofList, List.flatMap_append,
      List.flatMap_cons]
    rfl

end BrokerSession.Bytes
