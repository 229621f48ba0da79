import BrokerSession.Text.Decimal

namespace BrokerSession.Text

/-!
# Reading decimal numbers back

A number is read back from its own digits, so the iteration count that a
server writes is the one that a client reads.
-/

theorem digit?_digitChar : ∀ number < 10,
    digit? (Nat.digitChar number) = some number := by
  decide

/-- The last digit counts once, those before it ten times as much. -/
theorem digitsAfter?_append (number : Nat) (before : List Char) (last : Char) :
    digitsAfter? number (before ++ [last]) =
      (digitsAfter? number before).bind fun read =>
        (digit? last).map (read * 10 + ·) := by
  fun_induction digitsAfter? number before with
  | case1 number =>
      rw [List.nil_append, digitsAfter?]
      cases digit? last <;> rfl
  | case2 number char rest digit isDigit inductionHypothesis =>
      rw [List.cons_append, digitsAfter?, isDigit]
      exact inductionHypothesis
  | case3 number char rest noDigit =>
      rw [List.cons_append, digitsAfter?, noDigit]
      rfl

theorem digitsAfter?_toDigits (number : Nat) :
    digitsAfter? 0 (Nat.toDigits 10 number) = some number := by
  induction number using Nat.strongRecOn with
  | ind number inductionHypothesis =>
      by_cases small : number < 10
      · rw [Nat.toDigits_of_lt_base small, digitsAfter?,
          digit?_digitChar number small]
        simp [digitsAfter?]
      · rw [Nat.toDigits_of_base_le (by decide) (Nat.le_of_not_lt small),
          digitsAfter?_append, inductionHypothesis (number / 10) (by omega),
          digit?_digitChar (number % 10) (by omega)]
        simp only [Option.bind_some, Option.map_some, Option.some.injEq]
        omega

/-- A digit is neither a sign nor a separator. -/
theorem not_mem_toDigits {char : Char} (noDigit : char.isDigit = false)
    (number : Nat) : char ∉ Nat.toDigits 10 number := by
  intro member
  have isDigit :=
    Nat.isDigit_of_mem_toDigits (by decide) (Nat.le_refl 10) member
  cases isDigit.symm.trans noDigit

/-- A 32-bit number is read back from its digits. -/
theorem unsigned32?_toDigits (number : UInt32) :
    unsigned32? (Nat.toDigits 10 number.toNat) = some number := by
  have noSign := not_mem_toDigits (by decide : '+'.isDigit = false)
    number.toNat
  have read : digits? (Nat.toDigits 10 number.toNat) = some number.toNat := by
    unfold digits?
    split
    · next noDigits =>
        exact (Nat.toDigits_ne_nil noDigits).elim
    · exact digitsAfter?_toDigits number.toNat
  have fits : number.toNat < UInt32.size := number.toNat_lt
  unfold unsigned32?
  split
  · next rest isSigned =>
      rw [isSigned] at noSign
      exact (noSign List.mem_cons_self).elim
  · simp only [read, fits, if_true, UInt32.ofNat_toNat]

end BrokerSession.Text
