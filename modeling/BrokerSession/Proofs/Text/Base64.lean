import BrokerSession.Text.Base64

namespace BrokerSession.Text

/-!
# Reading base64 back

Every byte string is read back from the letters that write it, and no letter
is a comma, so a written byte string can stand in a list of attributes.
-/

/-- A letter stands for the six bits that it was made from. -/
theorem base64Sextet?_base64Letter :
    ∀ sextet < 64, base64Sextet? (base64Letter sextet) = some sextet := by
  decide

theorem base64Letter_ne_padding :
    ∀ sextet < 64, base64Letter sextet ≠ '=' := by
  decide

theorem base64Letter_ne_comma :
    ∀ sextet < 64, base64Letter sextet ≠ ',' := by
  decide

/-! ## Groups of letters -/

/-- A last group of two letters stands for one byte. -/
theorem base64Decode?_single {high low : Nat} (highFits : high < 64)
    (lowFits : low < 64) (padded : (high * 64 + low) % 16 = 0) :
    base64Decode? [base64Letter high, base64Letter low, '=', '='] =
      some [UInt8.ofNat ((high * 64 + low) / 16)] := by
  rw [base64Decode?]
  simp [base64Sextet?_base64Letter, highFits, lowFits, padded]

/-- A last group of three letters stands for two bytes. -/
theorem base64Decode?_pair {high middle low : Nat} (highFits : high < 64)
    (middleFits : middle < 64) (lowFits : low < 64)
    (padded : ((high * 64 + middle) * 64 + low) % 4 = 0) :
    base64Decode?
        [base64Letter high, base64Letter middle, base64Letter low, '='] =
      some
        [UInt8.ofNat (((high * 64 + middle) * 64 + low) / 1024),
          UInt8.ofNat (((high * 64 + middle) * 64 + low) / 4)] := by
  rw [base64Decode?]
  · simp [base64Sextet?_base64Letter, highFits, middleFits, lowFits, padded]
  · exact base64Letter_ne_padding low lowFits

/-- A whole group stands for three bytes, whatever follows it. -/
theorem base64Decode?_group {first second third fourth : Nat}
    (firstFits : first < 64) (secondFits : second < 64)
    (thirdFits : third < 64) (fourthFits : fourth < 64) (rest : List Char) :
    base64Decode?
        (base64Letter first :: base64Letter second :: base64Letter third ::
          base64Letter fourth :: rest) =
      (base64Decode? rest).map fun bytes =>
        let group := ((first * 64 + second) * 64 + third) * 64 + fourth
        UInt8.ofNat (group / 65536) :: UInt8.ofNat (group / 256) ::
          UInt8.ofNat group :: bytes := by
  have notPadding := base64Letter_ne_padding fourth fourthFits
  rw [base64Decode?]
  · simp only [base64Sextet?_base64Letter, firstFits, secondFits, thirdFits,
      fourthFits]
    cases base64Decode? rest <;> rfl
  · rintro - padding -
    exact notPadding padding
  · rintro padding -
    exact notPadding padding

/-! ## Whole byte strings -/

private theorem ofNat_eq {number : Nat} {byte : UInt8}
    (same : number % 256 = byte.toNat) : UInt8.ofNat number = byte := by
  apply UInt8.toNat_inj.mp
  rw [UInt8.toNat_ofNat']
  exact same

/-- What was written is read back. -/
theorem base64Decode?_base64Encode (bytes : Bytes) :
    base64Decode? (base64Encode bytes) = some bytes := by
  fun_induction base64Encode bytes with
  | case1 =>
      rfl
  | case2 first group =>
      have firstFits := first.toNat_lt
      rw [base64Decode?_single (by omega) (by omega) (by omega)]
      congr 2
      exact ofNat_eq (by omega)
  | case3 first second group =>
      have firstFits := first.toNat_lt
      have secondFits := second.toNat_lt
      have regrouped :
          (group / 4096 * 64 + group / 64 % 64) * 64 + group % 64 = group := by
        omega
      rw [base64Decode?_pair (by omega) (by omega) (by omega) (by omega),
        regrouped]
      congr 2
      · exact ofNat_eq (by omega)
      · congr 1
        exact ofNat_eq (by omega)
  | case4 first second third rest group inductionHypothesis =>
      have firstFits := first.toNat_lt
      have secondFits := second.toNat_lt
      have thirdFits := third.toNat_lt
      have regrouped :
          ((group / 262144 * 64 + group / 4096 % 64) * 64 +
              group / 64 % 64) * 64 + group % 64 = group := by
        omega
      rw [base64Decode?_group (by omega) (by omega) (by omega) (by omega),
        inductionHypothesis, Option.map_some, regrouped]
      have isFirst : UInt8.ofNat (group / 65536) = first :=
        ofNat_eq (by omega)
      have isSecond : UInt8.ofNat (group / 256) = second :=
        ofNat_eq (by omega)
      have isThird : UInt8.ofNat group = third :=
        ofNat_eq (by omega)
      dsimp only
      rw [isFirst, isSecond, isThird]

/-- No letter is a comma. -/
theorem not_mem_base64Encode (bytes : Bytes) : ',' ∉ base64Encode bytes := by
  fun_induction base64Encode bytes with
  | case1 =>
      exact List.not_mem_nil
  | case2 first group =>
      have firstFits := first.toNat_lt
      simp only [List.mem_cons, List.not_mem_nil, or_false, not_or]
      exact ⟨(base64Letter_ne_comma _ (by omega)).symm,
        (base64Letter_ne_comma _ (by omega)).symm, by decide, by decide⟩
  | case3 first second group =>
      have firstFits := first.toNat_lt
      have secondFits := second.toNat_lt
      simp only [List.mem_cons, List.not_mem_nil, or_false, not_or]
      exact ⟨(base64Letter_ne_comma _ (by omega)).symm,
        (base64Letter_ne_comma _ (by omega)).symm,
        (base64Letter_ne_comma _ (by omega)).symm, by decide⟩
  | case4 first second third rest group inductionHypothesis =>
      have firstFits := first.toNat_lt
      have secondFits := second.toNat_lt
      have thirdFits := third.toNat_lt
      simp only [List.mem_cons, not_or]
      exact ⟨(base64Letter_ne_comma _ (by omega)).symm,
        (base64Letter_ne_comma _ (by omega)).symm,
        (base64Letter_ne_comma _ (by omega)).symm,
        (base64Letter_ne_comma _ (by omega)).symm, inductionHypothesis⟩

end BrokerSession.Text
