import BrokerSession.Proofs.Table
import BrokerSession.Session.Ledger

namespace BrokerSession

/-!
# Histograms of error codes

A ledger adds up the error codes that responses carry.  As long as each
response carries a single code, the histogram says how often each code came,
and its values sum up to the number of responses.
-/

namespace ErrorCode

/-- The wire value tells error codes apart. -/
theorem eq_of_code_eq {left right : ErrorCode}
    (same : left.code = right.code) : left = right := by
  rw [← ofCode_code left, same, ofCode_code]

instance : Std.LawfulEqOrd ErrorCode where
  eq_of_compare {left right} equal := by
    have sameCode : compare left.code right.code = .eq := equal
    exact eq_of_code_eq (Std.LawfulEqCmp.eq_of_compare sameCode)

end ErrorCode

namespace Ledger

/-- Add the error codes of one response to a histogram. -/
def addUp (codes : Table ErrorCode UInt64) (counts : Table ErrorCode Nat) :
    Table ErrorCode UInt64 :=
  counts.entries.foldl
    (fun codes entry => codes.alter entry.1 (·.getD 0 + UInt64.ofNat entry.2))
    codes

/-- The histogram of responses, given the error codes that each carries. -/
def histogram (counts : List (Table ErrorCode Nat)) : Table ErrorCode UInt64 :=
  counts.foldl addUp ∅

/-- The last response is added to the histogram of the others. -/
theorem histogram_concat (counts : List (Table ErrorCode Nat))
    (last : Table ErrorCode Nat) :
    histogram (counts ++ [last]) = addUp (histogram counts) last := by
  rw [histogram, List.foldl_append]
  rfl

/-- A histogram that says how often each error code occurs in a list. -/
structure CountsErrors (codes : Table ErrorCode UInt64)
    (errors : List ErrorCode) : Prop where
  ordered : codes.IsOrdered
  each : ∀ code, ((codes.get? code).getD 0).toNat = errors.count code
  total : (codes.values.map UInt64.toNat).sum = errors.length

/-- The next response adds one to its code, unless the counter would wrap. -/
theorem CountsErrors.addUp {codes : Table ErrorCode UInt64}
    {errors : List ErrorCode} (counts : CountsErrors codes errors)
    (error : ErrorCode) (few : errors.length + 1 < UInt64.size) :
    CountsErrors (addUp codes (ErrorCode.count [error]))
      (errors ++ [error]) := by
  have grown :
      Ledger.addUp codes (ErrorCode.count [error]) =
        codes.alter error (·.getD 0 + 1) :=
    rfl
  have bound := List.count_le_length (a := error) (l := errors)
  have next :
      ((codes.get? error).getD 0 + 1).toNat = errors.count error + 1 := by
    have noWrap : errors.count error + 1 < 2 ^ 64 :=
      Nat.lt_of_le_of_lt (Nat.succ_le_succ bound) few
    rw [UInt64.toNat_add, counts.each error]
    exact Nat.mod_eq_of_lt noWrap
  rw [grown]
  constructor
  case ordered =>
    exact Table.isOrdered_insert counts.ordered error _
  case each =>
    intro code
    rw [Table.get?_alter, List.count_append]
    by_cases same : code = error
    · rw [if_pos same, Option.getD_some, next, same, List.count_singleton_self]
    · have other : [error].count code = 0 :=
        List.count_eq_zero.mpr (mt List.mem_singleton.mp same)
      rw [if_neg same, counts.each code, other, Nat.add_zero]
  case total =>
    have balance :=
      Table.sum_values_insert UInt64.toNat counts.ordered error
        ((codes.get? error).getD 0 + 1)
    have before :
        (codes.get? error).elim 0 UInt64.toNat = errors.count error := by
      rw [← counts.each error]
      cases codes.get? error <;> rfl
    have total := counts.total
    rw [Table.alter, List.length_append, List.length_singleton]
    omega

/-- Further responses add their codes to a histogram. -/
theorem CountsErrors.foldl {codes : Table ErrorCode UInt64}
    {earlier errors : List ErrorCode} (counts : CountsErrors codes earlier)
    (few : earlier.length + errors.length < UInt64.size) :
    CountsErrors
      ((errors.map fun error => ErrorCode.count [error]).foldl Ledger.addUp
        codes)
      (earlier ++ errors) := by
  induction errors generalizing codes earlier with
  | nil =>
      rw [List.append_nil]
      exact counts
  | cons error later inductionHypothesis =>
      rw [List.length_cons] at few
      have added := counts.addUp error (by omega)
      rw [List.append_cons]
      refine inductionHypothesis added ?_
      rw [List.length_append, List.length_singleton]
      omega

/-- The histogram of responses that carry one error code each. -/
theorem countsErrors_histogram {errors : List ErrorCode}
    (few : errors.length < UInt64.size) :
    CountsErrors (histogram (errors.map fun error => ErrorCode.count [error]))
      errors := by
  have nothing : CountsErrors ∅ [] := ⟨List.Pairwise.nil, fun _ => rfl, rfl⟩
  have few : ([] : List ErrorCode).length + errors.length < UInt64.size := by
    rwa [List.length_nil, Nat.zero_add]
  exact nothing.foldl few

end Ledger

/-! ## The counts of one response -/

/-- Whether a table says how often each error code comes in a list. -/
structure ErrorCounts (counts : Table ErrorCode Nat)
    (errors : List ErrorCode) : Prop where
  ordered : counts.IsOrdered
  /-- A code that does not come has no entry. -/
  each :
    ∀ code, counts.get? code =
      if errors.count code = 0 then none else some (errors.count code)
  total : counts.values.sum = errors.length

namespace ErrorCounts

variable {counts : Table ErrorCode Nat} {errors : List ErrorCode}

/-- One more code is counted once. -/
theorem alter (isCounted : ErrorCounts counts errors) (error : ErrorCode) :
    ErrorCounts (counts.alter error (·.getD 0 + 1)) (errors ++ [error]) := by
  have held : (counts.get? error).getD 0 = errors.count error := by
    rw [isCounted.each]
    split
    · next none =>
        rw [none]
        rfl
    · rfl
  constructor
  case ordered =>
    exact Table.isOrdered_insert isCounted.ordered error _
  case each =>
    intro code
    rw [Table.get?_alter, held, List.count_append]
    by_cases same : code = error
    · rw [if_pos same, same, List.count_singleton_self,
        if_neg (Nat.succ_ne_zero _)]
    · have other : [error].count code = 0 :=
        List.count_eq_zero.mpr (mt List.mem_singleton.mp same)
      rw [if_neg same, isCounted.each, other, Nat.add_zero]
  case total =>
    have balance :=
      Table.sum_values_insert id isCounted.ordered error
        ((counts.get? error).getD 0 + 1)
    have before :
        (counts.get? error).elim 0 id = (counts.get? error).getD 0 := by
      cases counts.get? error <;> rfl
    have total := isCounted.total
    simp only [List.map_id, id] at balance
    rw [Table.alter, List.length_append, List.length_singleton]
    omega

/-- Further codes are counted after those before. -/
theorem foldl (isCounted : ErrorCounts counts errors)
    (later : List ErrorCode) :
    ErrorCounts
      (later.foldl (fun counts error => counts.alter error (·.getD 0 + 1))
        counts)
      (errors ++ later) := by
  induction later generalizing counts errors with
  | nil =>
      rw [List.append_nil]
      exact isCounted
  | cons error rest inductionHypothesis =>
      rw [List.append_cons]
      exact inductionHypothesis (isCounted.alter error)

/-- The error codes of a response are counted exactly. -/
theorem of_count (errors : List ErrorCode) :
    ErrorCounts (ErrorCode.count errors) errors := by
  have nothing : ErrorCounts ∅ [] :=
    ⟨List.Pairwise.nil, fun _ => rfl, rfl⟩
  exact nothing.foldl errors

/-- No count is zero. -/
theorem ne_zero (isCounted : ErrorCounts counts errors)
    {entry : ErrorCode × Nat} (member : entry ∈ counts.entries) :
    entry.2 ≠ 0 := by
  have found := (Table.mem_entries_iff isCounted.ordered).mp member
  rw [isCounted.each] at found
  split at found
  · cases found
  · next some =>
      rwa [← Option.some.inj found]

end ErrorCounts

/-- Error codes may be counted in any order. -/
theorem ErrorCode.count_eq_of_perm {first second : List ErrorCode}
    (permuted : first.Perm second) : count first = count second := by
  refine Table.eq_of_get?_eq (ErrorCounts.of_count first).ordered
    (ErrorCounts.of_count second).ordered ?_
  intro code
  rw [(ErrorCounts.of_count first).each, (ErrorCounts.of_count second).each,
    permuted.count_eq]

end BrokerSession
