import BrokerSession.Table
import Mathlib.Algebra.GroupWithZero.Nat

namespace BrokerSession.Table

/-!
# Looking up what was inserted

Setting the value of a key changes what a table holds for this key and for no
other one.  The statements need no ordered table: a value is always put before
any other entry of its key.
-/

variable {Key Entry : Type} [Ord Key]

/-- Put entries into a table from left to right. -/
def insertAll (table : Table Key Entry) (entries : List (Key × Entry)) :
    Table Key Entry :=
  entries.foldl (fun table entry => table.insert entry.1 entry.2) table

@[simp] theorem insertAll_cons (table : Table Key Entry)
    (entry : Key × Entry) (rest : List (Key × Entry)) :
    table.insertAll (entry :: rest) =
      (table.insert entry.1 entry.2).insertAll rest :=
  rfl

/-- The empty table holds nothing. -/
@[simp] theorem get?_empty (key : Key) :
    (∅ : Table Key Entry).get? key = none :=
  rfl

/-! ## Where entries come from -/

theorem length_insertEntry_le (key : Key) (value : Entry)
    (held : List (Key × Entry)) :
    (insertEntry key value held).length ≤ held.length + 1 := by
  induction held with
  | nil =>
      exact Nat.le_refl _
  | cons first rest inductionHypothesis =>
      rw [insertEntry]
      split
      · exact Nat.le_refl _
      · exact Nat.le_succ _
      · exact Nat.succ_le_succ inductionHypothesis

theorem length_entries_insertAll_le (table : Table Key Entry)
    (entries : List (Key × Entry)) :
    (table.insertAll entries).entries.length ≤
      table.entries.length + entries.length := by
  induction entries generalizing table with
  | nil =>
      exact Nat.le_refl _
  | cons entry rest inductionHypothesis =>
      have inserted :
          (table.insert entry.1 entry.2).entries.length ≤
            table.entries.length + 1 :=
        length_insertEntry_le entry.1 entry.2 table.entries
      have others := inductionHypothesis (table.insert entry.1 entry.2)
      rw [insertAll_cons, List.length_cons]
      omega

theorem mem_or_mem_of_mem_insertAll {table : Table Key Entry}
    {entries : List (Key × Entry)} {entry : Key × Entry}
    (member : entry ∈ (table.insertAll entries).entries) :
    entry ∈ table.entries ∨ entry ∈ entries := by
  induction entries generalizing table with
  | nil =>
      exact Or.inl member
  | cons first rest inductionHypothesis =>
      rcases inductionHypothesis member with held | later
      · rcases eq_or_mem_of_mem_insertEntry held with rfl | older
        · exact Or.inr List.mem_cons_self
        · exact Or.inl older
      · exact Or.inr (List.mem_cons_of_mem _ later)

/-- A table has at most as many entries as it was filled with. -/
theorem length_entries_ofList_le (entries : List (Key × Entry)) :
    (ofList entries).entries.length ≤ entries.length := by
  have bound := length_entries_insertAll_le ∅ entries
  rwa [show (∅ : Table Key Entry).entries = [] from rfl, List.length_nil,
    Nat.zero_add] at bound

/-- A table has no entry that it was not filled with. -/
theorem mem_of_mem_entries_ofList {entries : List (Key × Entry)}
    {entry : Key × Entry} (member : entry ∈ (ofList entries).entries) :
    entry ∈ entries :=
  (mem_or_mem_of_mem_insertAll member).resolve_left nofun

/-! ## Ascending order -/

/-- Nothing is found below the first key of an ascending list. -/
theorem findEntry?_eq_none_of_less {key : Key} {held : List (Key × Entry)}
    (less : ∀ entry ∈ held, compare key entry.1 = .lt) :
    findEntry? key held = none := by
  induction held with
  | nil =>
      rfl
  | cons first rest inductionHypothesis =>
      have absent := inductionHypothesis fun entry member =>
        less entry (List.mem_cons_of_mem _ member)
      simp only [absent, less first List.mem_cons_self, findEntry?]

section Ascending

variable [Std.TransOrd Key]

/-- An entry of a greater key goes to the end. -/
theorem insertEntry_of_greater {key : Key} {value : Entry}
    {held : List (Key × Entry)}
    (greater : ∀ entry ∈ held, compare entry.1 key = .lt) :
    insertEntry key value held = held ++ [(key, value)] := by
  induction held with
  | nil =>
      rfl
  | cons first rest inductionHypothesis =>
      have after : compare key first.1 = .gt :=
        Std.OrientedCmp.gt_of_lt (greater first List.mem_cons_self)
      have appended := inductionHypothesis fun entry member =>
        greater entry (List.mem_cons_of_mem _ member)
      rw [insertEntry, after]
      exact congrArg (first :: ·) appended

theorem insertAll_of_ascending {table : Table Key Entry}
    {entries : List (Key × Entry)}
    (ascending :
      (table.entries ++ entries).Pairwise
        fun left right => compare left.1 right.1 = .lt) :
    table.insertAll entries = ⟨table.entries ++ entries⟩ := by
  induction entries generalizing table with
  | nil =>
      rw [List.append_nil]
      rfl
  | cons entry rest inductionHypothesis =>
      have greater : ∀ held ∈ table.entries, compare held.1 entry.1 = .lt :=
        fun held member =>
          (List.pairwise_append.mp ascending).2.2 held member entry
            List.mem_cons_self
      have inserted :
          table.insert entry.1 entry.2 = ⟨table.entries ++ [entry]⟩ := by
        rw [insert, insertEntry_of_greater greater]
      rw [List.append_cons] at ascending ⊢
      rw [insertAll_cons, inserted]
      exact inductionHypothesis ascending

/-- The entries of an ordered table fill it again. -/
theorem ofList_entries {table : Table Key Entry} (ordered : table.IsOrdered) :
    ofList table.entries = table :=
  insertAll_of_ascending ordered

/-- A new value weighs in for the one that it replaces. -/
theorem sum_insertEntry (weight : Entry → Nat) (key : Key) (value : Entry)
    {held : List (Key × Entry)} {found : Option Entry}
    (ascending :
      held.Pairwise fun left right => compare left.1 right.1 = .lt)
    (isFound : findEntry? key held = found) :
    ((insertEntry key value held).map fun entry => weight entry.2).sum +
        found.elim 0 weight =
      (held.map fun entry => weight entry.2).sum + weight value := by
  subst isFound
  induction held with
  | nil =>
      simp [insertEntry, findEntry?]
  | cons first rest inductionHypothesis =>
      rcases first with ⟨firstKey, firstValue⟩
      obtain ⟨below, restAscending⟩ := List.pairwise_cons.mp ascending
      have others := inductionHypothesis restAscending
      rw [insertEntry, findEntry?]
      cases order : compare key firstKey with
      | lt =>
          have absent : findEntry? key rest = none :=
            findEntry?_eq_none_of_less fun entry member =>
              Std.TransCmp.lt_trans order (below entry member)
          simp only [absent, List.map_cons, List.sum_cons, Option.elim_none]
          omega
      | eq =>
          simp only [List.map_cons, List.sum_cons, Option.elim_some]
          omega
      | gt =>
          simp only [List.map_cons, List.sum_cons]
          omega

theorem sum_values_insert (weight : Entry → Nat) {table : Table Key Entry}
    (ordered : table.IsOrdered) (key : Key) (value : Entry) :
    ((table.insert key value).values.map weight).sum +
        (table.get? key).elim 0 weight =
      (table.values.map weight).sum + weight value := by
  rw [values, values, List.map_map, List.map_map]
  exact sum_insertEntry weight key value ordered rfl

end Ascending

/-! ## Looking up -/

variable [Std.LawfulEqOrd Key]

/-- No key of an ordered table comes twice. -/
theorem nodup_keys {table : Table Key Entry} (ordered : table.IsOrdered) :
    table.keys.Nodup := by
  refine List.pairwise_map.mpr (ordered.imp ?_)
  intro first second less same
  have itself : compare second.1 second.1 = .eq := Std.ReflCmp.compare_self
  rw [same, itself] at less
  cases less

/-- No entry of an ordered table comes twice. -/
theorem nodup_entries {table : Table Key Entry} (ordered : table.IsOrdered) :
    table.entries.Nodup :=
  List.Pairwise.of_map Prod.fst (fun _ _ => mt (congrArg Prod.fst))
    (nodup_keys ordered)

/-- What is found for a key stands in the list. -/
theorem mem_of_findEntry_eq_some {key : Key} {value : Entry}
    {held : List (Key × Entry)} (found : findEntry? key held = some value) :
    (key, value) ∈ held := by
  induction held with
  | nil =>
      cases found
  | cons first rest inductionHypothesis =>
      unfold findEntry? at found
      split at found
      · next equal =>
          cases found
          rw [Std.LawfulEqCmp.eq_of_compare equal]
          exact List.mem_cons_self
      · exact List.mem_cons_of_mem _ (inductionHypothesis found)

variable [DecidableEq Key]

/-- Of the grown list, only the new key is looked up differently. -/
theorem findEntry?_insertEntry
    (key other : Key) (value : Entry) (held : List (Key × Entry)) :
    findEntry? other (insertEntry key value held) =
      if other = key then some value else findEntry? other held := by
  induction held with
  | nil =>
      by_cases same : other = key <;>
        simp [insertEntry, findEntry?, same]
  | cons first rest inductionHypothesis =>
      rcases first with ⟨firstKey, firstValue⟩
      simp only [insertEntry]
      split
      · by_cases same : other = key <;>
          simp [same, findEntry?]
      · next equalKeys =>
          have replaced : key = firstKey :=
            Std.LawfulEqCmp.eq_of_compare equalKeys
          subst replaced
          by_cases same : other = key <;>
            simp [same, findEntry?]
      · next after =>
          by_cases atFirst : compare other firstKey = .eq
          · have notInserted : other ≠ key := by
              rintro rfl
              rw [after] at atFirst
              cases atFirst
            simp [atFirst, notInserted, findEntry?]
          · simp [inductionHypothesis, findEntry?]

/-- Setting a value changes what is held for its key alone. -/
theorem get?_insert
    (table : Table Key Entry) (key other : Key) (value : Entry) :
    (table.insert key value).get? other =
      if other = key then some value else table.get? other :=
  findEntry?_insertEntry key other value table.entries

/-- Altering the value of a key changes what is held for this key alone. -/
theorem get?_alter (table : Table Key Entry) (key other : Key)
    (update : Option Entry → Entry) :
    (table.alter key update).get? other =
      if other = key then some (update (table.get? key))
      else table.get? other :=
  get?_insert table key other (update (table.get? key))

theorem get?_ofList_singleton (key : Key) (value : Entry) :
    (ofList [(key, value)]).get? key = some value :=
  (get?_insert empty key key value).trans (if_pos rfl)

/-- Entries of other keys do not change what a key holds. -/
theorem get?_insertAll_of_not_mem
    (table : Table Key Entry) {entries : List (Key × Entry)} {key : Key}
    (absent : key ∉ entries.map Prod.fst) :
    (table.insertAll entries).get? key = table.get? key := by
  induction entries generalizing table with
  | nil =>
      rfl
  | cons entry rest inductionHypothesis =>
      simp only [List.map_cons, List.mem_cons, not_or] at absent
      rw [insertAll_cons, inductionHypothesis _ absent.2, get?_insert,
        if_neg absent.1]

/-- A key that a table was not filled with has no value. -/
theorem get?_ofList_of_not_mem {entries : List (Key × Entry)} {key : Key}
    (absent : key ∉ entries.map Prod.fst) : (ofList entries).get? key = none :=
  get?_insertAll_of_not_mem ∅ absent

/-- The last entry of a key gives the key its value. -/
theorem get?_ofList_append (before : List (Key × Entry)) {key : Key}
    (value : Entry) {after : List (Key × Entry)}
    (isLast : key ∉ after.map Prod.fst) :
    (ofList (before ++ (key, value) :: after)).get? key = some value := by
  have filled :
      ofList (before ++ (key, value) :: after) =
        ((ofList before).insert key value).insertAll after :=
    List.foldl_append
  rw [filled, get?_insertAll_of_not_mem _ isLast, get?_insert, if_pos rfl]

/-- If every key comes once, its only entry gives it its value. -/
theorem get?_ofList_of_mem {entries : List (Key × Entry)}
    (once : (entries.map Prod.fst).Nodup) {entry : Key × Entry}
    (member : entry ∈ entries) :
    (ofList entries).get? entry.1 = some entry.2 := by
  obtain ⟨before, after, rfl⟩ := List.append_of_mem member
  rw [List.map_append, List.map_cons, List.nodup_append] at once
  exact get?_ofList_append before entry.2 (List.nodup_cons.mp once.2.1).1

/-! ## Tables that hold the same -/

section Extensionality

variable [Std.TransOrd Key]

/-- The entries of an ordered table are those that are looked up. -/
theorem mem_entries_iff {table : Table Key Entry} (ordered : table.IsOrdered)
    {entry : Key × Entry} :
    entry ∈ table.entries ↔ table.get? entry.1 = some entry.2 := by
  constructor
  · intro member
    have found := get?_ofList_of_mem (nodup_keys ordered) member
    rwa [ofList_entries ordered] at found
  · exact mem_of_findEntry_eq_some

/-- Ordered tables that hold the same values are the same. -/
theorem eq_of_get?_eq {first second : Table Key Entry}
    (firstOrdered : first.IsOrdered) (secondOrdered : second.IsOrdered)
    (same : ∀ key, first.get? key = second.get? key) : first = second := by
  have permuted : first.entries.Perm second.entries := by
    rw [List.perm_ext_iff_of_nodup (nodup_entries firstOrdered)
      (nodup_entries secondOrdered)]
    intro entry
    rw [mem_entries_iff firstOrdered, mem_entries_iff secondOrdered, same]
  have sameEntries : first.entries = second.entries := by
    refine permuted.eq_of_pairwise ?_ firstOrdered secondOrdered
    intro left right _ _ less greater
    cases less.symm.trans (Std.OrientedCmp.gt_of_lt greater)
  exact congrArg Table.mk sameEntries

/-- The order in which entries of different keys are put in does not matter. -/
theorem ofList_eq_of_perm {first second : List (Key × Entry)}
    (permuted : first.Perm second) (once : (first.map Prod.fst).Nodup) :
    ofList first = ofList second := by
  have alsoOnce : (second.map Prod.fst).Nodup :=
    (permuted.map Prod.fst).nodup_iff.mp once
  refine eq_of_get?_eq (isOrdered_ofList first) (isOrdered_ofList second) ?_
  intro key
  by_cases isKey : key ∈ first.map Prod.fst
  · obtain ⟨entry, member, rfl⟩ := List.mem_map.mp isKey
    rw [get?_ofList_of_mem once member,
      get?_ofList_of_mem alsoOnce (permuted.mem_iff.mp member)]
  · have alsoAbsent : key ∉ second.map Prod.fst :=
      fun isOther => isKey ((permuted.map Prod.fst).mem_iff.mpr isOther)
    rw [get?_ofList_of_not_mem isKey, get?_ofList_of_not_mem alsoAbsent]

end Extensionality

end BrokerSession.Table
