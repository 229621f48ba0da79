import BrokerSession.Table

namespace BrokerSession

/-!
# Unordered finite maps

An unordered map keeps at most one value per key, and who walks over it meets
its entries in no order to rely on.  A map is here what all walks over the same
entries have in common, so a function of a map is a function of a walk that
gives the same result for every other walk.  One such function is to sort the
entries, which leads to an ordered table.
-/

/-- The entries of a map in the order of one walk over it, no key twice. -/
structure Walk (Key : Type) (Entry : Type) where
  entries : List (Key × Entry)
  once : (entries.map Prod.fst).Nodup

namespace Walk

variable {Key Entry : Type}

/-- Two walks are over one map if they meet the same entries in some order. -/
instance setoid (Key Entry : Type) : Setoid (Walk Key Entry) where
  r first second := first.entries.Perm second.entries
  iseqv := ⟨fun walk => .refl walk.entries, .symm, .trans⟩

instance [DecidableEq Key] [DecidableEq Entry] (first second : Walk Key Entry) :
    Decidable (first ≈ second) :=
  inferInstanceAs (Decidable (first.entries.Perm second.entries))

/-- A walk over an empty map. -/
def empty : Walk Key Entry := ⟨[], List.nodup_nil⟩

/-- The values in the order of the walk. -/
def values (walk : Walk Key Entry) : List Entry :=
  walk.entries.map Prod.snd

/-- The value that the walk meets for a key. -/
def get? [DecidableEq Key] (walk : Walk Key Entry) (key : Key) :
    Option Entry :=
  (walk.entries.find? fun entry => entry.1 = key).map Prod.snd

/-- A key that is taken out of a walk is not met any more. -/
theorem not_mem_filter_ne [DecidableEq Key] (key : Key)
    (entries : List (Key × Entry)) :
    key ∉ (entries.filter fun entry => entry.1 ≠ key).map Prod.fst := by
  intro member
  obtain ⟨entry, kept, isKey⟩ := List.mem_map.mp member
  exact of_decide_eq_true (List.mem_filter.mp kept).2 isKey

/-- A walk over the map in which a key was set, the new entry being met first. -/
def insert [DecidableEq Key] (walk : Walk Key Entry) (key : Key)
    (value : Entry) : Walk Key Entry where
  entries :=
    (key, value) :: walk.entries.filter fun entry => entry.1 ≠ key
  once :=
    List.nodup_cons.mpr
      ⟨not_mem_filter_ne key walk.entries,
        walk.once.sublist (List.filter_sublist.map Prod.fst)⟩

/-- Entries are ordered by their keys, then by their values. -/
def compareEntries [Ord Key] [Ord Entry] :
    Key × Entry → Key × Entry → Ordering :=
  compareLex (compareOn Prod.fst) (compareOn Prod.snd)

/-- The entries that the walk meets, sorted. -/
def sort [Ord Key] [Ord Entry] (walk : Walk Key Entry) :
    List (Key × Entry) :=
  walk.entries.mergeSort fun left right => (compareEntries left right).isLE

/-! ## What a walk meets -/

/-- An entry is met exactly if its value is found for its key. -/
theorem mem_entries_iff [DecidableEq Key] {walk : Walk Key Entry} {key : Key}
    {value : Entry} :
    (key, value) ∈ walk.entries ↔ walk.get? key = some value := by
  rw [get?, Option.map_eq_some_iff]
  constructor
  · intro member
    refine ⟨(key, value), ?_, rfl⟩
    obtain ⟨before, after, shape⟩ := List.append_of_mem member
    refine List.find?_eq_some_iff_append.mpr
      ⟨decide_eq_true rfl, before, after, shape, ?_⟩
    intro earlier isBefore
    have once := walk.once
    rw [shape, List.map_append, List.nodup_append] at once
    have differs : earlier.1 ≠ key :=
      once.2.2 _ (List.mem_map_of_mem isBefore) _ List.mem_cons_self
    simpa using differs
  · rintro ⟨found, isFound, rfl⟩
    have isKey : found.1 = key := by
      simpa using List.find?_some isFound
    rw [← isKey]
    exact List.mem_of_find?_eq_some isFound

/-- What is found does not depend on the order of the walk. -/
theorem get?_eq_of_perm [DecidableEq Key] {first second : Walk Key Entry}
    (permuted : first.entries.Perm second.entries) (key : Key) :
    first.get? key = second.get? key := by
  refine Option.ext fun value => ?_
  rw [← mem_entries_iff, permuted.mem_iff, mem_entries_iff]

/-- Setting a value changes what is met for its key alone. -/
theorem get?_insert [DecidableEq Key] (walk : Walk Key Entry)
    (key other : Key) (value : Entry) :
    (walk.insert key value).get? other =
      if other = key then some value else walk.get? other := by
  by_cases same : other = key
  · simp [get?, insert, same]
  · have isOther : ∀ entry : Key × Entry,
        (entry.1 ≠ key ∧ entry.1 = other) ↔ entry.1 = other :=
      fun entry => and_iff_right_of_imp fun atOther => atOther ▸ same
    simp [get?, insert, List.find?_filter, same, Ne.symm same, isOther]

/-- Walks over one map are walks over one map after a key was set. -/
theorem insert_perm [DecidableEq Key] {first second : Walk Key Entry}
    (permuted : first.entries.Perm second.entries) (key : Key)
    (value : Entry) :
    (first.insert key value).entries.Perm (second.insert key value).entries :=
  (permuted.filter _).cons _

/-! ## Sorting -/

section Sorting

variable [Ord Key] [Ord Entry]

/-- Sorting loses no entry and adds none. -/
theorem sort_perm (walk : Walk Key Entry) : walk.sort.Perm walk.entries :=
  List.mergeSort_perm ..

variable [Std.TransOrd Key] [Std.TransOrd Entry]

instance : Std.TransCmp (α := Key × Entry) compareEntries :=
  inferInstanceAs
    (Std.TransCmp (compareLex (compareOn Prod.fst) (compareOn Prod.snd)))

/-- Of two entries, one is not after the other. -/
theorem isLE_or_isLE (left right : Key × Entry) :
    ((compareEntries left right).isLE || (compareEntries right left).isLE) =
      true := by
  have swapped :
      compareEntries right left = (compareEntries left right).swap :=
    Std.OrientedCmp.eq_swap
  rw [swapped]
  cases compareEntries left right <;> rfl

variable [Std.LawfulEqOrd Key]

/-- The keys of the sorted entries ascend strictly. -/
theorem ascending_sort (walk : Walk Key Entry) :
    walk.sort.Pairwise fun left right => compare left.1 right.1 = .lt := by
  have distinct : walk.sort.Pairwise fun left right => left.1 ≠ right.1 :=
    List.pairwise_map.mp
      ((walk.sort_perm.map Prod.fst).nodup_iff.mpr walk.once)
  have sorted :
      walk.sort.Pairwise fun left right =>
        (compareEntries left right).isLE = true :=
    List.pairwise_mergeSort (fun _ _ _ => Std.TransCmp.isLE_trans)
      isLE_or_isLE walk.entries
  -- Different entries have different keys, so no values are ever compared.
  refine (distinct.and sorted).imp ?_
  rintro left right ⟨differ, isLE⟩
  rcases Ordering.isLE_then_iff_or.mp isLE with less | ⟨equal, -⟩
  · exact less
  · exact (differ (Std.LawfulEqCmp.eq_of_compare equal)).elim

/-- Sorting forgets the order of the walk. -/
theorem sort_eq_of_perm {first second : Walk Key Entry}
    (permuted : first.entries.Perm second.entries) :
    first.sort = second.sort := by
  refine List.Perm.eq_of_pairwise ?_ first.ascending_sort
    second.ascending_sort
    (first.sort_perm.trans (permuted.trans second.sort_perm.symm))
  intro left right _ _ less greater
  cases less.symm.trans (Std.OrientedCmp.gt_of_lt greater)

end Sorting

end Walk

/-- A finite map that may be walked over in any order. -/
def UnorderedMap (Key : Type) (Entry : Type) : Type :=
  Quotient (Walk.setoid Key Entry)

namespace UnorderedMap

variable {Key Entry : Type}

instance [DecidableEq Key] [DecidableEq Entry] :
    DecidableEq (UnorderedMap Key Entry) :=
  inferInstanceAs (DecidableEq (Quotient (Walk.setoid Key Entry)))

/-- The map that a walk is over. -/
def ofWalk (walk : Walk Key Entry) : UnorderedMap Key Entry :=
  Quotient.mk _ walk

/-- The map that holds nothing. -/
def empty : UnorderedMap Key Entry := ofWalk .empty

section Keys

variable [DecidableEq Key]

/-- The value of a key, if it has one. -/
def get? (map : UnorderedMap Key Entry) (key : Key) : Option Entry :=
  map.lift (fun walk => walk.get? key)
    fun _ _ permuted => Walk.get?_eq_of_perm permuted key

/-- Set the value of a key. -/
def insert (map : UnorderedMap Key Entry) (key : Key) (value : Entry) :
    UnorderedMap Key Entry :=
  map.lift (fun walk => ofWalk (walk.insert key value))
    fun _ _ permuted => Quotient.sound (Walk.insert_perm permuted key value)

/-- Fill a map from left to right, the last value of a key winning. -/
def ofList (entries : List (Key × Entry)) : UnorderedMap Key Entry :=
  entries.foldl (fun map entry => map.insert entry.1 entry.2) empty

end Keys

section Sorting

variable [Ord Key] [Std.TransOrd Key] [Std.LawfulEqOrd Key] [Ord Entry]
  [Std.TransOrd Entry]

/-- The entries, collected in a walk and then sorted. -/
def sort (map : UnorderedMap Key Entry) : List (Key × Entry) :=
  map.lift Walk.sort fun _ _ => Walk.sort_eq_of_perm

/-- The ordered table of the same entries. -/
def toTable (map : UnorderedMap Key Entry) : Table Key Entry := ⟨map.sort⟩

instance [Repr Key] [Repr Entry] : Repr (UnorderedMap Key Entry) where
  reprPrec map precedence := reprPrec map.toTable precedence

end Sorting

/-- Every map can be walked over. -/
theorem exists_ofWalk (map : UnorderedMap Key Entry) :
    ∃ walk, map = ofWalk walk :=
  (Quotient.exists_rep map).imp fun _ => Eq.symm

/-- The ordered table of a map lists its keys in ascending order. -/
theorem isOrdered_toTable [Ord Key] [Std.TransOrd Key] [Std.LawfulEqOrd Key]
    [Ord Entry] [Std.TransOrd Entry] (map : UnorderedMap Key Entry) :
    map.toTable.IsOrdered := by
  obtain ⟨walk, rfl⟩ := map.exists_ofWalk
  exact walk.ascending_sort

/-- Two walks are over one map exactly if one is the other in another order. -/
theorem ofWalk_eq_iff {first second : Walk Key Entry} :
    ofWalk first = ofWalk second ↔ first.entries.Perm second.entries :=
  ⟨Quotient.exact, fun permuted => Quotient.sound permuted⟩

end UnorderedMap

end BrokerSession
