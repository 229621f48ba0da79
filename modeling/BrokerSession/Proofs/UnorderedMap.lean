import BrokerSession.Proofs.Table
import BrokerSession.UnorderedMap

namespace BrokerSession.UnorderedMap

/-!
# Unordered maps and ordered tables

Sorting the entries of an unordered map gives the ordered table that is filled
with them.  The table tells maps apart, so whatever is known of ordered tables
is known of the maps as well.
-/

variable {Key Entry : Type}

/-- Setting a value changes what a map holds for its key alone. -/
theorem get?_insert [DecidableEq Key] (map : UnorderedMap Key Entry)
    (key other : Key) (value : Entry) :
    (map.insert key value).get? other =
      if other = key then some value else map.get? other := by
  obtain ⟨walk, rfl⟩ := map.exists_ofWalk
  exact walk.get?_insert key other value

section Ascending

variable [Ord Key] [Std.TransOrd Key] [Std.LawfulEqOrd Key] [Ord Entry]
  [Std.TransOrd Entry]

/-- Maps with the same ordered table are the same. -/
theorem eq_of_toTable_eq {first second : UnorderedMap Key Entry}
    (same : first.toTable = second.toTable) : first = second := by
  obtain ⟨walk, rfl⟩ := first.exists_ofWalk
  obtain ⟨other, rfl⟩ := second.exists_ofWalk
  have sameSorted : walk.sort = other.sort := congrArg Table.entries same
  exact ofWalk_eq_iff.mpr
    (walk.sort_perm.symm.trans (sameSorted ▸ other.sort_perm))

variable [DecidableEq Key]

/-- A map and its ordered table hold the same values. -/
theorem get?_toTable (map : UnorderedMap Key Entry) (key : Key) :
    map.toTable.get? key = map.get? key := by
  obtain ⟨walk, rfl⟩ := map.exists_ofWalk
  refine Option.ext fun value => ?_
  exact (Table.mem_entries_iff (ofWalk walk).isOrdered_toTable).symm.trans
    (walk.sort_perm.mem_iff.trans Walk.mem_entries_iff)

/-- A table that is filled in the order of any walk is that of the map. -/
theorem toTable_ofWalk (walk : Walk Key Entry) :
    (ofWalk walk).toTable = Table.ofList walk.entries := by
  have sameKeys := walk.sort_perm.map Prod.fst
  rw [← Table.ofList_eq_of_perm walk.sort_perm
    (sameKeys.nodup_iff.mpr walk.once)]
  exact (Table.ofList_entries (ofWalk walk).isOrdered_toTable).symm

/-- Maps that hold the same values are the same. -/
theorem eq_of_get?_eq {first second : UnorderedMap Key Entry}
    (same : ∀ key, first.get? key = second.get? key) : first = second := by
  refine eq_of_toTable_eq (Table.eq_of_get?_eq first.isOrdered_toTable
    second.isOrdered_toTable ?_)
  intro key
  rw [get?_toTable, get?_toTable, same]

/-- Setting a value in a map sets it in the ordered table. -/
theorem toTable_insert (map : UnorderedMap Key Entry) (key : Key)
    (value : Entry) :
    (map.insert key value).toTable = map.toTable.insert key value := by
  refine Table.eq_of_get?_eq (isOrdered_toTable _)
    (Table.isOrdered_insert map.isOrdered_toTable key value) ?_
  intro other
  rw [get?_toTable, get?_insert, Table.get?_insert, get?_toTable]

/-- A map is filled from a list as its ordered table is. -/
theorem toTable_ofList (entries : List (Key × Entry)) :
    (ofList entries : UnorderedMap Key Entry).toTable =
      Table.ofList entries := by
  have nothing : (empty : UnorderedMap Key Entry).toTable = Table.empty :=
    toTable_ofWalk Walk.empty
  rw [ofList, Table.ofList, ← nothing]
  exact (List.foldl_hom toTable fun map entry =>
    (toTable_insert map entry.1 entry.2).symm).symm

/-- A map is filled again by the entries of its ordered table. -/
theorem ofList_entries_toTable (map : UnorderedMap Key Entry) :
    ofList map.toTable.entries = map := by
  refine eq_of_toTable_eq ?_
  rw [toTable_ofList, Table.ofList_entries map.isOrdered_toTable]

/-- Entries of different keys fill the map that they are a walk over. -/
theorem ofList_eq_ofWalk {entries : List (Key × Entry)}
    (once : (entries.map Prod.fst).Nodup) :
    ofList entries = ofWalk ⟨entries, once⟩ :=
  eq_of_toTable_eq
    ((toTable_ofList entries).trans (toTable_ofWalk ⟨entries, once⟩).symm)

/-- The walks over a map filled with different keys are its entries in any order. -/
theorem ofList_eq_ofWalk_iff {entries : List (Key × Entry)}
    (once : (entries.map Prod.fst).Nodup) {walk : Walk Key Entry} :
    ofList entries = ofWalk walk ↔ walk.entries.Perm entries := by
  rw [ofList_eq_ofWalk once, eq_comm, ofWalk_eq_iff]

/-- The order in which entries of different keys are put in does not matter. -/
theorem ofList_eq_of_perm {first second : List (Key × Entry)}
    (permuted : first.Perm second) (once : (first.map Prod.fst).Nodup) :
    (ofList first : UnorderedMap Key Entry) = ofList second := by
  have alsoOnce : (second.map Prod.fst).Nodup :=
    (permuted.map Prod.fst).nodup_iff.mp once
  rw [ofList_eq_ofWalk alsoOnce, ofList_eq_ofWalk_iff once]
  exact permuted.symm

end Ascending

end BrokerSession.UnorderedMap
