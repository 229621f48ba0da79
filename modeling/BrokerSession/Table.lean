namespace BrokerSession

/-!
# Ordered finite maps

A table keeps at most one value per key and lists its entries by ascending
key, so two tables filled with the same entries in any order are the same
table.  Records and error histograms are tables.
-/

/-- A finite map, kept as entries in ascending key order. -/
structure Table (Key : Type) (Entry : Type) where
  entries : List (Key × Entry)
  deriving Repr, DecidableEq

namespace Table

variable {Key Entry : Type}

def empty : Table Key Entry := ⟨[]⟩

instance : EmptyCollection (Table Key Entry) := ⟨empty⟩

instance : Inhabited (Table Key Entry) := ⟨empty⟩

/-- Put an entry in its place, replacing the entry of an equal key. -/
def insertEntry [Ord Key] (key : Key) (value : Entry) :
    List (Key × Entry) → List (Key × Entry)
  | [] => [(key, value)]
  | (first, held) :: rest =>
      match compare key first with
      | .lt => (key, value) :: (first, held) :: rest
      | .eq => (key, value) :: rest
      | .gt => (first, held) :: insertEntry key value rest

/-- Set the value of a key. -/
def insert [Ord Key]
    (table : Table Key Entry) (key : Key) (value : Entry) :
    Table Key Entry :=
  ⟨insertEntry key value table.entries⟩

/-- The value held for a key among a list of entries. -/
def findEntry? [Ord Key] (key : Key) :
    List (Key × Entry) → Option Entry
  | [] => none
  | (first, held) :: rest =>
      match compare key first with
      | .eq => some held
      | _ => findEntry? key rest

/-- The value of a key, if it has one. -/
def get? [Ord Key] (table : Table Key Entry) (key : Key) : Option Entry :=
  findEntry? key table.entries

def contains [Ord Key] (table : Table Key Entry) (key : Key) : Bool :=
  (table.get? key).isSome

/-- The keys in ascending order. -/
def keys (table : Table Key Entry) : List Key :=
  table.entries.map Prod.fst

/-- The values by ascending key. -/
def values (table : Table Key Entry) : List Entry :=
  table.entries.map Prod.snd

def size (table : Table Key Entry) : Nat :=
  table.entries.length

def isEmpty (table : Table Key Entry) : Bool :=
  table.entries.isEmpty

/-- Fill a table from left to right, the last value of a key winning. -/
def ofList [Ord Key] (entries : List (Key × Entry)) : Table Key Entry :=
  entries.foldl (fun table entry => table.insert entry.1 entry.2) empty

/-- Replace the value of a key by a function of what it held. -/
def alter [Ord Key]
    (table : Table Key Entry) (key : Key) (update : Option Entry → Entry) :
    Table Key Entry :=
  table.insert key (update (table.get? key))

/-! ## Ascending order -/

/-- Whether the keys ascend strictly, so that no key occurs twice. -/
def IsOrdered [Ord Key] (table : Table Key Entry) : Prop :=
  table.entries.Pairwise fun left right => compare left.1 right.1 = .lt

instance [Ord Key] (table : Table Key Entry) : Decidable table.IsOrdered :=
  inferInstanceAs (Decidable (List.Pairwise _ _))

/-- An entry of the grown list is the new one or was there before. -/
theorem eq_or_mem_of_mem_insertEntry [Ord Key]
    {key : Key} {value : Entry} {held : List (Key × Entry)}
    {entry : Key × Entry} (member : entry ∈ insertEntry key value held) :
    entry = (key, value) ∨ entry ∈ held := by
  induction held with
  | nil =>
      exact Or.inl (List.mem_singleton.mp member)
  | cons first rest inductionHypothesis =>
      rcases first with ⟨firstKey, firstValue⟩
      simp only [insertEntry] at member
      split at member
      · rcases List.mem_cons.mp member with isNew | older
        · exact Or.inl isNew
        · exact Or.inr older
      · rcases List.mem_cons.mp member with isNew | older
        · exact Or.inl isNew
        · exact Or.inr (List.mem_cons_of_mem _ older)
      · rcases List.mem_cons.mp member with isFirst | inRest
        · subst isFirst
          exact Or.inr List.mem_cons_self
        · rcases inductionHypothesis inRest with isNew | older
          · exact Or.inl isNew
          · exact Or.inr (List.mem_cons_of_mem _ older)

/-- Putting an entry in its place keeps the keys ascending. -/
theorem pairwise_insertEntry [Ord Key] [Std.TransOrd Key]
    (key : Key) (value : Entry) {held : List (Key × Entry)}
    (ascending :
      held.Pairwise fun left right => compare left.1 right.1 = .lt) :
    (insertEntry key value held).Pairwise
      fun left right => compare left.1 right.1 = .lt := by
  induction held with
  | nil =>
      exact List.pairwise_singleton _ _
  | cons first rest inductionHypothesis =>
      rcases first with ⟨firstKey, firstValue⟩
      obtain ⟨below, restAscending⟩ := List.pairwise_cons.mp ascending
      simp only [insertEntry]
      split
      · next before =>
          refine List.pairwise_cons.mpr ⟨?_, ascending⟩
          intro entry member
          rcases List.mem_cons.mp member with isFirst | inRest
          · subst isFirst
            exact before
          · exact Std.TransCmp.lt_trans before (below entry inRest)
      · next equal =>
          refine List.pairwise_cons.mpr ⟨?_, restAscending⟩
          intro entry member
          exact Std.TransCmp.lt_of_eq_of_lt equal (below entry member)
      · next after =>
          refine List.pairwise_cons.mpr
            ⟨?_, inductionHypothesis restAscending⟩
          intro entry member
          rcases eq_or_mem_of_mem_insertEntry member with isNew | older
          · subst isNew
            exact Std.OrientedCmp.lt_of_gt after
          · exact below entry older

/-- Setting a value keeps a table ordered. -/
theorem isOrdered_insert [Ord Key] [Std.TransOrd Key]
    {table : Table Key Entry} (ordered : table.IsOrdered)
    (key : Key) (value : Entry) :
    (table.insert key value).IsOrdered :=
  pairwise_insertEntry key value ordered

/-- Filling an ordered table keeps it ordered. -/
theorem isOrdered_foldl_insert [Ord Key] [Std.TransOrd Key]
    (entries : List (Key × Entry)) {table : Table Key Entry}
    (ordered : table.IsOrdered) :
    (entries.foldl (fun table entry => table.insert entry.1 entry.2)
      table).IsOrdered := by
  induction entries generalizing table with
  | nil =>
      exact ordered
  | cons entry rest inductionHypothesis =>
      exact inductionHypothesis (isOrdered_insert ordered entry.1 entry.2)

/-- A table filled from a list is ordered, whatever the list's order. -/
theorem isOrdered_ofList [Ord Key] [Std.TransOrd Key]
    (entries : List (Key × Entry)) : (ofList entries).IsOrdered :=
  isOrdered_foldl_insert entries List.Pairwise.nil

end Table

end BrokerSession
