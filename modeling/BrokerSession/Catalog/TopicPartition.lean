import BrokerSession.Schema.Value

namespace BrokerSession

/-!
# Topic partitions

The broker keeps each topic in numbered partitions.  Partitions are listed by
topic, then by number.
-/

structure TopicPartition where
  topic : String
  partition : Int32
  deriving Repr, DecidableEq

namespace TopicPartition

/-- Topics by code points, then partitions as signed integers. -/
instance : Ord TopicPartition where
  compare left right :=
    (compare left.topic right.topic).then
      (compare left.partition right.partition)

/-- The order is transitive, because both of its parts are. -/
instance : Std.TransOrd TopicPartition :=
  inferInstanceAs
    (Std.TransCmp
      (compareLex (compareOn TopicPartition.topic)
        (compareOn TopicPartition.partition)))

/-- Different partitions are not in one place of the order. -/
instance : Std.LawfulEqOrd TopicPartition where
  eq_of_compare {left right} equal := by
    obtain ⟨sameTopic, samePartition⟩ := Ordering.then_eq_eq.mp equal
    rcases left with ⟨topic, partition⟩
    rcases right with ⟨otherTopic, otherPartition⟩
    obtain rfl : topic = otherTopic := Std.LawfulEqCmp.eq_of_compare sameTopic
    obtain rfl : partition = otherPartition :=
      Std.LawfulEqCmp.eq_of_compare samePartition
    rfl

/-- The topic and the partition joined by a dash. -/
def display (place : TopicPartition) : String :=
  s!"{place.topic}-{place.partition.toInt}"

def toRecord (place : TopicPartition) : Record :=
  Table.ofList
    [("topic", .string place.topic), ("partition", .int32 place.partition)]

def ofRecord (record : Record) : Except SchemaError TopicPartition := do
  let topic ← record.string "topic"
  let partition ← record.int32 "partition"
  return { topic, partition }

end TopicPartition

end BrokerSession
