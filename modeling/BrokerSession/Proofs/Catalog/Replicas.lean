import BrokerSession.Proofs.Catalog.Conversion
import BrokerSession.Proofs.Catalog.Histogram
import BrokerSession.Proofs.Schema.Rows
import BrokerSession.Proofs.Session.Envelope
import BrokerSession.Proofs.Text.Utf8

namespace BrokerSession

/-!
# Responses about partitions

A response about stopped replicas keeps one error for each partition, in an
unordered map.  On the wire there is a list in its place: in whatever order the
map is walked, the list is written in ascending order, and it may be read in any
order and with any repetitions.
-/

/-! ## The order of the partitions -/

namespace TopicPartition

/-- Whether a place is written before another one. -/
def Precedes (first second : TopicPartition) : Prop :=
  Bytes.ofString first.topic < Bytes.ofString second.topic ∨
    first.topic = second.topic ∧
      first.partition.toInt < second.partition.toInt

/-- Places are in the order of their topics' bytes and then of their numbers. -/
theorem compare_eq_lt_iff {first second : TopicPartition} :
    compare first second = .lt ↔ first.Precedes second := by
  have unfolded : compare first second =
      (compare first.topic second.topic).then
        (compare first.partition second.partition) :=
    rfl
  rw [unfolded, Ordering.then_eq_lt, Precedes, Bytes.ofString_lt_ofString_iff,
    Std.compare_eq_iff_eq, ← Int32.lt_iff_toInt_lt]
  exact or_congr_right (and_congr_right fun _ => compareOfLessAndEq_eq_lt)

end TopicPartition

/-! ## Listed partitions -/

/-- A partition with the number that stands for its error on the wire. -/
structure ListedPartition where
  place : TopicPartition
  code : Int16
  deriving Repr, DecidableEq

namespace ListedPartition

/-- Topic, partition and error, one after the other. -/
def toBytes (listed : ListedPartition) : Bytes :=
  Bytes.bigEndian 2 listed.place.topic.utf8ByteSize ++
    Bytes.ofString listed.place.topic ++ Bytes.ofInt32 listed.place.partition ++
    Bytes.ofInt16 listed.code

/-- The partition with its error, unknown numbers being one and the same. -/
def toEntry (listed : ListedPartition) : TopicPartition × ErrorCode :=
  (listed.place, .ofCode listed.code)

/-- Whether two bytes hold the length of the topic. -/
def IsShort (listed : ListedPartition) : Prop :=
  listed.place.topic.utf8ByteSize ≤ Encode.maxStringLength

/-- The record that is read for a listed partition. -/
def toRecord (listed : ListedPartition) : Record :=
  (((∅ : Record).insert "topic" (.string listed.place.topic)).insert "partition"
    (.int32 listed.place.partition)).insert "error_code" (.int16 listed.code)

end ListedPartition

/-- The body of a response: its own error, and one for each listed partition. -/
def bodyOfListed (code : Int16) (listed : List ListedPartition) : Bytes :=
  Bytes.ofInt16 code ++ Bytes.bigEndian 4 listed.length ++
    listed.flatMap ListedPartition.toBytes

/-! ## Reading a listed partition -/

namespace StopReplicaResponse

/-- The fields of each partition in a response. -/
def partitionFields : List Field :=
  [{ name := "topic", type := .string },
    { name := "partition", type := .int32 },
    { name := "error_code", type := .int16 }]

/-- One partition is read exactly from its wire form. -/
theorem readInto_partition_eq_ok_iff {input rest : Bytes} {record : Record} :
    ((Schema.ofFields partitionFields).readInto 0 ∅).run input =
        .ok record rest ↔
      ∃ listed : ListedPartition,
        listed.IsShort ∧ input = listed.toBytes ++ rest ∧
          record = listed.toRecord := by
  have active : VersionRange.all.contains 0 = true := by
    decide
  simp only [partitionFields, Schema.ofFields,
    Schema.readInto_cons_eq_ok_iff active]
  constructor
  · rintro ⟨_, _, readTopic, _, _, readPartition, _, _, readError, returned⟩
    obtain ⟨topic, short, rfl, rfl⟩ :=
      FieldType.read_string_eq_ok_iff.mp readTopic
    obtain ⟨partition, rfl, rfl⟩ :=
      FieldType.read_int32_eq_ok_iff.mp readPartition
    obtain ⟨code, rfl, rfl⟩ := FieldType.read_int16_eq_ok_iff.mp readError
    cases returned
    refine ⟨⟨⟨topic, partition⟩, code⟩, short, ?_, rfl⟩
    simp only [ListedPartition.toBytes, List.append_assoc]
  · rintro ⟨listed, short, rfl, rfl⟩
    simp only [ListedPartition.toBytes, List.append_assoc]
    refine ⟨_, _, FieldType.read_string_eq_ok_iff.mpr
      ⟨_, short, (List.append_assoc ..).symm, rfl⟩, ?_⟩
    refine ⟨_, _, FieldType.read_int32_eq_ok_iff.mpr ⟨_, rfl, rfl⟩, ?_⟩
    exact ⟨_, _, FieldType.read_int16_eq_ok_iff.mpr ⟨_, rfl, rfl⟩, rfl⟩

/-- The record of a listed partition holds its place and its number. -/
theorem get?_listedRecord (listed : ListedPartition) :
    listed.toRecord.get? "topic" = some (.string listed.place.topic) ∧
      listed.toRecord.get? "partition" = some (.int32 listed.place.partition) ∧
      listed.toRecord.get? "error_code" = some (.int16 listed.code) := by
  refine ⟨?_, ?_, ?_⟩ <;>
    simp [ListedPartition.toRecord, Table.get?_insert]

/-- A listed partition is converted with its error folded. -/
theorem entryOfRecord_toRecord (listed : ListedPartition) :
    entryOfRecord listed.toRecord = .ok listed.toEntry := by
  obtain ⟨topic, partition, code⟩ := get?_listedRecord listed
  have isPlace : TopicPartition.ofRecord listed.toRecord = .ok listed.place :=
    except_bind_eq_ok_iff.mpr
      ⟨_, Record.string_eq_ok_iff.mpr topic,
        except_bind_eq_ok_iff.mpr
          ⟨_, Record.int32_eq_ok_iff.mpr partition, rfl⟩⟩
  exact except_bind_eq_ok_iff.mpr
    ⟨_, Record.int16_eq_ok_iff.mpr code,
      except_bind_eq_ok_iff.mpr ⟨_, isPlace, rfl⟩⟩

/-! ## Reading a body -/

/-- Whether four bytes hold the number of the partitions, and two each topic. -/
structure IsListing (listed : List ListedPartition) : Prop where
  counted : listed.length ≤ Encode.maxCount
  short : ∀ entry ∈ listed, entry.IsShort

/-- The value that is read for a list of partitions. -/
def valueOfListed (listed : List ListedPartition) : Value :=
  .array (listed.map fun entry => .struct entry.toRecord)

/-- A list of partitions is read exactly from its wire form. -/
theorem read_partitions_eq_ok_iff {field : String} {input rest : Bytes}
    {value : Value} :
    ((FieldType.arrayOf partitionFields).read field 0).run input =
        .ok value rest ↔
      ∃ listed,
        IsListing listed ∧
          input =
            Bytes.bigEndian 4 listed.length ++
              listed.flatMap ListedPartition.toBytes ++ rest ∧
          value = valueOfListed listed := by
  have single : ∀ {input rest : Bytes} {value : Value},
      ((FieldType.struct (.ofFields partitionFields)).read field 0).run input =
          .ok value rest ↔
        ∃ listed : ListedPartition,
          listed.IsShort ∧ input = listed.toBytes ++ rest ∧
            value = .struct listed.toRecord := by
    intro input rest value
    rw [FieldType.read, run_convert_eq_ok_iff]
    simp only [readInto_partition_eq_ok_iff]
    constructor
    · rintro ⟨record, ⟨listed, short, shape, rfl⟩, rfl⟩
      exact ⟨listed, short, shape, rfl⟩
    · rintro ⟨listed, short, shape, rfl⟩
      exact ⟨_, ⟨listed, short, shape, rfl⟩, rfl⟩
  rw [FieldType.arrayOf, FieldType.read, run_bind_eq_ok_iff]
  simp only [run_convert_eq_ok_iff, Decode.count_eq_ok_iff,
    Encode.count_eq_ok_iff, Decode.times_eq_ok_iff single]
  constructor
  · rintro ⟨number, between, ⟨_, ⟨counted, rfl⟩, rfl⟩, values,
      ⟨listed, rfl, short, rfl, rfl⟩, rfl⟩
    exact ⟨listed, ⟨counted, short⟩, (List.append_assoc ..).symm, rfl⟩
  · rintro ⟨listed, isListing, rfl, rfl⟩
    exact ⟨_, _, ⟨_, ⟨isListing.counted, rfl⟩, List.append_assoc ..⟩, _,
      ⟨listed, rfl, isListing.short, rfl, rfl⟩, rfl⟩

/-- The record that is read for a body. -/
def recordOfListed (code : Int16) (listed : List ListedPartition) : Record :=
  ((∅ : Record).insert "error_code" (.int16 code)).insert "partitions"
    (valueOfListed listed)

/-- A body is read exactly from a list of partitions behind an error. -/
theorem read_body_eq_ok_iff {bytes rest : Bytes} {record : Record} :
    (ApiKey.stopReplica.responseSchema.read 0).run bytes = .ok record rest ↔
      ∃ code listed,
        IsListing listed ∧ bytes = bodyOfListed code listed ++ rest ∧
          record = recordOfListed code listed := by
  have active : VersionRange.all.contains 0 = true := by
    decide
  have unfolded :
      ApiKey.stopReplica.responseSchema.read 0 =
        (Schema.ofFields
          [{ name := "error_code", type := .int16 },
            { name := "partitions",
              type := .arrayOf partitionFields }]).readInto 0 ∅ :=
    rfl
  rw [unfolded]
  simp only [Schema.ofFields, Schema.readInto_cons_eq_ok_iff active,
    FieldType.read_int16_eq_ok_iff, read_partitions_eq_ok_iff]
  constructor
  · rintro ⟨_, _, ⟨code, rfl, rfl⟩, _, _, ⟨listed, isListing, rfl, rfl⟩,
      returned⟩
    cases returned
    refine ⟨code, listed, isListing, ?_, rfl⟩
    simp only [bodyOfListed, List.append_assoc]
  · rintro ⟨code, listed, isListing, rfl, rfl⟩
    refine ⟨_, _, ⟨code, ?_, rfl⟩, _, _, ⟨listed, isListing, rfl, rfl⟩, rfl⟩
    simp only [bodyOfListed, List.append_assoc]

/-- The entries of a body are put into the map one after the other. -/
theorem ofRecord_recordOfListed (code : Int16)
    (listed : List ListedPartition) :
    ofRecord (recordOfListed code listed) =
      .ok (ofEntries (.ofCode code) (listed.map ListedPartition.toEntry)) := by
  have error :
      (recordOfListed code listed).get? "error_code" = some (.int16 code) := by
    simp [recordOfListed, Table.get?_insert]
  have partitions :
      (recordOfListed code listed).get? "partitions" =
        some (.array ((listed.map ListedPartition.toRecord).map .struct)) := by
    simp [recordOfListed, valueOfListed, Table.get?_insert]
  have converted :
      (listed.map ListedPartition.toRecord).mapM entryOfRecord =
        .ok (listed.map ListedPartition.toEntry) := by
    rw [except_mapM_eq_ok_iff, List.forall₂_map_left_iff,
      List.forall₂_map_right_iff, List.forall₂_same]
    exact fun entry _ => entryOfRecord_toRecord entry
  exact except_bind_eq_ok_iff.mpr
    ⟨_, Record.structArray_eq_ok_iff.mpr partitions,
      except_bind_eq_ok_iff.mpr ⟨_, converted,
        except_bind_eq_ok_iff.mpr
          ⟨_, Record.int16_eq_ok_iff.mpr error, rfl⟩⟩⟩

/-- A body is parsed exactly if it is a list of partitions behind an error. -/
theorem parse_eq_ok_iff {bytes : Bytes} {parsed : Response} :
    Response.parse .stopReplica 0 bytes = .ok parsed ↔
      ∃ code listed rest,
        IsListing listed ∧ bytes = bodyOfListed code listed ++ rest ∧
          parsed =
            .stopReplica
              (ofEntries (.ofCode code)
                (listed.map ListedPartition.toEntry)) := by
  have once : Response.parse .stopReplica 0 bytes =
      Response.parseExact .stopReplica 0 bytes :=
    rfl
  rw [once, Response.parseExact]
  constructor
  · intro read
    split at read
    · next record rest isBody =>
        obtain ⟨code, listed, isListing, shape, rfl⟩ :=
          read_body_eq_ok_iff.mp isBody
        rw [Response.ofRecord, ofRecord_recordOfListed] at read
        cases read
        exact ⟨code, listed, rest, isListing, shape, rfl⟩
    · cases read
  · rintro ⟨code, listed, rest, isListing, rfl, rfl⟩
    rw [read_body_eq_ok_iff.mpr ⟨code, listed, isListing, rfl, rfl⟩]
    simp only [Response.ofRecord, ofRecord_recordOfListed]
    rfl

/-! ## What the map holds -/

/-- Whether a map holds the error of the last entry for each partition. -/
structure HoldsLast (errors : UnorderedMap TopicPartition ErrorCode)
    (listed : List ListedPartition) : Prop where
  last :
    ∀ before place code after,
      listed = before ++ ⟨place, code⟩ :: after →
        place ∉ after.map ListedPartition.place →
          errors.get? place = some (.ofCode code)
  nothingElse :
    ∀ place, place ∉ listed.map ListedPartition.place →
      errors.get? place = none

/-- Each listed partition is put in at its own place. -/
theorem keys_map_toEntry (listed : List ListedPartition) :
    (listed.map ListedPartition.toEntry).map Prod.fst =
      listed.map ListedPartition.place := by
  rw [List.map_map]
  rfl

/-- A map that is filled from a list holds the last entries. -/
theorem holdsLast_ofList (listed : List ListedPartition) :
    HoldsLast (.ofList (listed.map ListedPartition.toEntry)) listed where
  last := by
    rintro before place code after rfl isLast
    rw [← keys_map_toEntry] at isLast
    rw [← UnorderedMap.get?_toTable, UnorderedMap.toTable_ofList,
      List.map_append, List.map_cons]
    exact Table.get?_ofList_append _ _ isLast
  nothingElse := by
    intro place absent
    rw [← keys_map_toEntry] at absent
    rw [← UnorderedMap.get?_toTable, UnorderedMap.toTable_ofList]
    exact Table.get?_ofList_of_not_mem absent

/-- A partition that is listed has a last entry. -/
theorem exists_last {listed : List ListedPartition} {place : TopicPartition}
    (member : place ∈ listed.map ListedPartition.place) :
    ∃ before code after,
      listed = before ++ ⟨place, code⟩ :: after ∧
        place ∉ after.map ListedPartition.place := by
  induction listed with
  | nil =>
      cases member
  | cons entry rest inductionHypothesis =>
      by_cases again : place ∈ rest.map ListedPartition.place
      · obtain ⟨before, code, after, rfl, isLast⟩ := inductionHypothesis again
        exact ⟨entry :: before, code, after, rfl, isLast⟩
      · rcases List.mem_cons.mp member with rfl | later
        · exact ⟨[], entry.code, rest, rfl, again⟩
        · exact (again later).elim

/-- The last entries leave no choice what a map holds. -/
theorem HoldsLast.eq {first second : UnorderedMap TopicPartition ErrorCode}
    {listed : List ListedPartition} (holds : HoldsLast first listed)
    (alsoHolds : HoldsLast second listed) : first = second := by
  refine UnorderedMap.eq_of_get?_eq fun place => ?_
  by_cases member : place ∈ listed.map ListedPartition.place
  · obtain ⟨before, code, after, shape, isLast⟩ := exists_last member
    rw [holds.last before place code after shape isLast,
      alsoHolds.last before place code after shape isLast]
  · rw [holds.nothingElse place member, alsoHolds.nothingElse place member]

/-- A response is the one that holds the last entries of a list. -/
theorem eq_ofEntries_iff {response : StopReplicaResponse} {error : ErrorCode}
    {listed : List ListedPartition} :
    response = ofEntries error (listed.map ListedPartition.toEntry) ↔
      response.error = error ∧ HoldsLast response.partitionErrors listed := by
  constructor
  · rintro rfl
    exact ⟨rfl, holdsLast_ofList listed⟩
  · rintro ⟨rfl, holds⟩
    rw [ofEntries, ← holds.eq (holdsLast_ofList listed)]

/-! ## Writing a body -/

/-- Entries as they are listed, each error by its own number. -/
def listingOf (entries : List (TopicPartition × ErrorCode)) :
    List ListedPartition :=
  entries.map fun entry => ⟨entry.1, entry.2.code⟩

/-- The sorted entries of a response as they are listed. -/
def listing (response : StopReplicaResponse) : List ListedPartition :=
  listingOf response.partitionErrors.sort

/-- A partition whose topic is not too long is written as it is listed. -/
theorem write_partition {field : String} {entry : TopicPartition × ErrorCode}
    (short : entry.1.topic.utf8ByteSize ≤ Encode.maxStringLength) :
    (FieldType.struct (.ofFields partitionFields)).write field 0
        (.struct (entryRecord entry)) =
      .ok (ListedPartition.toBytes ⟨entry.1, entry.2.code⟩) := by
  have active : VersionRange.all.contains 0 = true := by
    decide
  obtain ⟨topic, partition, code⟩ := get?_entryRecord entry
  have wroteTopic :
      FieldType.string.write "topic" 0 (.string entry.1.topic) = .ok _ :=
    Encode.string_eq_ok_iff.mpr ⟨short, rfl⟩
  have wrotePartition :
      FieldType.int32.write "partition" 0 (.int32 entry.1.partition) = .ok _ :=
    rfl
  have wroteCode :
      FieldType.int16.write "error_code" 0 (.int16 entry.2.code) = .ok _ :=
    rfl
  have wroteNothing : Schema.nil.write 0 (entryRecord entry) = .ok [] :=
    rfl
  have wrote :=
    Schema.write_cons_eq_ok active topic wroteTopic
      (Schema.write_cons_eq_ok active partition wrotePartition
        (Schema.write_cons_eq_ok active code wroteCode wroteNothing))
  rw [List.append_nil, ← List.append_assoc] at wrote
  exact wrote

/-- A response lists as many partitions as it has. -/
theorem length_listing (response : StopReplicaResponse) :
    response.listing.length = response.partitions.entries.length :=
  List.length_map _

/-- A response can be listed exactly if its lengths fit. -/
theorem isListing_iff {response : StopReplicaResponse} :
    IsListing response.listing ↔
      (Response.stopReplica response).IsBounded := by
  constructor
  · intro isListing
    refine ⟨response.length_listing ▸ isListing.counted, ?_⟩
    exact List.forall_mem_map.mp isListing.short
  · rintro ⟨counted, short⟩
    exact ⟨response.length_listing ▸ counted, List.forall_mem_map.mpr short⟩

/-- A response that can be listed is written as its listing. -/
theorem encode_eq_ok {response : StopReplicaResponse}
    (isListing : IsListing response.listing) :
    (Response.stopReplica response).encode 0 =
      .ok (bodyOfListed response.error.code response.listing) := by
  have active : VersionRange.all.contains 0 = true := by
    decide
  obtain ⟨counted, short⟩ := isListing_iff.mp isListing
  obtain ⟨error, partitions⟩ := response.get?_toRecord
  have wroteItems :
      writeEach ((FieldType.struct (.ofFields partitionFields)).write
          "partitions" 0)
          (response.partitions.entries.map fun entry =>
            .struct (entryRecord entry)) =
        .ok (response.listing.flatMap ListedPartition.toBytes) := by
    rw [listing, listingOf, List.flatMap_map]
    exact writeEach_map_eq_ok fun entry member =>
      write_partition (short entry member)
  have wroteCount :
      Encode.count "partitions"
          (response.partitions.entries.map fun entry =>
            Value.struct (entryRecord entry)).length =
        .ok (Bytes.bigEndian 4 response.listing.length) := by
    rw [List.length_map, ← response.length_listing]
    exact Encode.count_eq_ok_iff.mpr ⟨isListing.counted, rfl⟩
  have wrotePartitions :=
    FieldType.write_eq_ok_iff.mpr (.array wroteCount wroteItems)
  have wroteError :
      FieldType.int16.write "error_code" 0 (.int16 response.error.code) =
        .ok _ :=
    rfl
  have wroteNothing : Schema.nil.write 0 response.toRecord = .ok [] :=
    rfl
  have wrote :=
    Schema.write_cons_eq_ok active error wroteError
      (Schema.write_cons_eq_ok active partitions wrotePartitions wroteNothing)
  rw [List.append_nil, ← List.append_assoc] at wrote
  exact wrote

/-- A response is written as its listing behind its error. -/
theorem encode_eq_ok_iff {response : StopReplicaResponse} {written : Bytes} :
    (Response.stopReplica response).encode 0 = .ok written ↔
      IsListing response.listing ∧
        written = bodyOfListed response.error.code response.listing := by
  constructor
  · intro encoded
    have isListing :=
      isListing_iff.mpr (Response.exists_encode_iff.mp ⟨written, encoded⟩).2
    exact ⟨isListing,
      Except.ok.inj (encoded.symm.trans (encode_eq_ok isListing))⟩
  · rintro ⟨isListing, rfl⟩
    exact encode_eq_ok isListing

/-! ## Canonical responses -/

/--
How a response is written when its map is walked in some order.

The entries that the walk meets are sorted, which loses none of them, and any
other walk over the map leads to the same list.
-/
structure IsCanonical (response : StopReplicaResponse)
    (walk : Walk TopicPartition ErrorCode) : Prop where
  collected : walk.sort.Perm walk.entries
  ascending :
    (listingOf walk.sort).Pairwise fun first second =>
      first.place.Precedes second.place
  everyOrder :
    ∀ other, response.partitionErrors = .ofWalk other → other.sort = walk.sort
  listed :
    ∀ entry,
      entry ∈ listingOf walk.sort ↔
        ∃ error, response.partitionErrors.get? entry.place = some error ∧
          entry.code = error.code
  written :
    ∀ (correlationId : Int32) (written : Bytes),
      (Response.stopReplica response).serialize correlationId 0 =
          .ok written ↔
        IsListing (listingOf walk.sort) ∧
          written =
            Bytes.ofInt32 correlationId ++
              bodyOfListed response.error.code (listingOf walk.sort)

/-- A response is canonical along every walk over its map. -/
theorem isCanonical {response : StopReplicaResponse}
    {walk : Walk TopicPartition ErrorCode}
    (isWalk : response.partitionErrors = .ofWalk walk) :
    response.IsCanonical walk where
  collected := walk.sort_perm
  ascending := by
    refine List.pairwise_map.mpr (walk.ascending_sort.imp ?_)
    exact fun less => TopicPartition.compare_eq_lt_iff.mp less
  everyOrder := by
    intro other alsoWalk
    refine Walk.sort_eq_of_perm (UnorderedMap.ofWalk_eq_iff.mp ?_)
    rw [← alsoWalk, isWalk]
  listed := by
    intro entry
    have held : ∀ place error,
        (place, error) ∈ walk.sort ↔
          response.partitionErrors.get? place = some error := by
      intro place error
      rw [isWalk, walk.sort_perm.mem_iff]
      exact Walk.mem_entries_iff
    rw [listingOf, List.mem_map]
    constructor
    · rintro ⟨⟨place, error⟩, member, rfl⟩
      exact ⟨error, (held place error).mp member, rfl⟩
    · rintro ⟨error, found, isCode⟩
      refine ⟨(entry.place, error), (held entry.place error).mpr found, ?_⟩
      rw [← isCode]
  written := by
    intro correlationId written
    have listed : response.listing = listingOf walk.sort := by
      rw [listing, isWalk]
      rfl
    rw [Response.serialize_eq_ok_iff, ← listed]
    simp only [encode_eq_ok_iff]
    constructor
    · rintro ⟨_, ⟨isListing, rfl⟩, rfl⟩
      exact ⟨isListing, rfl⟩
    · rintro ⟨isListing, rfl⟩
      exact ⟨_, ⟨isListing, rfl⟩, rfl⟩

/--
How the error codes of a response are counted when its map is walked in some
order: one for the response, and one for each partition.
-/
structure CountsExactly (response : StopReplicaResponse)
    (walk : Walk TopicPartition ErrorCode) : Prop where
  alongWalk :
    (Response.stopReplica response).errorCounts =
      ErrorCode.count (response.error :: walk.values)
  each :
    ∀ code,
      let number :=
        walk.values.count code + if response.error = code then 1 else 0
      (Response.stopReplica response).errorCounts.get? code =
        if number = 0 then none else some number
  noZero :
    ∀ entry ∈ (Response.stopReplica response).errorCounts.entries,
      entry.2 ≠ 0
  total :
    (Response.stopReplica response).errorCounts.values.sum =
      1 + walk.entries.length

/-- A response is counted exactly along every walk over its map. -/
theorem countsExactly {response : StopReplicaResponse}
    {walk : Walk TopicPartition ErrorCode}
    (isWalk : response.partitionErrors = .ofWalk walk) :
    response.CountsExactly walk := by
  have sameValues : response.partitions.values.Perm walk.values := by
    rw [partitions, isWalk]
    exact walk.sort_perm.map Prod.snd
  have alongWalk :
      (Response.stopReplica response).errorCounts =
        ErrorCode.count (response.error :: walk.values) :=
    ErrorCode.count_eq_of_perm (sameValues.cons _)
  have counted := ErrorCounts.of_count (response.error :: walk.values)
  rw [← alongWalk] at counted
  constructor
  case alongWalk =>
    exact alongWalk
  case each =>
    intro code number
    have isNumber :
        (response.error :: walk.values).count code = number := by
      rw [List.count_cons]
      simp only [beq_iff_eq, number]
    have each := counted.each code
    rw [isNumber] at each
    exact each
  case noZero =>
    exact fun entry member => counted.ne_zero member
  case total =>
    have sized : walk.values.length = walk.entries.length :=
      List.length_map _
    have total := counted.total
    rw [List.length_cons, sized, Nat.add_comm] at total
    exact total

/--
Responses about stopped replicas are canonical and counted exactly.

Entries of different partitions may be put in in any order, and the map may be
walked in any order afterwards; in what is read, partitions may come in any
order and any number of times.
-/
theorem canonical_and_countsExactly :
    (∀ (error : ErrorCode) (first second : List (TopicPartition × ErrorCode)),
      first.Perm second → (first.map Prod.fst).Nodup →
        (∀ entry ∈ first,
          (ofEntries error first).partitionErrors.get? entry.1 =
            some entry.2) ∧
          (∀ walk,
            (ofEntries error first).partitionErrors = .ofWalk walk ↔
              walk.entries.Perm first) ∧
          ∀ (correlationId : Int32) (version : Int16),
            (Response.stopReplica (ofEntries error first)).serialize
                correlationId version =
              (Response.stopReplica (ofEntries error second)).serialize
                correlationId version) ∧
      (∀ response : StopReplicaResponse,
        (∃ walk, response.partitionErrors = .ofWalk walk) ∧
          ∀ walk, response.partitionErrors = .ofWalk walk →
            response.IsCanonical walk ∧ response.CountsExactly walk) ∧
      ∀ (bytes : Bytes) (parsed : Response),
        Response.parse .stopReplica 0 bytes = .ok parsed ↔
          ∃ response code listed rest,
            parsed = .stopReplica response ∧ IsListing listed ∧
              bytes = bodyOfListed code listed ++ rest ∧
              response.error = .ofCode code ∧
              HoldsLast response.partitionErrors listed := by
  refine ⟨?inserting, ?writing, ?reading⟩
  case inserting =>
    intro error first second permuted once
    refine ⟨fun entry member => ?_,
      fun walk => UnorderedMap.ofList_eq_ofWalk_iff once,
      fun correlationId version => ?_⟩
    · rw [ofEntries, UnorderedMap.ofList_eq_ofWalk once]
      exact Walk.mem_entries_iff.mp member
    · simp only [ofEntries, UnorderedMap.ofList_eq_of_perm permuted once]
  case writing =>
    intro response
    exact ⟨response.partitionErrors.exists_ofWalk,
      fun walk isWalk => ⟨isCanonical isWalk, countsExactly isWalk⟩⟩
  case reading =>
    intro bytes parsed
    rw [parse_eq_ok_iff]
    constructor
    · rintro ⟨code, listed, rest, isListing, shape, rfl⟩
      exact ⟨_, code, listed, rest, rfl, isListing, shape, rfl,
        holdsLast_ofList listed⟩
    · rintro ⟨response, code, listed, rest, rfl, isListing, shape, isError,
        holds⟩
      refine ⟨code, listed, rest, isListing, shape, ?_⟩
      exact congrArg Response.stopReplica
        (eq_ofEntries_iff.mpr ⟨isError, holds⟩)

/-- A map that is walked downwards, and a body that lists a partition twice. -/
theorem canonical_and_countsExactly_of_repeated :
    let first : List (TopicPartition × ErrorCode) :=
      [(⟨"b", 1⟩, .none), (⟨"a", -1⟩, .notLeaderForPartition)]
    let second : List (TopicPartition × ErrorCode) :=
      [(⟨"a", -1⟩, .notLeaderForPartition), (⟨"b", 1⟩, .none)]
    let listed : List ListedPartition :=
      [⟨⟨"a", 1⟩, 6⟩, ⟨⟨"b", 0⟩, 0⟩, ⟨⟨"a", 1⟩, 1234⟩]
    first.Perm second ∧ (first.map Prod.fst).Nodup ∧
      (Response.stopReplica (ofEntries .none first)).serialize 7 0 =
        (Response.stopReplica (ofEntries .none second)).serialize 7 0 ∧
      (∃ walk : Walk TopicPartition ErrorCode,
        walk.entries = first ∧
          (ofEntries .none second).partitionErrors = .ofWalk walk ∧
          (ofEntries .none second).IsCanonical walk ∧
          (ofEntries .none second).CountsExactly walk) ∧
      ∃ response code read rest,
        .stopReplica (ofEntries .none (listed.map ListedPartition.toEntry)) =
            Response.stopReplica response ∧
          IsListing read ∧
          bodyOfListed 0 listed ++ [9] = bodyOfListed code read ++ rest ∧
          response.error = .ofCode code ∧
          HoldsLast response.partitionErrors read := by
  intro first second listed
  have permuted : first.Perm second :=
    .swap _ _ _
  have once : (first.map Prod.fst).Nodup := by
    decide
  have alsoOnce : (second.map Prod.fst).Nodup := by
    decide
  have isWalk :
      (ofEntries .none second).partitionErrors = .ofWalk ⟨first, once⟩ :=
    (UnorderedMap.ofList_eq_ofWalk_iff alsoOnce).mpr permuted
  have parsed :
      Response.parse .stopReplica 0 (bodyOfListed 0 listed ++ [9]) =
        .ok (.stopReplica
          (ofEntries .none (listed.map ListedPartition.toEntry))) := by
    decide +kernel
  obtain ⟨inserting, writing, reading⟩ := canonical_and_countsExactly
  obtain ⟨isCanonical, countsExactly⟩ := (writing _).2 _ isWalk
  exact ⟨permuted, once, (inserting .none first second permuted once).2.2 7 0,
    ⟨_, rfl, isWalk, isCanonical, countsExactly⟩, (reading _ _).mp parsed⟩

end StopReplicaResponse

end BrokerSession
