import BrokerSession.Proofs.Catalog.Lookup

namespace BrokerSession

/-!
# Falling back to version zero

The answer to a version query is read at the version asked for and, if that
fails, once more at version zero.  A later version only adds a throttle time
behind the fields of version zero, so the version asked for decides about the
throttle time and about nothing else.
-/

variable {version : Int16} {bytes rest : Bytes} {record : Record}

namespace ApiVersionsResponse

/-! ## Bodies of later versions -/

/-- The fields that the answer has at all versions. -/
def permanentFields : List Field :=
  [{ name := "error_code", type := .int16 },
    { name := "api_versions",
      type := .arrayOf
        [{ name := "api_key", type := .int16 },
          { name := "min_version", type := .int16 },
          { name := "max_version", type := .int16 }] }]

/-- The field that later versions add behind them. -/
def throttleField : Field :=
  { name := "throttle_time_ms", type := .int32, versions := .since 1 }

theorem responseSchema_body :
    ApiKey.apiVersions.responseSchema.body =
      Schema.ofFields (permanentFields ++ [throttleField]) := by
  rfl

theorem isPermanent_permanentFields :
    (Schema.ofFields permanentFields).IsPermanent := by
  simp [permanentFields, Schema.ofFields, FieldType.arrayOf,
    Schema.IsPermanent, FieldType.IsPermanent]

/-- A later version reads what version zero reads and then a throttle time. -/
theorem read_late
    (supported : ApiKey.apiVersions.versions.contains version = true)
    (late : 1 ≤ version) :
    ApiKey.apiVersions.responseSchema.read version = (do
      let record ← ApiKey.apiVersions.responseSchema.read 0
      let throttleTimeMs ← Decode.int32 "throttle_time_ms"
      return record.insert "throttle_time_ms" (.int32 throttleTimeMs)) := by
  have sameFields := Schema.IsPermanent.readInto_eq
    (ApiKey.isActive_all supported) (rfl : VersionRange.all.contains 0 = true)
    (Schema.ofFields permanentFields) isPermanent_permanentFields
  have atZero :
      ApiKey.apiVersions.responseSchema.read 0 =
        (Schema.ofFields permanentFields).readInto 0 ∅ := by
    rfl
  have readAdded : ∀ record : Record,
      (Schema.ofFields [throttleField]).readInto version record = (do
        let throttleTimeMs ← Decode.int32 "throttle_time_ms"
        return record.insert "throttle_time_ms" (.int32 throttleTimeMs)) := by
    intro record
    rw [Schema.ofFields, Schema.readInto, throttleField,
      if_pos (VersionRange.contains_since late)]
    simp only [FieldType.read, bind_assoc, pure_bind]
    rfl
  have atVersion :
      ApiKey.apiVersions.responseSchema.read version =
        ApiKey.apiVersions.responseSchema.body.read version :=
    MessageSchema.read_of_contains supported
  rw [atVersion, responseSchema_body, Schema.read, Schema.readInto_append,
    sameFields, atZero]
  simp only [readAdded]

/-- A throttle time that is added to the record is found there. -/
theorem ofRecord_insert {response : ApiVersionsResponse}
    (found : ApiVersionsResponse.ofRecord record = .ok response)
    (throttleTimeMs : Int32) :
    ApiVersionsResponse.ofRecord
        (record.insert "throttle_time_ms" (.int32 throttleTimeMs)) =
      .ok { response with throttleTimeMs } := by
  obtain ⟨records, error, isArray, converted, -, isError, named⟩ :=
    ofRecord_eq_ok_iff.mp found
  let throttled : Record := record.insert "throttle_time_ms" (.int32 throttleTimeMs)
  have others : ∀ {name : String}, name ≠ "throttle_time_ms" →
      throttled.get? name = record.get? name := by
    intro name isOther
    rw [Table.get?_insert, if_neg isOther]
  have added :
      throttled.get? "throttle_time_ms" = some (.int32 throttleTimeMs) := by
    rw [Table.get?_insert, if_pos rfl]
  have isThere : throttled.contains "throttle_time_ms" = true := by
    rw [Table.contains, added]
    rfl
  have stillArray : throttled.structArray "api_versions" = .ok records := by
    rw [Record.structArray_eq_ok_iff] at isArray ⊢
    rwa [others (by decide)]
  have stillError : throttled.int16 "error_code" = .ok error := by
    rw [Record.int16_eq_ok_iff] at isError ⊢
    rwa [others (by decide)]
  refine ofRecord_eq_ok_iff.mpr
    ⟨records, error, stillArray, converted, ?_, stillError, named⟩
  rw [if_pos isThere]
  exact Record.int32_eq_ok_iff.mpr added

/-- The throttle time that a version finds behind a body of version zero. -/
def throttleTimeBehind (version : Int16) (rest : Bytes) : Int32 :=
  if (version = 1 ∨ version = 2) ∧ 4 ≤ rest.length then
    Bytes.toInt32 (rest.take 4)
  else 0

end ApiVersionsResponse

/-! ## Reading once or twice -/

namespace Response

variable {failure : SchemaError}

/-- A refused list of versions is read again at version zero. -/
theorem parse_of_refused
    (refused : parseExact .apiVersions version bytes = .error failure) :
    parse .apiVersions version bytes = parseExact .apiVersions 0 bytes := by
  unfold parse
  rw [refused]

/-- A version that the API does not have is refused before any byte is read. -/
theorem parseExact_unsupported
    (unsupported : ¬ ApiKey.apiVersions.versions.contains version) :
    parseExact .apiVersions version bytes =
      .error (.unsupportedVersion "ApiVersionsResponse" version) := by
  have atVersion :
      ApiKey.apiVersions.responseSchema.read version =
        throw (.unsupportedVersion "ApiVersionsResponse" version) :=
    MessageSchema.read_of_not_contains unsupported
  rw [parseExact, atVersion]
  rfl

section Late

variable (supported : ApiKey.apiVersions.versions.contains version = true)
  (late : 1 ≤ version)

include supported late

/-- A later version takes the four bytes behind a body of version zero. -/
theorem parseExact_late_of_le
    (read :
      (ApiKey.apiVersions.responseSchema.read 0).run bytes = .ok record rest)
    (enough : 4 ≤ rest.length) :
    parseExact .apiVersions version bytes =
      ofRecord .apiVersions version
        (record.insert "throttle_time_ms"
          (.int32 (Bytes.toInt32 (rest.take 4)))) := by
  have sized : (rest.take 4).length = 4 := by
    rw [List.length_take]
    omega
  have took : (Decode.take "throttle_time_ms" 4).run rest =
      .ok (rest.take 4) (rest.drop 4) :=
    Decode.take_eq_ok_iff.mpr ⟨sized, (List.take_append_drop 4 rest).symm⟩
  have readLate :
      (ApiKey.apiVersions.responseSchema.read version).run bytes =
        .ok
          (record.insert "throttle_time_ms"
            (.int32 (Bytes.toInt32 (rest.take 4))))
          (rest.drop 4) := by
    rw [ApiVersionsResponse.read_late supported late]
    refine run_bind_eq_ok_iff.mpr ⟨record, rest, read, ?_⟩
    exact run_bind_eq_ok_iff.mpr
      ⟨_, _, run_convert_eq_ok_iff.mpr ⟨rest.take 4, took, rfl⟩, rfl⟩
  rw [parseExact, readLate]

/-- Fewer than four bytes behind it are too few for a later version. -/
theorem parseExact_late_of_lt
    (read :
      (ApiKey.apiVersions.responseSchema.read 0).run bytes = .ok record rest)
    (short : rest.length < 4) :
    parseExact .apiVersions version bytes =
      .error (.bufferUnderrun "throttle_time_ms" 4 rest.length) := by
  have underrun : (Decode.take "throttle_time_ms" 4).run rest =
      .error (.bufferUnderrun "throttle_time_ms" 4 rest.length) rest :=
    Decode.take_eq_error_iff.mpr ⟨rfl, short, rfl⟩
  have refused :
      (ApiKey.apiVersions.responseSchema.read version).run bytes =
        .error (.bufferUnderrun "throttle_time_ms" 4 rest.length) rest := by
    rw [ApiVersionsResponse.read_late supported late]
    refine run_bind_eq_error_iff.mpr (.inr ⟨record, rest, read, ?_⟩)
    exact run_bind_eq_error_iff.mpr
      (.inl (run_bind_eq_error_iff.mpr (.inl underrun)))
  rw [parseExact, refused]

end Late

/-- What version zero refuses, every version refuses alike. -/
theorem parse_apiVersions_of_error
    (refused :
      (ApiKey.apiVersions.responseSchema.read 0).run bytes =
        .error failure rest)
    (version : Int16) :
    parse .apiVersions version bytes = .error failure := by
  have zero : parseExact .apiVersions 0 bytes = .error failure := by
    rw [parseExact, refused]
  -- Whatever the first attempt is refused for, the second one decides.
  suffices isRefused :
      ∃ early, parseExact .apiVersions version bytes = .error early by
    obtain ⟨early, isRefused⟩ := isRefused
    rw [parse_of_refused isRefused, zero]
  by_cases supported : ApiKey.apiVersions.versions.contains version = true
  · by_cases late : 1 ≤ version
    · refine ⟨failure, ?_⟩
      rw [parseExact, ApiVersionsResponse.read_late supported late,
        EStateM.run_bind, refused]
    · rcases ApiKey.version_cases supported with rfl | rfl | rfl
      · exact ⟨failure, zero⟩
      · exact absurd (by decide) late
      · exact absurd (by decide) late
  · exact ⟨_, parseExact_unsupported supported⟩

/-- What version zero accepts, every version accepts, with a throttle time. -/
theorem parse_apiVersions_of_ok {response : ApiVersionsResponse}
    (read :
      (ApiKey.apiVersions.responseSchema.read 0).run bytes = .ok record rest)
    (found : ApiVersionsResponse.ofRecord record = .ok response)
    (unthrottled : response.throttleTimeMs = 0) (version : Int16) :
    parse .apiVersions version bytes =
      .ok (.apiVersions { response with
        throttleTimeMs :=
          ApiVersionsResponse.throttleTimeBehind version rest }) := by
  have zero : parseExact .apiVersions 0 bytes = .ok (.apiVersions response) := by
    rw [parseExact, read]
    exact except_map_eq_ok_iff.mpr ⟨response, found, rfl⟩
  have asAtZero :
      (.apiVersions { response with throttleTimeMs := 0 } : Response) =
        .apiVersions response := by
    rw [← unthrottled]
  by_cases late : version = 1 ∨ version = 2
  · have supported : ApiKey.apiVersions.versions.contains version = true := by
      rcases late with rfl | rfl <;> rfl
    have isLate : 1 ≤ version := by
      rcases late with rfl | rfl <;> decide
    rw [ApiVersionsResponse.throttleTimeBehind]
    by_cases enough : 4 ≤ rest.length
    · rw [if_pos ⟨late, enough⟩]
      refine parse_of_parseExact ?_
      rw [parseExact_late_of_le supported isLate read enough]
      exact except_map_eq_ok_iff.mpr
        ⟨_, ApiVersionsResponse.ofRecord_insert found _, rfl⟩
    · -- The first attempt ends too early, so the second one is at version zero.
      rw [if_neg fun both => enough both.2, asAtZero]
      have refused := parseExact_late_of_lt supported isLate read
        (Nat.lt_of_not_le enough)
      rw [parse_of_refused refused, zero]
  · rw [ApiVersionsResponse.throttleTimeBehind, if_neg fun both => late both.1,
      asAtZero]
    by_cases supported : ApiKey.apiVersions.versions.contains version = true
    · have isZero : version = 0 :=
        (ApiKey.version_cases supported).resolve_right late
      rw [isZero]
      exact parse_of_parseExact zero
    · rw [parse_of_refused (parseExact_unsupported supported), zero]

/-- A body of version zero has ranges and an error, and no throttle time. -/
theorem exists_unthrottled
    (read :
      (ApiKey.apiVersions.responseSchema.read 0).run bytes = .ok record rest) :
    ∃ response,
      ApiVersionsResponse.ofRecord record = .ok response ∧
        response.throttleTimeMs = 0 ∧
        parse .apiVersions 0 bytes = .ok (.apiVersions response) := by
  obtain ⟨found, isFound⟩ := exists_ofRecord_of_read read
  obtain ⟨response, isContent, rfl⟩ := except_map_eq_ok_iff.mp isFound
  have parsed :
      parseExact .apiVersions 0 bytes = .ok (.apiVersions response) := by
    rw [parseExact, read]
    exact isFound
  have carried := (isSettled_of_parseExact parsed).2.carried
  injection carried with same
  exact ⟨response, isContent, congrArg (·.throttleTimeMs) same.symm,
    parse_of_parseExact parsed⟩

/-- What was written at version zero is read alike at every version. -/
theorem parse_apiVersions_of_encode {content : ApiVersionsResponse}
    {written : Bytes}
    (encoded : encode (.apiVersions content) 0 = .ok written)
    (version : Int16) :
    parse .apiVersions version written =
      .ok (.apiVersions { content with throttleTimeMs := 0 }) := by
  have read := MessageSchema.read_append_of_encode encoded []
  rw [List.append_nil] at read
  have found :
      ApiVersionsResponse.ofRecord
          (ApiKey.apiVersions.responseSchema.body.restrict 0
            (content.toRecord 0)) =
        .ok { content with throttleTimeMs := 0 } :=
    content.ofRecord_restrict rfl
  have nothingBehind : ApiVersionsResponse.throttleTimeBehind version [] = 0 :=
    if_neg fun both => absurd both.2 (by decide)
  rw [parse_apiVersions_of_ok read found rfl version, nothingBehind]

/--
The answer to a version query is accepted and refused as version zero accepts
and refuses it, and says the same at every version but for the throttle time.
That one is taken from the four bytes behind the body of version zero, at
versions 1 and 2 and if there are as many.
-/
theorem parse_apiVersions_falls_back (version : Int16) (bytes : Bytes) :
    ((∃ response, parse .apiVersions version bytes = .ok response) ↔
        ∃ response, parse .apiVersions 0 bytes = .ok response) ∧
      (∀ failure,
        parse .apiVersions version bytes = .error failure →
          parse .apiVersions 0 bytes = .error failure) ∧
      (∀ response, parse .apiVersions version bytes = .ok response →
        ∃ content record body rest,
          ApiKey.apiVersions.responseSchema.encode 0 record = .ok body ∧
            bytes = body ++ rest ∧
            parse .apiVersions 0 bytes = .ok (.apiVersions content) ∧
            response = .apiVersions { content with
              throttleTimeMs :=
                if (version = 1 ∨ version = 2) ∧ 4 ≤ rest.length then
                  Bytes.toInt32 (rest.take 4)
                else 0 }) ∧
      ∀ content written,
        encode (.apiVersions content) 0 = .ok written →
          parse .apiVersions version written =
            .ok (.apiVersions { content with throttleTimeMs := 0 }) := by
  refine ⟨?accepts, ?refuses, ?agrees, fun content written encoded =>
    parse_apiVersions_of_encode encoded version⟩
  all_goals cases read : (ApiKey.apiVersions.responseSchema.read 0).run bytes
  case accepts.error failure rest =>
    rw [parse_apiVersions_of_error read version,
      parse_apiVersions_of_error read 0]
  case accepts.ok record rest =>
    obtain ⟨content, found, unthrottled, atZero⟩ := exists_unthrottled read
    exact iff_of_true
      ⟨_, parse_apiVersions_of_ok read found unthrottled version⟩ ⟨_, atZero⟩
  case refuses.error failure rest =>
    rw [parse_apiVersions_of_error read version,
      parse_apiVersions_of_error read 0]
    exact fun _ refused => refused
  case refuses.ok record rest =>
    obtain ⟨content, found, unthrottled, -⟩ := exists_unthrottled read
    rw [parse_apiVersions_of_ok read found unthrottled version]
    exact nofun
  case agrees.error failure rest =>
    rw [parse_apiVersions_of_error read version]
    exact nofun
  case agrees.ok record rest =>
    obtain ⟨content, found, unthrottled, atZero⟩ := exists_unthrottled read
    have distinct :
        ApiKey.apiVersions.responseSchema.body.hasDistinctNames 0 = true := by
      rfl
    obtain ⟨-, body, encoded, shape⟩ :=
      MessageSchema.encode_of_read (fun _ => distinct) read
    rw [parse_apiVersions_of_ok read found unthrottled version]
    rintro response ⟨⟩
    exact ⟨content, record, body, rest, encoded, shape, atZero, rfl⟩

/-- A body of version zero, with a throttle time behind it, and no body. -/
theorem parse_apiVersions_falls_back_listing :
    (encode (.apiVersions ⟨.none, [⟨18, 0, 2⟩], 9⟩) 0 =
        .ok [0, 0, 0, 0, 0, 1, 0, 18, 0, 0, 0, 2] ∧
      parse .apiVersions (-1) [0, 0, 0, 0, 0, 1, 0, 18, 0, 0, 0, 2] =
        .ok (.apiVersions ⟨.none, [⟨18, 0, 2⟩], 0⟩)) ∧
      (parse .apiVersions 2 [0, 0, 0, 0, 0, 1, 0, 18, 0, 0, 0, 2, 0, 0, 0, 9] =
          .ok (.apiVersions ⟨.none, [⟨18, 0, 2⟩], 9⟩) ∧
        ∃ content,
          parse .apiVersions 0
              [0, 0, 0, 0, 0, 1, 0, 18, 0, 0, 0, 2, 0, 0, 0, 9] =
            .ok (.apiVersions content)) ∧
      parse .apiVersions 2 [] = .error (.bufferUnderrun "error_code" 2 0) ∧
      parse .apiVersions 0 [] = .error (.bufferUnderrun "error_code" 2 0) := by
  have encoded :
      encode (.apiVersions ⟨.none, [⟨18, 0, 2⟩], 9⟩) 0 =
        .ok [0, 0, 0, 0, 0, 1, 0, 18, 0, 0, 0, 2] := by
    rfl
  have parsed :
      parse .apiVersions 2 [0, 0, 0, 0, 0, 1, 0, 18, 0, 0, 0, 2, 0, 0, 0, 9] =
        .ok (.apiVersions ⟨.none, [⟨18, 0, 2⟩], 9⟩) := by
    rfl
  have refused :
      parse .apiVersions 2 [] =
        .error (.bufferUnderrun "error_code" 2 0) := by
    rfl
  obtain ⟨content, -, -, -, -, -, atZero, -⟩ :=
    (parse_apiVersions_falls_back 2 _).2.2.1 _ parsed
  exact
    ⟨⟨encoded, (parse_apiVersions_falls_back (-1) []).2.2.2 _ _ encoded⟩,
      ⟨parsed, content, atZero⟩, refused,
      (parse_apiVersions_falls_back 2 []).2.1 _ refused⟩

end Response

end BrokerSession
