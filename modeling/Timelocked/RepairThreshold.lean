import Timelocked.PayloadRegion

/-!
How much damage a payload region survives. A region of the stored length whose
records are unchanged wherever their checksums match is read as the stored
stream when no stripe has more failing records than it has parity shards, and
is refused otherwise, wherever the failing records are.
-/
namespace PayloadRegion
open ByteCodec RunRules Base Blocks

section Codec
variable (crates : Crates)

/-- An erasure code for up to 256 shards, that refuses a stripe of which too
few shards are present. -/
structure ThresholdCode (dataShards parityShards : Nat) : Prop extends
    ErasureCode crates dataShards parityShards where
  available : dataShards + parityShards ≤ 256 → crates.rsNew dataShards parityShards = .ok ()
  encodes : dataShards + parityShards ≤ 256 → ∀ width shards,
    shards.length = dataShards + parityShards → (∀ shard ∈ shards, shard.length = width) →
    0 < width → ∃ encoded, crates.rsEncode dataShards parityShards shards = .ok encoded
  tooFew : ∀ received, received.length = dataShards + parityShards →
    received.countP Option.isSome < dataShards →
    ∃ reason, crates.rsReconstruct dataShards parityShards received = .error reason

def CrcFails (record : Bytes) : Prop :=
  crates.crc32c (record.drop 4) ≠ ofLeBytes (record.take 4)

instance : DecidablePred (CrcFails crates) := fun _ => inferInstanceAs (Decidable (_ ≠ _))

section Layout
variable (layout : PayloadRegionLayout)

def failingRecords (stripe : Bytes) : Nat :=
  (chunksExact layout.shardRecordLen stripe).countP fun record => decide (CrcFails crates record)

/-- Every record of a damaged stripe fails its checksum or is the stored one. -/
def DetectedStripe (stored damaged : Bytes) : Prop :=
  List.Forall₂ (fun storedRecord record => CrcFails crates record ∨ storedRecord = record)
    (chunksExact layout.shardRecordLen stored) (chunksExact layout.shardRecordLen damaged)

structure DetectedRegion (stored damaged : Bytes) : Prop where
  same : damaged.length = stored.length
  stripes : List.Forall₂ (DetectedStripe crates layout)
    (chunksExact layout.stripeRecordLen stored) (chunksExact layout.stripeRecordLen damaged)

def WithinBudget (damaged : Bytes) : Prop :=
  ∀ stripe ∈ chunksExact layout.stripeRecordLen damaged,
    failingRecords crates layout stripe ≤ layout.rsParityShards.toNat

theorem decodeShardRecord_eq (record : Bytes) (width : Nat) (sized : record.length = width + 4) :
    decodeShardRecord crates record width =
      .ok (if CrcFails crates record then none else some (record.drop 4)) := by
  unfold decodeShardRecord
  rw [rejectIf, if_neg (not_not.mpr sized), ok_bind]
  dsimp only
  by_cases fails : CrcFails crates record
  · rw [if_pos fails, if_pos (show crates.crc32c _ ≠ ofLeBytes _ from fails), pure_eq_ok]
  · rw [if_neg fails, if_neg (show ¬ crates.crc32c _ ≠ ofLeBytes _ from fails), pure_eq_ok]

theorem stripe_records (stripe : Bytes) (whole : stripe.length = layout.stripeRecordLen) :
    (chunksExact layout.shardRecordLen stripe).length = layout.totalShards := by
  rw [chunksExact_length, whole, PayloadRegionLayout.stripeRecordLen]
  exact Nat.mul_div_cancel _ (Nat.succ_pos _)

/-- The erasures of a stripe are its failing records. -/
theorem decodeShardRecords_erasures (stripe : Bytes) :
    ∃ received, (chunksExact layout.shardRecordLen stripe).mapM (fun record =>
        decodeShardRecord crates record layout.rsShardBytes.toNat) = .ok received ∧
      received.length = (chunksExact layout.shardRecordLen stripe).length ∧
      received.countP Option.isSome + failingRecords crates layout stripe = received.length := by
  have sized := chunksExact_widths layout.shardRecordLen stripe
  unfold failingRecords
  simp only [mapM_eq_ok]
  generalize chunksExact layout.shardRecordLen stripe = records at sized ⊢
  induction records with
  | nil => exact ⟨[], .nil, rfl, rfl⟩
  | cons record rest ih =>
      obtain ⟨received, decoded, length, count⟩ :=
        ih fun other member => sized other (List.mem_cons_of_mem _ member)
      have first := decodeShardRecord_eq crates record layout.rsShardBytes.toNat
        (sized record (by simp))
      refine ⟨_, .cons first decoded, by simp [length], ?_⟩
      by_cases fails : CrcFails crates record
      · simp only [fails, if_true, List.countP_cons, Option.isSome_none, decide_true,
          List.length_cons]
        simp
        omega
      · simp only [fails, if_false, List.countP_cons, Option.isSome_some, decide_false,
          List.length_cons]
        simp
        omega

theorem reconstructStripe_refused
    (code : ThresholdCode crates layout.rsDataShards.toNat layout.rsParityShards.toNat)
    (stripe : Bytes) (whole : stripe.length = layout.stripeRecordLen)
    (many : layout.rsParityShards.toNat < failingRecords crates layout stripe) (data : Bytes) :
    reconstructStripe crates layout stripe ≠ .ok data := by
  intro success
  obtain ⟨received, decoded, length, count⟩ := decodeShardRecords_erasures crates layout stripe
  rw [stripe_records layout stripe whole, PayloadRegionLayout.totalShards] at length
  unfold reconstructStripe reconstructShards at success
  rw [decoded, ok_bind] at success
  obtain ⟨_, reconstruction, _⟩ := (bind_eq_ok _ _ _).mp success
  obtain ⟨_, _, checked⟩ := (bind_eq_ok _ _ _).mp reconstruction
  obtain ⟨_, _, filled⟩ := (bind_eq_ok _ _ _).mp checked
  rw [mapError_eq_ok] at filled
  -- fewer records pass than there are data shards
  have few : received.countP Option.isSome < layout.rsDataShards.toNat := by omega
  obtain ⟨reason, failed⟩ := code.tooFew received length few
  rw [failed] at filled
  cases filled

theorem changed_le_failing (stored damaged : List Bytes)
    (detected : List.Forall₂ (fun storedRecord record =>
      CrcFails crates record ∨ storedRecord = record) stored damaged) :
    ((stored.zip damaged).filter fun pair => pair.1 ≠ pair.2).length ≤
      damaged.countP fun record => decide (CrcFails crates record) := by
  induction detected with
  | nil => simp
  | @cons storedRecord record _ _ head _ ih =>
      rw [List.zip_cons_cons, List.filter_cons, List.countP_cons]
      by_cases same : storedRecord = record
      · rw [if_neg (by simpa using same)]
        omega
      · have fails : CrcFails crates record := head.resolve_right same
        rw [if_pos (by simpa using same), if_pos (by simpa using fails), List.length_cons]
        omega

theorem detected_damaged (stored damaged : Bytes)
    (detected : DetectedStripe crates layout stored damaged)
    (few : failingRecords crates layout damaged ≤ layout.rsParityShards.toNat) :
    DamagedStripe crates layout stored damaged := by
  refine ⟨(changed_le_failing crates _ _ detected).trans few, ?_⟩
  rintro ⟨storedRecord, record⟩ changed
  obtain ⟨paired, different⟩ := List.mem_filter.mp changed
  have sized := chunksExact_widths layout.shardRecordLen damaged record (List.of_mem_zip paired).2
  rcases (List.forall₂_iff_zip.mp detected).2 paired with fails | same
  · rw [decodeShardRecord_eq crates record _ sized, if_pos fails]
  · exact absurd same (by simpa using different)

theorem detectedRegion_damaged (stored damaged : Bytes)
    (detected : DetectedRegion crates layout stored damaged)
    (within : WithinBudget crates layout damaged) :
    DamagedRegion crates layout stored damaged := by
  refine ⟨detected.same, ?_⟩
  apply List.forall₂_iff_zip.mpr
  refine ⟨detected.stripes.length_eq, ?_⟩
  intro storedStripe stripe paired
  apply detected_damaged
  · exact (List.forall₂_iff_zip.mp detected.stripes).2 paired
  · exact within stripe (List.of_mem_zip paired).2

theorem reconstructPayloadRegion_refused
    (code : ThresholdCode crates layout.rsDataShards.toNat layout.rsParityShards.toNat)
    (damaged : Bytes) (protectedStreamLen : UInt64)
    (exceeded : ¬ WithinBudget crates layout damaged) :
    ∃ reason, reconstructPayloadRegion crates damaged protectedStreamLen layout =
      .error reason := by
  cases outcome : reconstructPayloadRegion crates damaged protectedStreamLen layout with
  | error reason => exact ⟨reason, rfl⟩
  | ok stream =>
      exfalso
      unfold reconstructPayloadRegion at outcome
      obtain ⟨_, _, o₁⟩ := (bind_eq_ok _ _ _).mp outcome
      obtain ⟨_, _, o₂⟩ := (bind_eq_ok _ _ _).mp o₁
      obtain ⟨stripes, read, _⟩ := (bind_eq_ok _ _ _).mp o₂
      apply exceeded
      intro stripe member
      by_contra many
      obtain ⟨data, success⟩ := mapM_input _ _ _ read stripe member
      have whole := chunksExact_widths layout.stripeRecordLen damaged stripe member
      exact reconstructStripe_refused crates layout code stripe whole (by omega) data success

theorem encodeStripe_total
    (code : ThresholdCode crates layout.rsDataShards.toNat layout.rsParityShards.toNat)
    (few : layout.totalShards ≤ 256) (wide : layout.rsShardBytes ≠ 0) (stripeBytes : Bytes) :
    ∃ stored, encodeStripe crates layout stripeBytes = .ok stored := by
  have positive : 0 < layout.rsShardBytes.toNat :=
    Nat.pos_of_ne_zero fun zero => wide (UInt32.toNat_inj.mp zero)
  obtain ⟨encoded, encoding⟩ := code.encodes few _ _ (stripeShards_length layout stripeBytes)
    (stripeShards_widths layout stripeBytes) positive
  refine ⟨(encoded.map (encodeShardRecord crates)).flatten, ?_⟩
  rw [encodeStripe, encodeShards, codec, code.available few, encoding]
  rfl

/-- Every stream is encoded, in as many bytes as stripes of records take. -/
theorem encodePayloadRegion_total
    (code : ThresholdCode crates layout.rsDataShards.toNat layout.rsParityShards.toNat)
    (valid : layout.validate = .ok ()) (few : layout.totalShards ≤ 256) (stream : Bytes) :
    ∃ stored, encodePayloadRegion crates stream layout = .ok stored ∧
      stored.length =
        stripeCount stream.length layout.dataBytesPerStripe * layout.stripeRecordLen := by
  have wide := (layout.validate_ok.mp valid).2.2
  obtain ⟨stripes, striped⟩ := mapM_total (encodeStripe crates layout)
    ((List.range (stripeCount stream.length layout.dataBytesPerStripe)).map
      (slice layout.dataBytesPerStripe stream))
    fun stripeBytes _ => encodeStripe_total crates layout code few wide stripeBytes
  refine ⟨stripes.flatten, ?_, ?_⟩
  · unfold encodePayloadRegion
    rw [valid, ok_bind]
    dsimp only
    rw [striped]
    rfl
  · have count := ((mapM_eq_ok _ _ _).mp striped).length_eq
    rw [List.length_map, List.length_range] at count
    rw [count]
    apply flatten_length
    intro stripe member
    obtain ⟨stripeBytes, encoded⟩ := mapM_output _ _ _ striped stripe member
    exact encodeStripe_length crates layout code.toSystematicCode _ _ encoded

theorem encodedPayloadRegionLen_eq (protectedStreamLen : UInt64) (valid : layout.validate = .ok ())
    (length : Nat) (fits : length < 2 ^ 64)
    (total : length = stripeCount protectedStreamLen.toNat layout.dataBytesPerStripe *
      layout.stripeRecordLen) :
    ∃ announced, encodedPayloadRegionLen protectedStreamLen layout = .ok announced ∧
      announced.toNat = length := by
  refine ⟨UInt64.ofNat length, ?_, ?_⟩
  · unfold encodedPayloadRegionLen
    rw [valid, ok_bind, total, UInt64.ofNat_mul]
    rfl
  · rw [UInt64.toNat_ofNat']
    exact Nat.mod_eq_of_lt fits

/-- A stream is encoded in the announced length, and of its region, when
checksums tell every changed record, is read back exactly within the budget. -/
theorem payloadRegion_threshold
    (code : ThresholdCode crates layout.rsDataShards.toNat layout.rsParityShards.toNat)
    (valid : layout.validate = .ok ()) (few : layout.totalShards ≤ 256) (stream : Bytes)
    (protectedStreamLen : UInt64) (length : stream.length = protectedStreamLen.toNat) :
    ∃ stored, encodePayloadRegion crates stream layout = .ok stored ∧
      (stored.length < 2 ^ 64 → ∃ announced,
        encodedPayloadRegionLen protectedStreamLen layout = .ok announced ∧
          announced.toNat = stored.length) ∧
      ∀ damaged, DetectedRegion crates layout stored damaged →
        (WithinBudget crates layout damaged →
          reconstructPayloadRegion crates damaged protectedStreamLen layout = .ok stream) ∧
        (¬ WithinBudget crates layout damaged → ∃ reason,
          reconstructPayloadRegion crates damaged protectedStreamLen layout = .error reason) := by
  obtain ⟨stored, encoded, total⟩ := encodePayloadRegion_total crates layout code valid few stream
  refine ⟨stored, encoded, ?_, ?_⟩
  · intro fits
    rw [length] at total
    exact encodedPayloadRegionLen_eq layout protectedStreamLen valid _ fits total
  · intro damaged detected
    constructor
    · intro within
      exact reconstructPayloadRegion_damaged crates layout code.toErasureCode stream stored damaged
        protectedStreamLen length encoded
        (detectedRegion_damaged crates layout stored damaged detected within)
    · intro exceeded
      exact reconstructPayloadRegion_refused crates layout code damaged protectedStreamLen exceeded

end Layout
end Codec

theorem plainCrates_threshold (parityShards : Nat) : ThresholdCode plainCrates 1 parityShards := by
  refine ⟨plainCrates_code parityShards, fun _ => rfl, fun _ _ _ _ _ _ => ⟨_, rfl⟩, ?_⟩
  intro received _ few
  have none : received.find? Option.isSome = none := by
    apply List.find?_eq_none.mpr
    have count : received.countP Option.isSome = 0 := by omega
    exact List.countP_eq_zero.mp count
  exact ⟨.tooFewShardsPresent, by simp only [plainCrates, none]⟩

def repeatedLayout : PayloadRegionLayout := ⟨1, 2, 2⟩

theorem payloadRegion_threshold_repeated :
    ∃ stored, encodePayloadRegion plainCrates [5, 6, 7] repeatedLayout = .ok stored ∧
      (stored.length < 2 ^ 64 → ∃ announced,
        encodedPayloadRegionLen 3 repeatedLayout = .ok announced ∧
          announced.toNat = stored.length) ∧
      ∀ damaged, DetectedRegion plainCrates repeatedLayout stored damaged →
        (WithinBudget plainCrates repeatedLayout damaged →
          reconstructPayloadRegion plainCrates damaged 3 repeatedLayout = .ok [5, 6, 7]) ∧
        (¬ WithinBudget plainCrates repeatedLayout damaged → ∃ reason,
          reconstructPayloadRegion plainCrates damaged 3 repeatedLayout = .error reason) :=
  payloadRegion_threshold plainCrates repeatedLayout (plainCrates_threshold 2) rfl (by decide)
    [5, 6, 7] 3 rfl

end PayloadRegion
