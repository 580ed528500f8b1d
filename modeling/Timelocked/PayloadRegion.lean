import Timelocked.Base
import Timelocked.Blocks

/-!
The stream as stripes of shards: data shards padded with zeros, parity shards
computed from them, every shard behind its own checksum. A record whose
checksum fails is an erasure, and the erasure code fills the erasures in.
-/
namespace PayloadRegion
open ByteCodec RunRules Base Blocks

structure PayloadRegionLayout where
  rsDataShards : UInt16
  rsParityShards : UInt16
  rsShardBytes : UInt32
  deriving DecidableEq, Repr

namespace PayloadRegionLayout

def totalShards (layout : PayloadRegionLayout) : Nat :=
  layout.rsDataShards.toNat + layout.rsParityShards.toNat

def dataBytesPerStripe (layout : PayloadRegionLayout) : Nat :=
  layout.rsDataShards.toNat * layout.rsShardBytes.toNat

def shardRecordLen (layout : PayloadRegionLayout) : Nat := layout.rsShardBytes.toNat + 4

def stripeRecordLen (layout : PayloadRegionLayout) : Nat :=
  layout.totalShards * layout.shardRecordLen

def validate (layout : PayloadRegionLayout) : Except Error Unit := do
  rejectIf (layout.rsDataShards = 0) (.invalidFormat "rs_data_shards must be greater than 0")
  rejectIf (layout.rsParityShards = 0) (.invalidFormat "rs_parity_shards must be greater than 0")
  rejectIf (layout.rsShardBytes = 0) (.invalidFormat "rs_shard_bytes must be greater than 0")

end PayloadRegionLayout

section Codec
variable (crates : Crates)

def encodeShardRecord (shardBytes : Bytes) : Bytes :=
  leBytes (crates.crc32c shardBytes) ++ shardBytes

def decodeShardRecord (recordBytes : Bytes) (shardLen : Nat) : Except Error (Option Bytes) := do
  rejectIf (recordBytes.length ≠ shardLen + 4) (.invalidFormat "invalid shard record length")
  let expectedCrc : UInt32 := ofLeBytes (recordBytes.take 4)
  let shardBytes := recordBytes.drop 4
  if crates.crc32c shardBytes ≠ expectedCrc then pure none else pure (some shardBytes)

def codec (dataShards parityShards : Nat) : Except Error Unit :=
  (crates.rsNew dataShards parityShards).mapError fun err =>
    match err with
    | .tooManyShards => .invalidFormat "unsupported total shard count"
    | .tooFewShardsPresent =>
        .invalidFormat "invalid Reed-Solomon parameters: too few shards present"
    | .other message => .invalidFormat s!"invalid Reed-Solomon parameters: {message}"

def encodeShards (dataShards parityShards : Nat) (shards : List Bytes) :
    Except Error (List Bytes) := do
  codec crates dataShards parityShards
  (crates.rsEncode dataShards parityShards shards).mapError fun err =>
    match err with
    | .tooManyShards => .invalidFormat "Reed-Solomon encode failed: too many shards"
    | .tooFewShardsPresent => .invalidFormat "Reed-Solomon encode failed: too few shards present"
    | .other message => .invalidFormat s!"Reed-Solomon encode failed: {message}"

def reconstructShards (dataShards parityShards : Nat) (shards : List (Option Bytes)) :
    Except Error (List (Option Bytes)) := do
  codec crates dataShards parityShards
  rejectIf (shards.length ≠ dataShards + parityShards)
    (.invalidFormat "invalid shard count for Reed-Solomon reconstruction")
  (crates.rsReconstruct dataShards parityShards shards).mapError fun err =>
    match err with
    | .tooManyShards => .invalidFormat "unsupported total shard count"
    | .tooFewShardsPresent =>
        .verification "payload region is too damaged for Reed-Solomon recovery"
    | .other message => .invalidFormat s!"Reed-Solomon reconstruction failed: {message}"

def stripeCount (totalLen dataBytesPerStripe : Nat) : Nat :=
  if totalLen = 0 then 1 else (totalLen + dataBytesPerStripe - 1) / dataBytesPerStripe

def stripeShards (layout : PayloadRegionLayout) (stripeBytes : Bytes) : List Bytes :=
  padded 0 layout.rsShardBytes.toNat layout.rsDataShards.toNat stripeBytes ++
    List.replicate layout.rsParityShards.toNat (List.replicate layout.rsShardBytes.toNat 0)

def encodeStripe (layout : PayloadRegionLayout) (stripeBytes : Bytes) : Except Error Bytes := do
  let encoded ← encodeShards crates layout.rsDataShards.toNat layout.rsParityShards.toNat
    (stripeShards layout stripeBytes)
  pure (encoded.map (encodeShardRecord crates)).flatten

def encodePayloadRegion (protectedStream : Bytes) (layout : PayloadRegionLayout) :
    Except Error Bytes := do
  layout.validate
  let count := stripeCount protectedStream.length layout.dataBytesPerStripe
  let stripes ← ((List.range count).map (slice layout.dataBytesPerStripe protectedStream)).mapM
    (encodeStripe crates layout)
  pure stripes.flatten

def missingDataShard : Error := .verification "missing reconstructed data shard"

def presentShard (shard : Option Bytes) : Except Error Bytes :=
  match shard with
  | some bytes => .ok bytes
  | none => .error missingDataShard

def reconstructStripe (layout : PayloadRegionLayout) (stripeBytes : Bytes) :
    Except Error Bytes := do
  let shards ← (chunksExact layout.shardRecordLen stripeBytes).mapM fun recordBytes =>
    decodeShardRecord crates recordBytes layout.rsShardBytes.toNat
  let reconstructed ← reconstructShards crates layout.rsDataShards.toNat
    layout.rsParityShards.toNat shards
  let data ← (reconstructed.take layout.rsDataShards.toNat).mapM presentShard
  pure data.flatten

def reconstructPayloadRegion (payloadRegion : Bytes) (protectedStreamLen : UInt64)
    (layout : PayloadRegionLayout) : Except Error Bytes := do
  layout.validate
  rejectIf (layout.stripeRecordLen = 0 ∨ payloadRegion.length % layout.stripeRecordLen ≠ 0)
    (.verification "payload region length mismatch")
  let stripes ← (chunksExact layout.stripeRecordLen payloadRegion).mapM
    (reconstructStripe crates layout)
  let recovered := stripes.flatten
  rejectIf (recovered.length < protectedStreamLen.toNat)
    (.verification "reconstructed protected stream is shorter than expected")
  pure (recovered.take protectedStreamLen.toNat)

end Codec

def encodedPayloadRegionLen (protectedStreamLen : UInt64) (layout : PayloadRegionLayout) :
    Except Error UInt64 := do
  layout.validate
  let count := stripeCount protectedStreamLen.toNat layout.dataBytesPerStripe
  pure (UInt64.ofNat count * UInt64.ofNat layout.stripeRecordLen)

/-! The erasure code, as far as its documentation promises it. -/

section Codec
variable (crates : Crates)

/-- A received stripe: every shard is as it was encoded, or is missing. -/
def Received (encoded : List Bytes) (shards : List (Option Bytes)) : Prop :=
  List.Forall₂ (fun shard got => got = some shard ∨ got = none) encoded shards

/-- Encoding keeps the data shards, the number of shards and their width. -/
structure SystematicCode (dataShards parityShards : Nat) : Prop where
  systematic : ∀ shards encoded, crates.rsEncode dataShards parityShards shards = .ok encoded →
    shards.length = dataShards + parityShards →
    encoded.length = dataShards + parityShards ∧
      encoded.take dataShards = shards.take dataShards ∧
      ∀ width, (∀ shard ∈ shards, shard.length = width) → ∀ shard ∈ encoded, shard.length = width

/-- Enough shards of a stripe determine the rest. -/
structure ErasureCode (dataShards parityShards : Nat) : Prop extends
    SystematicCode crates dataShards parityShards where
  determines : ∀ shards encoded received,
    crates.rsEncode dataShards parityShards shards = .ok encoded →
    shards.length = dataShards + parityShards → Received encoded received →
    dataShards ≤ received.countP Option.isSome →
    crates.rsReconstruct dataShards parityShards received = .ok (encoded.map some)

/-- A stripe nothing is missing from is left as it is. -/
structure IntactCode (dataShards parityShards : Nat) : Prop extends
    SystematicCode crates dataShards parityShards where
  intact : ∀ shards encoded, crates.rsEncode dataShards parityShards shards = .ok encoded →
    shards.length = dataShards + parityShards →
    crates.rsReconstruct dataShards parityShards (encoded.map some) = .ok (encoded.map some)

def changedRecords (layout : PayloadRegionLayout) (stored damaged : Bytes) : List (Bytes × Bytes) :=
  ((chunksExact layout.shardRecordLen stored).zip
    (chunksExact layout.shardRecordLen damaged)).filter fun pair => pair.1 ≠ pair.2

/-- Damage within the budget: few records changed, each caught by its checksum. -/
structure DamagedStripe (layout : PayloadRegionLayout) (stored damaged : Bytes) : Prop where
  few : (changedRecords layout stored damaged).length ≤ layout.rsParityShards.toNat
  detected : ∀ pair ∈ changedRecords layout stored damaged,
    decodeShardRecord crates pair.2 layout.rsShardBytes.toNat = .ok none

def DamagedRegion (layout : PayloadRegionLayout) (stored damaged : Bytes) : Prop :=
  damaged.length = stored.length ∧
    List.Forall₂ (DamagedStripe crates layout) (chunksExact layout.stripeRecordLen stored)
      (chunksExact layout.stripeRecordLen damaged)

theorem encodeShardRecord_length (shardBytes : Bytes) :
    (encodeShardRecord crates shardBytes).length = shardBytes.length + 4 := by
  rw [encodeShardRecord, List.length_append, leBytes_length, Nat.add_comm]
  rfl

theorem decodeShardRecord_encode (shardBytes : Bytes) :
    decodeShardRecord crates (encodeShardRecord crates shardBytes) shardBytes.length =
      .ok (some shardBytes) := by
  have length : ¬ (encodeShardRecord crates shardBytes).length ≠ shardBytes.length + 4 := by
    rw [encodeShardRecord_length]
    exact fun wrong => wrong rfl
  have checksum : (encodeShardRecord crates shardBytes).take 4 =
      leBytes (crates.crc32c shardBytes) :=
    List.take_left' (by rw [leBytes_length]; rfl)
  have payload : (encodeShardRecord crates shardBytes).drop 4 = shardBytes :=
    List.drop_left' (by rw [leBytes_length]; rfl)
  unfold decodeShardRecord
  rw [rejectIf, if_neg length, ok_bind]
  dsimp only
  rw [checksum, payload, ofLeBytes_leBytes, if_neg (by simp), pure_eq_ok]

/-- Record by record: what is unchanged is read, what is changed is an erasure. -/
theorem decodeShardRecords_damaged (width : Nat) (shards damaged : List Bytes)
    (widths : ∀ shard ∈ shards, shard.length = width) (same : damaged.length = shards.length)
    (detected : ∀ pair ∈ ((shards.map (encodeShardRecord crates)).zip damaged).filter
      fun pair => pair.1 ≠ pair.2, decodeShardRecord crates pair.2 width = .ok none) :
    ∃ received, damaged.mapM (fun record => decodeShardRecord crates record width) =
        .ok received ∧ Received shards received ∧
      shards.length - (((shards.map (encodeShardRecord crates)).zip damaged).filter
        fun pair => pair.1 ≠ pair.2).length ≤ received.countP Option.isSome := by
  simp only [mapM_eq_ok]
  induction shards generalizing damaged with
  | nil =>
      obtain rfl := List.eq_nil_of_length_eq_zero same
      exact ⟨[], .nil, .nil, by simp⟩
  | cons shard rest ih =>
      obtain ⟨record, others, rfl⟩ := List.exists_cons_of_length_eq_add_one same
      rw [List.map_cons, List.zip_cons_cons] at detected
      obtain ⟨received, decoded, matched, enough⟩ := ih others
        (fun other member => widths other (by simp [member])) (by simpa using same)
        (fun pair member => detected pair (by
          rw [List.filter_cons]
          split
          · exact List.mem_cons_of_mem _ member
          · exact member))
      -- A changed record is counted by the filter, an unchanged one by the shards found.
      by_cases intact : encodeShardRecord crates shard = record
      · subst intact
        refine ⟨some shard :: received, .cons ?_ decoded, .cons (.inl rfl) matched, ?_⟩
        · rw [← widths shard (by simp)]
          exact decodeShardRecord_encode crates shard
        · simp only [List.map_cons, List.zip_cons_cons, List.filter_cons, ne_eq, not_true_eq_false,
            decide_false, Bool.false_eq_true, if_false, List.length_cons, List.countP_cons,
            Option.isSome_some, if_true]
          simp only [ne_eq] at enough
          omega
      · refine ⟨none :: received, .cons ?_ decoded, .cons (.inr rfl) matched, ?_⟩
        · exact detected (encodeShardRecord crates shard, record) (by
            rw [List.filter_cons, if_pos (by simpa using intact)]
            exact List.mem_cons_self)
        · simp only [List.map_cons, List.zip_cons_cons, List.filter_cons, ne_eq, intact,
            not_false_eq_true, decide_true, if_true, List.length_cons, List.countP_cons,
            Option.isSome_none, Bool.false_eq_true, if_false]
          simp only [ne_eq] at enough
          omega

theorem received_length (encoded : List Bytes) (received : List (Option Bytes))
    (matched : Received encoded received) : received.length = encoded.length :=
  (List.Forall₂.length_eq matched).symm

theorem presentShards (shards : List Bytes) : (shards.map some).mapM presentShard = .ok shards := by
  rw [mapM_eq_ok, List.forall₂_map_left_iff, List.forall₂_same]
  exact fun _ _ => rfl

theorem encodeShards_ok (dataShards parityShards : Nat) (shards encoded : List Bytes)
    (success : encodeShards crates dataShards parityShards shards = .ok encoded) :
    crates.rsNew dataShards parityShards = .ok () ∧
      crates.rsEncode dataShards parityShards shards = .ok encoded := by
  unfold encodeShards codec at success
  obtain ⟨_, made, encoding⟩ := (bind_eq_ok _ _ _).mp success
  rw [mapError_eq_ok] at made encoding
  exact ⟨made, encoding⟩

section Stripe
variable (layout : PayloadRegionLayout)

theorem stripeShards_length (stripeBytes : Bytes) :
    (stripeShards layout stripeBytes).length =
      layout.rsDataShards.toNat + layout.rsParityShards.toNat := by
  rw [stripeShards, List.length_append, padded_length, List.length_replicate]

theorem stripeShards_widths (stripeBytes : Bytes) :
    ∀ shard ∈ stripeShards layout stripeBytes, shard.length = layout.rsShardBytes.toNat := by
  intro shard member
  rcases List.mem_append.mp member with data | parity
  · exact padded_widths _ _ _ _ shard data
  · rw [List.eq_of_mem_replicate parity, List.length_replicate]

variable (code : SystematicCode crates layout.rsDataShards.toNat layout.rsParityShards.toNat)
include code

/-- What an encoded stripe consists of. -/
theorem encodeStripe_ok (stripeBytes stored : Bytes)
    (success : encodeStripe crates layout stripeBytes = .ok stored) :
    ∃ encoded, crates.rsNew layout.rsDataShards.toNat layout.rsParityShards.toNat = .ok () ∧
      crates.rsEncode layout.rsDataShards.toNat layout.rsParityShards.toNat
        (stripeShards layout stripeBytes) = .ok encoded ∧
      encoded.length = layout.totalShards ∧
      (∀ shard ∈ encoded, shard.length = layout.rsShardBytes.toNat) ∧
      encoded.take layout.rsDataShards.toNat =
        padded 0 layout.rsShardBytes.toNat layout.rsDataShards.toNat stripeBytes ∧
      stored = (encoded.map (encodeShardRecord crates)).flatten ∧
      chunksExact layout.shardRecordLen stored = encoded.map (encodeShardRecord crates) := by
  unfold encodeStripe at success
  obtain ⟨encoded, encoding, returned⟩ := (bind_eq_ok _ _ _).mp success
  cases returned
  obtain ⟨made, encoding⟩ := encodeShards_ok crates _ _ _ _ encoding
  obtain ⟨count, kept, widths⟩ :=
    code.systematic _ _ encoding (stripeShards_length layout stripeBytes)
  have sized := widths _ (stripeShards_widths layout stripeBytes)
  refine ⟨encoded, made, encoding, count, sized, ?_, rfl, ?_⟩
  · rw [kept, stripeShards]
    exact List.take_left' (padded_length _ _ _ _)
  · apply chunksExact_flatten layout.shardRecordLen _ (Nat.succ_pos _)
    intro record member
    obtain ⟨shard, there, rfl⟩ := List.mem_map.mp member
    rw [encodeShardRecord_length, sized shard there]
    rfl

theorem encodeStripe_length (stripeBytes stored : Bytes)
    (success : encodeStripe crates layout stripeBytes = .ok stored) :
    stored.length = layout.stripeRecordLen := by
  obtain ⟨encoded, _, _, count, widths, _, rfl, _⟩ :=
    encodeStripe_ok crates layout code stripeBytes stored success
  rw [flatten_length layout.shardRecordLen, List.length_map, count]
  · rfl
  · intro record member
    obtain ⟨shard, there, rfl⟩ := List.mem_map.mp member
    rw [encodeShardRecord_length, widths shard there]
    rfl

omit code in
/-- A stripe whose shards the code gets back is read as it was written, padded. -/
theorem reconstructStripe_received (stripeBytes damaged : Bytes) (encoded : List Bytes)
    (received : List (Option Bytes)) (short : stripeBytes.length ≤ layout.dataBytesPerStripe)
    (made : crates.rsNew layout.rsDataShards.toNat layout.rsParityShards.toNat = .ok ())
    (data : encoded.take layout.rsDataShards.toNat =
      padded 0 layout.rsShardBytes.toNat layout.rsDataShards.toNat stripeBytes)
    (decoded : (chunksExact layout.shardRecordLen damaged).mapM (fun record =>
      decodeShardRecord crates record layout.rsShardBytes.toNat) = .ok received)
    (count : received.length = layout.totalShards)
    (determined : crates.rsReconstruct layout.rsDataShards.toNat layout.rsParityShards.toNat
      received = .ok (encoded.map some)) :
    reconstructStripe crates layout damaged =
      .ok (padTo 0 layout.dataBytesPerStripe stripeBytes) := by
  have known : codec crates layout.rsDataShards.toNat layout.rsParityShards.toNat = .ok () := by
    rw [codec, made]
    rfl
  have filled : (encoded.map some).take layout.rsDataShards.toNat =
      (padded 0 layout.rsShardBytes.toNat layout.rsDataShards.toNat stripeBytes).map some := by
    rw [← List.map_take, data]
  have whole : ¬ received.length ≠ layout.rsDataShards.toNat + layout.rsParityShards.toNat := by
    rw [count]
    exact fun wrong => wrong rfl
  unfold reconstructStripe reconstructShards
  rw [decoded, ok_bind, known, ok_bind, rejectIf, if_neg whole, ok_bind, determined]
  simp only [Except.mapError, ok_bind, filled, presentShards, pure_eq_ok]
  rw [padded_flatten _ _ _ _ short]
  rfl

/-- The stripes of a region, one after the other, spell the stream and padding,
when each is read as it was written whatever happened to it. -/
theorem reconstructStripes_repaired (Fate : Bytes → Bytes → Prop)
    (repairs : ∀ stripeBytes stored damaged, stripeBytes.length ≤ layout.dataBytesPerStripe →
      encodeStripe crates layout stripeBytes = .ok stored → damaged.length = stored.length →
      Fate stored damaged → reconstructStripe crates layout damaged =
        .ok (padTo 0 layout.dataBytesPerStripe stripeBytes))
    (stripes stored damaged : List Bytes)
    (short : ∀ stripeBytes ∈ stripes, stripeBytes.length ≤ layout.dataBytesPerStripe)
    (success : stripes.mapM (encodeStripe crates layout) = .ok stored)
    (same : ∀ stripeBytes ∈ damaged, stripeBytes.length = layout.stripeRecordLen)
    (fates : List.Forall₂ Fate stored damaged) :
    damaged.mapM (reconstructStripe crates layout) =
      .ok (stripes.map (padTo 0 layout.dataBytesPerStripe)) := by
  rw [mapM_eq_ok] at success ⊢
  induction success generalizing damaged with
  | nil =>
      cases fates
      exact .nil
  | @cons stripeBytes storedBytes rest storedRest head _ ih =>
      cases fates with
      | @cons _ received _ others fate later =>
          refine .cons ?_ (ih others (fun other member => short other (by simp [member]))
            (fun other member => same other (by simp [member])) later)
          refine repairs _ _ _ (short _ (by simp)) head ?_ fate
          rw [same received (by simp), encodeStripe_length crates layout code _ _ head]

end Stripe

/-- A stripe damaged within its budget is read as it was written, padded. -/
theorem reconstructStripe_damaged (layout : PayloadRegionLayout)
    (code : ErasureCode crates layout.rsDataShards.toNat layout.rsParityShards.toNat)
    (stripeBytes stored damaged : Bytes)
    (short : stripeBytes.length ≤ layout.dataBytesPerStripe)
    (success : encodeStripe crates layout stripeBytes = .ok stored)
    (same : damaged.length = stored.length)
    (damage : DamagedStripe crates layout stored damaged) :
    reconstructStripe crates layout damaged =
      .ok (padTo 0 layout.dataBytesPerStripe stripeBytes) := by
  have storedLength :=
    encodeStripe_length crates layout code.toSystematicCode stripeBytes stored success
  obtain ⟨encoded, made, encoding, count, widths, data, rfl, cutBack⟩ :=
    encodeStripe_ok crates layout code.toSystematicCode stripeBytes stored success
  have wide : 0 < layout.shardRecordLen := Nat.succ_pos _
  have damagedCount : (chunksExact layout.shardRecordLen damaged).length = encoded.length := by
    rw [chunksExact_length, same, storedLength, PayloadRegionLayout.stripeRecordLen,
      Nat.mul_div_cancel _ wide, count]
  obtain ⟨few, detected⟩ := damage
  rw [changedRecords, cutBack] at few detected
  obtain ⟨received, decoded, matched, enough⟩ := decodeShardRecords_damaged crates
    layout.rsShardBytes.toNat encoded (chunksExact layout.shardRecordLen damaged) widths
    damagedCount detected
  -- Few enough records changed, so the data shards are determined by the rest.
  have present : layout.rsDataShards.toNat ≤ received.countP Option.isSome := by
    rw [count, PayloadRegionLayout.totalShards] at enough
    omega
  have determined := code.determines _ _ _ encoding (stripeShards_length layout stripeBytes)
    matched present
  exact reconstructStripe_received crates layout stripeBytes damaged encoded received short made
    data decoded (by rw [received_length _ _ matched, count]) determined

/-- A stripe nothing happened to is read as it was written, padded. -/
theorem reconstructStripe_intact (layout : PayloadRegionLayout)
    (code : IntactCode crates layout.rsDataShards.toNat layout.rsParityShards.toNat)
    (stripeBytes stored : Bytes) (short : stripeBytes.length ≤ layout.dataBytesPerStripe)
    (success : encodeStripe crates layout stripeBytes = .ok stored) :
    reconstructStripe crates layout stored =
      .ok (padTo 0 layout.dataBytesPerStripe stripeBytes) := by
  obtain ⟨encoded, made, encoding, count, widths, data, _, cutBack⟩ :=
    encodeStripe_ok crates layout code.toSystematicCode stripeBytes stored success
  have decoded : (chunksExact layout.shardRecordLen stored).mapM (fun record =>
      decodeShardRecord crates record layout.rsShardBytes.toNat) = .ok (encoded.map some) := by
    rw [cutBack, mapM_eq_ok, List.forall₂_map_left_iff, List.forall₂_map_right_iff,
      List.forall₂_same]
    intro shard member
    rw [← widths shard member]
    exact decodeShardRecord_encode crates shard
  exact reconstructStripe_received crates layout stripeBytes stored encoded _ short made data
    decoded (by rw [List.length_map, count])
    (code.intact _ _ encoding (stripeShards_length layout stripeBytes))

theorem PayloadRegionLayout.validate_ok (layout : PayloadRegionLayout) :
    layout.validate = .ok () ↔
      layout.rsDataShards ≠ 0 ∧ layout.rsParityShards ≠ 0 ∧ layout.rsShardBytes ≠ 0 := by
  simp only [PayloadRegionLayout.validate, bind_eq_ok, rejectIf_eq_ok, exists_and_left,
    exists_const, ne_eq]

theorem PayloadRegionLayout.validate_positive (layout : PayloadRegionLayout)
    (valid : layout.validate = .ok ()) :
    0 < layout.dataBytesPerStripe ∧ 0 < layout.stripeRecordLen := by
  obtain ⟨data, _, bytes⟩ := layout.validate_ok.mp valid
  have dataPositive : 0 < layout.rsDataShards.toNat :=
    Nat.pos_of_ne_zero fun zero => data (UInt16.toNat_inj.mp zero)
  have bytesPositive : 0 < layout.rsShardBytes.toNat :=
    Nat.pos_of_ne_zero fun zero => bytes (UInt32.toNat_inj.mp zero)
  constructor
  · exact Nat.mul_pos dataPositive bytesPositive
  · exact Nat.mul_pos (Nat.lt_of_lt_of_le dataPositive (Nat.le_add_right _ _)) (Nat.succ_pos _)

theorem stripeCount_enough (totalLen dataBytesPerStripe : Nat) (positive : 0 < dataBytesPerStripe) :
    totalLen ≤ stripeCount totalLen dataBytesPerStripe * dataBytesPerStripe := by
  unfold stripeCount
  split
  · rename_i empty
    rw [empty]
    exact Nat.zero_le _
  · have below := Nat.lt_div_mul_add (a := totalLen + dataBytesPerStripe - 1) positive
    omega

/-- A region whose stripes are read as they were written holds the whole stream. -/
theorem reconstructPayloadRegion_repaired (layout : PayloadRegionLayout)
    (code : SystematicCode crates layout.rsDataShards.toNat layout.rsParityShards.toNat)
    (Fate : Bytes → Bytes → Prop)
    (repairs : ∀ stripeBytes stored damaged, stripeBytes.length ≤ layout.dataBytesPerStripe →
      encodeStripe crates layout stripeBytes = .ok stored → damaged.length = stored.length →
      Fate stored damaged → reconstructStripe crates layout damaged =
        .ok (padTo 0 layout.dataBytesPerStripe stripeBytes))
    (stream stored damaged : Bytes) (protectedStreamLen : UInt64)
    (length : stream.length = protectedStreamLen.toNat)
    (success : encodePayloadRegion crates stream layout = .ok stored)
    (same : damaged.length = stored.length)
    (fates : List.Forall₂ Fate (chunksExact layout.stripeRecordLen stored)
      (chunksExact layout.stripeRecordLen damaged)) :
    reconstructPayloadRegion crates damaged protectedStreamLen layout = .ok stream := by
  unfold encodePayloadRegion at success
  obtain ⟨_, valid, striping⟩ := (bind_eq_ok _ _ _).mp success
  obtain ⟨stripes, striped, returned⟩ := (bind_eq_ok _ _ _).mp striping
  cases returned
  obtain ⟨dataPositive, recordPositive⟩ := layout.validate_positive valid
  -- Both regions are cut at the same places, since every stripe has one width.
  have widths : ∀ stripe ∈ stripes, stripe.length = layout.stripeRecordLen := by
    intro stripe member
    obtain ⟨stripeBytes, encoded⟩ := mapM_output _ _ _ striped stripe member
    exact encodeStripe_length crates layout code _ _ encoded
  rw [chunksExact_flatten _ _ recordPositive widths] at fates
  have short : ∀ stripeBytes ∈ (List.range (stripeCount stream.length
      layout.dataBytesPerStripe)).map (slice layout.dataBytesPerStripe stream),
      stripeBytes.length ≤ layout.dataBytesPerStripe := by
    intro stripeBytes member
    obtain ⟨index, _, rfl⟩ := List.mem_map.mp member
    exact slice_length_le _ _ _
  have repaired := reconstructStripes_repaired crates layout code Fate repairs _ _ _ short striped
    (chunksExact_widths layout.stripeRecordLen damaged) fates
  have padding : ((List.range (stripeCount stream.length layout.dataBytesPerStripe)).map
      (slice layout.dataBytesPerStripe stream)).map (padTo 0 layout.dataBytesPerStripe) =
        padded 0 layout.dataBytesPerStripe
          (stripeCount stream.length layout.dataBytesPerStripe) stream := by
    rw [List.map_map]
    rfl
  have whole : ¬ (layout.stripeRecordLen = 0 ∨ damaged.length % layout.stripeRecordLen ≠ 0) := by
    rw [not_or, not_not, same, flatten_length _ _ widths]
    exact ⟨recordPositive.ne', Nat.mul_mod_left _ _⟩
  -- The repaired stripes spell the stream, then the padding that is cut off.
  have spelled := padded_flatten (0 : UInt8) _ _ _ (stripeCount_enough stream.length _ dataPositive)
  unfold reconstructPayloadRegion
  rw [valid, ok_bind, rejectIf, if_neg whole, ok_bind, repaired, ok_bind, padding]
  dsimp only
  rw [spelled, rejectIf, if_neg (by rw [List.length_append]; omega), ok_bind, ← length,
    List.take_left, pure_eq_ok]

/-- Within the budget of every stripe, a damaged region holds the whole stream. -/
theorem reconstructPayloadRegion_damaged (layout : PayloadRegionLayout)
    (code : ErasureCode crates layout.rsDataShards.toNat layout.rsParityShards.toNat)
    (stream stored damaged : Bytes) (protectedStreamLen : UInt64)
    (length : stream.length = protectedStreamLen.toNat)
    (success : encodePayloadRegion crates stream layout = .ok stored)
    (damage : DamagedRegion crates layout stored damaged) :
    reconstructPayloadRegion crates damaged protectedStreamLen layout = .ok stream :=
  reconstructPayloadRegion_repaired crates layout code.toSystematicCode
    (DamagedStripe crates layout) (reconstructStripe_damaged crates layout code) stream stored
    damaged protectedStreamLen length success damage.1 damage.2

/-- So does a region nothing happened to. -/
theorem reconstructPayloadRegion_intact (layout : PayloadRegionLayout)
    (code : IntactCode crates layout.rsDataShards.toNat layout.rsParityShards.toNat)
    (stream stored : Bytes) (protectedStreamLen : UInt64)
    (length : stream.length = protectedStreamLen.toNat)
    (success : encodePayloadRegion crates stream layout = .ok stored) :
    reconstructPayloadRegion crates stored protectedStreamLen layout = .ok stream := by
  refine reconstructPayloadRegion_repaired crates layout code.toSystematicCode Eq ?_ stream stored
    stored protectedStreamLen length success rfl (List.forall₂_same.mpr fun _ _ => rfl)
  rintro stripeBytes stored' _ short encoded _ rfl
  exact reconstructStripe_intact crates layout code stripeBytes stored' short encoded

/-- Repeating a single data shard is an erasure code. -/
theorem plainCrates_code (parityShards : Nat) : ErasureCode plainCrates 1 parityShards := by
  refine ⟨⟨?_⟩, ?_⟩
  · intro shards encoded encoding count
    obtain rfl := Except.ok.inj encoding
    obtain ⟨first, rest, rfl⟩ := List.exists_cons_of_length_pos (by omega : 0 < shards.length)
    refine ⟨by rw [List.length_map, count], rfl, ?_⟩
    intro width widths shard member
    obtain ⟨_, _, rfl⟩ := List.mem_map.mp member
    exact widths first (by simp)
  · intro shards encoded received encoding count matched present
    obtain rfl := Except.ok.inj encoding
    -- Every shard holds the same bytes, so any one received will do.
    obtain ⟨found, hit⟩ : ∃ found, received.find? Option.isSome = some found := by
      obtain ⟨got, member, there⟩ := List.countP_pos_iff.mp present
      exact Option.isSome_iff_exists.mp (List.find?_isSome.mpr ⟨got, member, there⟩)
    have same : found = some (shards.headD []) := by
      have member := List.mem_of_find?_eq_some hit
      have there := List.find?_some hit
      have all : ∀ got ∈ received, got = some (shards.headD []) ∨ got = none := by
        intro got inside
        obtain ⟨index, bound, rfl⟩ := List.mem_iff_getElem.mp inside
        have pair := matched.get (i := index) (by
          rw [← received_length _ _ matched]
          exact bound) bound
        simpa using pair
      rcases all found member with known | missing
      · exact known
      · rw [missing] at there
        cases there
    have sameLength := received_length _ _ matched
    simp only [plainCrates, hit, same, List.map_map]
    rw [List.map_const', sameLength, List.length_map]
    simp [Function.comp_def]

/-- No damage is damage within the budget. -/
theorem damagedRegion_refl (layout : PayloadRegionLayout) (stored : Bytes) :
    DamagedRegion crates layout stored stored := by
  refine ⟨rfl, List.forall₂_same.mpr fun stripe _ => ?_⟩
  have unchanged : changedRecords layout stripe stripe = [] := by
    rw [changedRecords, List.filter_eq_nil_iff]
    intro pair member
    have same := List.forall₂_iff_zip.mp (List.forall₂_same.mpr fun _ _ => rfl) |>.2 member
    simpa using same
  exact ⟨by rw [unchanged]; exact Nat.zero_le _, by rw [unchanged]; simp⟩

end Codec

end PayloadRegion
