import Timelocked.Panics
import Timelocked.Recovery

/-!
The reader once more, with every slice, sum, product, remainder and `expect`
of the source as an operation that may panic, in the source's order. It agrees
with the reader of the other modules on every byte string, so none of these
operations is ever applied outside its domain.
-/
namespace GuardedReader
open ByteCodec RunRules Base Blocks Superblock Panics

/-- `from_le_bytes(bytes[start..stop].try_into().expect(..))`. -/
def wordAt (word : Type) [Word word] (bytes : Bytes) (start stop : Nat) : Guarded Error word := do
  let window ← slice bytes start stop
  let array ← toArray (Word.width word) window
  pure (ofLeBytes array)

section Crates
variable (crates : Crates)

def decodeStartSuperblockCopy (bytes : Bytes) : Guarded Error ValidatedSuperblockCopy := do
  returns (rejectIf (bytes.length < 12) (.invalidFormat "invalid start superblock magic"))
  let magic ← sliceTo bytes 4
  returns (rejectIf (magic ≠ startSuperblockMagic)
    (.invalidFormat "invalid start superblock magic"))
  let length ← wordAt UInt32 bytes 4 8
  returns (rejectIf (length.toNat > maxSuperblockBodyLenBytes)
    (.invalidFormat "unreasonable start superblock length"))
  let totalLen ← add 12 length.toNat
  returns (rejectIf (bytes.length < totalLen) (.invalidFormat "truncated start superblock"))
  let crc ← wordAt UInt32 bytes 8 12
  let bodyBytes ← slice bytes 12 totalLen
  returns (validateCrc crates bodyBytes crc)
  let body ← returns (decodeSuperblockBody bodyBytes)
  pure ⟨body, bodyBytes, totalLen⟩

def decodeEndSuperblockCopy (bytes : Bytes) : Guarded Error ValidatedSuperblockCopy := do
  returns (rejectIf (bytes.length < 12) (.invalidFormat "invalid end superblock magic"))
  let magicOffset ← sub bytes.length 4
  let magic ← sliceFrom bytes magicOffset
  returns (rejectIf (magic ≠ endSuperblockMagic) (.invalidFormat "invalid end superblock magic"))
  let lenOffset ← sub bytes.length 8
  let crcOffset ← sub bytes.length 12
  let length ← wordAt UInt32 bytes lenOffset magicOffset
  returns (rejectIf (length.toNat > maxSuperblockBodyLenBytes)
    (.invalidFormat "unreasonable end superblock length"))
  let totalLen ← add length.toNat 12
  returns (rejectIf (bytes.length ≠ totalLen) (.invalidFormat "end superblock length mismatch"))
  let bodyBytes ← sliceTo bytes crcOffset
  let crc ← wordAt UInt32 bytes crcOffset lenOffset
  returns (validateCrc crates bodyBytes crc)
  let body ← returns (decodeSuperblockBody bodyBytes)
  pure ⟨body, bodyBytes, bytes.length⟩

def decodeNotice (bytes : Bytes) : Guarded Error (String × Nat) := do
  returns (rejectIf (bytes.length < 6) (.invalidFormat "invalid file magic"))
  let magic ← sliceTo bytes 4
  returns (rejectIf (magic ≠ Notice.fileMagic) (.invalidFormat "invalid file magic"))
  let noticeLen ← wordAt UInt16 bytes 4 6
  returns (rejectIf (noticeLen.toNat > Notice.maxNoticeBytes)
    (.invalidFormat "invalid notice length"))
  let stop ← add 6 noticeLen.toNat
  returns (rejectIf (bytes.length < stop) (.invalidFormat "truncated notice"))
  let text ← slice bytes 6 stop
  match fromUtf8 text with
  | none => returns (.error (.invalidFormat "notice is not valid UTF-8"))
  | some notice => pure (notice, stop)

def startsCopy (bytes : Bytes) (offset : Nat) : Guarded Error Bool := do
  let stop ← add offset 4
  let window ← slice bytes offset stop
  if window = startSuperblockMagic then
    let tail ← sliceFrom bytes offset
    let copy ← attempt (decodeStartSuperblockCopy crates tail)
    pure copy.isSome
  else pure false

def noticeEnd (bytes : Bytes) : Guarded Error (Option Nat) := do
  match ← attempt (decodeNotice bytes) with
  | none => pure none
  | some (_, stop) =>
      let after ← add stop 4
      if bytes.length ≥ after then
        let found ← startsCopy crates bytes stop
        pure (if found then some stop else none)
      else pure none

def scan (bytes : Bytes) : List Nat → Guarded Error (Option Nat)
  | [] => pure none
  | offset :: rest => do
      let found ← startsCopy crates bytes offset
      if found then pure (some offset) else scan bytes rest

def findStartSuperblockOffset (bytes : Bytes) : Guarded Error Nat := do
  returns (rejectIf (bytes.length < 6) (.invalidFormat "invalid file magic"))
  let magic ← sliceTo bytes 4
  returns (rejectIf (magic ≠ Notice.fileMagic) (.invalidFormat "invalid file magic"))
  match ← noticeEnd crates bytes with
  | some stop => pure stop
  | none =>
      let limit ← add 6 Notice.noticeScanWindowBytes
      match ← scan crates bytes (List.range' 6 (min bytes.length limit - 3 - 6)) with
      | some offset => pure offset
      | none => returns (.error (.invalidFormat "unable to locate a valid start superblock"))

def decodeEndCopyFromFile (bytes : Bytes) : Guarded Error (Nat × ValidatedSuperblockCopy) := do
  returns (rejectIf (bytes.length < 12) (.invalidFormat "file is too small"))
  let magicOffset ← sub bytes.length 4
  let magic ← sliceFrom bytes magicOffset
  returns (rejectIf (magic ≠ endSuperblockMagic) (.invalidFormat "invalid end superblock magic"))
  let lenOffset ← sub bytes.length 8
  let _crcOffset ← sub bytes.length 12
  let bodyLen ← wordAt UInt32 bytes lenOffset magicOffset
  let totalLen ← add bodyLen.toNat 12
  returns (rejectIf (bytes.length < totalLen) (.invalidFormat "truncated end superblock"))
  let start ← sub bytes.length totalLen
  let tail ← sliceFrom bytes start
  let copy ← decodeEndSuperblockCopy crates tail
  pure (start, copy)

def startCopyOf (bytes : Bytes) : Guarded Error (Option (Nat × ValidatedSuperblockCopy)) := do
  match ← attempt (findStartSuperblockOffset crates bytes) with
  | none => pure none
  | some offset =>
      let tail ← sliceFrom bytes offset
      let copy ← attempt (decodeStartSuperblockCopy crates tail)
      pure (copy.map fun copy => (offset, copy))

def startOffset (startCopy endCopy : Option (Nat × ValidatedSuperblockCopy))
    (chosen : ValidatedSuperblockCopy) : Guarded Error Nat :=
  match startCopy with
  | some (offset, _) => pure offset
  | none => do
      let (end_, _) ← expect "chosen start or end copy must exist" endCopy
      let failed := Error.invalidFormat "invalid offsets while recovering from end superblock"
      let region ← returns (ArtifactReader.checkedSub end_ chosen.body.payloadRegionLen.toNat failed)
      returns (ArtifactReader.checkedSub region chosen.totalLen failed)

def regionOffset (startCopy endCopy : Option (Nat × ValidatedSuperblockCopy))
    (chosen : ValidatedSuperblockCopy) : Guarded Error Nat :=
  match startCopy with
  | some (offset, copy) =>
      returns (ArtifactReader.checkedAdd offset copy.totalLen
        (.invalidFormat "payload region offset overflow"))
  | none => do
      let (end_, _) ← expect "chosen start or end copy must exist" endCopy
      returns (ArtifactReader.checkedSub end_ chosen.body.payloadRegionLen.toNat
        (.invalidFormat "invalid payload region offset from end superblock"))

def readTimelockedArtifactBytes (bytes : Bytes) :
    Guarded Error ArtifactReader.StoredTimelockedArtifact := do
  returns (rejectIf (bytes.length < 6) (.invalidFormat "file is too small"))
  let startCopy ← startCopyOf crates bytes
  let endCopy ← attempt (decodeEndCopyFromFile crates bytes)
  let chosen ← returns (chooseSuperblockCopy (startCopy.map Prod.snd) (endCopy.map Prod.snd))
  let startSuperblockOffset ← startOffset startCopy endCopy chosen
  let payloadRegionOffset ← regionOffset startCopy endCopy chosen
  let endSuperblockOffset ←
    returns (ArtifactReader.endOffset endCopy chosen payloadRegionOffset)
  let payloadRegionEnd ← returns (ArtifactReader.checkedAdd payloadRegionOffset
    chosen.body.payloadRegionLen.toNat (.invalidFormat "payload region length overflow"))
  returns (rejectIf (payloadRegionEnd > bytes.length)
    (.verification "payload region length mismatch"))
  returns (rejectIf (endSuperblockOffset < payloadRegionEnd)
    (.verification "payload region length mismatch"))
  let decoded ← attempt (decodeNotice bytes)
  let notice := match decoded with
    | some (notice, _) => notice
    | none => Notice.defaultNoticeText
  pure {
    notice := notice
    superblock := chosen.body
    superblockBytes := chosen.bodyBytes
    header := ArtifactReader.headerFromSuperblock crates chosen.body notice
    startSuperblockOffset := startSuperblockOffset
    payloadRegionOffset := payloadRegionOffset
    endSuperblockOffset := endSuperblockOffset
    fileLen := bytes.length }

def payloadRegionOf (artifact : ArtifactReader.StoredTimelockedArtifact) (bytes : Bytes) :
    Guarded Error Bytes := do
  let start := artifact.payloadRegionOffset
  let stop ← returns (ArtifactReader.checkedAdd start artifact.superblock.payloadRegionLen.toNat
    (.invalidFormat "payload region length overflow"))
  returns (rejectIf (stop > bytes.length) (.verification "payload region length mismatch"))
  slice bytes start stop

section Layout
variable (layout : PayloadRegion.PayloadRegionLayout)

def totalShards : Guarded Error Nat := add layout.rsDataShards.toNat layout.rsParityShards.toNat

def shardRecordLen : Guarded Error Nat := add layout.rsShardBytes.toNat 4

def stripeRecordLen : Guarded Error Nat := do
  let shards ← totalShards layout
  let recordLen ← shardRecordLen layout
  mul shards recordLen

def decodeShardRecord (recordBytes : Bytes) (shardLen : Nat) : Guarded Error (Option Bytes) := do
  let recordLen ← add shardLen 4
  returns (rejectIf (recordBytes.length ≠ recordLen) (.invalidFormat "invalid shard record length"))
  let expectedCrc ← wordAt UInt32 recordBytes 0 4
  let shardBytes ← sliceFrom recordBytes 4
  if crates.crc32c shardBytes ≠ expectedCrc then pure none else pure (some shardBytes)

def reconstructShards (shards : List (Option Bytes)) : Guarded Error (List (Option Bytes)) := do
  let _total ← add layout.rsDataShards.toNat layout.rsParityShards.toNat
  returns (PayloadRegion.reconstructShards crates layout.rsDataShards.toNat
    layout.rsParityShards.toNat shards)

def reconstructStripe (stripeBytes : Bytes) : Guarded Error Bytes := do
  let recordLen ← shardRecordLen layout
  let records ← chunks recordLen stripeBytes
  let shards ← records.mapM fun recordBytes =>
    decodeShardRecord crates recordBytes layout.rsShardBytes.toNat
  let reconstructed ← reconstructShards crates layout shards
  let data ← returns ((reconstructed.take layout.rsDataShards.toNat).mapM
    PayloadRegion.presentShard)
  pure data.flatten

def reconstructPayloadRegion (payloadRegion : Bytes) (protectedStreamLen : UInt64) :
    Guarded Error Bytes := do
  returns layout.validate
  let recordLen ← stripeRecordLen layout
  returns (rejectIf (recordLen = 0) (.verification "payload region length mismatch"))
  let rest ← rem payloadRegion.length recordLen
  returns (rejectIf (rest ≠ 0) (.verification "payload region length mismatch"))
  let stripes ← chunks recordLen payloadRegion
  let recovered ← stripes.mapM (reconstructStripe crates layout)
  returns (rejectIf (recovered.flatten.length < protectedStreamLen.toNat)
    (.verification "reconstructed protected stream is shorter than expected"))
  pure (recovered.flatten.take protectedStreamLen.toNat)

end Layout

def readProtectedStream (bytes : Bytes) :
    Guarded Error (ArtifactReader.StoredTimelockedArtifact × Bytes) := do
  let parsed ← readTimelockedArtifactBytes crates bytes
  let payloadRegion ← payloadRegionOf parsed bytes
  let protectedStream ← reconstructPayloadRegion crates (Recovery.layoutOf parsed.superblock)
    payloadRegion parsed.superblock.protectedStreamLen
  pure (parsed, protectedStream)

theorem wordAt_eq {word : Type} [Word word] (bytes : Bytes) (start stop : Nat)
    (width : start + Word.width word = stop) (inside : stop ≤ bytes.length) :
    wordAt word bytes start stop = .ok (ofLeBytes (range bytes start stop)) := by
  have length : (range bytes start stop).length = Word.width word := by
    rw [range_length bytes start stop inside]
    omega
  unfold wordAt
  rw [slice_eq bytes start stop (by omega) inside, ok_bind, ← range, toArray_eq _ _ length, ok_bind]
  rfl

/-- `||` does not evaluate its right side when the left one holds. -/
theorem rejectIf_or {α : Type} (left right : Prop) [Decidable left] [Decidable right]
    (reason : Error) (next : Unit → Except Error α) :
    (rejectIf (left ∨ right) reason >>= next) =
      (rejectIf left reason >>= fun _ => rejectIf right reason >>= next) := by
  by_cases first : left <;> by_cases second : right <;> simp [rejectIf, first, second]

theorem decodeStartSuperblockCopy_agrees (bytes : Bytes) :
    Agrees (decodeStartSuperblockCopy crates bytes)
      (Superblock.decodeStartSuperblockCopy crates bytes) := by
  unfold decodeStartSuperblockCopy Superblock.decodeStartSuperblockCopy
  rw [rejectIf_or]
  apply agrees_rejectIf
  intro large
  apply agrees_step (sliceTo_eq bytes 4 (by omega))
  apply agrees_rejectIf
  intro _
  apply agrees_step (wordAt_eq bytes 4 8 rfl (by omega))
  apply agrees_rejectIf
  intro small
  apply agrees_step (add_eq 12 _ (by simp only [maxSuperblockBodyLenBytes] at small; omega))
  apply agrees_rejectIf
  intro whole
  apply agrees_step (wordAt_eq bytes 8 12 rfl (by omega))
  apply agrees_step (slice_eq bytes 12 _ (by omega) (by omega))
  apply agrees_bind (agrees_returns _)
  intro _ _
  apply agrees_bind (agrees_returns _)
  intro body _
  exact agrees_pure _

theorem decodeEndSuperblockCopy_agrees (bytes : Bytes) :
    Agrees (decodeEndSuperblockCopy crates bytes)
      (Superblock.decodeEndSuperblockCopy crates bytes) := by
  unfold decodeEndSuperblockCopy Superblock.decodeEndSuperblockCopy
  rw [rejectIf_or]
  apply agrees_rejectIf
  intro large
  apply agrees_step (sub_eq bytes.length 4 (by omega))
  apply agrees_step (sliceFrom_eq bytes _ (by omega))
  apply agrees_rejectIf
  intro _
  apply agrees_step (sub_eq bytes.length 8 (by omega))
  apply agrees_step (sub_eq bytes.length 12 (by omega))
  apply agrees_step (wordAt_eq bytes _ _ (by simp only [Word.width]; omega) (by omega))
  apply agrees_rejectIf
  intro small
  apply agrees_step (add_eq _ 12 (by simp only [maxSuperblockBodyLenBytes] at small; omega))
  apply agrees_rejectIf
  intro whole
  apply agrees_step (sliceTo_eq bytes _ (by omega))
  apply agrees_step (wordAt_eq bytes _ _ (by simp only [Word.width]; omega) (by omega))
  apply agrees_bind (agrees_returns _)
  intro _ _
  apply agrees_bind (agrees_returns _)
  intro body _
  exact agrees_pure _

theorem decodeNotice_agrees (bytes : Bytes) :
    Agrees (decodeNotice bytes) (Notice.decodeNotice bytes) := by
  unfold decodeNotice Notice.decodeNotice
  rw [rejectIf_or]
  apply agrees_rejectIf
  intro large
  apply agrees_step (sliceTo_eq bytes 4 (by omega))
  apply agrees_rejectIf
  intro _
  apply agrees_step (wordAt_eq bytes 4 6 rfl (by omega))
  apply agrees_rejectIf
  intro small
  apply agrees_step (add_eq 6 _ (by simp only [Notice.maxNoticeBytes] at small; omega))
  apply agrees_rejectIf
  intro whole
  apply agrees_step (slice_eq bytes 6 _ (by omega) (by omega))
  change Agrees _ (match fromUtf8 (range bytes 6 _) with | none => _ | some _ => _)
  rw [← range]
  cases fromUtf8 (range bytes 6 (6 + (ofLeBytes (range bytes 4 6) : UInt16).toNat)) with
  | none => exact agrees_returns _
  | some notice => exact agrees_pure _

/-- The search reads only windows inside the file. -/
theorem startsCopy_eq (bytes : Bytes) (offset : Nat) (inside : offset + 4 ≤ bytes.length)
    (fits : offset + 4 < 2 ^ 64) :
    startsCopy crates bytes offset = .ok (Notice.startsCopy crates bytes offset) := by
  unfold startsCopy Notice.startsCopy
  rw [add_eq offset 4 fits, ok_bind, slice_eq bytes offset _ (by omega) inside, ok_bind, ← range]
  by_cases magic : range bytes offset (offset + 4) = startSuperblockMagic
  · rw [if_pos magic, sliceFrom_eq bytes offset (by omega), ok_bind,
      attempt_agrees (decodeStartSuperblockCopy_agrees crates _), ok_bind, decide_eq_true magic,
      Bool.true_and]
    cases Superblock.decodeStartSuperblockCopy crates (bytes.drop offset) <;> rfl
  · rw [if_neg magic, decide_eq_false magic, Bool.false_and]
    rfl

theorem scan_eq (bytes : Bytes) (offsets : List Nat)
    (inside : ∀ offset ∈ offsets, offset + 4 ≤ bytes.length ∧ offset + 4 < 2 ^ 64) :
    scan crates bytes offsets = .ok (offsets.find? (Notice.startsCopy crates bytes)) := by
  induction offsets with
  | nil => rfl
  | cons offset rest ih =>
      obtain ⟨within, fits⟩ := inside offset (by simp)
      have later := ih fun other member => inside other (by simp [member])
      rw [scan, startsCopy_eq crates bytes offset within fits, ok_bind, List.find?_cons]
      cases found : Notice.startsCopy crates bytes offset with
      | true => rfl
      | false => exact later

theorem decodeNotice_stop (bytes : Bytes) (notice : String) (stop : Nat)
    (decoded : Notice.decodeNotice bytes = .ok (notice, stop)) :
    stop ≤ 6 + Notice.maxNoticeBytes := by
  unfold Notice.decodeNotice at decoded
  obtain ⟨_, _, d₁⟩ := (bind_eq_ok _ _ _).mp decoded
  obtain ⟨_, small, d₂⟩ := (bind_eq_ok _ _ _).mp d₁
  obtain ⟨_, _, d₃⟩ := (bind_eq_ok _ _ _).mp d₂
  rw [rejectIf_eq_ok] at small
  split at d₃
  · cases d₃
  · cases d₃
    omega

theorem noticeEnd_eq (bytes : Bytes) :
    noticeEnd crates bytes = .ok (Notice.noticeEnd crates bytes) := by
  unfold noticeEnd Notice.noticeEnd
  rw [attempt_agrees (decodeNotice_agrees bytes), ok_bind]
  cases decoded : Notice.decodeNotice bytes with
  | error reason => rfl
  | ok found =>
      obtain ⟨notice, stop⟩ := found
      have bound : stop ≤ 6 + Notice.maxNoticeBytes := decodeNotice_stop bytes notice stop decoded
      simp only [Notice.maxNoticeBytes] at bound
      dsimp only [Except.toOption]
      rw [add_eq stop 4 (by omega), ok_bind]
      by_cases room : bytes.length ≥ stop + 4
      · rw [if_pos room, startsCopy_eq crates bytes stop room (by omega), ok_bind,
          decide_eq_true room, Bool.true_and]
        rfl
      · rw [if_neg room, decide_eq_false room, Bool.false_and]
        rfl

theorem findStartSuperblockOffset_agrees (bytes : Bytes) :
    Agrees (findStartSuperblockOffset crates bytes)
      (Notice.findStartSuperblockOffset crates bytes) := by
  unfold findStartSuperblockOffset Notice.findStartSuperblockOffset
  rw [rejectIf_or]
  apply agrees_rejectIf
  intro large
  apply agrees_step (sliceTo_eq bytes 4 (by omega))
  apply agrees_rejectIf
  intro _
  apply agrees_step (noticeEnd_eq crates bytes)
  cases Notice.noticeEnd crates bytes with
  | some stop => exact agrees_pure _
  | none =>
      apply agrees_step (add_eq 6 Notice.noticeScanWindowBytes (by decide))
      apply agrees_step (scan_eq crates bytes _ ?_)
      · unfold Notice.scannedOffsets
        cases (List.range' 6 (min bytes.length (6 + Notice.noticeScanWindowBytes) - 3 - 6)).find?
            (Notice.startsCopy crates bytes) with
        | none => exact agrees_returns _
        | some offset => exact agrees_pure _
      · intro offset member
        rw [List.mem_range'_1] at member
        simp only [Notice.noticeScanWindowBytes] at member
        omega

theorem decodeEndCopyFromFile_agrees (bytes : Bytes) :
    Agrees (decodeEndCopyFromFile crates bytes)
      (ArtifactReader.decodeEndCopyFromFile crates bytes) := by
  unfold decodeEndCopyFromFile ArtifactReader.decodeEndCopyFromFile
  apply agrees_rejectIf
  intro large
  apply agrees_step (sub_eq bytes.length 4 (by omega))
  apply agrees_step (sliceFrom_eq bytes _ (by omega))
  apply agrees_rejectIf
  intro _
  apply agrees_step (sub_eq bytes.length 8 (by omega))
  apply agrees_step (sub_eq bytes.length 12 (by omega))
  apply agrees_step (wordAt_eq bytes _ _ (by simp only [Word.width]; omega) (by omega))
  -- a 32-bit length cannot overflow the sum
  have wide := (ofLeBytes (range bytes (bytes.length - 8) (bytes.length - 4)) : UInt32).toNat_lt
  apply agrees_step (add_eq _ 12 (by omega))
  apply agrees_rejectIf
  intro whole
  apply agrees_step (sub_eq bytes.length _ (by omega))
  apply agrees_step (sliceFrom_eq bytes _ (by omega))
  apply agrees_bind (decodeEndSuperblockCopy_agrees crates _)
  intro copy _
  exact agrees_pure _

theorem startCopyOf_eq (bytes : Bytes) :
    startCopyOf crates bytes = .ok (ArtifactReader.startCopyOf crates bytes) := by
  unfold startCopyOf ArtifactReader.startCopyOf
  rw [attempt_agrees (findStartSuperblockOffset_agrees crates bytes), ok_bind]
  cases found : Notice.findStartSuperblockOffset crates bytes with
  | error reason => rfl
  | ok offset =>
      have starts := Notice.findStartSuperblockOffset_ok crates bytes offset found
      have inside : offset ≤ bytes.length := by
        obtain ⟨copy, decoded⟩ := (Notice.startsCopy_iff crates bytes offset).mp starts
        obtain ⟨_, _, rest, framed⟩ := (decodeStartSuperblockCopy_ok crates _ _).mp decoded
        have length := congrArg List.length framed
        rw [List.length_drop, List.length_append, startFrame_length] at length
        omega
      dsimp only [Except.toOption, Option.bind_some]
      rw [sliceFrom_eq bytes offset inside, ok_bind,
        attempt_agrees (decodeStartSuperblockCopy_agrees crates _), ok_bind]
      rfl

/-- The choice has failed before either offset is counted without a copy. -/
theorem chosen_present (startCopy endCopy : Option (Nat × ValidatedSuperblockCopy))
    (chosen : ValidatedSuperblockCopy)
    (choice : chooseSuperblockCopy (startCopy.map Prod.snd) (endCopy.map Prod.snd) = .ok chosen)
    (absent : startCopy = none) : ∃ found, endCopy = some found := by
  subst absent
  cases endCopy with
  | none => cases choice
  | some found => exact ⟨found, rfl⟩

section Offsets
variable (startCopy endCopy : Option (Nat × ValidatedSuperblockCopy))
  (chosen : ValidatedSuperblockCopy)
  (present : startCopy = none → ∃ found, endCopy = some found)
include present

theorem startOffset_agrees :
    Agrees (startOffset startCopy endCopy chosen)
      (ArtifactReader.startOffset startCopy endCopy chosen) := by
  cases startCopy with
  | some found => exact agrees_pure _
  | none =>
      obtain ⟨⟨end_, last⟩, rfl⟩ := present rfl
      apply agrees_step (rfl : expect _ (some (end_, last)) = .ok (end_, last))
      exact agrees_bind (agrees_returns _) fun _ _ => agrees_returns _

theorem regionOffset_agrees :
    Agrees (regionOffset startCopy endCopy chosen)
      (ArtifactReader.regionOffset startCopy endCopy chosen) := by
  cases startCopy with
  | some found => exact agrees_returns _
  | none =>
      obtain ⟨⟨end_, last⟩, rfl⟩ := present rfl
      apply agrees_step (rfl : expect _ (some (end_, last)) = .ok (end_, last))
      exact agrees_returns _

end Offsets

theorem readTimelockedArtifactBytes_agrees (bytes : Bytes) :
    Agrees (readTimelockedArtifactBytes crates bytes)
      (ArtifactReader.readTimelockedArtifactBytes crates bytes) := by
  unfold readTimelockedArtifactBytes ArtifactReader.readTimelockedArtifactBytes
  apply agrees_rejectIf
  intro _
  apply agrees_step (startCopyOf_eq crates bytes)
  apply agrees_step (attempt_agrees (decodeEndCopyFromFile_agrees crates bytes))
  change Agrees _ (chooseSuperblockCopy ((ArtifactReader.startCopyOf crates bytes).map Prod.snd)
    ((ArtifactReader.endCopyOf crates bytes).map Prod.snd) >>= _)
  apply agrees_bind (agrees_returns _)
  intro chosen choice
  -- A chosen copy is one of the two, so neither `expect` on the offsets can panic.
  have present := chosen_present _ _ chosen choice
  apply agrees_bind (startOffset_agrees _ _ chosen present)
  intro startSuperblockOffset _
  apply agrees_bind (regionOffset_agrees _ _ chosen present)
  intro payloadRegionOffset _
  apply agrees_bind (agrees_returns _)
  intro endSuperblockOffset _
  apply agrees_bind (agrees_returns _)
  intro payloadRegionEnd _
  apply agrees_rejectIf
  intro _
  apply agrees_rejectIf
  intro _
  apply agrees_step (attempt_agrees (decodeNotice_agrees bytes))
  cases Notice.decodeNotice bytes with
  | error reason => exact agrees_pure _
  | ok found => exact agrees_pure _

theorem payloadRegionOf_agrees (artifact : ArtifactReader.StoredTimelockedArtifact)
    (bytes : Bytes) :
    Agrees (payloadRegionOf artifact bytes) (ArtifactReader.payloadRegionOf artifact bytes) := by
  unfold payloadRegionOf ArtifactReader.payloadRegionOf
  apply agrees_bind (agrees_returns _)
  intro stop sum
  obtain ⟨total, _⟩ := (ArtifactReader.checkedAdd_eq_ok _ _ _ _).mp sum
  apply agrees_rejectIf
  intro inside
  exact slice_eq bytes _ stop (by omega) (by omega)

section Layout
variable (layout : PayloadRegion.PayloadRegionLayout)

theorem shardRecordLen_eq : shardRecordLen layout = .ok layout.shardRecordLen := by
  have bound := layout.rsShardBytes.toNat_lt
  exact add_eq _ 4 (by omega)

/-- A stripe of 16-bit counts of 32-bit shards stays far below a 64-bit word. -/
theorem stripeRecordLen_eq : stripeRecordLen layout = .ok layout.stripeRecordLen := by
  have data := layout.rsDataShards.toNat_lt
  have parity := layout.rsParityShards.toNat_lt
  have bytes := layout.rsShardBytes.toNat_lt
  have product : layout.totalShards * layout.shardRecordLen ≤ 2 ^ 17 * 2 ^ 33 :=
    Nat.mul_le_mul (by unfold PayloadRegion.PayloadRegionLayout.totalShards; omega)
      (by unfold PayloadRegion.PayloadRegionLayout.shardRecordLen; omega)
  unfold stripeRecordLen totalShards
  rw [add_eq layout.rsDataShards.toNat layout.rsParityShards.toNat (by omega), ok_bind,
    shardRecordLen_eq, ok_bind]
  exact mul_eq layout.totalShards layout.shardRecordLen (by omega)

theorem decodeShardRecord_agrees (recordBytes : Bytes) :
    Agrees (decodeShardRecord crates recordBytes layout.rsShardBytes.toNat)
      (PayloadRegion.decodeShardRecord crates recordBytes layout.rsShardBytes.toNat) := by
  have bound := layout.rsShardBytes.toNat_lt
  unfold decodeShardRecord PayloadRegion.decodeShardRecord
  apply agrees_step (add_eq layout.rsShardBytes.toNat 4 (by omega))
  apply agrees_rejectIf
  intro sized
  apply agrees_step (wordAt_eq recordBytes 0 4 rfl (by omega))
  apply agrees_step (sliceFrom_eq recordBytes 4 (by omega))
  dsimp only
  rw [show range recordBytes 0 4 = recordBytes.take 4 from rfl]
  by_cases fails : crates.crc32c (recordBytes.drop 4) ≠ ofLeBytes (recordBytes.take 4)
  · rw [if_pos fails, if_pos fails]
    exact agrees_pure _
  · rw [if_neg fails, if_neg fails]
    exact agrees_pure _

theorem reconstructStripe_agrees (stripeBytes : Bytes) :
    Agrees (reconstructStripe crates layout stripeBytes)
      (PayloadRegion.reconstructStripe crates layout stripeBytes) := by
  have data := layout.rsDataShards.toNat_lt
  have parity := layout.rsParityShards.toNat_lt
  unfold reconstructStripe PayloadRegion.reconstructStripe
  apply agrees_step (shardRecordLen_eq layout)
  apply agrees_step (chunks_eq layout.shardRecordLen stripeBytes (Nat.succ_ne_zero _))
  apply agrees_bind (agrees_mapM _ _ _ fun recordBytes _ =>
    decodeShardRecord_agrees crates layout recordBytes)
  intro shards _
  apply agrees_bind (agrees_step (add_eq _ _ (by omega)) (agrees_returns _))
  intro reconstructed _
  apply agrees_bind (agrees_returns _)
  intro data _
  exact agrees_pure _

theorem reconstructPayloadRegion_agrees (payloadRegion : Bytes) (protectedStreamLen : UInt64) :
    Agrees (reconstructPayloadRegion crates layout payloadRegion protectedStreamLen)
      (PayloadRegion.reconstructPayloadRegion crates payloadRegion protectedStreamLen layout) := by
  unfold reconstructPayloadRegion PayloadRegion.reconstructPayloadRegion
  apply agrees_bind (agrees_returns _)
  intro _ valid
  rw [rejectIf_or]
  apply agrees_step (stripeRecordLen_eq layout)
  apply agrees_rejectIf
  intro nonzero
  apply agrees_step (rem_eq payloadRegion.length layout.stripeRecordLen nonzero)
  apply agrees_rejectIf
  intro _
  apply agrees_step (chunks_eq layout.stripeRecordLen payloadRegion nonzero)
  apply agrees_bind (agrees_mapM _ _ _ fun stripeBytes _ =>
    reconstructStripe_agrees crates layout stripeBytes)
  intro recovered _
  apply agrees_rejectIf
  intro _
  exact agrees_pure _

end Layout

/-- The plain reader, as far as `readProtectedStream` goes. -/
def plainProtectedStream (bytes : Bytes) :
    Except Error (ArtifactReader.StoredTimelockedArtifact × Bytes) := do
  let parsed ← ArtifactReader.readTimelockedArtifactBytes crates bytes
  let payloadRegion ← ArtifactReader.payloadRegionOf parsed bytes
  let protectedStream ← PayloadRegion.reconstructPayloadRegion crates payloadRegion
    parsed.superblock.protectedStreamLen (Recovery.layoutOf parsed.superblock)
  pure (parsed, protectedStream)

theorem readProtectedStream_agrees (bytes : Bytes) :
    Agrees (readProtectedStream crates bytes) (plainProtectedStream crates bytes) := by
  unfold readProtectedStream plainProtectedStream
  apply agrees_bind (readTimelockedArtifactBytes_agrees crates bytes)
  intro parsed _
  apply agrees_bind (payloadRegionOf_agrees parsed bytes)
  intro payloadRegion _
  apply agrees_bind (reconstructPayloadRegion_agrees crates _ payloadRegion _)
  intro protectedStream _
  exact agrees_pure _

/-- On no byte string does reading and reconstructing panic, and what a file
that is accepted is unlocked with can be divided by. -/
theorem readProtectedStream_total (bytes : Bytes) :
    (∀ cause, readTimelockedArtifactBytes crates bytes ≠ .error (.panic cause)) ∧
      (∀ cause, readProtectedStream crates bytes ≠ .error (.panic cause)) ∧
      ∀ parsed, readTimelockedArtifactBytes crates bytes = .ok parsed →
        parsed.superblock.timelockMaterial.modulusN ≠ 0 := by
  have reading := readTimelockedArtifactBytes_agrees crates bytes
  refine ⟨agrees_ne_panic reading, agrees_ne_panic (readProtectedStream_agrees crates bytes), ?_⟩
  intro parsed success
  have accepted : ArtifactReader.readTimelockedArtifactBytes crates bytes = .ok parsed := by
    rw [reading] at success
    exact (mapError_eq_ok _ _ _).mp success
  have decoded := ArtifactReader.readTimelockedArtifactBytes_decoded crates bytes parsed accepted
  exact (validate_material _ (decoded_wellSized _ _ decoded).1).1

end Crates

end GuardedReader
