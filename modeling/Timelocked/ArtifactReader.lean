import Timelocked.Notice

/-!
Parsing a whole file: the two superblock copies are looked for independently,
and where one is missing its offset is derived from the other.
-/
namespace ArtifactReader
open ByteCodec RunRules Base PathText Superblock Notice

structure PasswordProtectionSummary where
  passwordProtected : Bool
  keyProtectionAlgorithm : Option String
  passwordKdfAlgorithm : Option String
  passwordKdfMemoryKib : Option UInt32
  passwordKdfIterations : Option UInt32
  passwordKdfParallelism : Option UInt32
  passwordSaltLen : Option Nat
  deriving DecidableEq, Repr

structure CipherParams where
  payloadCipher : String
  keyWrap : String
  deriving DecidableEq, Repr

structure ChunkingParams where
  chunkSizeBytes : UInt32
  deriving DecidableEq, Repr

structure TimelockParams where
  algorithm : String
  iterations : UInt64
  modulusBits : UInt16
  hardwareProfile : String
  targetSeconds : Option UInt64
  deriving DecidableEq, Repr

structure TimelockedHeader where
  about : String
  originalFilename : Option String
  createdAt : String
  creatorName : Option String
  creatorMessage : Option String
  cipherParams : CipherParams
  chunkingParams : ChunkingParams
  timelockParams : TimelockParams
  passwordProtection : PasswordProtectionSummary
  payloadPlaintextBytes : UInt64
  deriving DecidableEq, Repr

def inspectKeyWrapAlgorithm (body : SuperblockBody) : String :=
  if body.passwordProtection.isSome then "timelock-plus-argon2id-v1" else "blake3-xor-v1"

def passwordProtectionSummary (body : SuperblockBody) : PasswordProtectionSummary :=
  match body.passwordProtection with
  | some metadata =>
      { passwordProtected := true
        keyProtectionAlgorithm := some "timelock-plus-argon2id-v1"
        passwordKdfAlgorithm := some "argon2id"
        passwordKdfMemoryKib := some metadata.params.memoryKib
        passwordKdfIterations := some metadata.params.iterations
        passwordKdfParallelism := some metadata.params.parallelism
        passwordSaltLen := some metadata.params.salt.length }
  | none => ⟨false, none, none, none, none, none, none⟩

section Crates
variable (crates : Crates)

def formatCreatedAt (createdAtUnixSeconds : UInt64) : String :=
  (crates.rfc3339 createdAtUnixSeconds).getD (toString createdAtUnixSeconds)

def headerFromSuperblock (body : SuperblockBody) (notice : String) : TimelockedHeader where
  about := notice
  originalFilename := body.originalFilename
  createdAt := formatCreatedAt crates body.createdAtUnixSeconds
  creatorName := none
  creatorMessage := none
  cipherParams := ⟨"XChaCha20-Poly1305", inspectKeyWrapAlgorithm body⟩
  chunkingParams := ⟨body.aeadChunkSizeBytes⟩
  timelockParams := ⟨"rsw-repeated-squaring-v1", body.iterations, body.modulusBits,
    body.hardwareProfile, body.targetSeconds⟩
  passwordProtection := passwordProtectionSummary body
  payloadPlaintextBytes := body.payloadPlaintextBytes

end Crates

inductive PayloadKind where
  | text
  | file (originalFilename : String)
  deriving DecidableEq, Repr

structure StoredTimelockedArtifact where
  notice : String
  superblock : SuperblockBody
  superblockBytes : Bytes
  header : TimelockedHeader
  startSuperblockOffset : Nat
  payloadRegionOffset : Nat
  endSuperblockOffset : Nat
  fileLen : Nat
  deriving DecidableEq

def StoredTimelockedArtifact.payloadKind (artifact : StoredTimelockedArtifact) : PayloadKind :=
  match artifact.superblock.originalFilename with
  | some originalFilename => .file originalFilename
  | none => .text

/-! The parser. Offsets are `u64`, so their sums are checked. -/

def checkedAdd (left right : Nat) (overflow : Error) : Except Error Nat :=
  if left + right < 2 ^ 64 then .ok (left + right) else .error overflow

def checkedSub (left right : Nat) (underflow : Error) : Except Error Nat :=
  if right ≤ left then .ok (left - right) else .error underflow

theorem checkedAdd_ok (left right sum : Nat) (overflow : Error) (fits : sum < 2 ^ 64)
    (total : left + right = sum) : checkedAdd left right overflow = .ok sum := by
  subst total
  exact if_pos fits

theorem checkedSub_ok (left right difference : Nat) (underflow : Error)
    (total : left = difference + right) : checkedSub left right underflow = .ok difference := by
  subst total
  rw [checkedSub, if_pos (Nat.le_add_left _ _), Nat.add_sub_cancel]

section Crates
variable (crates : Crates)

def decodeEndCopyFromFile (bytes : Bytes) : Except Error (Nat × ValidatedSuperblockCopy) := do
  rejectIf (bytes.length < 12) (.invalidFormat "file is too small")
  rejectIf (bytes.drop (bytes.length - 4) ≠ endSuperblockMagic)
    (.invalidFormat "invalid end superblock magic")
  let bodyLen := (ofLeBytes (range bytes (bytes.length - 8) (bytes.length - 4)) : UInt32).toNat
  let totalLen := bodyLen + 12
  rejectIf (bytes.length < totalLen) (.invalidFormat "truncated end superblock")
  let start := bytes.length - totalLen
  let copy ← decodeEndSuperblockCopy crates (bytes.drop start)
  pure (start, copy)

def startCopyOf (bytes : Bytes) : Option (Nat × ValidatedSuperblockCopy) :=
  (findStartSuperblockOffset crates bytes).toOption.bind fun offset =>
    (decodeStartSuperblockCopy crates (bytes.drop offset)).toOption.map fun copy => (offset, copy)

def endCopyOf (bytes : Bytes) : Option (Nat × ValidatedSuperblockCopy) :=
  (decodeEndCopyFromFile crates bytes).toOption

/-- Where the start copy is, or would be, counted back from the end copy. -/
def startOffset (startCopy endCopy : Option (Nat × ValidatedSuperblockCopy))
    (chosen : ValidatedSuperblockCopy) : Except Error Nat :=
  match startCopy, endCopy with
  | some (offset, _), _ => .ok offset
  | none, some (end_, _) => do
      let failed := Error.invalidFormat "invalid offsets while recovering from end superblock"
      let region ← checkedSub end_ chosen.body.payloadRegionLen.toNat failed
      checkedSub region chosen.totalLen failed
  | none, none => .error (.invalidFormat "both superblock copies are unusable")

def regionOffset (startCopy endCopy : Option (Nat × ValidatedSuperblockCopy))
    (chosen : ValidatedSuperblockCopy) : Except Error Nat :=
  match startCopy, endCopy with
  | some (offset, copy), _ =>
      checkedAdd offset copy.totalLen (.invalidFormat "payload region offset overflow")
  | none, some (end_, _) =>
      checkedSub end_ chosen.body.payloadRegionLen.toNat
        (.invalidFormat "invalid payload region offset from end superblock")
  | none, none => .error (.invalidFormat "both superblock copies are unusable")

def endOffset (endCopy : Option (Nat × ValidatedSuperblockCopy))
    (chosen : ValidatedSuperblockCopy) (payloadRegionOffset : Nat) : Except Error Nat :=
  match endCopy with
  | some (offset, _) => .ok offset
  | none =>
      checkedAdd payloadRegionOffset chosen.body.payloadRegionLen.toNat
        (.invalidFormat "end superblock offset overflow")

def readTimelockedArtifactBytes (bytes : Bytes) : Except Error StoredTimelockedArtifact := do
  rejectIf (bytes.length < 6) (.invalidFormat "file is too small")
  let startCopy := startCopyOf crates bytes
  let endCopy := endCopyOf crates bytes
  let chosen ← chooseSuperblockCopy (startCopy.map Prod.snd) (endCopy.map Prod.snd)
  let startSuperblockOffset ← startOffset startCopy endCopy chosen
  let payloadRegionOffset ← regionOffset startCopy endCopy chosen
  let endSuperblockOffset ← endOffset endCopy chosen payloadRegionOffset
  let fileLen := bytes.length
  let payloadRegionEnd ← checkedAdd payloadRegionOffset chosen.body.payloadRegionLen.toNat
    (.invalidFormat "payload region length overflow")
  rejectIf (payloadRegionEnd > fileLen) (.verification "payload region length mismatch")
  rejectIf (endSuperblockOffset < payloadRegionEnd)
    (.verification "payload region length mismatch")
  let notice := match decodeNotice bytes with
    | .ok (notice, _) => notice
    | .error _ => defaultNoticeText
  pure {
    notice := notice
    superblock := chosen.body
    superblockBytes := chosen.bodyBytes
    header := headerFromSuperblock crates chosen.body notice
    startSuperblockOffset := startSuperblockOffset
    payloadRegionOffset := payloadRegionOffset
    endSuperblockOffset := endSuperblockOffset
    fileLen := fileLen }

/-- `read_payload_region_bytes`, on the contents of the file. -/
def payloadRegionOf (artifact : StoredTimelockedArtifact) (bytes : Bytes) : Except Error Bytes := do
  let start := artifact.payloadRegionOffset
  let stop ← checkedAdd start artifact.superblock.payloadRegionLen.toNat
    (.invalidFormat "payload region length overflow")
  rejectIf (stop > bytes.length) (.verification "payload region length mismatch")
  pure (range bytes start stop)

end Crates

def parseContainer (host : Host) (path : Path) : Op StoredTimelockedArtifact := do
  let bytes ← readFile host path
  Run.lift (readTimelockedArtifactBytes host.crates bytes)

def readPayloadRegionBytes (host : Host) (path : Path) (artifact : StoredTimelockedArtifact) :
    Op Bytes := do
  let bytes ← readFile host path
  Run.lift (payloadRegionOf artifact bytes)

section Crates
variable (crates : Crates)

theorem decodeEndCopyFromFile_ok (bytes : Bytes) (start : Nat) (copy : ValidatedSuperblockCopy) :
    decodeEndCopyFromFile crates bytes = .ok (start, copy) ↔
      decodeSuperblockBody copy.bodyBytes = .ok copy.body ∧
        copy.totalLen = copy.bodyBytes.length + 12 ∧
        ∃ front, front.length = start ∧ bytes = front ++ endFrame crates copy.bodyBytes := by
  unfold decodeEndCopyFromFile
  constructor
  · -- The five checks in the order the reader makes them.
    intro success
    obtain ⟨_, large, s₁⟩ := (bind_eq_ok _ _ _).mp success
    obtain ⟨_, magic, s₂⟩ := (bind_eq_ok _ _ _).mp s₁
    obtain ⟨_, whole, s₃⟩ := (bind_eq_ok _ _ _).mp s₂
    obtain ⟨found, decoded, returned⟩ := (bind_eq_ok _ _ _).mp s₃
    cases returned
    rw [rejectIf_eq_ok] at large whole
    obtain ⟨body, total, framed⟩ := (decodeEndSuperblockCopy_ok crates _ _).mp decoded
    refine ⟨body, ?_, bytes.take (bytes.length - ((ofLeBytes (range bytes (bytes.length - 8)
      (bytes.length - 4)) : UInt32).toNat + 12)), ?_, ?_⟩
    · rw [total, framed, endFrame_length]
    · rw [List.length_take]
      exact Nat.min_eq_left (Nat.sub_le _ _)
    · rw [← framed, List.take_append_drop]
  · obtain ⟨body, bodyBytes, totalLen⟩ := copy
    rintro ⟨decoded, total, front, rfl, rfl⟩
    dsimp only at decoded total
    subst total
    -- Reading back: the length field stands eight bytes before the end of the file.
    have small := (decodeSuperblockBody_ok _ _ decoded).1
    have stored := toNat_ofNat_body bodyBytes small
    have length : (front ++ endFrame crates bodyBytes).length =
        front.length + bodyBytes.length + 12 := by
      rw [List.length_append, endFrame_length, Nat.add_assoc]
    have split : front ++ endFrame crates bodyBytes =
        (front ++ (bodyBytes ++ leBytes (crates.crc32c bodyBytes))) ++
          (leBytes (UInt32.ofNat bodyBytes.length) ++ endSuperblockMagic) := by
      simp [endFrame]
    have sized : range (front ++ endFrame crates bodyBytes)
        (front.length + bodyBytes.length + 12 - 8) (front.length + bodyBytes.length + 12 - 4) =
          leBytes (UInt32.ofNat bodyBytes.length) := by
      rw [split]
      refine range_middle _ _ _ _ _ ?_ ?_
      · simp only [List.length_append, leBytes_length, Word.width]
        omega
      · simp only [leBytes_length, Word.width]
        omega
    have magic : (front ++ endFrame crates bodyBytes).drop
        (front.length + bodyBytes.length + 12 - 4) = endSuperblockMagic := by
      rw [split, ← List.append_assoc]
      apply List.drop_left'
      simp only [List.length_append, leBytes_length, Word.width]
      omega
    have large : ¬ front.length + bodyBytes.length + 12 < 12 := by omega
    have whole : ¬ front.length + bodyBytes.length + 12 < bodyBytes.length + 12 := by omega
    have tail : front.length + bodyBytes.length + 12 - (bodyBytes.length + 12) = front.length := by
      omega
    have copied : decodeEndSuperblockCopy crates (endFrame crates bodyBytes) =
        .ok ⟨body, bodyBytes, bodyBytes.length + 12⟩ :=
      (decodeEndSuperblockCopy_ok crates _ _).mpr ⟨decoded, (endFrame_length crates _).symm, rfl⟩
    simp only [length, sized, magic, ofLeBytes_leBytes, stored, rejectIf, large, whole, tail,
      List.drop_left, ne_eq, not_true_eq_false, if_false, ok_bind, copied, pure_eq_ok]

theorem endCopyOf_eq_some (bytes : Bytes) (start : Nat) (copy : ValidatedSuperblockCopy) :
    endCopyOf crates bytes = some (start, copy) ↔
      decodeEndCopyFromFile crates bytes = .ok (start, copy) := by
  unfold endCopyOf
  cases decodeEndCopyFromFile crates bytes <;> simp [Except.toOption]

theorem startCopyOf_eq_some (bytes : Bytes) (offset : Nat) (copy : ValidatedSuperblockCopy) :
    startCopyOf crates bytes = some (offset, copy) ↔
      findStartSuperblockOffset crates bytes = .ok offset ∧
        decodeStartSuperblockCopy crates (bytes.drop offset) = .ok copy := by
  unfold startCopyOf
  cases found : findStartSuperblockOffset crates bytes with
  | error reason => simp [Except.toOption]
  | ok start =>
      cases decoded : decodeStartSuperblockCopy crates (bytes.drop start) with
      | error reason =>
          simp only [Except.toOption, Option.bind_some, decoded, Option.map_none, Except.ok.injEq,
            reduceCtorEq, false_iff, not_and]
          rintro rfl
          simp [decoded]
      | ok found =>
          simp only [Except.toOption, Option.bind_some, decoded, Option.map_some,
            Option.some.injEq, Prod.mk.injEq, Except.ok.injEq]
          constructor
          · rintro ⟨rfl, rfl⟩
            exact ⟨rfl, decoded⟩
          · rintro ⟨rfl, same⟩
            rw [decoded] at same
            exact ⟨rfl, Except.ok.inj same⟩

structure Accepted (bytes : Bytes) (parsed : StoredTimelockedArtifact)
    (chosen : ValidatedSuperblockCopy) : Prop where
  choice : chooseSuperblockCopy ((startCopyOf crates bytes).map Prod.snd)
    ((endCopyOf crates bytes).map Prod.snd) = .ok chosen
  superblock : parsed.superblock = chosen.body
  superblockBytes : parsed.superblockBytes = chosen.bodyBytes
  startSuperblockOffset : startOffset (startCopyOf crates bytes) (endCopyOf crates bytes) chosen =
    .ok parsed.startSuperblockOffset
  payloadRegionOffset : regionOffset (startCopyOf crates bytes) (endCopyOf crates bytes) chosen =
    .ok parsed.payloadRegionOffset
  endSuperblockOffset : endOffset (endCopyOf crates bytes) chosen parsed.payloadRegionOffset =
    .ok parsed.endSuperblockOffset
  addressable : parsed.payloadRegionOffset + chosen.body.payloadRegionLen.toNat < 2 ^ 64
  inside : parsed.payloadRegionOffset + chosen.body.payloadRegionLen.toNat ≤ bytes.length
  ordered : parsed.payloadRegionOffset + chosen.body.payloadRegionLen.toNat ≤
    parsed.endSuperblockOffset
  fileLen : parsed.fileLen = bytes.length

theorem checkedAdd_eq_ok (left right sum : Nat) (overflow : Error) :
    checkedAdd left right overflow = .ok sum ↔ left + right = sum ∧ sum < 2 ^ 64 := by
  unfold checkedAdd
  by_cases fits : left + right < 2 ^ 64
  · rw [if_pos fits, Except.ok.injEq]
    exact ⟨fun same => ⟨same, same ▸ fits⟩, And.left⟩
  · rw [if_neg fits]
    constructor
    · intro failed
      cases failed
    · rintro ⟨rfl, small⟩
      exact absurd small fits

theorem checkedSub_eq_ok (left right difference : Nat) (underflow : Error) :
    checkedSub left right underflow = .ok difference ↔ left = difference + right := by
  unfold checkedSub
  by_cases fits : right ≤ left
  · rw [if_pos fits, Except.ok.injEq]
    omega
  · rw [if_neg fits]
    constructor
    · intro failed
      cases failed
    · intro total
      omega

theorem readTimelockedArtifactBytes_accepted (bytes : Bytes) (parsed : StoredTimelockedArtifact)
    (success : readTimelockedArtifactBytes crates bytes = .ok parsed) :
    ∃ chosen, Accepted crates bytes parsed chosen := by
  unfold readTimelockedArtifactBytes at success
  obtain ⟨_, _, s₁⟩ := (bind_eq_ok _ _ _).mp success
  obtain ⟨chosen, choice, s₂⟩ := (bind_eq_ok _ _ _).mp s₁
  obtain ⟨_, start, s₃⟩ := (bind_eq_ok _ _ _).mp s₂
  obtain ⟨_, region, s₄⟩ := (bind_eq_ok _ _ _).mp s₃
  obtain ⟨_, end_, s₅⟩ := (bind_eq_ok _ _ _).mp s₄
  obtain ⟨_, sum, s₆⟩ := (bind_eq_ok _ _ _).mp s₅
  obtain ⟨_, inside, s₇⟩ := (bind_eq_ok _ _ _).mp s₆
  obtain ⟨_, ordered, returned⟩ := (bind_eq_ok _ _ _).mp s₇
  obtain ⟨rfl, addressable⟩ := (checkedAdd_eq_ok _ _ _ _).mp sum
  rw [rejectIf_eq_ok, not_lt] at inside ordered
  cases returned
  exact ⟨chosen, choice, rfl, rfl, start, region, end_, addressable, inside, ordered, rfl⟩

theorem readTimelockedArtifactBytes_chosen (bytes : Bytes) (parsed : StoredTimelockedArtifact)
    (success : readTimelockedArtifactBytes crates bytes = .ok parsed) :
    ∃ chosen, chooseSuperblockCopy ((startCopyOf crates bytes).map Prod.snd)
        ((endCopyOf crates bytes).map Prod.snd) = .ok chosen ∧
      parsed.superblock = chosen.body ∧ parsed.superblockBytes = chosen.bodyBytes := by
  obtain ⟨chosen, accepted⟩ := readTimelockedArtifactBytes_accepted crates bytes parsed success
  exact ⟨chosen, accepted.choice, accepted.superblock, accepted.superblockBytes⟩

/-- A start copy, where there is one, is the copy chosen. -/
theorem chooseSuperblockCopy_start (start chosen : ValidatedSuperblockCopy)
    (end_ : Option ValidatedSuperblockCopy)
    (choice : chooseSuperblockCopy (some start) end_ = .ok chosen) : chosen = start := by
  cases end_ with
  | none =>
      cases choice
      rfl
  | some other =>
      rw [chooseSuperblockCopy] at choice
      split at choice
      · cases choice
        rfl
      · cases choice

/-- A superblock that was parsed is one the decoder accepted. -/
theorem readTimelockedArtifactBytes_decoded (bytes : Bytes) (parsed : StoredTimelockedArtifact)
    (success : readTimelockedArtifactBytes crates bytes = .ok parsed) :
    decodeSuperblockBody parsed.superblockBytes = .ok parsed.superblock := by
  obtain ⟨chosen, choice, body, bodyBytes⟩ :=
    readTimelockedArtifactBytes_chosen crates bytes parsed success
  rw [body, bodyBytes]
  cases start : startCopyOf crates bytes with
  | some found =>
      obtain ⟨offset, copy⟩ := found
      rw [start] at choice
      rw [chooseSuperblockCopy_start _ _ _ choice]
      exact ((decodeStartSuperblockCopy_ok crates _ _).mp
        ((startCopyOf_eq_some crates _ _ _).mp start).2).1
  | none =>
      rw [start] at choice
      cases end_ : endCopyOf crates bytes with
      | some found =>
          obtain ⟨offset, copy⟩ := found
          rw [end_] at choice
          cases choice
          exact ((decodeEndCopyFromFile_ok crates _ _ _).mp
            ((endCopyOf_eq_some crates _ _ _).mp end_)).1
      | none =>
          rw [end_] at choice
          cases choice

structure Located (bytes front region tail : Bytes) (body : SuperblockBody) (bodyBytes : Bytes) :
    Prop where
  split : bytes = front ++ (region ++ tail)
  addressable : bytes.length < 2 ^ 64
  room : 12 + bodyBytes.length ≤ front.length
  region_length : region.length = body.payloadRegionLen.toNat
  tail_length : tail.length = bodyBytes.length + 12

def startCopyAt (front : Bytes) (body : SuperblockBody) (bodyBytes : Bytes) :
    Nat × ValidatedSuperblockCopy :=
  (front.length - (12 + bodyBytes.length), ⟨body, bodyBytes, 12 + bodyBytes.length⟩)

def endCopyAt (front region : Bytes) (body : SuperblockBody) (bodyBytes : Bytes) :
    Nat × ValidatedSuperblockCopy :=
  (front.length + region.length, ⟨body, bodyBytes, bodyBytes.length + 12⟩)

/-- A parse that found the parts of a file where they are. -/
structure ParsedAs (parsed : StoredTimelockedArtifact) (front region : Bytes)
    (body : SuperblockBody) (bodyBytes : Bytes) : Prop where
  superblock : parsed.superblock = body
  superblockBytes : parsed.superblockBytes = bodyBytes
  startSuperblockOffset : parsed.startSuperblockOffset = front.length - (12 + bodyBytes.length)
  payloadRegionOffset : parsed.payloadRegionOffset = front.length
  endSuperblockOffset : parsed.endSuperblockOffset = front.length + region.length

/-- One of the two copies, in its place, is enough to parse a file. -/
theorem readTimelockedArtifactBytes_located (bytes front region tail : Bytes)
    (body : SuperblockBody) (bodyBytes : Bytes)
    (located : Located bytes front region tail body bodyBytes)
    (start : startCopyOf crates bytes = none ∨
      startCopyOf crates bytes = some (startCopyAt front body bodyBytes))
    (end_ : endCopyOf crates bytes = none ∨
      endCopyOf crates bytes = some (endCopyAt front region body bodyBytes))
    (one : startCopyOf crates bytes ≠ none ∨ endCopyOf crates bytes ≠ none) :
    ∃ parsed, readTimelockedArtifactBytes crates bytes = .ok parsed ∧
      ParsedAs parsed front region body bodyBytes ∧ payloadRegionOf parsed bytes = .ok region := by
  obtain ⟨split, addressable, room, regionLength, tailLength⟩ := located
  have length : bytes.length = front.length + (region.length + (bodyBytes.length + 12)) := by
    rw [split, List.length_append, List.length_append, tailLength]
  have regional (parsed : StoredTimelockedArtifact)
      (offset : parsed.payloadRegionOffset = front.length) (same : parsed.superblock = body) :
      payloadRegionOf parsed bytes = .ok region := by
    have sum : checkedAdd front.length region.length
        (.invalidFormat "payload region length overflow") =
          .ok (front.length + region.length) :=
      checkedAdd_ok _ _ _ _ (by omega) rfl
    have inside : ¬ front.length + region.length > bytes.length := by omega
    rw [payloadRegionOf, offset, same, ← regionLength, sum, ok_bind, rejectIf, if_neg inside,
      ok_bind, split, range_middle front region tail _ _ rfl rfl, pure_eq_ok]
  -- Whichever copy is chosen, the same offsets leave the same region.
  have finish (chosen : ValidatedSuperblockCopy) (same : chosen.body = body)
      (stored : chosen.bodyBytes = bodyBytes)
      (choice : chooseSuperblockCopy ((startCopyOf crates bytes).map Prod.snd)
        ((endCopyOf crates bytes).map Prod.snd) = .ok chosen)
      (first : startOffset (startCopyOf crates bytes) (endCopyOf crates bytes) chosen =
        .ok (front.length - (12 + bodyBytes.length)))
      (second : regionOffset (startCopyOf crates bytes) (endCopyOf crates bytes) chosen =
        .ok front.length)
      (third : endOffset (endCopyOf crates bytes) chosen front.length =
        .ok (front.length + region.length)) :
      ∃ parsed, readTimelockedArtifactBytes crates bytes = .ok parsed ∧
        ParsedAs parsed front region body bodyBytes ∧
        payloadRegionOf parsed bytes = .ok region := by
    have large : ¬ bytes.length < 6 := by omega
    have sum : checkedAdd front.length chosen.body.payloadRegionLen.toNat
        (.invalidFormat "payload region length overflow") =
          .ok (front.length + region.length) := by
      rw [same, ← regionLength]
      exact checkedAdd_ok _ _ _ _ (by omega) rfl
    have inside : ¬ front.length + region.length > bytes.length := by omega
    have after : ¬ front.length + region.length < front.length + region.length := by omega
    unfold readTimelockedArtifactBytes
    rw [rejectIf, if_neg large, ok_bind]
    dsimp only
    rw [choice, ok_bind, first, ok_bind, second, ok_bind, third,
      ok_bind, sum, ok_bind, rejectIf, if_neg inside, ok_bind, rejectIf, if_neg after, ok_bind]
    refine ⟨_, rfl, ⟨same, stored, rfl, rfl, rfl⟩, regional _ rfl same⟩
  -- Only the two ways of locating differ: forward from a start copy, else back from the end.
  rcases start with start | start <;> rcases end_ with end_ | end_
  · simp [start, end_] at one
  · refine finish ⟨body, bodyBytes, bodyBytes.length + 12⟩ rfl rfl ?_ ?_ ?_ ?_
    · rw [start, end_]
      rfl
    · rw [start, end_]
      have back : checkedSub (front.length + region.length) body.payloadRegionLen.toNat
          (.invalidFormat "invalid offsets while recovering from end superblock") =
            .ok front.length := checkedSub_ok _ _ _ _ (by omega)
      simp only [startOffset, endCopyAt, back, ok_bind]
      exact checkedSub_ok _ _ _ _ (by omega)
    · rw [start, end_]
      exact checkedSub_ok _ _ _ _ (by dsimp only; omega)
    · rw [end_]
      rfl
  · refine finish ⟨body, bodyBytes, 12 + bodyBytes.length⟩ rfl rfl ?_ ?_ ?_ ?_
    · rw [start, end_]
      rfl
    · rw [start]
      rfl
    · rw [start]
      exact checkedAdd_ok _ _ _ _ (by omega) (by dsimp only; omega)
    · rw [end_]
      exact checkedAdd_ok _ _ _ _ (by omega) (by rw [regionLength])
  · refine finish ⟨body, bodyBytes, 12 + bodyBytes.length⟩ rfl rfl ?_ ?_ ?_ ?_
    · rw [start, end_]
      simp [chooseSuperblockCopy, startCopyAt, endCopyAt]
    · rw [start]
      rfl
    · rw [start]
      exact checkedAdd_ok _ _ _ _ (by omega) (by dsimp only; omega)
    · rw [end_]
      rfl

end Crates

end ArtifactReader
