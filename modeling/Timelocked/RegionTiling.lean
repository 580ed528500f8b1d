import Timelocked.BodySpelling

/-!
Where the offsets of an accepted file lie. Each offset is found by a scan,
counted forwards from the start copy or counted backwards from the end copy,
depending on which copies are valid, and only inequalities tie the results
together. So bytes may stand between the region and the end copy, and the
start of a file whose start copy is lost is still counted.
-/
namespace ArtifactReader
open ByteCodec RunRules Base Superblock Notice
open ArtifactWriter (smallArtifact smallBody)

section Crates
variable (crates : Crates)

inductive Placed (bytes : Bytes) (parsed : StoredTimelockedArtifact) : Prop where
  | both (offset end_ : Nat) (copy last : ValidatedSuperblockCopy)
      (start : startCopyOf crates bytes = some (offset, copy))
      (tail : endCopyOf crates bytes = some (end_, last))
      (same : last.bodyBytes = parsed.superblockBytes)
      (startAt : parsed.startSuperblockOffset = offset)
      (regionAt : parsed.payloadRegionOffset = offset + copy.totalLen)
      (body : copy.body = parsed.superblock)
      (total : copy.totalLen = 12 + parsed.superblockBytes.length)
      (endAt : parsed.endSuperblockOffset = end_)
  | startOnly (offset : Nat) (copy : ValidatedSuperblockCopy)
      (start : startCopyOf crates bytes = some (offset, copy))
      (tail : endCopyOf crates bytes = none)
      (startAt : parsed.startSuperblockOffset = offset)
      (regionAt : parsed.payloadRegionOffset = offset + copy.totalLen)
      (total : copy.totalLen = 12 + parsed.superblockBytes.length)
      (endAt : parsed.endSuperblockOffset =
        parsed.payloadRegionOffset + parsed.superblock.payloadRegionLen.toNat)
  | endOnly (end_ : Nat) (last : ValidatedSuperblockCopy)
      (start : startCopyOf crates bytes = none)
      (tail : endCopyOf crates bytes = some (end_, last))
      (same : last.bodyBytes = parsed.superblockBytes)
      (startAt : parsed.payloadRegionOffset =
        parsed.startSuperblockOffset + (12 + parsed.superblockBytes.length))
      (regionAt : end_ = parsed.payloadRegionOffset + parsed.superblock.payloadRegionLen.toNat)
      (endAt : parsed.endSuperblockOffset = end_)

theorem startCopyOf_totalLen (bytes : Bytes) (offset : Nat) (copy : ValidatedSuperblockCopy)
    (found : startCopyOf crates bytes = some (offset, copy)) :
    copy.totalLen = 12 + copy.bodyBytes.length :=
  ((decodeStartSuperblockCopy_ok crates _ _).mp
    ((startCopyOf_eq_some crates _ _ _).mp found).2).2.1

theorem endCopyOf_end (bytes : Bytes) (end_ : Nat) (last : ValidatedSuperblockCopy)
    (found : endCopyOf crates bytes = some (end_, last)) :
    last.totalLen = last.bodyBytes.length + 12 ∧
      end_ + 12 + last.bodyBytes.length = bytes.length := by
  obtain ⟨_, total, front, length, split⟩ := (decodeEndCopyFromFile_ok crates _ _ _).mp
    ((endCopyOf_eq_some crates _ _ _).mp found)
  refine ⟨total, ?_⟩
  rw [split, List.length_append, endFrame_length, length]
  omega

theorem readTimelockedArtifactBytes_placed (bytes : Bytes) (parsed : StoredTimelockedArtifact)
    (success : readTimelockedArtifactBytes crates bytes = .ok parsed) :
    Placed crates bytes parsed := by
  obtain ⟨chosen, accepted⟩ := readTimelockedArtifactBytes_accepted crates bytes parsed success
  have choice := accepted.choice
  have startAt := accepted.startSuperblockOffset
  have regionAt := accepted.payloadRegionOffset
  have endAt := accepted.endSuperblockOffset
  cases start : startCopyOf crates bytes with
  | some found =>
      obtain ⟨offset, copy⟩ := found
      have total := startCopyOf_totalLen crates bytes offset copy start
      rw [start] at choice startAt regionAt
      obtain rfl := chooseSuperblockCopy_start _ _ _ choice
      rw [← accepted.superblockBytes] at total
      cases startAt
      obtain ⟨region, _⟩ := (checkedAdd_eq_ok _ _ _ _).mp regionAt
      cases tail : endCopyOf crates bytes with
      | some found =>
          obtain ⟨end_, last⟩ := found
          rw [tail] at choice endAt
          cases endAt
          refine .both _ _ chosen last start tail ?_ rfl region.symm accepted.superblock.symm total
            rfl
          -- the parser compares the bodies of two valid copies
          rw [Option.map_some, Option.map_some, chooseSuperblockCopy] at choice
          split at choice
          · rename_i agree
            rw [accepted.superblockBytes, ← agree]
          · cases choice
      | none =>
          rw [tail] at endAt
          obtain ⟨sum, _⟩ := (checkedAdd_eq_ok _ _ _ _).mp endAt
          refine .startOnly _ chosen start tail rfl region.symm total ?_
          rw [accepted.superblock, ← sum]
  | none =>
      cases tail : endCopyOf crates bytes with
      | some found =>
          obtain ⟨end_, last⟩ := found
          rw [start, tail] at choice startAt regionAt
          rw [tail] at endAt
          obtain rfl : last = chosen := Except.ok.inj choice
          cases endAt
          have region := (checkedSub_eq_ok _ _ _ _).mp regionAt
          obtain ⟨_, back, rest⟩ := (bind_eq_ok _ _ _).mp startAt
          have counted := (checkedSub_eq_ok _ _ _ _).mp back
          have first := (checkedSub_eq_ok _ _ _ _).mp rest
          have total := (endCopyOf_end crates bytes _ _ tail).1
          refine .endOnly _ last start tail accepted.superblockBytes.symm ?_ ?_ rfl
          · rw [accepted.superblockBytes]
            omega
          · rw [accepted.superblock]
            exact region
      | none =>
          rw [start, tail] at choice
          cases choice

structure Tiled (bytes : Bytes) (parsed : StoredTimelockedArtifact) : Prop where
  front : parsed.startSuperblockOffset + 12 + parsed.superblockBytes.length =
    parsed.payloadRegionOffset
  region : parsed.payloadRegionOffset + parsed.superblock.payloadRegionLen.toNat =
    parsed.endSuperblockOffset
  tail : ∀ end_ copy, decodeEndCopyFromFile crates bytes = .ok (end_, copy) →
    parsed.endSuperblockOffset + 12 + parsed.superblockBytes.length = parsed.fileLen

/-- As many bytes lie between two valid copies as the region is long. -/
def Gapless (bytes : Bytes) : Prop :=
  ∀ offset copy end_ last, startCopyOf crates bytes = some (offset, copy) →
    decodeEndCopyFromFile crates bytes = .ok (end_, last) →
    (range bytes (offset + copy.totalLen) end_).length = copy.body.payloadRegionLen.toNat

theorem placed_front (bytes : Bytes) (parsed : StoredTimelockedArtifact)
    (placed : Placed crates bytes parsed) :
    parsed.startSuperblockOffset + 12 + parsed.superblockBytes.length =
      parsed.payloadRegionOffset := by
  cases placed with
  | both | startOnly | endOnly => omega

theorem placed_tail (bytes : Bytes) (parsed : StoredTimelockedArtifact)
    (placed : Placed crates bytes parsed) (end_ : Nat) (last : ValidatedSuperblockCopy)
    (decoded : decodeEndCopyFromFile crates bytes = .ok (end_, last)) :
    parsed.endSuperblockOffset = end_ ∧
      end_ + 12 + parsed.superblockBytes.length = bytes.length := by
  have found := (endCopyOf_eq_some crates bytes end_ last).mpr decoded
  have length := (endCopyOf_end crates bytes end_ last found).2
  cases placed with
  | both _ _ _ _ _ tail same _ _ _ _ endAt | endOnly _ _ _ tail same _ _ endAt =>
      rw [found] at tail
      cases tail
      rw [same] at length
      exact ⟨endAt, length⟩
  | startOnly _ _ _ tail =>
      rw [found] at tail
      cases tail

/-- Only between two valid copies can the region fail to reach the end copy. -/
theorem placed_region (bytes : Bytes) (parsed : StoredTimelockedArtifact)
    (placed : Placed crates bytes parsed)
    (ordered : parsed.payloadRegionOffset + parsed.superblock.payloadRegionLen.toNat ≤
      parsed.endSuperblockOffset) :
    parsed.payloadRegionOffset + parsed.superblock.payloadRegionLen.toNat =
      parsed.endSuperblockOffset ↔ Gapless crates bytes := by
  -- Only where both copies are placed does the end offset come from the file's end.
  cases placed with
  | both offset end_ copy last start tail _ _ regionAt body _ endAt =>
      have stop : end_ ≤ bytes.length := by
        have length := (endCopyOf_end crates bytes end_ last tail).2
        omega
      have between := range_length bytes (offset + copy.totalLen) end_ stop
      have decoded := (endCopyOf_eq_some crates bytes end_ last).mp tail
      constructor
      · intro reached offset' copy' end' last' start' decoded'
        rw [start] at start'
        rw [decoded] at decoded'
        cases start'
        cases decoded'
        rw [between, body]
        omega
      · intro gapless
        have filled := gapless offset copy end_ last start decoded
        rw [between, body] at filled
        omega
  | startOnly _ _ _ tail _ _ _ endAt =>
      apply iff_of_true endAt.symm
      intro _ _ end_ last _ decoded
      rw [(endCopyOf_eq_some crates bytes end_ last).mpr decoded] at tail
      cases tail
  | endOnly _ _ start _ _ _ regionAt endAt =>
      apply iff_of_true (regionAt.symm.trans endAt.symm)
      intro offset copy _ _ found
      rw [start] at found
      cases found

/-- The regions of an accepted file tile it exactly when no bytes stand
between the payload region and a second valid copy. -/
theorem accepted_tiled (bytes : Bytes) (parsed : StoredTimelockedArtifact)
    (success : readTimelockedArtifactBytes crates bytes = .ok parsed) :
    Tiled crates bytes parsed ↔ Gapless crates bytes := by
  obtain ⟨chosen, accepted⟩ := readTimelockedArtifactBytes_accepted crates bytes parsed success
  have placed := readTimelockedArtifactBytes_placed crates bytes parsed success
  have ordered := accepted.ordered
  rw [← accepted.superblock] at ordered
  rw [← placed_region crates bytes parsed placed ordered]
  constructor
  · intro tiled
    exact tiled.region
  · intro reached
    refine ⟨placed_front crates bytes parsed placed, reached, ?_⟩
    intro end_ last decoded
    obtain ⟨endAt, length⟩ := placed_tail crates bytes parsed placed end_ last decoded
    rw [endAt, length, accepted.fileLen]

/-! A file of which only the region and the end copy are known to be left. -/

def endingIn (front region bodyBytes : Bytes) : Bytes :=
  front ++ (region ++ endFrame crates bodyBytes)

structure StartLost (front region bodyBytes : Bytes) (body : SuperblockBody) : Prop where
  decoded : decodeSuperblockBody bodyBytes = .ok body
  region_length : region.length = body.payloadRegionLen.toNat
  addressable : (endingIn crates front region bodyBytes).length < 2 ^ 64
  lost : startCopyOf crates (endingIn crates front region bodyBytes) = none

theorem endingIn_endCopy (front region bodyBytes : Bytes) (body : SuperblockBody)
    (decoded : decodeSuperblockBody bodyBytes = .ok body) :
    endCopyOf crates (endingIn crates front region bodyBytes) =
      some (endCopyAt front region body bodyBytes) := by
  apply (endCopyOf_eq_some crates _ _ _).mpr
  apply (decodeEndCopyFromFile_ok crates _ _ _).mpr
  refine ⟨decoded, rfl, front ++ region, List.length_append, ?_⟩
  exact (List.append_assoc _ _ _).symm

/-- An end copy is enough to read a file exactly when the bytes before the
region could hold the start copy, which is counted but not needed. -/
theorem endCopy_suffices (front region bodyBytes : Bytes) (body : SuperblockBody)
    (left : StartLost crates front region bodyBytes body) :
    (∃ parsed, readTimelockedArtifactBytes crates (endingIn crates front region bodyBytes) =
        .ok parsed ∧ parsed.superblock = body ∧ parsed.payloadRegionOffset = front.length) ↔
      12 + bodyBytes.length ≤ front.length := by
  have found := endingIn_endCopy crates front region bodyBytes body left.decoded
  constructor
  · rintro ⟨parsed, success, _, regionAt⟩
    cases readTimelockedArtifactBytes_placed crates _ parsed success with
    | both _ _ _ _ start | startOnly _ _ start =>
        rw [left.lost] at start
        cases start
    | endOnly _ _ _ tail same startAt =>
        rw [found] at tail
        cases tail
        rw [← same] at startAt
        dsimp only [endCopyAt] at startAt
        omega
  · intro room
    have located : Located (endingIn crates front region bodyBytes) front region
        (endFrame crates bodyBytes) body bodyBytes :=
      ⟨rfl, left.addressable, room, left.region_length, endFrame_length crates bodyBytes⟩
    obtain ⟨parsed, success, as, _⟩ := readTimelockedArtifactBytes_located crates _ _ _ _ _ _
      located (.inl left.lost) (.inr found) (.inr (by rw [found]; exact Option.some_ne_none _))
    exact ⟨parsed, success, as.superblock, as.payloadRegionOffset⟩

end Crates

def gappedArtifact : Bytes := smallArtifact.take 269 ++ (0 :: smallArtifact.drop 269)

def parsedSmall : StoredTimelockedArtifact where
  notice := ""
  superblock := smallBody
  superblockBytes := smallBytes
  header := headerFromSuperblock plainCrates smallBody ""
  startSuperblockOffset := 6
  payloadRegionOffset := 133
  endSuperblockOffset := 269
  fileLen := 396

theorem accepted_tiled_small :
    readTimelockedArtifactBytes plainCrates smallArtifact = .ok parsedSmall ∧
      (Tiled plainCrates smallArtifact parsedSmall ↔ Gapless plainCrates smallArtifact) := by
  have success : readTimelockedArtifactBytes plainCrates smallArtifact = .ok parsedSmall := by
    decide +kernel
  exact ⟨success, accepted_tiled plainCrates smallArtifact parsedSmall success⟩

theorem accepted_gapped :
    ∃ parsed, readTimelockedArtifactBytes plainCrates gappedArtifact = .ok parsed ∧
      ¬ Tiled plainCrates gappedArtifact parsed := by
  refine ⟨{ parsedSmall with endSuperblockOffset := 270, fileLen := 397 }, ?_, ?_⟩
  · decide +kernel
  · intro tiled
    exact absurd tiled.region (by decide +kernel)

def blankFront : Bytes := List.replicate 133 0

def blankRegion : Bytes := List.replicate 136 0

theorem endCopy_suffices_small :
    (∃ parsed, readTimelockedArtifactBytes plainCrates
        (endingIn plainCrates blankFront blankRegion smallBytes) = .ok parsed ∧
        parsed.superblock = smallBody ∧ parsed.payloadRegionOffset = blankFront.length) ↔
      12 + smallBytes.length ≤ blankFront.length :=
  endCopy_suffices plainCrates blankFront blankRegion smallBytes smallBody
    ⟨by decide +kernel, by decide +kernel, by decide +kernel, by decide +kernel⟩

/-- The small artifact from its region on. -/
theorem endCopy_refused :
    smallArtifact.drop 133 =
        endingIn plainCrates [] ((smallArtifact.drop 133).take 136) smallBytes ∧
      startCopyOf plainCrates (smallArtifact.drop 133) = none ∧
      readTimelockedArtifactBytes plainCrates (smallArtifact.drop 133) =
        .error (.invalidFormat "invalid offsets while recovering from end superblock") := by
  decide +kernel

end ArtifactReader
