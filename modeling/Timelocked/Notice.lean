import Timelocked.Superblock

/-!
The readable notice a file starts with, and the bounded search for the start
superblock behind it when the notice is damaged.
-/
namespace Notice
open ByteCodec RunRules Base Superblock

def fileMagic : Bytes := asBytes "TLCK"
def maxNoticeBytes : Nat := 4096
def noticeScanWindowBytes : Nat := 8192
def defaultNoticeText : String :=
  "This is a Timelocked file. Use the Timelocked app (https://timelocked.app) to inspect or unlock it."

def encodeNotice (notice : String) : Except Error Bytes := do
  let noticeBytes := asBytes notice
  rejectIf (noticeBytes.length > maxNoticeBytes)
    (.invalidArgument "notice exceeds supported maximum length")
  pure (fileMagic ++ (leBytes (UInt16.ofNat noticeBytes.length) ++ noticeBytes))

def decodeNotice (bytes : Bytes) : Except Error (String × Nat) := do
  rejectIf (bytes.length < 6 ∨ bytes.take 4 ≠ fileMagic) (.invalidFormat "invalid file magic")
  let noticeLen := (ofLeBytes (range bytes 4 6) : UInt16).toNat
  rejectIf (noticeLen > maxNoticeBytes) (.invalidFormat "invalid notice length")
  let stop := 6 + noticeLen
  rejectIf (bytes.length < stop) (.invalidFormat "truncated notice")
  match fromUtf8 (range bytes 6 stop) with
  | none => .error (.invalidFormat "notice is not valid UTF-8")
  | some notice => .ok (notice, stop)

section Find
variable (crates : Crates)

def startsCopy (bytes : Bytes) (offset : Nat) : Bool :=
  range bytes offset (offset + 4) = startSuperblockMagic &&
    (decodeStartSuperblockCopy crates (bytes.drop offset)).toBool

def noticeEnd (bytes : Bytes) : Option Nat :=
  match decodeNotice bytes with
  | .ok (_, stop) =>
      if bytes.length ≥ stop + 4 && startsCopy crates bytes stop then some stop else none
  | .error _ => none

def scannedOffsets (bytes : Bytes) : List Nat :=
  List.range' 6 (min bytes.length (6 + noticeScanWindowBytes) - 3 - 6)

def findStartSuperblockOffset (bytes : Bytes) : Except Error Nat := do
  rejectIf (bytes.length < 6 ∨ bytes.take 4 ≠ fileMagic) (.invalidFormat "invalid file magic")
  match noticeEnd crates bytes with
  | some stop => pure stop
  | none =>
      match (scannedOffsets bytes).find? (startsCopy crates bytes) with
      | some offset => pure offset
      | none => .error (.invalidFormat "unable to locate a valid start superblock")

/-- Whatever is found starts a valid copy. -/
theorem findStartSuperblockOffset_ok (bytes : Bytes) (offset : Nat)
    (found : findStartSuperblockOffset crates bytes = .ok offset) :
    startsCopy crates bytes offset = true := by
  obtain ⟨_, _, searching⟩ := (bind_eq_ok _ _ _).mp found
  split at searching
  · rename_i stop ended
    cases searching
    unfold noticeEnd at ended
    split at ended
    · split at ended
      · rename_i fits
        obtain rfl := Option.some.inj ended
        simpa using (Bool.and_eq_true _ _ |>.mp fits).2
      · cases ended
    · cases ended
  · split at searching
    · rename_i hit
      cases searching
      exact List.find?_some hit
    · cases searching

theorem startsCopy_iff (bytes : Bytes) (offset : Nat) :
    startsCopy crates bytes offset = true ↔
      ∃ copy, decodeStartSuperblockCopy crates (bytes.drop offset) = .ok copy := by
  unfold startsCopy
  constructor
  · intro starts
    have decodes := (Bool.and_eq_true _ _ |>.mp starts).2
    cases decoded : decodeStartSuperblockCopy crates (bytes.drop offset) with
    | ok copy => exact ⟨copy, rfl⟩
    | error reason => simp [decoded, Except.toBool] at decodes
  · rintro ⟨copy, decoded⟩
    obtain ⟨_, _, rest, framed⟩ := (decodeStartSuperblockCopy_ok crates _ _).mp decoded
    have magic : range bytes offset (offset + 4) = startSuperblockMagic := by
      rw [range, framed, Nat.add_sub_cancel_left, startFrame, List.append_assoc]
      exact List.take_left' rfl
    simp [magic, decoded, Except.toBool]

theorem encodeNotice_ok (notice : String) (noticeBytes : Bytes)
    (encoded : encodeNotice notice = .ok noticeBytes) :
    (asBytes notice).length ≤ maxNoticeBytes ∧
      noticeBytes = fileMagic ++ (leBytes (UInt16.ofNat (asBytes notice).length) ++
        asBytes notice) := by
  unfold encodeNotice at encoded
  obtain ⟨_, fits, returned⟩ := (bind_eq_ok _ _ _).mp encoded
  cases returned
  rw [rejectIf_eq_ok] at fits
  exact ⟨by omega, rfl⟩

theorem encodeNotice_length (notice : String) (noticeBytes : Bytes)
    (encoded : encodeNotice notice = .ok noticeBytes) :
    6 ≤ noticeBytes.length ∧ noticeBytes.length ≤ 6 + maxNoticeBytes := by
  obtain ⟨fits, rfl⟩ := encodeNotice_ok notice noticeBytes encoded
  have magic : fileMagic.length = 4 := rfl
  simp only [List.length_append, leBytes_length, Word.width, magic]
  omega

theorem decodeNotice_encode (notice : String) (noticeBytes rest : Bytes)
    (encoded : encodeNotice notice = .ok noticeBytes) :
    decodeNotice (noticeBytes ++ rest) = .ok (notice, noticeBytes.length) := by
  have bounds := encodeNotice_length notice noticeBytes encoded
  obtain ⟨fits, rfl⟩ := encodeNotice_ok notice noticeBytes encoded
  simp only [maxNoticeBytes] at fits
  have stored : (UInt16.ofNat (asBytes notice).length).toNat = (asBytes notice).length := by
    rw [UInt16.toNat_ofNat']
    exact Nat.mod_eq_of_lt (by omega)
  have total : (fileMagic ++ (leBytes (UInt16.ofNat (asBytes notice).length) ++
      asBytes notice)).length = 6 + (asBytes notice).length := by
    have magic : fileMagic.length = 4 := rfl
    simp only [List.length_append, leBytes_length, Word.width, magic]
    omega
  -- The four checks of the reader, each on the notice as it was written.
  have opened : ¬ ((fileMagic ++ (leBytes (UInt16.ofNat (asBytes notice).length) ++
      asBytes notice) ++ rest).length < 6 ∨
      (fileMagic ++ (leBytes (UInt16.ofNat (asBytes notice).length) ++
        asBytes notice) ++ rest).take 4 ≠ fileMagic) := by
    rw [not_or, not_not, List.length_append, total, List.append_assoc]
    exact ⟨by omega, List.take_left' rfl⟩
  have sized : range (fileMagic ++ (leBytes (UInt16.ofNat (asBytes notice).length) ++
      asBytes notice) ++ rest) 4 6 = leBytes (UInt16.ofNat (asBytes notice).length) := by
    rw [List.append_assoc, List.append_assoc]
    exact range_middle _ _ _ 4 6 rfl (by rw [leBytes_length]; rfl)
  have text : range (fileMagic ++ (leBytes (UInt16.ofNat (asBytes notice).length) ++
      asBytes notice) ++ rest) 6 (6 + (asBytes notice).length) = asBytes notice := by
    rw [← List.append_assoc, List.append_assoc _ (asBytes notice)]
    exact range_middle _ _ _ 6 _ (by rw [List.length_append, leBytes_length]; rfl) rfl
  have whole : ¬ (fileMagic ++ (leBytes (UInt16.ofNat (asBytes notice).length) ++
      asBytes notice) ++ rest).length < 6 + (asBytes notice).length := by
    rw [List.length_append, total]
    omega
  have within : ¬ (asBytes notice).length > maxNoticeBytes := by
    simp only [maxNoticeBytes]
    omega
  unfold decodeNotice
  dsimp only
  rw [rejectIf, if_neg opened, ok_bind, sized, ofLeBytes_leBytes, stored, rejectIf, if_neg within,
    ok_bind, rejectIf, if_neg whole, ok_bind, text, fromUtf8_asBytes, total]

/-- An intact notice leads straight to the copy behind it. -/
theorem findStartSuperblockOffset_intact (notice : String) (noticeBytes rest : Bytes)
    (encoded : encodeNotice notice = .ok noticeBytes)
    (behind : ∃ copy, decodeStartSuperblockCopy crates rest = .ok copy) :
    findStartSuperblockOffset crates (noticeBytes ++ rest) = .ok noticeBytes.length := by
  have bounds := encodeNotice_length notice noticeBytes encoded
  have decoded := decodeNotice_encode notice noticeBytes rest encoded
  have starts : startsCopy crates (noticeBytes ++ rest) noticeBytes.length = true := by
    rw [startsCopy_iff, List.drop_left]
    exact behind
  have enough : (noticeBytes ++ rest).length ≥ noticeBytes.length + 4 := by
    obtain ⟨copy, there⟩ := behind
    obtain ⟨_, _, later, framed⟩ := (decodeStartSuperblockCopy_ok crates _ _).mp there
    have width := congrArg List.length framed
    rw [List.length_append, startFrame_length] at width
    rw [List.length_append]
    omega
  have magic : ¬ ((noticeBytes ++ rest).length < 6 ∨ (noticeBytes ++ rest).take 4 ≠ fileMagic) := by
    obtain ⟨_, rfl⟩ := encodeNotice_ok notice noticeBytes encoded
    rw [not_or, not_not, List.append_assoc]
    rw [List.append_assoc] at enough
    exact ⟨by omega, List.take_left' rfl⟩
  rw [findStartSuperblockOffset, rejectIf, if_neg magic, ok_bind]
  have ended : noticeEnd crates (noticeBytes ++ rest) = some noticeBytes.length := by
    rw [noticeEnd, decoded]
    simp only [starts, enough, decide_true, Bool.and_true, if_true]
  rw [ended]
  rfl

theorem mem_scannedOffsets (bytes : Bytes) (offset : Nat) :
    offset ∈ scannedOffsets bytes ↔
      6 ≤ offset ∧ offset + 4 ≤ bytes.length ∧ offset ≤ 2 + noticeScanWindowBytes := by
  simp only [scannedOffsets, List.mem_range'_1]
  omega

/-- Whatever is found is one of the offsets tried. -/
theorem findStartSuperblockOffset_scanned (bytes : Bytes) (offset : Nat)
    (found : findStartSuperblockOffset crates bytes = .ok offset) :
    offset ∈ scannedOffsets bytes := by
  obtain ⟨_, _, searching⟩ := (bind_eq_ok _ _ _).mp found
  split at searching
  · rename_i stop ended
    cases searching
    unfold noticeEnd at ended
    split at ended
    · rename_i text stop decoded
      split at ended
      · rename_i fits
        obtain rfl := Option.some.inj ended
        have enough : bytes.length ≥ stop + 4 := by
          simpa using (Bool.and_eq_true _ _ |>.mp fits).1
        -- A notice that decodes ends in its first 6 + maxNoticeBytes bytes, so it is in the window.
        have bounds : 6 ≤ stop ∧ stop ≤ 6 + maxNoticeBytes := by
          unfold decodeNotice at decoded
          obtain ⟨_, _, d₁⟩ := (bind_eq_ok _ _ _).mp decoded
          obtain ⟨_, within, d₂⟩ := (bind_eq_ok _ _ _).mp d₁
          obtain ⟨_, _, d₃⟩ := (bind_eq_ok _ _ _).mp d₂
          rw [rejectIf_eq_ok] at within
          split at d₃
          · cases d₃
          · cases d₃
            omega
        rw [mem_scannedOffsets]
        simp only [maxNoticeBytes, noticeScanWindowBytes] at bounds ⊢
        omega
      · cases ended
    · cases ended
  · split at searching
    · rename_i hit
      cases searching
      exact List.mem_of_find?_eq_some hit
    · cases searching

/-- Behind an intact magic the search finds a copy wherever it looks for one. -/
theorem findStartSuperblockOffset_exists (bytes : Bytes) (offset : Nat)
    (magic : bytes.take 4 = fileMagic) (scanned : offset ∈ scannedOffsets bytes)
    (starts : startsCopy crates bytes offset = true) :
    ∃ found, findStartSuperblockOffset crates bytes = .ok found := by
  have bounds := (mem_scannedOffsets bytes offset).mp scanned
  have opened : ¬ (bytes.length < 6 ∨ bytes.take 4 ≠ fileMagic) := by
    rw [not_or, not_not]
    exact ⟨by omega, magic⟩
  rw [findStartSuperblockOffset, rejectIf, if_neg opened, ok_bind]
  cases noticeEnd crates bytes with
  | some stop => exact ⟨stop, rfl⟩
  | none =>
      cases hit : (scannedOffsets bytes).find? (startsCopy crates bytes) with
      | some found => exact ⟨found, rfl⟩
      | none =>
          have missed := List.find?_eq_none.mp hit offset scanned
          exact absurd starts missed

end Find

end Notice
