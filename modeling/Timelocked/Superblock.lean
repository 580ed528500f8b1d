import Timelocked.SuperblockBody

/-!
The two framed copies of a superblock body, mirrored so that one can be found
from the start of a file and the other from its end. A copy decodes exactly
when it is the frame of a body that decodes, whatever is read after it.
-/
namespace Superblock
open ByteCodec RunRules Base

def startSuperblockMagic : Bytes := asBytes "TLSB"
def endSuperblockMagic : Bytes := asBytes "TLEB"

structure ValidatedSuperblockCopy where
  body : SuperblockBody
  bodyBytes : Bytes
  totalLen : Nat
  deriving DecidableEq

/-- `&bytes[start..stop]`. -/
def range (bytes : Bytes) (start stop : Nat) : Bytes := (bytes.drop start).take (stop - start)

section Crc
variable (crates : Crates)

def startFrame (bodyBytes : Bytes) : Bytes :=
  startSuperblockMagic ++ (leBytes (UInt32.ofNat bodyBytes.length) ++
    (leBytes (crates.crc32c bodyBytes) ++ bodyBytes))

def endFrame (bodyBytes : Bytes) : Bytes :=
  bodyBytes ++ (leBytes (crates.crc32c bodyBytes) ++
    (leBytes (UInt32.ofNat bodyBytes.length) ++ endSuperblockMagic))

def encodeStartSuperblockCopy (body : SuperblockBody) : Except Error Bytes := do
  let bodyBytes ← encodeSuperblockBody body
  pure (startFrame crates bodyBytes)

def encodeEndSuperblockCopy (body : SuperblockBody) : Except Error Bytes := do
  let bodyBytes ← encodeSuperblockBody body
  pure (endFrame crates bodyBytes)

def validateCrc (bodyBytes : Bytes) (expectedCrc : UInt32) : Except Error Unit :=
  rejectIf (crates.crc32c bodyBytes ≠ expectedCrc) (.invalidFormat "superblock CRC mismatch")

def decodeStartSuperblockCopy (bytes : Bytes) : Except Error ValidatedSuperblockCopy := do
  rejectIf (bytes.length < 12 ∨ bytes.take 4 ≠ startSuperblockMagic)
    (.invalidFormat "invalid start superblock magic")
  let length := (ofLeBytes (range bytes 4 8) : UInt32).toNat
  rejectIf (length > maxSuperblockBodyLenBytes)
    (.invalidFormat "unreasonable start superblock length")
  let totalLen := 12 + length
  rejectIf (bytes.length < totalLen) (.invalidFormat "truncated start superblock")
  let crc : UInt32 := ofLeBytes (range bytes 8 12)
  let bodyBytes := range bytes 12 totalLen
  validateCrc crates bodyBytes crc
  let body ← decodeSuperblockBody bodyBytes
  pure ⟨body, bodyBytes, totalLen⟩

def decodeEndSuperblockCopy (bytes : Bytes) : Except Error ValidatedSuperblockCopy := do
  rejectIf (bytes.length < 12 ∨ bytes.drop (bytes.length - 4) ≠ endSuperblockMagic)
    (.invalidFormat "invalid end superblock magic")
  let lenOffset := bytes.length - 8
  let crcOffset := bytes.length - 12
  let length := (ofLeBytes (range bytes lenOffset (bytes.length - 4)) : UInt32).toNat
  rejectIf (length > maxSuperblockBodyLenBytes)
    (.invalidFormat "unreasonable end superblock length")
  rejectIf (bytes.length ≠ length + 12) (.invalidFormat "end superblock length mismatch")
  let bodyBytes := bytes.take crcOffset
  let crc : UInt32 := ofLeBytes (range bytes crcOffset lenOffset)
  validateCrc crates bodyBytes crc
  let body ← decodeSuperblockBody bodyBytes
  pure ⟨body, bodyBytes, bytes.length⟩

end Crc

def chooseSuperblockCopy : Option ValidatedSuperblockCopy → Option ValidatedSuperblockCopy →
    Except Error ValidatedSuperblockCopy
  | some start, some end_ =>
      if start.bodyBytes = end_.bodyBytes then .ok start
      else .error (.invalidFormat "contradictory valid superblock copies")
  | some start, none => .ok start
  | none, some end_ => .ok end_
  | none, none => .error (.invalidFormat "both superblock copies are unusable")

theorem range_append (bytes : Bytes) (start stop : Nat) (ordered : start ≤ stop) :
    range bytes start stop ++ bytes.drop stop = bytes.drop start := by
  have later : bytes.drop stop = (bytes.drop start).drop (stop - start) := by
    rw [List.drop_drop]
    congr 1
    omega
  rw [range, later, List.take_append_drop]

theorem range_length (bytes : Bytes) (start stop : Nat) (inside : stop ≤ bytes.length) :
    (range bytes start stop).length = stop - start := by
  rw [range, List.length_take, List.length_drop]
  omega

/-- The slice between two parts of known lengths. -/
theorem range_middle (front middle later : Bytes) (start stop : Nat) (before : front.length = start)
    (width : start + middle.length = stop) :
    range (front ++ (middle ++ later)) start stop = middle := by
  subst before
  rw [range, List.drop_left, ← width, Nat.add_sub_cancel_left, List.take_left]

section Crc
variable (crates : Crates)

@[simp] theorem startFrame_length (bodyBytes : Bytes) :
    (startFrame crates bodyBytes).length = 12 + bodyBytes.length := by
  simp only [startFrame, List.length_append, leBytes_length]
  change 4 + (4 + (4 + bodyBytes.length)) = _
  omega

@[simp] theorem endFrame_length (bodyBytes : Bytes) :
    (endFrame crates bodyBytes).length = bodyBytes.length + 12 := by
  simp only [endFrame, List.length_append, leBytes_length]
  rfl

theorem toNat_ofNat_body (bodyBytes : Bytes)
    (small : bodyBytes.length ≤ maxSuperblockBodyLenBytes) :
    (UInt32.ofNat bodyBytes.length).toNat = bodyBytes.length := by
  rw [UInt32.toNat_ofNat']
  simp only [maxSuperblockBodyLenBytes] at small
  exact Nat.mod_eq_of_lt (by omega)

theorem decodeStartSuperblockCopy_ok (bytes : Bytes) (copy : ValidatedSuperblockCopy) :
    decodeStartSuperblockCopy crates bytes = .ok copy ↔
      decodeSuperblockBody copy.bodyBytes = .ok copy.body ∧
        copy.totalLen = 12 + copy.bodyBytes.length ∧
        ∃ rest, bytes = startFrame crates copy.bodyBytes ++ rest := by
  unfold decodeStartSuperblockCopy
  constructor
  · intro success
    obtain ⟨_, magic, success⟩ := (bind_eq_ok _ _ _).mp success
    obtain ⟨_, _, success⟩ := (bind_eq_ok _ _ _).mp success
    obtain ⟨_, whole, success⟩ := (bind_eq_ok _ _ _).mp success
    obtain ⟨_, checked, success⟩ := (bind_eq_ok _ _ _).mp success
    obtain ⟨body, decoded, returned⟩ := (bind_eq_ok _ _ _).mp success
    cases returned
    rw [rejectIf_eq_ok, not_or, not_not] at magic
    rw [rejectIf_eq_ok] at whole
    rw [validateCrc, rejectIf_eq_ok, not_not] at checked
    -- The fields read are four bytes each, and they spell the frame's header again.
    have lengthWidth := range_length bytes 4 8 (by omega)
    have crcWidth := range_length bytes 8 12 (by omega)
    have width := range_length bytes 12 (12 + (ofLeBytes (range bytes 4 8) : UInt32).toNat)
      (by omega)
    have stored : UInt32.ofNat (range bytes 12
        (12 + (ofLeBytes (range bytes 4 8) : UInt32).toNat)).length =
          ofLeBytes (range bytes 4 8) := by
      rw [width, Nat.add_sub_cancel_left]
      exact UInt32.ofNat_toNat
    refine ⟨decoded, by simp [width],
      bytes.drop (12 + (ofLeBytes (range bytes 4 8) : UInt32).toNat), ?_⟩
    simp only [startFrame, stored, checked]
    rw [leBytes_ofLeBytes _ (by rw [lengthWidth]; rfl), leBytes_ofLeBytes _ (by rw [crcWidth]; rfl)]
    simp only [List.append_assoc]
    rw [range_append _ _ _ (by omega), range_append _ _ _ (by omega), range_append _ _ _ (by omega),
      ← magic.2, List.take_append_drop]
  · obtain ⟨body, bodyBytes, totalLen⟩ := copy
    rintro ⟨decoded, total, rest, framed⟩
    dsimp only at decoded total framed
    subst total framed
    have small := (decodeSuperblockBody_ok _ _ decoded).1
    have length := toNat_ofNat_body bodyBytes small
    -- The frame is cut at 4, 8 and 12, where its writer put length, checksum and body.
    have sized : range (startFrame crates bodyBytes ++ rest) 4 8 =
        leBytes (UInt32.ofNat bodyBytes.length) := by
      rw [startFrame, List.append_assoc, List.append_assoc]
      exact range_middle _ _ _ 4 8 rfl (by rw [leBytes_length]; rfl)
    have summed : range (startFrame crates bodyBytes ++ rest) 8 12 =
        leBytes (crates.crc32c bodyBytes) := by
      rw [startFrame, List.append_assoc, List.append_assoc, List.append_assoc,
        ← List.append_assoc startSuperblockMagic]
      exact range_middle _ _ _ 8 12 (by rw [List.length_append, leBytes_length]; rfl)
        (by rw [leBytes_length]; rfl)
    have bodied : range (startFrame crates bodyBytes ++ rest) 12 (12 + bodyBytes.length) =
        bodyBytes := by
      have split : startFrame crates bodyBytes ++ rest =
          (startSuperblockMagic ++ leBytes (UInt32.ofNat bodyBytes.length) ++
            leBytes (crates.crc32c bodyBytes)) ++ (bodyBytes ++ rest) := by
        simp [startFrame]
      rw [split]
      exact range_middle _ _ _ 12 _ (by
        rw [List.length_append, List.length_append, leBytes_length, leBytes_length]; rfl) rfl
    have magic : ¬ ((startFrame crates bodyBytes ++ rest).length < 12 ∨
        (startFrame crates bodyBytes ++ rest).take 4 ≠ startSuperblockMagic) := by
      rw [not_or, not_not, List.length_append, startFrame_length]
      exact ⟨by omega, by rw [startFrame, List.append_assoc]; exact List.take_left' rfl⟩
    have whole : ¬ (startFrame crates bodyBytes ++ rest).length < 12 + bodyBytes.length := by
      rw [List.length_append, startFrame_length]
      omega
    have within : ¬ bodyBytes.length > maxSuperblockBodyLenBytes := by omega
    simp only [sized, summed, ofLeBytes_leBytes, length, bodied, rejectIf, magic, whole, within,
      validateCrc, ne_eq, not_true_eq_false, if_false, ok_bind, decoded, pure_eq_ok]

theorem decodeEndSuperblockCopy_ok (bytes : Bytes) (copy : ValidatedSuperblockCopy) :
    decodeEndSuperblockCopy crates bytes = .ok copy ↔
      decodeSuperblockBody copy.bodyBytes = .ok copy.body ∧
        copy.totalLen = bytes.length ∧ bytes = endFrame crates copy.bodyBytes := by
  unfold decodeEndSuperblockCopy
  constructor
  · intro success
    obtain ⟨_, magic, success⟩ := (bind_eq_ok _ _ _).mp success
    obtain ⟨_, _, success⟩ := (bind_eq_ok _ _ _).mp success
    obtain ⟨_, whole, success⟩ := (bind_eq_ok _ _ _).mp success
    obtain ⟨_, checked, success⟩ := (bind_eq_ok _ _ _).mp success
    obtain ⟨body, decoded, returned⟩ := (bind_eq_ok _ _ _).mp success
    cases returned
    rw [rejectIf_eq_ok, not_or, not_not] at magic
    rw [rejectIf_eq_ok, not_not] at whole
    rw [validateCrc, rejectIf_eq_ok, not_not] at checked
    -- The same fields, counted from the end of the file.
    have lengthWidth := range_length bytes (bytes.length - 8) (bytes.length - 4) (by omega)
    have crcWidth := range_length bytes (bytes.length - 12) (bytes.length - 8) (by omega)
    have stored : UInt32.ofNat (bytes.take (bytes.length - 12)).length =
        ofLeBytes (range bytes (bytes.length - 8) (bytes.length - 4)) := by
      rw [List.length_take, Nat.min_eq_left (by omega)]
      have width : bytes.length - 12 =
          (ofLeBytes (range bytes (bytes.length - 8) (bytes.length - 4)) : UInt32).toNat := by
        omega
      rw [width]
      exact UInt32.ofNat_toNat
    refine ⟨decoded, rfl, ?_⟩
    simp only [endFrame, stored, checked]
    rw [leBytes_ofLeBytes _ (by rw [crcWidth]; simp only [Word.width]; omega),
      leBytes_ofLeBytes _ (by rw [lengthWidth]; simp only [Word.width]; omega), ← magic.2,
      range_append _ _ _ (by omega), range_append _ _ _ (by omega), List.take_append_drop]
  · obtain ⟨body, bodyBytes, totalLen⟩ := copy
    rintro ⟨decoded, total, framed⟩
    dsimp only at decoded total framed
    subst framed total
    have small := (decodeSuperblockBody_ok _ _ decoded).1
    have length := toNat_ofNat_body bodyBytes small
    have total : (endFrame crates bodyBytes).length = bodyBytes.length + 12 :=
      endFrame_length crates bodyBytes
    -- The trailer lies behind the body: checksum, length, magic.
    have split : endFrame crates bodyBytes = (bodyBytes ++ leBytes (crates.crc32c bodyBytes)) ++
        (leBytes (UInt32.ofNat bodyBytes.length) ++ endSuperblockMagic) := by
      simp [endFrame]
    have sized : range (endFrame crates bodyBytes) (bodyBytes.length + 4) (bodyBytes.length + 8) =
        leBytes (UInt32.ofNat bodyBytes.length) := by
      rw [split]
      exact range_middle _ _ _ _ _ (by rw [List.length_append, leBytes_length]; rfl)
        (by rw [leBytes_length]; rfl)
    have summed : range (endFrame crates bodyBytes) bodyBytes.length (bodyBytes.length + 4) =
        leBytes (crates.crc32c bodyBytes) :=
      range_middle _ _ _ _ _ rfl (by rw [leBytes_length]; rfl)
    have bodied : (endFrame crates bodyBytes).take bodyBytes.length = bodyBytes := List.take_left
    have tail : (endFrame crates bodyBytes).drop (bodyBytes.length + 8) = endSuperblockMagic := by
      have whole : endFrame crates bodyBytes = (bodyBytes ++ leBytes (crates.crc32c bodyBytes) ++
          leBytes (UInt32.ofNat bodyBytes.length)) ++ endSuperblockMagic := by
        simp [endFrame]
      rw [whole]
      exact List.drop_left' (by
        rw [List.length_append, List.length_append, leBytes_length, leBytes_length]; rfl)
    have offsets : bodyBytes.length + 12 - 8 = bodyBytes.length + 4 ∧
        bodyBytes.length + 12 - 12 = bodyBytes.length ∧
        bodyBytes.length + 12 - 4 = bodyBytes.length + 8 := by omega
    have long : ¬ bodyBytes.length + 12 < 12 := by omega
    have within : ¬ bodyBytes.length > maxSuperblockBodyLenBytes := by omega
    simp only [total, offsets.1, offsets.2.1, offsets.2.2, sized, summed, tail, ofLeBytes_leBytes,
      length, bodied, rejectIf, long, within, validateCrc, ne_eq, not_true_eq_false, or_self,
      if_false, ok_bind, decoded, pure_eq_ok]

end Crc

end Superblock
