import Timelocked.PasswordProtection

/-!
The superblock body: the metadata and key material a file is read with. What
the decoder accepts is described by `layout`, which spells a body out together
with the parts of a stored spelling that decoding forgets: leading zero bytes
of the two integers and a target that is marked absent.
-/
namespace Superblock
open ByteCodec RunRules Base PasswordProtection

def bodyVersionV1 : UInt8 := 1
def bodyVersionV2 : UInt8 := 2
def aeadCipherIdXchacha20poly1305 : UInt8 := 1
def rsAlgorithmIdGf256ReedSolomon : UInt8 := 1
def timelockAlgorithmIdRswRepeatedSquaringV1 : UInt8 := 1
def maxSuperblockBodyLenBytes : Nat := 1024 * 1024

structure TimelockPayloadMaterial where
  modulusN : Nat
  baseA : Nat
  wrappedKey : Block 32
  deriving DecidableEq

structure PasswordProtectionMetadata where
  keyProtectionAlgorithm : KeyProtectionAlgorithm
  passwordKdfAlgorithm : PasswordKdfAlgorithm
  params : PasswordProtectionParams
  deriving DecidableEq

namespace PasswordProtectionMetadata

def timelockPlusArgon2idV1 (params : PasswordProtectionParams) : PasswordProtectionMetadata :=
  ⟨.timelockPlusArgon2idV1, .argon2id, params⟩

def validate (metadata : PasswordProtectionMetadata) : Except Error Unit := do
  rejectIf (metadata.keyProtectionAlgorithm ≠ .timelockPlusArgon2idV1)
    (.invalidFormat "password metadata must use timelock-plus-argon2id-v1 key protection")
  rejectIf (metadata.passwordKdfAlgorithm ≠ .argon2id)
    (.invalidFormat "password metadata must use Argon2id KDF")
  rejectIf (metadata.params.salt = [])
    (.invalidFormat "password_salt_len must be greater than 0")
  rejectIf (metadata.params.salt.length > 65535)
    (.invalidFormat "password_salt_len exceeds u16 maximum")
  metadata.params.validate.mapError fun err =>
    let text := describe err
    .invalidFormat s!"invalid password protection parameters: {text}"

end PasswordProtectionMetadata

structure SuperblockBody where
  bodyVersion : UInt8
  flags : UInt16
  payloadPlaintextBytes : UInt64
  protectedStreamLen : UInt64
  payloadRegionLen : UInt64
  aeadChunkSizeBytes : UInt32
  aeadCipherId : UInt8
  rsAlgorithmId : UInt8
  rsDataShards : UInt16
  rsParityShards : UInt16
  rsShardBytes : UInt32
  timelockAlgorithmId : UInt8
  iterations : UInt64
  modulusBits : UInt16
  targetSeconds : Option UInt64
  createdAtUnixSeconds : UInt64
  originalFilename : Option String
  hardwareProfile : String
  timelockMaterial : TimelockPayloadMaterial
  passwordProtection : Option PasswordProtectionMetadata
  deriving DecidableEq

def validatePassword (version : UInt8) : Option PasswordProtectionMetadata → Except Error Unit
  | some metadata =>
      if version = bodyVersionV1 then
        .error (.invalidFormat "v1 superblock body cannot contain password metadata")
      else metadata.validate
  | none =>
      rejectIf (version = bodyVersionV2)
        (.invalidFormat "v2 superblock body requires password metadata")

def SuperblockBody.validate (body : SuperblockBody) : Except Error Unit := do
  rejectIf (body.bodyVersion ≠ bodyVersionV1 ∧ body.bodyVersion ≠ bodyVersionV2)
    (.unsupportedVersion body.bodyVersion)
  validatePassword body.bodyVersion body.passwordProtection
  rejectIf (body.flags ≠ 0) (.invalidFormat "unknown critical superblock flags")
  rejectIf (body.aeadChunkSizeBytes = 0)
    (.invalidFormat "aead_chunk_size_bytes must be greater than 0")
  rejectIf (body.rsDataShards = 0) (.invalidFormat "rs_data_shards must be greater than 0")
  rejectIf (body.rsParityShards = 0) (.invalidFormat "rs_parity_shards must be greater than 0")
  rejectIf (body.rsShardBytes = 0) (.invalidFormat "rs_shard_bytes must be greater than 0")
  rejectIf (body.aeadCipherId ≠ aeadCipherIdXchacha20poly1305)
    (.invalidFormat "unknown AEAD algorithm id")
  rejectIf (body.rsAlgorithmId ≠ rsAlgorithmIdGf256ReedSolomon)
    (.invalidFormat "unknown Reed-Solomon algorithm id")
  rejectIf (body.timelockAlgorithmId ≠ timelockAlgorithmIdRswRepeatedSquaringV1)
    (.invalidFormat "unknown timelock algorithm id")
  rejectIf (body.timelockMaterial.modulusN = 0)
    (.invalidFormat "modulus_n_len must be greater than 0")
  rejectIf (body.timelockMaterial.baseA = 0)
    (.invalidFormat "base_a_len must be greater than 0")

def encodePassword : Option PasswordProtectionMetadata → Bytes
  | some metadata =>
      leBytes metadata.keyProtectionAlgorithm.stableId ++
        (leBytes metadata.passwordKdfAlgorithm.stableId ++
        (leBytes metadata.params.memoryKib ++ (leBytes metadata.params.iterations ++
        (leBytes metadata.params.parallelism ++
        (leBytes (UInt16.ofNat metadata.params.salt.length) ++ metadata.params.salt)))))
  | none => []

/-- What decoding does not keep of a stored body. -/
structure Spelling where
  rawTargetSeconds : UInt64
  modulusBytes : Bytes
  baseBytes : Bytes

def SuperblockBody.filenameBytes (body : SuperblockBody) : Bytes :=
  asBytes (body.originalFilename.getD "")

def layout (body : SuperblockBody) (spelling : Spelling) : Bytes :=
  leBytes body.bodyVersion ++ (leBytes body.flags ++ (leBytes body.payloadPlaintextBytes ++
  (leBytes body.protectedStreamLen ++ (leBytes body.payloadRegionLen ++
  (leBytes body.aeadChunkSizeBytes ++ (leBytes body.aeadCipherId ++
  (leBytes body.rsAlgorithmId ++ (leBytes body.rsDataShards ++ (leBytes body.rsParityShards ++
  (leBytes body.rsShardBytes ++ (leBytes body.timelockAlgorithmId ++ (leBytes body.iterations ++
  (leBytes body.modulusBits ++ (leBytes (if body.targetSeconds.isSome then (1 : UInt8) else 0) ++
  (leBytes spelling.rawTargetSeconds ++ (leBytes body.createdAtUnixSeconds ++
  (leBytes (UInt16.ofNat body.filenameBytes.length) ++ (body.filenameBytes ++
  (leBytes (UInt16.ofNat (asBytes body.hardwareProfile).length) ++
  (asBytes body.hardwareProfile ++ (leBytes (UInt32.ofNat spelling.modulusBytes.length) ++
  (spelling.modulusBytes ++ (leBytes (UInt32.ofNat spelling.baseBytes.length) ++
  (spelling.baseBytes ++ (body.timelockMaterial.wrappedKey.1 ++
  encodePassword body.passwordProtection)))))))))))))))))))))))))

def SuperblockBody.canonical (body : SuperblockBody) : Spelling :=
  ⟨body.targetSeconds.getD 0, toBytesBe body.timelockMaterial.modulusN,
    toBytesBe body.timelockMaterial.baseA⟩

def encodeSuperblockBody (body : SuperblockBody) : Except Error Bytes := do
  body.validate
  pure (layout body body.canonical)

def readTargetSeconds (present : UInt8) (raw : UInt64) : Except Error (Option UInt64) :=
  if present = 0 then .ok none
  else if present = 1 then .ok (some raw)
  else .error (.invalidFormat "target_seconds_present must be 0 or 1")

def readOptionalUtf8 (length : Nat) (input : Bytes) : Except Error (Option String × Bytes) :=
  if length = 0 then .ok (none, input)
  else do
    let (bytes, rest) ← takeExact eof length input
    match fromUtf8 bytes.1 with
    | none => .error (.invalidFormat "original_filename_utf8 is invalid UTF-8")
    | some value => .ok (some value, rest)

def readRequiredUtf8 (length : Nat) (input : Bytes) : Except Error (String × Bytes) := do
  let (bytes, rest) ← takeExact eof length input
  match fromUtf8 bytes.1 with
  | none => .error (.invalidFormat "hardware_profile_utf8 is invalid UTF-8")
  | some value => .ok (value, rest)

def readPasswordProtectionMetadata (input : Bytes) :
    Except Error (PasswordProtectionMetadata × Bytes) := do
  let (keyProtectionAlgorithmId, rest) ← takeWord eof UInt8 input
  rejectIf (keyProtectionAlgorithmId ≠ keyProtectionAlgorithmIdTimelockPlusArgon2idV1)
    (.invalidFormat "unknown key protection algorithm id")
  let (passwordKdfAlgorithmId, rest) ← takeWord eof UInt8 rest
  rejectIf (passwordKdfAlgorithmId ≠ passwordKdfAlgorithmIdArgon2id)
    (.invalidFormat "unknown password KDF algorithm id")
  let (memoryKib, rest) ← takeWord eof UInt32 rest
  let (iterations, rest) ← takeWord eof UInt32 rest
  let (parallelism, rest) ← takeWord eof UInt32 rest
  let (saltLen, rest) ← takeWord eof UInt16 rest
  rejectIf (saltLen = 0) (.invalidFormat "password_salt_len must be greater than 0")
  let (salt, rest) ← takeExact eof saltLen.toNat rest
  let params ← (PasswordProtectionParams.checked memoryKib iterations parallelism salt.1).mapError
    fun err =>
      let text := describe err
      Error.invalidFormat s!"invalid password protection parameters: {text}"
  pure (.timelockPlusArgon2idV1 params, rest)

def readPasswordProtection (bodyVersion : UInt8) (input : Bytes) :
    Except Error (Option PasswordProtectionMetadata × Bytes) :=
  if bodyVersion = bodyVersionV1 then .ok (none, input)
  else if bodyVersion = bodyVersionV2 then do
    let (metadata, rest) ← readPasswordProtectionMetadata input
    pure (some metadata, rest)
  else .error (.unsupportedVersion bodyVersion)

def readInteger (empty : String) (input : Bytes) : Except Error (Nat × Bytes) := do
  let (length, rest) ← takeWord eof UInt32 input
  rejectIf (length.toNat = 0) (.invalidFormat empty)
  let (bytes, rest) ← takeExact eof length.toNat rest
  pure (fromBytesBe bytes.1, rest)

def decodeSuperblockBody (bytes : Bytes) : Except Error SuperblockBody := do
  rejectIf (bytes.length > maxSuperblockBodyLenBytes)
    (.invalidFormat "superblock body exceeds maximum size")
  let (bodyVersion, rest) ← takeWord eof UInt8 bytes
  let (flags, rest) ← takeWord eof UInt16 rest
  let (payloadPlaintextBytes, rest) ← takeWord eof UInt64 rest
  let (protectedStreamLen, rest) ← takeWord eof UInt64 rest
  let (payloadRegionLen, rest) ← takeWord eof UInt64 rest
  let (aeadChunkSizeBytes, rest) ← takeWord eof UInt32 rest
  let (aeadCipherId, rest) ← takeWord eof UInt8 rest
  let (rsAlgorithmId, rest) ← takeWord eof UInt8 rest
  let (rsDataShards, rest) ← takeWord eof UInt16 rest
  let (rsParityShards, rest) ← takeWord eof UInt16 rest
  let (rsShardBytes, rest) ← takeWord eof UInt32 rest
  let (timelockAlgorithmId, rest) ← takeWord eof UInt8 rest
  let (iterations, rest) ← takeWord eof UInt64 rest
  let (modulusBits, rest) ← takeWord eof UInt16 rest
  let (targetSecondsPresent, rest) ← takeWord eof UInt8 rest
  let (rawTargetSeconds, rest) ← takeWord eof UInt64 rest
  let targetSeconds ← readTargetSeconds targetSecondsPresent rawTargetSeconds
  let (createdAtUnixSeconds, rest) ← takeWord eof UInt64 rest
  let (originalFilenameLen, rest) ← takeWord eof UInt16 rest
  let (originalFilename, rest) ← readOptionalUtf8 originalFilenameLen.toNat rest
  let (hardwareProfileLen, rest) ← takeWord eof UInt16 rest
  let (hardwareProfile, rest) ← readRequiredUtf8 hardwareProfileLen.toNat rest
  let (modulusN, rest) ← readInteger "modulus_n_len must be greater than 0" rest
  let (baseA, rest) ← readInteger "base_a_len must be greater than 0" rest
  let (wrappedKey, rest) ← takeExact eof 32 rest
  let (passwordProtection, rest) ← readPasswordProtection bodyVersion rest
  rejectIf (rest ≠ []) (.invalidFormat "unexpected trailing bytes in superblock body")
  let body : SuperblockBody := {
    bodyVersion := bodyVersion
    flags := flags
    payloadPlaintextBytes := payloadPlaintextBytes
    protectedStreamLen := protectedStreamLen
    payloadRegionLen := payloadRegionLen
    aeadChunkSizeBytes := aeadChunkSizeBytes
    aeadCipherId := aeadCipherId
    rsAlgorithmId := rsAlgorithmId
    rsDataShards := rsDataShards
    rsParityShards := rsParityShards
    rsShardBytes := rsShardBytes
    timelockAlgorithmId := timelockAlgorithmId
    iterations := iterations
    modulusBits := modulusBits
    targetSeconds := targetSeconds
    createdAtUnixSeconds := createdAtUnixSeconds
    originalFilename := originalFilename
    hardwareProfile := hardwareProfile
    timelockMaterial := ⟨modulusN, baseA, wrappedKey⟩
    passwordProtection := passwordProtection }
  body.validate
  pure body

/-- `blake3::hash` of the encoded body. -/
def superblockDigest (crates : Crates) (body : SuperblockBody) : Except Error (Block 32) := do
  let encoded ← encodeSuperblockBody body
  pure (crates.blake3 encoded)

theorem takeWord_bind_ok {word α : Type} [Word word] {input : Bytes} {result : α}
    {next : word × Bytes → Except Error α}
    (success : (takeWord eof word input >>= next) = .ok result) :
    ∃ value rest, input = leBytes value ++ rest ∧ next (value, rest) = .ok result := by
  obtain ⟨⟨value, rest⟩, taken, continued⟩ := (bind_eq_ok _ _ _).mp success
  exact ⟨value, rest, (takeWord_eq_ok eof _ _ _).mp taken, continued⟩

theorem toNat_ofNat_u16 (length : Nat) (fits : length < 65536) :
    (UInt16.ofNat length).toNat = length := by
  rw [UInt16.toNat_ofNat']
  exact Nat.mod_eq_of_lt fits

theorem readTargetSeconds_ok (present : UInt8) (raw : UInt64) (target : Option UInt64) :
    readTargetSeconds present raw = .ok target ↔
      present = (if target.isSome then 1 else 0) ∧
        ∀ seconds, target = some seconds → raw = seconds := by
  unfold readTargetSeconds
  constructor
  · intro success
    split at success
    · cases success
      simp_all
    · split at success
      · cases success
        simp_all
      · cases success
  · rintro ⟨rfl, same⟩
    cases target with
    | none => rfl
    | some seconds =>
        obtain rfl := same seconds rfl
        rfl

theorem readOptionalUtf8_ok (length : Nat) (input rest : Bytes) (name : Option String) :
    readOptionalUtf8 length input = .ok (name, rest) ↔
      name ≠ some "" ∧ length = (asBytes (name.getD "")).length ∧
        input = asBytes (name.getD "") ++ rest := by
  unfold readOptionalUtf8
  constructor
  · intro success
    split at success
    · -- Length zero stands for no name, so an empty name cannot be stored.
      rename_i empty
      cases success
      exact ⟨by simp, by rw [empty]; rfl, rfl⟩
    · rename_i present
      obtain ⟨⟨bytes, rest'⟩, taken, decoding⟩ := (bind_eq_ok _ _ _).mp success
      dsimp only at decoding
      split at decoding
      · cases decoding
      · rename_i value decoded
        cases decoding
        have stored := (fromUtf8_eq_some _ _).mp decoded
        rw [takeExact_eq_ok] at taken
        refine ⟨?_, ?_, ?_⟩
        · intro nothing
          obtain rfl := Option.some.inj nothing
          have empty : bytes.1 = [] := stored.symm
          exact present (by rw [← bytes.2, empty]; rfl)
        · rw [Option.getD_some, stored, bytes.2]
        · rw [Option.getD_some, stored, taken]
  · rintro ⟨named, rfl, rfl⟩
    cases name with
    | none => rfl
    | some value =>
        have present : (asBytes value).length ≠ 0 := by
          intro zero
          apply named
          rw [(asBytes_eq_nil value).mp (List.length_eq_zero_iff.mp zero)]
        rw [Option.getD_some, if_neg present,
          (takeExact_eq_ok eof _ _ ⟨asBytes value, rfl⟩ rest).mpr rfl, ok_bind]
        simp

theorem readRequiredUtf8_ok (length : Nat) (input rest : Bytes) (value : String) :
    readRequiredUtf8 length input = .ok (value, rest) ↔
      length = (asBytes value).length ∧ input = asBytes value ++ rest := by
  unfold readRequiredUtf8
  constructor
  · intro success
    obtain ⟨⟨bytes, rest'⟩, taken, decoding⟩ := (bind_eq_ok _ _ _).mp success
    dsimp only at decoding
    split at decoding
    · cases decoding
    · rename_i decoded
      cases decoding
      have stored := (fromUtf8_eq_some _ _).mp decoded
      rw [takeExact_eq_ok] at taken
      exact ⟨by rw [stored, bytes.2], by rw [stored, taken]⟩
  · rintro ⟨rfl, rfl⟩
    rw [(takeExact_eq_ok eof _ _ ⟨asBytes value, rfl⟩ rest).mpr rfl, ok_bind]
    simp

theorem readInteger_ok (empty : String) (input rest : Bytes) (value : Nat) :
    readInteger empty input = .ok (value, rest) ↔
      ∃ bytes, bytes ≠ [] ∧ bytes.length < 2 ^ 32 ∧ fromBytesBe bytes = value ∧
        input = leBytes (UInt32.ofNat bytes.length) ++ (bytes ++ rest) := by
  unfold readInteger
  constructor
  · intro success
    obtain ⟨⟨length, rest₁⟩, sized, checking⟩ := (bind_eq_ok _ _ _).mp success
    obtain ⟨_, present, taking⟩ := (bind_eq_ok _ _ _).mp checking
    obtain ⟨⟨bytes, rest₂⟩, taken, returned⟩ := (bind_eq_ok _ _ _).mp taking
    cases returned
    rw [takeWord_eq_ok] at sized
    rw [takeExact_eq_ok] at taken
    rw [rejectIf_eq_ok] at present
    -- The length word holds the bytes' own length, leading zeros counted.
    have same : UInt32.ofNat bytes.1.length = length := by
      rw [bytes.2]
      exact UInt32.ofNat_toNat
    refine ⟨bytes.1, ?_, ?_, rfl, ?_⟩
    · intro nothing
      exact present (by rw [← bytes.2, nothing]; rfl)
    · rw [bytes.2]
      exact length.toNat_lt
    · rw [sized, taken, same]
  · rintro ⟨bytes, present, fits, rfl, rfl⟩
    have length : (UInt32.ofNat bytes.length).toNat = bytes.length := by
      rw [UInt32.toNat_ofNat']
      exact Nat.mod_eq_of_lt fits
    have positive : ¬ (UInt32.ofNat bytes.length).toNat = 0 := by
      rw [length]
      exact fun zero => present (List.length_eq_zero_iff.mp zero)
    have taken : takeExact eof (UInt32.ofNat bytes.length).toNat (bytes ++ rest) =
        .ok (⟨bytes, length.symm⟩, rest) :=
      (takeExact_eq_ok eof _ _ ⟨bytes, length.symm⟩ rest).mpr rfl
    simp only [takeWord_append, ok_bind, rejectIf, positive, if_false, taken, pure_eq_ok]

theorem PasswordProtectionMetadata.validate_ok (metadata : PasswordProtectionMetadata) :
    metadata.validate = .ok () ↔
      metadata = .timelockPlusArgon2idV1 metadata.params ∧ metadata.params.salt ≠ [] ∧
        metadata.params.salt.length < 65536 ∧ metadata.params.validate = .ok () := by
  obtain ⟨keyProtection, kdf, params⟩ := metadata
  simp only [validate, bind_eq_ok, rejectIf_eq_ok, exists_and_left, exists_const, mapError_eq_ok,
    timelockPlusArgon2idV1, PasswordProtectionMetadata.mk.injEq, ne_eq, not_not, and_true]
  cases keyProtection <;> cases kdf <;> simp
  omega

theorem readPasswordProtectionMetadata_ok (input rest : Bytes)
    (metadata : PasswordProtectionMetadata) :
    readPasswordProtectionMetadata input = .ok (metadata, rest) ↔
      metadata.validate = .ok () ∧ input = encodePassword (some metadata) ++ rest := by
  rw [metadata.validate_ok]
  unfold readPasswordProtectionMetadata
  constructor
  · intro success
    simp only [bind_eq_ok, Prod.exists, takeWord_eq_ok, takeExact_eq_ok, rejectIf_eq_ok, ne_eq,
      not_not, mapError_eq_ok, PasswordProtectionParams.checked_ok, pure_eq_ok, Except.ok.injEq,
      Prod.mk.injEq] at success
    obtain ⟨keyId, _, rfl, _, keyKnown, kdfId, _, rfl, _, kdfKnown, memoryKib, _, rfl, iterations, _,
      rfl, parallelism, _, rfl, saltLen, _, rfl, _, present, salt, _, rfl, params, ⟨rfl, valid⟩, rfl,
      rfl⟩ := success
    have length : UInt16.ofNat salt.1.length = saltLen := by
      rw [salt.2]
      exact UInt16.ofNat_toNat
    refine ⟨⟨rfl, ?_, ?_, valid⟩, ?_⟩
    · intro nothing
      apply present
      rw [← length]
      have empty : salt.1 = [] := nothing
      rw [empty]
      rfl
    · have small := saltLen.toNat_lt
      have width := salt.2
      simp only [PasswordProtectionMetadata.timelockPlusArgon2idV1]
      omega
    · simp only [encodePassword, PasswordProtectionMetadata.timelockPlusArgon2idV1, length,
        List.append_assoc, KeyProtectionAlgorithm.stableId, PasswordKdfAlgorithm.stableId, keyKnown,
        kdfKnown]
  · rintro ⟨⟨made, present, fits, valid⟩, rfl⟩
    rw [made]
    have length := toNat_ofNat_u16 metadata.params.salt.length fits
    -- The reader refuses an empty salt, which validation refuses as well.
    have positive : ¬ UInt16.ofNat metadata.params.salt.length = 0 := by
      intro zero
      rw [zero] at length
      exact present (List.length_eq_zero_iff.mp length.symm)
    have taken : takeExact eof (UInt16.ofNat metadata.params.salt.length).toNat
        (metadata.params.salt ++ rest) = .ok (⟨metadata.params.salt, length.symm⟩, rest) :=
      (takeExact_eq_ok eof _ _ ⟨metadata.params.salt, length.symm⟩ rest).mpr rfl
    have checked : PasswordProtectionParams.checked metadata.params.memoryKib
        metadata.params.iterations metadata.params.parallelism metadata.params.salt =
          .ok metadata.params :=
      (PasswordProtectionParams.checked_ok _ _ _ _ _).mpr ⟨rfl, valid⟩
    simp only [encodePassword, PasswordProtectionMetadata.timelockPlusArgon2idV1,
      KeyProtectionAlgorithm.stableId, PasswordKdfAlgorithm.stableId, List.append_assoc,
      takeWord_append, ok_bind, rejectIf, ne_eq, not_true_eq_false, if_false, positive, taken,
      checked, Except.mapError, pure_eq_ok]

theorem readPasswordProtection_ok (version : UInt8) (input rest : Bytes)
    (password : Option PasswordProtectionMetadata)
    (known : version = bodyVersionV1 ∨ version = bodyVersionV2) :
    readPasswordProtection version input = .ok (password, rest) ↔
      validatePassword version password = .ok () ∧ input = encodePassword password ++ rest := by
  unfold readPasswordProtection
  rcases known with rfl | rfl
  · cases password with
    | none => simp [validatePassword, encodePassword, bodyVersionV1, bodyVersionV2]
    | some metadata => simp [validatePassword]
  · rw [if_neg (by decide), if_pos rfl]
    simp only [bind_eq_ok, Prod.exists, readPasswordProtectionMetadata_ok, pure_eq_ok,
      Except.ok.injEq, Prod.mk.injEq]
    constructor
    · rintro ⟨metadata, _, ⟨valid, rfl⟩, rfl, rfl⟩
      exact ⟨valid, rfl⟩
    · rintro ⟨valid, rfl⟩
      cases password with
      | none => cases valid
      | some metadata => exact ⟨metadata, rest, ⟨valid, rfl⟩, rfl, rfl⟩

/-- A spelling that a body can be read back from. -/
structure Spells (body : SuperblockBody) (spelling : Spelling) : Prop where
  target : ∀ seconds, body.targetSeconds = some seconds → spelling.rawTargetSeconds = seconds
  filename : body.originalFilename ≠ some ""
  filenameFits : body.filenameBytes.length < 65536
  profileFits : (asBytes body.hardwareProfile).length < 65536
  modulusPresent : spelling.modulusBytes ≠ []
  modulusFits : spelling.modulusBytes.length < 2 ^ 32
  modulus : fromBytesBe spelling.modulusBytes = body.timelockMaterial.modulusN
  basePresent : spelling.baseBytes ≠ []
  baseFits : spelling.baseBytes.length < 2 ^ 32
  base : fromBytesBe spelling.baseBytes = body.timelockMaterial.baseA

theorem validate_version (body : SuperblockBody) (valid : body.validate = .ok ()) :
    (body.bodyVersion = bodyVersionV1 ∨ body.bodyVersion = bodyVersionV2) ∧
      validatePassword body.bodyVersion body.passwordProtection = .ok () := by
  unfold SuperblockBody.validate at valid
  obtain ⟨_, known, later⟩ := (bind_eq_ok _ _ _).mp valid
  obtain ⟨_, password, _⟩ := (bind_eq_ok _ _ _).mp later
  rw [rejectIf_eq_ok] at known
  exact ⟨by tauto, password⟩

theorem validate_material (body : SuperblockBody) (valid : body.validate = .ok ()) :
    body.timelockMaterial.modulusN ≠ 0 ∧ body.timelockMaterial.baseA ≠ 0 := by
  unfold SuperblockBody.validate at valid
  iterate 10 obtain ⟨_, _, valid⟩ := (bind_eq_ok _ _ _).mp valid
  obtain ⟨_, modulus, base⟩ := (bind_eq_ok _ _ _).mp valid
  rw [rejectIf_eq_ok] at modulus base
  exact ⟨modulus, base⟩

/-- What decodes is a valid body, spelled out within the size limit. -/
theorem decodeSuperblockBody_ok (bytes : Bytes) (body : SuperblockBody)
    (decoded : decodeSuperblockBody bytes = .ok body) :
    bytes.length ≤ maxSuperblockBodyLenBytes ∧ body.validate = .ok () ∧
      ∃ spelling, Spells body spelling ∧ bytes = layout body spelling := by
  unfold decodeSuperblockBody at decoded
  -- One line per field read; each takes its bytes off the front of what is left.
  obtain ⟨_, small, d₁⟩ := (bind_eq_ok _ _ _).mp decoded
  obtain ⟨version, _, rfl, d₂⟩ := takeWord_bind_ok d₁
  obtain ⟨flags, _, rfl, d₃⟩ := takeWord_bind_ok d₂
  obtain ⟨payloadPlaintextBytes, _, rfl, d₄⟩ := takeWord_bind_ok d₃
  obtain ⟨protectedStreamLen, _, rfl, d₅⟩ := takeWord_bind_ok d₄
  obtain ⟨payloadRegionLen, _, rfl, d₆⟩ := takeWord_bind_ok d₅
  obtain ⟨aeadChunkSizeBytes, _, rfl, d₇⟩ := takeWord_bind_ok d₆
  obtain ⟨aeadCipherId, _, rfl, d₈⟩ := takeWord_bind_ok d₇
  obtain ⟨rsAlgorithmId, _, rfl, d₉⟩ := takeWord_bind_ok d₈
  obtain ⟨rsDataShards, _, rfl, d₁₀⟩ := takeWord_bind_ok d₉
  obtain ⟨rsParityShards, _, rfl, d₁₁⟩ := takeWord_bind_ok d₁₀
  obtain ⟨rsShardBytes, _, rfl, d₁₂⟩ := takeWord_bind_ok d₁₁
  obtain ⟨timelockAlgorithmId, _, rfl, d₁₃⟩ := takeWord_bind_ok d₁₂
  obtain ⟨iterations, _, rfl, d₁₄⟩ := takeWord_bind_ok d₁₃
  obtain ⟨modulusBits, _, rfl, d₁₅⟩ := takeWord_bind_ok d₁₄
  obtain ⟨present, _, rfl, d₁₆⟩ := takeWord_bind_ok d₁₅
  obtain ⟨rawTarget, _, rfl, d₁₇⟩ := takeWord_bind_ok d₁₆
  obtain ⟨targetSeconds, target, d₁₈⟩ := (bind_eq_ok _ _ _).mp d₁₇
  obtain ⟨createdAt, _, rfl, d₁₉⟩ := takeWord_bind_ok d₁₈
  obtain ⟨filenameLen, _, rfl, d₂₀⟩ := takeWord_bind_ok d₁₉
  obtain ⟨⟨filename, _⟩, named, d₂₁⟩ := (bind_eq_ok _ _ _).mp d₂₀
  obtain ⟨notEmpty, filenameLength, rfl⟩ := (readOptionalUtf8_ok _ _ _ _).mp named
  obtain ⟨profileLen, _, rfl, d₂₂⟩ := takeWord_bind_ok d₂₁
  obtain ⟨⟨profile, _⟩, profiled, d₂₃⟩ := (bind_eq_ok _ _ _).mp d₂₂
  obtain ⟨profileLength, rfl⟩ := (readRequiredUtf8_ok _ _ _ _).mp profiled
  obtain ⟨⟨modulusN, _⟩, modulus, d₂₄⟩ := (bind_eq_ok _ _ _).mp d₂₃
  obtain ⟨modulusBytes, modulusPresent, modulusFits, modulusValue, rfl⟩ :=
    (readInteger_ok _ _ _ _).mp modulus
  obtain ⟨⟨baseA, _⟩, base, d₂₅⟩ := (bind_eq_ok _ _ _).mp d₂₄
  obtain ⟨baseBytes, basePresent, baseFits, baseValue, rfl⟩ := (readInteger_ok _ _ _ _).mp base
  obtain ⟨⟨wrappedKey, _⟩, keyed, d₂₆⟩ := (bind_eq_ok _ _ _).mp d₂₅
  obtain rfl := (takeExact_eq_ok _ _ _ _ _).mp keyed
  obtain ⟨⟨password, tail⟩, protection, d₂₇⟩ := (bind_eq_ok _ _ _).mp d₂₆
  obtain ⟨_, empty, d₂₈⟩ := (bind_eq_ok _ _ _).mp d₂₇
  obtain ⟨_, valid, returned⟩ := (bind_eq_ok _ _ _).mp d₂₈
  rw [rejectIf_eq_ok, not_not] at empty
  rw [rejectIf_eq_ok] at small
  clear d₁ d₂ d₃ d₄ d₅ d₆ d₇ d₈ d₉ d₁₀ d₁₁ d₁₂ d₁₃ d₁₄ d₁₅ d₁₆ d₁₇ d₁₈ d₁₉ d₂₀ d₂₁ d₂₂ d₂₃ d₂₄
    d₂₅ d₂₆ d₂₇ d₂₈
  cases returned
  obtain ⟨_, rfl⟩ := (readPasswordProtection_ok _ _ _ _ (validate_version _ valid).1).mp protection
  obtain ⟨flagged, targetValue⟩ := (readTargetSeconds_ok _ _ _).mp target
  -- The length words hold the lengths of what was read behind them.
  have filenameStored : UInt16.ofNat (asBytes (filename.getD "")).length = filenameLen := by
    rw [← filenameLength]
    exact UInt16.ofNat_toNat
  have profileStored : UInt16.ofNat (asBytes profile).length = profileLen := by
    rw [← profileLength]
    exact UInt16.ofNat_toNat
  refine ⟨by omega, valid, ⟨rawTarget, modulusBytes, baseBytes⟩, ?_, ?_⟩
  · refine ⟨targetValue, notEmpty, ?_, ?_, modulusPresent, modulusFits, modulusValue, basePresent,
      baseFits, baseValue⟩
    · exact filenameLength ▸ filenameLen.toNat_lt
    · exact profileLength ▸ profileLen.toNat_lt
  · simp only [layout, SuperblockBody.filenameBytes, filenameStored, profileStored, flagged, empty,
      List.append_nil]

theorem takeWord_append_bind {word α : Type} [Word word] (value : word) (rest : Bytes)
    (next : word × Bytes → Except Error α) :
    (takeWord eof word (leBytes value ++ rest) >>= next) = next (value, rest) := by
  rw [takeWord_append, ok_bind]

/-- Every spelling within the size limit is read back. -/
theorem decodeSuperblockBody_layout (body : SuperblockBody) (spelling : Spelling)
    (small : (layout body spelling).length ≤ maxSuperblockBodyLenBytes)
    (valid : body.validate = .ok ()) (spells : Spells body spelling) :
    decodeSuperblockBody (layout body spelling) = .ok body := by
  have filenameLength := toNat_ofNat_u16 body.filenameBytes.length spells.filenameFits
  have profileLength := toNat_ofNat_u16 (asBytes body.hardwareProfile).length spells.profileFits
  obtain ⟨known, password⟩ := validate_version body valid
  unfold decodeSuperblockBody
  rw [rejectIf, if_neg (by omega), ok_bind, layout]
  -- The sixteen fixed fields up to the raw target, then the variable ones one by one.
  iterate 16 refine (takeWord_append_bind _ _ _).trans ?_
  have target : readTargetSeconds (if body.targetSeconds.isSome then 1 else 0)
      spelling.rawTargetSeconds = .ok body.targetSeconds :=
    (readTargetSeconds_ok _ _ _).mpr ⟨rfl, spells.target⟩
  dsimp only
  rw [target, ok_bind]
  iterate 2 refine (takeWord_append_bind _ _ _).trans ?_
  dsimp only
  have named (rest : Bytes) : readOptionalUtf8 (UInt16.ofNat body.filenameBytes.length).toNat
      (body.filenameBytes ++ rest) = .ok (body.originalFilename, rest) :=
    (readOptionalUtf8_ok _ _ _ _).mpr ⟨spells.filename, filenameLength, rfl⟩
  rw [named, ok_bind]
  refine (takeWord_append_bind _ _ _).trans ?_
  dsimp only
  rw [(readRequiredUtf8_ok _ _ _ body.hardwareProfile).mpr ⟨profileLength, rfl⟩, ok_bind]
  dsimp only
  rw [(readInteger_ok _ _ _ body.timelockMaterial.modulusN).mpr ⟨spelling.modulusBytes,
    spells.modulusPresent, spells.modulusFits, spells.modulus, rfl⟩, ok_bind]
  dsimp only
  rw [(readInteger_ok _ _ _ body.timelockMaterial.baseA).mpr ⟨spelling.baseBytes,
    spells.basePresent, spells.baseFits, spells.base, rfl⟩, ok_bind]
  dsimp only
  rw [takeExact_append, ok_bind]
  dsimp only
  rw [(readPasswordProtection_ok _ _ [] body.passwordProtection known).mpr ⟨password, by simp⟩,
    ok_bind]
  dsimp only
  rw [rejectIf, if_neg (by simp), ok_bind, valid, ok_bind, pure_eq_ok]

/-- The lengths a body's fields must keep to be stored in their length words. -/
structure WellSized (body : SuperblockBody) : Prop where
  filename : body.originalFilename ≠ some ""
  filenameFits : body.filenameBytes.length < 65536
  profileFits : (asBytes body.hardwareProfile).length < 65536
  small : (layout body body.canonical).length ≤ maxSuperblockBodyLenBytes

theorem encodeSuperblockBody_ok (body : SuperblockBody) (bytes : Bytes) :
    encodeSuperblockBody body = .ok bytes ↔
      body.validate = .ok () ∧ bytes = layout body body.canonical := by
  unfold encodeSuperblockBody
  rw [bind_eq_ok]
  constructor
  · rintro ⟨_, valid, returned⟩
    cases returned
    exact ⟨valid, rfl⟩
  · rintro ⟨valid, rfl⟩
    exact ⟨(), valid, rfl⟩

theorem toBytesBe_ne_nil (value : Nat) : toBytesBe value ≠ [] := by
  intro nothing
  have length := toBytesBe_length value
  rw [nothing] at length
  simp [beLength] at length

/-- A part of a spelled body is no longer than the whole. -/
theorem layout_length (body : SuperblockBody) (spelling : Spelling) :
    (layout body spelling).length = (layout body ⟨0, [], []⟩).length +
      spelling.modulusBytes.length + spelling.baseBytes.length := by
  simp only [layout, List.length_append, leBytes_length, List.length_nil]
  omega

theorem leBytes_append_inj {word : Type} [Word word] {left right : word} {front later : Bytes}
    (same : leBytes left ++ front = leBytes right ++ later) : left = right ∧ front = later := by
  obtain ⟨head, tail⟩ := List.append_inj same (by rw [leBytes_length, leBytes_length])
  exact ⟨leBytes_injective head, tail⟩

/-- The lengths come first in a body, so bodies spelled alike agree on them,
whatever their other fields hold. -/
theorem layout_lengths (body body' : SuperblockBody) (spelling spelling' : Spelling)
    (same : layout body spelling = layout body' spelling') :
    body.payloadPlaintextBytes = body'.payloadPlaintextBytes ∧
      body.protectedStreamLen = body'.protectedStreamLen ∧
      body.payloadRegionLen = body'.payloadRegionLen := by
  unfold layout at same
  obtain ⟨_, s₁⟩ := leBytes_append_inj same
  obtain ⟨_, s₂⟩ := leBytes_append_inj s₁
  obtain ⟨plaintext, s₃⟩ := leBytes_append_inj s₂
  obtain ⟨stream, s₄⟩ := leBytes_append_inj s₃
  obtain ⟨region, _⟩ := leBytes_append_inj s₄
  exact ⟨plaintext, stream, region⟩

theorem canonical_spells (body : SuperblockBody) (sized : WellSized body) :
    Spells body body.canonical := by
  have total := layout_length body body.canonical
  have small := sized.small
  simp only [maxSuperblockBodyLenBytes] at small
  refine ⟨?_, sized.filename, sized.filenameFits, sized.profileFits, toBytesBe_ne_nil _, by omega,
    fromBytesBe_toBytesBe _, toBytesBe_ne_nil _, by omega, fromBytesBe_toBytesBe _⟩
  intro seconds present
  simp [SuperblockBody.canonical, present]

/-- A valid body whose fields fit is read back as it was written. -/
theorem decodeSuperblockBody_encode (body : SuperblockBody) (valid : body.validate = .ok ())
    (sized : WellSized body) :
    decodeSuperblockBody (layout body body.canonical) = .ok body :=
  decodeSuperblockBody_layout body body.canonical sized.small valid (canonical_spells body sized)

/-- What was decoded is valid and fits, so it can be written and read again. -/
theorem decoded_wellSized (bytes : Bytes) (body : SuperblockBody)
    (decoded : decodeSuperblockBody bytes = .ok body) :
    body.validate = .ok () ∧ WellSized body := by
  obtain ⟨small, valid, spelling, spells, rfl⟩ := decodeSuperblockBody_ok bytes body decoded
  refine ⟨valid, spells.filename, spells.filenameFits, spells.profileFits, ?_⟩
  have stored := layout_length body spelling
  have written : (layout body body.canonical).length = (layout body ⟨0, [], []⟩).length +
      beLength body.timelockMaterial.modulusN + beLength body.timelockMaterial.baseA := by
    rw [layout_length, SuperblockBody.canonical, toBytesBe_length, toBytesBe_length]
  have modulus := beLength_fromBytesBe spelling.modulusBytes spells.modulusPresent
  have base := beLength_fromBytesBe spelling.baseBytes spells.basePresent
  rw [spells.modulus] at modulus
  rw [spells.base] at base
  omega

theorem encodePassword_length (metadata : PasswordProtectionMetadata) :
    (encodePassword (some metadata)).length = 16 + metadata.params.salt.length := by
  simp only [encodePassword, List.length_append, leBytes_length, Word.width]
  omega

/-- How long a body is, counted in the parts that vary. -/
theorem canonical_length (body : SuperblockBody) :
    (layout body body.canonical).length = 113 + body.filenameBytes.length +
      (asBytes body.hardwareProfile).length + beLength body.timelockMaterial.modulusN +
      beLength body.timelockMaterial.baseA + (encodePassword body.passwordProtection).length := by
  simp only [layout, List.length_append, leBytes_length, Word.width, SuperblockBody.canonical,
    toBytesBe_length, body.timelockMaterial.wrappedKey.2]
  omega

end Superblock
