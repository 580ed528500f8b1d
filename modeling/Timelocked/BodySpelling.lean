import Timelocked.ArtifactWriter

/-!
How far a superblock body and its stored bytes determine one another. The
decoder forgets the target of a body that has none and the leading zero bytes
of the two integers, so it accepts bytes the encoder does not write, and the
digest of such a body is not the digest of the stored bytes. The encoder checks
no length, so it writes bodies the decoder refuses or reads as another one.
-/
namespace Superblock
open ByteCodec RunRules Base PasswordProtection
open ArtifactWriter (smallBody)

def targetFlagOffset : Nat := 52
def nameLengthOffset : Nat := 69

def lengthAt (width offset : Nat) (bytes : Bytes) : Nat := ofLe (range bytes offset (offset + width))

def nameStop (bytes : Bytes) : Nat := nameLengthOffset + 2 + lengthAt 2 nameLengthOffset bytes

def profileStop (bytes : Bytes) : Nat := nameStop bytes + 2 + lengthAt 2 (nameStop bytes) bytes

def modulusStop (bytes : Bytes) : Nat := profileStop bytes + 4 + lengthAt 4 (profileStop bytes) bytes

def baseStop (bytes : Bytes) : Nat := modulusStop bytes + 4 + lengthAt 4 (modulusStop bytes) bytes

def dropZeros (bytes : Bytes) : Bytes := bytes.dropWhile (· = 0)

/-- Stored bytes without what the decoder forgets: the bytes of an absent target
are zeroed, and the leading zeros of the two integers are left out. -/
def tidy (bytes : Bytes) : Bytes :=
  let target := range bytes (targetFlagOffset + 1) (targetFlagOffset + 9)
  let modulus := dropZeros (range bytes (profileStop bytes + 4) (modulusStop bytes))
  let base := dropZeros (range bytes (modulusStop bytes + 4) (baseStop bytes))
  bytes.take (targetFlagOffset + 1) ++
    ((if bytes[targetFlagOffset]? = some 0 then leBytes (0 : UInt64) else target) ++
    (range bytes (targetFlagOffset + 9) (profileStop bytes) ++
    (leBytes (UInt32.ofNat modulus.length) ++ (modulus ++
    (leBytes (UInt32.ofNat base.length) ++ (base ++ bytes.drop (baseStop bytes)))))))

/-- Stored bytes that keep nothing the decoder forgets. -/
structure Canonical (bytes : Bytes) : Prop where
  target : bytes[targetFlagOffset]? = some 0 →
    range bytes (targetFlagOffset + 1) (targetFlagOffset + 9) = leBytes (0 : UInt64)
  modulus : bytes[profileStop bytes + 4]? ≠ some 0
  base : bytes[modulusStop bytes + 4]? ≠ some 0

def fixedFront (body : SuperblockBody) : Bytes :=
  leBytes body.bodyVersion ++ (leBytes body.flags ++ (leBytes body.payloadPlaintextBytes ++
  (leBytes body.protectedStreamLen ++ (leBytes body.payloadRegionLen ++
  (leBytes body.aeadChunkSizeBytes ++ (leBytes body.aeadCipherId ++
  (leBytes body.rsAlgorithmId ++ (leBytes body.rsDataShards ++ (leBytes body.rsParityShards ++
  (leBytes body.rsShardBytes ++ (leBytes body.timelockAlgorithmId ++ (leBytes body.iterations ++
  leBytes body.modulusBits))))))))))))

def targetFlag (body : SuperblockBody) : UInt8 := if body.targetSeconds.isSome then 1 else 0

theorem fixedFront_length (body : SuperblockBody) : (fixedFront body).length = 52 := by
  simp only [fixedFront, List.length_append, leBytes_length]
  rfl

theorem lengthAt_middle {word : Type} [Word word] (front later : Bytes) (value : word)
    (offset : Nat) (before : front.length = offset) :
    lengthAt (Word.width word) offset (front ++ (leBytes value ++ later)) = Word.toNat value := by
  rw [lengthAt, range_middle _ _ _ _ _ before (by rw [leBytes_length]), leBytes,
    ofLe_toLe _ _ (Word.toNat_lt value)]

theorem getElem?_middle (front middle later : Bytes) (offset : Nat)
    (before : front.length = offset) (present : middle ≠ []) :
    (front ++ (middle ++ later))[offset]? = middle.head? := by
  cases middle with
  | nil => exact absurd rfl present
  | cons head rest =>
      subst before
      rw [List.getElem?_append_right (le_refl _), Nat.sub_self]
      rfl

theorem after_section {word : Type} [Word word] (bytes front text later : Bytes) (length : word)
    (offset : Nat) (before : front.length = offset)
    (split : bytes = front ++ (leBytes length ++ (text ++ later)))
    (stored : Word.toNat length = text.length) :
    ∃ longer, longer.length = offset + Word.width word + lengthAt (Word.width word) offset bytes ∧
      bytes = longer ++ later := by
  refine ⟨front ++ (leBytes length ++ text), ?_, ?_⟩
  · rw [split, lengthAt_middle _ _ _ _ before, stored, List.length_append, List.length_append,
      leBytes_length, before]
    omega
  · rw [split]
    simp only [List.append_assoc]

section Spelled
variable (body : SuperblockBody) (spelling : Spelling)

def fromBase : Bytes :=
  leBytes (UInt32.ofNat spelling.baseBytes.length) ++ (spelling.baseBytes ++
    (body.timelockMaterial.wrappedKey.1 ++ encodePassword body.passwordProtection))

def fromModulus : Bytes :=
  leBytes (UInt32.ofNat spelling.modulusBytes.length) ++ (spelling.modulusBytes ++
    fromBase body spelling)

def fromProfile : Bytes :=
  leBytes (UInt16.ofNat (asBytes body.hardwareProfile).length) ++
    (asBytes body.hardwareProfile ++ fromModulus body spelling)

def fromName : Bytes :=
  leBytes (UInt16.ofNat body.filenameBytes.length) ++ (body.filenameBytes ++
    fromProfile body spelling)

theorem layout_sections : layout body spelling =
    fixedFront body ++ (leBytes (targetFlag body) ++ (leBytes spelling.rawTargetSeconds ++
      (leBytes body.createdAtUnixSeconds ++ fromName body spelling))) := by
  simp only [layout, fixedFront, targetFlag, fromName, fromProfile, fromModulus, fromBase,
    List.append_assoc]

theorem layout_targetFlag :
    (layout body spelling)[targetFlagOffset]? = some (targetFlag body) := by
  have flag : leBytes (targetFlag body) = [targetFlag body] := by
    simp [leBytes, toLe, Word.width, Word.toNat]
  rw [layout_sections, flag]
  exact getElem?_middle _ _ _ _ (fixedFront_length body) (List.cons_ne_nil _ _)

theorem layout_rawTarget :
    range (layout body spelling) (targetFlagOffset + 1) (targetFlagOffset + 9) =
      leBytes spelling.rawTargetSeconds := by
  rw [layout_sections, ← List.append_assoc]
  apply range_middle
  · rw [List.length_append, fixedFront_length, leBytes_length]
    rfl
  · rw [leBytes_length]
    rfl

theorem layout_atName : ∃ front, front.length = nameLengthOffset ∧
    layout body spelling = front ++ fromName body spelling := by
  refine ⟨fixedFront body ++ (leBytes (targetFlag body) ++ (leBytes spelling.rawTargetSeconds ++
    leBytes body.createdAtUnixSeconds)), ?_, ?_⟩
  · simp only [List.length_append, fixedFront_length, leBytes_length]
    rfl
  · rw [layout_sections]
    simp only [List.append_assoc]

theorem layout_atProfile (spells : Spells body spelling) : ∃ front,
    front.length = nameStop (layout body spelling) ∧
    layout body spelling = front ++ fromProfile body spelling := by
  obtain ⟨front, before, split⟩ := layout_atName body spelling
  exact after_section _ front _ _ _ _ before split (toNat_ofNat_u16 _ spells.filenameFits)

theorem layout_atModulus (spells : Spells body spelling) : ∃ front,
    front.length = profileStop (layout body spelling) ∧
    layout body spelling = front ++ fromModulus body spelling := by
  obtain ⟨front, before, split⟩ := layout_atProfile body spelling spells
  exact after_section _ front _ _ _ _ before split (toNat_ofNat_u16 _ spells.profileFits)

theorem layout_atBase (spells : Spells body spelling) : ∃ front,
    front.length = modulusStop (layout body spelling) ∧
    layout body spelling = front ++ fromBase body spelling := by
  obtain ⟨front, before, split⟩ := layout_atModulus body spelling spells
  have stored : (UInt32.ofNat spelling.modulusBytes.length).toNat = spelling.modulusBytes.length := by
    rw [UInt32.toNat_ofNat']
    exact Nat.mod_eq_of_lt spells.modulusFits
  obtain ⟨longer, length, later⟩ := after_section _ front _ _ _ _ before split stored
  refine ⟨longer, ?_, later⟩
  rw [length, modulusStop]
  rfl

theorem layout_modulusHead (spells : Spells body spelling) :
    (layout body spelling)[profileStop (layout body spelling) + 4]? = spelling.modulusBytes.head? := by
  obtain ⟨front, before, split⟩ := layout_atModulus body spelling spells
  rw [← before, split, fromModulus, ← List.append_assoc]
  apply getElem?_middle _ _ _ _ _ spells.modulusPresent
  rw [List.length_append, leBytes_length]
  rfl

theorem layout_baseHead (spells : Spells body spelling) :
    (layout body spelling)[modulusStop (layout body spelling) + 4]? = spelling.baseBytes.head? := by
  obtain ⟨front, before, split⟩ := layout_atBase body spelling spells
  rw [← before, split, fromBase, ← List.append_assoc]
  apply getElem?_middle _ _ _ _ _ spells.basePresent
  rw [List.length_append, leBytes_length]
  rfl

/-- The bytes are canonical when the spelling is the encoder's. -/
theorem canonical_layout (spells : Spells body spelling) (valid : body.validate = .ok ()) :
    Canonical (layout body spelling) ↔ spelling = body.canonical := by
  obtain ⟨modulusPositive, basePositive⟩ := validate_material body valid
  have modulus := toBytesBe_fromBytesBe spelling.modulusBytes (by rwa [spells.modulus])
  have base := toBytesBe_fromBytesBe spelling.baseBytes (by rwa [spells.base])
  rw [spells.modulus] at modulus
  rw [spells.base] at base
  -- The three free choices of a spelling: an absent target's bytes and two leading zeros.
  have target : (targetFlag body = 0 → spelling.rawTargetSeconds = 0) ↔
      spelling.rawTargetSeconds = body.targetSeconds.getD 0 := by
    cases seconds : body.targetSeconds with
    | none => simp [targetFlag, seconds]
    | some value => simp [targetFlag, seconds, spells.target value seconds]
  constructor
  · rintro ⟨absent, modulusHead, baseHead⟩
    rw [layout_targetFlag, layout_rawTarget] at absent
    rw [layout_modulusHead body spelling spells] at modulusHead
    rw [layout_baseHead body spelling spells] at baseHead
    have raw := target.mp fun flag => leBytes_injective (absent (congrArg some flag))
    obtain ⟨rawTargetSeconds, modulusBytes, baseBytes⟩ := spelling
    rw [SuperblockBody.canonical, modulus.mpr modulusHead, base.mpr baseHead, ← raw]
  · intro same
    refine ⟨?_, ?_, ?_⟩
    · rw [layout_targetFlag, layout_rawTarget]
      intro flag
      rw [target.mpr (congrArg Spelling.rawTargetSeconds same) (Option.some.inj flag)]
    · rw [layout_modulusHead body spelling spells]
      exact modulus.mp (congrArg Spelling.modulusBytes same).symm
    · rw [layout_baseHead body spelling spells]
      exact base.mp (congrArg Spelling.baseBytes same).symm

def betweenTargetAndModulus : Bytes :=
  leBytes body.createdAtUnixSeconds ++
    (leBytes (UInt16.ofNat body.filenameBytes.length) ++ (body.filenameBytes ++
    (leBytes (UInt16.ofNat (asBytes body.hardwareProfile).length) ++ asBytes body.hardwareProfile)))

def afterBase : Bytes :=
  body.timelockMaterial.wrappedKey.1 ++ encodePassword body.passwordProtection

theorem layout_fields : layout body spelling =
    (fixedFront body ++ leBytes (targetFlag body)) ++ (leBytes spelling.rawTargetSeconds ++
      (betweenTargetAndModulus body ++
      (leBytes (UInt32.ofNat spelling.modulusBytes.length) ++ (spelling.modulusBytes ++
      (leBytes (UInt32.ofNat spelling.baseBytes.length) ++ (spelling.baseBytes ++
        afterBase body)))))) := by
  simp only [layout_sections, fromName, fromProfile, fromModulus, fromBase,
    betweenTargetAndModulus, afterBase, List.append_assoc]

theorem layout_profileStop (spells : Spells body spelling) :
    profileStop (layout body spelling) =
      targetFlagOffset + 9 + (betweenTargetAndModulus body).length := by
  obtain ⟨front, before, split⟩ := layout_atModulus body spelling spells
  have same : front ++ fromModulus body spelling =
      (fixedFront body ++ (leBytes (targetFlag body) ++ (leBytes spelling.rawTargetSeconds ++
        betweenTargetAndModulus body))) ++ fromModulus body spelling := by
    rw [← split, layout_fields]
    simp only [fromModulus, fromBase, afterBase, List.append_assoc]
  rw [← before, List.append_cancel_right same]
  simp only [List.length_append, fixedFront_length, leBytes_length]
  change 52 + (1 + (8 + _)) = 52 + 9 + _
  omega

/-- Where an integer that starts at a known place ends. -/
theorem integer_stop (front integer later : Bytes) (offset : Nat) (before : front.length = offset)
    (fits : integer.length < 2 ^ 32) :
    lengthAt 4 offset (front ++ (leBytes (UInt32.ofNat integer.length) ++ (integer ++ later))) =
        integer.length ∧
      range (front ++ (leBytes (UInt32.ofNat integer.length) ++ (integer ++ later))) (offset + 4)
        (offset + 4 + integer.length) = integer := by
  have stored : (UInt32.ofNat integer.length).toNat = integer.length := by
    rw [UInt32.toNat_ofNat']
    exact Nat.mod_eq_of_lt fits
  constructor
  · exact (lengthAt_middle front _ (UInt32.ofNat integer.length) offset before).trans stored
  · rw [← List.append_assoc]
    apply range_middle _ _ _ _ _ _ rfl
    rw [List.length_append, before, leBytes_length]
    rfl

theorem layout_modulus (spells : Spells body spelling) :
    modulusStop (layout body spelling) =
        profileStop (layout body spelling) + 4 + spelling.modulusBytes.length ∧
      range (layout body spelling) (profileStop (layout body spelling) + 4)
        (modulusStop (layout body spelling)) = spelling.modulusBytes := by
  obtain ⟨front, before, split⟩ := layout_atModulus body spelling spells
  obtain ⟨length, found⟩ := integer_stop front spelling.modulusBytes (fromBase body spelling) _
    before spells.modulusFits
  rw [← fromModulus, ← split] at length found
  rw [modulusStop, length]
  exact ⟨rfl, found⟩

theorem layout_base (spells : Spells body spelling) :
    range (layout body spelling) (modulusStop (layout body spelling) + 4)
        (baseStop (layout body spelling)) = spelling.baseBytes ∧
      (layout body spelling).drop (baseStop (layout body spelling)) = afterBase body := by
  obtain ⟨front, before, split⟩ := layout_atBase body spelling spells
  obtain ⟨length, found⟩ := integer_stop front spelling.baseBytes (afterBase body) _ before
    spells.baseFits
  have whole : layout body spelling = front ++ (leBytes (UInt32.ofNat spelling.baseBytes.length) ++
      (spelling.baseBytes ++ afterBase body)) := split
  rw [← whole] at length found
  have ended : (layout body spelling).drop (front.length + 4 + spelling.baseBytes.length) =
      afterBase body := by
    rw [whole, ← List.append_assoc, ← List.append_assoc]
    apply List.drop_left'
    simp only [List.length_append, leBytes_length]
    rfl
  rw [before] at ended
  rw [baseStop, length]
  exact ⟨found, ended⟩

/-- Tidied, the bytes of a body are the encoder's. -/
theorem tidy_layout (spells : Spells body spelling) (valid : body.validate = .ok ()) :
    tidy (layout body spelling) = layout body body.canonical := by
  obtain ⟨modulusPositive, basePositive⟩ := validate_material body valid
  obtain ⟨modulusEnds, modulusThere⟩ := layout_modulus body spelling spells
  obtain ⟨baseThere, rest⟩ := layout_base body spelling spells
  have modulus : dropZeros spelling.modulusBytes = toBytesBe body.timelockMaterial.modulusN := by
    rw [← spells.modulus]
    exact (toBytesBe_dropWhile _ (by rwa [spells.modulus])).symm
  have base : dropZeros spelling.baseBytes = toBytesBe body.timelockMaterial.baseA := by
    rw [← spells.base]
    exact (toBytesBe_dropWhile _ (by rwa [spells.base])).symm
  have target : (if some (targetFlag body) = some 0 then leBytes (0 : UInt64)
      else leBytes spelling.rawTargetSeconds) = leBytes (body.targetSeconds.getD 0) := by
    cases seconds : body.targetSeconds with
    | none => simp [targetFlag, seconds]
    | some value => simp [targetFlag, seconds, spells.target value seconds]
  have front : (layout body spelling).take (targetFlagOffset + 1) =
      fixedFront body ++ leBytes (targetFlag body) := by
    rw [layout_fields]
    apply List.take_left'
    rw [List.length_append, fixedFront_length, leBytes_length]
    rfl
  have between : range (layout body spelling) (targetFlagOffset + 9)
      (profileStop (layout body spelling)) = betweenTargetAndModulus body := by
    rw [layout_profileStop body spelling spells, layout_fields, ← List.append_assoc]
    apply range_middle _ _ _ _ _ _ rfl
    simp only [List.length_append, fixedFront_length, leBytes_length]
    rfl
  simp only [tidy, front, layout_targetFlag, layout_rawTarget, target, between, modulusThere,
    baseThere, rest, modulus, base]
  rw [layout_fields]
  rfl

end Spelled

/-- What was decoded can be encoded, to the stored bytes or to others. -/
theorem encodeSuperblockBody_decoded (bytes : Bytes) (body : SuperblockBody)
    (decoded : decodeSuperblockBody bytes = .ok body) :
    encodeSuperblockBody body = .ok (layout body body.canonical) ∧
      (layout body body.canonical = bytes ↔ Canonical bytes) := by
  obtain ⟨_, valid, spelling, spells, stored⟩ := decodeSuperblockBody_ok bytes body decoded
  refine ⟨(encodeSuperblockBody_ok _ _).mpr ⟨valid, rfl⟩, ?_⟩
  constructor
  · intro same
    have sized := (decoded_wellSized bytes body decoded).2
    rw [← same]
    exact (canonical_layout body body.canonical (canonical_spells body sized) valid).mpr rfl
  · intro canonical
    rw [stored] at canonical ⊢
    rw [(canonical_layout body spelling spells valid).mp canonical]

def Apart (crates : Crates) (left right : Bytes) : Prop :=
  crates.blake3 left = crates.blake3 right → left = right

theorem superblockDigest_decoded (crates : Crates) (bytes : Bytes) (body : SuperblockBody)
    (decoded : decodeSuperblockBody bytes = .ok body) :
    superblockDigest crates body = .ok (crates.blake3 (layout body body.canonical)) := by
  rw [superblockDigest, (encodeSuperblockBody_decoded bytes body decoded).1]
  rfl

/-- Two accepted strings hold the same body exactly when tidying them leaves the same. -/
theorem tidy_decoded (bytes other : Bytes) (body body' : SuperblockBody)
    (decoded : decodeSuperblockBody bytes = .ok body)
    (decoded' : decodeSuperblockBody other = .ok body') :
    tidy other = tidy bytes ↔ body' = body := by
  obtain ⟨_, valid, spelling, spells, rfl⟩ := decodeSuperblockBody_ok bytes body decoded
  obtain ⟨_, valid', spelling', spells', rfl⟩ := decodeSuperblockBody_ok other body' decoded'
  rw [tidy_layout body spelling spells valid, tidy_layout body' spelling' spells' valid']
  constructor
  · intro same
    have again := decodeSuperblockBody_encode body valid (decoded_wellSized _ _ decoded).2
    have again' := decodeSuperblockBody_encode body' valid' (decoded_wellSized _ _ decoded').2
    rw [same, again] at again'
    exact (Except.ok.inj again').symm
  · rintro rfl
    rfl

theorem superblockDigest_shared (crates : Crates) (bytes other : Bytes) (body body' : SuperblockBody)
    (decoded : decodeSuperblockBody bytes = .ok body)
    (decoded' : decodeSuperblockBody other = .ok body')
    (apart : ∀ written written', encodeSuperblockBody body = .ok written →
      encodeSuperblockBody body' = .ok written' → Apart crates written' written) :
    superblockDigest crates body' = superblockDigest crates body ↔ body' = body := by
  constructor
  · intro same
    rw [superblockDigest_decoded crates bytes body decoded,
      superblockDigest_decoded crates other body' decoded', Except.ok.injEq] at same
    obtain ⟨encoded, _⟩ := encodeSuperblockBody_decoded bytes body decoded
    obtain ⟨encoded', _⟩ := encodeSuperblockBody_decoded other body' decoded'
    have written := apart _ _ encoded encoded' same
    obtain ⟨valid, sized⟩ := decoded_wellSized bytes body decoded
    obtain ⟨valid', sized'⟩ := decoded_wellSized other body' decoded'
    have again := decodeSuperblockBody_encode body valid sized
    rw [← written, decodeSuperblockBody_encode body' valid' sized'] at again
    exact Except.ok.inj again
  · rintro rfl
    rfl

/-- The bytes of an accepted body are written back, and are what its digest is
taken of, exactly when they are canonical. Another accepted string shares the
digest exactly when it holds the same body, so it is another one only where
tidying both leaves the same; two canonical ones are one. -/
theorem storedBody_authenticated (crates : Crates) (bytes : Bytes) (body : SuperblockBody)
    (decoded : decodeSuperblockBody bytes = .ok body)
    (apart : ∀ written, encodeSuperblockBody body = .ok written → Apart crates written bytes) :
    (encodeSuperblockBody body = .ok bytes ↔ Canonical bytes) ∧
      (superblockDigest crates body = .ok (crates.blake3 bytes) ↔ Canonical bytes) ∧
      ∀ other body', decodeSuperblockBody other = .ok body' →
        (∀ written written', encodeSuperblockBody body = .ok written →
          encodeSuperblockBody body' = .ok written' → Apart crates written' written) →
        (superblockDigest crates body' = superblockDigest crates body ↔ body' = body) ∧
        ((superblockDigest crates body' = superblockDigest crates body → other = bytes) ↔
          (tidy other = tidy bytes → other = bytes)) ∧
        (Canonical bytes → Canonical other →
          superblockDigest crates body' = superblockDigest crates body → other = bytes) := by
  obtain ⟨encoded, canonical⟩ := encodeSuperblockBody_decoded bytes body decoded
  have digest := superblockDigest_decoded crates bytes body decoded
  refine ⟨?_, ?_, ?_⟩
  · rw [encoded, Except.ok.injEq, canonical]
  · rw [digest, Except.ok.injEq, ← canonical]
    exact ⟨apart _ encoded, congrArg crates.blake3⟩
  · intro other body' decoded' different
    have shared := superblockDigest_shared crates bytes other body body' decoded decoded' different
    refine ⟨shared, ?_, ?_⟩
    · rw [shared, tidy_decoded bytes other body body' decoded decoded']
    · -- each is what the encoder writes of the one body
      intro stored stored' same
      obtain rfl := shared.mp same
      rw [← canonical.mpr stored]
      exact ((encodeSuperblockBody_decoded other _ decoded').2.mpr stored').symm

def smallBytes : Bytes := layout smallBody smallBody.canonical

def strayTarget : Bytes := layout smallBody ⟨7, [35], [2]⟩

def paddedModulus : Bytes := layout smallBody ⟨0, [0, 35], [2]⟩

theorem decodeSuperblockBody_small : decodeSuperblockBody smallBytes = .ok smallBody := by
  decide +kernel

theorem decodeSuperblockBody_stray : decodeSuperblockBody strayTarget = .ok smallBody := by
  decide +kernel

theorem storedBody_authenticated_small :
    (encodeSuperblockBody smallBody = .ok smallBytes ↔ Canonical smallBytes) ∧
      (superblockDigest plainCrates smallBody = .ok (plainCrates.blake3 smallBytes) ↔
        Canonical smallBytes) ∧
      ((superblockDigest plainCrates smallBody = superblockDigest plainCrates smallBody →
          strayTarget = smallBytes) ↔
        (tidy strayTarget = tidy smallBytes → strayTarget = smallBytes)) := by
  have once : ∀ written, encodeSuperblockBody smallBody = .ok written → written = smallBytes := by
    intro written encoded
    exact ((encodeSuperblockBody_ok _ _).mp encoded).2
  obtain ⟨rewritten, hashed, shared⟩ := storedBody_authenticated plainCrates smallBytes smallBody
    decodeSuperblockBody_small fun written encoded _ => once written encoded
  refine ⟨rewritten, hashed, (shared strayTarget smallBody decodeSuperblockBody_stray ?_).2.1⟩
  intro written written' encoded encoded' _
  rw [once written encoded, once written' encoded']

theorem storedBody_forgotten :
    decodeSuperblockBody strayTarget = .ok smallBody ∧
      decodeSuperblockBody paddedModulus = .ok smallBody ∧
      encodeSuperblockBody smallBody ≠ .ok strayTarget ∧
      encodeSuperblockBody smallBody ≠ .ok paddedModulus ∧ strayTarget ≠ paddedModulus := by
  decide +kernel

def passwordLength : Option PasswordProtectionMetadata → Nat
  | some metadata => 16 + metadata.params.salt.length
  | none => 0

/-- The lengths the decoder reads with, of which the encoder checks none. -/
structure Storable (body : SuperblockBody) : Prop where
  filename : body.originalFilename ≠ some ""
  filenameFits : (asBytes (body.originalFilename.getD "")).length < 65536
  profileFits : (asBytes body.hardwareProfile).length < 65536
  small : 113 + (asBytes (body.originalFilename.getD "")).length +
    (asBytes body.hardwareProfile).length + beLength body.timelockMaterial.modulusN +
    beLength body.timelockMaterial.baseA + passwordLength body.passwordProtection ≤
      maxSuperblockBodyLenBytes

theorem wellSized_iff (body : SuperblockBody) : WellSized body ↔ Storable body := by
  have length := canonical_length body
  have password : (encodePassword body.passwordProtection).length =
      passwordLength body.passwordProtection := by
    cases body.passwordProtection with
    | none => rfl
    | some metadata => exact encodePassword_length metadata
  rw [password, SuperblockBody.filenameBytes] at length
  constructor
  · rintro ⟨filename, filenameFits, profileFits, small⟩
    exact ⟨filename, filenameFits, profileFits, length ▸ small⟩
  · rintro ⟨filename, filenameFits, profileFits, small⟩
    exact ⟨filename, filenameFits, profileFits, length.symm ▸ small⟩

/-- What the encoder writes is read back as the same body exactly when the
fields fit their length words and the whole fits a superblock. -/
theorem encodedBody_decodes (body : SuperblockBody) (bytes : Bytes)
    (encoded : encodeSuperblockBody body = .ok bytes) :
    decodeSuperblockBody bytes = .ok body ↔ Storable body := by
  obtain ⟨valid, rfl⟩ := (encodeSuperblockBody_ok body bytes).mp encoded
  rw [← wellSized_iff]
  constructor
  · intro decoded
    exact (decoded_wellSized _ body decoded).2
  · intro sized
    exact decodeSuperblockBody_encode body valid sized

def namelessBody : SuperblockBody := { smallBody with originalFilename := some "" }

theorem encodedBody_decodes_small :
    decodeSuperblockBody smallBytes = .ok smallBody ↔ Storable smallBody :=
  encodedBody_decodes smallBody smallBytes (by decide +kernel)

theorem encodedBody_misread :
    encodeSuperblockBody namelessBody = .ok smallBytes ∧
      decodeSuperblockBody smallBytes = .ok smallBody ∧
      decodeSuperblockBody smallBytes ≠ .ok namelessBody := by
  decide +kernel

end Superblock
