import Timelocked.Inspection
import Timelocked.PasswordRuns
import Timelocked.Progress

/-!
What structural verification promises about a later unlock. Everything that an
unlock finds wrong with the format of a file, verification finds too: after it
only the passphrase, the authentication of the payload, a payload that is no
text, the output path and the disk are left to fail.
-/
namespace VerifiedUnlock
open ByteCodec RunRules Base PathText FileTree ChunkFrame ProtectedStream PasswordProtection
  Superblock ArtifactReader Recovery OutputPath Unlock UnlockEffects PasswordAttempts PasswordRuns
  Inspection

/-- The errors about the format of a file. That a recovered text is no UTF-8 is
about its payload, which only a key can tell. -/
def Malformed : Error → Prop
  | .io kind => kind = .unexpectedEof
  | .invalidFormat message => message ≠ "recovered text payload is not valid UTF-8"
  | .unsupportedVersion _ => True
  | .verification _ => True
  | _ => False

def Benign (reason : Error) : Prop := ¬ Malformed reason

/-! No call on the tree reports an input that is too short. -/

section Tree
variable (tree : Tree) (cwd : Location) (path : Path)

theorem enter_eof (location : Location) (segment : Name) :
    tree.enter location segment ≠ .error .unexpectedEof := by
  unfold Tree.enter
  grind

theorem walk_eof (location : Location) (segments : List Name) :
    tree.walk location segments ≠ .error .unexpectedEof := by
  induction segments generalizing location with
  | nil => exact fun same => by cases same
  | cons segment rest ih =>
      have entered := enter_eof tree location segment
      unfold Tree.walk
      cases outcome : tree.enter location segment with
      | ok next => exact ih next
      | error kind =>
          rw [outcome] at entered
          exact entered

theorem place_eof : tree.place cwd path ≠ .error .unexpectedEof := by
  have walked := walk_eof tree
  unfold Tree.place
  grind

theorem refusal_eof : tree.refusal cwd path ≠ .unexpectedEof := by
  have walked := walk_eof tree
  unfold Tree.refusal
  grind

theorem persist_eof (contents : Bytes) :
    tree.persist cwd path contents ≠ .error .unexpectedEof := by
  have refused := refusal_eof tree cwd path
  unfold Tree.persist
  grind

theorem holdsTemp_eof : tree.holdsTemp cwd path ≠ .error .unexpectedEof := by
  have walked := walk_eof tree
  unfold Tree.holdsTemp
  grind

theorem mkdir_eof : tree.mkdir cwd path ≠ .error .unexpectedEof := by
  have placed := place_eof tree cwd
  unfold Tree.mkdir
  grind

theorem createDirAll_eof (fuel : Nat) :
    (Tree.createDirAll cwd fuel path tree).1 ≠ .error .unexpectedEof := by
  induction fuel generalizing path tree with
  | zero => exact fun same => by cases same
  | succ fuel ih =>
      have made := fun tree => mkdir_eof tree cwd path
      unfold Tree.createDirAll
      grind

end Tree

theorem io_benign {α : Type} {value : Except IoErrorKind α} (whole : value ≠ .error .unexpectedEof)
    (reason : Error) (failed : value.mapError .io = .error reason) : Benign reason := by
  cases value with
  | ok result => cases failed
  | error kind =>
      cases failed
      exact fun short => whole (congrArg Except.error short)

section Disk
variable (host : Host) (healthy : host.Healthy)
include healthy

theorem call_benign : Run.FailsOnly Benign (call host) := by
  intro s reason s' failed
  rw [call_apply host healthy] at failed
  cases failed

theorem writeAll_benign (writer : Writer) (bytes : Bytes) :
    Run.FailsOnly Benign (writeAll host writer bytes) := by
  intro s reason s' failed
  cases writer with
  | memory => cases failed
  | tempFile =>
      rcases (Run.bind_eq_error _ _ _ _ _).mp failed with failed | ⟨_, _, _, failed⟩
      · exact call_benign host healthy _ _ _ failed
      · cases failed

theorem createDirAll_benign (path : Path) : Run.FailsOnly Benign (createDirAll host path) := by
  refine Run.failsOnly_bind (call_benign host healthy) fun _ s reason s' failed => ?_
  exact io_benign (createDirAll_eof s.tree host.cwd path _) reason
    (congrArg Prod.fst failed)

theorem newTempIn_benign (dir : Path) : Run.FailsOnly Benign (newTempIn host dir) := by
  refine Run.failsOnly_bind (call_benign host healthy) fun _ => ?_
  refine Run.failsOnly_bind (Run.failsOnly_read _) fun tree => ?_
  refine Run.failsOnly_bind (Run.failsOnly_lift (io_benign (holdsTemp_eof tree host.cwd dir)))
    fun _ s reason s' failed => ?_
  cases failed

theorem persist_benign (path : Path) (contents : Bytes) :
    Run.FailsOnly Benign (persist host path contents) := by
  refine Run.failsOnly_bind (call_benign host healthy) fun _ s reason s' failed => ?_
  split at failed
  · cases failed
  · rename_i kind refused
    cases failed
    exact fun short => persist_eof s.tree host.cwd path contents (short ▸ refused)

end Disk

theorem ensureNotCancelled_benign (cancellation : Option CancellationToken) :
    Run.FailsOnly Benign (ensureNotCancelled cancellation) := by
  intro s reason s' failed
  obtain rfl := Progress.ensureNotCancelled_cancelled cancellation s reason s' failed
  exact id

/-- The format of the file is whole: its stream follows the grammar and has the
length recorded. -/
structure Whole (host : Host) (bytes : Bytes) (parsed : StoredTimelockedArtifact) (region : Bytes)
    (frames : List StoredFrame) : Prop where
  read : readTimelockedArtifactBytes host.crates bytes = .ok parsed
  located : payloadRegionOf parsed bytes = .ok region
  rebuilt : reconstructStream host parsed region = .ok (streamBytes 0 frames)
  framed : Stream parsed.superblock.aeadChunkSizeBytes 0 frames
  whole : plaintextTotal frames = parsed.superblock.payloadPlaintextBytes.toNat

/-- Whatever else may have stopped it, a verification that went through has found
a whole file. -/
theorem verifyWithCancel_whole (host : Host) (input : Path) (cancellation : Option CancellationToken)
    (report : TuiSession.VerifyResponse) (before after : World)
    (verified : verifyWithCancel host input cancellation before = (.ok report, after)) :
    ∃ bytes parsed region frames, before.tree.readFile host.cwd input = .ok bytes ∧
      Whole host bytes parsed region frames := by
  obtain ⟨parsed, w₁, parsing, verifying⟩ := (Run.bind_eq_ok _ _ _ _ _).mp verified
  obtain ⟨bytes, opened, reading, decoded⟩ := (Run.bind_eq_ok _ _ _ _ _).mp parsing
  obtain ⟨there, quiet₁⟩ := readFile_eq_ok host input bytes before opened reading
  obtain ⟨read, rfl⟩ := Prod.mk.inj decoded
  obtain ⟨_, _, scanning, _⟩ := (Run.bind_eq_ok _ _ _ _ _).mp verifying
  obtain ⟨⟨_, structural⟩, _, reconstructing, _⟩ := (Run.bind_eq_ok _ _ _ _ _).mp scanning
  obtain ⟨_, w₂, polled, r₁⟩ := (Run.bind_eq_ok _ _ _ _ _).mp reconstructing
  have quiet₂ := Run.keeps_outcome (ensureNotCancelled_quiet cancellation) polled
  obtain ⟨region, w₃, fetching, r₂⟩ := (Run.bind_eq_ok _ _ _ _ _).mp r₁
  obtain ⟨again, _, rereading, located⟩ := (Run.bind_eq_ok _ _ _ _ _).mp fetching
  obtain ⟨same, _⟩ := readFile_eq_ok host input again w₂ _ rereading
  rw [quiet₂.tree, quiet₁.tree, there] at same
  obtain rfl := Except.ok.inj same
  obtain ⟨found, rfl⟩ := Prod.mk.inj located
  obtain ⟨stream, rebuilt, r₃⟩ := (Run.lift_bind_eq_ok _ _ _ _ _).mp r₂
  obtain ⟨counted, scanned, r₄⟩ := (Run.lift_bind_eq_ok _ _ _ _ _).mp r₃
  obtain ⟨_, matched, _⟩ := (Run.lift_bind_eq_ok _ _ _ _ _).mp r₄
  obtain ⟨frames, framed, split, rfl⟩ := (scanProtectedStreamStructural_ok _ _ _).mp scanned
  rw [ensureStructuralPlaintextMatchesSuperblock, rejectIf_eq_ok, not_not] at matched
  exact ⟨bytes, parsed, region, frames, there, read, found, split ▸ rebuilt, framed, matched⟩

def Tagged (crates : Crates) : Prop :=
  ∀ keyBytes nonce aad ciphertext message,
    crates.decrypt keyBytes nonce aad ciphertext = some message →
      ciphertext.length = message.length + 16

section Decrypt
variable (host : Host) (healthy : host.Healthy) (tagged : Tagged host.crates) (writer : Writer)
  (keyBytes digest : Block 32) (onProgress : Bool) (cancellation : Option CancellationToken)
include healthy tagged

omit healthy in
/-- A frame of the grammar is refused by the cipher or opens. -/
theorem openChunk_benign (chunkSize : UInt32) (index : Nat) (frame : StoredFrame)
    (acceptable : Acceptable chunkSize index frame) (reason : Error)
    (failed : openChunk host keyBytes digest (frame.header (UInt64.ofNat index)) frame.ciphertext =
      .error reason) : Benign reason := by
  unfold openChunk at failed
  dsimp only at failed
  split at failed
  · cases failed
    exact id
  · rename_i plaintext opened
    have length := tagged _ _ _ _ _ opened
    rw [acceptable.tagged] at length
    have same : plaintext.length = (frame.header (UInt64.ofNat index)).plaintextLen.toNat :=
      (Nat.add_right_cancel length).symm
    rcases (bind_eq_error _ _ _).mp failed with mismatch | ⟨_, _, returned⟩
    · unfold rejectIf at mismatch
      rw [if_neg (not_not.mpr same)] at mismatch
      cases mismatch
    · cases returned

/-- A round on a frame of the grammar comes to the next one, or is refused. -/
theorem decryptRound_meets (chunkSize : UInt32) (expectedPlaintext index written budget : Nat)
    (frame : StoredFrame) (rest : Bytes) (acceptable : Acceptable chunkSize index frame)
    (good : LoopEnd → Prop)
    (later : ∀ s : World, Run.Meets
      (if (frame.header (UInt64.ofNat index)).isLast then
        pure ⟨index + 1, written + frame.plaintextLen.toNat, true, rest⟩
      else decryptLoop host writer keyBytes digest chunkSize expectedPlaintext onProgress
        cancellation budget (index + 1) (written + frame.plaintextLen.toNat) rest) s good Benign)
    (s : World) :
    Run.Meets (decryptLoop host writer keyBytes digest chunkSize expectedPlaintext onProgress
      cancellation (budget + 1) index written (frame.bytes (UInt64.ofNat index) ++ rest)) s
      good Benign := by
  obtain ⟨read, valid⟩ := (acceptable_iff chunkSize index _ _ rest _).mpr
    ⟨frame, acceptable, rfl, rfl, rfl⟩
  rw [decryptLoop]
  refine Run.meets_bind (Run.meets_failsOnly (ensureNotCancelled_benign cancellation))
    fun _ s₁ _ _ => ?_
  rw [read]
  refine Run.meets_lift_bind (fun _ failed => by cases failed) fun found same => ?_
  cases same
  dsimp only
  rw [valid]
  refine Run.meets_lift_bind (fun _ failed => by cases failed) fun _ _ => ?_
  refine Run.meets_lift_bind
    (openChunk_benign host tagged keyBytes digest chunkSize index frame acceptable)
    fun plaintext opened => ?_
  have length : plaintext.length = frame.plaintextLen.toNat :=
    ((openChunk_ok _ _ _ _ _ _).mp opened).2
  rw [length]
  refine Run.meets_bind (Run.meets_failsOnly (writeAll_benign host healthy writer plaintext))
    fun _ s₂ _ _ => ?_
  obtain ⟨s₃, reported, _⟩ := emitProgress_ok onProgress "unlock-decrypt"
    (written + frame.plaintextLen.toNat) expectedPlaintext s₂
  have ends := later s₃
  rw [Run.Meets, Run.bind_of_ok reported]
  exact ends

theorem decryptLoop_meets (chunkSize : UInt32) (expectedPlaintext index written budget : Nat)
    (frames : List StoredFrame) (stream : Stream chunkSize index frames)
    (enough : frames.length ≤ budget) (s : World) :
    Run.Meets (decryptLoop host writer keyBytes digest chunkSize expectedPlaintext onProgress
        cancellation budget index written (streamBytes index frames)) s
      (fun stop => stop.sawLast = true ∧ stop.rest = [] ∧
        stop.plaintextBytes = written + plaintextTotal frames) Benign := by
  -- Induction on the stream; each frame takes one round of the budget.
  induction stream generalizing written budget s with
  | @last index frame acceptable terminal =>
      obtain ⟨budget, rfl⟩ := Nat.exists_eq_succ_of_ne_zero (n := budget) (by simp at enough; omega)
      have flagged : (frame.header (UInt64.ofNat index)).isLast = true := by
        simpa [StoredFrame.header] using terminal
      rw [streamBytes, streamBytes]
      apply decryptRound_meets host healthy tagged writer keyBytes digest onProgress cancellation
        chunkSize expectedPlaintext index written budget frame [] acceptable
      intro s₁
      rw [if_pos flagged]
      exact Run.meets_pure ⟨rfl, rfl, by simp [plaintextTotal]⟩
  | @more index frame later acceptable open_ _ ih =>
      obtain ⟨budget, rfl⟩ := Nat.exists_eq_succ_of_ne_zero (n := budget) (by simp at enough; omega)
      have flagged : (frame.header (UInt64.ofNat index)).isLast ≠ true := by
        simpa [StoredFrame.header] using open_
      rw [streamBytes]
      apply decryptRound_meets host healthy tagged writer keyBytes digest onProgress cancellation
        chunkSize expectedPlaintext index written budget frame _ acceptable
      intro s₁
      rw [if_neg flagged]
      have total : written + plaintextTotal (frame :: later) =
          written + frame.plaintextLen.toNat + plaintextTotal later := by
        simp only [plaintextTotal, List.map_cons, List.sum_cons, Nat.add_assoc]
      rw [total]
      exact ih (written + frame.plaintextLen.toNat) budget (by simpa using enough) s₁

variable (bytes : Bytes) (parsed : StoredTimelockedArtifact) (region : Bytes)
  (frames : List StoredFrame) (whole : Whole host bytes parsed region frames)
include whole

theorem decryptRecovered_benign :
    Run.FailsOnly Benign (decryptRecovered host parsed writer keyBytes onProgress cancellation
      (streamBytes 0 frames)) := by
  obtain ⟨valid, _⟩ := decoded_wellSized _ _
    (readTimelockedArtifactBytes_decoded _ _ _ whole.read)
  have encoded := (encodeSuperblockBody_ok parsed.superblock _).mpr ⟨valid, rfl⟩
  have digested : superblockDigest host.crates parsed.superblock =
      .ok (host.crates.blake3 (layout parsed.superblock parsed.superblock.canonical)) := by
    rw [superblockDigest, encoded]
    rfl
  intro s reason s' failed
  unfold decryptRecovered at failed
  rw [Run.lift_bind_of_ok digested] at failed
  unfold decryptProtectedStreamToWriterWithCancel at failed
  rcases (Run.bind_eq_error _ _ _ _ _).mp failed with stopped | ⟨_, s₁, _, f₁⟩
  · exact ensureNotCancelled_benign cancellation _ _ _ stopped
  have enough := streamBytes_length 0 frames
  have meets := decryptLoop_meets host healthy tagged writer keyBytes
    (host.crates.blake3 (layout parsed.superblock parsed.superblock.canonical)) onProgress cancellation
    parsed.superblock.aeadChunkSizeBytes (parsed.superblock.payloadPlaintextBytes.toNat) 0 0
    ((streamBytes 0 frames).length + 1) frames whole.framed (by omega) s₁
  rcases (Run.bind_eq_error _ _ _ _ _).mp f₁ with stopped | ⟨stop, s₂, looped, f₂⟩
  · exact Run.meets_error meets stopped
  · rw [Run.Meets, looped] at meets
    obtain ⟨saw, empty, total⟩ := meets
    rw [Nat.zero_add] at total
    rw [Run.lift_bind_of_ok ((finishLoop_ok stop).mpr ⟨saw, empty⟩)] at f₂
    rw [total, whole.whole, rejectIf, if_neg (by simp)] at f₂
    cases f₂

end Decrypt

/-- Whoever answers the prompts reports no fault of a file. -/
def Fair (provider : Option PasswordProvider) : Prop :=
  ∀ answer ∈ provider, ∀ history context reason, answer history context = .error reason →
    Benign reason

section Key
variable (host : Host) (onProgress : Bool) (cancellation : Option CancellationToken)
  (provider : Option PasswordProvider)

theorem solvePuzzleMaskWithCancel_benign (material : PuzzleService.TimelockPuzzleMaterial) :
    Run.FailsOnly Benign (PuzzleService.solvePuzzleMaskWithCancel host.crates onProgress
      cancellation material) := by
  intro s reason s' failed
  rcases solvePuzzleMask_marks host onProgress cancellation material s s' _ failed with
    ⟨stopped, _⟩ | ⟨_, _, success, _⟩
  · cases stopped
    exact id
  · cases success

theorem recoverFileKeyFromTimelock_benign (request : RecoverFileKeyRequest) :
    Run.FailsOnly Benign (recoverFileKeyFromTimelock host onProgress cancellation request) :=
  Run.failsOnly_bind (solvePuzzleMaskWithCancel_benign host onProgress cancellation _)
    fun _ => Run.failsOnly_pure _

theorem cachedTimelockMask_benign (request : RecoverFileKeyRequest) :
    Run.FailsOnly Benign (cachedTimelockMask host onProgress cancellation request) := by
  refine Run.failsOnly_bind (Run.failsOnly_read _) fun kept => ?_
  cases kept with
  | some mask => exact Run.failsOnly_pure mask
  | none =>
      refine Run.failsOnly_bind (solvePuzzleMaskWithCancel_benign host onProgress cancellation _)
        fun mask s reason s' failed => ?_
      cases failed

theorem promptPassphrase_benign (fair : Fair provider) (context : PasswordPromptContext) :
    Run.FailsOnly Benign (promptPassphrase provider context) := by
  intro s reason s' failed
  cases provider with
  | none =>
      cases failed
      exact id
  | some answer =>
      rw [promptPassphrase_apply] at failed
      exact fair answer rfl s.history context reason (congrArg Prod.fst failed)

theorem unwrapFileKeyWithPassword_benign (wrappedKey mask : Block 32) (passphrase : String)
    (params : PasswordProtectionParams) (reason : Error)
    (failed : unwrapFileKeyWithPassword host.crates wrappedKey mask passphrase params =
      .error reason) : Benign reason := by
  have avoids : ∀ other, Malformed other →
      unwrapFileKeyWithPassword host.crates wrappedKey mask passphrase params ≠ .error other := by
    intro other malformed
    refine bind_avoids ?_ fun _ => ok_avoids _ _
    refine bind_avoids ?_ fun _ => ?_
    · unfold PasswordProtectionParams.validate
      refine bind_avoids (rejectIf_avoids _ ?_) fun _ => bind_avoids (rejectIf_avoids _ ?_)
        fun _ => bind_avoids (rejectIf_avoids _ ?_) fun _ => rejectIf_avoids _ ?_ <;>
      · rintro rfl
        exact malformed
    · split
      · rintro same
        cases same
        exact malformed
      · dsimp only
        split
        · rintro same
          cases same
          exact malformed
        · exact ok_avoids _ _
  exact fun malformed => avoids reason malformed failed

theorem recoverPasswordProtectedFileKey_benign (fair : Fair provider)
    (metadata : PasswordProtectionMetadata) (context : PasswordPromptContext)
    (request : RecoverFileKeyRequest) :
    Run.FailsOnly Benign (recoverPasswordProtectedFileKey host onProgress cancellation provider
      metadata context request) :=
  Run.failsOnly_bind (cachedTimelockMask_benign host onProgress cancellation request) fun _ =>
    Run.failsOnly_bind (promptPassphrase_benign provider fair context) fun _ =>
      Run.failsOnly_lift (unwrapFileKeyWithPassword_benign host _ _ _ _)

end Key

theorem capture_meets {α : Type} {run : Op α} {s : World} {allowed : Error → Prop}
    (meets : Run.Meets run { s with sink := [] } (fun _ => True) allowed) :
    Run.Meets (capture run) s (fun _ => True) allowed := by
  rcases outcome : run { s with sink := [] } with ⟨reason | value, s'⟩
  · have stopped := Run.meets_error meets outcome
    rw [Run.Meets, capture, outcome]
    exact stopped
  · rw [Run.Meets, capture, outcome]
    trivial

theorem chooseRecoveredFilePath_benign (pathExists : Path → Bool) (request : UnlockRequest)
    (payloadKind : PayloadKind) (reason : Error)
    (failed : chooseRecoveredFilePath pathExists request payloadKind = .error reason) :
    Benign reason := by
  have searched : ∀ path baseStem extension later index other,
      searchFrom pathExists path baseStem extension later index = .error other → Benign other := by
    intro path baseStem extension later
    induction later with
    | zero =>
        intro index other failed
        rw [searchFrom] at failed
        split at failed
        · cases failed
        · cases failed
          exact id
    | succ later ih =>
        intro index other failed
        rw [searchFrom] at failed
        split at failed
        · cases failed
        · exact ih _ other failed
  have available : ∀ path other, resolveAvailableOutputPath pathExists path = .error other →
      Benign other := by
    intro path other failed
    unfold resolveAvailableOutputPath at failed
    split at failed
    · cases failed
    · split at failed
      · cases failed
        exact id
      · exact searched _ _ _ _ _ other failed
  rcases (bind_eq_error _ _ _).mp failed with refused | ⟨wanted, _, choosing⟩
  · unfold resolveRecoveredFilePath at refused
    split at refused
    · split at refused <;> cases refused
      exact id
    · split at refused <;> cases refused
  · cases wanted with
    | none => cases choosing
    | some path =>
        rcases (bind_eq_error _ _ _).mp choosing with none_ | ⟨_, _, returned⟩
        · exact available path reason none_
        · cases returned

/-- Only a text is recovered without a path. -/
theorem chooseRecoveredFilePath_isSome (pathExists : Path → Bool) (request : UnlockRequest)
    (payloadKind : PayloadKind) (recoveredFilePath : Option Path)
    (chosen : chooseRecoveredFilePath pathExists request payloadKind = .ok recoveredFilePath)
    (named : payloadKind ≠ .text) : recoveredFilePath.isSome := by
  obtain ⟨wanted, resolved, choosing⟩ := (bind_eq_ok _ _ _).mp chosen
  cases payloadKind with
  | text => exact absurd rfl named
  | file originalFilename =>
      dsimp only [resolveRecoveredFilePath] at resolved
      split at resolved <;> cases resolved <;>
      · obtain ⟨_, _, returned⟩ := (bind_eq_ok _ _ _).mp choosing
        cases returned
        rfl

section Unlock
variable (host : Host) (healthy : host.Healthy) (tagged : Tagged host.crates) (onProgress : Bool)
  (cancellation : Option CancellationToken) (request : UnlockRequest) (bytes : Bytes)
  (parsed : StoredTimelockedArtifact) (region : Bytes) (frames : List StoredFrame)
  (whole : Whole host bytes parsed region frames)
include healthy tagged whole

section Once
variable (recoverFileKey : RecoverFileKeyFn)
  (keyBenign : Run.FailsOnly Benign (recoverFileKey (keyRequest parsed)))
  (keyQuiet : ∀ request, Run.Keeps Quiet (recoverFileKey request))
include keyBenign keyQuiet

theorem recoverPayloadToWriterWithCancel_benign (writer : Writer) (s : World)
    (there : s.tree.readFile host.cwd request.input = .ok bytes) :
    Run.Meets (recoverPayloadToWriterWithCancel host request.input parsed writer recoverFileKey
      onProgress cancellation) s (fun _ => True) Benign := by
  refine Run.meets_bind (Run.meets_failsOnly keyBenign) fun key s₁ gotKey _ => ?_
  have quiet := Run.keeps_outcome (keyQuiet _) gotKey
  have read : readPayloadRegionBytes host request.input parsed s₁ = (.ok region, s₁.called) := by
    unfold readPayloadRegionBytes
    rw [Run.bind_of_ok (readFile_ready host healthy request.input bytes s₁ (quiet.tree ▸ there)),
      Run.lift_apply, whole.located]
  have rest := decryptRecovered_benign host healthy tagged writer key onProgress cancellation bytes
    parsed region frames whole
  rw [Run.Meets, Run.bind_of_ok read, Run.lift_bind_of_ok whole.rebuilt]
  exact Run.meets_failsOnly rest

theorem recoverPayloadOnce_benign (payloadKind : PayloadKind) (recoveredFilePath : Option Path)
    (chosen : payloadKind ≠ .text → recoveredFilePath.isSome) (s : World)
    (there : s.tree.readFile host.cwd request.input = .ok bytes) :
    Run.Meets (recoverPayloadOnce host onProgress cancellation request parsed payloadKind
      recoveredFilePath recoverFileKey) s (fun _ => True) Benign := by
  have recovering := recoverPayloadToWriterWithCancel_benign host healthy tagged onProgress
    cancellation request bytes parsed region frames whole recoverFileKey keyBenign keyQuiet
  unfold recoverPayloadOnce
  cases payloadKind with
  | text =>
      refine Run.meets_bind (capture_meets (recovering .memory { s with sink := [] } there))
        fun ⟨stats, textBytes⟩ _ _ _ => ?_
      dsimp only
      split
      · exact Run.meets_fail fun malformed => malformed rfl
      · exact Run.meets_pure trivial
  | file originalFilename =>
      obtain ⟨outputPath, rfl⟩ := Option.isSome_iff_exists.mp (chosen fun same => by cases same)
      refine Run.meets_bind (Run.meets_failsOnly (createDirAll_benign host healthy _))
        fun _ s₁ made _ => ?_
      refine Run.meets_bind (Run.meets_failsOnly (newTempIn_benign host healthy _))
        fun _ s₂ opened _ => ?_
      have grown := steady_grown.trans _ _ _
        (Run.keeps_outcome (createDirAll_steady steady_grown makes_grown host _) made)
        (Run.keeps_outcome (newTempIn_steady steady_grown host _) opened)
      refine Run.meets_bind
        (recovering .tempFile s₂ (Tree.readFile_grown _ _ grown _ _ _ there)) fun _ s₃ _ _ => ?_
      refine Run.meets_bind (Run.meets_failsOnly (call_benign host healthy)) fun _ s₄ _ _ => ?_
      refine Run.meets_bind (Run.meets_failsOnly (ensureNotCancelled_benign cancellation))
        fun _ s₅ _ _ => ?_
      refine Run.meets_bind (Run.meets_failsOnly (Run.failsOnly_read _)) fun contents s₆ _ _ => ?_
      exact Run.meets_bind
        (Run.meets_failsOnly (persist_benign host healthy outputPath contents))
        fun _ _ _ _ => Run.meets_pure trivial

end Once

theorem attempts_benign (provider : Option PasswordProvider) (fair : Fair provider)
    (payloadKind : PayloadKind) (recoveredFilePath : Option Path)
    (chosen : payloadKind ≠ .text → recoveredFilePath.isSome)
    (metadata : PasswordProtectionMetadata) (left attempt : Nat) (previousAttemptFailed : Bool)
    (s : World) (there : s.tree.readFile host.cwd request.input = .ok bytes) :
    Run.Meets (attempts host onProgress cancellation provider request parsed payloadKind
      recoveredFilePath metadata left attempt previousAttemptFailed) s (fun _ => True) Benign := by
  -- Induction on the attempts left; a failed one leaves the artifact where it was.
  induction left generalizing attempt previousAttemptFailed s with
  | zero => exact id
  | succ left ih =>
      have keyQuiet := recoverPasswordProtectedFileKey_keeps quiet_attends host onProgress
        cancellation provider metadata
        ⟨request.input, attempt, maxPasswordAttempts, previousAttemptFailed⟩
      have once := recoverPayloadOnce_benign host healthy tagged onProgress cancellation request
        bytes parsed region frames whole _ (recoverPasswordProtectedFileKey_benign host onProgress
          cancellation provider fair metadata
          ⟨request.input, attempt, maxPasswordAttempts, previousAttemptFailed⟩ (keyRequest parsed))
        keyQuiet payloadKind recoveredFilePath chosen s there
      rcases attempted : attemptOnce host onProgress cancellation provider request parsed
        payloadKind recoveredFilePath metadata attempt previousAttemptFailed s
        with ⟨reason | response, stop⟩
      · have benign := Run.meets_error once attempted
        have grown := recoverPayloadOnce_fails host onProgress cancellation request parsed
          recoveredFilePath _ steady_grown makes_grown hears_grown
          (Run.keeps_weaken (keyQuiet _) quiet_grown) payloadKind s reason stop attempted
        have later := ih (attempt + 1) true stop (Tree.readFile_grown _ _ grown _ _ _ there)
        unfold attempts Run.Meets
        dsimp only
        rw [attempted]
        dsimp only
        by_cases refused : isPayloadAuthenticationError reason = true
        · by_cases again : attempt < maxPasswordAttempts
          · rw [if_pos refused, if_pos again]
            exact later
          · rw [if_pos refused, if_neg again]
            exact id
        · rw [if_neg refused]
          exact benign
      · unfold attempts Run.Meets
        dsimp only
        rw [attempted]
        trivial

end Unlock

/-- Where verification found a file whole, no unlock fails for the format of the file. -/
theorem verified_unlock (verifier host : Host) (stop : Option CancellationToken)
    (report : TuiSession.VerifyResponse) (seen afterwards : World) (input : Path)
    (verified : verifyWithCancel verifier input stop seen = (.ok report, afterwards))
    (crates : host.crates = verifier.crates) (cwd : host.cwd = verifier.cwd)
    (healthy : host.Healthy) (tagged : Tagged host.crates) (onProgress : Bool)
    (cancellation : Option CancellationToken) (provider : Option PasswordProvider)
    (fair : Fair provider) (request : UnlockRequest) (same : request.input = input)
    (before after : World) (tree : before.tree = seen.tree) (reason : Error)
    (failed : executeWithCancelAndPasswordProvider host onProgress cancellation provider request
      before = (.error reason, after)) :
    ¬ Malformed reason := by
  change Benign reason
  obtain ⟨bytes, parsed, region, frames, stored, whole⟩ :=
    verifyWithCancel_whole verifier input stop report seen afterwards verified
  have here : before.tree.readFile host.cwd request.input = .ok bytes := by
    rw [tree, cwd, same, stored]
  have whole' : Whole host bytes parsed region frames :=
    ⟨crates ▸ whole.read, whole.located, by
      rw [reconstructStream, crates]
      exact whole.rebuilt, whole.framed, whole.whole⟩
  suffices meets : Run.Meets (executeWithCancelAndPasswordProvider host onProgress cancellation
      provider request) before (fun _ => True) Benign from
    Run.meets_error meets failed
  refine Run.meets_bind (Run.meets_failsOnly (ensureNotCancelled_benign cancellation))
    fun _ w₁ polled _ => ?_
  have quiet := Run.keeps_outcome (ensureNotCancelled_quiet cancellation) polled
  have there₁ : w₁.tree.readFile host.cwd request.input = .ok bytes := quiet.tree ▸ here
  have parsing : parseContainer host request.input w₁ = (.ok parsed, w₁.called) := by
    unfold parseContainer
    rw [Run.bind_of_ok (readFile_ready host healthy request.input bytes w₁ there₁),
      Run.lift_apply, whole'.read]
  rw [Run.Meets, Run.bind_of_ok parsing, Run.bind_of_ok (Run.read_apply World.tree _)]
  refine Run.meets_lift_bind (chooseRecoveredFilePath_benign _ request _)
    fun recoveredFilePath chosen => ?_
  have named := chooseRecoveredFilePath_isSome _ request _ recoveredFilePath chosen
  cases parsed.superblock.passwordProtection with
  | none =>
      exact recoverPayloadOnce_benign host healthy tagged onProgress cancellation request bytes
        parsed region frames whole' _
        (recoverFileKeyFromTimelock_benign host onProgress cancellation _)
        (recoverFileKeyFromTimelock_keeps quiet_attends host onProgress cancellation)
        parsed.payloadKind recoveredFilePath named _ there₁
  | some metadata =>
      exact attempts_benign host healthy tagged onProgress cancellation request bytes parsed region
        frames whole' provider fair parsed.payloadKind recoveredFilePath named metadata
        maxPasswordAttempts 1 false _ there₁

theorem guardedCrates_tagged : Tagged guardedCrates := by
  intro keyBytes nonce aad ciphertext message opened
  simp only [guardedCrates, plainCrates] at opened
  split at opened
  · split at opened
    · rename_i tag
      have length := congrArg List.length tag
      rw [List.length_drop, (zeros 16).2] at length
      obtain rfl := Option.some.inj opened
      rw [List.length_take]
      omega
    · cases opened
  · cases opened

theorem verified_unlock_guarded :
    ∃ reason, (unlockGuarded fun _ => .ok "a").1 = .error reason ∧ ¬ Malformed reason := by
  have verifies : (verifyWithCancel (calmHost guardedCrates) [['a']] none
      (freshWorld guardedTree)).1.toOption.isSome = true := by decide +kernel
  have refused : (unlockGuarded fun _ => .ok "a").1.toOption.isNone = true := by decide +kernel
  rcases verified : verifyWithCancel (calmHost guardedCrates) [['a']] none
    (freshWorld guardedTree) with ⟨reason | report, checked⟩
  · rw [verified] at verifies
    cases verifies
  rcases ran : unlockGuarded fun _ => .ok "a" with ⟨reason | response, ended⟩
  · refine ⟨reason, rfl, verified_unlock (calmHost guardedCrates) (calmHost guardedCrates) none
      report (freshWorld guardedTree) checked [['a']] verified rfl rfl (fun _ => rfl)
      guardedCrates_tagged false none (some (inOrder fun _ => .ok "a")) ?_ ⟨[['a']], none, none⟩ rfl
      (freshWorld guardedTree) ended rfl reason ran⟩
    rintro answer same history context other failed
    cases same
    cases failed
  · rw [ran] at refused
    cases refused

end VerifiedUnlock
