import Timelocked.LockEffects
import Timelocked.UnlockEffects

/-!
A token that a progress callback sets. An unlock run polls once more between
its last callback and the rename, so it honours every callback. A lock run
polls before each chunk and not after the last one: the callback that reports
the whole plaintext comes too late, whatever the number of chunks.
-/
namespace CancelledCallback
open ByteCodec RunRules Base PathText FileTree Superblock ArtifactReader ProtectedStream
  ArtifactWriter Recovery Unlock UnlockEffects Lock LockEffects

def isCallback : Event → Bool
  | .progress _ _ _ => true
  | _ => false

def reportsWhole : Event → Bool
  | .progress phase current total => phase = "lock-encrypt" && current = total
  | _ => false

/-- The token is set from inside this callback of a run, and stays set. -/
structure SetInCallback (isCancelled : CancellationToken) (event : Event)
    (before after : World) : Prop where
  callback : isCallback event = true
  emitted : ∃ later earlier, after.history = later ++ event :: earlier ∧
    before.history <:+ earlier ∧ ∀ since, isCancelled (since ++ event :: earlier) = true

/-- A poll found the token unset, and since then only this has happened. -/
def Polled (isCancelled : CancellationToken) (allowed : Event → Prop) (before after : World) :
    Prop :=
  ∃ polled : World, Logged (fun _ => True) before polled ∧ isCancelled polled.history = false ∧
    Logged allowed polled after

/-- Only what came after that poll can have set the token. -/
theorem polled_allows (isCancelled : CancellationToken) (allowed : Event → Prop) (event : Event)
    (before after : World) (polled : Polled isCancelled allowed before after)
    (set_ : SetInCallback isCancelled event before after) : allowed event := by
  obtain ⟨found, _, unset, new, history, may⟩ := polled
  obtain ⟨later, earlier, history', _, stays⟩ := set_.emitted
  rw [history] at history'
  rcases List.append_eq_append_iff.mp history' with ⟨since, _, rest⟩ | ⟨since, front, rest⟩
  · -- The callback came before the poll, which would have found the token set.
    rw [rest, stays since] at unset
    cases unset
  · cases since with
    | nil =>
        have stays := stays []
        rw [rest] at stays
        rw [List.nil_append, List.nil_append, unset] at stays
        cases stays
    | cons first since =>
        obtain ⟨rfl, _⟩ := List.cons.inj rest
        exact may event (by simp [front])

section Polled
variable {isCancelled : CancellationToken} {allowed : Event → Prop}

theorem polled_after {a b c : World} (first : Logged (fun _ => True) a b)
    (second : Polled isCancelled allowed b c) : Polled isCancelled allowed a c := by
  obtain ⟨polled, reached, unset, rest⟩ := second
  exact ⟨polled, logged_trans _ _ _ _ first reached, unset, rest⟩

theorem polled_before {a b c : World} (first : Polled isCancelled allowed a b)
    (second : Logged allowed b c) : Polled isCancelled allowed a c := by
  obtain ⟨polled, reached, unset, rest⟩ := first
  exact ⟨polled, reached, unset, logged_trans _ _ _ _ rest second⟩

theorem polled_weaken {wider : Event → Prop} (widen : ∀ event, allowed event → wider event)
    {before after : World} (polled : Polled isCancelled allowed before after) :
    Polled isCancelled wider before after := by
  obtain ⟨found, reached, unset, rest⟩ := polled
  exact ⟨found, reached, unset, logged_weaken allowed wider widen _ _ rest⟩

theorem ensureNotCancelled_polled (poll : allowed .poll) {before after : World}
    (alive : ensureNotCancelled (some isCancelled) before = (.ok (), after)) :
    Polled isCancelled allowed before after := by
  unfold ensureNotCancelled at alive
  dsimp only at alive
  split at alive
  · cases alive
  · rename_i unset
    cases alive
    exact ⟨before, logged_refl _ before, by simpa using unset,
      logged_passes allowed .poll poll before⟩

end Polled

theorem attends_logged : Attends (Logged fun _ => True) where
  toWatches := steady_logged.watches hears_logged
  solved := logged_passes _ _ trivial
  prompted _ _ := logged_passes _ _ trivial
  cached _ _ := ⟨[], rfl, fun _ member => by cases member⟩

def Unheard (heard : Event → Prop) (event : Event) : Prop := isCallback event = true → heard event

theorem steady_unheard (heard : Event → Prop) : Steady (Logged (Unheard heard)) :=
  logged_steady _ (fun no => by cases no) (fun no => by cases no) (fun no => by cases no)
    fun _ _ _ _ no => by cases no

section Unlock
variable (host : Host) (onProgress : Bool) (isCancelled : CancellationToken)
  (provider : Option PasswordProvider) (request : UnlockRequest)
  (parsed : StoredTimelockedArtifact) (recoveredFilePath : Option Path)

/-- A poll stands between the last callback and the rename. -/
theorem recoverPayloadOnce_polled (recoverFileKey : RecoverFileKeyFn)
    (keyLogged : ∀ request, Run.Keeps (Logged fun _ => True) (recoverFileKey request))
    (originalFilename : String) (response : UnlockResponse) (before after : World)
    (success : recoverPayloadOnce host onProgress (some isCancelled) request parsed
      (.file originalFilename) recoveredFilePath recoverFileKey before = (.ok response, after)) :
    Polled isCancelled (Unheard fun _ => False) before after := by
  unfold recoverPayloadOnce at success
  cases recoveredFilePath with
  | none => cases success
  | some outputPath =>
      obtain ⟨_, w₁, made, s₁⟩ := (Run.bind_eq_ok _ _ _ _ _).mp success
      obtain ⟨_, w₂, opened, s₂⟩ := (Run.bind_eq_ok _ _ _ _ _).mp s₁
      obtain ⟨_, w₃, recovered, s₃⟩ := (Run.bind_eq_ok _ _ _ _ _).mp s₂
      obtain ⟨_, w₄, flushed, s₄⟩ := (Run.bind_eq_ok _ _ _ _ _).mp s₃
      obtain ⟨_, w₅, alive, s₅⟩ := (Run.bind_eq_ok _ _ _ _ _).mp s₄
      obtain ⟨contents, _, held, s₆⟩ := (Run.bind_eq_ok _ _ _ _ _).mp s₅
      cases held
      obtain ⟨_, _, renamed, returned⟩ := (Run.bind_eq_ok _ _ _ _ _).mp s₆
      cases returned
      -- Nothing before the poll matters: hearing a callback there is answered by the poll.
      have log₁ := Run.keeps_outcome (createDirAll_steady steady_logged makes_logged host _) made
      have log₂ := Run.keeps_outcome (newTempIn_steady steady_logged host _) opened
      have log₃ := Run.keeps_outcome (recoverPayloadToWriterWithCancel_steady steady_logged
        hears_logged host request.input parsed _ _ _ (keyLogged _) onProgress) recovered
      have log₄ := Run.keeps_outcome (call_steady steady_logged host) flushed
      have polled : Polled isCancelled (Unheard fun _ => False) _ _ :=
        ensureNotCancelled_polled (fun no => by cases no) alive
      have moved := Run.keeps_outcome (persist_steady (steady_unheard fun _ => False)
        (moves_logged _) host outputPath _) renamed
      apply polled_before _ moved
      apply polled_after log₁
      apply polled_after log₂
      apply polled_after log₃
      exact polled_after log₄ polled

theorem attempts_polled (originalFilename : String) (metadata : PasswordProtectionMetadata)
    (left attempt : Nat) (previousAttemptFailed : Bool) (response : UnlockResponse)
    (before after : World)
    (success : attempts host onProgress (some isCancelled) provider request parsed
      (.file originalFilename) recoveredFilePath metadata left attempt previousAttemptFailed
      before = (.ok response, after)) :
    Polled isCancelled (Unheard fun _ => False) before after := by
  -- Failed attempts only add events; the one that succeeds polls before it renames.
  induction left generalizing attempt previousAttemptFailed before with
  | zero => cases success
  | succ left ih =>
      have keyLogged := recoverPasswordProtectedFileKey_keeps attends_logged host onProgress
        (some isCancelled) provider metadata
        ⟨request.input, attempt, maxPasswordAttempts, previousAttemptFailed⟩
      rw [attempts] at success
      dsimp only at success
      rcases attempted : attemptOnce host onProgress (some isCancelled) provider request parsed
        (.file originalFilename) recoveredFilePath metadata attempt previousAttemptFailed before
        with ⟨reason | once, stop⟩
      · rw [attempted] at success
        dsimp only at success
        have logged := recoverPayloadOnce_fails host onProgress (some isCancelled) request parsed
          recoveredFilePath _ steady_logged makes_logged hears_logged (keyLogged _)
          (.file originalFilename) before reason stop attempted
        split at success
        · split at success
          · exact polled_after logged (ih _ _ stop success)
          · cases success
        · cases success
      · rw [attempted] at success
        cases success
        exact recoverPayloadOnce_polled host onProgress isCancelled request parsed
          recoveredFilePath _ keyLogged originalFilename response before stop attempted

def HoldsFile (before : World) : Prop :=
  ∀ bytes parsed, before.tree.readFile host.cwd request.input = .ok bytes →
    readTimelockedArtifactBytes host.crates bytes = .ok parsed → parsed.payloadKind ≠ .text

theorem unlock_polled (response : UnlockResponse) (before after : World)
    (file : HoldsFile host request before)
    (success : executeWithCancelAndPasswordProvider host onProgress (some isCancelled) provider
      request before = (.ok response, after)) :
    Polled isCancelled (Unheard fun _ => False) before after := by
  unfold executeWithCancelAndPasswordProvider at success
  obtain ⟨_, w₁, alive, s₁⟩ := (Run.bind_eq_ok _ _ _ _ _).mp success
  obtain ⟨parsed, w₂, parsing, s₂⟩ := (Run.bind_eq_ok _ _ _ _ _).mp s₁
  obtain ⟨_, _, seen, s₃⟩ := (Run.bind_eq_ok _ _ _ _ _).mp s₂
  cases seen
  obtain ⟨recoveredFilePath, _, s₄⟩ := (Run.lift_bind_eq_ok _ _ _ _ _).mp s₃
  obtain ⟨bytes, opened, reading, decoded⟩ := (Run.bind_eq_ok _ _ _ _ _).mp parsing
  obtain ⟨there, quiet⟩ := readFile_eq_ok host request.input bytes w₁ opened reading
  obtain ⟨read, rfl⟩ := Prod.mk.inj decoded
  have quiet₁ := Run.keeps_outcome (ensureNotCancelled_quiet (some isCancelled)) alive
  have log₁ := Run.keeps_outcome (ensureNotCancelled_steady steady_logged (some isCancelled)) alive
  have log₂ := Run.keeps_outcome (readFile_steady steady_logged host request.input) reading
  rw [quiet₁.tree] at there
  apply polled_after log₁
  apply polled_after log₂
  -- A text payload is never renamed into place; files go through the poll before it.
  cases kind : parsed.payloadKind with
  | text => exact absurd kind (file bytes parsed there read)
  | file originalFilename =>
      rw [kind] at s₄
      cases protection : parsed.superblock.passwordProtection with
      | none =>
          rw [protection] at s₄
          exact recoverPayloadOnce_polled host onProgress isCancelled request parsed
            recoveredFilePath _ (recoverFileKeyFromTimelock_keeps attends_logged host onProgress _)
            originalFilename response opened after s₄
      | some metadata =>
          rw [protection] at s₄
          exact attempts_polled host onProgress isCancelled provider request parsed
            recoveredFilePath originalFilename metadata _ _ _ response (zeroizeMask opened) after s₄

end Unlock

theorem emitProgress_logged (allowed : Event → Prop) (onProgress : Bool) (phase : String)
    (current total : Nat) (may : allowed (.progress phase current total)) :
    Run.Keeps (Logged allowed) (emitProgress onProgress phase current total) := by
  unfold emitProgress
  split
  · exact logged_passes allowed _ may
  · exact Run.keeps_pure (logged_refl allowed) ()

section Encrypt
variable (host : Host) (writer : Writer) (keyBytes superblockDigest : Block 32)
  (totalPlaintext : Nat) (onProgress : Bool) (isCancelled : CancellationToken)

def LastReport (written : Nat) (event : Event) : Prop :=
  event = .progress "lock-encrypt" written totalPlaintext

/-- After the last poll one chunk is sealed and reported. -/
theorem lastChunk_polled (index : Nat) (plaintext : Bytes) (written : Nat)
    (before alive after : World)
    (polled : ensureNotCancelled (some isCancelled) before = (.ok (), alive))
    (success : (do
      sealChunk host writer keyBytes superblockDigest index plaintext true
      emitProgress onProgress "lock-encrypt" written totalPlaintext) alive = (.ok (), after)) :
    Polled isCancelled (Unheard (LastReport totalPlaintext written)) before after := by
  obtain ⟨_, between, sealing, reported⟩ := (Run.bind_eq_ok _ _ _ _ _).mp success
  have steady := steady_unheard (LastReport totalPlaintext written)
  have log₁ := Run.keeps_outcome (sealChunk_steady steady host writer keyBytes superblockDigest
    index plaintext true) sealing
  have log₂ := Run.keeps_outcome (emitProgress_logged (Unheard (LastReport totalPlaintext written))
    onProgress "lock-encrypt" written totalPlaintext fun _ => rfl) reported
  apply polled_before _ log₂
  apply polled_before _ log₁
  exact ensureNotCancelled_polled (fun no => by cases no) polled

theorem encryptLoop_polled {size : Nat} (reader : PlaintextReader size) (current : Piece size)
    (index written : Nat) (stats : ChunkEncryptionStats) (before after : World)
    (success : encryptLoop host writer keyBytes superblockDigest totalPlaintext onProgress
      (some isCancelled) reader current index written before = (.ok stats, after)) :
    Polled isCancelled (Unheard (LastReport totalPlaintext stats.plaintextBytes)) before after := by
  induction reader generalizing current index written before with
  | nil =>
      obtain ⟨_, alive, polled, s₁⟩ := (Run.bind_eq_ok _ _ _ _ _).mp success
      obtain ⟨_, sealed, sealing, s₂⟩ := (Run.bind_eq_ok _ _ _ _ _).mp s₁
      obtain ⟨_, _, reported, returned⟩ := (Run.bind_eq_ok _ _ _ _ _).mp s₂
      cases returned
      exact lastChunk_polled host writer keyBytes superblockDigest totalPlaintext onProgress
        isCancelled index current.1 _ before alive after polled
        ((Run.bind_of_ok sealing _).trans reported)
  | cons read rest ih =>
      cases read with
      | error kind =>
          obtain ⟨_, _, _, failed⟩ := (Run.bind_eq_ok _ _ _ _ _).mp success
          cases failed
      | ok next =>
          obtain ⟨_, alive, polled, s₁⟩ := (Run.bind_eq_ok _ _ _ _ _).mp success
          obtain ⟨_, sealed, sealing, s₂⟩ := (Run.bind_eq_ok _ _ _ _ _).mp s₁
          obtain ⟨_, told, reported, more⟩ := (Run.bind_eq_ok _ _ _ _ _).mp s₂
          -- The next round polls again.
          apply polled_after (Run.keeps_outcome (ensureNotCancelled_steady steady_logged _) polled)
          apply polled_after (Run.keeps_outcome (sealChunk_steady steady_logged host writer keyBytes
            superblockDigest index current.1 false) sealing)
          apply polled_after (Run.keeps_outcome
            (emitProgress_steady steady_logged hears_logged _ _ _ _) reported)
          exact ih next (index + 1) _ told more

theorem encryptProtectedStreamWithCancel_polled {chunkSize : Nat}
    (reader : PlaintextReader chunkSize) (stats : ChunkEncryptionStats) (before after : World)
    (success : encryptProtectedStreamWithCancel host writer keyBytes superblockDigest
      totalPlaintext onProgress (some isCancelled) reader before = (.ok stats, after)) :
    Polled isCancelled (Unheard (LastReport totalPlaintext stats.plaintextBytes)) before after := by
  unfold encryptProtectedStreamWithCancel at success
  obtain ⟨_, _, s₁⟩ := (Run.lift_bind_eq_ok _ _ _ _ _).mp success
  obtain ⟨_, alive, polled, s₂⟩ := (Run.bind_eq_ok _ _ _ _ _).mp s₁
  cases reader with
  | nil =>
      obtain ⟨_, sealed, sealing, s₃⟩ := (Run.bind_eq_ok _ _ _ _ _).mp s₂
      obtain ⟨_, _, reported, returned⟩ := (Run.bind_eq_ok _ _ _ _ _).mp s₃
      cases returned
      exact lastChunk_polled host writer keyBytes superblockDigest totalPlaintext onProgress
        isCancelled 0 [] 0 before alive after polled ((Run.bind_of_ok sealing _).trans reported)
  | cons read rest =>
      cases read with
      | error kind => cases s₂
      | ok current =>
          apply polled_after (Run.keeps_outcome (ensureNotCancelled_steady steady_logged _) polled)
          exact encryptLoop_polled host writer keyBytes superblockDigest totalPlaintext onProgress
            isCancelled rest current 0 0 stats alive after s₂

end Encrypt

/-- The lengths are compared, so the last callback reports the whole plaintext. -/
theorem writeTimelockedArtifact_polled (host : Host) (writer : Writer)
    (request : LockArtifactRequest)
    (plaintextReader : PlaintextReader request.aeadChunkSizeBytes.toNat) (onProgress : Bool)
    (isCancelled : CancellationToken) (before after : World)
    (success : writeTimelockedArtifact host writer request plaintextReader onProgress
      (some isCancelled) before = (.ok (), after)) :
    Polled isCancelled (Unheard (reportsWhole · = true)) before after := by
  unfold writeTimelockedArtifact at success
  obtain ⟨_, _, s₂⟩ := (Run.lift_bind_eq_ok _ _ _ _ _).mp success
  obtain ⟨_, _, s₃⟩ := (Run.lift_bind_eq_ok _ _ _ _ _).mp s₂
  obtain ⟨⟨stats, stream⟩, w₁, captured, s₄⟩ := (Run.bind_eq_ok _ _ _ _ _).mp s₃
  obtain ⟨_, sized, s₅⟩ := (Run.lift_bind_eq_ok _ _ _ _ _).mp s₄
  obtain ⟨_, _, s₆⟩ := (Run.lift_bind_eq_ok _ _ _ _ _).mp s₅
  obtain ⟨region, _, s₇⟩ := (Run.lift_bind_eq_ok _ _ _ _ _).mp s₆
  obtain ⟨_, _, s₈⟩ := (Run.lift_bind_eq_ok _ _ _ _ _).mp s₇
  obtain ⟨notice, _, s₉⟩ := (Run.lift_bind_eq_ok _ _ _ _ _).mp s₈
  obtain ⟨inner, sealing, _, rfl⟩ := (capture_eq_ok _ _ _ _ _).mp captured
  rw [rejectIf_eq_ok, not_not] at sized
  have sealed := encryptProtectedStreamWithCancel_polled _ _ _ _ _ _ _ _ _ _ _ sealing
  have whole : ∀ event, Unheard (LastReport request.payloadPlaintextBytes.toNat
      stats.plaintextBytes) event → Unheard (reportsWhole · = true) event := by
    intro event unheard called
    rw [unheard called, sized]
    simp [reportsWhole]
  have steady := steady_unheard (reportsWhole · = true)
  have written := writeAll_steady steady host writer
  -- Only the sink is put back after the capture.
  have polled : Polled isCancelled (Unheard (reportsWhole · = true)) before
      { inner with sink := before.sink } := polled_weaken whole sealed
  apply polled_before polled
  refine Run.keeps_outcome (steady.bind (written notice) fun _ => ?_) s₉
  apply steady.lift_bind
  intro startCopy
  apply steady.bind (written startCopy) fun _ => steady.bind (written region) fun _ => ?_
  exact steady.lift_bind fun endCopy => written endCopy

section Lock
variable (host : LockHost) (onProgress : Bool) (isCancelled : CancellationToken)

theorem writePayloadArtifacts_polled (staged : StagedLockInput) (request : LockRequest)
    (difficulty : LockDifficulty.ResolvedLockDifficulty) (before after : World)
    (success : writePayloadArtifacts host onProgress (some isCancelled) staged request difficulty
      before = (.ok (), after)) :
    Polled isCancelled (Unheard (reportsWhole · = true)) before after := by
  unfold writePayloadArtifacts writePayloadArtifactsWithKey at success
  obtain ⟨_, w₁, polled, s₁⟩ := (Run.bind_eq_ok _ _ _ _ _).mp success
  obtain ⟨fileKey, w₂, drawn, s₂⟩ := (Run.bind_eq_ok _ _ _ _ _).mp s₁
  obtain ⟨_, _, s₃⟩ := (Run.lift_bind_eq_ok _ _ _ _ _).mp s₂
  obtain ⟨_, w₃, told, s₄⟩ := (Run.bind_eq_ok _ _ _ _ _).mp s₃
  obtain ⟨puzzle, w₄, created, s₅⟩ := (Run.bind_eq_ok _ _ _ _ _).mp s₄
  obtain ⟨⟨wrappedKey, passwordProtection⟩, w₅, wrapped, s₆⟩ := (Run.bind_eq_ok _ _ _ _ _).mp s₅
  obtain ⟨_, w₆, told', s₇⟩ := (Run.bind_eq_ok _ _ _ _ _).mp s₆
  obtain ⟨streamLen, _, s₈⟩ := (Run.lift_bind_eq_ok _ _ _ _ _).mp s₇
  obtain ⟨_, w₇, opened, s₉⟩ := (Run.bind_eq_ok _ _ _ _ _).mp s₈
  obtain ⟨_, w₈, reopened, s₁₀⟩ := (Run.bind_eq_ok _ _ _ _ _).mp s₉
  obtain ⟨reader, _, readBack, s₁₁⟩ := (Run.bind_eq_ok _ _ _ _ _).mp s₁₀
  cases readBack
  obtain ⟨created', _, clock, s₁₂⟩ := (Run.bind_eq_ok _ _ _ _ _).mp s₁₁
  cases clock
  obtain ⟨_, w₉, written, flushed⟩ := (Run.bind_eq_ok _ _ _ _ _).mp s₁₂
  have steady := steady_logged
  have hears := hears_logged
  -- The artifact writer polls before its last chunk; flushing calls nobody back.
  apply polled_after (Run.keeps_outcome (ensureNotCancelled_steady steady _) polled)
  apply polled_after (Run.keeps_outcome (draw_steady steady _) drawn)
  apply polled_after (Run.keeps_outcome (emitProgress_steady steady hears _ _ _ _) told)
  apply polled_after (Run.keeps_outcome (createPuzzleAndDeriveMask_steady steady host _ _) created)
  apply polled_after (Run.keeps_outcome (keyProtectionMaterial_steady steady host _ _ _) wrapped)
  apply polled_after (Run.keeps_outcome (emitProgress_steady steady hears _ _ _ _) told')
  apply polled_after (Run.keeps_outcome (newTempIn_steady steady host.toHost _) opened)
  apply polled_after (Run.keeps_outcome (call_steady steady host.toHost) reopened)
  apply polled_before (writeTimelockedArtifact_polled _ _ _ _ _ _ _ _ written)
  exact Run.keeps_outcome (call_steady (steady_unheard _) host.toHost) flushed

theorem prepare_polled (request : LockRequest)
    (ready : StagedLockInput × LockDifficulty.ResolvedLockDifficulty) (before after : World)
    (success : prepare host onProgress (some isCancelled) request before = (.ok ready, after)) :
    Polled isCancelled (Unheard (reportsWhole · = true)) before after := by
  unfold prepare at success
  obtain ⟨_, w₁, polled, s₁⟩ := (Run.bind_eq_ok _ _ _ _ _).mp success
  obtain ⟨staged, w₂, staging, s₂⟩ := (Run.bind_eq_ok _ _ _ _ _).mp s₁
  obtain ⟨rate, w₃, measured, s₃⟩ := (Run.bind_eq_ok _ _ _ _ _).mp s₂
  obtain ⟨difficulty, _, s₄⟩ := (Run.lift_bind_eq_ok _ _ _ _ _).mp s₃
  obtain ⟨_, _, written, returned⟩ := (Run.bind_eq_ok _ _ _ _ _).mp s₄
  cases returned
  have steady := steady_logged
  apply polled_after (Run.keeps_outcome (ensureNotCancelled_steady steady _) polled)
  apply polled_after (Run.keeps_outcome
    (resolveAndStageInput_steady steady makes_logged host _ _ _) staging)
  apply polled_after (Run.keeps_outcome
    (resolveCurrentMachineIterationsPerSecond_steady steady host request) measured)
  exact writePayloadArtifacts_polled host onProgress isCancelled staged request difficulty _ _
    written

end Lock

def Honoured {α : Type} (outcome : Except Error α) (before after : World) : Prop :=
  (∃ reason, outcome = .error reason) ∧ after.tree.files = before.tree.files

/-- A token set from inside a callback is honoured by every unlock run of a file,
and by every lock run unless the callback is the one after the last chunk. -/
theorem cancelled_callback_honoured (onProgress : Bool) (isCancelled : CancellationToken)
    (before after : World) (event : Event) (set_ : SetInCallback isCancelled event before after) :
    (∀ host request outcome,
      executeWithCancel host onProgress (some isCancelled) request before = (outcome, after) →
      reportsWhole event = false → Honoured outcome before after) ∧
    ∀ host provider request outcome,
      executeWithCancelAndPasswordProvider host onProgress (some isCancelled) provider request
        before = (outcome, after) →
      HoldsFile host request before → Honoured outcome before after := by
  constructor
  · intro host request outcome ran early
    unfold executeWithCancel at ran
    rcases prepared : prepare host onProgress (some isCancelled) request before with
      ⟨reason | ready, placed⟩
    · rw [Run.bind_of_error prepared] at ran
      cases ran
      exact ⟨⟨reason, rfl⟩,
        (Run.keeps_outcome (prepare_grown host onProgress _ request) prepared).1⟩
    · -- What follows a finished artifact calls nobody back, so it was polled for.
      rw [Run.bind_of_ok prepared] at ran
      have polled := prepare_polled host onProgress isCancelled request ready before placed prepared
      have steady := steady_unheard (reportsWhole · = true)
      have rest := Run.keeps_outcome (steady.bind
        (persistTimelockedContainer_steady steady host (moves_logged _) _)
        fun _ => steady.bind (verifyOutputIfRequested_steady steady host (some isCancelled) _ _)
          fun _ => steady.pure _) ran
      have whole := polled_allows isCancelled _ event before after (polled_before polled rest) set_
        set_.callback
      rw [whole] at early
      cases early
  · intro host provider request outcome ran file
    cases outcome with
    -- A finished unlock polled after every callback, which a set token does not survive.
    | ok response =>
        have polled := unlock_polled host onProgress isCancelled provider request response before
          after file ran
        exact (polled_allows isCancelled _ event before after polled set_ set_.callback).elim
    | error reason =>
        refine ⟨⟨reason, rfl⟩, ?_⟩
        -- An unlock that fails leaves the files, whether or not it got past the parse.
        rcases execute_effect _ _ _ _ _ _ _ _ ran with ⟨_, _, grown⟩ | ⟨_, _, _, _, _, _, effect⟩
        · exact grown.1
        · exact effect.1

def setBy (event : Event) : CancellationToken := fun history => decide (event ∈ history)

theorem setBy_inCallback (event : Event) (callback : isCallback event = true) (tree : Tree)
    (after : World) (emitted : event ∈ after.history) :
    SetInCallback (setBy event) event (freshWorld tree) after := by
  obtain ⟨later, earlier, history⟩ := List.append_of_mem emitted
  refine ⟨callback, later, earlier, history, List.nil_suffix, fun since => ?_⟩
  simp [setBy]

def lockSet (event : Event) : Except Error LockResponse × World :=
  executeWithCancel (calmLockHost []) true (some (setBy event)) (textRequest false)
    (freshWorld .bare)

def besideArtifact : UnlockRequest := ⟨[['a']], none, some [['w']]⟩

def unlockSet (event : Event) : Except Error UnlockResponse × World :=
  executeWithCancelAndPasswordProvider (calmHost plainCrates) true (some (setBy event)) none
    besideArtifact (freshWorld victimTree)

theorem lockSet_ran (event : Event) :
    executeWithCancel (calmLockHost []) true (some (setBy event)) (textRequest false)
      (freshWorld .bare) = ((lockSet event).1, (lockSet event).2) :=
  Prod.mk.eta.symm

theorem unlockSet_ran (event : Event) :
    executeWithCancelAndPasswordProvider (calmHost plainCrates) true (some (setBy event)) none
      besideArtifact (freshWorld victimTree) = ((unlockSet event).1, (unlockSet event).2) :=
  Prod.mk.eta.symm

def firstChunk : Event := .progress "lock-encrypt" 1 1
def primesDrawn : Event := .progress "lock-primes" 0 1
def lastDecrypted : Event := .progress "unlock-decrypt" 1 1

theorem victim_holdsFile :
    HoldsFile (calmHost plainCrates) besideArtifact (freshWorld victimTree) := by
  intro bytes parsed there read
  have kind : ((victimTree.readFile [] [['a']]).toOption.bind fun bytes =>
      (readTimelockedArtifactBytes plainCrates bytes).toOption.map fun parsed =>
        decide (parsed.payloadKind = .text)) = some false := by
    decide +kernel
  have there : victimTree.readFile [] [['a']] = .ok bytes := there
  have read : readTimelockedArtifactBytes plainCrates bytes = .ok parsed := read
  rw [there] at kind
  simp only [Except.toOption, Option.bind_some, read, Option.map_some, Option.some.injEq,
    decide_eq_false_iff_not] at kind
  exact kind

theorem cancelled_callback_honoured_early :
    Honoured (lockSet primesDrawn).1 (freshWorld .bare) (lockSet primesDrawn).2 ∧
      Honoured (unlockSet lastDecrypted).1 (freshWorld victimTree)
        (unlockSet lastDecrypted).2 := by
  have primes : primesDrawn ∈ (lockSet primesDrawn).2.history := by decide +kernel
  have decrypted : lastDecrypted ∈ (unlockSet lastDecrypted).2.history := by decide +kernel
  constructor
  · exact (cancelled_callback_honoured true (setBy primesDrawn) (freshWorld .bare) _ primesDrawn
      (setBy_inCallback primesDrawn rfl .bare _ primes)).1 _ _ _ (lockSet_ran primesDrawn) rfl
  · exact (cancelled_callback_honoured true (setBy lastDecrypted) (freshWorld victimTree) _
      lastDecrypted (setBy_inCallback lastDecrypted rfl victimTree _ decrypted)).2 _ _ _ _
      (unlockSet_ran lastDecrypted) victim_holdsFile

/-- The only chunk is sealed, its callback sets the token, and the lock succeeds. -/
theorem lastChunk_ignored :
    (∃ response, (lockSet firstChunk).1 = .ok response) ∧
      SetInCallback (setBy firstChunk) firstChunk (freshWorld .bare) (lockSet firstChunk).2 ∧
      (freshWorld .bare).tree.files ["o.timelocked".toList] = none ∧
      (lockSet firstChunk).2.tree.files ["o.timelocked".toList] ≠ none ∧
      ¬ Honoured (lockSet firstChunk).1 (freshWorld .bare) (lockSet firstChunk).2 := by
  have returned : (lockSet firstChunk).1 =
      .ok ⟨["o.timelocked".toList], 3, "high-end-2026", 1⟩ := by decide +kernel
  have emitted : firstChunk ∈ (lockSet firstChunk).2.history := by decide +kernel
  refine ⟨⟨_, returned⟩, setBy_inCallback firstChunk rfl .bare _ emitted, rfl, by decide +kernel,
    ?_⟩
  rintro ⟨⟨reason, failed⟩, _⟩
  rw [returned] at failed
  cases failed

end CancelledCallback
