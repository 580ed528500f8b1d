import Timelocked.RecoveredPath

/-!
What an unlock run does to the disk. Until the rename at the very end a run only
makes directories, so every failure, between two attempts or inside a stream,
leaves the files as they were. A success adds the recovered file; it replaces
another one exactly when the wanted path hides it behind a missing directory.
-/
namespace UnlockEffects
open ByteCodec RunRules Base PathText FileTree Superblock ArtifactReader Recovery OutputPath
  Unlock RecoveredPath

structure Attends (related : World → World → Prop) : Prop extends Watches related where
  solved : Passes related .solved
  prompted : ∀ attempt previousAttemptFailed,
    Passes related (.prompt attempt previousAttemptFailed)
  cached : ∀ (world : World) (mask : Option (Block 32)),
    related world { world with cachedTimelockMask := mask }

theorem quiet_attends : Attends Quiet where
  toWatches := quiet_watches
  solved _ := ⟨rfl, rfl, rfl⟩
  prompted _ _ _ := ⟨rfl, rfl, rfl⟩
  cached _ _ := ⟨rfl, rfl, rfl⟩

section Keys
variable {related : World → World → Prop} (attends : Attends related) (host : Host)
  (onProgress : Bool) (cancellation : Option CancellationToken)
  (provider : Option PasswordProvider)
include attends

theorem recoverFileKeyFromTimelock_keeps (request : RecoverFileKeyRequest) :
    Run.Keeps related (recoverFileKeyFromTimelock host onProgress cancellation request) :=
  Run.keeps_bind attends.trans
    (PuzzleService.solvePuzzleMaskWithCancel_keeps attends.toWatches onProgress cancellation _
      attends.solved host.crates)
    fun _ => Run.keeps_pure attends.refl _

theorem cachedTimelockMask_keeps (request : RecoverFileKeyRequest) :
    Run.Keeps related (cachedTimelockMask host onProgress cancellation request) := by
  refine Run.keeps_bind attends.trans (Run.keeps_read attends.refl _) fun cached => ?_
  split
  · exact Run.keeps_pure attends.refl _
  · refine Run.keeps_bind attends.trans
      (PuzzleService.solvePuzzleMaskWithCancel_keeps attends.toWatches onProgress cancellation _
        attends.solved host.crates) fun mask => ?_
    exact Run.keeps_bind attends.trans (fun world => attends.cached world (some mask))
      fun _ => Run.keeps_pure attends.refl _

theorem promptPassphrase_keeps (context : PasswordPromptContext) :
    Run.Keeps related (promptPassphrase provider context) := by
  unfold promptPassphrase
  split
  · exact Run.keeps_fail attends.refl _
  · refine Run.keeps_bind attends.trans (Run.keeps_read attends.refl _) fun reply => ?_
    exact Run.keeps_bind attends.trans (attends.prompted _ _)
      fun _ => Run.keeps_lift attends.refl _

theorem recoverPasswordProtectedFileKey_keeps (metadata : PasswordProtectionMetadata)
    (context : PasswordPromptContext) (request : RecoverFileKeyRequest) :
    Run.Keeps related (recoverPasswordProtectedFileKey host onProgress cancellation provider metadata
      context request) := by
  refine Run.keeps_bind attends.trans
    (cachedTimelockMask_keeps attends host onProgress cancellation request) fun mask => ?_
  exact Run.keeps_bind attends.trans (promptPassphrase_keeps attends provider context)
    fun _ => Run.keeps_lift attends.refl _

end Keys

section Unlock
variable (host : Host) (onProgress : Bool) (cancellation : Option CancellationToken)
  (provider : Option PasswordProvider) (request : UnlockRequest)
  (parsed : StoredTimelockedArtifact) (recoveredFilePath : Option Path)

/-- What a successful unlock did: a text changes nothing, a file is put at the
chosen path. -/
def Delivered (payloadKind : PayloadKind) (bytes : Bytes) (response : UnlockResponse)
    (before after : World) : Prop :=
  match response.recoveredPayload with
  | .text _ => payloadKind = .text ∧ after.tree.files = before.tree.files
  | .file path => recoveredFilePath = some path ∧ ∃ contents,
      Recovered host bytes parsed contents response.recoveredBytes ∧
        after.tree.files =
          Function.update before.tree.files (Tree.lexical host.cwd path) (some contents)

theorem delivered_grown (payloadKind : PayloadKind) (bytes : Bytes) (response : UnlockResponse)
    (before between after : World) (grown : Grown before between)
    (delivered : Delivered host parsed recoveredFilePath payloadKind bytes response between after) :
    Delivered host parsed recoveredFilePath payloadKind bytes response before after := by
  unfold Delivered at delivered ⊢
  rw [← grown.1]
  exact delivered

section Once
variable (recoverFileKey : RecoverFileKeyFn)

theorem recoverPayloadOnce_fails {related : World → World → Prop} (steady : Steady related)
    (makes : Makes related) (hears : Hears related)
    (keyKeeps : Run.Keeps related (recoverFileKey (keyRequest parsed)))
    (payloadKind : PayloadKind) :
    Run.FailsKeeping related (recoverPayloadOnce host onProgress cancellation request parsed
      payloadKind recoveredFilePath recoverFileKey) := by
  have recovering := fun writer => recoverPayloadToWriterWithCancel_steady steady hears host
    request.input parsed cancellation writer recoverFileKey keyKeeps onProgress
  unfold recoverPayloadOnce
  cases payloadKind with
  | text =>
      refine Run.fails_bind steady.trans (capture_steady steady (recovering .memory))
        fun ⟨stats, textBytes⟩ => ?_
      dsimp only
      split
      · exact Run.fails_of_keeps (steady.fail _)
      · exact Run.fails_pure _
  | file originalFilename =>
      cases recoveredFilePath with
      | none => exact Run.fails_of_keeps (steady.fail _)
      | some outputPath =>
          refine Run.fails_bind steady.trans (createDirAll_steady steady makes host _) fun _ => ?_
          refine Run.fails_bind steady.trans (newTempIn_steady steady host _) fun _ => ?_
          refine Run.fails_bind steady.trans (recovering .tempFile) fun _ => ?_
          refine Run.fails_bind steady.trans (call_steady steady host) fun _ => ?_
          refine Run.fails_bind steady.trans (ensureNotCancelled_steady steady cancellation)
            fun _ => ?_
          refine Run.fails_bind steady.trans (steady.read _) fun contents => ?_
          exact Run.fails_bind_pure _ (persist_fails steady host outputPath contents)

variable (keyQuiet : ∀ request, Run.Keeps Quiet (recoverFileKey request))
include keyQuiet

theorem recoverPayloadOnce_ok (payloadKind : PayloadKind) (bytes : Bytes)
    (response : UnlockResponse) (before after : World)
    (there : before.tree.readFile host.cwd request.input = .ok bytes)
    (read : readTimelockedArtifactBytes host.crates bytes = .ok parsed)
    (success : recoverPayloadOnce host onProgress cancellation request parsed payloadKind
      recoveredFilePath recoverFileKey before = (.ok response, after)) :
    Delivered host parsed recoveredFilePath payloadKind bytes response before after := by
  unfold recoverPayloadOnce at success
  cases payloadKind with
  | text =>
      have recovering := recoverPayloadToWriterWithCancel_steady steady_grown hears_grown host
        request.input parsed cancellation .memory recoverFileKey
        (Run.keeps_weaken (keyQuiet _) quiet_grown) onProgress
      obtain ⟨⟨stats, textBytes⟩, captured, recovered, shown⟩ := (Run.bind_eq_ok _ _ _ _ _).mp success
      have grown := Run.keeps_outcome (capture_steady steady_grown recovering) recovered
      dsimp only at shown
      cases valid : fromUtf8 textBytes with
      | none =>
          rw [valid] at shown
          cases shown
      | some text =>
          rw [valid] at shown
          cases shown
          exact ⟨rfl, grown.1⟩
  | file originalFilename =>
      cases recoveredFilePath with
      | none => cases success
      | some outputPath =>
          obtain ⟨_, w₁, made, s₁⟩ := (Run.bind_eq_ok _ _ _ _ _).mp success
          have grown₁ := Run.keeps_outcome (createDirAll_steady steady_grown makes_grown host _) made
          obtain ⟨_, w₂, opened, s₂⟩ := (Run.bind_eq_ok _ _ _ _ _).mp s₁
          have grown₂ := steady_grown.trans _ _ _ grown₁
            (Run.keeps_outcome (newTempIn_steady steady_grown host _) opened)
          -- The file put is the temporary one, which the recovery alone wrote to.
          have empty : w₂.sink = [] := newTempIn_empty host _ w₁ w₂ opened
          obtain ⟨stats, w₃, recovered, s₃⟩ := (Run.bind_eq_ok _ _ _ _ _).mp s₂
          obtain ⟨plaintext, whole, wrote⟩ := recoverPayloadToWriterWithCancel_ok host request.input
            parsed .tempFile recoverFileKey keyQuiet onProgress cancellation bytes stats w₂ w₃
            (Tree.readFile_grown _ _ grown₂ _ _ _ there) read recovered
          obtain ⟨_, w₄, flushed, s₄⟩ := (Run.bind_eq_ok _ _ _ _ _).mp s₃
          have wrote₄ := wrote_quiet wrote (Run.keeps_outcome (call_quiet host) flushed)
          obtain ⟨_, w₅, polled, s₅⟩ := (Run.bind_eq_ok _ _ _ _ _).mp s₄
          have wrote₅ := wrote_quiet wrote₄
            (Run.keeps_outcome (ensureNotCancelled_quiet cancellation) polled)
          obtain ⟨contents, _, held, s₆⟩ := (Run.bind_eq_ok _ _ _ _ _).mp s₅
          cases held
          obtain ⟨_, _, renamed, returned⟩ := (Run.bind_eq_ok _ _ _ _ _).mp s₆
          cases returned
          obtain ⟨files, _⟩ := persist_eq_ok host outputPath _ _ _ renamed
          refine ⟨rfl, plaintext, whole, ?_⟩
          rw [files, wrote₅.sink, empty, List.nil_append, wrote₅.tree, grown₂.1]

end Once

def Effect (payloadKind : PayloadKind) (bytes : Bytes) (outcome : Except Error UnlockResponse)
    (before after : World) : Prop :=
  match outcome with
  | .error _ => Grown before after
  | .ok response => Delivered host parsed recoveredFilePath payloadKind bytes response before after

theorem recoverPayloadOnce_effect (recoverFileKey : RecoverFileKeyFn)
    (keyQuiet : ∀ request, Run.Keeps Quiet (recoverFileKey request)) (payloadKind : PayloadKind)
    (bytes : Bytes) (before : World)
    (there : before.tree.readFile host.cwd request.input = .ok bytes)
    (read : readTimelockedArtifactBytes host.crates bytes = .ok parsed)
    (outcome : Except Error UnlockResponse) (after : World)
    (ran : recoverPayloadOnce host onProgress cancellation request parsed payloadKind
      recoveredFilePath recoverFileKey before = (outcome, after)) :
    Effect host parsed recoveredFilePath payloadKind bytes outcome before after := by
  cases outcome with
  | error reason =>
      exact recoverPayloadOnce_fails host onProgress cancellation request parsed recoveredFilePath
        recoverFileKey steady_grown makes_grown hears_grown
        (Run.keeps_weaken (keyQuiet _) quiet_grown) payloadKind before reason
        after ran
  | ok response =>
      exact recoverPayloadOnce_ok host onProgress cancellation request parsed recoveredFilePath
        recoverFileKey keyQuiet payloadKind bytes response before after there read ran

theorem effect_grown (payloadKind : PayloadKind) (bytes : Bytes)
    (outcome : Except Error UnlockResponse) (before between after : World)
    (grown : Grown before between)
    (effect : Effect host parsed recoveredFilePath payloadKind bytes outcome between after) :
    Effect host parsed recoveredFilePath payloadKind bytes outcome before after := by
  cases outcome with
  | error reason => exact steady_grown.trans _ _ _ grown effect
  | ok response =>
      exact delivered_grown host parsed recoveredFilePath payloadKind bytes response before
        between after grown effect

/-- A failed attempt leaves the files for the next one as they were. -/
theorem attempts_effect (payloadKind : PayloadKind) (metadata : PasswordProtectionMetadata)
    (left attempt : Nat) (previousAttemptFailed : Bool) (bytes : Bytes) (before : World)
    (there : before.tree.readFile host.cwd request.input = .ok bytes)
    (read : readTimelockedArtifactBytes host.crates bytes = .ok parsed)
    (outcome : Except Error UnlockResponse) (after : World)
    (ran : attempts host onProgress cancellation provider request parsed payloadKind
      recoveredFilePath metadata left attempt previousAttemptFailed before = (outcome, after)) :
    Effect host parsed recoveredFilePath payloadKind bytes outcome before after := by
  induction left generalizing attempt previousAttemptFailed before with
  | zero =>
      cases ran
      exact steady_grown.refl before
  | succ left ih =>
      rw [attempts] at ran
      have once := recoverPayloadOnce_effect host onProgress cancellation request parsed
        recoveredFilePath _ (recoverPasswordProtectedFileKey_keeps quiet_attends host onProgress
          cancellation provider metadata
          ⟨request.input, attempt, maxPasswordAttempts, previousAttemptFailed⟩)
        payloadKind bytes before there read
      dsimp only at ran
      rcases attempted : attemptOnce host onProgress cancellation provider request parsed
        payloadKind recoveredFilePath metadata attempt previousAttemptFailed before
        with ⟨reason | response, stop⟩
      · rw [attempted] at ran
        dsimp only at ran
        -- The attempt failed, so the next one finds the artifact where it was.
        have grown : Grown before stop := once (.error reason) stop attempted
        split at ran
        · split at ran
          · exact effect_grown host parsed recoveredFilePath payloadKind bytes outcome before stop
              after grown (ih _ _ stop (Tree.readFile_grown _ _ grown _ _ _ there) ran)
          · cases ran
            exact grown
        · cases ran
          exact grown
      · rw [attempted] at ran
        cases ran
        exact once (.ok response) stop attempted

/-- The parse and the choice of a path come first and change nothing. -/
theorem execute_effect (before after : World) (outcome : Except Error UnlockResponse)
    (ran : executeWithCancelAndPasswordProvider host onProgress cancellation provider request
      before = (outcome, after)) :
    (∃ reason, outcome = .error reason ∧ Grown before after) ∨
      ∃ bytes parsed recoveredFilePath,
        before.tree.readFile host.cwd request.input = .ok bytes ∧
        readTimelockedArtifactBytes host.crates bytes = .ok parsed ∧
        chooseRecoveredFilePath (before.tree.pathExists host.cwd) request parsed.payloadKind =
          .ok recoveredFilePath ∧
        Effect host parsed recoveredFilePath parsed.payloadKind bytes outcome before after := by
  unfold executeWithCancelAndPasswordProvider at ran
  -- The steps before any attempt, each of which can end the run.
  rcases polled : ensureNotCancelled cancellation before with ⟨reason | _, w₁⟩
  · have quiet := Run.keeps_outcome (ensureNotCancelled_quiet cancellation) polled
    rw [Run.bind_of_error polled] at ran
    cases ran
    exact .inl ⟨reason, rfl, quiet_grown _ _ quiet⟩
  · have quiet₁ := Run.keeps_outcome (ensureNotCancelled_quiet cancellation) polled
    rw [Run.bind_of_ok polled] at ran
    rcases parsing : parseContainer host request.input w₁ with ⟨reason | parsed, w₂⟩
    · have grown := Run.keeps_outcome
        (steady_grown.bind (readFile_steady steady_grown host request.input)
          fun _ => steady_grown.lift _) parsing
      rw [Run.bind_of_error parsing] at ran
      cases ran
      exact .inl ⟨reason, rfl, steady_grown.trans _ _ _ (quiet_grown _ _ quiet₁) grown⟩
    · rw [Run.bind_of_ok parsing] at ran
      obtain ⟨bytes, opened, reading, decoded⟩ := (Run.bind_eq_ok _ _ _ _ _).mp parsing
      obtain ⟨there, quiet₂⟩ := readFile_eq_ok host request.input bytes w₁ opened reading
      obtain ⟨read, rfl⟩ := Prod.mk.inj decoded
      have quiet := quiet_trans _ _ _ quiet₁ quiet₂
      rw [Run.bind_of_ok (Run.read_apply World.tree opened), quiet.tree] at ran
      rw [quiet₁.tree] at there
      cases chosen : chooseRecoveredFilePath (before.tree.pathExists host.cwd) request
          parsed.payloadKind with
      | error reason =>
          rw [chosen] at ran
          cases ran
          exact .inl ⟨reason, rfl, quiet_grown _ _ quiet⟩
      | ok recoveredFilePath =>
          rw [Run.lift_bind_of_ok chosen] at ran
          refine .inr ⟨bytes, parsed, recoveredFilePath, there, read, chosen, ?_⟩
          have present := Tree.readFile_grown _ _ (quiet_grown _ _ quiet) _ _ _ there
          apply effect_grown host parsed recoveredFilePath _ bytes outcome before opened after
            (quiet_grown _ _ quiet)
          cases protection : parsed.superblock.passwordProtection with
          | none =>
              rw [protection] at ran
              exact recoverPayloadOnce_effect host onProgress cancellation request parsed
                recoveredFilePath _
                (recoverFileKeyFromTimelock_keeps quiet_attends host onProgress cancellation)
                _ bytes opened present read outcome after ran
          | some metadata =>
              rw [protection] at ran
              dsimp only at ran
              rw [Run.bind_of_ok (Run.modify_apply zeroizeMask opened)] at ran
              exact attempts_effect host onProgress cancellation provider request parsed
                recoveredFilePath _ metadata _ _ _ bytes (zeroizeMask opened) present read outcome
                after ran

/-- A failure and a text leave the files alone; a recovered file is one new file
with the whole payload in it. -/
def AllOrNothing (outcome : Except Error UnlockResponse) (before after : World) : Prop :=
  match outcome with
  | .error _ => after.tree.files = before.tree.files
  | .ok ⟨.text _, _⟩ => after.tree.files = before.tree.files
  | .ok ⟨.file _, recoveredBytes⟩ => ∃ bytes parsed contents location,
      before.tree.readFile host.cwd request.input = .ok bytes ∧
        Recovered host bytes parsed contents recoveredBytes ∧
        before.tree.files location = none ∧
        after.tree.files = Function.update before.tree.files location (some contents)

def recoversFile (outcome : Except Error UnlockResponse) : Bool :=
  match outcome with
  | .ok ⟨.file _, _⟩ => true
  | _ => false

/-- A path whose walk fails but which names a file once its directories are made. -/
def Hides (tree : Tree) (cwd : FileTree.Location) (path : Path) : Prop :=
  tree.pathExists cwd path = false ∧ tree.files (Tree.lexical cwd path) ≠ none

/-- The path the request asks for, or the file's own name in the directory, hides nothing. -/
def NothingHidden (before : World) : Prop :=
  ∀ bytes parsed wanted, before.tree.readFile host.cwd request.input = .ok bytes →
    readTimelockedArtifactBytes host.crates bytes = .ok parsed →
    resolveRecoveredFilePath request parsed.payloadKind = .ok (some wanted) →
    ¬ Hides before.tree host.cwd wanted

/-- The chosen path is free unless the wanted one hides a file. -/
theorem chosen_free (tree : Tree) (cwd : FileTree.Location) (payloadKind : PayloadKind) (path : Path)
    (chosen : chooseRecoveredFilePath (tree.pathExists cwd) request payloadKind =
      .ok (some path)) :
    ∃ wanted, resolveRecoveredFilePath request payloadKind = .ok (some wanted) ∧
      (tree.files (Tree.lexical cwd path) = none ↔ ¬ Hides tree cwd wanted) := by
  obtain ⟨wanted, resolved, picked⟩ := (bind_eq_ok _ _ _).mp chosen
  cases wanted with
  | none => cases picked
  | some wanted =>
      obtain ⟨found, available, returned⟩ := (bind_eq_ok _ _ _).mp picked
      cases returned
      refine ⟨wanted, resolved, ?_⟩
      have free := resolveAvailableOutputPath_free _ _ _ available
      by_cases missing : tree.pathExists cwd wanted = false
      · have same : path = wanted := by
          unfold resolveAvailableOutputPath at available
          rw [if_pos missing] at available
          exact (Except.ok.inj available).symm
        rw [same, Hides, not_and, not_not]
        exact ⟨fun empty _ => empty, fun empty => empty missing⟩
      · have there : tree.pathExists cwd wanted = true := by simpa using missing
        refine ⟨fun _ hidden => missing hidden.1, fun _ => ?_⟩
        obtain ⟨last, name, named, long, rfl⟩ :=
          resolveAvailableOutputPath_sibling _ _ _ available there
        exact Tree.sibling_free tree cwd wanted last name named long there free

/-- What was put where a file was is no new file. -/
theorem replaced_not_new (before after : World) (location : FileTree.Location) (contents : Bytes)
    (occupied : before.tree.files location ≠ none)
    (replaced : after.tree.files = Function.update before.tree.files location (some contents))
    (other : FileTree.Location) (contents' : Bytes) (free : before.tree.files other = none) :
    after.tree.files ≠ Function.update before.tree.files other (some contents') := by
  intro added
  have present := congrFun added other
  rw [Function.update_self, replaced] at present
  by_cases same : other = location
  · exact occupied (same ▸ free)
  · rw [Function.update_of_ne same, free] at present
    cases present

/-- Unlocking is all or nothing whenever it recovers no file, and when it
recovers one exactly if the wanted path hides nothing. -/
theorem unlock_all_or_nothing (before after : World) (outcome : Except Error UnlockResponse)
    (ran : executeWithCancelAndPasswordProvider host onProgress cancellation provider request
      before = (outcome, after)) :
    (recoversFile outcome = false → AllOrNothing host request outcome before after) ∧
      (recoversFile outcome = true →
        (AllOrNothing host request outcome before after ↔ NothingHidden host request before)) := by
  rcases execute_effect host onProgress cancellation provider request before after outcome ran with
    ⟨reason, rfl, grown⟩ | ⟨bytes, parsed, recoveredFilePath, there, read, chosen, effect⟩
  · exact ⟨fun _ => grown.1, fun file => by cases file⟩
  · -- Only a recovered file changes the disk, so only it can replace one.
    match outcome, effect with
    | .error reason, grown => exact ⟨fun _ => grown.1, fun file => by cases file⟩
    | .ok ⟨.text text, recoveredBytes⟩, ⟨_, same⟩ => exact ⟨fun _ => same, fun file => by cases file⟩
    | .ok ⟨.file path, recoveredBytes⟩, ⟨given, contents, whole, files⟩ =>
        obtain ⟨wanted, resolved, free⟩ := chosen_free request before.tree host.cwd
          parsed.payloadKind path (given ▸ chosen)
        refine ⟨fun file => (by cases file), fun _ => ?_⟩
        constructor
        · intro kept bytes' parsed' wanted' there' read' resolved'
          obtain ⟨_, _, contents', location, _, _, empty, added⟩ := kept
          rw [there] at there'
          obtain rfl := Except.ok.inj there'
          rw [read] at read'
          obtain rfl := Except.ok.inj read'
          rw [resolved] at resolved'
          obtain rfl := Option.some.inj (Except.ok.inj resolved')
          apply free.mp
          by_contra occupied
          exact replaced_not_new before after _ contents occupied files location contents' empty
            added
        · intro nothing
          exact ⟨bytes, parsed, contents, _, there, whole,
            free.mpr (nothing bytes parsed wanted there read resolved), files⟩

end Unlock

/-! A run that replaces a file. The directory on the way to it does not exist
yet, so the path looks free. -/

def victimTree : Tree := (loneFile climbingArtifact).insert ['v'] [] [1] rfl rfl rfl

def throughMissing : UnlockRequest := ⟨[['a']], none, some [['n'], ['.', '.'], ['v']]⟩

def replacing : Except Error UnlockResponse × World :=
  executeWithCancelAndPasswordProvider (calmHost plainCrates) false none none throughMissing
    (freshWorld victimTree)

theorem replacing_ok :
    replacing = (.ok ⟨.file [['n'], ['.', '.'], ['v']], 1⟩, replacing.2) := by
  have returned : replacing.1 = .ok ⟨.file [['n'], ['.', '.'], ['v']], 1⟩ := by decide +kernel
  rw [← returned]

theorem unlock_all_or_nothing_replacing :
    AllOrNothing (calmHost plainCrates) throughMissing
        (.ok ⟨.file [['n'], ['.', '.'], ['v']], 1⟩) (freshWorld victimTree) replacing.2 ↔
      NothingHidden (calmHost plainCrates) throughMissing (freshWorld victimTree) := by
  obtain ⟨_, file⟩ := unlock_all_or_nothing _ _ _ _ _ _ _ _ replacing_ok
  exact file rfl

/-- The unlock succeeds and the file that was there is gone. -/
theorem unlock_replaces :
    ∃ after, executeWithCancelAndPasswordProvider (calmHost plainCrates) false none none
        throughMissing (freshWorld victimTree) =
          (.ok ⟨.file [['n'], ['.', '.'], ['v']], 1⟩, after) ∧
      (freshWorld victimTree).tree.files [['v']] = some [1] ∧
      after.tree.files [['v']] = some [7] ∧
      ¬ AllOrNothing (calmHost plainCrates) throughMissing
        (.ok ⟨.file [['n'], ['.', '.'], ['v']], 1⟩) (freshWorld victimTree) after := by
  refine ⟨replacing.2, replacing_ok, by decide +kernel, by decide +kernel, ?_⟩
  rintro ⟨_, _, contents, location, _, _, empty, added⟩
  rcases execute_effect _ _ _ _ _ _ _ _ replacing_ok with
    ⟨_, failed, _⟩ | ⟨_, _, _, _, _, _, _, _, _, files⟩
  · cases failed
  · exact replaced_not_new _ _ _ _ (by decide +kernel) files location contents empty added

end UnlockEffects
