import Timelocked.LockEffects
import Timelocked.Reservations
import Timelocked.UnlockEffects

/-!
Any number of lock and unlock runs beside other processes on one disk. A run
chooses its output path, computes, and renames its temporary file onto that path.
The rename replaces what is there by then, so a run is kept from overwriting only
by what the others do not do in the meantime.
-/
namespace SilentOverwrite
open ByteCodec RunRules Base PathText FileTree LockDifficulty Lock LockEffects Superblock
  ArtifactReader Recovery Unlock UnlockEffects

inductive Job where
  | lock (host : LockHost) (request : LockRequest)
  | unlock (host : Host) (request : UnlockRequest)

def Job.cwd : Job → Location
  | .lock host _ => host.cwd
  | .unlock host _ => host.cwd

def Job.chosenPath (tree : Tree) : Job → Option Path
  | .lock host request =>
      let inputSource := resolveInputSource (tree.pathExists host.cwd) request.input
      match resolveLockOutputPath inputSource request.output with
      | .error _ => none
      | .ok outputPath =>
          if tree.pathExists host.cwd outputPath = true then none else some outputPath
  | .unlock host request =>
      match tree.readFile host.cwd request.input with
      | .error _ => none
      | .ok bytes =>
          match readTimelockedArtifactBytes host.crates bytes with
          | .error _ => none
          | .ok parsed =>
              match chooseRecoveredFilePath (tree.pathExists host.cwd) request
                parsed.payloadKind with
              | .error _ => none
              | .ok recoveredFilePath => recoveredFilePath

inductive Phase where
  | idle
  | working (path : Path)
  | done

structure Scene (ι : Type) where
  tree : Tree
  phase : ι → Phase

inductive Act (ι : Type) where
  | choose (agent : ι)
  | grow
  | persist (agent : ι) (contents : Bytes)
  | stop (agent : ι)
  | create (location : Location) (contents : Bytes)

section Steps
variable {ι : Type} [DecidableEq ι] (jobs : ι → Job)

/-- Where the target of a run is once the directories on the way are there. -/
def target (scene : Scene ι) (agent : ι) : Option Location :=
  match scene.phase agent with
  | .working path => some (Tree.lexical (jobs agent).cwd path)
  | _ => none

/-- One step of a run, or of another process. Directories may be made at any time. -/
inductive Step : Scene ι → Act ι → Scene ι → Prop
  | choose (scene : Scene ι) (agent : ι) (path : Path) (idle : scene.phase agent = .idle)
      (chosen : (jobs agent).chosenPath scene.tree = some path) :
      Step scene (.choose agent)
        { scene with phase := Function.update scene.phase agent (.working path) }
  | grow (scene : Scene ι) (tree : Tree) (grown : Tree.Grown scene.tree tree) :
      Step scene .grow { scene with tree := tree }
  | persist (scene : Scene ι) (agent : ι) (path : Path) (contents : Bytes) (tree : Tree)
      (working : scene.phase agent = .working path)
      (renamed : scene.tree.persist (jobs agent).cwd path contents = .ok tree) :
      Step scene (.persist agent contents) ⟨tree, Function.update scene.phase agent .done⟩
  | stop (scene : Scene ι) (agent : ι) :
      Step scene (.stop agent) { scene with phase := Function.update scene.phase agent .done }
  | create (scene : Scene ι) (location : Location) (contents : Bytes) (tree : Tree)
      (absent : scene.tree.files location = none)
      (files : tree.files = Function.update scene.tree.files location (some contents))
      (dirs : ∀ other, scene.tree.dirs other = true → tree.dirs other = true) :
      Step scene (.create location contents) { scene with tree := tree }

inductive Steps (allowed : Scene ι → Act ι → Prop) : Scene ι → List (Act ι) → Scene ι → Prop
  | nil (scene : Scene ι) : Steps allowed scene [] scene
  | cons {scene between last : Scene ι} {act : Act ι} {later : List (Act ι)}
      (may : allowed scene act) (step : Step jobs scene act between)
      (rest : Steps allowed between later last) : Steps allowed scene (act :: later) last

def Replaces (scene : Scene ι) : Act ι → Prop
  | .persist agent _ => ∃ path, scene.phase agent = .working path ∧
      scene.tree.files (Tree.lexical (jobs agent).cwd path) ≠ none
  | _ => False

/-- A run chooses no path that hides a file, and nobody adds a file where another
run is going to put one. -/
def Considerate (scene : Scene ι) : Act ι → Prop
  | .choose agent => ∀ path, (jobs agent).chosenPath scene.tree = some path →
      scene.tree.files (Tree.lexical (jobs agent).cwd path) = none
  | .persist agent _ => ∀ path, scene.phase agent = .working path →
      ∀ other, other ≠ agent →
        target jobs scene other ≠ some (Tree.lexical (jobs agent).cwd path)
  | .create location _ => ∀ agent, target jobs scene agent ≠ some location
  | .grow => True
  | .stop _ => True

/-! A scene as a board of files and chosen places. -/

def board (scene : Scene ι) : Reservations.Board ι Location Bytes :=
  ⟨scene.tree.files, target jobs scene⟩

omit [DecidableEq ι] in
theorem target_working (scene : Scene ι) (agent : ι) (path : Path)
    (working : scene.phase agent = .working path) :
    target jobs scene agent = some (Tree.lexical (jobs agent).cwd path) := by
  rw [target, working]

theorem target_update (scene : Scene ι) (tree : Tree) (agent : ι) (phase : Phase) :
    target jobs ⟨tree, Function.update scene.phase agent phase⟩ =
      Function.update (target jobs scene) agent
        (match phase with
        | .working path => some (Tree.lexical (jobs agent).cwd path)
        | _ => none) := by
  funext other
  by_cases same : other = agent
  · subst same
    cases phase <;> simp [target]
  · simp [target, Function.update_of_ne same]

def event (scene : Scene ι) : Act ι → Reservations.Event ι Location Bytes
  | .choose agent =>
      match (jobs agent).chosenPath scene.tree with
      | some path => .choose agent (Tree.lexical (jobs agent).cwd path)
      | none => .pass
  | .grow => .pass
  | .persist agent contents => .write agent contents
  | .stop agent => .leave agent
  | .create location contents => .put location contents

theorem step_board (scene later : Scene ι) (act : Act ι) (step : Step jobs scene act later) :
    board jobs later = Reservations.next (board jobs scene) (event jobs scene act) := by
  cases step with
  | choose agent path idle chosen =>
      simp only [event, chosen, Reservations.next, board, target_update]
  | grow tree grown =>
      simp only [event, Reservations.next, board, grown.1]
      rfl
  | persist agent path contents tree working renamed =>
      have files := (Tree.persist_eq_ok _ _ _ _ _ renamed).1
      have chosen := target_working jobs scene agent path working
      simp only [event, Reservations.next, board, target_update, chosen, files]
  | stop agent => simp only [event, Reservations.next, board, target_update]
  | create location contents tree absent files dirs =>
      simp only [event, Reservations.next, board, files]
      rfl

omit [DecidableEq ι] in
theorem considerate_event (scene : Scene ι) (act : Act ι) :
    Considerate jobs scene act ↔
      Reservations.Considerate (board jobs scene) (event jobs scene act) := by
  cases act with
  | choose agent =>
      cases chosen : (jobs agent).chosenPath scene.tree with
      | none => simp [Considerate, event, chosen, Reservations.Considerate]
      | some path => simp [Considerate, event, chosen, Reservations.Considerate, board]
  | grow => exact Iff.rfl
  | persist agent contents =>
      constructor
      · intro considerate place given other different
        cases phase : scene.phase agent with
        | working path =>
            obtain rfl :=
              Option.some.inj ((target_working jobs scene agent path phase).symm.trans given)
            exact considerate path phase other different
        | _ => simp [board, target, phase] at given
      · intro considerate path working other different
        exact considerate _ (target_working jobs scene agent path working) other different
  | stop agent => exact Iff.rfl
  | create location contents => exact Iff.rfl

/-- A run of the scene is a run of the board. -/
theorem steps_board (start scene : Scene ι) (acts : List (Act ι))
    (ran : Steps jobs (Considerate jobs) start acts scene) :
    ∃ events, board jobs scene = Reservations.run (board jobs start) events ∧
      Reservations.Along Reservations.Considerate (board jobs start) events := by
  induction ran with
  | nil scene => exact ⟨[], rfl, trivial⟩
  | @cons scene between last act later may step rest ih =>
      obtain ⟨events, reached, considerate⟩ := ih
      rw [step_board jobs scene between act step] at reached considerate
      exact ⟨event jobs scene act :: events, reached,
        (considerate_event jobs scene act).mp may, considerate⟩

omit [DecidableEq ι] in
theorem replaces_overwrites (scene : Scene ι) (agent : ι) (contents : Bytes)
    (replaces : Replaces jobs scene (.persist agent contents)) :
    Reservations.Overwrites (board jobs scene) (.write agent contents) := by
  obtain ⟨path, working, there⟩ := replaces
  exact ⟨_, target_working jobs scene agent path working, there⟩

/-- In every run of considerate steps, whoever takes them and in whatever order, no
rename replaces a file. -/
theorem considerate_replaces_nothing (start scene : Scene ι) (acts : List (Act ι))
    (idle : ∀ agent, start.phase agent = .idle)
    (ran : Steps jobs (Considerate jobs) start acts scene) (agent : ι) (contents : Bytes) :
    ¬ Replaces jobs scene (.persist agent contents) := by
  intro replaces
  obtain ⟨events, reached, considerate⟩ := steps_board jobs start scene acts ran
  have overwrites := replaces_overwrites jobs scene agent contents replaces
  rw [reached] at overwrites
  refine Reservations.run_not_overwrites events (board jobs start) ?_ considerate agent contents
    overwrites
  intro other
  simp only [board, target, idle]

/-- After a step that is not considerate, some run is about to replace a file. -/
theorem inconsiderate_endangers (scene later : Scene ι) (act : Act ι)
    (step : Step jobs scene act later) (inconsiderate : ¬ Considerate jobs scene act) :
    ∃ agent, ∀ contents, Replaces jobs later (.persist agent contents) := by
  rw [considerate_event] at inconsiderate
  have unclear : ¬ Reservations.Clear (board jobs later) := by
    intro clear
    rw [step_board jobs scene later act step] at clear
    exact inconsiderate (Reservations.considerate_of_clear_next _ _ clear)
  rw [Reservations.clear_iff] at unclear
  push Not at unclear
  obtain ⟨agent, _, place, given, there⟩ := unclear
  cases phase : later.phase agent with
  | working path =>
      obtain rfl := Option.some.inj ((target_working jobs later agent path phase).symm.trans given)
      exact ⟨agent, fun _ => ⟨path, phase, there⟩⟩
  | _ => simp [board, target, phase] at given

end Steps

/-! What the code does. A run is split where it has chosen its path. -/

/-- Directories are made, and perhaps one file is renamed onto the target. -/
def Publishes (cwd : Location) (output : Option Path) (before after : World) : Prop :=
  Grown before after ∨ ∃ path between contents renamed, output = some path ∧
    Tree.Grown before.tree between ∧ between.persist cwd path contents = .ok renamed ∧
    Tree.Grown renamed after.tree

section Publishes
variable {α β : Type} {cwd : Location} {output : Option Path}

theorem publishes_after {before between after : World} (grown : Grown before between)
    (publishes : Publishes cwd output between after) : Publishes cwd output before after := by
  rcases publishes with grown' | ⟨path, middle, contents, renamed, given, made, rest⟩
  · exact .inl (steady_grown.trans _ _ _ grown grown')
  · exact .inr ⟨path, middle, contents, renamed, given, Tree.grown_trans _ _ _ grown made, rest⟩

theorem grown_publishes {first : Op α} {next : α → Op β} (grows : Run.Keeps Grown first)
    (publishes : ∀ value, Run.Keeps (Publishes cwd output) (next value)) :
    Run.Keeps (Publishes cwd output) (first >>= next) := by
  intro before
  have grown := grows before
  rcases ran : first before with ⟨reason | value, between⟩
  · rw [Run.bind_of_error ran]
    rw [ran] at grown
    exact .inl grown
  · rw [Run.bind_of_ok ran]
    rw [ran] at grown
    exact publishes_after grown (publishes value between)

theorem publishes_grown {first : Op α} {next : α → Op β}
    (publishes : Run.Keeps (Publishes cwd output) first)
    (grows : ∀ value, Run.Keeps Grown (next value)) :
    Run.Keeps (Publishes cwd output) (first >>= next) := by
  intro before
  have published := publishes before
  rcases ran : first before with ⟨reason | value, between⟩
  · rw [Run.bind_of_error ran]
    rw [ran] at published
    exact published
  · rw [Run.bind_of_ok ran]
    rw [ran] at published
    have grown := grows value between
    rcases published with grown' | ⟨path, middle, contents, renamed, given, made, moved, rest⟩
    · exact .inl (steady_grown.trans _ _ _ grown' grown)
    · exact .inr ⟨path, middle, contents, renamed, given, made, moved,
        Tree.grown_trans _ _ _ rest grown⟩

theorem persist_publishes (host : Host) (path : Path) (contents : Bytes) :
    Run.Keeps (Publishes host.cwd (some path)) (persist host path contents) := by
  apply grown_publishes (call_steady steady_grown host)
  intro _ world
  dsimp only
  split
  · rename_i renamed moved
    exact .inr ⟨path, world.tree, contents, renamed, rfl, Tree.grown_refl _, moved,
      Tree.grown_refl _⟩
  · exact .inl (steady_grown.refl world)

end Publishes

section Unlock
variable (host : Host) (onProgress : Bool) (cancellation : Option CancellationToken)
  (provider : Option PasswordProvider) (request : UnlockRequest)

def beginUnlock : Op (StoredTimelockedArtifact × Option Path) := do
  ensureNotCancelled cancellation
  let parsed ← parseContainer host request.input
  let tree ← Run.read World.tree
  let recoveredFilePath ← Run.lift
    (chooseRecoveredFilePath (tree.pathExists host.cwd) request parsed.payloadKind)
  pure (parsed, recoveredFilePath)

def finishUnlock (parsed : StoredTimelockedArtifact) (recoveredFilePath : Option Path) :
    Op UnlockResponse :=
  match parsed.superblock.passwordProtection with
  | none =>
      recoverPayloadOnce host onProgress cancellation request parsed parsed.payloadKind
        recoveredFilePath (recoverFileKeyFromTimelock host onProgress cancellation)
  | some metadata => do
      Run.modify zeroizeMask
      attempts host onProgress cancellation provider request parsed parsed.payloadKind
        recoveredFilePath metadata maxPasswordAttempts 1 false

theorem executeWithCancelAndPasswordProvider_splits :
    executeWithCancelAndPasswordProvider host onProgress cancellation provider request =
      beginUnlock host cancellation request >>= fun chosen =>
        finishUnlock host onProgress cancellation provider request chosen.1 chosen.2 := by
  unfold executeWithCancelAndPasswordProvider beginUnlock
  simp only [Run.bind_assoc, Run.pure_bind]
  rfl

theorem beginUnlock_chooses (parsed : StoredTimelockedArtifact) (path : Path)
    (before after : World)
    (began : beginUnlock host cancellation request before = (.ok (parsed, some path), after)) :
    (Job.unlock host request).chosenPath before.tree = some path ∧ after.tree = before.tree := by
  obtain ⟨_, w₁, polled, s₁⟩ := (Run.bind_eq_ok _ _ _ _ _).mp began
  obtain ⟨parsed', w₂, parsing, s₂⟩ := (Run.bind_eq_ok _ _ _ _ _).mp s₁
  obtain ⟨bytes, w₃, reading, decoded⟩ := (Run.bind_eq_ok _ _ _ _ _).mp parsing
  obtain ⟨read, rfl⟩ := Prod.mk.inj decoded
  have quiet := Run.keeps_outcome (ensureNotCancelled_quiet cancellation) polled
  obtain ⟨there, quiet'⟩ := readFile_eq_ok host request.input bytes w₁ w₃ reading
  rw [Run.read_bind] at s₂
  obtain ⟨found, chosen, returned⟩ := (Run.lift_bind_eq_ok _ _ _ _ _).mp s₂
  cases returned
  rw [quiet.tree] at there
  rw [quiet'.tree, quiet.tree] at chosen
  refine ⟨?_, quiet'.tree.trans quiet.tree⟩
  simp only [Job.chosenPath, there, read, chosen]

theorem recoverPayloadOnce_publishes (parsed : StoredTimelockedArtifact)
    (recoveredFilePath : Option Path) (recoverFileKey : RecoverFileKeyFn)
    (keyGrows : Run.Keeps Grown (recoverFileKey (keyRequest parsed))) (payloadKind : PayloadKind) :
    Run.Keeps (Publishes host.cwd recoveredFilePath)
      (recoverPayloadOnce host onProgress cancellation request parsed payloadKind recoveredFilePath
        recoverFileKey) := by
  have recovering := fun writer => recoverPayloadToWriterWithCancel_steady steady_grown hears_grown
    host request.input parsed cancellation writer recoverFileKey keyGrows onProgress
  unfold recoverPayloadOnce
  cases payloadKind with
  | text =>
      intro before
      refine .inl (steady_grown.bind (capture_steady steady_grown (recovering .memory)) ?_ before)
      rintro ⟨stats, textBytes⟩
      dsimp only
      split
      · exact steady_grown.fail _
      · exact steady_grown.pure _
  | file originalFilename =>
      cases recoveredFilePath with
      | none => exact fun before => .inl (steady_grown.refl before)
      | some outputPath =>
          apply grown_publishes (createDirAll_steady steady_grown makes_grown host _)
          intro _
          apply grown_publishes (newTempIn_steady steady_grown host _)
          intro _
          apply grown_publishes (recovering .tempFile)
          intro stats
          apply grown_publishes (call_steady steady_grown host)
          intro _
          apply grown_publishes (ensureNotCancelled_steady steady_grown cancellation)
          intro _
          apply grown_publishes (steady_grown.read _)
          intro contents
          -- The rename is the only step that puts a file.
          apply publishes_grown (persist_publishes host outputPath contents)
          exact fun _ => steady_grown.pure _

/-- Only the last attempt may put a file. -/
theorem attempts_publishes (parsed : StoredTimelockedArtifact) (payloadKind : PayloadKind)
    (recoveredFilePath : Option Path) (metadata : PasswordProtectionMetadata)
    (left attempt : Nat) (previousAttemptFailed : Bool) :
    Run.Keeps (Publishes host.cwd recoveredFilePath)
      (attempts host onProgress cancellation provider request parsed payloadKind recoveredFilePath
        metadata left attempt previousAttemptFailed) := by
  induction left generalizing attempt previousAttemptFailed with
  | zero => exact fun before => .inl (steady_grown.refl before)
  | succ left ih =>
      intro before
      have keyGrows := Run.keeps_weaken (recoverPasswordProtectedFileKey_keeps quiet_attends host
        onProgress cancellation provider metadata
        ⟨request.input, attempt, maxPasswordAttempts, previousAttemptFailed⟩ (keyRequest parsed))
        quiet_grown
      have once := recoverPayloadOnce_publishes host onProgress cancellation request parsed
        recoveredFilePath _ keyGrows payloadKind before
      have failing := recoverPayloadOnce_fails host onProgress cancellation request parsed
        recoveredFilePath _ steady_grown makes_grown hears_grown keyGrows payloadKind before
      unfold attempts
      rcases ran : attemptOnce host onProgress cancellation provider request parsed payloadKind
        recoveredFilePath metadata attempt previousAttemptFailed before with
        ⟨reason | response, between⟩
      · have grown := failing reason between ran
        dsimp only
        split
        · split
          · exact publishes_after grown (ih (attempt + 1) true between)
          · exact .inl grown
        · exact .inl grown
      · rw [attemptOnce] at ran
        rw [ran] at once
        exact once

theorem finishUnlock_publishes (parsed : StoredTimelockedArtifact)
    (recoveredFilePath : Option Path) :
    Run.Keeps (Publishes host.cwd recoveredFilePath)
      (finishUnlock host onProgress cancellation provider request parsed recoveredFilePath) := by
  unfold finishUnlock
  cases parsed.superblock.passwordProtection with
  | none =>
      exact recoverPayloadOnce_publishes host onProgress cancellation request parsed
        recoveredFilePath _ (Run.keeps_weaken (recoverFileKeyFromTimelock_keeps quiet_attends host
          onProgress cancellation _) quiet_grown) _
  | some metadata =>
      have zeroized : Run.Keeps Grown (Run.modify zeroizeMask : Op Unit) :=
        fun world => Tree.grown_refl world.tree
      apply grown_publishes zeroized
      intro _
      exact attempts_publishes host onProgress cancellation provider request parsed _ _ metadata
        _ _ _

end Unlock

section Lock
variable (host : LockHost) (onProgress : Bool) (cancellation : Option CancellationToken)
  (request : LockRequest)

def beginLock : Op (InputSource × Path) := do
  ensureNotCancelled cancellation
  let tree ← Run.read World.tree
  let inputSource := resolveInputSource (tree.pathExists host.cwd) request.input
  let outputPath ← Run.lift (resolveLockOutputPath inputSource request.output)
  Run.lift (rejectIf (tree.pathExists host.cwd outputPath = true) (.outputExists outputPath))
  pure (inputSource, outputPath)

def stageInput (inputSource : InputSource) (outputPath : Path) :
    Op (Bytes × UInt64 × Option String) := do
  ensureParentDirExists host outputPath
  ensureNotCancelled cancellation
  newTempIn host.toHost ((parent outputPath).getD [['.']])
  let (plaintextBytes, originalFilename) ← copyInputToStaging host inputSource
  let plaintextStaging ← Run.read World.sink
  ensureNotCancelled cancellation
  pure (plaintextStaging, plaintextBytes, originalFilename)

def stagedAt (outputPath : Path) (input : Bytes × UInt64 × Option String) : StagedLockInput :=
  ⟨outputPath, (parent outputPath).getD [['.']], input.1, input.2.1, input.2.2⟩

def finishLock (inputSource : InputSource) (outputPath : Path) : Op LockResponse := do
  let input ← stageInput host cancellation inputSource outputPath
  let rate ← resolveCurrentMachineIterationsPerSecond host request
  let difficulty ← Run.lift
    (resolveLockDifficulty request.iterations request.target request.hardwareProfile rate)
  writePayloadArtifacts host onProgress cancellation (stagedAt outputPath input) request difficulty
  persistTimelockedContainer host outputPath
  verifyOutputIfRequested host cancellation request.verify outputPath
  pure ⟨outputPath, difficulty.iterations, difficulty.hardwareProfileId, input.2.1⟩

theorem executeWithCancel_splits :
    executeWithCancel host onProgress cancellation request =
      beginLock host cancellation request >>= fun chosen =>
        finishLock host onProgress cancellation request chosen.1 chosen.2 := by
  unfold executeWithCancel prepare resolveAndStageInput beginLock finishLock stageInput
  simp only [Run.bind_assoc, Run.pure_bind]
  rfl

theorem beginLock_chooses (inputSource : InputSource) (path : Path) (before after : World)
    (began : beginLock host cancellation request before = (.ok (inputSource, path), after)) :
    (Job.lock host request).chosenPath before.tree = some path ∧ after.tree = before.tree := by
  obtain ⟨_, w₁, polled, s₁⟩ := (Run.bind_eq_ok _ _ _ _ _).mp began
  have quiet := Run.keeps_outcome (ensureNotCancelled_quiet cancellation) polled
  rw [Run.read_bind, quiet.tree] at s₁
  obtain ⟨found, resolved, s₂⟩ := (Run.lift_bind_eq_ok _ _ _ _ _).mp s₁
  obtain ⟨_, accepted, returned⟩ := (Run.lift_bind_eq_ok _ _ _ _ _).mp s₂
  cases returned
  have free := (rejectIf_eq_ok _ _ _).mp accepted
  exact ⟨by simp only [Job.chosenPath, resolved, if_neg free], quiet.tree⟩

theorem stageInput_grown (inputSource : InputSource) (outputPath : Path) :
    Run.Keeps Grown (stageInput host cancellation inputSource outputPath) := by
  have polled := ensureNotCancelled_steady steady_grown cancellation
  apply steady_grown.bind (ensureParentDirExists_steady steady_grown makes_grown host outputPath)
  intro _
  apply steady_grown.bind polled
  intro _
  apply steady_grown.bind (newTempIn_steady steady_grown host.toHost _)
  intro _
  apply steady_grown.bind (copyInputToStaging_steady steady_grown host inputSource)
  rintro ⟨plaintextBytes, originalFilename⟩
  apply steady_grown.bind (steady_grown.read _)
  intro plaintextStaging
  exact steady_grown.bind polled fun _ => steady_grown.pure _

theorem finishLock_publishes (inputSource : InputSource) (outputPath : Path) :
    Run.Keeps (Publishes host.cwd (some outputPath))
      (finishLock host onProgress cancellation request inputSource outputPath) := by
  apply grown_publishes (stageInput_grown host cancellation inputSource outputPath)
  intro input
  apply grown_publishes
    (resolveCurrentMachineIterationsPerSecond_steady steady_grown host request)
  intro rate
  apply grown_publishes (steady_grown.lift _)
  intro difficulty
  apply grown_publishes
    (writePayloadArtifacts_steady steady_grown hears_grown host onProgress cancellation _ _ _)
  intro _
  apply publishes_grown
  · apply grown_publishes (steady_grown.read _)
    exact fun artifact => persist_publishes host.toHost outputPath artifact
  · intro _
    exact steady_grown.bind (verifyOutputIfRequested_steady steady_grown host cancellation _ _)
      fun _ => steady_grown.pure _

end Lock

/-- Some run of the job begins in one world, and in the other it has chosen its path. -/
def Job.Begins (before : World) (path : Path) (after : World) : Job → Prop
  | .lock host request => ∃ cancellation inputSource,
      beginLock host cancellation request before = (.ok (inputSource, path), after)
  | .unlock host request => ∃ cancellation parsed,
      beginUnlock host cancellation request before = (.ok (parsed, some path), after)

/-- Some run of the job that has chosen its path goes on from one world to its end. -/
def Job.Finishes (before : World) (path : Path) (after : World) : Job → Prop
  | .lock host request => ∃ onProgress cancellation inputSource outcome,
      finishLock host onProgress cancellation request inputSource path before = (outcome, after)
  | .unlock host request => ∃ onProgress cancellation provider parsed outcome,
      finishUnlock host onProgress cancellation provider request parsed (some path) before =
        (outcome, after)

theorem finishes_publishes (job : Job) (before : World) (path : Path) (after : World)
    (finishes : job.Finishes before path after) : Publishes job.cwd (some path) before after := by
  cases job with
  | lock host request =>
      obtain ⟨onProgress, cancellation, inputSource, _, ran⟩ := finishes
      exact Run.keeps_outcome
        (finishLock_publishes host onProgress cancellation request inputSource path) ran
  | unlock host request =>
      obtain ⟨onProgress, cancellation, provider, parsed, _, ran⟩ := finishes
      exact Run.keeps_outcome
        (finishUnlock_publishes host onProgress cancellation provider request parsed _) ran

section Refines
variable {ι : Type} [DecidableEq ι] (jobs : ι → Job) (scene : Scene ι) (agent : ι)

theorem begins_step (idle : scene.phase agent = .idle) (before after : World) (path : Path)
    (here : before.tree = scene.tree) (begins : (jobs agent).Begins before path after) :
    Step jobs scene (.choose agent)
      ⟨after.tree, Function.update scene.phase agent (.working path)⟩ := by
  have chosen : (jobs agent).chosenPath before.tree = some path ∧ after.tree = before.tree := by
    cases job : jobs agent with
    | lock host request =>
        rw [job] at begins
        obtain ⟨cancellation, inputSource, ran⟩ := begins
        exact beginLock_chooses host cancellation request inputSource path before after ran
    | unlock host request =>
        rw [job] at begins
        obtain ⟨cancellation, parsed, ran⟩ := begins
        exact beginUnlock_chooses host cancellation request parsed path before after ran
  rw [chosen.2, here]
  exact .choose scene agent path idle (here ▸ chosen.1)

/-- Whatever the others have done to the tree by then. -/
theorem finishes_steps (path : Path) (working : scene.phase agent = .working path)
    (before after : World) (here : before.tree = scene.tree)
    (finishes : (jobs agent).Finishes before path after) :
    ∃ acts, Steps jobs (fun _ _ => True) scene acts
      ⟨after.tree, Function.update scene.phase agent .done⟩ := by
  rcases finishes_publishes _ _ _ _ finishes with
    grown | ⟨_, between, contents, renamed, given, made, moved, rest⟩
  · exact ⟨[.grow, .stop agent],
      .cons trivial (.grow scene after.tree (here ▸ grown)) <|
      .cons trivial (.stop _ agent) <| .nil _⟩
  · obtain rfl := Option.some.inj given
    exact ⟨[.grow, .persist agent contents, .grow],
      .cons trivial (.grow scene between (here ▸ made)) <|
      .cons trivial (.persist _ agent path contents renamed working moved) <|
      .cons trivial (.grow _ after.tree rest) <| .nil _⟩

end Refines

/-! Two runs that unlock one artifact to one path. -/

def intoW : UnlockRequest := ⟨[['a']], none, some [['w']]⟩

def pair : Bool → Job := fun _ => .unlock (calmHost plainCrates) intoW

def nobodyYet : Scene Bool := ⟨victimTree, fun _ => .idle⟩

def putAt (name : Name) (tree : Tree) : Tree :=
  (tree.persist [] [name] [7]).toOption.getD .bare

theorem putAt_ok (name : Name) (tree : Tree)
    (renamed : (tree.persist [] [name] [7]).toOption.isSome = true) :
    tree.persist [] [name] [7] = .ok (putAt name tree) := by
  obtain ⟨placed, found⟩ := Option.isSome_iff_exists.mp renamed
  rw [putAt, found, toOption_eq_some found]
  rfl

def firstDone : Scene Bool :=
  ⟨putAt ['w'] victimTree,
    Function.update (Function.update nobodyYet.phase false (.working [['w']])) false .done⟩

def secondWorking : Scene Bool :=
  { firstDone with phase := Function.update firstDone.phase true (.working ["w.1".toList]) }

theorem inTurn_steps :
    Steps pair (Considerate pair) nobodyYet [.choose false, .persist false [7], .choose true]
      secondWorking := by
  have first : (pair false).chosenPath nobodyYet.tree = some [['w']] := by decide +kernel
  have second : (pair true).chosenPath firstDone.tree = some ["w.1".toList] := by decide +kernel
  have free : ∀ path, (pair false).chosenPath nobodyYet.tree = some path →
      nobodyYet.tree.files (Tree.lexical [] path) = none := by
    intro path chosen
    obtain rfl := Option.some.inj (first.symm.trans chosen)
    decide +kernel
  have free' : ∀ path, (pair true).chosenPath firstDone.tree = some path →
      firstDone.tree.files (Tree.lexical [] path) = none := by
    intro path chosen
    obtain rfl := Option.some.inj (second.symm.trans chosen)
    decide +kernel
  refine .cons free (.choose nobodyYet false [['w']] rfl first) ?_
  refine .cons ?_ (.persist _ false [['w']] [7] (putAt ['w'] victimTree) rfl
    (putAt_ok ['w'] victimTree (by decide +kernel))) ?_
  · rintro _ _ (_ | _) different
    · exact absurd rfl different
    · simp [target, nobodyYet]
  · exact .cons free' (.choose firstDone true ["w.1".toList] rfl second) (.nil _)

theorem considerate_replaces_nothing_inTurn :
    ¬ Replaces pair secondWorking (.persist true [7]) :=
  considerate_replaces_nothing pair nobodyYet secondWorking _ (fun _ => rfl) inTurn_steps true [7]

def bothWorking : Scene Bool :=
  { nobodyYet with
    phase := Function.update (Function.update nobodyYet.phase false (.working [['w']])) true
      (.working [['w']]) }

def oneDone : Scene Bool :=
  ⟨putAt ['w'] victimTree, Function.update bothWorking.phase false .done⟩

def bothDone : Scene Bool :=
  ⟨putAt ['w'] (putAt ['w'] victimTree), Function.update oneDone.phase true .done⟩

/-- The code of the second run, with the first one finishing after it has chosen its path. -/
def overtaken : Except Error UnlockResponse × World :=
  (beginUnlock (calmHost plainCrates) none intoW >>= fun chosen world =>
    finishUnlock (calmHost plainCrates) false none none intoW chosen.1 chosen.2
      { world with tree := oneDone.tree }) (freshWorld victimTree)

theorem sideBySide_replaces :
    Steps pair (fun _ _ => True) nobodyYet [.choose false, .choose true, .persist false [7]]
        oneDone ∧
      Step pair oneDone (.persist true [7]) bothDone ∧
      oneDone.tree.files [['w']] = some [7] ∧
      Replaces pair oneDone (.persist true [7]) ∧
      overtaken.1 = .ok ⟨.file [['w']], 1⟩ := by
  have chosen : ∀ agent, (pair agent).chosenPath nobodyYet.tree = some [['w']] := by
    intro agent
    decide +kernel +revert
  have there : oneDone.tree.files [['w']] = some [7] := by decide +kernel
  refine ⟨?_, ?_, there, ⟨[['w']], rfl, ?_⟩, by decide +kernel⟩
  · refine .cons trivial (.choose nobodyYet false [['w']] rfl (chosen false)) ?_
    refine .cons trivial (.choose _ true [['w']] rfl (chosen true)) ?_
    exact .cons trivial (.persist bothWorking false [['w']] [7] _ rfl
      (putAt_ok ['w'] victimTree (by decide +kernel))) (.nil _)
  · exact .persist oneDone true [['w']] [7] _ rfl (putAt_ok ['w'] _ (by decide +kernel))
  · rw [show Tree.lexical (pair true).cwd [['w']] = [['w']] from rfl, there]
    exact Option.some_ne_none _

end SilentOverwrite
