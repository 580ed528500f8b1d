import Timelocked.UnlockEffects

/-!
The attempts of one unlock run. A ledger follows the history of the run: the
puzzle is solved once, before anyone is asked for a passphrase, every call of the
provider carries its number, and the next one comes only after a payload that
did not authenticate.
-/
namespace PasswordAttempts
open ByteCodec RunRules Base PathText FileTree PasswordProtection Superblock ArtifactReader Recovery
  Unlock UnlockEffects

def prompted : Event → Option (Nat × Bool)
  | .prompt attempt previousAttemptFailed => some (attempt, previousAttemptFailed)
  | _ => none

def isSolved : Event → Bool
  | .solved => true
  | _ => false

def calls (history : History) : List (Nat × Bool) := (history.filterMap prompted).reverse

def solutions (history : History) : Nat := history.countP isSolved

theorem calls_cons (event : Event) (history : History) :
    calls (event :: history) = calls history ++ (prompted event).toList := by
  cases found : prompted event <;> simp [calls, found]

theorem solutions_cons (event : Event) (history : History) :
    solutions (event :: history) = solutions history + if isSolved event then 1 else 0 :=
  List.countP_cons

def SolvedFirst (history : History) : Prop :=
  ∀ later earlier attempt previousAttemptFailed,
    history = later ++ .prompt attempt previousAttemptFailed :: earlier → .solved ∈ earlier

def firstCalls (count : Nat) : List (Nat × Bool) :=
  (List.range count).map fun before => (before + 1, decide (0 < before))

theorem firstCalls_succ (count : Nat) :
    firstCalls (count + 1) = firstCalls count ++ [(count + 1, decide (0 < count))] := by
  simp [firstCalls, List.range_succ]

theorem solvedFirst_cons (event : Event) (history : History) (first : SolvedFirst history)
    (solved : prompted event ≠ none → .solved ∈ history) : SolvedFirst (event :: history) := by
  intro later earlier attempt previousAttemptFailed split
  cases later with
  | nil =>
      obtain ⟨rfl, rfl⟩ := List.cons.inj split
      exact solved (by simp [prompted])
  | cons newest later => exact first later earlier _ _ (List.cons.inj split).2

def Unprompted (event : Event) : Prop := prompted event = none ∧ isSolved event = false

theorem unprompted_append (newer older : History) (plain : ∀ event ∈ newer, Unprompted event) :
    calls (newer ++ older) = calls older ∧ solutions (newer ++ older) = solutions older ∧
      (SolvedFirst older → SolvedFirst (newer ++ older)) := by
  induction newer with
  | nil => exact ⟨rfl, rfl, id⟩
  | cons event rest ih =>
      obtain ⟨sameCalls, sameSolutions, first⟩ :=
        ih fun other member => plain other (by simp [member])
      obtain ⟨noPrompt, noSolution⟩ := plain event (by simp)
      rw [List.cons_append]
      refine ⟨?_, ?_, fun before => ?_⟩
      · rw [calls_cons, sameCalls, noPrompt, Option.toList_none, List.append_nil]
      · rw [solutions_cons, sameSolutions, noSolution]
        rfl
      · exact solvedFirst_cons event _ (first before) fun prompts => absurd noPrompt prompts

def Plain (before after : World) : Prop :=
  Logged Unprompted before after ∧ after.cachedTimelockMask = before.cachedTimelockMask

theorem plain_of_event (event : Event) (plain : Unprompted event) : Passes Plain event :=
  fun world => ⟨logged_passes _ event plain world, rfl⟩

theorem steady_plain : Steady Plain where
  refl world := ⟨logged_refl _ world, rfl⟩
  trans a b c first second :=
    ⟨logged_trans _ a b c first.1 second.1, second.2.trans first.2⟩
  poll := plain_of_event _ ⟨rfl, rfl⟩
  call := plain_of_event _ ⟨rfl, rfl⟩
  random := plain_of_event _ ⟨rfl, rfl⟩
  sealed _ _ _ _ := plain_of_event _ ⟨rfl, rfl⟩
  sink world _ := ⟨logged_refl _ world, rfl⟩

theorem hears_plain : Hears Plain := fun _ _ _ => plain_of_event _ ⟨rfl, rfl⟩

theorem moves_plain : Moves Plain := fun world _ => ⟨logged_refl _ world, rfl⟩

/-- What has happened since a world, once the provider was called this often. -/
def Ledger (start : World) (count : Nat) (world : World) : Prop :=
  ∃ new, world.history = new ++ start.history ∧ calls new = firstCalls count ∧ SolvedFirst new ∧
    solutions new = if world.cachedTimelockMask.isSome then 1 else 0

section Ledger
variable {start : World} {count : Nat}

theorem ledger_plain {before after : World} (ledger : Ledger start count before)
    (plain : Plain before after) : Ledger start count after := by
  obtain ⟨new, history, called, first, solved⟩ := ledger
  obtain ⟨⟨newer, history', unprompted⟩, mask⟩ := plain
  obtain ⟨sameCalls, sameSolutions, first'⟩ := unprompted_append newer new unprompted
  refine ⟨newer ++ new, by rw [history', history, List.append_assoc], ?_, first' first, ?_⟩
  · rw [sameCalls, called]
  · rw [sameSolutions, solved, mask]

/-- A run that has asked nothing yet. -/
theorem ledger_opened {opened : World} (logged : Logged Unprompted start opened)
    (nothing : opened.cachedTimelockMask = none) : Ledger start 0 opened := by
  obtain ⟨new, history, unprompted⟩ := logged
  obtain ⟨noCalls, noSolutions, first⟩ := unprompted_append new [] unprompted
  rw [List.append_nil] at noCalls noSolutions first
  refine ⟨new, history, noCalls, first ?_, by rw [noSolutions, nothing]; rfl⟩
  intro later earlier _ _ split
  simp at split

/-- The puzzle is solved where nothing is kept of it. -/
theorem ledger_solved {before : World} (mask : Block 32) (ledger : Ledger start count before)
    (nothing : before.cachedTimelockMask = none) :
    Ledger start count
      { before with history := .solved :: before.history, cachedTimelockMask := some mask } := by
  obtain ⟨new, history, called, first, solved⟩ := ledger
  rw [nothing] at solved
  refine ⟨.solved :: new, by rw [history]; rfl, ?_, ?_, ?_⟩
  · rw [calls_cons, called]
    exact List.append_nil _
  · exact solvedFirst_cons _ new first fun prompts => absurd rfl prompts
  · rw [solutions_cons, solved]
    rfl

/-- The provider is called once the solution is kept. -/
theorem ledger_prompt {before : World} (ledger : Ledger start count before)
    (kept : before.cachedTimelockMask.isSome = true) :
    Ledger start (count + 1)
      { before with history := .prompt (count + 1) (decide (0 < count)) :: before.history } := by
  obtain ⟨new, history, called, first, solved⟩ := ledger
  rw [kept, if_pos rfl] at solved
  refine ⟨.prompt (count + 1) (decide (0 < count)) :: new, by rw [history]; rfl, ?_, ?_, ?_⟩
  · rw [calls_cons, called, firstCalls_succ]
    rfl
  · apply solvedFirst_cons _ new first
    intro _
    have some_ : 0 < solutions new := by rw [solved]; exact Nat.one_pos
    obtain ⟨event, member, isOne⟩ := List.countP_pos_iff.mp some_
    cases event with
    | solved => exact member
    | _ => cases isOne
  · rw [solutions_cons, solved, kept]
    rfl

end Ledger

/-- The run calls the provider, or fails for a reason that is not about the payload. -/
def Spends {α : Type} (start : World) (count : Nat) (run : Op α) : Prop :=
  ∀ world, Ledger start count world →
    Ledger start (count + 1) (run world).2 ∨
      (Ledger start count (run world).2 ∧
        ∃ reason, (run world).1 = .error reason ∧ isPayloadAuthenticationError reason = false)

def Harmless (reason : Error) : Prop := isPayloadAuthenticationError reason = false

section Spends
variable {α β : Type} {start : World} {count : Nat}

theorem spends_after {first : Op α} {next : α → Op β} (plain : Run.Keeps Plain first)
    (harmless : Run.FailsOnly Harmless first)
    (nextSpends : ∀ value, Spends start count (next value)) :
    Spends start count (first >>= next) := by
  intro world ledger
  have kept := plain world
  rcases outcome : first world with ⟨reason | value, between⟩
  · rw [Run.bind_of_error outcome]
    rw [outcome] at kept
    exact .inr ⟨ledger_plain ledger kept, reason, rfl, harmless world reason between outcome⟩
  · rw [Run.bind_of_ok outcome]
    rw [outcome] at kept
    exact nextSpends value between (ledger_plain ledger kept)

theorem spends_then {first : Op α} {next : α → Op β} (firstSpends : Spends start count first)
    (plain : ∀ value, Run.Keeps Plain (next value)) : Spends start count (first >>= next) := by
  intro world ledger
  have spent := firstSpends world ledger
  rcases outcome : first world with ⟨reason | value, between⟩
  · rw [Run.bind_of_error outcome]
    rw [outcome] at spent
    rcases spent with called | ⟨ledger', _, failed, harmless⟩
    · exact .inl called
    · cases failed
      exact .inr ⟨ledger', reason, rfl, harmless⟩
  · rw [Run.bind_of_ok outcome]
    rw [outcome] at spent
    rcases spent with called | ⟨_, _, failed, _⟩
    · exact .inl (ledger_plain called (plain value between))
    · cases failed

theorem spends_capture {run : Op α} (spends : Spends start count run) :
    Spends start count (capture run) := by
  intro world ledger
  have spent := spends { world with sink := [] } ledger
  unfold capture
  rcases outcome : run { world with sink := [] } with ⟨reason | value, inner⟩
  · rw [outcome] at spent
    rcases spent with called | ⟨ledger', _, failed, harmless⟩
    · exact .inl called
    · cases failed
      exact .inr ⟨ledger', reason, rfl, harmless⟩
  · rw [outcome] at spent
    rcases spent with called | ⟨_, _, failed, _⟩
    · exact .inl called
    · cases failed

end Spends

section Key
variable (host : Host) (onProgress : Bool) (cancellation : Option CancellationToken)
  (provider : Option PasswordProvider) {start : World} {count : Nat}

/-- The solver ends by the mark of a solved puzzle, or is cancelled without it. -/
theorem solvePuzzleMask_marks (material : PuzzleService.TimelockPuzzleMaterial)
    (before after : World) (outcome : Except Error (Block 32))
    (ran : PuzzleService.solvePuzzleMaskWithCancel host.crates onProgress cancellation material
      before = (outcome, after)) :
    (outcome = .error .cancelled ∧ Plain before after) ∨
      ∃ mask between, outcome = .ok mask ∧ Plain before between ∧
        after = { between with history := .solved :: between.history } := by
  have watches := steady_plain.watches hears_plain
  have polls := ensureNotCancelled_keeps watches.refl watches.poll cancellation
  have loops := PuzzleService.solveLoop_keeps watches onProgress cancellation material
  -- The solver yields its mask unless a poll says stop, so there are two ends.
  have ends := PuzzleService.solvePuzzleMaskWithCancel_yields cancellation host.crates onProgress
    material _ rfl before
  rw [ran] at ends
  cases outcome with
  | error reason =>
      rcases ends with ⟨_, success, _⟩ | ⟨_, _, failed, _⟩
      · cases success
      · refine .inl ⟨congrArg Prod.fst failed, ?_⟩
        rcases (Run.bind_eq_error _ _ _ _ _).mp ran with stopped | ⟨_, polled, alive, rest⟩
        · exact Run.keeps_outcome polls stopped
        · have plain := Run.keeps_outcome polls alive
          rcases (Run.bind_eq_error _ _ _ _ _).mp rest with stopped | ⟨_, _, _, marked⟩
          · exact steady_plain.trans _ _ _ plain (Run.keeps_outcome (loops _ _ _) stopped)
          · cases marked
  | ok mask =>
      obtain ⟨_, polled, alive, rest⟩ := (Run.bind_eq_ok _ _ _ _ _).mp ran
      obtain ⟨value, looped, solved, marked⟩ := (Run.bind_eq_ok _ _ _ _ _).mp rest
      cases marked
      exact .inr ⟨_, looped, rfl, steady_plain.trans _ _ _ (Run.keeps_outcome polls alive)
        (Run.keeps_outcome (loops _ _ _) solved), rfl⟩

theorem cachedTimelockMask_ledger (request : RecoverFileKeyRequest) (before after : World)
    (outcome : Except Error (Block 32)) (ledger : Ledger start count before)
    (ran : cachedTimelockMask host onProgress cancellation request before = (outcome, after)) :
    Ledger start count after ∧
      (outcome = .error .cancelled ∨
        after.cachedTimelockMask.isSome = true ∧ ∃ mask, outcome = .ok mask) := by
  unfold cachedTimelockMask at ran
  rw [Run.read_bind] at ran
  cases kept : before.cachedTimelockMask with
  -- A kept mask is handed out and nothing is solved.
  | some mask =>
      rw [kept] at ran
      cases ran
      exact ⟨ledger, .inr ⟨by rw [kept]; rfl, mask, rfl⟩⟩
  | none =>
      rw [kept] at ran
      dsimp only at ran
      -- No mask yet: one puzzle is solved, and its mask is kept with its mark.
      rcases solving : PuzzleService.solvePuzzleMaskWithCancel host.crates onProgress cancellation
        (puzzleOf request) before with ⟨reason | mask, solved⟩
      · rw [Run.bind_of_error solving] at ran
        cases ran
        rcases solvePuzzleMask_marks host onProgress cancellation _ _ _ _ solving with
          ⟨stopped, plain⟩ | ⟨_, _, success, _⟩
        · exact ⟨ledger_plain ledger plain, .inl (Except.error.inj stopped ▸ rfl)⟩
        · cases success
      · rw [Run.bind_of_ok solving] at ran
        cases ran
        rcases solvePuzzleMask_marks host onProgress cancellation _ _ _ _ solving with
          ⟨stopped, _⟩ | ⟨_, between, _, plain, rfl⟩
        · cases stopped
        · have nothing : between.cachedTimelockMask = none := plain.2.trans kept
          exact ⟨ledger_solved mask (ledger_plain ledger plain) nothing, .inr ⟨rfl, mask, rfl⟩⟩

theorem promptPassphrase_apply (answer : PasswordProvider) (context : PasswordPromptContext)
    (world : World) :
    promptPassphrase (some answer) context world =
      (answer world.history context,
        { world with
          history := .prompt context.attempt context.previousAttemptFailed :: world.history }) :=
  rfl

theorem recoverPasswordProtectedFileKey_spends (metadata : PasswordProtectionMetadata)
    (context : PasswordPromptContext) (numbered : context.attempt = count + 1)
    (flagged : context.previousAttemptFailed = decide (0 < count))
    (request : RecoverFileKeyRequest) :
    Spends start count (recoverPasswordProtectedFileKey host onProgress cancellation provider
      metadata context request) := by
  intro world ledger
  unfold recoverPasswordProtectedFileKey
  rcases solving : cachedTimelockMask host onProgress cancellation request world with
    ⟨reason | mask, kept⟩
  · obtain ⟨ledger', stopped | ⟨_, _, success⟩⟩ :=
      cachedTimelockMask_ledger host onProgress cancellation request _ _ _ ledger solving
    · rw [Run.bind_of_error solving]
      exact .inr ⟨ledger', reason, rfl, by rw [Except.error.inj stopped]; rfl⟩
    · cases success
  · obtain ⟨ledger', stopped | ⟨some_, _, _⟩⟩ :=
      cachedTimelockMask_ledger host onProgress cancellation request _ _ _ ledger solving
    · cases stopped
    · rw [Run.bind_of_ok solving]
      -- The provider is asked behind a kept mask, whatever it then answers.
      have called : Ledger start (count + 1) { kept with
          history := .prompt context.attempt context.previousAttemptFailed :: kept.history } := by
        rw [numbered, flagged]
        exact ledger_prompt ledger' some_
      cases provider with
      | none => exact .inr ⟨ledger', _, rfl, rfl⟩
      | some answer =>
          left
          rcases reply : answer kept.history context with reason | passphrase
          · have failed := promptPassphrase_apply answer context kept
            rw [reply] at failed
            rw [Run.bind_of_error failed]
            exact called
          · have given := promptPassphrase_apply answer context kept
            rw [reply] at given
            rw [Run.bind_of_ok given]
            exact called

end Key

section Harmless
variable (host : Host)

theorem call_harmless : Run.FailsOnly Harmless (call host) := by
  intro world reason after failed
  unfold call at failed
  dsimp only at failed
  split at failed
  · cases failed
    rfl
  · cases failed

theorem io_harmless {α : Type} (value : Except IoErrorKind α) (reason : Error)
    (failed : value.mapError Error.io = .error reason) : Harmless reason := by
  cases value with
  | ok result => cases failed
  | error kind =>
      cases failed
      rfl

theorem createDirAll_harmless (path : Path) : Run.FailsOnly Harmless (createDirAll host path) := by
  apply Run.failsOnly_bind (call_harmless host)
  intro _ world reason after failed
  exact io_harmless _ reason (congrArg Prod.fst failed)

theorem newTempIn_harmless (dir : Path) : Run.FailsOnly Harmless (newTempIn host dir) := by
  refine Run.failsOnly_bind (call_harmless host) fun _ => ?_
  refine Run.failsOnly_bind (Run.failsOnly_read World.tree) fun tree => ?_
  refine Run.failsOnly_bind (Run.failsOnly_lift (io_harmless _)) fun _ => ?_
  intro _ _ _ failed
  cases failed

end Harmless

section Attempts
variable (host : Host) (onProgress : Bool) (cancellation : Option CancellationToken)
  (provider : Option PasswordProvider) (request : UnlockRequest)
  (parsed : StoredTimelockedArtifact) (payloadKind : PayloadKind)
  (recoveredFilePath : Option Path) (metadata : PasswordProtectionMetadata)

theorem recoverPayloadToWriterWithCancel_spends {start : World} {count : Nat} (writer : Writer)
    (recoverFileKey : RecoverFileKeyFn)
    (keySpends : ∀ request, Spends start count (recoverFileKey request)) :
    Spends start count (recoverPayloadToWriterWithCancel host request.input parsed writer
      recoverFileKey onProgress cancellation) := by
  apply spends_then (keySpends _)
  intro key
  apply steady_plain.bind (readPayloadRegionBytes_steady steady_plain host request.input parsed)
  intro region
  apply steady_plain.lift_bind
  intro stream
  exact decryptRecovered_steady steady_plain hears_plain host parsed cancellation _ _ _ _

theorem attemptOnce_spends {start : World} (count : Nat) :
    Spends start count (attemptOnce host onProgress cancellation provider request parsed
      payloadKind recoveredFilePath metadata (count + 1) (decide (0 < count))) := by
  have asking : ∀ key, Spends start count (recoverPasswordProtectedFileKey host onProgress
      cancellation provider metadata
      ⟨request.input, count + 1, maxPasswordAttempts, decide (0 < count)⟩ key) :=
    recoverPasswordProtectedFileKey_spends host onProgress cancellation provider metadata _ rfl rfl
  have recovering := fun writer => recoverPayloadToWriterWithCancel_spends host onProgress
    cancellation request parsed writer _ asking
  -- Only the key asks the provider; everything around it is plain.
  unfold attemptOnce recoverPayloadOnce
  cases payloadKind with
  | text =>
      apply spends_then (spends_capture (recovering .memory))
      rintro ⟨stats, textBytes⟩
      dsimp only
      split
      · exact steady_plain.fail _
      · exact steady_plain.pure _
  | file originalFilename =>
      cases recoveredFilePath with
      | none => exact fun world ledger => .inr ⟨ledger, _, rfl, rfl⟩
      | some outputPath =>
          apply spends_after (createDirAll_steady steady_plain moves_plain.makes host _)
            (createDirAll_harmless host _)
          intro _
          apply spends_after (newTempIn_steady steady_plain host _) (newTempIn_harmless host _)
          intro _
          apply spends_then (recovering .tempFile)
          intro stats
          apply steady_plain.bind (call_steady steady_plain host)
          intro _
          apply steady_plain.bind (ensureNotCancelled_steady steady_plain cancellation)
          intro _
          apply steady_plain.bind (steady_plain.read _)
          intro contents
          exact steady_plain.bind (persist_steady steady_plain moves_plain host outputPath contents)
            fun _ => steady_plain.pure _

def refused {α : Type} : Except Error α → Bool
  | .error reason => isPayloadAuthenticationError reason
  | .ok _ => false

def verdict (last : Except Error UnlockResponse) : Except Error UnlockResponse :=
  if refused last then .error passwordPayloadAuthenticationError else last

/-- Attempts from one on, each in the world the last one left, and what they ended in. -/
inductive Attempted : Nat → World → List (Except Error UnlockResponse) → World → Prop
  | none {attempt world} : Attempted attempt world [] world
  | more {attempt before between after outcome later}
      (ran : attemptOnce host onProgress cancellation provider request parsed payloadKind
        recoveredFilePath metadata attempt (decide (1 < attempt)) before = (outcome, between))
      (rest : Attempted (attempt + 1) between later after) :
      Attempted attempt before (outcome :: later) after

/-- Every attempt but the last was refused, the last one decides, and a refusal
decides only after the third. -/
structure Decided (attempt : Nat) (outcomes : List (Except Error UnlockResponse))
    (outcome : Except Error UnlockResponse) : Prop where
  few : attempt + outcomes.length ≤ maxPasswordAttempts + 1
  retried : ∀ earlier ∈ outcomes.dropLast, refused earlier = true
  decided : ∃ last, outcomes.getLast? = some last ∧ outcome = verdict last ∧
    (refused last = true → attempt + outcomes.length = maxPasswordAttempts + 1)

theorem decided_after (attempt : Nat) (earlier : Except Error UnlockResponse)
    (later : List (Except Error UnlockResponse)) (outcome : Except Error UnlockResponse)
    (refusal : refused earlier = true) (decided : Decided (attempt + 1) later outcome) :
    Decided attempt (earlier :: later) outcome := by
  obtain ⟨few, retried, last, ends, decides, whole⟩ := decided
  cases later with
  | nil => cases ends
  | cons next rest =>
      rw [List.length_cons] at few whole
      refine ⟨?_, ?_, last, ?_, decides, fun refusal' => ?_⟩
      · simp only [List.length_cons]
        omega
      · intro one member
        rw [List.dropLast_cons_cons] at member
        rcases List.mem_cons.mp member with rfl | member
        · exact refusal
        · exact retried one member
      · rw [List.getLast?_cons_cons]
        exact ends
      · have counted := whole refusal'
        simp only [List.length_cons]
        omega

theorem attempts_decided (left attempt : Nat) (before after : World)
    (outcome : Except Error UnlockResponse) (numbered : 0 < attempt) (some_ : 0 < left)
    (bounded : attempt + left = maxPasswordAttempts + 1)
    (ran : attempts host onProgress cancellation provider request parsed payloadKind
      recoveredFilePath metadata left attempt (decide (1 < attempt)) before = (outcome, after)) :
    ∃ outcomes stop, Attempted host onProgress cancellation provider request parsed payloadKind
        recoveredFilePath metadata attempt before outcomes stop ∧
      Decided attempt outcomes outcome ∧ after = zeroizeMask stop := by
  induction left generalizing attempt before with
  | zero => cases some_
  | succ left ih =>
      rw [attempts] at ran
      dsimp only at ran
      rcases attempted : attemptOnce host onProgress cancellation provider request parsed
        payloadKind recoveredFilePath metadata attempt (decide (1 < attempt)) before
        with ⟨once, stop⟩
      -- An attempt that is not followed by another decides the run.
      have single : ∀ last, once = last → outcome = verdict last →
          (refused last = true → attempt = maxPasswordAttempts) → after = zeroizeMask stop →
          ∃ outcomes stop, Attempted host onProgress cancellation provider request parsed
              payloadKind recoveredFilePath metadata attempt before outcomes stop ∧
            Decided attempt outcomes outcome ∧ after = zeroizeMask stop := by
        rintro last rfl decided whole ended
        refine ⟨[once], stop, .more attempted .none, ⟨?_, ?_, once, rfl, decided, ?_⟩, ended⟩
        · rw [List.length_singleton]
          omega
        · intro earlier member
          cases member
        · intro refusal
          rw [whole refusal, List.length_singleton]
      rw [attempted] at ran
      cases once with
      | ok response =>
          cases ran
          exact single _ rfl rfl (fun no => by cases no) rfl
      | error reason =>
          dsimp only at ran
          by_cases again : isPayloadAuthenticationError reason = true
          · rw [if_pos again] at ran
            by_cases room : attempt < maxPasswordAttempts
            · rw [if_pos room] at ran
              have flag : true = decide (1 < attempt + 1) := by
                simp [numbered]
              rw [flag] at ran
              obtain ⟨outcomes, last, chain, decided, ended⟩ := ih (attempt + 1) stop (by omega)
                (by omega) (by omega) ran
              exact ⟨.error reason :: outcomes, last, .more attempted chain,
                decided_after attempt _ outcomes outcome again decided, ended⟩
            · rw [if_neg room] at ran
              cases ran
              refine single _ rfl ?_ (fun _ => by omega) rfl
              rw [verdict, refused, if_pos again]
          · rw [if_neg again] at ran
            cases ran
            refine single _ rfl ?_ (fun refusal => absurd refusal again) rfl
            rw [verdict, refused, if_neg again]

/-- A run calls its provider in each attempt, but for a last one that fails earlier. -/
theorem attempted_ledger {start : World} (count : Nat) (before after : World)
    (outcomes : List (Except Error UnlockResponse)) (ledger : Ledger start count before)
    (retried : ∀ earlier ∈ outcomes.dropLast, refused earlier = true)
    (chain : Attempted host onProgress cancellation provider request parsed payloadKind
      recoveredFilePath metadata (count + 1) before outcomes after) :
    ∃ total, Ledger start total after ∧ count + outcomes.length ≤ total + 1 ∧
      total ≤ count + outcomes.length := by
  induction outcomes generalizing count before with
  | nil =>
      cases chain
      exact ⟨count, ledger, Nat.le_succ count, Nat.le_refl count⟩
  | cons outcome later ih =>
      cases chain with
      | more ran rest =>
          rename_i between
          have flag : decide (1 < count + 1) = decide (0 < count) := by simp
          rw [flag] at ran
          have spent := attemptOnce_spends host onProgress cancellation provider request parsed
            payloadKind recoveredFilePath metadata count before ledger
          rw [ran] at spent
          -- The attempt called the provider, or it failed before and is the last.
          rcases spent with called | ⟨unasked, reason, failed, harmless⟩
          · have retried' : ∀ earlier ∈ later.dropLast, refused earlier = true := by
              intro earlier member
              cases later with
              | nil => cases member
              | cons next others => exact retried earlier (by simp [member])
            obtain ⟨total, ledger', least, most⟩ := ih (count + 1) between called retried' rest
            refine ⟨total, ledger', ?_, ?_⟩ <;> rw [List.length_cons] <;> omega
          · -- Nobody was asked, so this was no refusal, and no attempt follows it.
            cases later with
            | nil =>
                cases rest
                exact ⟨count, unasked, Nat.le_refl _, by simp⟩
            | cons next others =>
                have refusal := retried outcome (by simp)
                cases failed
                rw [refused, harmless] at refusal
                cases refusal

end Attempts

def Stops (host : Host) (cancellation : Option CancellationToken) (reason : Error) : Prop :=
  (reason = .cancelled ∧ ¬ NeverCancelled cancellation) ∨
    ∃ kind, reason = .io kind ∧ ¬ host.Healthy

theorem stops_harmless (host : Host) (cancellation : Option CancellationToken) (reason : Error)
    (stops : Stops host cancellation reason) : Harmless reason := by
  rcases stops with ⟨rfl, _⟩ | ⟨kind, rfl, _⟩ <;> rfl

theorem stops_never (host : Host) (cancellation : Option CancellationToken) (reason : Error)
    (healthy : host.Healthy) (never : NeverCancelled cancellation) :
    ¬ Stops host cancellation reason := by
  rintro (⟨_, may⟩ | ⟨_, _, sick⟩)
  · exact may never
  · exact sick healthy

theorem ensureNotCancelled_stops (host : Host) (cancellation : Option CancellationToken) :
    Run.FailsOnly (Stops host cancellation) (ensureNotCancelled cancellation) := by
  intro world reason after failed
  rcases PuzzleService.ensureNotCancelled_yields cancellation world with
    ⟨_, alive, _⟩ | ⟨may, _, stopped, _⟩
  · rw [alive] at failed
    cases failed
  · rw [stopped] at failed
    cases failed
    exact .inl ⟨rfl, may⟩

theorem call_stops (host : Host) (cancellation : Option CancellationToken) :
    Run.FailsOnly (Stops host cancellation) (call host) := by
  intro world reason after failed
  unfold call at failed
  dsimp only at failed
  split at failed
  · rename_i kind fault
    cases failed
    refine .inr ⟨kind, rfl, fun healthy => ?_⟩
    rw [healthy] at fault
    cases fault
  · cases failed

section Execute
variable (host : Host) (onProgress : Bool) (cancellation : Option CancellationToken)
  (provider : Option PasswordProvider) (request : UnlockRequest)

def SameTree (before after : World) : Prop := after.tree = before.tree

theorem steady_sameTree : Steady SameTree where
  refl _ := rfl
  trans _ _ _ first second := second.trans first
  poll _ := rfl
  call _ := rfl
  random _ := rfl
  sealed _ _ _ _ _ := rfl
  sink _ _ := rfl

theorem readFile_tree (path : Path) : Run.Keeps SameTree (readFile host path) :=
  readFile_steady steady_sameTree host path

/-- Before its first attempt a run reads the artifact and chooses the path. -/
theorem execute_opens (bytes : Bytes) (parsed : StoredTimelockedArtifact)
    (metadata : PasswordProtectionMetadata) (before after : World)
    (outcome : Except Error UnlockResponse)
    (there : before.tree.readFile host.cwd request.input = .ok bytes)
    (read : readTimelockedArtifactBytes host.crates bytes = .ok parsed)
    (protected_ : parsed.superblock.passwordProtection = some metadata)
    (ran : executeWithCancelAndPasswordProvider host onProgress cancellation provider request
      before = (outcome, after)) :
    ∃ opened, Logged Unprompted before opened ∧ opened.tree = before.tree ∧
      ((after = opened ∧ ∃ reason, outcome = .error reason ∧ (Stops host cancellation reason ∨
          chooseRecoveredFilePath (before.tree.pathExists host.cwd) request parsed.payloadKind =
            .error reason)) ∨
        ∃ recoveredFilePath,
          chooseRecoveredFilePath (before.tree.pathExists host.cwd) request parsed.payloadKind =
            .ok recoveredFilePath ∧
          attempts host onProgress cancellation provider request parsed parsed.payloadKind
            recoveredFilePath metadata maxPasswordAttempts 1 false (zeroizeMask opened) =
              (outcome, after)) := by
  have polls := ensureNotCancelled_steady steady_plain cancellation
  have reads := readFile_steady steady_plain host request.input
  unfold executeWithCancelAndPasswordProvider at ran
  rcases polled : ensureNotCancelled cancellation before with ⟨reason | _, w₁⟩
  · rw [Run.bind_of_error polled] at ran
    obtain ⟨rfl, rfl⟩ := Prod.mk.inj ran
    exact ⟨_, (Run.keeps_outcome polls polled).1,
      (Run.keeps_outcome (ensureNotCancelled_quiet cancellation) polled).tree,
      .inl ⟨rfl, reason, rfl, .inl (ensureNotCancelled_stops host cancellation _ _ _ polled)⟩⟩
  · have plain₁ := (Run.keeps_outcome polls polled).1
    have tree₁ := (Run.keeps_outcome (ensureNotCancelled_quiet cancellation) polled).tree
    rw [Run.bind_of_ok polled] at ran
    rcases fetched : readFile host request.input w₁ with ⟨reason | bytes', w₂⟩
    · have plain₂ := (Run.keeps_outcome reads fetched).1
      have parsing : parseContainer host request.input w₁ = (.error reason, w₂) :=
        Run.bind_of_error fetched _
      rw [Run.bind_of_error parsing] at ran
      obtain ⟨rfl, rfl⟩ := Prod.mk.inj ran
      refine ⟨_, logged_trans _ _ _ _ plain₁ plain₂,
        (Run.keeps_outcome (readFile_tree host request.input) fetched).trans tree₁,
        .inl ⟨rfl, reason, rfl, .inl ?_⟩⟩
      -- The file is there, so only the call itself can have failed.
      rcases (Run.bind_eq_error _ _ _ _ _).mp fetched with failed | ⟨_, called, success, looked⟩
      · exact call_stops host cancellation _ _ _ failed
      · have quiet := Run.keeps_outcome (call_quiet host) success
        rw [Run.read_bind, quiet.tree, tree₁, there] at looked
        cases looked
    · have plain₂ := (Run.keeps_outcome reads fetched).1
      obtain ⟨there', quiet₂⟩ := readFile_eq_ok host request.input bytes' w₁ w₂ fetched
      rw [tree₁, there] at there'
      obtain rfl := Except.ok.inj there'
      have parsing : parseContainer host request.input w₁ = (.ok parsed, w₂) :=
        (Run.bind_of_ok fetched _).trans (by rw [read]; rfl)
      have tree₂ := quiet₂.tree.trans tree₁
      rw [Run.bind_of_ok parsing, Run.read_bind, tree₂] at ran
      refine ⟨w₂, logged_trans _ _ _ _ plain₁ plain₂, tree₂, ?_⟩
      cases chosen : chooseRecoveredFilePath (before.tree.pathExists host.cwd) request
          parsed.payloadKind with
      | error reason =>
          rw [chosen] at ran
          obtain ⟨rfl, rfl⟩ := Prod.mk.inj ran
          exact .inl ⟨rfl, reason, rfl, .inr rfl⟩
      | ok recoveredFilePath =>
          rw [Run.lift_bind_of_ok chosen, protected_] at ran
          exact .inr ⟨recoveredFilePath, rfl, ran⟩

theorem mem_dropLast {α : Type} (list : List α) (index : Nat) (value : α)
    (found : list[index]? = some value) (earlier : index + 1 < list.length) :
    value ∈ list.dropLast := by
  obtain ⟨inside, rfl⟩ := List.getElem?_eq_some_iff.mp found
  rw [List.mem_iff_getElem]
  exact ⟨index, by rw [List.length_dropLast]; omega, List.getElem_dropLast _⟩

variable (parsed : StoredTimelockedArtifact) (metadata : PasswordProtectionMetadata)

/-- What happened in a run: its new history, the number of calls of its provider,
and what its attempts ended in. -/
structure Transcript (before after : World) (outcome : Except Error UnlockResponse)
    (new : History) (count : Nat) (outcomes : List (Except Error UnlockResponse)) : Prop where
  history : after.history = new ++ before.history
  solvedOnce : solutions new ≤ 1
  solvedFirst : SolvedFirst new
  called : calls new = firstCalls count
  few : count ≤ 3
  attempted : ∃ recoveredFilePath start stop, Logged Unprompted before start ∧
    start.tree = before.tree ∧ start.cachedTimelockMask = none ∧ after.tree = stop.tree ∧
    after.history = stop.history ∧
    Attempted host onProgress cancellation provider request parsed parsed.payloadKind
      recoveredFilePath metadata 1 start outcomes stop
  least : count ≤ outcomes.length
  most : outcomes.length ≤ count + 1
  again : ∀ k, 0 < k → k + 1 ≤ count → ∃ reason, outcomes[k - 1]? = some (.error reason) ∧
    isPayloadAuthenticationError reason = true
  atOnce : ∀ k last, outcomes[k]? = some last → refused last = false →
    outcomes.length = k + 1 ∧ outcome = last

theorem decided_again (outcomes : List (Except Error UnlockResponse))
    (outcome : Except Error UnlockResponse) (decided : Decided 1 outcomes outcome) (k : Nat)
    (positive : 0 < k) (more : k + 1 ≤ outcomes.length) :
    ∃ reason, outcomes[k - 1]? = some (.error reason) ∧
      isPayloadAuthenticationError reason = true := by
  have found : outcomes[k - 1]? = some outcomes[k - 1] := List.getElem?_eq_getElem (by omega)
  have refusal := decided.retried _ (mem_dropLast outcomes (k - 1) _ found (by omega))
  cases ended : outcomes[k - 1] with
  | ok response =>
      rw [ended] at refusal
      cases refusal
  | error reason =>
      rw [ended] at refusal found
      exact ⟨reason, found, refusal⟩

theorem decided_atOnce (outcomes : List (Except Error UnlockResponse))
    (outcome : Except Error UnlockResponse) (decided : Decided 1 outcomes outcome) (k : Nat)
    (last : Except Error UnlockResponse) (found : outcomes[k]? = some last)
    (settled : refused last = false) : outcomes.length = k + 1 ∧ outcome = last := by
  have inside := (List.getElem?_eq_some_iff.mp found).1
  have ends : outcomes.length = k + 1 := by
    by_contra later
    have refusal := decided.retried last (mem_dropLast outcomes k last found (by omega))
    rw [settled] at refusal
    cases refusal
  obtain ⟨last', atEnd, decides, _⟩ := decided.decided
  rw [List.getLast?_eq_getElem?, ends, Nat.add_sub_cancel, found] at atEnd
  obtain rfl := Option.some.inj atEnd
  refine ⟨ends, ?_⟩
  rw [decides, verdict, settled]
  rfl

theorem execute_transcript (bytes : Bytes) (before after : World)
    (outcome : Except Error UnlockResponse)
    (there : before.tree.readFile host.cwd request.input = .ok bytes)
    (read : readTimelockedArtifactBytes host.crates bytes = .ok parsed)
    (protected_ : parsed.superblock.passwordProtection = some metadata)
    (ran : executeWithCancelAndPasswordProvider host onProgress cancellation provider request
      before = (outcome, after)) :
    ∃ new count outcomes, Transcript host onProgress cancellation provider request parsed metadata
      before after outcome new count outcomes := by
  obtain ⟨opened, logged, same, ended | ⟨recoveredFilePath, _, attempting⟩⟩ :=
    execute_opens host onProgress cancellation provider request bytes parsed metadata before after
      outcome there read protected_ ran
  · -- The run stopped before its first attempt.
    obtain ⟨rfl, _⟩ := ended
    have opened' : Ledger before 0 (zeroizeMask after) := ledger_opened logged rfl
    obtain ⟨new, history, called, first, solved⟩ := opened'
    exact ⟨new, 0, [], {
      history := history
      solvedOnce := by rw [solved]; exact Nat.zero_le 1
      solvedFirst := first
      called := called
      few := Nat.zero_le 3
      attempted := ⟨none, zeroizeMask after, zeroizeMask after, logged, same, rfl, rfl, rfl, .none⟩
      least := Nat.le_refl 0
      most := Nat.zero_le 1
      again := fun k _ impossible => by omega
      atOnce := fun k last found => by simp at found }⟩
  · have opened' : Ledger before 0 (zeroizeMask opened) := ledger_opened logged rfl
    obtain ⟨outcomes, stop, chain, decided, rfl⟩ := attempts_decided host onProgress cancellation
      provider request parsed parsed.payloadKind recoveredFilePath metadata maxPasswordAttempts 1
      (zeroizeMask opened) after outcome Nat.one_pos (by decide) rfl attempting
    obtain ⟨count, ledger, least, most⟩ := attempted_ledger host onProgress cancellation provider
      request parsed parsed.payloadKind recoveredFilePath metadata 0 _ stop outcomes opened'
      decided.retried chain
    obtain ⟨new, history, called, first, solved⟩ := ledger
    have few : 1 + outcomes.length ≤ 4 := decided.few
    exact ⟨new, count, outcomes, {
      history := history
      solvedOnce := by rw [solved]; split <;> omega
      solvedFirst := first
      called := called
      few := by omega
      attempted := ⟨recoveredFilePath, zeroizeMask opened, stop, logged, same, rfl, rfl, rfl, chain⟩
      least := by omega
      most := by omega
      again := fun k positive more =>
        decided_again outcomes outcome decided k positive (by omega)
      atOnce := decided_atOnce outcomes outcome decided }⟩

end Execute

end PasswordAttempts
