import Timelocked.PasswordAttempts
import Timelocked.RoundTrip

/-!
Two unlock runs of one artifact side by side. A passphrase leads to the same
outcome whether it is the first answer or a later one: the attempts before it
leave the tree as one call of `create_dir_all` would, and the puzzle solution they
keep is the one the first attempt finds. Only the surroundings may stop one of
the two runs, by a cancellation or a failing disk.
-/
namespace PasswordRuns
open ByteCodec RunRules Base PathText FileTree PasswordProtection Superblock ArtifactReader
  ProtectedStream Recovery ArtifactWriter Unlock UnlockEffects PasswordAttempts LockedArtifact
  RoundTrip

def Keeping (mask : Block 32) (world : World) : Prop :=
  ∀ kept ∈ world.cachedTimelockMask, kept = mask

/-- An attempt that nothing was kept for. -/
theorem keeping_zeroized (mask : Block 32) (world : World) : Keeping mask (zeroizeMask world) := by
  intro kept given
  cases given

/-- Nothing that a later step of a run looks at has changed. -/
structure Unchanged (mask : Block 32) (before after : World) : Prop where
  tree : after.tree = before.tree
  sink : after.sink = before.sink
  keeping : Keeping mask before → Keeping mask after

theorem unchanged_trans (mask : Block 32) (a b c : World) (first : Unchanged mask a b)
    (second : Unchanged mask b c) : Unchanged mask a c :=
  ⟨second.tree.trans first.tree, second.sink.trans first.sink,
    fun keeping => second.keeping (first.keeping keeping)⟩

theorem unchanged_event (mask : Block 32) (event : Event) : Passes (Unchanged mask) event :=
  fun _ => ⟨rfl, rfl, id⟩

theorem watches_unchanged (mask : Block 32) : Watches (Unchanged mask) where
  refl _ := ⟨rfl, rfl, id⟩
  trans := unchanged_trans mask
  poll := unchanged_event mask _
  hears _ _ _ := unchanged_event mask _

def Incidental {α : Type} (mask : Block 32) (stops : Error → Prop) (run : Op α)
    (outcome : Except Error α) : Prop :=
  ∀ world, Keeping mask world → ∃ after, Unchanged mask world after ∧
    (run world = (outcome, after) ∨ ∃ reason, run world = (.error reason, after) ∧ stops reason)

section Incidental
variable {α β : Type} {mask : Block 32} {stops : Error → Prop}

theorem incidental_bind {first : Op α} {next : α → Op β} {value : α} {outcome : Except Error β}
    (firstEnds : Incidental mask stops first (.ok value))
    (nextEnds : Incidental mask stops (next value) outcome) :
    Incidental mask stops (first >>= next) outcome := by
  intro world keeping
  obtain ⟨between, unchanged, ran | ⟨reason, failed, stop⟩⟩ := firstEnds world keeping
  · rw [Run.bind_of_ok ran]
    obtain ⟨after, unchanged', ends⟩ := nextEnds between (unchanged.keeping keeping)
    exact ⟨after, unchanged_trans mask _ _ _ unchanged unchanged', ends⟩
  · rw [Run.bind_of_error failed]
    exact ⟨between, unchanged, .inr ⟨reason, rfl, stop⟩⟩

end Incidental

section Steps
variable (host : Host) (cancellation : Option CancellationToken) (onProgress : Bool)
  (mask : Block 32)

theorem ensureNotCancelled_incidental :
    Incidental mask (Stops host cancellation) (ensureNotCancelled cancellation) (.ok ()) := by
  intro world _
  have unchanged := ensureNotCancelled_keeps (watches_unchanged mask).refl
    (watches_unchanged mask).poll cancellation world
  rcases PuzzleService.ensureNotCancelled_yields cancellation world with
    ⟨after, alive, _⟩ | ⟨may, after, stopped, _⟩
  · rw [alive] at unchanged
    exact ⟨after, unchanged, .inl alive⟩
  · rw [stopped] at unchanged
    exact ⟨after, unchanged, .inr ⟨.cancelled, stopped, .inl ⟨rfl, may⟩⟩⟩

theorem call_incidental : Incidental mask (Stops host cancellation) (call host) (.ok ()) := by
  intro world _
  refine ⟨world.called, ⟨rfl, rfl, id⟩, ?_⟩
  cases fault : host.fault world.history with
  | none => exact .inl (by simp [call, World.called, fault])
  | some kind =>
      refine .inr ⟨.io kind, by simp [call, World.called, fault],
        .inr ⟨kind, rfl, fun healthy => ?_⟩⟩
      rw [healthy] at fault
      cases fault

theorem emitProgress_incidental (phase : String) (current total : Nat) :
    Incidental mask (Stops host cancellation) (emitProgress onProgress phase current total)
      (.ok ()) := by
  intro world _
  cases onProgress with
  | false => exact ⟨world, ⟨rfl, rfl, id⟩, .inl rfl⟩
  | true =>
      exact ⟨{ world with history := .progress phase current total :: world.history },
        ⟨rfl, rfl, id⟩, .inl rfl⟩

def inOrder (answers : Nat → Except Error String) : PasswordProvider :=
  fun _ context => answers context.attempt

section Key
variable (parsed : StoredTimelockedArtifact) (solution : mask = solvedMask host parsed)
include solution

/-- The solution is found, or it is the one that was kept. -/
theorem cachedTimelockMask_incidental :
    Incidental mask (Stops host cancellation)
      (cachedTimelockMask host onProgress cancellation (keyRequest parsed)) (.ok mask) := by
  intro world keeping
  unfold cachedTimelockMask
  rw [Run.read_bind]
  cases kept : world.cachedTimelockMask with
  | some known =>
      obtain rfl := keeping known kept
      exact ⟨world, (watches_unchanged known).refl world, .inl rfl⟩
  | none =>
      dsimp only
      have unchanged := PuzzleService.solvePuzzleMaskWithCancel_keeps (watches_unchanged mask)
        onProgress cancellation (puzzleOf (keyRequest parsed)) (unchanged_event mask _)
        host.crates world
      have yields := PuzzleService.solvePuzzleMaskWithCancel_yields cancellation host.crates
        onProgress (puzzleOf (keyRequest parsed)) mask solution world
      rcases yields with ⟨after, solved, _⟩ | ⟨may, after, stopped, _⟩
      · rw [solved] at unchanged
        rw [Run.bind_of_ok solved]
        refine ⟨{ after with cachedTimelockMask := some mask },
          ⟨unchanged.tree, unchanged.sink, fun _ known same => ?_⟩, .inl rfl⟩
        exact (Option.some.inj same).symm
      · rw [stopped] at unchanged
        rw [Run.bind_of_error stopped]
        exact ⟨after, unchanged, .inr ⟨.cancelled, rfl, .inl ⟨rfl, may⟩⟩⟩

/-- The key that one answer of the provider leads to. -/
theorem recoverPasswordProtectedFileKey_incidental (answers : Nat → Except Error String)
    (metadata : PasswordProtectionMetadata) (context : PasswordPromptContext) :
    Incidental mask (Stops host cancellation)
      (recoverPasswordProtectedFileKey host onProgress cancellation
        (some (inOrder answers)) metadata context (keyRequest parsed))
      (answers context.attempt >>= fun passphrase =>
        unwrapFileKeyWithPassword host.crates parsed.superblock.timelockMaterial.wrappedKey mask
          passphrase metadata.params) := by
  apply incidental_bind
    (cachedTimelockMask_incidental host cancellation onProgress mask parsed solution)
  intro world _
  refine ⟨{ world with
    history := .prompt context.attempt context.previousAttemptFailed :: world.history },
    ⟨rfl, rfl, id⟩, .inl ?_⟩
  have asked := promptPassphrase_apply (inOrder answers) context world
  cases reply : answers context.attempt with
  | ok passphrase =>
      rw [inOrder, reply] at asked
      exact Run.bind_of_ok asked _
  | error reason =>
      rw [inOrder, reply] at asked
      exact Run.bind_of_error asked _

end Key

end Steps

/-! Two worlds that later steps cannot tell apart. -/

/-- The trees are the same, and whatever is kept of the puzzle is its solution. -/
structure Alike (mask : Block 32) (world world' : World) : Prop where
  tree : world.tree = world'.tree
  keeps : Keeping mask world
  keeps' : Keeping mask world'

structure AlikeSinks (mask : Block 32) (world world' : World) : Prop
    extends Alike mask world world' where
  sink : world.sink = world'.sink

theorem alike_unchanged {mask : Block 32} {world world' after after' : World}
    (alike : Alike mask world world') (unchanged : Unchanged mask world after)
    (unchanged' : Unchanged mask world' after') : Alike mask after after' :=
  ⟨by rw [unchanged.tree, alike.tree, unchanged'.tree], unchanged.keeping alike.keeps,
    unchanged'.keeping alike.keeps'⟩

theorem alikeSinks_unchanged {mask : Block 32} {world world' after after' : World}
    (alike : AlikeSinks mask world world') (unchanged : Unchanged mask world after)
    (unchanged' : Unchanged mask world' after') : AlikeSinks mask after after' :=
  ⟨alike_unchanged alike.toAlike unchanged unchanged',
    by rw [unchanged.sink, alike.sink, unchanged'.sink]⟩

/-- What may differ between two runs on disks with the same tree. -/
structure Surroundings where
  fault : History → Option IoErrorKind
  random : History → (width : Nat) → Block width
  cancellation : Option CancellationToken
  onProgress : Bool

abbrev Surroundings.host (around : Surroundings) (crates : Crates) (cwd : Location) : Host :=
  ⟨crates, cwd, around.fault, around.random⟩

section Pair
variable (crates : Crates) (cwd : Location) (mask : Block 32) (around around' : Surroundings)

abbrev Pair {α : Type} (before after : World → World → Prop) (run run' : Op α) : Prop :=
  Run.Matches (Stops (around.host crates cwd) around.cancellation)
    (Stops (around'.host crates cwd) around'.cancellation) (Alike mask) before after run run'

theorem incidental_pair {α : Type} {related : World → World → Prop}
    (alike : ∀ world world', related world world' → Alike mask world world')
    (unchanged : ∀ {world world' after after'}, related world world' →
      Unchanged mask world after → Unchanged mask world' after' → related after after')
    {run run' : Op α} (outcome : Except Error α)
    (left : Incidental mask (Stops (around.host crates cwd) around.cancellation) run outcome)
    (right : Incidental mask (Stops (around'.host crates cwd) around'.cancellation) run' outcome) :
    Pair crates cwd mask around around' related related run run' := by
  intro world world' start
  obtain ⟨after, same, ran | ⟨reason, failed, stop⟩⟩ := left world (alike _ _ start).keeps
  · obtain ⟨after', same', ran' | ⟨reason, failed, stop⟩⟩ := right world' (alike _ _ start).keeps'
    · rw [ran, ran']
      have ends := unchanged start same same'
      cases outcome with
      | ok value => exact .ok ends
      | error reason => exact .error (alike _ _ ends)
    · rw [failed]
      exact .right stop
  · rw [failed]
    exact .left stop

theorem sinks_pair {α : Type} {run run' : Op α} (outcome : Except Error α)
    (left : Incidental mask (Stops (around.host crates cwd) around.cancellation) run outcome)
    (right : Incidental mask (Stops (around'.host crates cwd) around'.cancellation) run' outcome) :
    Pair crates cwd mask around around' (AlikeSinks mask) (AlikeSinks mask) run run' :=
  incidental_pair crates cwd mask around around' (fun _ _ same => same.toAlike)
    alikeSinks_unchanged outcome left right

theorem call_pair :
    Pair crates cwd mask around around' (AlikeSinks mask) (AlikeSinks mask)
      (call (around.host crates cwd)) (call (around'.host crates cwd)) :=
  sinks_pair crates cwd mask around around' (.ok ()) (call_incidental _ _ _)
    (call_incidental _ _ _)

theorem ensureNotCancelled_pair :
    Pair crates cwd mask around around' (AlikeSinks mask) (AlikeSinks mask)
      (ensureNotCancelled around.cancellation) (ensureNotCancelled around'.cancellation) :=
  sinks_pair crates cwd mask around around' (.ok ()) (ensureNotCancelled_incidental _ _ _)
    (ensureNotCancelled_incidental _ _ _)

theorem writeAll_pair (writer : Writer) (bytes : Bytes) :
    Pair crates cwd mask around around' (AlikeSinks mask) (AlikeSinks mask)
      (writeAll (around.host crates cwd) writer bytes)
      (writeAll (around'.host crates cwd) writer bytes) := by
  have appended : Pair crates cwd mask around around' (AlikeSinks mask) (AlikeSinks mask)
      (append bytes) (append bytes) :=
    fun _ _ alike =>
      .ok ⟨⟨alike.tree, alike.keeps, alike.keeps'⟩, congrArg (· ++ bytes) alike.sink⟩
  cases writer with
  | memory => exact appended
  | tempFile => exact Run.matches_bind (call_pair crates cwd mask around around') fun _ => appended

/-- A look at the tree sees the same on both sides. -/
theorem look_pair {α : Type} (look : Tree → Except Error α) :
    Pair crates cwd mask around around' (AlikeSinks mask) (AlikeSinks mask)
      (Run.read World.tree >>= fun tree => Run.lift (look tree))
      (Run.read World.tree >>= fun tree => Run.lift (look tree)) := by
  intro world world' alike
  rw [Run.read_bind, Run.read_bind, alike.tree]
  exact Run.matches_lift (fun _ _ same => same.toAlike) (look world'.tree) world world' alike

theorem readPayloadRegionBytes_pair (path : Path) (parsed : StoredTimelockedArtifact) :
    Pair crates cwd mask around around' (AlikeSinks mask) (AlikeSinks mask)
      (readPayloadRegionBytes (around.host crates cwd) path parsed)
      (readPayloadRegionBytes (around'.host crates cwd) path parsed) := by
  refine Run.matches_bind (?_ : Pair crates cwd mask around around' (AlikeSinks mask)
    (AlikeSinks mask) _ _) fun bytes => Run.matches_lift (fun _ _ same => same.toAlike) _
  refine Run.matches_bind (call_pair crates cwd mask around around') fun _ => ?_
  exact look_pair crates cwd mask around around' fun tree => (tree.readFile cwd path).mapError .io

section Decrypt
variable (writer : Writer) (keyBytes digest : Block 32) (chunkSize : UInt32)
  (expectedPlaintext : Nat)

/-- Round by round, both loops read, open and write the same. -/
theorem decryptLoop_pair (budget index written : Nat) (input : Bytes) :
    Pair crates cwd mask around around' (AlikeSinks mask) (AlikeSinks mask)
      (decryptLoop (around.host crates cwd) writer keyBytes digest chunkSize expectedPlaintext
        around.onProgress around.cancellation budget index written input)
      (decryptLoop (around'.host crates cwd) writer keyBytes digest chunkSize expectedPlaintext
        around'.onProgress around'.cancellation budget index written input) := by
  have weaken : ∀ world world', AlikeSinks mask world world' → Alike mask world world' :=
    fun _ _ same => same.toAlike
  -- Induction on the budget; only polls, writes and reports see the surroundings.
  induction budget generalizing index written input with
  | zero => exact Run.matches_fail weaken eof
  | succ budget ih =>
      refine Run.matches_bind (ensureNotCancelled_pair crates cwd mask around around') fun _ => ?_
      refine Run.matches_bind (Run.matches_lift weaken _) fun read => ?_
      match read with
      | none =>
          dsimp only
          split
          · exact Run.matches_fail weaken _
          · exact Run.matches_pure weaken _
      | some (frame, ciphertext, rest) =>
          dsimp only
          refine Run.matches_bind (Run.matches_lift weaken _) fun _ => ?_
          refine Run.matches_bind (Run.matches_lift weaken _) fun plaintext => ?_
          refine Run.matches_bind (writeAll_pair crates cwd mask around around' writer plaintext)
            fun _ => ?_
          refine Run.matches_bind (sinks_pair crates cwd mask around around' (.ok ())
            (emitProgress_incidental _ _ _ _ _ _ _) (emitProgress_incidental _ _ _ _ _ _ _))
            fun _ => ?_
          split
          · exact Run.matches_pure weaken _
          · exact ih _ _ _

end Decrypt

theorem decryptRecovered_pair (parsed : StoredTimelockedArtifact) (writer : Writer)
    (keyBytes : Block 32) (protectedStream : Bytes) :
    Pair crates cwd mask around around' (AlikeSinks mask) (AlikeSinks mask)
      (decryptRecovered (around.host crates cwd) parsed writer keyBytes around.onProgress
        around.cancellation protectedStream)
      (decryptRecovered (around'.host crates cwd) parsed writer keyBytes around'.onProgress
        around'.cancellation protectedStream) := by
  have weaken : ∀ world world', AlikeSinks mask world world' → Alike mask world world' :=
    fun _ _ same => same.toAlike
  refine Run.matches_bind (Run.matches_lift weaken _) fun digest => ?_
  refine Run.matches_bind (ensureNotCancelled_pair crates cwd mask around around') fun _ => ?_
  refine Run.matches_bind (decryptLoop_pair crates cwd mask around around' writer keyBytes digest _ _
    _ _ _ _) fun stop => ?_
  refine Run.matches_bind (Run.matches_lift weaken _) fun _ => ?_
  exact Run.matches_bind (Run.matches_lift weaken _) fun _ => Run.matches_pure weaken _

theorem recoverPayloadToWriterWithCancel_pair (path : Path) (parsed : StoredTimelockedArtifact)
    (writer : Writer) (recoverFileKey recoverFileKey' : RecoverFileKeyFn)
    (outcome : Except Error (Block 32))
    (key : Incidental mask (Stops (around.host crates cwd) around.cancellation)
      (recoverFileKey (keyRequest parsed)) outcome)
    (key' : Incidental mask (Stops (around'.host crates cwd) around'.cancellation)
      (recoverFileKey' (keyRequest parsed)) outcome) :
    Pair crates cwd mask around around' (AlikeSinks mask) (AlikeSinks mask)
      (recoverPayloadToWriterWithCancel (around.host crates cwd) path parsed writer recoverFileKey
        around.onProgress around.cancellation)
      (recoverPayloadToWriterWithCancel (around'.host crates cwd) path parsed writer
        recoverFileKey' around'.onProgress around'.cancellation) := by
  refine Run.matches_bind (sinks_pair crates cwd mask around around' outcome key key')
    fun keyBytes => ?_
  refine Run.matches_bind (readPayloadRegionBytes_pair crates cwd mask around around' path parsed)
    fun region => ?_
  refine Run.matches_bind (Run.matches_lift (fun _ _ same => same.toAlike) _) fun stream => ?_
  exact decryptRecovered_pair crates cwd mask around around' parsed writer keyBytes stream

def stagingDir (payloadKind : PayloadKind) (recoveredFilePath : Option Path) : Option Path :=
  match payloadKind with
  | .text => none
  | .file _ => recoveredFilePath.map fun path => (parent path).getD [['.']]

def Resumes (dir : Option Path) (tree start : Tree) : Prop :=
  tree = start ∨ ∃ path, dir = some path ∧
    Tree.createDirAll cwd ((components path).length + 1) path start = (.ok (), tree)

/-- Without a staging directory there is nothing to make. -/
theorem resumes_without (tree start : Tree) (resumes : Resumes cwd none tree start) :
    tree = start := by
  rcases resumes with same | ⟨_, nowhere, _⟩
  · exact same
  · cases nowhere

theorem createDirAll_ends (host : Host) (cancellation : Option CancellationToken) (path : Path)
    (world : World) :
    (∃ after, createDirAll host path world =
        ((Tree.createDirAll host.cwd ((components path).length + 1) path world.tree).1.mapError .io,
          { after with tree :=
            (Tree.createDirAll host.cwd ((components path).length + 1) path world.tree).2 }) ∧
        Unchanged mask world after) ∨
      ∃ reason after, createDirAll host path world = (.error reason, after) ∧
        Stops host cancellation reason := by
  cases fault : host.fault world.history with
  | none =>
      refine .inl ⟨world.called, ?_, ⟨rfl, rfl, id⟩⟩
      have called : call host world = (.ok (), world.called) := by
        simp [call, World.called, fault]
      exact Run.bind_of_ok called _
  | some kind =>
      refine .inr ⟨.io kind, world.called, ?_, .inr ⟨kind, rfl, fun healthy => ?_⟩⟩
      · have called : call host world = (.error (.io kind), world.called) := by
          simp [call, World.called, fault]
        exact Run.bind_of_error called _
      · rw [healthy] at fault
        cases fault

theorem createDirAll_eq_ok (host : Host) (path : Path) (before after : World)
    (made : createDirAll host path before = (.ok (), after)) :
    Tree.createDirAll host.cwd ((components path).length + 1) path before.tree =
      (.ok (), after.tree) := by
  obtain ⟨_, called, success, making⟩ := (Run.bind_eq_ok _ _ _ _ _).mp made
  have quiet := Run.keeps_outcome (call_quiet host) success
  dsimp only at making
  rw [quiet.tree] at making
  rcases outcome : Tree.createDirAll host.cwd ((components path).length + 1) path before.tree with
    ⟨kind | _, tree⟩
  · rw [outcome] at making
    cases making
  · rw [outcome] at making
    cases making
    rfl

/-- The directories are there in the end, whoever made them. -/
theorem createDirAll_pair (path : Path) :
    Pair crates cwd mask around around'
      (fun world world' => Resumes cwd (some path) world.tree world'.tree ∧ Keeping mask world ∧
        Keeping mask world')
      (Alike mask) (createDirAll (around.host crates cwd) path)
      (createDirAll (around'.host crates cwd) path) := by
  rintro world world' ⟨resumes, keeps, keeps'⟩
  rcases createDirAll_ends mask (around.host crates cwd) around.cancellation path world with
    ⟨after, ran, same⟩ | ⟨reason, after, failed, stop⟩
  · rcases createDirAll_ends mask (around'.host crates cwd) around'.cancellation path world' with
      ⟨after', ran', same'⟩ | ⟨reason, after', failed, stop⟩
    · rw [ran, ran']
      have ends : Tree.createDirAll cwd ((components path).length + 1) path world.tree =
          Tree.createDirAll cwd ((components path).length + 1) path world'.tree := by
        rcases resumes with alike | ⟨_, given, made⟩
        · rw [alike]
        · obtain rfl := Option.some.inj given
          rw [made, Tree.createDirAll_again cwd _ _ path world'.tree world.tree made]
      rw [ends]
      rcases made : Tree.createDirAll cwd ((components path).length + 1) path world'.tree with
        ⟨kind | _, tree⟩
      · exact .error ⟨rfl, same.keeping keeps, same'.keeping keeps'⟩
      · exact .ok ⟨rfl, same.keeping keeps, same'.keeping keeps'⟩
    · rw [failed]
      exact .right stop
  · rw [failed]
    exact .left stop

theorem newTempIn_pair (dir : Path) :
    Pair crates cwd mask around around' (Alike mask) (AlikeSinks mask)
      (newTempIn (around.host crates cwd) dir) (newTempIn (around'.host crates cwd) dir) := by
  refine Run.matches_bind (incidental_pair crates cwd mask around around' (fun _ _ same => same)
    alike_unchanged (.ok ()) (call_incidental _ _ _) (call_incidental _ _ _)) fun _ => ?_
  intro world world' alike
  rw [Run.read_bind, Run.read_bind, alike.tree]
  refine Run.matches_bind (Run.matches_lift (fun _ _ same => same) _) (fun _ => ?_) world world'
    alike
  exact fun _ _ same => .ok ⟨⟨same.tree, same.keeps, same.keeps'⟩, rfl⟩

theorem capture_pair {α : Type} {run run' : Op α}
    (inner : Pair crates cwd mask around around' (AlikeSinks mask) (AlikeSinks mask) run run') :
    Pair crates cwd mask around around' (Alike mask) (Alike mask) (capture run) (capture run') := by
  intro world world' alike
  have agreed := inner { world with sink := [] } { world' with sink := [] }
    ⟨⟨alike.tree, alike.keeps, alike.keeps'⟩, rfl⟩
  unfold capture
  rcases ran : run { world with sink := [] } with ⟨reason | value, after⟩
  · rcases ran' : run' { world' with sink := [] } with ⟨reason' | value', after'⟩
    · rw [ran, ran'] at agreed
      cases agreed with
      | error ends => exact .error ⟨ends.tree, ends.keeps, ends.keeps'⟩
      | left stop => exact .left stop
      | right stop => exact .right stop
    · rw [ran, ran'] at agreed
      cases agreed with
      | left stop => exact .left stop
  · rcases ran' : run' { world' with sink := [] } with ⟨reason' | value', after'⟩
    · rw [ran, ran'] at agreed
      cases agreed with
      | right stop => exact .right stop
    · rw [ran, ran'] at agreed
      cases agreed with
      | ok ends =>
          dsimp only
          rw [ends.sink]
          exact .ok ⟨ends.tree, ends.keeps, ends.keeps'⟩

theorem persist_pair (path : Path) (contents : Bytes) :
    Pair crates cwd mask around around' (AlikeSinks mask) (Alike mask)
      (persist (around.host crates cwd) path contents)
      (persist (around'.host crates cwd) path contents) := by
  refine Run.matches_bind (call_pair crates cwd mask around around') fun _ => ?_
  intro world world' alike
  dsimp only
  rw [alike.tree]
  cases world'.tree.persist cwd path contents with
  | ok tree => exact .ok ⟨rfl, alike.keeps, alike.keeps'⟩
  | error kind => exact .error alike.toAlike

/-- Attempts with keys of one outcome end alike. -/
theorem recoverPayloadOnce_pair (request : UnlockRequest) (parsed : StoredTimelockedArtifact)
    (payloadKind : PayloadKind) (recoveredFilePath : Option Path)
    (recoverFileKey recoverFileKey' : RecoverFileKeyFn) (outcome : Except Error (Block 32))
    (key : Incidental mask (Stops (around.host crates cwd) around.cancellation)
      (recoverFileKey (keyRequest parsed)) outcome)
    (key' : Incidental mask (Stops (around'.host crates cwd) around'.cancellation)
      (recoverFileKey' (keyRequest parsed)) outcome) :
    Pair crates cwd mask around around'
      (fun world world' => Resumes cwd (stagingDir payloadKind recoveredFilePath) world.tree
        world'.tree ∧ Keeping mask world ∧ Keeping mask world')
      (Alike mask)
      (recoverPayloadOnce (around.host crates cwd) around.onProgress around.cancellation request
        parsed payloadKind recoveredFilePath recoverFileKey)
      (recoverPayloadOnce (around'.host crates cwd) around'.onProgress around'.cancellation request
        parsed payloadKind recoveredFilePath recoverFileKey') := by
  have recovering := fun writer => recoverPayloadToWriterWithCancel_pair crates cwd mask around
    around' request.input parsed writer recoverFileKey recoverFileKey' outcome key key'
  unfold recoverPayloadOnce
  cases payloadKind with
  | text =>
      rintro world world' ⟨resumes, keeps, keeps'⟩
      have same := resumes_without cwd _ _ resumes
      refine Run.matches_bind (capture_pair crates cwd mask around around' (recovering .memory))
        ?_ world world' ⟨same, keeps, keeps'⟩
      rintro ⟨stats, textBytes⟩
      dsimp only
      split
      · exact Run.matches_fail (fun _ _ same => same) _
      · exact Run.matches_pure (fun _ _ same => same) _
  | file originalFilename =>
      cases recoveredFilePath with
      -- A file without a path fails before it touches anything.
      | none =>
          rintro world world' ⟨resumes, keeps, keeps'⟩
          have same := resumes_without cwd _ _ resumes
          exact .error ⟨same, keeps, keeps'⟩
      | some outputPath =>
          refine Run.matches_bind (createDirAll_pair crates cwd mask around around' _) fun _ => ?_
          refine Run.matches_bind (newTempIn_pair crates cwd mask around around' _) fun _ => ?_
          refine Run.matches_bind (recovering .tempFile) fun stats => ?_
          refine Run.matches_bind (call_pair crates cwd mask around around') fun _ => ?_
          refine Run.matches_bind (ensureNotCancelled_pair crates cwd mask around around')
            fun _ => ?_
          intro world world' alike
          rw [Run.read_bind, Run.read_bind, alike.sink]
          exact Run.matches_bind (persist_pair crates cwd mask around around' outputPath world'.sink)
            (fun _ => Run.matches_pure (fun _ _ same => same) _) world world' alike

end Pair

theorem attends_sameTree : Attends SameTree where
  toWatches := steady_sameTree.watches fun _ _ _ _ => rfl
  solved _ := rfl
  prompted _ _ _ := rfl
  cached _ _ := rfl

theorem hears_sameTree : Hears SameTree := fun _ _ _ _ => rfl

def StaysKeeping (mask : Block 32) (before after : World) : Prop :=
  Keeping mask before → Keeping mask after

theorem steady_staysKeeping (mask : Block 32) : Steady (StaysKeeping mask) where
  refl _ := id
  trans _ _ _ first second := second ∘ first
  poll _ := id
  call _ := id
  random _ := id
  sealed _ _ _ _ _ := id
  sink _ _ := id

section Refused
variable (host : Host) (onProgress : Bool) (cancellation : Option CancellationToken)
  (provider : Option PasswordProvider) (request : UnlockRequest)
  (parsed : StoredTimelockedArtifact) (payloadKind : PayloadKind)
  (recoveredFilePath : Option Path) (metadata : PasswordProtectionMetadata)

theorem recoverPasswordProtectedFileKey_keeping (context : PasswordPromptContext) :
    Run.Keeps (StaysKeeping (solvedMask host parsed))
      (recoverPasswordProtectedFileKey host onProgress cancellation provider metadata context
        (keyRequest parsed)) := by
  have steady := steady_staysKeeping (solvedMask host parsed)
  refine steady.bind ?_ fun mask => ?_
  · intro world keeping
    obtain ⟨after, unchanged, ran | ⟨reason, failed, _⟩⟩ :=
      cachedTimelockMask_incidental host cancellation onProgress _ parsed rfl world keeping
    · rw [ran]
      exact unchanged.keeping keeping
    · rw [failed]
      exact unchanged.keeping keeping
  · refine steady.bind ?_ fun passphrase => steady.lift _
    cases provider with
    | none => exact steady.fail _
    | some answer => exact fun _ keeping => keeping

theorem attemptOnce_keeping (attempt : Nat) (previousAttemptFailed : Bool) (before after : World)
    (reason : Error) (keeping : Keeping (solvedMask host parsed) before)
    (failed : attemptOnce host onProgress cancellation provider request parsed payloadKind
      recoveredFilePath metadata attempt previousAttemptFailed before = (.error reason, after)) :
    Keeping (solvedMask host parsed) after :=
  recoverPayloadOnce_fails host onProgress cancellation request parsed recoveredFilePath _
    (steady_staysKeeping (solvedMask host parsed)) (fun _ _ _ keeping => keeping)
    (fun _ _ _ _ keeping => keeping)
    (recoverPasswordProtectedFileKey_keeping host onProgress cancellation provider parsed metadata _)
    payloadKind before reason after failed keeping

/-- Its directories are made, its temporary file is gone, and nothing else happened. -/
theorem attemptOnce_resumes (attempt : Nat) (previousAttemptFailed : Bool) (before after : World)
    (reason : Error) (refusal : isPayloadAuthenticationError reason = true) (start : Tree)
    (resumes : Resumes host.cwd (stagingDir payloadKind recoveredFilePath) before.tree start)
    (failed : attemptOnce host onProgress cancellation provider request parsed payloadKind
      recoveredFilePath metadata attempt previousAttemptFailed before = (.error reason, after)) :
    Resumes host.cwd (stagingDir payloadKind recoveredFilePath) after.tree start := by
  have steady := steady_sameTree
  have recovering := fun writer => recoverPayloadToWriterWithCancel_steady steady hears_sameTree host
    request.input parsed cancellation writer _
    (recoverPasswordProtectedFileKey_keeps attends_sameTree host onProgress cancellation provider
      metadata ⟨request.input, attempt, maxPasswordAttempts, previousAttemptFailed⟩
      (keyRequest parsed)) onProgress
  unfold attemptOnce recoverPayloadOnce at failed
  cases payloadKind with
  | text =>
      have same : SameTree before after := by
        refine Run.keeps_outcome (steady.bind (capture_steady steady (recovering .memory)) ?_) failed
        rintro ⟨stats, textBytes⟩
        dsimp only
        split
        · exact steady.fail _
        · exact steady.pure _
      rw [same]
      exact resumes
  | file originalFilename =>
      cases recoveredFilePath with
      | none =>
          cases failed
          exact resumes
      | some outputPath =>
          rcases (Run.bind_eq_error _ _ _ _ _).mp failed with early | ⟨_, between, made, later⟩
          · have harmless := createDirAll_harmless host _ _ _ _ early
            rw [harmless] at refusal
            cases refusal
          · -- A refusal comes before the rename, so behind the directories no file was added.
            have same : SameTree between after := by
              refine Run.fails_outcome later ?_
              refine Run.fails_bind steady.trans (newTempIn_steady steady host _) fun _ => ?_
              refine Run.fails_bind steady.trans (recovering .tempFile) fun _ => ?_
              refine Run.fails_bind steady.trans (call_steady steady host) fun _ => ?_
              refine Run.fails_bind steady.trans (ensureNotCancelled_steady steady cancellation)
                fun _ => ?_
              refine Run.fails_bind steady.trans (steady.read World.sink) fun contents => ?_
              exact Run.fails_bind_pure _ (persist_fails steady host outputPath contents)
            rw [same]
            have ends := createDirAll_eq_ok host _ before between made
            -- An earlier attempt may have made the directories; making them again adds nothing.
            rcases resumes with alike | ⟨_, given, already⟩
            · rw [alike] at ends
              exact .inr ⟨_, rfl, ends⟩
            · obtain rfl := Option.some.inj given
              rw [Tree.createDirAll_again host.cwd _ _ _ start before.tree already] at ends
              rw [← (Prod.mk.inj ends).2]
              exact .inr ⟨_, rfl, already⟩

end Refused

/-- The passphrase leads to a key under which no chunk of the payload is refused
by a reader that nothing stops. -/
def Authenticates (crates : Crates) (parsed : StoredTimelockedArtifact) (artifact : Bytes)
    (passphrase : String) : Prop :=
  ∃ key region stream, artifactKey crates parsed.superblock passphrase = .ok key ∧
    payloadRegionOf parsed artifact = .ok region ∧
    PayloadRegion.reconstructPayloadRegion crates region parsed.superblock.protectedStreamLen
      (layoutOf parsed.superblock) = .ok stream ∧
    ∀ (reader : Host) (writer : Writer) (start after : World) (reason : Error),
      reader.crates = crates → reader.Healthy →
      decryptRecovered reader parsed writer key false none stream start = (.error reason, after) →
        isPayloadAuthenticationError reason = false

theorem ensureNotCancelled_harmless (cancellation : Option CancellationToken) :
    Run.FailsOnly Harmless (ensureNotCancelled cancellation) := by
  intro world reason after failed
  rcases PuzzleService.ensureNotCancelled_yields cancellation world with
    ⟨_, alive, _⟩ | ⟨_, _, stopped, _⟩
  · rw [alive] at failed
    cases failed
  · rw [stopped] at failed
    cases failed
    rfl

theorem persist_harmless (host : Host) (path : Path) (contents : Bytes) :
    Run.FailsOnly Harmless (persist host path contents) := by
  refine Run.failsOnly_bind (call_harmless host) fun _ => ?_
  intro world reason after failed
  dsimp only at failed
  split at failed
  · cases failed
  · cases failed
    rfl

structure Setting extends Surroundings where
  cwd : Location
  writer : Writer

abbrev Setting.reader (setting : Setting) (crates : Crates) : Host :=
  setting.host crates setting.cwd

abbrev Determined {α : Type} (crates : Crates) (runs : Setting → Op α) : Prop :=
  Run.Determined (fun setting => Stops (setting.reader crates) setting.cancellation) runs

section Determined
variable (crates : Crates)

theorem ensureNotCancelled_determined :
    Determined crates fun setting => ensureNotCancelled setting.cancellation :=
  Run.determined_unit fun setting => ensureNotCancelled_stops _ setting.cancellation

theorem writeAll_determined (bytes : Bytes) :
    Determined crates fun setting => writeAll (setting.reader crates) setting.writer bytes := by
  apply Run.determined_unit
  intro setting
  unfold writeAll
  cases setting.writer with
  | memory => exact fun _ _ _ failed => by cases failed
  | tempFile =>
      exact Run.failsOnly_bind (call_stops _ _) fun _ _ _ _ failed => by cases failed

theorem emitProgress_determined (phase : String) (current total : Nat) :
    Determined crates fun setting => emitProgress setting.onProgress phase current total := by
  apply Run.determined_unit
  intro setting
  cases setting.onProgress with
  | false => exact fun _ _ _ failed => by cases failed
  | true => exact fun _ _ _ failed => by cases failed

/-- Round by round, what a loop makes of its input is the same wherever it runs. -/
theorem decryptLoop_determined (key digest : Block 32) (chunkSize : UInt32)
    (expectedPlaintext budget index written : Nat) (input : Bytes) :
    Determined crates fun setting =>
      decryptLoop (setting.reader crates) setting.writer key digest chunkSize expectedPlaintext
        setting.onProgress setting.cancellation budget index written input := by
  -- Induction on the budget; a stopped round stops the loop, any other reads on alike.
  induction budget generalizing index written input with
  | zero => exact Run.determined_fail eof
  | succ budget ih =>
      apply Run.determined_bind (ensureNotCancelled_determined crates)
      intro _
      apply Run.determined_bind (Run.determined_lift _)
      intro read
      match read with
      | none =>
          dsimp only
          split
          · exact Run.determined_fail _
          · exact Run.determined_pure _
      | some (frame, ciphertext, rest) =>
          apply Run.determined_bind (Run.determined_lift _)
          intro _
          apply Run.determined_bind (Run.determined_answer
            (openChunk (calmHost crates) key digest frame ciphertext) fun _ => rfl)
          intro plaintext
          apply Run.determined_bind (writeAll_determined crates plaintext)
          intro _
          apply Run.determined_bind (emitProgress_determined crates _ _ _)
          intro _
          split
          · exact Run.determined_pure _
          · exact ih _ _ _

theorem decryptRecovered_determined (parsed : StoredTimelockedArtifact) (key : Block 32)
    (stream : Bytes) :
    Determined crates fun setting =>
      decryptRecovered (setting.reader crates) parsed setting.writer key setting.onProgress
        setting.cancellation stream := by
  unfold decryptRecovered
  apply Run.determined_bind (Run.determined_answer (superblockDigest crates parsed.superblock)
    fun _ => rfl)
  intro digest
  apply Run.determined_bind (ensureNotCancelled_determined crates)
  intro _
  apply Run.determined_bind (decryptLoop_determined crates key digest _ _ _ _ _ stream)
  intro stop
  apply Run.determined_bind (Run.determined_lift _)
  intro _
  apply Run.determined_bind (Run.determined_lift _)
  exact fun _ => Run.determined_pure _

/-- What one reader finds that nothing stops, any other finds, unless it is stopped. -/
theorem decryptRecovered_agrees (parsed : StoredTimelockedArtifact) (key : Block 32)
    (stream : Bytes) (host : Host) (writer : Writer) (onProgress : Bool)
    (cancellation : Option CancellationToken) (world : World) (reader : Host) (writer' : Writer)
    (start : World) (crates : reader.crates = host.crates) (healthy : reader.Healthy) :
    (decryptRecovered host parsed writer key onProgress cancellation stream world).1 =
        (decryptRecovered reader parsed writer' key false none stream start).1 ∨
      ∃ reason, (decryptRecovered host parsed writer key onProgress cancellation stream world).1 =
        .error reason ∧ Stops host cancellation reason := by
  obtain ⟨outcome, ends⟩ := decryptRecovered_determined host.crates parsed key stream
  have here := ends ⟨⟨host.fault, host.random, cancellation, onProgress⟩, host.cwd, writer⟩ world
  have there := ends ⟨⟨reader.fault, reader.random, none, false⟩, reader.cwd, writer'⟩ start
  rcases reader with ⟨_, cwd, fault, random⟩
  obtain rfl := crates
  -- Nothing stops the healthy reader, so what it found is the determined outcome.
  rcases there with there | ⟨_, _, stop⟩
  · rcases here with here | stopped
    · exact .inl (here.trans there.symm)
    · exact .inr stopped
  · exact absurd stop (stops_never _ _ _ healthy neverCancelled_none)

end Determined

section Authentic
variable (host : Host) (onProgress : Bool) (cancellation : Option CancellationToken)
  (request : UnlockRequest) (parsed : StoredTimelockedArtifact)
  (recoveredFilePath : Option Path) (artifact : Bytes)

/-- Whatever else stops it, the decryption refuses nothing. -/
theorem decryptRecovered_harmless (writer : Writer) (key : Block 32) (stream : Bytes)
    (opens : ∀ (reader : Host) (writer : Writer) (start after : World) (reason : Error),
      reader.crates = host.crates → reader.Healthy →
      decryptRecovered reader parsed writer key false none stream start = (.error reason, after) →
        isPayloadAuthenticationError reason = false) :
    Run.FailsOnly Harmless
      (decryptRecovered host parsed writer key onProgress cancellation stream) := by
  intro world reason after failed
  -- The same decryption where nothing stops it.
  have agrees := decryptRecovered_agrees parsed key stream host writer onProgress cancellation world
    (calmHost host.crates) writer world rfl fun _ => rfl
  rw [failed] at agrees
  rcases agrees with same | ⟨_, same, stop⟩
  · rcases calmly : decryptRecovered (calmHost host.crates) parsed writer key false none stream world
      with ⟨outcome, ended⟩
    rw [calmly] at same
    exact opens (calmHost host.crates) writer world ended reason rfl (fun _ => rfl)
      (calmly.trans (congrArg (·, ended) same.symm))
  · obtain rfl := Except.error.inj same
    exact stops_harmless _ _ reason stop

/-- With the artifact in place and the right key, a recovery refuses nothing. -/
theorem recoverPayloadToWriterWithCancel_harmless (writer : Writer)
    (recoverFileKey : RecoverFileKeyFn) (mask : Block 32) (passphrase : String)
    (authenticates : Authenticates host.crates parsed artifact passphrase)
    (key : ∀ found, artifactKey host.crates parsed.superblock passphrase = .ok found →
      Incidental mask (Stops host cancellation) (recoverFileKey (keyRequest parsed)) (.ok found))
    (before after : World) (reason : Error) (keeping : Keeping mask before)
    (there : before.tree.readFile host.cwd request.input = .ok artifact)
    (failed : recoverPayloadToWriterWithCancel host request.input parsed writer recoverFileKey
      onProgress cancellation before = (.error reason, after)) : Harmless reason := by
  obtain ⟨found, region, stream, keyed, located, rebuilt, opens⟩ := authenticates
  obtain ⟨w₁, unchanged, gotKey | ⟨stopped, missed, stop⟩⟩ := key found keyed before keeping
  · unfold recoverPayloadToWriterWithCancel at failed
    rw [← keyRequest, Run.bind_of_ok gotKey] at failed
    -- With the key in hand, reading can fail and so can decrypting, but neither refuses.
    rcases (Run.bind_eq_error _ _ _ _ _).mp failed with unread | ⟨region', w₂, fetched, rest⟩
    · rcases (Run.bind_eq_error _ _ _ _ _).mp unread with unread | ⟨bytes, w₂, fetched, rest⟩
      · rcases (Run.bind_eq_error _ _ _ _ _).mp unread with refused | ⟨_, w₂, called, looked⟩
        · exact call_harmless host _ _ _ refused
        · exact io_harmless _ reason (congrArg Prod.fst looked)
      · obtain ⟨same, _⟩ := readFile_eq_ok host request.input bytes w₁ w₂ fetched
        rw [unchanged.tree, there] at same
        obtain rfl := Except.ok.inj same
        rw [located] at rest
        cases rest
    · obtain ⟨bytes, w₃, fetched', rest'⟩ := (Run.bind_eq_ok _ _ _ _ _).mp fetched
      obtain ⟨same, _⟩ := readFile_eq_ok host request.input bytes w₁ w₃ fetched'
      rw [unchanged.tree, there] at same
      obtain rfl := Except.ok.inj same
      rw [located] at rest'
      cases rest'
      rw [Run.lift_bind_of_ok (show reconstructStream host parsed region = .ok stream from rebuilt)]
        at rest
      exact decryptRecovered_harmless host onProgress cancellation parsed writer found stream opens
        _ _ _ rest
  · unfold recoverPayloadToWriterWithCancel at failed
    rw [← keyRequest, Run.bind_of_error missed] at failed
    cases failed
    exact stops_harmless host cancellation reason stop

/-- The key that a passphrase leads to. -/
theorem passphrase_incidental (metadata : PasswordProtectionMetadata)
    (answers : Nat → Except Error String) (context : PasswordPromptContext) (passphrase : String)
    (key : Block 32) (given : answers context.attempt = .ok passphrase)
    (protected_ : parsed.superblock.passwordProtection = some metadata)
    (keyed : artifactKey host.crates parsed.superblock passphrase = .ok key) :
    Incidental (solvedMask host parsed) (Stops host cancellation)
      (recoverPasswordProtectedFileKey host onProgress cancellation (some (inOrder answers))
        metadata context (keyRequest parsed)) (.ok key) := by
  have incidental := recoverPasswordProtectedFileKey_incidental host cancellation onProgress
    (solvedMask host parsed) parsed rfl answers metadata context
  rw [artifactKey, protected_] at keyed
  rw [given, ok_bind] at incidental
  rw [← keyed]
  exact incidental

/-- The attempt that gets such an answer is not refused. -/
theorem attemptOnce_harmless (payloadKind : PayloadKind) (metadata : PasswordProtectionMetadata)
    (answers : Nat → Except Error String) (attempt : Nat) (previousAttemptFailed : Bool)
    (passphrase : String) (given : answers attempt = .ok passphrase)
    (protected_ : parsed.superblock.passwordProtection = some metadata)
    (authenticates : Authenticates host.crates parsed artifact passphrase)
    (before after : World) (reason : Error) (keeping : Keeping (solvedMask host parsed) before)
    (there : before.tree.readFile host.cwd request.input = .ok artifact)
    (failed : attemptOnce host onProgress cancellation (some (inOrder answers)) request parsed
      payloadKind recoveredFilePath metadata attempt previousAttemptFailed before =
        (.error reason, after)) : Harmless reason := by
  have recovering := fun writer => recoverPayloadToWriterWithCancel_harmless host onProgress
    cancellation request parsed artifact writer _ (solvedMask host parsed) passphrase
    authenticates fun found keyed => passphrase_incidental host onProgress cancellation parsed
      metadata answers ⟨request.input, attempt, maxPasswordAttempts, previousAttemptFailed⟩
      passphrase found given protected_ keyed
  unfold attemptOnce recoverPayloadOnce at failed
  cases payloadKind with
  | text =>
      rcases (Run.bind_eq_error _ _ _ _ _).mp failed with missed | ⟨⟨stats, textBytes⟩, _, _, shown⟩
      · unfold capture at missed
        rcases inner : recoverPayloadToWriterWithCancel host request.input parsed .memory
          (recoverPasswordProtectedFileKey host onProgress cancellation (some (inOrder answers))
            metadata ⟨request.input, attempt, maxPasswordAttempts, previousAttemptFailed⟩)
          onProgress cancellation { before with sink := [] } with ⟨reason' | value, ended⟩
        · rw [inner] at missed
          cases missed
          exact recovering .memory { before with sink := [] } _ _ keeping there inner
        · rw [inner] at missed
          cases missed
      · dsimp only at shown
        -- Text that is not UTF-8 is an invalid format, not a refusal.
        cases valid : fromUtf8 textBytes with
        | none =>
            rw [valid] at shown
            cases shown
            rfl
        | some text =>
            rw [valid] at shown
            cases shown
  | file originalFilename =>
      cases recoveredFilePath with
      | none =>
          cases failed
          rfl
      | some outputPath =>
          rcases (Run.bind_eq_error _ _ _ _ _).mp failed with missed | ⟨_, w₁, made, f₁⟩
          · exact createDirAll_harmless host _ _ _ _ missed
          rcases (Run.bind_eq_error _ _ _ _ _).mp f₁ with missed | ⟨_, w₂, opened, f₂⟩
          · exact newTempIn_harmless host _ _ _ _ missed
          -- The directories and the temporary file leave artifact and mask in place.
          have grown := steady_grown.trans _ _ _
            (Run.keeps_outcome (createDirAll_steady steady_grown makes_grown host _) made)
            (Run.keeps_outcome (newTempIn_steady steady_grown host _) opened)
          have kept := Run.keeps_outcome (createDirAll_steady
            (steady_staysKeeping (solvedMask host parsed)) (fun _ _ _ keeps => keeps) host _) made
            keeping
          have kept' := Run.keeps_outcome
            (newTempIn_steady (steady_staysKeeping (solvedMask host parsed)) host _) opened kept
          rcases (Run.bind_eq_error _ _ _ _ _).mp f₂ with missed | ⟨stats, w₃, recovered, f₃⟩
          · exact recovering .tempFile _ _ _ kept' (Tree.readFile_grown _ _ grown _ _ _ there) missed
          refine Run.failsOnly_bind (call_harmless host) (fun _ => ?_) _ _ _ f₃
          refine Run.failsOnly_bind (ensureNotCancelled_harmless cancellation) fun _ => ?_
          refine Run.failsOnly_bind (Run.failsOnly_read _) fun contents => ?_
          exact Run.failsOnly_bind (persist_harmless host outputPath contents)
            fun _ => Run.failsOnly_pure _

end Authentic

def Unauthentic (crates : Crates) (parsed : StoredTimelockedArtifact) (artifact : Bytes)
    (passphrase : String) : Prop :=
  (∃ key, artifactKey crates parsed.superblock passphrase = .ok key) ∧
    ¬ Authenticates crates parsed artifact passphrase

def StopsOrRefuses (host : Host) (cancellation : Option CancellationToken) (reason : Error) : Prop :=
  Stops host cancellation reason ∨ isPayloadAuthenticationError reason = true

section Unauthentic
variable (host : Host) (onProgress : Bool) (cancellation : Option CancellationToken)
  (parsed : StoredTimelockedArtifact) (artifact : Bytes)

/-- A key under which one reader refuses the payload is refused by all. -/
theorem decryptRecovered_refuses (key : Block 32) (stream : Bytes) (reader : Host)
    (writer writer' : Writer) (start after : World) (reason : Error)
    (crates : reader.crates = host.crates) (healthy : reader.Healthy)
    (failed : decryptRecovered reader parsed writer key false none stream start =
      (.error reason, after))
    (refusal : isPayloadAuthenticationError reason = true) (world : World) :
    ∃ reason' ended, decryptRecovered host parsed writer' key onProgress cancellation stream world =
      (.error reason', ended) ∧ StopsOrRefuses host cancellation reason' := by
  have agrees := decryptRecovered_agrees parsed key stream host writer' onProgress cancellation world
    reader writer start crates healthy
  rw [failed] at agrees
  rcases ran : decryptRecovered host parsed writer' key onProgress cancellation stream world with
    ⟨reached, ended⟩
  rw [ran] at agrees
  rcases agrees with rfl | ⟨reason', rfl, stop⟩
  · exact ⟨reason, ended, rfl, .inr refusal⟩
  · exact ⟨reason', ended, rfl, .inl stop⟩

variable (request : UnlockRequest) (passphrase : String) (key : Block 32) (region stream : Bytes)
  (keyed : artifactKey host.crates parsed.superblock passphrase = .ok key)
  (located : payloadRegionOf parsed artifact = .ok region)
  (rebuilt : PayloadRegion.reconstructPayloadRegion host.crates region
    parsed.superblock.protectedStreamLen (layoutOf parsed.superblock) = .ok stream)
  (refused_ : ¬ Authenticates host.crates parsed artifact passphrase)
include keyed located rebuilt refused_

theorem recoverPayloadToWriterWithCancel_refuses (writer : Writer)
    (recoverFileKey : RecoverFileKeyFn) (mask : Block 32)
    (gives : Incidental mask (Stops host cancellation) (recoverFileKey (keyRequest parsed))
      (.ok key))
    (before : World) (keeping : Keeping mask before)
    (there : before.tree.readFile host.cwd request.input = .ok artifact) :
    ∃ reason after, recoverPayloadToWriterWithCancel host request.input parsed writer recoverFileKey
      onProgress cancellation before = (.error reason, after) ∧
        StopsOrRefuses host cancellation reason := by
  unfold recoverPayloadToWriterWithCancel
  rw [← keyRequest]
  obtain ⟨w₁, unchanged, gotKey | ⟨reason, missed, stop⟩⟩ := gives before keeping
  · rw [Run.bind_of_ok gotKey]
    rcases called : call host w₁ with ⟨reason | _, w₂⟩
    · have unread : readPayloadRegionBytes host request.input parsed w₁ = (.error reason, w₂) :=
        Run.bind_of_error (Run.bind_of_error called _) _
      rw [Run.bind_of_error unread]
      exact ⟨reason, w₂, rfl, .inl (call_stops host cancellation _ _ _ called)⟩
    · have quiet := Run.keeps_outcome (call_quiet host) called
      have looked : readFile host request.input w₁ = (.ok artifact, w₂) := by
        refine (Run.bind_of_ok called _).trans ?_
        rw [Run.read_bind, quiet.tree, unchanged.tree, there]
        rfl
      have read : readPayloadRegionBytes host request.input parsed w₁ = (.ok region, w₂) :=
        (Run.bind_of_ok looked _).trans (by rw [located]; rfl)
      rw [Run.bind_of_ok read,
        Run.lift_bind_of_ok (show reconstructStream host parsed region = .ok stream from rebuilt)]
      -- Were it neither stopped nor refused, the passphrase would authenticate.
      by_contra never
      refine refused_ ⟨key, region, stream, keyed, located, rebuilt, ?_⟩
      intro reader writer' start after reason crates healthy failed
      by_contra refusal
      rw [Bool.not_eq_false] at refusal
      exact never (decryptRecovered_refuses host onProgress cancellation parsed key stream reader
        writer' writer start after reason crates healthy failed refusal w₂)
  · rw [Run.bind_of_error missed]
    exact ⟨reason, w₁, rfl, .inl stop⟩

/-- Up to its decryption the attempt goes as any other would, and there it fails. -/
theorem recoverPayloadOnce_refuses (mask : Block 32) (around' : Surroundings)
    (payloadKind : PayloadKind) (recoveredFilePath : Option Path)
    (recoverFileKey recoverFileKey' : RecoverFileKeyFn)
    (gives : Incidental mask (Stops host cancellation) (recoverFileKey (keyRequest parsed))
      (.ok key)) :
    Run.Matches (StopsOrRefuses host cancellation)
      (Stops (around'.host host.crates host.cwd) around'.cancellation) (Alike mask)
      (fun world world' => (Resumes host.cwd (stagingDir payloadKind recoveredFilePath) world.tree
        world'.tree ∧ Keeping mask world ∧ Keeping mask world') ∧
          world.tree.readFile host.cwd request.input = .ok artifact)
      (Alike mask)
      (recoverPayloadOnce host onProgress cancellation request parsed payloadKind recoveredFilePath
        recoverFileKey)
      (recoverPayloadOnce (around'.host host.crates host.cwd) around'.onProgress
        around'.cancellation request parsed payloadKind recoveredFilePath recoverFileKey') := by
  have recovering := fun writer before keeping there =>
    recoverPayloadToWriterWithCancel_refuses host onProgress cancellation parsed artifact request
      passphrase key region stream keyed located rebuilt refused_ writer recoverFileKey mask gives
      before keeping there
  have stays := fun (a b : World) (grown : Grown a b) =>
    Tree.readFile_grown _ _ grown host.cwd request.input artifact
  let around : Surroundings := ⟨host.fault, host.random, cancellation, onProgress⟩
  unfold recoverPayloadOnce
  cases payloadKind with
  | text =>
      rintro world world' ⟨⟨_, keeps, _⟩, there⟩
      obtain ⟨reason, after, failed, stop⟩ :=
        recovering .memory { world with sink := [] } keeps there
      have missed : capture (recoverPayloadToWriterWithCancel host request.input parsed .memory
          recoverFileKey onProgress cancellation) world =
          (.error reason, { after with sink := world.sink }) := by
        unfold capture
        rw [failed]
      dsimp only
      rw [Run.bind_of_error missed]
      exact .left stop
  | file originalFilename =>
      cases recoveredFilePath with
      | none =>
          rintro world world' ⟨⟨resumes, keeps, keeps'⟩, _⟩
          have same := resumes_without host.cwd _ _ resumes
          exact .error ⟨same, keeps, keeps'⟩
      | some outputPath =>
          have widen : ∀ reason, Stops host cancellation reason →
              StopsOrRefuses host cancellation reason := fun _ stop => .inl stop
          refine Run.matches_bind (Run.matches_holds (Run.matches_stops
            (createDirAll_pair host.crates host.cwd mask around around' _) widen)
            (Run.keeps_weaken (createDirAll_steady steady_grown makes_grown host _) stays))
            fun _ => ?_
          refine Run.matches_bind (Run.matches_holds (Run.matches_stops
            (newTempIn_pair host.crates host.cwd mask around around' _) widen)
            (Run.keeps_weaken (newTempIn_steady steady_grown host _) stays)) fun _ => ?_
          -- From here on the left run fails whatever the other does.
          apply Run.matches_left
          rintro world world' ⟨alike, there⟩
          obtain ⟨reason, after, failed, stop⟩ := recovering .tempFile world alike.keeps there
          exact ⟨reason, after, Run.bind_of_error failed _, stop⟩

end Unauthentic

theorem resumes_grown (cwd : Location) (dir : Option Path) (tree start : Tree)
    (resumes : Resumes cwd dir tree start) : Tree.Grown start tree := by
  rcases resumes with rfl | ⟨path, _, made⟩
  · exact Tree.grown_refl tree
  · have grown := Tree.createDirAll_grown cwd ((components path).length + 1) path start
    rw [made] at grown
    exact grown

section Reached
variable (host : Host) (onProgress : Bool) (cancellation : Option CancellationToken)
  (provider : Option PasswordProvider) (request : UnlockRequest)
  (parsed : StoredTimelockedArtifact) (payloadKind : PayloadKind)
  (recoveredFilePath : Option Path) (metadata : PasswordProtectionMetadata)

/-- Behind refused attempts, an attempt starts as the first one did. -/
theorem attempted_resumes (attempt index : Nat) (before after : World)
    (outcomes : List (Except Error UnlockResponse)) (start : Tree)
    (chain : Attempted host onProgress cancellation provider request parsed payloadKind
      recoveredFilePath metadata attempt before outcomes after)
    (keeping : Keeping (solvedMask host parsed) before)
    (resumes : Resumes host.cwd (stagingDir payloadKind recoveredFilePath) before.tree start)
    (outcome : Except Error UnlockResponse) (found : outcomes[index]? = some outcome)
    (earlier : ∀ failed ∈ outcomes.take index, refused failed = true) :
    ∃ world ended, Keeping (solvedMask host parsed) world ∧
      Resumes host.cwd (stagingDir payloadKind recoveredFilePath) world.tree start ∧
      attemptOnce host onProgress cancellation provider request parsed payloadKind
        recoveredFilePath metadata (attempt + index) (decide (1 < attempt + index)) world =
          (outcome, ended) ∧
      (outcomes.length = index + 1 → ended = after) := by
  -- Induction on the attempts passed over, each of them refused.
  induction index generalizing attempt before outcomes with
  | zero =>
      cases chain with
      | none => cases found
      | more ran rest =>
          rename_i between first later
          obtain rfl := Option.some.inj found
          refine ⟨before, between, keeping, resumes, ran, fun single => ?_⟩
          have noMore : later = [] := List.length_eq_zero_iff.mp (Nat.succ.inj single)
          subst noMore
          cases rest
          rfl
  | succ index ih =>
      cases chain with
      | none => cases found
      | more ran rest =>
          rename_i between first later
          have refusal := earlier first (by simp)
          cases first with
          | ok response => cases refusal
          | error reason =>
              have keeping' := attemptOnce_keeping host onProgress cancellation provider request
                parsed payloadKind recoveredFilePath metadata attempt _ before between reason
                keeping ran
              have resumes' := attemptOnce_resumes host onProgress cancellation provider request
                parsed payloadKind recoveredFilePath metadata attempt _ before between reason
                refusal start resumes ran
              obtain ⟨world, ended, kept, resumed, ran', last⟩ := ih (attempt + 1) between later rest
                keeping' resumes' found fun failed member => earlier failed (by simp [member])
              rw [Nat.add_right_comm] at ran'
              exact ⟨world, ended, kept, resumed, ran', fun whole => last (Nat.succ.inj whole)⟩

/-- An attempt that is not refused is the last one. -/
theorem attempts_settled (left attempt : Nat) (previousAttemptFailed : Bool)
    (outcome : Except Error UnlockResponse) (before after : World)
    (settled : refused outcome = false)
    (ran : attemptOnce host onProgress cancellation provider request parsed payloadKind
      recoveredFilePath metadata attempt previousAttemptFailed before = (outcome, after)) :
    attempts host onProgress cancellation provider request parsed payloadKind recoveredFilePath
      metadata (left + 1) attempt previousAttemptFailed before = (outcome, zeroizeMask after) := by
  unfold attempts
  rw [ran]
  cases outcome with
  | ok response => rfl
  | error reason =>
      dsimp only
      rw [if_neg (by rw [show isPayloadAuthenticationError reason = false from settled]; decide)]

end Reached

section Execute
variable (host : Host) (onProgress : Bool) (cancellation : Option CancellationToken)
  (answers : Nat → Except Error String) (request : UnlockRequest) (bytes : Bytes)
  (parsed : StoredTimelockedArtifact) (metadata : PasswordProtectionMetadata) (before after : World)
  (outcome : Except Error UnlockResponse)
  (there : before.tree.readFile host.cwd request.input = .ok bytes)
  (read : readTimelockedArtifactBytes host.crates bytes = .ok parsed)
  (protected_ : parsed.superblock.passwordProtection = some metadata)
  (ran : executeWithCancelAndPasswordProvider host onProgress cancellation
    (some (inOrder answers)) request before = (outcome, after))
include there read protected_ ran

/-- A run whose call gets an authenticating answer ends as that attempt does. -/
theorem execute_reaches (new : History) (history : after.history = new ++ before.history) (k : Nat)
    (called : (k, decide (1 < k)) ∈ calls new) (passphrase : String)
    (given : answers k = .ok passphrase)
    (authenticates : Authenticates host.crates parsed bytes passphrase) :
    ∃ recoveredFilePath world ended,
      chooseRecoveredFilePath (before.tree.pathExists host.cwd) request parsed.payloadKind =
        .ok recoveredFilePath ∧
      Keeping (solvedMask host parsed) world ∧
      Resumes host.cwd (stagingDir parsed.payloadKind recoveredFilePath) world.tree before.tree ∧
      attemptOnce host onProgress cancellation (some (inOrder answers)) request parsed
        parsed.payloadKind recoveredFilePath metadata k (decide (1 < k)) world = (outcome, ended) ∧
      refused outcome = false ∧ after.tree = ended.tree := by
  obtain ⟨opened, logged, same, ⟨rfl, _⟩ | ⟨recoveredFilePath, chosen, attempting⟩⟩ :=
    execute_opens host onProgress cancellation (some (inOrder answers)) request bytes parsed
      metadata before after outcome there read protected_ ran
  · -- Nobody was called before the first attempt.
    obtain ⟨quiet, history', unprompted⟩ := logged
    obtain rfl := List.append_cancel_right (history.symm.trans history')
    have silent := (unprompted_append new [] unprompted).1
    rw [List.append_nil] at silent
    rw [silent] at called
    cases called
  · have start : Ledger before 0 (zeroizeMask opened) := ledger_opened logged rfl
    obtain ⟨outcomes, stop, chain, decided, rfl⟩ := attempts_decided host onProgress cancellation
      (some (inOrder answers)) request parsed parsed.payloadKind recoveredFilePath metadata
      maxPasswordAttempts 1 (zeroizeMask opened) after outcome Nat.one_pos (by decide) rfl attempting
    obtain ⟨count, ⟨log, history', counted, _, _⟩, _, most⟩ := attempted_ledger host onProgress
      cancellation (some (inOrder answers)) request parsed parsed.payloadKind recoveredFilePath
      metadata 0 _ stop outcomes start decided.retried chain
    obtain rfl := List.append_cancel_right (history.symm.trans history')
    rw [counted] at called
    -- The call belongs to one attempt, and the attempts before it were refused.
    obtain ⟨index, inside, numbered⟩ := List.mem_map.mp called
    obtain rfl := (Prod.mk.inj numbered).1
    have within : index < outcomes.length := by
      have small := List.mem_range.mp inside
      omega
    have found : outcomes[index]? = some outcomes[index] := List.getElem?_eq_getElem within
    obtain ⟨world, ended, keeping, resumes, attempted, last⟩ := attempted_resumes host onProgress
      cancellation (some (inOrder answers)) request parsed parsed.payloadKind recoveredFilePath
      metadata 1 index _ stop outcomes before.tree chain (keeping_zeroized _ _)
      (.inl same) _ found (by
        intro failed member
        apply decided.retried failed
        rw [List.dropLast_eq_take]
        exact List.take_subset_take_left outcomes (by omega) member)
    rw [Nat.add_comm 1 index] at attempted
    have settled : refused outcomes[index] = false := by
      cases result : outcomes[index] with
      | ok response => rfl
      | error reason =>
          rw [result] at attempted
          exact attemptOnce_harmless host onProgress cancellation request parsed recoveredFilePath
            bytes parsed.payloadKind metadata answers (index + 1) _ passphrase given protected_
            authenticates world ended reason keeping
            (Tree.readFile_grown _ _ (resumes_grown _ _ _ _ resumes) _ _ _ there) attempted
    obtain ⟨whole, rfl⟩ := decided_atOnce outcomes outcome decided index _ found settled
    obtain rfl := last whole
    exact ⟨recoveredFilePath, world, ended, chosen, keeping, resumes, attempted, settled, rfl⟩

end Execute

def SameEnding (host host' : Host) (cancellation cancellation' : Option CancellationToken)
    (run run' : Except Error UnlockResponse × World) : Prop :=
  (run.1 = run'.1 ∧ run.2.tree = run'.2.tree) ∨
    (∃ reason, run.1 = .error reason ∧ Stops host cancellation reason) ∨
    ∃ reason, run'.1 = .error reason ∧ Stops host' cancellation' reason

/-- With nothing to stop either, the runs end alike. -/
theorem sameEnding_calm (host host' : Host) (cancellation cancellation' : Option CancellationToken)
    (outcome outcome' : Except Error UnlockResponse) (after after' : World)
    (ending : SameEnding host host' cancellation cancellation' (outcome, after) (outcome', after'))
    (healthy : host.Healthy) (healthy' : host'.Healthy) (never : NeverCancelled cancellation)
    (never' : NeverCancelled cancellation') :
    outcome = outcome' ∧ after.tree = after'.tree := by
  rcases ending with same | ⟨reason, _, stop⟩ | ⟨reason, _, stop⟩
  · exact same
  · exact absurd stop (stops_never host cancellation reason healthy never)
  · exact absurd stop (stops_never host' cancellation' reason healthy' never')

section Twice
variable (host host' : Host) (onProgress onProgress' : Bool)
  (cancellation cancellation' : Option CancellationToken)
  (answers answers' : Nat → Except Error String)
  (request : UnlockRequest) (parsed : StoredTimelockedArtifact) (payloadKind : PayloadKind)
  (recoveredFilePath : Option Path) (metadata : PasswordProtectionMetadata)

/-- Attempts that get the same passphrase agree, whatever their numbers are. -/
theorem attemptOnce_agrees (crates : host'.crates = host.crates) (cwd : host'.cwd = host.cwd)
    (k k' : Nat) (flag flag' : Bool) (given : answers' k' = answers k) (world world' : World)
    (keeping : Keeping (solvedMask host parsed) world)
    (keeping' : Keeping (solvedMask host parsed) world')
    (resumes : Resumes host.cwd (stagingDir payloadKind recoveredFilePath) world.tree world'.tree) :
    Run.Agreed (Stops host cancellation) (Stops host' cancellation')
      (Alike (solvedMask host parsed)) (Alike (solvedMask host parsed))
      (attemptOnce host onProgress cancellation (some (inOrder answers)) request parsed payloadKind
        recoveredFilePath metadata k flag world)
      (attemptOnce host' onProgress' cancellation' (some (inOrder answers')) request parsed
        payloadKind recoveredFilePath metadata k' flag' world') := by
  rcases host with ⟨_, _, fault, random⟩
  rcases host' with ⟨made, place, fault', random'⟩
  obtain rfl := crates
  obtain rfl := cwd
  have key := recoverPasswordProtectedFileKey_incidental ⟨made, place, fault, random⟩ cancellation
    onProgress _ parsed rfl answers metadata ⟨request.input, k, maxPasswordAttempts, flag⟩
  have key' := recoverPasswordProtectedFileKey_incidental ⟨made, place, fault', random'⟩
    cancellation' onProgress' _ parsed rfl answers' metadata
    ⟨request.input, k', maxPasswordAttempts, flag'⟩
  dsimp only at key'
  rw [given] at key'
  exact recoverPayloadOnce_pair _ _ _ ⟨fault, random, cancellation, onProgress⟩
    ⟨fault', random', cancellation', onProgress'⟩ request parsed payloadKind recoveredFilePath _ _ _
    key key' world world' ⟨resumes, keeping, keeping'⟩

/-- An attempt whose passphrase does not authenticate goes as the other one, or is refused. -/
theorem attemptOnce_unauthentic (crates : host'.crates = host.crates) (cwd : host'.cwd = host.cwd)
    (bytes : Bytes) (protected_ : parsed.superblock.passwordProtection = some metadata)
    (k k' : Nat) (flag flag' : Bool)
    (wrong : ∃ answer, answers k = .ok answer ∧ Unauthentic host.crates parsed bytes answer)
    (passphrase : String) (authenticates : Authenticates host.crates parsed bytes passphrase)
    (world world' : World) (keeping : Keeping (solvedMask host parsed) world)
    (keeping' : Keeping (solvedMask host parsed) world')
    (resumes : Resumes host.cwd (stagingDir payloadKind recoveredFilePath) world.tree world'.tree)
    (there : world.tree.readFile host.cwd request.input = .ok bytes) :
    Run.Agreed (StopsOrRefuses host cancellation) (Stops host' cancellation')
      (Alike (solvedMask host parsed)) (Alike (solvedMask host parsed))
      (attemptOnce host onProgress cancellation (some (inOrder answers)) request parsed payloadKind
        recoveredFilePath metadata k flag world)
      (attemptOnce host' onProgress' cancellation' (some (inOrder answers')) request parsed
        payloadKind recoveredFilePath metadata k' flag' world') := by
  obtain ⟨answer, given, ⟨key, keyed⟩, refusal⟩ := wrong
  obtain ⟨_, region, stream, _, located, rebuilt, _⟩ := authenticates
  rcases host' with ⟨_, _, fault', random'⟩
  obtain rfl := crates
  obtain rfl := cwd
  exact recoverPayloadOnce_refuses host onProgress cancellation parsed bytes request answer key
    region stream keyed located rebuilt refusal (solvedMask host parsed)
    ⟨fault', random', cancellation', onProgress'⟩ payloadKind recoveredFilePath _ _
    (passphrase_incidental host onProgress cancellation parsed metadata answers
      ⟨request.input, k, maxPasswordAttempts, flag⟩ answer key given protected_ keyed)
    world world' ⟨⟨resumes, keeping, keeping'⟩, there⟩

/-- The attempt that gets the passphrase is the last one. -/
theorem attemptOnce_settled (bytes : Bytes) (attempt : Nat) (flag : Bool) (passphrase : String)
    (given : answers attempt = .ok passphrase)
    (protected_ : parsed.superblock.passwordProtection = some metadata)
    (authenticates : Authenticates host.crates parsed bytes passphrase) (before after : World)
    (outcome : Except Error UnlockResponse) (keeping : Keeping (solvedMask host parsed) before)
    (there : before.tree.readFile host.cwd request.input = .ok bytes)
    (ran : attemptOnce host onProgress cancellation (some (inOrder answers)) request parsed
      payloadKind recoveredFilePath metadata attempt flag before = (outcome, after)) :
    refused outcome = false := by
  cases outcome with
  | ok response => rfl
  | error reason =>
      exact attemptOnce_harmless host onProgress cancellation request parsed recoveredFilePath bytes
        payloadKind metadata answers attempt flag passphrase given protected_ authenticates before
        after reason keeping there ran

def SameTrees (world world' : World) : Prop := world.tree = world'.tree

theorem sameTrees_agreed {stops stops' : Error → Prop} {mask : Block 32}
    {outcome outcome' : Except Error UnlockResponse} {after after' : World}
    (agreed : Run.Agreed stops stops' (Alike mask) (Alike mask) (outcome, after)
      (outcome', after')) :
    Run.Agreed stops stops' SameTrees SameTrees (outcome, zeroizeMask after)
      (outcome', after') := by
  cases agreed with
  | ok alike => exact .ok alike.tree
  | error alike => exact .error alike.tree
  | left stop => exact .left stop
  | right stop => exact .right stop

/-- Attempts that are refused up to the right one end as that one does right away. -/
theorem attempts_agree (crates : host'.crates = host.crates) (cwd : host'.cwd = host.cwd)
    (bytes : Bytes) (protected_ : parsed.superblock.passwordProtection = some metadata) (k : Nat)
    (few : k ≤ 3) (passphrase : String) (given : answers k = .ok passphrase)
    (authenticates : Authenticates host.crates parsed bytes passphrase)
    (first : answers' 1 = .ok passphrase) (world' : World)
    (keeping' : Keeping (solvedMask host parsed) world') (once : Except Error UnlockResponse)
    (ended' : World)
    (there : world'.tree.readFile host.cwd request.input = .ok bytes)
    (firstly : attemptOnce host' onProgress' cancellation' (some (inOrder answers')) request parsed
      payloadKind recoveredFilePath metadata 1 false world' = (once, ended'))
    (settled : refused once = false) (steps left attempt : Nat) (flag : Bool) (world after : World)
    (outcome : Except Error UnlockResponse) (numbered : attempt + steps = k) (room : steps < left)
    (earlier : ∀ j, attempt ≤ j → j < k → ∃ answer, answers j = .ok answer ∧
      Unauthentic host.crates parsed bytes answer)
    (keeping : Keeping (solvedMask host parsed) world)
    (resumes : Resumes host.cwd (stagingDir payloadKind recoveredFilePath) world.tree world'.tree)
    (ran : attempts host onProgress cancellation (some (inOrder answers)) request parsed payloadKind
      recoveredFilePath metadata left attempt flag world = (outcome, after)) :
    Run.Agreed (Stops host cancellation) (Stops host' cancellation') SameTrees SameTrees
      (outcome, after) (once, ended') := by
  have stays := fun (world : World) (resumes : Resumes host.cwd
      (stagingDir payloadKind recoveredFilePath) world.tree world'.tree) =>
    Tree.readFile_grown _ _ (resumes_grown _ _ _ _ resumes) host.cwd request.input bytes there
  -- Induction on the refused attempts still to come before the right one.
  obtain ⟨left, rfl⟩ := Nat.exists_eq_succ_of_ne_zero (show left ≠ 0 by omega)
  induction steps generalizing left attempt flag world with
  | zero =>
      obtain rfl : attempt = k := numbered
      rcases attempted : attemptOnce host onProgress cancellation (some (inOrder answers)) request
        parsed payloadKind recoveredFilePath metadata attempt flag world with ⟨ends, ended⟩
      have final := attemptOnce_settled host onProgress cancellation answers request parsed
        payloadKind recoveredFilePath metadata bytes attempt flag passphrase given protected_
        authenticates world ended ends keeping (stays world resumes) attempted
      have whole := attempts_settled host onProgress cancellation (some (inOrder answers)) request
        parsed payloadKind recoveredFilePath metadata left attempt flag ends world ended final
        attempted
      obtain ⟨rfl, rfl⟩ := Prod.mk.inj (whole.symm.trans ran)
      have agreed := attemptOnce_agrees host host' onProgress onProgress' cancellation cancellation'
        answers answers' request parsed payloadKind recoveredFilePath metadata crates cwd attempt 1
        flag false (first.trans given.symm) world world' keeping keeping' resumes
      rw [attempted, firstly] at agreed
      exact sameTrees_agreed agreed
  | succ steps ih =>
      rcases attempted : attemptOnce host onProgress cancellation (some (inOrder answers)) request
        parsed payloadKind recoveredFilePath metadata attempt flag world with ⟨ends, ended⟩
      have agreed := attemptOnce_unauthentic host host' onProgress onProgress' cancellation
        cancellation' answers answers' request parsed payloadKind recoveredFilePath metadata crates
        cwd bytes protected_ attempt 1 flag false (earlier attempt (Nat.le_refl _) (by omega))
        passphrase authenticates world world' keeping keeping' resumes (stays world resumes)
      have only := fun final => attempts_settled host onProgress cancellation
        (some (inOrder answers)) request parsed payloadKind recoveredFilePath metadata left attempt
        flag ends world ended final attempted
      rw [attempted, firstly] at agreed
      cases agreed with
      | ok alike =>
          obtain ⟨rfl, rfl⟩ := Prod.mk.inj ((only rfl).symm.trans ran)
          exact .ok alike.tree
      | error alike =>
          obtain ⟨rfl, rfl⟩ := Prod.mk.inj ((only settled).symm.trans ran)
          exact .error alike.tree
      | right stop => exact .right stop
      | left cease =>
          rename_i reason
          rcases cease with stop | refusal
          · obtain ⟨rfl, _⟩ := Prod.mk.inj ((only (stops_harmless _ _ _ stop)).symm.trans ran)
            exact .left stop
          · -- The payload is refused, and the next attempt comes.
            unfold attempts at ran
            rw [attempted] at ran
            dsimp only at ran
            rw [if_pos refusal, if_pos (show attempt < maxPasswordAttempts by
              rw [maxPasswordAttempts]; omega)] at ran
            obtain ⟨left, rfl⟩ := Nat.exists_eq_succ_of_ne_zero (show left ≠ 0 by omega)
            have kept := attemptOnce_keeping host onProgress cancellation _ request parsed payloadKind
              recoveredFilePath metadata attempt flag world ended reason keeping attempted
            have resumed := attemptOnce_resumes host onProgress cancellation _ request parsed
              payloadKind recoveredFilePath metadata attempt flag world ended reason refusal _ resumes
              attempted
            exact ih (attempt + 1) true ended (by omega) (fun j lower upper => earlier j (by omega)
              upper) kept resumed left (by omega) ran

/-- A run told the passphrase at once ends as one that is told it later. -/
theorem execute_agrees (bytes : Bytes) (before after before' after' : World)
    (outcome outcome' : Except Error UnlockResponse)
    (there : before.tree.readFile host.cwd request.input = .ok bytes)
    (read : readTimelockedArtifactBytes host.crates bytes = .ok parsed)
    (protected_ : parsed.superblock.passwordProtection = some metadata)
    (ran : executeWithCancelAndPasswordProvider host onProgress cancellation
      (some (inOrder answers)) request before = (outcome, after))
    (new : History) (history : after.history = new ++ before.history) (k : Nat)
    (called : (k, decide (1 < k)) ∈ calls new) (passphrase : String)
    (given : answers k = .ok passphrase)
    (authenticates : Authenticates host.crates parsed bytes passphrase)
    (crates : host'.crates = host.crates) (cwd : host'.cwd = host.cwd)
    (tree : before'.tree = before.tree) (first : answers' 1 = .ok passphrase)
    (ran' : executeWithCancelAndPasswordProvider host' onProgress' cancellation'
      (some (inOrder answers')) request before' = (outcome', after')) :
    SameEnding host host' cancellation cancellation' (outcome, after) (outcome', after') := by
  obtain ⟨recoveredFilePath, world, ended, chosen, keeping, resumes, attempted, settled, ends⟩ :=
    execute_reaches host onProgress cancellation answers request bytes parsed metadata before after
      outcome there read protected_ ran new history k called passphrase given authenticates
  obtain ⟨opened', _, same', ⟨_, reason, failed, stop | missed⟩ | ⟨path, chosen', attempting⟩⟩ :=
    execute_opens host' onProgress' cancellation' (some (inOrder answers')) request bytes parsed
      metadata before' after' outcome' (by rw [tree, cwd, there]) (by rw [crates, read]) protected_
      ran'
  · exact .inr (.inr ⟨reason, failed, stop⟩)
  · rw [tree, cwd, chosen] at missed
    cases missed
  · rw [tree, cwd, chosen] at chosen'
    obtain rfl := Except.ok.inj chosen'
    have agreed := attemptOnce_agrees host host' onProgress onProgress' cancellation cancellation'
      answers answers' request parsed parsed.payloadKind recoveredFilePath metadata crates cwd k 1
      (decide (1 < k)) false (first.trans given.symm) world (zeroizeMask opened') keeping
      (keeping_zeroized _ _) (by rw [zeroizeMask, same', tree]; exact resumes)
    rcases firstly : attemptOnce host' onProgress' cancellation' (some (inOrder answers')) request
      parsed parsed.payloadKind recoveredFilePath metadata 1 false (zeroizeMask opened') with
      ⟨once, ended'⟩
    rw [attempted, firstly] at agreed
    -- The first attempt is the only one, whatever it ends in.
    have only : refused once = false → once = outcome' ∧ ended'.tree = after'.tree := by
      intro final
      have whole := attempts_settled host' onProgress' cancellation' (some (inOrder answers'))
        request parsed parsed.payloadKind recoveredFilePath metadata 2 1 false once
        (zeroizeMask opened') ended' final firstly
      obtain ⟨rfl, rfl⟩ := Prod.mk.inj (whole.symm.trans attempting)
      exact ⟨rfl, rfl⟩
    cases agreed with
    | ok alike =>
        obtain ⟨rfl, tree'⟩ := only settled
        exact .inl ⟨rfl, by rw [ends, alike.tree, tree']⟩
    | error alike =>
        obtain ⟨rfl, tree'⟩ := only settled
        exact .inl ⟨rfl, by rw [ends, alike.tree, tree']⟩
    | left stop => exact .inr (.inl ⟨_, rfl, stop⟩)
    | right stop =>
        obtain ⟨rfl, _⟩ := only (stops_harmless _ _ _ stop)
        exact .inr (.inr ⟨_, rfl, stop⟩)

/-- The same where the passphrases before it lead to keys that do not authenticate. -/
theorem execute_agrees_unauthentic (bytes : Bytes) (before after before' after' : World)
    (outcome outcome' : Except Error UnlockResponse)
    (there : before.tree.readFile host.cwd request.input = .ok bytes)
    (read : readTimelockedArtifactBytes host.crates bytes = .ok parsed)
    (protected_ : parsed.superblock.passwordProtection = some metadata)
    (ran : executeWithCancelAndPasswordProvider host onProgress cancellation
      (some (inOrder answers)) request before = (outcome, after))
    (k : Nat) (positive : 0 < k) (few : k ≤ 3) (passphrase : String)
    (given : answers k = .ok passphrase)
    (authenticates : Authenticates host.crates parsed bytes passphrase)
    (earlier : ∀ j, 1 ≤ j → j < k → ∃ answer, answers j = .ok answer ∧
      Unauthentic host.crates parsed bytes answer)
    (crates : host'.crates = host.crates) (cwd : host'.cwd = host.cwd)
    (tree : before'.tree = before.tree) (first : answers' 1 = .ok passphrase)
    (ran' : executeWithCancelAndPasswordProvider host' onProgress' cancellation'
      (some (inOrder answers')) request before' = (outcome', after')) :
    SameEnding host host' cancellation cancellation' (outcome, after) (outcome', after') := by
  have there' : before'.tree.readFile host'.cwd request.input = .ok bytes := by rw [tree, cwd, there]
  obtain ⟨opened, _, same, ⟨rfl, reason, failed, stop | missed⟩ | ⟨path, chosen, attempting⟩⟩ :=
    execute_opens host onProgress cancellation (some (inOrder answers)) request bytes parsed
      metadata before after outcome there read protected_ ran
  · exact .inr (.inl ⟨reason, failed, stop⟩)
  · -- No path is free for the output: neither run gets to an attempt.
    obtain ⟨opened', _, same', ⟨rfl, reason', failed', stop | missed'⟩ | ⟨path, chosen', _⟩⟩ :=
      execute_opens host' onProgress' cancellation' (some (inOrder answers')) request bytes parsed
        metadata before' after' outcome' there' (by rw [crates, read]) protected_ ran'
    · exact .inr (.inr ⟨reason', failed', stop⟩)
    · rw [tree, cwd, missed] at missed'
      obtain rfl := Except.error.inj missed'
      exact .inl ⟨failed.trans failed'.symm, by rw [same, same', tree]⟩
    · rw [tree, cwd, missed] at chosen'
      cases chosen'
  · obtain ⟨opened', _, same',
        ⟨_, reason', failed', stop | missed'⟩ | ⟨path', chosen', attempting'⟩⟩ :=
      execute_opens host' onProgress' cancellation' (some (inOrder answers')) request bytes parsed
        metadata before' after' outcome' there' (by rw [crates, read]) protected_ ran'
    · exact .inr (.inr ⟨reason', failed', stop⟩)
    · rw [tree, cwd, chosen] at missed'
      cases missed'
    · rw [tree, cwd, chosen] at chosen'
      obtain rfl := Except.ok.inj chosen'
      -- The other run is its first attempt, which settles it.
      rcases firstly : attemptOnce host' onProgress' cancellation' (some (inOrder answers')) request
        parsed parsed.payloadKind path metadata 1 false (zeroizeMask opened') with ⟨once, ended'⟩
      have settled := attemptOnce_settled host' onProgress' cancellation' answers' request parsed
        parsed.payloadKind path metadata bytes 1 false passphrase first protected_
        (by rw [crates]; exact authenticates) (zeroizeMask opened') ended' once
        (keeping_zeroized _ _) (by rw [zeroizeMask, same']; exact there') firstly
      have whole := attempts_settled host' onProgress' cancellation' (some (inOrder answers'))
        request parsed parsed.payloadKind path metadata 2 1 false once (zeroizeMask opened') ended'
        settled firstly
      obtain ⟨rfl, rfl⟩ := Prod.mk.inj (whole.symm.trans attempting')
      have agreed := attempts_agree host host' onProgress onProgress' cancellation cancellation'
        answers answers' request parsed parsed.payloadKind path metadata crates cwd bytes protected_ k
        few passphrase given authenticates first (zeroizeMask opened')
        (keeping_zeroized _ _) once ended'
        (by rw [zeroizeMask, same', ← cwd]; exact there') firstly settled (k - 1) maxPasswordAttempts
        1 false (zeroizeMask opened) after outcome (by omega) (by rw [maxPasswordAttempts]; omega)
        earlier (keeping_zeroized _ _)
        (.inl (by rw [zeroizeMask, zeroizeMask, same, same', tree])) attempting
      cases agreed with
      | ok trees => exact .inl ⟨rfl, trees⟩
      | error trees => exact .inl ⟨rfl, trees⟩
      | left stop => exact .inr (.inl ⟨_, rfl, stop⟩)
      | right stop => exact .inr (.inr ⟨_, rfl, stop⟩)

end Twice

/-- The answers before this one are passphrases that do not authenticate, or it
was asked for in any case. -/
def FirstAuthentic (crates : Crates) (parsed : StoredTimelockedArtifact) (artifact : Bytes)
    (answers : Nat → Except Error String) (new : History) (k : Nat) : Prop :=
  (k, decide (1 < k)) ∈ calls new ∨
    0 < k ∧ k ≤ 3 ∧ ∀ j, 1 ≤ j → j < k → ∃ answer, answers j = .ok answer ∧
      Unauthentic crates parsed artifact answer

/-- The attempts of every run, and what becomes of the first right passphrase. -/
theorem password_attempts (host : Host) (onProgress : Bool)
    (cancellation : Option CancellationToken) (request : UnlockRequest) (bytes : Bytes)
    (parsed : StoredTimelockedArtifact) (metadata : PasswordProtectionMetadata) (before : World)
    (there : before.tree.readFile host.cwd request.input = .ok bytes)
    (read : readTimelockedArtifactBytes host.crates bytes = .ok parsed)
    (protected_ : parsed.superblock.passwordProtection = some metadata) :
    (∀ provider outcome after,
      executeWithCancelAndPasswordProvider host onProgress cancellation provider request before =
        (outcome, after) →
      ∃ new count outcomes, Transcript host onProgress cancellation provider request parsed metadata
        before after outcome new count outcomes) ∧
    ∀ answers outcome after new k passphrase,
      executeWithCancelAndPasswordProvider host onProgress cancellation (some (inOrder answers))
        request before = (outcome, after) →
      after.history = new ++ before.history →
      FirstAuthentic host.crates parsed bytes answers new k →
      answers k = .ok passphrase → Authenticates host.crates parsed bytes passphrase →
      ∀ (host' : Host) onProgress' cancellation' answers' (before' : World) outcome' after',
        host'.crates = host.crates → host'.cwd = host.cwd → before'.tree = before.tree →
        answers' 1 = .ok passphrase →
        executeWithCancelAndPasswordProvider host' onProgress' cancellation'
          (some (inOrder answers')) request before' = (outcome', after') →
        SameEnding host host' cancellation cancellation' (outcome, after) (outcome', after') := by
  constructor
  · intro provider outcome after ran
    exact execute_transcript host onProgress cancellation provider request parsed metadata bytes
      before after outcome there read protected_ ran
  · intro answers outcome after new k passphrase ran history authentic given authenticates host'
      onProgress' cancellation' answers' before' outcome' after' crates cwd tree first ran'
    -- Either the run asked for the passphrase, or those before it are known to fail.
    rcases authentic with called | ⟨positive, few, earlier⟩
    · exact execute_agrees host host' onProgress onProgress' cancellation cancellation' answers
        answers' request parsed metadata bytes before after before' after' outcome outcome' there read
        protected_ ran new history k called passphrase given authenticates crates cwd tree first ran'
    · exact execute_agrees_unauthentic host host' onProgress onProgress' cancellation cancellation'
        answers answers' request parsed metadata bytes before after before' after' outcome outcome'
        there read protected_ ran k positive few passphrase given authenticates earlier crates cwd
        tree first ran'

def tryPassphrase (crates : Crates) (parsed : StoredTimelockedArtifact) (artifact : Bytes)
    (passphrase : String) : Option Bool := do
  let key ← (artifactKey crates parsed.superblock passphrase).toOption
  let region ← (payloadRegionOf parsed artifact).toOption
  let stream ← (PayloadRegion.reconstructPayloadRegion crates region
    parsed.superblock.protectedStreamLen (layoutOf parsed.superblock)).toOption
  match (decryptRecovered (calmHost crates) parsed .memory key false none stream
    (freshWorld .bare)).1 with
  | .error reason => some (!isPayloadAuthenticationError reason)
  | .ok _ => some true

section Try
variable (crates : Crates) (parsed : StoredTimelockedArtifact) (artifact : Bytes)
  (passphrase : String)

/-- What one reader finds, every reader finds. -/
theorem decryptRecovered_calmly (key : Block 32) (stream : Bytes) (reader : Host) (writer : Writer)
    (start : World) (same : reader.crates = crates) (healthy : reader.Healthy) :
    (decryptRecovered reader parsed writer key false none stream start).1 =
      (decryptRecovered (calmHost crates) parsed .memory key false none stream
        (freshWorld .bare)).1 := by
  rcases decryptRecovered_agrees parsed key stream reader writer false none start (calmHost crates)
    .memory (freshWorld .bare) same.symm fun _ => rfl with agrees | ⟨_, _, stop⟩
  · exact agrees
  · exact absurd stop (stops_never _ _ _ healthy neverCancelled_none)

theorem tryPassphrase_true (tried : tryPassphrase crates parsed artifact passphrase = some true) :
    Authenticates crates parsed artifact passphrase := by
  unfold tryPassphrase at tried
  obtain ⟨key, keyed, tried⟩ := Option.bind_eq_some_iff.mp tried
  obtain ⟨region, located, tried⟩ := Option.bind_eq_some_iff.mp tried
  obtain ⟨stream, rebuilt, tried⟩ := Option.bind_eq_some_iff.mp tried
  refine ⟨key, region, stream, toOption_eq_some keyed, toOption_eq_some located,
    toOption_eq_some rebuilt, fun reader writer start after reason same healthy failed => ?_⟩
  have found := decryptRecovered_calmly crates parsed key stream reader writer start same healthy
  rw [failed] at found
  rw [← found] at tried
  simpa using tried

theorem tryPassphrase_false (tried : tryPassphrase crates parsed artifact passphrase = some false) :
    Unauthentic crates parsed artifact passphrase := by
  unfold tryPassphrase at tried
  obtain ⟨key, keyed, tried⟩ := Option.bind_eq_some_iff.mp tried
  obtain ⟨region, located, tried⟩ := Option.bind_eq_some_iff.mp tried
  obtain ⟨stream, rebuilt, tried⟩ := Option.bind_eq_some_iff.mp tried
  refine ⟨⟨key, toOption_eq_some keyed⟩, ?_⟩
  rintro ⟨key', region', stream', keyed', located', rebuilt', opens⟩
  obtain rfl := Except.ok.inj ((toOption_eq_some keyed).symm.trans keyed')
  obtain rfl := Except.ok.inj ((toOption_eq_some located).symm.trans located')
  obtain rfl := Except.ok.inj ((toOption_eq_some rebuilt).symm.trans rebuilt')
  rcases ran : decryptRecovered (calmHost crates) parsed .memory key false none stream
    (freshWorld .bare) with ⟨reason | stats, ended⟩
  · have accepted := opens _ _ _ _ reason rfl (fun _ => rfl) ran
    rw [ran] at tried
    simp [accepted] at tried
  · rw [ran] at tried
    cases tried

end Try

/-! An artifact under a passphrase, unlocked at the second try. -/

/-- Crates whose cipher opens under one key only, and whose passphrases differ in
their last letter. -/
def guardedCrates : Crates :=
  { plainCrates with
    decrypt := fun key nonce aad ciphertext =>
      if key = zeros 32 then plainCrates.decrypt key nonce aad ciphertext else none
    argon2Hash := fun _ _ _ input _ =>
      .ok ⟨List.replicate 32 (input.getLastD 0 - 98), List.length_replicate⟩ }

def guardedRequest : LockArtifactRequest :=
  { smallRequest with
    originalFilename := some "p"
    passwordProtection := some (.timelockPlusArgon2idV1
      ⟨defaultArgon2idMemoryKib, defaultArgon2idIterations, defaultArgon2idParallelism,
        List.replicate defaultPasswordSaltLen 0⟩) }

def guardedArtifact : Bytes :=
  ((capture (writeTimelockedArtifact (calmHost guardedCrates) .memory guardedRequest smallReader
    false none) (freshWorld .bare)).1.toOption.map Prod.snd).getD []

def guardedTree : Tree := loneFile guardedArtifact

def secondRight (attempt : Nat) : Except Error String := .ok (if attempt = 2 then "b" else "a")

def unlockGuarded (answers : Nat → Except Error String) : Except Error UnlockResponse × World :=
  executeWithCancelAndPasswordProvider (calmHost guardedCrates) false none (some (inOrder answers))
    ⟨[['a']], none, none⟩ (freshWorld guardedTree)

theorem unlockGuarded_ran (answers : Nat → Except Error String) :
    executeWithCancelAndPasswordProvider (calmHost guardedCrates) false none
      (some (inOrder answers)) ⟨[['a']], none, none⟩ (freshWorld guardedTree) =
        ((unlockGuarded answers).1, (unlockGuarded answers).2) :=
  Prod.mk.eta.symm

theorem guardedArtifact_tried :
    ∃ parsed metadata, readTimelockedArtifactBytes guardedCrates guardedArtifact = .ok parsed ∧
      parsed.superblock.passwordProtection = some metadata ∧
      Authenticates guardedCrates parsed guardedArtifact "b" ∧
      Unauthentic guardedCrates parsed guardedArtifact "a" := by
  have tried : (readTimelockedArtifactBytes guardedCrates guardedArtifact).toOption.map
      (fun parsed => (parsed.superblock.passwordProtection,
        tryPassphrase guardedCrates parsed guardedArtifact "b",
        tryPassphrase guardedCrates parsed guardedArtifact "a")) =
      some (guardedRequest.passwordProtection, some true, some false) := by
    decide +kernel
  obtain ⟨parsed, read, found⟩ := Option.map_eq_some_iff.mp tried
  obtain ⟨protected_, right, wrong⟩ := Prod.mk.injEq .. ▸ Prod.mk.injEq .. ▸ found
  exact ⟨parsed, _, toOption_eq_some read, protected_, tryPassphrase_true _ _ _ _ right,
    tryPassphrase_false _ _ _ _ wrong⟩

theorem password_attempts_second :
    (unlockGuarded secondRight).1 = (unlockGuarded fun _ => .ok "b").1 ∧
      (unlockGuarded secondRight).2.tree = (unlockGuarded fun _ => .ok "b").2.tree := by
  obtain ⟨parsed, metadata, read, protected_, right, wrong⟩ := guardedArtifact_tried
  have there : (freshWorld guardedTree).tree.readFile (calmHost guardedCrates).cwd [['a']] =
      .ok guardedArtifact := by decide +kernel
  obtain ⟨_, twice⟩ := password_attempts (calmHost guardedCrates) false none ⟨[['a']], none, none⟩
    guardedArtifact parsed metadata (freshWorld guardedTree) there read protected_
  have earlier : ∀ j, 1 ≤ j → j < 2 → ∃ answer, secondRight j = .ok answer ∧
      Unauthentic guardedCrates parsed guardedArtifact answer := by
    intro j lower upper
    obtain rfl : j = 1 := by omega
    exact ⟨"a", rfl, wrong⟩
  have ending := twice secondRight (unlockGuarded secondRight).1 (unlockGuarded secondRight).2
    (unlockGuarded secondRight).2.history 2 "b" (unlockGuarded_ran secondRight)
    (List.append_nil _).symm (.inr ⟨by decide, by decide, earlier⟩) rfl right
    (calmHost guardedCrates) false none (fun _ => .ok "b") (freshWorld guardedTree)
    (unlockGuarded fun _ => .ok "b").1 (unlockGuarded fun _ => .ok "b").2 rfl rfl rfl rfl
    (unlockGuarded_ran _)
  exact sameEnding_calm _ _ _ _ _ _ _ _ ending (fun _ => rfl) (fun _ => rfl) neverCancelled_none
    neverCancelled_none

end PasswordRuns
