import Timelocked.FileTree
import Timelocked.RunRules

/-!
Errors, and the world a run acts in. Everything outside the repository that the
code calls is a parameter: the cryptographic crates as functions, the operating
system and the clock as oracles that may answer differently at every call. A
call leaves an event behind, and an oracle sees the events so far, so a token
may be cancelled and a disk may fail at any point of a run.
-/
namespace Base
open ByteCodec FileTree PathText RunRules

inductive Error where
  | io (kind : IoErrorKind)
  | invalidArgument (message : String)
  | invalidFormat (message : String)
  | unsupportedVersion (version : UInt8)
  | outputExists (path : Path)
  | crypto (message : String)
  | verification (message : String)
  | cancelled
  /-- No error of the source: the thread unwinds. -/
  | panicked (message : String)
  deriving DecidableEq, Repr

def describeIo : IoErrorKind → String
  | .notFound => "No such file or directory (os error 2)"
  | .notADirectory => "Not a directory (os error 20)"
  | .isADirectory => "Is a directory (os error 21)"
  | .alreadyExists => "File exists (os error 17)"
  | .invalidFilename => "File name too long (os error 36)"
  | .resourceBusy => "Device or resource busy (os error 16)"
  | .unexpectedEof => "failed to fill whole buffer"
  | .other => "other error"

def describePath (path : Path) : String :=
  String.ofList (List.intercalate ['/'] path)

def describe : Error → String
  | .io kind => "io error: " ++ describeIo kind
  | .invalidArgument message => "invalid argument: " ++ message
  | .invalidFormat message => "invalid format: " ++ message
  | .unsupportedVersion version => "unsupported format version: " ++ toString version
  | .outputExists path => "output already exists: " ++ describePath path
  | .crypto message => "cryptographic error: " ++ message
  | .verification message => "verification failed: " ++ message
  | .cancelled => "operation cancelled"
  | .panicked message => message

/-- `read_exact` on an input that is too short. -/
def eof : Error := .io .unexpectedEof

/-- What a run has done so far, seen from outside. The last two are not calls
of the program: a puzzle solved to its end, and a message sealed by the cipher. -/
inductive Event where
  | poll
  | progress (phase : String) (current total : Nat)
  | call
  | random
  | prompt (attempt : Nat) (previousAttemptFailed : Bool)
  | solved
  | sealed (nonce : Block 24) (aad message ciphertext : Bytes)
  deriving DecidableEq

/-- The newest event first. -/
abbrev History := List Event

structure World where
  tree : Tree
  /-- What the open writer holds. -/
  sink : Bytes
  /-- The puzzle solution an unlock run keeps for its next password attempt. -/
  cachedTimelockMask : Option (Block 32)
  history : History

inductive RsError where
  | tooManyShards
  | tooFewShardsPresent
  | other (message : String)
  deriving DecidableEq, Repr

structure Crates where
  crc32c : Bytes → UInt32
  blake3 : Bytes → Block 32
  encrypt : Block 32 → Block 24 → Bytes → Bytes → Option Bytes
  decrypt : Block 32 → Block 24 → Bytes → Bytes → Option Bytes
  rsNew : Nat → Nat → Except RsError Unit
  rsEncode : Nat → Nat → List Bytes → Except RsError (List Bytes)
  rsReconstruct : Nat → Nat → List (Option Bytes) → Except RsError (List (Option Bytes))
  argon2Params : UInt32 → UInt32 → UInt32 → Except String Unit
  argon2Hash : UInt32 → UInt32 → UInt32 → Bytes → Bytes → Except String (Block 32)
  rfc3339 : UInt64 → Option String

/-- The cipher, as far as its documentation promises it: what it seals it opens,
and its tag takes sixteen bytes. -/
structure Aead (crates : Crates) : Prop where
  opens : ∀ keyBytes nonce aad message ciphertext,
    crates.encrypt keyBytes nonce aad message = some ciphertext →
      crates.decrypt keyBytes nonce aad ciphertext = some message ∧
        ciphertext.length = message.length + 16

structure Host where
  crates : Crates
  cwd : Location
  fault : History → Option IoErrorKind
  random : History → (width : Nat) → Block width

abbrev CancellationToken := History → Bool

abbrev Op := Run Error World

def Host.Healthy (host : Host) : Prop := ∀ history, host.fault history = none

def emit (event : Event) : Op Unit :=
  Run.modify fun world => { world with history := event :: world.history }

def ensureNotCancelled (cancellation : Option CancellationToken) : Op Unit := fun world =>
  match cancellation with
  | none => (.ok (), world)
  | some isCancelled =>
      let polled := { world with history := .poll :: world.history }
      if isCancelled world.history then (.error .cancelled, polled) else (.ok (), polled)

/-- A call of the operating system that the disk may fail. -/
def call (host : Host) : Op Unit := fun world =>
  let called := { world with history := .call :: world.history }
  match host.fault world.history with
  | some kind => (.error (.io kind), called)
  | none => (.ok (), called)

def draw {α : Type} (generator : History → α) : Op α := fun world =>
  (.ok (generator world.history), { world with history := .random :: world.history })

def fillBytes (host : Host) (width : Nat) : Op (Block width) :=
  draw fun history => host.random history width

/-- What a function writes to: memory, which takes everything, or a temporary
file, which the disk may refuse. -/
inductive Writer where
  | memory
  | tempFile
  deriving DecidableEq, Repr

def append (bytes : Bytes) : Op Unit :=
  Run.modify fun world => { world with sink := world.sink ++ bytes }

def writeAll (host : Host) (writer : Writer) (bytes : Bytes) : Op Unit :=
  match writer with
  | .memory => append bytes
  | .tempFile => do
      call host
      append bytes

def readFile (host : Host) (path : Path) : Op Bytes := do
  call host
  let tree ← Run.read World.tree
  Run.lift ((tree.readFile host.cwd path).mapError .io)

def createDirAll (host : Host) (path : Path) : Op Unit := do
  call host
  fun world =>
    let (outcome, tree) :=
      Tree.createDirAll host.cwd ((components path).length + 1) path world.tree
    (outcome.mapError .io, { world with tree := tree })

/-- `NamedTempFile::new_in`: the writer starts empty. A temporary file is no
node of the tree, and dropping it leaves nothing. -/
def newTempIn (host : Host) (dir : Path) : Op Unit := do
  call host
  let tree ← Run.read World.tree
  Run.lift ((tree.holdsTemp host.cwd dir).mapError .io)
  Run.modify fun world => { world with sink := [] }

def persist (host : Host) (path : Path) (contents : Bytes) : Op Unit := do
  call host
  fun world =>
    match world.tree.persist host.cwd path contents with
    | .ok tree => (.ok (), { world with tree := tree })
    | .error kind => (.error (.io kind), world)

def capture {α : Type} (run : Op α) : Op (α × Bytes) := fun world =>
  match run { world with sink := [] } with
  | (.ok value, world') => (.ok (value, world'.sink), { world' with sink := world.sink })
  | (.error reason, world') => (.error reason, { world' with sink := world.sink })

structure Seal where
  nonce : Block 24
  aad : Bytes
  message : Bytes
  ciphertext : Bytes
  deriving DecidableEq

def Event.sealing : Event → Option Seal
  | .sealed nonce aad message ciphertext => some ⟨nonce, aad, message, ciphertext⟩
  | _ => none

def World.seals (world : World) : List Seal := world.history.filterMap Event.sealing

structure Quiet (before after : World) : Prop where
  tree : after.tree = before.tree
  sink : after.sink = before.sink
  seals : after.seals = before.seals

theorem quiet_refl (world : World) : Quiet world world := ⟨rfl, rfl, rfl⟩

theorem quiet_trans (a b c : World) (first : Quiet a b) (second : Quiet b c) : Quiet a c :=
  ⟨second.tree.trans first.tree, second.sink.trans first.sink, second.seals.trans first.seals⟩

theorem call_quiet (host : Host) : Run.Keeps Quiet (call host) := by
  intro world
  unfold call
  dsimp only
  split <;> exact ⟨rfl, rfl, rfl⟩

theorem draw_quiet {α : Type} (generator : History → α) : Run.Keeps Quiet (draw generator) :=
  fun _ => ⟨rfl, rfl, rfl⟩

theorem fillBytes_quiet (host : Host) (width : Nat) : Run.Keeps Quiet (fillBytes host width) :=
  fun _ => ⟨rfl, rfl, rfl⟩

def emitProgress (onProgress : Bool) (phase : String) (current total : Nat) : Op Unit :=
  if onProgress then emit (.progress phase current total) else pure ()

theorem emitProgress_ok (onProgress : Bool) (phase : String) (current total : Nat)
    (world : World) :
    ∃ world', emitProgress onProgress phase current total world = (.ok (), world') ∧
      Quiet world world' := by
  cases onProgress with
  | false => exact ⟨world, rfl, quiet_refl world⟩
  | true => exact ⟨_, rfl, ⟨rfl, rfl, rfl⟩⟩

/-- Without a token nothing is ever cancelled. -/
@[simp] theorem ensureNotCancelled_none (world : World) :
    ensureNotCancelled none world = (.ok (), world) := rfl

@[simp] theorem writeAll_memory (host : Host) (bytes : Bytes) (world : World) :
    writeAll host .memory bytes world =
      (.ok (), { world with sink := world.sink ++ bytes }) := rfl

structure Wrote (bytes : Bytes) (before after : World) : Prop where
  tree : after.tree = before.tree
  sink : after.sink = before.sink ++ bytes
  seals : after.seals = before.seals

theorem quiet_wrote {bytes : Bytes} {a b c : World} (first : Quiet a b) (second : Wrote bytes b c) :
    Wrote bytes a c :=
  ⟨second.tree.trans first.tree, by rw [second.sink, first.sink], second.seals.trans first.seals⟩

theorem wrote_quiet {bytes : Bytes} {a b c : World} (first : Wrote bytes a b) (second : Quiet b c) :
    Wrote bytes a c :=
  ⟨second.tree.trans first.tree, second.sink.trans first.sink, second.seals.trans first.seals⟩

theorem wrote_wrote {front later : Bytes} {a b c : World} (first : Wrote front a b)
    (second : Wrote later b c) : Wrote (front ++ later) a c :=
  ⟨second.tree.trans first.tree, by rw [second.sink, first.sink, List.append_assoc],
    second.seals.trans first.seals⟩

theorem writeAll_ok (host : Host) (writer : Writer) (bytes : Bytes) (before after : World)
    (written : writeAll host writer bytes before = (.ok (), after)) :
    Wrote bytes before after := by
  cases writer with
  | memory =>
      cases written
      exact ⟨rfl, rfl, rfl⟩
  | tempFile =>
      obtain ⟨_, called, success, appended⟩ := (Run.bind_eq_ok _ _ _ _ _).mp written
      have quiet := call_quiet host before
      rw [success] at quiet
      cases appended
      exact quiet_wrote quiet ⟨rfl, rfl, rfl⟩

theorem capture_eq_ok {α : Type} (run : Op α) (value : α) (bytes : Bytes) (before after : World) :
    capture run before = (.ok (value, bytes), after) ↔
      ∃ inner, run { before with sink := [] } = (.ok value, inner) ∧ bytes = inner.sink ∧
        after = { inner with sink := before.sink } := by
  unfold capture
  rcases outcome : run { before with sink := [] } with ⟨result | reason, inner⟩
  · simp
  · simp only [Prod.mk.injEq, Except.ok.injEq]
    constructor
    · rintro ⟨⟨rfl, rfl⟩, rfl⟩
      exact ⟨inner, ⟨rfl, rfl⟩, rfl, rfl⟩
    · rintro ⟨_, ⟨rfl, rfl⟩, rfl, rfl⟩
      exact ⟨⟨rfl, rfl⟩, rfl⟩

def NeverCancelled (cancellation : Option CancellationToken) : Prop :=
  ∀ isCancelled ∈ cancellation, ∀ history, isCancelled history = false

theorem neverCancelled_none : NeverCancelled none := by
  intro isCancelled given
  cases given

theorem ensureNotCancelled_ok (cancellation : Option CancellationToken)
    (never : NeverCancelled cancellation) (world : World) :
    ∃ after, ensureNotCancelled cancellation world = (.ok (), after) ∧ Quiet world after := by
  cases cancellation with
  | none => exact ⟨world, rfl, quiet_refl world⟩
  | some isCancelled =>
      have alive : isCancelled world.history = false := never isCancelled rfl world.history
      refine ⟨{ world with history := .poll :: world.history }, ?_, ⟨rfl, rfl, rfl⟩⟩
      simp [ensureNotCancelled, alive]

theorem call_ok (host : Host) (healthy : host.Healthy) (world : World) :
    ∃ after, call host world = (.ok (), after) ∧ Quiet world after := by
  refine ⟨{ world with history := .call :: world.history }, ?_, ⟨rfl, rfl, rfl⟩⟩
  simp [call, healthy world.history]

def Writer.Takes (host : Host) : Writer → Prop
  | .memory => True
  | .tempFile => host.Healthy

theorem writeAll_takes (host : Host) (writer : Writer) (takes : writer.Takes host)
    (bytes : Bytes) (world : World) :
    ∃ after, writeAll host writer bytes world = (.ok (), after) ∧ Wrote bytes world after := by
  cases writer with
  | memory => exact ⟨_, rfl, ⟨rfl, rfl, rfl⟩⟩
  | tempFile =>
      obtain ⟨called, success, quiet⟩ := call_ok host takes world
      refine ⟨{ called with sink := called.sink ++ bytes }, ?_, quiet_wrote quiet ⟨rfl, rfl, rfl⟩⟩
      exact Run.bind_of_ok success _

def World.called (world : World) : World := { world with history := .call :: world.history }

@[simp] theorem called_tree (world : World) : world.called.tree = world.tree := rfl

theorem called_quiet (world : World) : Quiet world world.called := ⟨rfl, rfl, rfl⟩

section Ready
variable (host : Host) (healthy : host.Healthy)
include healthy

theorem call_apply (world : World) :
    call host world = (.ok (), world.called) := by
  simp [call, World.called, healthy world.history]

theorem readFile_ready (path : Path) (contents : Bytes) (world : World)
    (there : world.tree.readFile host.cwd path = .ok contents) :
    readFile host path world = (.ok contents, world.called) := by
  unfold readFile
  rw [Run.bind_of_ok (call_apply host healthy world), Run.read_bind, called_tree, there]
  rfl

theorem createDirAll_ready (dir : Path) (world : World)
    (made : Tree.createDirAll host.cwd ((components dir).length + 1) dir world.tree =
      (.ok (), world.tree)) :
    createDirAll host dir world = (.ok (), world.called) := by
  refine (Run.bind_of_ok (call_apply host healthy world) _).trans ?_
  dsimp only
  rw [called_tree, made]
  rfl

theorem newTempIn_ready (dir : Path) (world : World)
    (holds : world.tree.holdsTemp host.cwd dir = .ok ()) :
    newTempIn host dir world =
      (.ok (), { world.called with sink := [] }) := by
  unfold newTempIn
  rw [Run.bind_of_ok (call_apply host healthy world), Run.read_bind, called_tree, holds]
  rfl

theorem persist_ready (path : Path) (contents : Bytes) (tree : Tree) (world : World)
    (moved : world.tree.persist host.cwd path contents = .ok tree) :
    persist host path contents world =
      (.ok (), { world.called with tree := tree }) := by
  refine (Run.bind_of_ok (call_apply host healthy world) _).trans ?_
  dsimp only
  rw [called_tree, moved]

end Ready

def Passes (related : World → World → Prop) (event : Event) : Prop :=
  ∀ world : World, related world { world with history := event :: world.history }

def Hears (related : World → World → Prop) : Prop :=
  ∀ phase current total, Passes related (.progress phase current total)

structure Watches (related : World → World → Prop) : Prop where
  refl : ∀ world, related world world
  trans : ∀ a b c, related a b → related b c → related a c
  poll : Passes related .poll
  hears : Hears related

def Makes (related : World → World → Prop) : Prop :=
  ∀ (world : World) (tree : Tree), Tree.Grown world.tree tree →
    related world { world with tree := tree }

def Moves (related : World → World → Prop) : Prop :=
  ∀ (world : World) (tree : Tree), related world { world with tree := tree }

/-- A relation that holds across all that a run does between making directories
and its rename, but for callbacks, prompts and solved puzzles. -/
structure Steady (related : World → World → Prop) : Prop where
  refl : ∀ world, related world world
  trans : ∀ a b c, related a b → related b c → related a c
  poll : Passes related .poll
  call : Passes related .call
  random : Passes related .random
  sealed : ∀ nonce aad message ciphertext, Passes related (.sealed nonce aad message ciphertext)
  sink : ∀ (world : World) (bytes : Bytes), related world { world with sink := bytes }

theorem Steady.watches {related : World → World → Prop} (steady : Steady related)
    (hears : Hears related) : Watches related :=
  ⟨steady.refl, steady.trans, steady.poll, hears⟩

section Watches
variable {related : World → World → Prop}

theorem ensureNotCancelled_keeps (refl : ∀ world, related world world)
    (poll : Passes related .poll) (cancellation : Option CancellationToken) :
    Run.Keeps related (ensureNotCancelled cancellation) := by
  intro world
  cases cancellation with
  | none => exact refl world
  | some isCancelled =>
      unfold ensureNotCancelled
      dsimp only
      split <;> exact poll world

theorem emitProgress_keeps (refl : ∀ world, related world world) (hears : Hears related)
    (onProgress : Bool) (phase : String) (current total : Nat) :
    Run.Keeps related (emitProgress onProgress phase current total) := by
  unfold emitProgress
  split
  · exact hears phase current total
  · exact Run.keeps_pure refl ()

end Watches

theorem quiet_watches : Watches Quiet where
  refl := quiet_refl
  trans := quiet_trans
  poll _ := ⟨rfl, rfl, rfl⟩
  hears _ _ _ _ := ⟨rfl, rfl, rfl⟩

theorem ensureNotCancelled_quiet (cancellation : Option CancellationToken) :
    Run.Keeps Quiet (ensureNotCancelled cancellation) :=
  ensureNotCancelled_keeps quiet_refl quiet_watches.poll cancellation

section Steady
variable {α β : Type} {related : World → World → Prop}

theorem Steady.bind (steady : Steady related) {first : Op α} {next : α → Op β}
    (firstKeeps : Run.Keeps related first) (nextKeeps : ∀ value, Run.Keeps related (next value)) :
    Run.Keeps related (first >>= next) :=
  Run.keeps_bind steady.trans firstKeeps nextKeeps

theorem Steady.lift (steady : Steady related) (value : Except Error α) :
    Run.Keeps related (Run.lift value : Op α) :=
  Run.keeps_lift steady.refl value

theorem Steady.lift_bind (steady : Steady related) {value : Except Error α} {next : α → Op β}
    (nextKeeps : ∀ value, Run.Keeps related (next value)) :
    Run.Keeps related (Run.lift value >>= next) :=
  steady.bind (steady.lift value) nextKeeps

theorem Steady.pure (steady : Steady related) (value : α) : Run.Keeps related (pure value : Op α) :=
  Run.keeps_pure steady.refl value

theorem Steady.fail (steady : Steady related) (reason : Error) :
    Run.Keeps related (Run.fail reason : Op α) :=
  Run.keeps_fail steady.refl reason

theorem Steady.read (steady : Steady related) (observe : World → α) :
    Run.Keeps related (Run.read observe : Op α) :=
  Run.keeps_read steady.refl observe

theorem emit_steady (event : Event) (passes : Passes related event) :
    Run.Keeps related (emit event) := passes

theorem emitProgress_steady (steady : Steady related) (hears : Hears related) (onProgress : Bool)
    (phase : String) (current total : Nat) :
    Run.Keeps related (emitProgress onProgress phase current total) :=
  emitProgress_keeps steady.refl hears onProgress phase current total

variable (steady : Steady related)
include steady

theorem ensureNotCancelled_steady (cancellation : Option CancellationToken) :
    Run.Keeps related (ensureNotCancelled cancellation) :=
  ensureNotCancelled_keeps steady.refl steady.poll cancellation

theorem call_steady (host : Host) : Run.Keeps related (call host) := by
  intro world
  unfold call
  dsimp only
  split <;> exact steady.call world

theorem draw_steady (generator : History → α) : Run.Keeps related (draw generator) := steady.random

theorem append_steady (bytes : Bytes) : Run.Keeps related (append bytes) :=
  fun world => steady.sink world (world.sink ++ bytes)

theorem writeAll_steady (host : Host) (writer : Writer) (bytes : Bytes) :
    Run.Keeps related (writeAll host writer bytes) := by
  cases writer with
  | memory => exact append_steady steady bytes
  | tempFile => exact steady.bind (call_steady steady host) fun _ => append_steady steady bytes

theorem readFile_steady (host : Host) (path : Path) : Run.Keeps related (readFile host path) :=
  steady.bind (call_steady steady host) fun _ =>
    steady.bind (steady.read World.tree) fun _ => steady.lift _

theorem createDirAll_steady (makes : Makes related) (host : Host) (path : Path) :
    Run.Keeps related (createDirAll host path) :=
  steady.bind (call_steady steady host) fun _ world =>
    makes world _ (Tree.createDirAll_grown host.cwd _ path world.tree)

theorem newTempIn_steady (host : Host) (dir : Path) : Run.Keeps related (newTempIn host dir) :=
  steady.bind (call_steady steady host) fun _ => steady.bind (steady.read World.tree)
    fun _ => steady.lift_bind fun _ world => steady.sink world []

theorem capture_steady {run : Op α} (kept : Run.Keeps related run) :
    Run.Keeps related (capture run) := by
  intro world
  have inner := steady.trans _ _ _ (steady.sink world []) (kept { world with sink := [] })
  unfold capture
  rcases outcome : run { world with sink := [] } with ⟨reason | value, after⟩
  · rw [outcome] at inner
    exact steady.trans _ _ _ inner (steady.sink after world.sink)
  · rw [outcome] at inner
    exact steady.trans _ _ _ inner (steady.sink after world.sink)

theorem persist_steady (moves : Moves related) (host : Host) (path : Path)
    (contents : Bytes) :
    Run.Keeps related (persist host path contents) := by
  apply steady.bind (call_steady steady host)
  intro _ world
  cases moved : world.tree.persist host.cwd path contents with
  | ok tree => simpa only [moved] using moves world tree
  | error kind => simpa only [moved] using steady.refl world

/-- A rename that fails changes nothing. -/
theorem persist_fails (host : Host) (path : Path) (contents : Bytes) :
    Run.FailsKeeping related (persist host path contents) := by
  refine Run.fails_bind steady.trans (call_steady steady host) fun _ before reason after failed => ?_
  split at failed
  · cases failed
  · cases failed
    exact steady.refl before

end Steady

theorem newTempIn_empty (host : Host) (dir : Path) (before after : World)
    (opened : newTempIn host dir before = (.ok (), after)) : after.sink = [] := by
  obtain ⟨_, _, _, s₁⟩ := (Run.bind_eq_ok _ _ _ _ _).mp opened
  obtain ⟨_, _, _, s₂⟩ := (Run.bind_eq_ok _ _ _ _ _).mp s₁
  obtain ⟨_, _, emptied⟩ := (Run.lift_bind_eq_ok _ _ _ _ _).mp s₂
  cases emptied
  rfl

def Grown (before after : World) : Prop := Tree.Grown before.tree after.tree

theorem steady_grown : Steady Grown where
  refl world := Tree.grown_refl world.tree
  trans _ _ _ first second := Tree.grown_trans _ _ _ first second
  poll world := Tree.grown_refl world.tree
  call world := Tree.grown_refl world.tree
  random world := Tree.grown_refl world.tree
  sealed _ _ _ _ world := Tree.grown_refl world.tree
  sink world _ := Tree.grown_refl world.tree

theorem makes_grown : Makes Grown := fun _ _ grown => grown

theorem hears_grown : Hears Grown := fun _ _ _ world => Tree.grown_refl world.tree

def Logged (allowed : Event → Prop) (before after : World) : Prop :=
  ∃ new, after.history = new ++ before.history ∧ ∀ event ∈ new, allowed event

theorem logged_refl (allowed : Event → Prop) (world : World) : Logged allowed world world :=
  ⟨[], rfl, fun _ member => by cases member⟩

theorem logged_trans (allowed : Event → Prop) (a b c : World) (first : Logged allowed a b)
    (second : Logged allowed b c) : Logged allowed a c := by
  obtain ⟨older, history, olderAllowed⟩ := first
  obtain ⟨newer, history', newerAllowed⟩ := second
  refine ⟨newer ++ older, by rw [history', history, List.append_assoc], fun event member => ?_⟩
  rcases List.mem_append.mp member with there | there
  · exact newerAllowed event there
  · exact olderAllowed event there

theorem logged_passes (allowed : Event → Prop) (event : Event) (may : allowed event) :
    Passes (Logged allowed) event :=
  fun _ => ⟨[event], rfl, fun _ member => List.mem_singleton.mp member ▸ may⟩

theorem logged_weaken (allowed wider : Event → Prop) (widen : ∀ event, allowed event → wider event)
    (before after : World) (logged : Logged allowed before after) : Logged wider before after := by
  obtain ⟨new, history, may⟩ := logged
  exact ⟨new, history, fun event member => widen event (may event member)⟩

theorem logged_steady (allowed : Event → Prop) (poll : allowed .poll) (call : allowed .call)
    (random : allowed .random)
    (sealed : ∀ nonce aad message ciphertext, allowed (.sealed nonce aad message ciphertext)) :
    Steady (Logged allowed) where
  refl := logged_refl allowed
  trans := logged_trans allowed
  poll := logged_passes allowed .poll poll
  call := logged_passes allowed .call call
  random := logged_passes allowed .random random
  sealed nonce aad message ciphertext :=
    logged_passes allowed _ (sealed nonce aad message ciphertext)
  sink _ _ := ⟨[], rfl, fun _ member => by cases member⟩

theorem moves_logged (allowed : Event → Prop) : Moves (Logged allowed) :=
  fun _ _ => ⟨[], rfl, fun _ member => by cases member⟩

theorem Moves.makes {related : World → World → Prop} (moves : Moves related) : Makes related :=
  fun world tree _ => moves world tree

theorem steady_logged : Steady (Logged fun _ => True) :=
  logged_steady _ trivial trivial trivial fun _ _ _ _ => trivial

theorem hears_logged : Hears (Logged fun _ => True) :=
  fun _ _ _ => logged_passes _ _ trivial

theorem makes_logged : Makes (Logged fun _ => True) := (moves_logged _).makes

theorem logged_suffix {before after : World} (logged : Logged (fun _ => True) before after) :
    before.history <:+ after.history := by
  obtain ⟨new, same, _⟩ := logged
  exact ⟨new, same.symm⟩

theorem quiet_grown (before after : World) (quiet : Quiet before after) : Grown before after := by
  unfold Grown
  rw [quiet.tree]
  exact Tree.grown_refl before.tree

theorem persist_readable (host : Host) (path : Path) (contents : Bytes) (before after : World)
    (persisted : persist host path contents before = (.ok (), after)) :
    after.tree.readFile host.cwd path = .ok contents := by
  obtain ⟨_, called, _, renamed⟩ := (Run.bind_eq_ok _ _ _ _ _).mp persisted
  split at renamed
  · rename_i tree moved
    cases renamed
    exact Tree.readFile_persisted called.tree tree host.cwd path contents moved
  · cases renamed

/-- A rename that succeeds puts the contents where the path leads. -/
theorem persist_eq_ok (host : Host) (path : Path) (contents : Bytes) (before after : World)
    (persisted : persist host path contents before = (.ok (), after)) :
    after.tree.files =
        Function.update before.tree.files (Tree.lexical host.cwd path) (some contents) ∧
      after.tree.dirs = before.tree.dirs := by
  obtain ⟨_, called, success, renamed⟩ := (Run.bind_eq_ok _ _ _ _ _).mp persisted
  have quiet := call_quiet host before
  rw [success] at quiet
  split at renamed
  · rename_i tree moved
    cases renamed
    rw [← quiet.tree]
    exact Tree.persist_eq_ok called.tree tree host.cwd path contents moved
  · cases renamed

/-! The smallest crates and the calmest host the laws of this development hold
for: a tag of zeros, and parity shards that repeat the first shard. -/

def zeros (width : Nat) : Block width := ⟨List.replicate width 0, List.length_replicate⟩

def plainCrates : Crates where
  crc32c _ := 0
  blake3 _ := zeros 32
  encrypt _ _ _ message := some (message ++ (zeros 16).1)
  decrypt _ _ _ ciphertext :=
    if ciphertext.drop (ciphertext.length - 16) = (zeros 16).1 then
      some (ciphertext.take (ciphertext.length - 16))
    else none
  rsNew _ _ := .ok ()
  rsEncode _ _ shards := .ok (shards.map fun _ => shards.headD [])
  rsReconstruct _ _ shards :=
    match shards.find? Option.isSome with
    | some present => .ok (shards.map fun _ => present)
    | none => .error .tooFewShardsPresent
  argon2Params _ _ _ := .ok ()
  argon2Hash _ _ _ _ _ := .ok (zeros 32)
  rfc3339 _ := none

theorem plainCrates_aead : Aead plainCrates := by
  refine ⟨fun _ _ _ message ciphertext sealing => ?_⟩
  obtain rfl := Option.some.inj sealing
  have length : (message ++ (zeros 16).1).length - 16 = message.length := by
    rw [List.length_append, (zeros 16).2, Nat.add_sub_cancel]
  constructor
  · simp only [plainCrates, length, List.drop_left, List.take_left, if_true]
  · rw [List.length_append, (zeros 16).2]

def calmHost (crates : Crates) : Host :=
  ⟨crates, [], fun _ => none, fun _ width => zeros width⟩

def freshWorld (tree : Tree) : World := ⟨tree, [], none, []⟩

def loneFile (contents : Bytes) : Tree := Tree.bare.insert ['a'] [] contents rfl rfl rfl

@[simp] theorem freshWorld_tree (tree : Tree) : (freshWorld tree).tree = tree := rfl

end Base
