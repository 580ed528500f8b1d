import Timelocked.LockForms
import Timelocked.PasswordAttempts

/-!
The lock command. A path given with `--in` has to be there, so a mistyped one is
refused; a positional argument that names nothing is locked as a text. Either is
classified again by the lock use case, on the same disk.
-/
namespace CommandLine
open ByteCodec RunRules Base PathText FileTree LockDifficulty Lock LockedArtifact LockForms

abbrev Command := Run String World

def shown {α : Type} (run : Op α) : Command α := fun world =>
  ((run world).1.mapError describe, (run world).2)

structure LockArgs where
  input : Option String
  inputArg : Option String
  output : Option Path
  target : Option String
  iterations : Option UInt64
  hardwareProfile : Option String
  creatorMessage : Option String
  creatorMessageFile : Option Path
  password : Option String
  verify : Bool

/-! `runtime.rs`. -/

def defaultLockModulusBits : Nat := 2048

def resolveLockModulusBits (envValue : Option String) : Nat :=
  ((envValue.bind fun value => parseU64 value.toList).map UInt64.toNat).getD defaultLockModulusBits

/-! `handlers.rs`. -/

def requiredValue {α : Type} (value : Option α) (label : String) : Except String α :=
  match value with
  | some value => .ok value
  | none => .error ("internal clap parsing error: missing " ++ label)

def passwordToSecret (password : Option String) : Except Error (Option String) :=
  match password with
  | some password =>
      if password = "" then .error (.invalidArgument "password cannot be empty")
      else .ok (some password)
  | none => .ok none

/-- `fs::read_to_string`, under the context the handler gives its failures. -/
def readCreatorMessageFile (host : LockHost) (path : Path) : Command (Option String) := fun world =>
  let context := "failed to read creator message file " ++ describePath path
  match readFile host.toHost path world with
  | (.error _, after) => (.error context, after)
  | (.ok bytes, after) =>
      match fromUtf8 bytes with
      | none => (.error context, after)
      | some message => (.ok (some message), after)

def resolveCreatorMessage (host : LockHost) (creatorMessage : Option String)
    (creatorMessageFile : Option Path) : Command (Option String) :=
  match creatorMessage, creatorMessageFile with
  | some message, none => pure (some message)
  | none, some path => readCreatorMessageFile host path
  | none, none => pure none
  | some _, some _ => pure none

def LockArgs.given (args : LockArgs) : Option String := args.input <|> args.inputArg

/-- The creator message is read and then used by nothing. -/
def runLock (host : LockHost) (modulusBits : Option String) (args : LockArgs) :
    Command LockResponse := do
  let input ← Run.lift (requiredValue args.given "lock input")
  let tree ← Run.read World.tree
  Run.lift (rejectIf (args.input.isSome ∧ input ≠ "-" ∧
    tree.pathExists host.cwd (ofText input) = false) ("input file does not exist: " ++ input))
  let _ ← resolveCreatorMessage host args.creatorMessage args.creatorMessageFile
  let password ← Run.lift ((passwordToSecret args.password).mapError describe)
  shown (executeWithCancel host true none
    { input := input
      output := args.output
      modulusBits := resolveLockModulusBits modulusBits
      target := args.target
      iterations := args.iterations
      hardwareProfile := args.hardwareProfile
      currentMachineIterationsPerSecond := none
      password := password
      verify := args.verify })

theorem resolveCreatorMessage_tree (host : LockHost) (creatorMessage : Option String)
    (creatorMessageFile : Option Path) :
    Run.Keeps (fun before after : World => after.tree = before.tree)
      (resolveCreatorMessage host creatorMessage creatorMessageFile) := by
  cases creatorMessage with
  | some message => cases creatorMessageFile <;> exact fun _ => rfl
  | none =>
      cases creatorMessageFile with
      | none => exact fun _ => rfl
      | some path =>
          intro world
          have same := PasswordAttempts.readFile_tree host.toHost path world
          unfold resolveCreatorMessage readCreatorMessageFile
          dsimp only
          rcases outcome : readFile host.toHost path world with ⟨reason | bytes, after⟩
          · rw [outcome] at same
            exact same
          · rw [outcome] at same
            dsimp only
            cases fromUtf8 bytes <;> exact same

/-- A command that succeeds is a lock of what was given. -/
theorem runLock_ok (host : LockHost) (modulusBits : Option String) (args : LockArgs)
    (response : LockResponse) (before after : World)
    (locked : runLock host modulusBits args before = (.ok response, after)) :
    ∃ request started, args.given = some request.input ∧ request.password = args.password ∧
      request.modulusBits = resolveLockModulusBits modulusBits ∧
      (args.input.isSome → request.input ≠ "-" →
        before.tree.pathExists host.cwd (ofText request.input) = true) ∧
      started.tree = before.tree ∧
      executeWithCancel host true none request started = (.ok response, after) := by
  unfold runLock at locked
  obtain ⟨input, given, l₁⟩ := (Run.lift_bind_eq_ok _ _ _ _ _).mp locked
  obtain ⟨_, _, observed, l₂⟩ := (Run.bind_eq_ok _ _ _ _ _).mp l₁
  cases observed
  obtain ⟨_, there, l₃⟩ := (Run.lift_bind_eq_ok _ _ _ _ _).mp l₂
  obtain ⟨_, started, message, l₄⟩ := (Run.bind_eq_ok _ _ _ _ _).mp l₃
  obtain ⟨password, secret, l₅⟩ := (Run.lift_bind_eq_ok _ _ _ _ _).mp l₄
  obtain ⟨succeeded, ended⟩ := Prod.mk.inj l₅
  rw [mapError_eq_ok] at succeeded secret
  rw [rejectIf_eq_ok] at there
  refine ⟨_, started, ?_, ?_, rfl, ?_, ?_, Prod.ext succeeded ended⟩
  · cases named : args.given with
    | none =>
        rw [named] at given
        cases given
    | some value =>
        rw [named] at given
        cases given
        rfl
  · dsimp only
    unfold passwordToSecret at secret
    split at secret
    · rename_i passphrase spelled
      split at secret
      · cases secret
      · cases secret
        exact spelled.symm
    · rename_i spelled
      cases secret
      exact spelled.symm
  · intro explicit named
    by_contra missing
    exact there ⟨explicit, named, by simpa using missing⟩
  · exact Run.keeps_outcome (resolveCreatorMessage_tree host _ _) message

/-- What an artifact of the command holds: standard input for a dash; the file
at the path, under its own name, if something is there; otherwise the argument
itself, letter for letter, and only where it was not given with `--in`. -/
theorem runLock_holds (host : LockHost) (trusted : Trusted host) (modulusBits : Option String)
    (bits : resolveLockModulusBits modulusBits < 65536) (args : LockArgs)
    (response : LockResponse) (before after : World)
    (locked : runLock host modulusBits args before = (.ok response, after))
    (artifact : Bytes) (left : after.tree.readFile host.cwd response.outputPath = .ok artifact)
    (addressable : artifact.length < 2 ^ 64) :
    ∃ input plaintext name, args.given = some input ∧
      (∀ name' plaintext', Holds host.crates args.password name' plaintext' artifact ↔
        name' = name ∧ plaintext' = plaintext) ∧
      if input = "-" then name = none ∧ plaintext = host.stdin
      else if before.tree.pathExists host.cwd (ofText input) = true then
        before.tree.readFile host.cwd (ofText input) = .ok plaintext ∧
          ∃ last, fileName (ofText input) = some last ∧ name = some (String.ofList last)
      else args.input = none ∧ name = none ∧ plaintext = asBytes input := by
  obtain ⟨request, started, given, secret, modulus, guarded, same, ran⟩ :=
    runLock_ok host modulusBits args response before after locked
  obtain ⟨plaintext, name, held, unique⟩ := locked_holds_iff host trusted true none request
    (modulus ▸ bits) response started after ran artifact left addressable
  rw [secret] at unique
  rw [same] at held
  refine ⟨request.input, plaintext, name, given, unique, ?_⟩
  cases kind : resolveInputSource (before.tree.pathExists host.cwd) request.input with
  | stdin =>
      rw [kind] at held
      cases held
      rw [if_pos (resolveInputSource_stdin _ _ kind)]
      exact ⟨rfl, rfl⟩
  | file path =>
      rw [kind] at held
      obtain ⟨rfl, named, there⟩ := resolveInputSource_file _ _ _ kind
      obtain ⟨read, last, called, _, rfl⟩ :=
        sourceHolds_file host before.tree _ (ofText_ne_nil _) plaintext name held
      rw [if_neg named, if_pos there]
      exact ⟨read, last, called, rfl⟩
  | text text =>
      rw [kind] at held
      cases held
      obtain ⟨rfl, named, missing⟩ := resolveInputSource_text _ _ _ kind
      have absent : ¬ before.tree.pathExists host.cwd (ofText request.input) = true := by
        rw [missing]
        exact Bool.false_ne_true
      rw [if_neg named, if_neg absent]
      refine ⟨?_, rfl, rfl⟩
      -- With `--in` the command would have stopped at the missing path.
      cases explicit : args.input with
      | none => rfl
      | some value => exact absurd (guarded (by rw [explicit]; rfl) named) absent

def namedArgs : LockArgs where
  input := some "f"
  inputArg := none
  output := some [['o']]
  target := some "1s"
  iterations := none
  hardwareProfile := some "laptop-2024"
  creatorMessage := none
  creatorMessageFile := none
  password := none
  verify := false

def lockNamed : Except String LockResponse × World :=
  runLock (keepingHost []) none namedArgs (freshWorld namedTree)

def namedArtifact : Bytes := (lockNamed.2.tree.files ["o.timelocked".toList]).getD []

theorem lockNamed_ok : lockNamed = (.ok lockedForm, lockNamed.2) := by
  have returned : lockNamed.1 = .ok lockedForm := by decide +kernel
  rw [← returned]

theorem runLock_holds_named :
    ∃ input plaintext name, namedArgs.given = some input ∧
      (∀ name' plaintext', Holds keepingCrates none name' plaintext' namedArtifact ↔
        name' = name ∧ plaintext' = plaintext) ∧
      if input = "-" then name = none ∧ plaintext = []
      else if namedTree.pathExists [] (ofText input) = true then
        namedTree.readFile [] (ofText input) = .ok plaintext ∧
          ∃ last, fileName (ofText input) = some last ∧ name = some (String.ofList last)
      else namedArgs.input = none ∧ name = none ∧ plaintext = asBytes input := by
  have readable : lockNamed.2.tree.readFile [] ["o.timelocked".toList] =
      .ok namedArtifact := by decide +kernel
  have short : namedArtifact.length < 2 ^ 64 := by decide +kernel
  exact runLock_holds (keepingHost []) (keepingHost_trusted []) none (by decide) namedArgs lockedForm
    (freshWorld namedTree) lockNamed.2 lockNamed_ok namedArtifact readable short

end CommandLine
