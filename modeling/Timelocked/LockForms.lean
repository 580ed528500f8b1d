import Timelocked.LockedArtifact

/-!
The two lock forms of the terminal interface. Each of them hands the lock use
case one text, which is classified again there, by a dash and by what exists at
that moment: the form a text came from is forgotten.
-/
namespace LockForms
open ByteCodec RunRules Base PathText FileTree Recovery LockDifficulty Lock LockedArtifact

/-- `char::is_whitespace`. -/
def isWhitespace (character : Char) : Bool :=
  let code := character.toNat
  (9 ≤ code && code ≤ 13) || code = 0x20 || code = 0x85 || code = 0xA0 || code = 0x1680 ||
    (0x2000 ≤ code && code ≤ 0x200A) || code = 0x2028 || code = 0x2029 || code = 0x202F ||
    code = 0x205F || code = 0x3000

/-- `str::trim`. -/
def trim (text : String) : String :=
  let started := text.toList.dropWhile isWhitespace
  String.ofList (started.reverse.dropWhile isWhitespace).reverse

structure App where
  ensureSessionCalibration : Except Error UInt64
  lockModulusBits : Nat

structure LockFileFormState where
  inputPath : String
  outputPath : String
  targetDelay : String
  password : String
  passwordConfirmation : String
  profileIndex : Nat

structure LockTextFormState where
  inputText : String
  outputPath : String
  targetDelay : String
  password : String
  passwordConfirmation : String
  profileIndex : Nat

def passwordFromFields (password confirmation : String) : Except String (Option String) :=
  if password ≠ confirmation then .error "Password and confirmation do not match."
  else if password = "" then .ok none
  else .ok (some password)

def profileIdForIndex (index : Nat) : String :=
  (profiles[index]?.map HardwareProfile.id).getD currentMachineProfileId

def formRate (app : App) (profile : String) : Except String (Option UInt64) :=
  if isCurrentMachineProfileId profile = true then
    (app.ensureSessionCalibration.map some).mapError describe
  else .ok none

/-- Both forms, which differ in what their first field is called. -/
def buildLockRequest (app : App) (inputRequired outputRequired : String)
    (input output target password confirmation : String) (profileIndex : Nat) :
    Except String LockRequest := do
  let input := trim input
  rejectIf (input = "") inputRequired
  let output := trim output
  rejectIf (output = "") outputRequired
  let target := trim target
  rejectIf (target = "") "Target delay is required (examples: 6h, 3d, 2w)."
  let password ← passwordFromFields password confirmation
  let profile := profileIdForIndex profileIndex
  let currentMachineIterationsPerSecond ← formRate app profile
  pure {
    input := input
    output := some (ofText output)
    modulusBits := app.lockModulusBits
    target := some target
    iterations := none
    hardwareProfile := some profile
    currentMachineIterationsPerSecond := currentMachineIterationsPerSecond
    password := password
    verify := false }

def buildLockFileRequest (app : App) (state : LockFileFormState) : Except String LockRequest :=
  buildLockRequest app "Input file is required." "Output timelocked file is required."
    state.inputPath state.outputPath state.targetDelay state.password state.passwordConfirmation
    state.profileIndex

def buildLockTextRequest (app : App) (state : LockTextFormState) : Except String LockRequest :=
  buildLockRequest app "Input text is required."
    "Output timelocked file is required for text lock." state.inputText state.outputPath
    state.targetDelay state.password state.passwordConfirmation state.profileIndex

/-- Nothing of a form's first field but its trimmed text reaches the request. -/
theorem buildLockRequest_ok (app : App) (inputRequired outputRequired : String)
    (input output target password confirmation : String) (profileIndex : Nat)
    (request : LockRequest)
    (built : buildLockRequest app inputRequired outputRequired input output target password
      confirmation profileIndex = .ok request) :
    request.input = trim input ∧ trim input ≠ "" ∧ request.output = some (ofText (trim output)) ∧
      request.modulusBits = app.lockModulusBits ∧
      passwordFromFields password confirmation = .ok request.password := by
  obtain ⟨_, present, b₁⟩ := (bind_eq_ok _ _ _).mp built
  obtain ⟨_, _, b₂⟩ := (bind_eq_ok _ _ _).mp b₁
  obtain ⟨_, _, b₃⟩ := (bind_eq_ok _ _ _).mp b₂
  obtain ⟨password', secret, b₄⟩ := (bind_eq_ok _ _ _).mp b₃
  obtain ⟨_, _, returned⟩ := (bind_eq_ok _ _ _).mp b₄
  cases returned
  rw [rejectIf_eq_ok] at present
  exact ⟨rfl, present, rfl, rfl, secret⟩

theorem holds_unique (crates : Crates) (password name name' : Option String)
    (plaintext plaintext' artifact : Bytes) (holds : Holds crates password name plaintext artifact)
    (holds' : Holds crates password name' plaintext' artifact) :
    name' = name ∧ plaintext' = plaintext := by
  obtain ⟨parsed, key, opens, named, _, keyed⟩ := holds.opens
  obtain ⟨parsed', key', opens', named', _, keyed'⟩ := holds'.opens
  have sameParsed := opens'.read
  rw [opens.read] at sameParsed
  obtain rfl := Except.ok.inj sameParsed
  rw [keyed] at keyed'
  obtain rfl := Except.ok.inj keyed'
  refine ⟨named'.symm.trans named, ?_⟩
  obtain ⟨region, stream, located, rebuilt, decrypts⟩ := opens.stream
  obtain ⟨region', stream', located', rebuilt', decrypts'⟩ := opens'.stream
  rw [located] at located'
  obtain rfl := Except.ok.inj located'
  rw [rebuilt] at rebuilt'
  obtain rfl := Except.ok.inj rebuilt'
  have never := neverCancelled_none
  obtain ⟨_, stop, ran, _, wrote⟩ :=
    decrypts (calmHost crates) .memory false none (freshWorld .bare) rfl trivial never
  obtain ⟨_, stop', ran', _, wrote'⟩ :=
    decrypts' (calmHost crates) .memory false none (freshWorld .bare) rfl trivial never
  rw [ran] at ran'
  obtain ⟨_, rfl⟩ := Prod.mk.inj ran'
  exact List.append_cancel_left (wrote'.sink.symm.trans wrote.sink)

section Forms
variable (host : LockHost) (tree : Tree) (password : Option String) (artifact : Bytes)

/-- The artifact holds the file the field names as it stands, under that file's
name. -/
def LocksFile (state : LockFileFormState) : Prop :=
  ∃ contents name,
    tree.readFile host.cwd (ofText state.inputPath) = .ok contents ∧
    fileName (ofText state.inputPath) = some name ∧
    Holds host.crates password (some (String.ofList name)) contents artifact

def LocksText (state : LockTextFormState) : Prop :=
  Holds host.crates password none (asBytes state.inputText) artifact

def SameFile (path other : Path) : Prop :=
  tree.readFile host.cwd path = tree.readFile host.cwd other ∧ fileName path = fileName other

/-- The field has no white space around it, is a path to something, and is not
taken for standard input. With white space around it, the file without may happen
to be the same. -/
def NamesFile (state : LockFileFormState) : Prop :=
  trim state.inputPath ≠ "-" ∧
    tree.pathExists host.cwd (ofText (trim state.inputPath)) = true ∧
    (trim state.inputPath = state.inputPath ∨
      SameFile host tree (ofText state.inputPath) (ofText (trim state.inputPath)))

/-- The field is left as it is, and is neither a path to something nor taken for
standard input, unless standard input happens to hold the same. -/
def StaysText (state : LockTextFormState) : Prop :=
  if trim state.inputText = "-" then host.stdin = asBytes state.inputText
  else tree.pathExists host.cwd (ofText (trim state.inputText)) = false ∧
    trim state.inputText = state.inputText

end Forms

section Lock
variable (host : LockHost) (trusted : Trusted host) (onProgress : Bool)
  (cancellation : Option CancellationToken) (request : LockRequest)
  (bits : request.modulusBits < 65536) (response : LockResponse) (before after : World)
  (locked : executeWithCancel host onProgress cancellation request before = (.ok response, after))
  (artifact : Bytes) (left : after.tree.readFile host.cwd response.outputPath = .ok artifact)
  (addressable : artifact.length < 2 ^ 64)
include trusted bits locked left addressable

/-- The artifact of a lock holds what its input was taken for, and nothing else. -/
theorem locked_holds_iff :
    ∃ plaintext name,
      sourceHolds host before.tree
        (resolveInputSource (before.tree.pathExists host.cwd) request.input) =
          some (plaintext, name) ∧
      ∀ name' plaintext', Holds host.crates request.password name' plaintext' artifact ↔
        name' = name ∧ plaintext' = plaintext := by
  obtain ⟨_, plaintext, name, _, rfl, _, _, held, _, readable, holding⟩ := executeWithCancel_ok
    host trusted onProgress cancellation request bits response before after locked
  rw [left] at readable
  obtain rfl := Except.ok.inj readable
  refine ⟨plaintext, name, held, fun name' plaintext' => ⟨?_, ?_⟩⟩
  · exact holds_unique host.crates request.password name name' plaintext plaintext' artifact
      (holding addressable)
  · rintro ⟨rfl, rfl⟩
    exact holding addressable

theorem lockFileForm_iff (state : LockFileFormState) (input : request.input = trim state.inputPath) :
    LocksFile host before.tree request.password artifact state ↔
      NamesFile host before.tree state := by
  obtain ⟨plaintext, name, held, unique⟩ := locked_holds_iff host trusted onProgress cancellation
    request bits response before after locked artifact left addressable
  rw [input] at held
  unfold LocksFile NamesFile
  cases kind : resolveInputSource (before.tree.pathExists host.cwd) (trim state.inputPath) with
  | stdin =>
      -- the field is a dash, and nothing is recorded as a name
      rw [kind] at held
      cases held
      constructor
      · rintro ⟨_, _, _, _, holds⟩
        cases ((unique _ _).mp holds).1
      · rintro ⟨named, _⟩
        exact absurd (resolveInputSource_stdin _ _ kind) named
  | text text =>
      -- nothing is there, so the path itself was locked
      rw [kind] at held
      cases held
      obtain ⟨_, _, missing⟩ := resolveInputSource_text _ _ _ kind
      constructor
      · rintro ⟨_, _, _, _, holds⟩
        cases ((unique _ _).mp holds).1
      · rintro ⟨_, there, _⟩
        rw [missing] at there
        cases there
  | file path =>
      -- the file without the white space was locked
      rw [kind] at held
      obtain ⟨same, named, there⟩ := resolveInputSource_file _ _ _ kind
      subst same
      obtain ⟨read, last, called, _, rfl⟩ :=
        sourceHolds_file host before.tree _ (ofText_ne_nil _) plaintext name held
      constructor
      · rintro ⟨contents, name', found, calledSo, holds⟩
        obtain ⟨sameName, rfl⟩ := (unique _ _).mp holds
        obtain rfl := String.ofList_injective (Option.some.inj sameName)
        exact ⟨named, there, .inr ⟨found.trans read.symm, calledSo.trans called.symm⟩⟩
      · rintro ⟨_, _, spelled⟩
        obtain ⟨found, calledSo⟩ :
            SameFile host before.tree (ofText state.inputPath) (ofText (trim state.inputPath)) := by
          rcases spelled with plain | same
          · rw [plain]
            exact ⟨rfl, rfl⟩
          · exact same
        exact ⟨plaintext, last, found.trans read, calledSo.trans called,
          (unique _ _).mpr ⟨rfl, rfl⟩⟩

theorem lockTextForm_iff (state : LockTextFormState) (input : request.input = trim state.inputText) :
    LocksText host request.password artifact state ↔ StaysText host before.tree state := by
  obtain ⟨plaintext, name, held, unique⟩ := locked_holds_iff host trusted onProgress cancellation
    request bits response before after locked artifact left addressable
  rw [input] at held
  rw [LocksText, unique, StaysText]
  cases kind : resolveInputSource (before.tree.pathExists host.cwd) (trim state.inputText) with
  | stdin =>
      rw [kind] at held
      cases held
      rw [if_pos (resolveInputSource_stdin _ _ kind)]
      exact ⟨fun same => same.2.symm, fun same => ⟨rfl, same.symm⟩⟩
  | text text =>
      rw [kind] at held
      cases held
      obtain ⟨rfl, named, missing⟩ := resolveInputSource_text _ _ _ kind
      rw [if_neg named]
      constructor
      · rintro ⟨_, same⟩
        exact ⟨missing, (asBytes_injective same).symm⟩
      · rintro ⟨_, same⟩
        exact ⟨rfl, congrArg asBytes same.symm⟩
  | file path =>
      -- the text names something, whose contents were locked under its name
      rw [kind] at held
      obtain ⟨same, named, there⟩ := resolveInputSource_file _ _ _ kind
      subst same
      obtain ⟨_, last, _, _, rfl⟩ :=
        sourceHolds_file host before.tree _ (ofText_ne_nil _) plaintext name held
      rw [if_neg named]
      constructor
      · rintro ⟨nameless, _⟩
        cases nameless
      · rintro ⟨missing, _⟩
        rw [there] at missing
        cases missing

end Lock

/-- What a form's lock left is what the form says it locks: the named file,
exactly if there is something at its path and no white space around it; the text,
exactly if it is nothing but a text. -/
theorem forms_lock (host : LockHost) (trusted : Trusted host) (onProgress : Bool)
    (cancellation : Option CancellationToken) (app : App) (bits : app.lockModulusBits < 65536)
    (request : LockRequest) (response : LockResponse) (before after : World)
    (locked : executeWithCancel host onProgress cancellation request before =
      (.ok response, after))
    (artifact : Bytes) (left : after.tree.readFile host.cwd response.outputPath = .ok artifact)
    (addressable : artifact.length < 2 ^ 64) :
    (∀ state, buildLockFileRequest app state = .ok request →
      (LocksFile host before.tree request.password artifact state ↔
        NamesFile host before.tree state)) ∧
    (∀ state, buildLockTextRequest app state = .ok request →
      (LocksText host request.password artifact state ↔ StaysText host before.tree state)) := by
  constructor
  · intro state built
    obtain ⟨input, _, _, modulus, _⟩ := buildLockRequest_ok _ _ _ _ _ _ _ _ _ _ built
    exact lockFileForm_iff host trusted onProgress cancellation request (modulus ▸ bits) response
      before after locked artifact left addressable state input
  · intro state built
    obtain ⟨input, _, _, modulus, _⟩ := buildLockRequest_ok _ _ _ _ _ _ _ _ _ _ built
    exact lockTextForm_iff host trusted onProgress cancellation request (modulus ▸ bits) response
      before after locked artifact left addressable state input

/-! One request that both forms make. Where there is no file it is a text, and
where there is one it is that file. -/

def formApp : App := ⟨.ok 1, 2048⟩
def fileForm : LockFileFormState := ⟨"f", "o", "1s", "", "", 0⟩
def textForm : LockTextFormState := ⟨"f", "o", "1s", "", "", 0⟩

def formRequest : LockRequest where
  input := "f"
  output := some [['o']]
  modulusBits := 2048
  target := some "1s"
  iterations := none
  hardwareProfile := some "laptop-2024"
  currentMachineIterationsPerSecond := none
  password := none
  verify := false

theorem fileForm_request : buildLockFileRequest formApp fileForm = .ok formRequest := rfl

theorem textForm_request : buildLockTextRequest formApp textForm = .ok formRequest := rfl

/-- The same path with a blank after it, as the file browser puts one there. -/
def spacedForm : LockFileFormState := ⟨"f ", "o", "1s", "", "", 0⟩

theorem spacedForm_request : buildLockFileRequest formApp spacedForm = .ok formRequest := rfl

def namedTree : Tree := Tree.bare.insert ['f'] [] [7] rfl Tree.bare.root rfl

def spacedTree : Tree := namedTree.insert ['f', ' '] [] [8] rfl namedTree.root rfl

def lockForm (tree : Tree) : Except Error LockResponse × World :=
  executeWithCancel (keepingHost []) false none formRequest (freshWorld tree)

def lockedForm : LockResponse := ⟨["o.timelocked".toList], 250000, "laptop-2024", 1⟩

/-- The request is met in each of the three, and what it leaves is short. -/
theorem lockForm_runs : ∀ tree ∈ [Tree.bare, namedTree, spacedTree],
    (lockForm tree).1 = .ok lockedForm ∧
      (lockForm tree).2.tree.readFile [] ["o.timelocked".toList] =
        .ok (leftBy (lockForm tree)) ∧
      (leftBy (lockForm tree)).length < 2 ^ 64 := by
  decide +kernel

theorem lockForm_ok (tree : Tree) (success : (lockForm tree).1 = .ok lockedForm) :
    lockForm tree = (.ok lockedForm, (lockForm tree).2) := by
  rw [← success]

theorem forms_lock_one :
    (LocksFile (keepingHost []) namedTree none (leftBy (lockForm namedTree)) fileForm ↔
      NamesFile (keepingHost []) namedTree fileForm) ∧
    (LocksText (keepingHost []) none (leftBy (lockForm .bare)) textForm ↔
      StaysText (keepingHost []) Tree.bare textForm) := by
  obtain ⟨okBare, leftBare, shortBare⟩ := lockForm_runs .bare (by simp)
  obtain ⟨okNamed, leftNamed, shortNamed⟩ := lockForm_runs namedTree (by simp)
  constructor
  · exact (forms_lock (keepingHost []) (keepingHost_trusted []) false none formApp (by decide)
      formRequest lockedForm (freshWorld namedTree) (lockForm namedTree).2
      (lockForm_ok namedTree okNamed) _ leftNamed shortNamed).1 fileForm fileForm_request
  · exact (forms_lock (keepingHost []) (keepingHost_trusted []) false none formApp (by decide)
      formRequest lockedForm (freshWorld .bare) (lockForm .bare).2
      (lockForm_ok .bare okBare) _ leftBare shortBare).2 textForm textForm_request

/-- The file form locks a path that names nothing as a text, and the file at the
trimmed path for the one that was chosen; the text form locks the contents of a
file its text happens to name. -/
theorem forms_confused :
    (buildLockFileRequest formApp fileForm = .ok formRequest ∧
      (lockForm .bare).1 = .ok lockedForm ∧
      ¬ LocksFile (keepingHost []) .bare none (leftBy (lockForm .bare)) fileForm) ∧
    (buildLockFileRequest formApp spacedForm = .ok formRequest ∧
      (lockForm spacedTree).1 = .ok lockedForm ∧
      ¬ LocksFile (keepingHost []) spacedTree none (leftBy (lockForm spacedTree)) spacedForm) ∧
    (buildLockTextRequest formApp textForm = .ok formRequest ∧
      (lockForm namedTree).1 = .ok lockedForm ∧
      ¬ LocksText (keepingHost []) none (leftBy (lockForm namedTree)) textForm) := by
  obtain ⟨okBare, _⟩ := lockForm_runs .bare (by simp)
  obtain ⟨okNamed, leftNamed, shortNamed⟩ := lockForm_runs namedTree (by simp)
  obtain ⟨okSpaced, leftSpaced, shortSpaced⟩ := lockForm_runs spacedTree (by simp)
  refine ⟨⟨fileForm_request, okBare, ?_⟩, ⟨spacedForm_request, okSpaced, ?_⟩,
    textForm_request, okNamed, ?_⟩
  · rintro ⟨_, _, read, _⟩
    cases read
  · intro kept
    have names := (lockFileForm_iff (keepingHost []) (keepingHost_trusted []) false none formRequest
      (by decide) lockedForm (freshWorld spacedTree) (lockForm spacedTree).2
      (lockForm_ok spacedTree okSpaced) _ leftSpaced shortSpaced spacedForm rfl).mp kept
    rcases names.2.2 with plain | ⟨_, called⟩
    · exact absurd plain (by decide +kernel)
    · exact absurd called (by decide +kernel)
  · intro kept
    have stays := (lockTextForm_iff (keepingHost []) (keepingHost_trusted []) false none formRequest
      (by decide) lockedForm (freshWorld namedTree) (lockForm namedTree).2
      (lockForm_ok namedTree okNamed) _ leftNamed shortNamed textForm rfl).mp kept
    have there : namedTree.pathExists [] (ofText (trim "f")) = true := by decide +kernel
    rw [StaysText, if_neg (by decide +kernel)] at stays
    have clash : true = false := there.symm.trans stays.1
    cases clash

end LockForms
