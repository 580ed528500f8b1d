import Timelocked.LockedArtifact
import Timelocked.UnlockEffects

/-!
Locking, then unlocking with the same passphrase. The kind of a payload is
inferred from the presence of a file name, so bytes from standard input come
back as a text, and only if they are one. A file comes back beside the artifact,
if the name that is free there is one the file system takes.
-/
namespace RoundTrip
open ByteCodec RunRules Base PathText FileTree Superblock ArtifactReader Recovery OutputPath Unlock
  UnlockEffects Lock LockedArtifact

def Answers (provider : Option PasswordProvider) (password : Option String) : Prop :=
  ∀ passphrase ∈ password, ∃ answer, provider = some answer ∧
    ∀ history context, answer history context = .ok passphrase

section Unlock
variable (reader : Host) (onProgress : Bool) (cancellation : Option CancellationToken)
  (provider : Option PasswordProvider) (request : UnlockRequest)
  (parsed : StoredTimelockedArtifact)

def GivesKey (kept : Option (Block 32)) (recoverFileKey : RecoverFileKeyFn)
    (key : Block 32) : Prop :=
  ∀ world, world.cachedTimelockMask = kept →
    ∃ keyed, recoverFileKey (keyRequest parsed) world = (.ok key, keyed) ∧ Quiet world keyed

def solvedMask : Block 32 :=
  PuzzleService.deriveKeyMask reader.crates (RepeatedSquaring.squarings
    parsed.superblock.timelockMaterial.modulusN parsed.superblock.iterations.toNat
    parsed.superblock.timelockMaterial.baseA)

section Uncancelled
variable (never : NeverCancelled cancellation)
include never

theorem yields_ok {α : Type} (run : Op α) (value : α)
    (yields : PuzzleService.Yields cancellation run value) (world : World) :
    ∃ after, run world = (.ok value, after) ∧ Quiet world after := by
  rcases yields world with success | ⟨may, _⟩
  · exact success
  · exact absurd never may

theorem solvePuzzleMask_gives (world : World) :
    ∃ after, PuzzleService.solvePuzzleMaskWithCancel reader.crates onProgress cancellation
        (puzzleOf (keyRequest parsed)) world = (.ok (solvedMask reader parsed), after) ∧
      Quiet world after :=
  yields_ok cancellation never _ _
    (PuzzleService.solvePuzzleMaskWithCancel_yields cancellation reader.crates onProgress _ _ rfl)
    world

theorem recoverFileKeyFromTimelock_gives (kept : Option (Block 32)) (key : Block 32)
    (passphrase : String) (unprotected : parsed.superblock.passwordProtection = none)
    (keyed : artifactKey reader.crates parsed.superblock passphrase = .ok key) :
    GivesKey parsed kept (recoverFileKeyFromTimelock reader onProgress cancellation) key := by
  intro world _
  obtain ⟨after, solved, quiet⟩ :=
    solvePuzzleMask_gives reader onProgress cancellation parsed never world
  rw [artifactKey, unprotected] at keyed
  obtain rfl := Except.ok.inj keyed
  exact ⟨after, Run.bind_of_ok solved _, quiet⟩

/-- With nothing kept, the puzzle is solved. -/
theorem cachedTimelockMask_gives (world : World) (kept : world.cachedTimelockMask = none) :
    ∃ after, cachedTimelockMask reader onProgress cancellation (keyRequest parsed) world =
        (.ok (solvedMask reader parsed), after) ∧ Quiet world after := by
  obtain ⟨after, solved, quiet⟩ :=
    solvePuzzleMask_gives reader onProgress cancellation parsed never world
  refine ⟨{ after with cachedTimelockMask := some (solvedMask reader parsed) }, ?_,
    ⟨quiet.tree, quiet.sink, quiet.seals⟩⟩
  unfold cachedTimelockMask
  rw [Run.read_bind, kept]
  dsimp only
  rw [Run.bind_of_ok solved]
  rfl

omit never in
theorem promptPassphrase_gives (passphrase : String) (answers : Answers provider (some passphrase))
    (context : PasswordPromptContext) (world : World) :
    ∃ after, promptPassphrase provider context world = (.ok passphrase, after) ∧
      Quiet world after := by
  obtain ⟨answer, rfl, always⟩ := answers passphrase rfl
  refine ⟨{ world with
    history := .prompt context.attempt context.previousAttemptFailed :: world.history }, ?_,
    ⟨rfl, rfl, rfl⟩⟩
  unfold promptPassphrase
  dsimp only
  rw [Run.read_bind, always]
  rfl

theorem recoverPasswordProtectedFileKey_gives (key : Block 32) (passphrase : String)
    (answers : Answers provider (some passphrase)) (metadata : PasswordProtectionMetadata)
    (context : PasswordPromptContext)
    (protected_ : parsed.superblock.passwordProtection = some metadata)
    (keyed : artifactKey reader.crates parsed.superblock passphrase = .ok key) :
    GivesKey parsed none (recoverPasswordProtectedFileKey reader onProgress cancellation provider
      metadata context) key := by
  intro world kept
  obtain ⟨solving, solved, quiet⟩ :=
    cachedTimelockMask_gives reader onProgress cancellation parsed never world kept
  obtain ⟨after, prompted, quiet'⟩ := promptPassphrase_gives provider passphrase answers context
    solving
  refine ⟨after, ?_, quiet_trans _ _ _ quiet quiet'⟩
  unfold recoverPasswordProtectedFileKey
  rw [Run.bind_of_ok solved, Run.bind_of_ok prompted]
  rw [artifactKey, protected_] at keyed
  exact congrArg (·, after) keyed

section Once
variable (healthy : reader.Healthy) (key : Block 32) (plaintext artifact : Bytes)
  (opens : Opens reader.crates parsed key plaintext artifact) (kept : Option (Block 32))
  (recoverFileKey : RecoverFileKeyFn) (gives : GivesKey parsed kept recoverFileKey key)
include healthy opens gives

theorem recoverPayloadToWriterWithCancel_opens (output : Writer) (world : World)
    (fresh : world.cachedTimelockMask = kept)
    (there : world.tree.readFile reader.cwd request.input = .ok artifact) :
    ∃ stats after, recoverPayloadToWriterWithCancel reader request.input parsed output
        recoverFileKey onProgress cancellation world = (.ok stats, after) ∧
      stats.plaintextBytes = plaintext.length ∧ Wrote plaintext world after := by
  obtain ⟨keyed, gotKey, quiet⟩ := gives world fresh
  obtain ⟨region, stream, located, rebuilt, decrypts⟩ := opens.stream
  have fetched : readPayloadRegionBytes reader request.input parsed keyed =
      (.ok region, keyed.called) := by
    unfold readPayloadRegionBytes
    rw [Run.bind_of_ok (readFile_ready reader healthy request.input artifact keyed
      (quiet.tree ▸ there)), located]
    rfl
  have takes : output.Takes reader := by
    cases output with
    | memory => trivial
    | tempFile => exact healthy
  obtain ⟨stats, after, decrypted, length, wrote⟩ := decrypts reader output onProgress cancellation
    keyed.called rfl takes never
  refine ⟨stats, after, ?_, length,
    quiet_wrote (quiet_trans _ _ _ quiet (called_quiet keyed)) wrote⟩
  unfold recoverPayloadToWriterWithCancel
  rw [← keyRequest, Run.bind_of_ok gotKey, Run.bind_of_ok fetched,
    Run.lift_bind_of_ok (show reconstructStream reader parsed region = .ok stream from rebuilt),
    decrypted]

theorem recoverPayloadOnce_text (text : String) (valid : fromUtf8 plaintext = some text)
    (world : World) (fresh : world.cachedTimelockMask = kept)
    (there : world.tree.readFile reader.cwd request.input = .ok artifact) :
    ∃ after, recoverPayloadOnce reader onProgress cancellation request parsed .text none
        recoverFileKey world = (.ok ⟨.text text, plaintext.length⟩, after) := by
  obtain ⟨stats, inner, recovered, length, wrote⟩ := recoverPayloadToWriterWithCancel_opens reader
    onProgress cancellation request parsed never healthy key plaintext artifact opens kept
    recoverFileKey gives .memory { world with sink := [] } fresh there
  have captured := (capture_eq_ok _ stats plaintext world { inner with sink := world.sink }).mpr
    ⟨inner, recovered, wrote.sink.symm, rfl⟩
  refine ⟨{ inner with sink := world.sink }, ?_⟩
  unfold recoverPayloadOnce
  dsimp only
  rw [Run.bind_of_ok captured]
  dsimp only
  rw [valid, length]
  rfl

/-- A file comes back where a temporary file can be made and moved to its path. -/
theorem recoverPayloadOnce_file (originalFilename : String) (path up : Path) (world : World)
    (fresh : world.cachedTimelockMask = kept)
    (there : world.tree.readFile reader.cwd request.input = .ok artifact)
    (parented : parent path = some up)
    (made : ∀ fuel, Tree.createDirAll reader.cwd (fuel + 1) up world.tree = (.ok (), world.tree))
    (holds : world.tree.holdsTemp reader.cwd up = .ok ())
    (moves : ∀ contents, ∃ tree, world.tree.persist reader.cwd path contents = .ok tree) :
    ∃ after, recoverPayloadOnce reader onProgress cancellation request parsed
        (.file originalFilename) (some path) recoverFileKey world =
          (.ok ⟨.file path, plaintext.length⟩, after) ∧
      after.tree.readFile reader.cwd path = .ok plaintext := by
  have dir := createDirAll_ready reader healthy up world (made _)
  have temp := newTempIn_ready reader healthy up world.called holds
  obtain ⟨stats, written, recovered, length, wrote⟩ := recoverPayloadToWriterWithCancel_opens reader
    onProgress cancellation request parsed never healthy key plaintext artifact opens kept
    recoverFileKey gives .tempFile
    { world.called.called with sink := [] } fresh there
  have flushed := call_apply reader healthy written
  obtain ⟨polled, alive, quiet⟩ := ensureNotCancelled_ok cancellation never written.called
  -- The temporary file was new, so it holds the plaintext and nothing before it.
  have sink : polled.sink = plaintext := quiet.sink.trans wrote.sink
  have same : polled.tree = world.tree := quiet.tree.trans wrote.tree
  obtain ⟨tree, moved⟩ := moves plaintext
  have renamed := persist_ready reader healthy path plaintext tree polled (same ▸ moved)
  refine ⟨{ polled.called with tree := tree }, ?_,
    Tree.readFile_persisted world.tree tree reader.cwd path plaintext moved⟩
  unfold recoverPayloadOnce
  dsimp only
  rw [parented, Option.getD_some, Run.bind_of_ok dir, Run.bind_of_ok temp,
    Run.bind_of_ok recovered, Run.bind_of_ok flushed, Run.bind_of_ok alive, Run.read_bind, sink,
    Run.bind_of_ok renamed, length]
  rfl

end Once

omit never in
theorem attempts_first (payloadKind : PayloadKind) (recoveredFilePath : Option Path)
    (metadata : PasswordProtectionMetadata) (left attempt : Nat) (previousAttemptFailed : Bool)
    (response : UnlockResponse) (before after : World)
    (once : attemptOnce reader onProgress cancellation provider request parsed payloadKind
      recoveredFilePath metadata attempt previousAttemptFailed before = (.ok response, after)) :
    attempts reader onProgress cancellation provider request parsed payloadKind recoveredFilePath
      metadata (left + 1) attempt previousAttemptFailed before =
        (.ok response, zeroizeMask after) := by
  unfold attempts
  rw [once]

section Execute
variable (healthy : reader.Healthy) (key : Block 32) (plaintext artifact : Bytes)
  (opens : Opens reader.crates parsed key plaintext artifact) (password : Option String)
  (answers : Answers provider password)
  (protected_ : parsed.superblock.passwordProtection.isSome = password.isSome)
  (keyed : artifactKey reader.crates parsed.superblock (password.getD "") = .ok key)
include healthy opens answers protected_ keyed

/-- A run ends as its first attempt does, if that one succeeds. -/
theorem executeWithCancel_once (response : UnlockResponse) (ends : Tree → Prop) (start : World)
    (there : start.tree.readFile reader.cwd request.input = .ok artifact)
    (recoveredFilePath : Option Path)
    (chosen : chooseRecoveredFilePath (start.tree.pathExists reader.cwd) request
      parsed.payloadKind = .ok recoveredFilePath)
    (finishes : ∀ kept recoverFileKey, GivesKey parsed kept recoverFileKey key →
      ∀ world, world.tree = start.tree → world.cachedTimelockMask = kept →
        ∃ after, recoverPayloadOnce reader onProgress cancellation request parsed
            parsed.payloadKind recoveredFilePath recoverFileKey world = (.ok response, after) ∧
          ends after.tree) :
    ∃ after, executeWithCancelAndPasswordProvider reader onProgress cancellation provider request
        start = (.ok response, after) ∧ ends after.tree := by
  obtain ⟨polled, alive, quiet⟩ := ensureNotCancelled_ok cancellation never start
  have parsing : parseContainer reader request.input polled =
      (.ok parsed, polled.called) := by
    unfold parseContainer
    rw [Run.bind_of_ok (readFile_ready reader healthy request.input artifact polled
      (quiet.tree ▸ there)), opens.read]
    rfl
  unfold executeWithCancelAndPasswordProvider
  rw [Run.bind_of_ok alive, Run.bind_of_ok parsing, Run.read_bind]
  rw [show polled.called.tree = start.tree from quiet.tree, Run.lift_bind_of_ok chosen]
  -- With no password the key comes from the puzzle; with one, from the first attempt.
  cases protection : parsed.superblock.passwordProtection with
  | none =>
      exact finishes _ _ (recoverFileKeyFromTimelock_gives reader onProgress cancellation parsed
        never _ key _ protection keyed) _ quiet.tree rfl
  | some metadata =>
      rw [protection] at protected_
      obtain ⟨passphrase, rfl⟩ := Option.isSome_iff_exists.mp protected_.symm
      obtain ⟨after, once, finished⟩ := finishes none _
        (recoverPasswordProtectedFileKey_gives reader onProgress cancellation provider parsed never
          key passphrase answers metadata ⟨request.input, 1, maxPasswordAttempts, false⟩ protection
          keyed)
        (zeroizeMask polled.called) quiet.tree rfl
      refine ⟨zeroizeMask after, ?_, finished⟩
      exact attempts_first reader onProgress cancellation provider request parsed _ _ metadata 2 1
        false response _ after once

end Execute

end Uncancelled

end Unlock

def plainRequest (input : Path) : UnlockRequest := ⟨input, none, none⟩

/-- Where the wanted path is taken, the first free numbered name beside it is
one the file system takes. -/
def FreeNameFits (tree : Tree) (cwd : Location) (wanted : Path) : Prop :=
  tree.pathExists cwd wanted = true →
    ∃ stem index, fileStem wanted = some stem ∧
      FirstFree (tree.pathExists cwd) wanted stem index ∧
      (asBytes (String.ofList (candidate wanted stem index))).length ≤ 255

theorem chooseRecoveredFilePath_beside (pathExists : Path → Bool) (input path : Path)
    (last name : Name) (named : fileName input = some last) (plain : '/' ∉ name) :
    chooseRecoveredFilePath pathExists (plainRequest input) (.file (String.ofList name)) =
        .ok (some path) ↔
      resolveAvailableOutputPath pathExists (withFileName input name) = .ok path := by
  obtain ⟨up, above, _⟩ := parent_of_fileName input last named
  have wanted : join (requestedDir (plainRequest input)) (ofText (String.ofList name)) =
      withFileName input name := by
    rw [ofText_single name plain]
    simp [requestedDir, plainRequest, withFileName, named, above]
  unfold chooseRecoveredFilePath resolveRecoveredFilePath
  simp only [plainRequest] at wanted ⊢
  rw [wanted, ok_bind]
  dsimp only
  rw [bind_eq_ok]
  constructor
  · rintro ⟨found, available, returned⟩
    cases returned
    exact available
  · intro available
    exact ⟨path, available, rfl⟩

/-- The chosen path is free and can be written. -/
theorem recoveredFilePath_ready (tree : Tree) (cwd : Location) (input : Path) (last name : Name)
    (named : fileName input = some last) (there : tree.pathExists cwd input = true)
    (fits : proper name = true) (free : FreeNameFits tree cwd (withFileName input name)) :
    ∃ path up, resolveAvailableOutputPath (tree.pathExists cwd) (withFileName input name) =
        .ok path ∧ parent path = some up ∧
      (∀ fuel, Tree.createDirAll cwd (fuel + 1) up tree = (.ok (), tree)) ∧
      tree.holdsTemp cwd up = .ok () ∧
      ∀ contents, ∃ tree', tree.persist cwd path contents = .ok tree' := by
  have wanted := fileName_withFileName input last name named (Tree.proper_regular name fits)
  cases taken : tree.pathExists cwd (withFileName input name) with
  | false =>
      obtain ⟨up, ready⟩ := Tree.beside_ready tree cwd input last name named fits there taken
      refine ⟨_, up, ?_, ready⟩
      unfold resolveAvailableOutputPath
      rw [if_pos taken]
  | true =>
      obtain ⟨stem, index, stemmed, first, short⟩ := free taken
      have regular := candidate_proper _ stem name index wanted stemmed fits short
      obtain ⟨up, ready⟩ := Tree.beside_ready tree cwd _ name _ wanted regular taken first.free
      exact ⟨_, up, resolveAvailableOutputPath_firstFree _ _ stem index taken stemmed first, ready⟩

/-- A path that was chosen and can be read had a name that fits. -/
theorem freeNameFits_of_read (tree after : Tree) (cwd : Location) (input path : Path)
    (last name : Name) (contents : Bytes) (named : fileName input = some last)
    (fits : proper name = true)
    (chosen : resolveAvailableOutputPath (tree.pathExists cwd) (withFileName input name) =
      .ok path)
    (read : after.readFile cwd path = .ok contents) :
    FreeNameFits tree cwd (withFileName input name) := by
  intro taken
  obtain ⟨stem, index, stemmed, first, rfl⟩ :=
    (resolveAvailableOutputPath_taken _ _ path taken).mp chosen
  have wanted := fileName_withFileName input last name named (Tree.proper_regular name fits)
  obtain ⟨_, present⟩ := fileStem_ne_nil _ stem stemmed
  have regular := bodyComponent_long _ (candidateName_long (parseSuffixIndex stem).1
    (extension (withFileName input name)) index (parseSuffixIndex_ne_nil stem present))
  have called := fileName_withFileName _ name _ wanted regular
  obtain ⟨found, foundAs, foundFits⟩ :=
    Tree.readFile_named after cwd _ contents (fileName_ne _ _ called) read
  rw [foundAs] at called
  obtain rfl := Option.some.inj called
  exact ⟨stem, index, stemmed, first, proper_length _ foundFits⟩

/-- The unlock returned exactly the plaintext, as a text or in the written file. -/
def Recovers (reader : Host) (plaintext : Bytes) : Except Error UnlockResponse × World → Prop
  | (.ok ⟨.text text, _⟩, _) => asBytes text = plaintext
  | (.ok ⟨.file path, _⟩, after) => after.tree.readFile reader.cwd path = .ok plaintext
  | (.error _, _) => False

theorem recovers_error (reader : Host) (plaintext : Bytes)
    (run : Except Error UnlockResponse × World) (reason : Error) (failed : run.1 = .error reason) :
    ¬ Recovers reader plaintext run := by
  intro recovers
  obtain ⟨outcome, after⟩ := run
  obtain rfl := failed
  exact recovers

/-- Standard input has to be a text, and a file needs a name that fits. -/
def Unlockable (host : LockHost) (source : InputSource) (reader : Host) (tree : Tree)
    (input : Path) : Prop :=
  match source with
  | .stdin => (fromUtf8 host.stdin).isSome = true
  | .text _ => True
  | .file path => ∀ name, fileName path = some name →
      FreeNameFits tree reader.cwd (withFileName input name)

/-- What a successful unlock of a known artifact delivered. -/
theorem execute_delivered (reader : Host) (onProgress : Bool)
    (cancellation : Option CancellationToken) (provider : Option PasswordProvider)
    (request : UnlockRequest) (parsed : StoredTimelockedArtifact) (artifact : Bytes)
    (response : UnlockResponse) (start after : World)
    (there : start.tree.readFile reader.cwd request.input = .ok artifact)
    (read : readTimelockedArtifactBytes reader.crates artifact = .ok parsed)
    (ran : executeWithCancelAndPasswordProvider reader onProgress cancellation provider request
      start = (.ok response, after)) :
    ∃ recoveredFilePath,
      chooseRecoveredFilePath (start.tree.pathExists reader.cwd) request parsed.payloadKind =
        .ok recoveredFilePath ∧
      Delivered reader parsed recoveredFilePath parsed.payloadKind artifact response start after := by
  rcases execute_effect _ _ _ _ _ _ _ _ ran with
    ⟨_, failed, _⟩ | ⟨bytes, parsed', recoveredFilePath, there', read', chosen, delivered⟩
  · cases failed
  · rw [there] at there'
    obtain rfl := Except.ok.inj there'
    rw [read] at read'
    obtain rfl := Except.ok.inj read'
    exact ⟨recoveredFilePath, chosen, delivered⟩

section Recovers
variable (reader : Host) (healthy : reader.Healthy) (onProgress : Bool)
  (cancellation : Option CancellationToken) (never : NeverCancelled cancellation)
  (provider : Option PasswordProvider) (password : Option String)
  (answers : Answers provider password) (plaintext artifact : Bytes) (input : Path)
  (start : World) (there : start.tree.readFile reader.cwd input = .ok artifact)
include healthy never answers there

/-- A payload without a name comes back exactly if it is a text. -/
theorem text_recovers (holds : Holds reader.crates password none plaintext artifact) :
    Recovers reader plaintext (executeWithCancelAndPasswordProvider reader onProgress cancellation
        provider (plainRequest input) start) ↔
      (fromUtf8 plaintext).isSome = true := by
  obtain ⟨parsed, key, opens, nameless, protected_, keyed⟩ := holds.opens
  have kind : parsed.payloadKind = .text := by
    rw [StoredTimelockedArtifact.payloadKind, nameless]
  have chosen : chooseRecoveredFilePath (start.tree.pathExists reader.cwd) (plainRequest input)
      parsed.payloadKind = .ok none := by
    rw [kind]
    rfl
  constructor
  · -- A response with a text was decoded from the payload; none names a file.
    intro recovers
    rcases ran : executeWithCancelAndPasswordProvider reader onProgress cancellation provider
      (plainRequest input) start with ⟨reason | ⟨path | text, count⟩, after⟩
    · rw [ran] at recovers
      cases recovers
    · obtain ⟨_, chosen', given, _⟩ := execute_delivered reader onProgress cancellation provider
        (plainRequest input) parsed artifact _ start after there opens.read ran
      rw [chosen, given] at chosen'
      cases chosen'
    · rw [ran] at recovers
      rw [(fromUtf8_eq_some plaintext text).mpr recovers]
      rfl
  · intro valid
    obtain ⟨text, decoded⟩ := Option.isSome_iff_exists.mp valid
    obtain ⟨after, ran, _⟩ := executeWithCancel_once reader onProgress cancellation provider
      (plainRequest input) parsed never healthy key plaintext artifact opens password answers
      protected_ keyed ⟨.text text, plaintext.length⟩ (fun _ => True) start there none chosen
      (by
        intro kept recoverFileKey gives world tree fresh
        obtain ⟨after, once⟩ := recoverPayloadOnce_text reader onProgress cancellation
          (plainRequest input) parsed never healthy key plaintext artifact opens kept
          recoverFileKey gives text decoded world fresh (tree ▸ there)
        rw [kind]
        exact ⟨after, once, trivial⟩)
    rw [ran]
    exact (fromUtf8_eq_some plaintext text).mp decoded

/-- A payload with a name comes back exactly if the name is free or finds one
that fits. -/
theorem file_recovers (last name : Name) (named : fileName input = some last)
    (fits : proper name = true)
    (holds : Holds reader.crates password (some (String.ofList name)) plaintext artifact) :
    Recovers reader plaintext (executeWithCancelAndPasswordProvider reader onProgress cancellation
        provider (plainRequest input) start) ↔
      FreeNameFits start.tree reader.cwd (withFileName input name) := by
  obtain ⟨parsed, key, opens, recorded, protected_, keyed⟩ := holds.opens
  have kind : parsed.payloadKind = .file (String.ofList name) := by
    rw [StoredTimelockedArtifact.payloadKind, recorded]
  have plain : '/' ∉ name := by
    simp only [proper, Bool.and_eq_true] at fits
    simpa using fits.1.1.2
  have choice := chooseRecoveredFilePath_beside (start.tree.pathExists reader.cwd) input
  constructor
  · intro recovers
    rcases ran : executeWithCancelAndPasswordProvider reader onProgress cancellation provider
      (plainRequest input) start with ⟨reason | ⟨path | text, count⟩, after⟩
    · rw [ran] at recovers
      cases recovers
    · obtain ⟨_, chosen, given, _⟩ := execute_delivered reader onProgress cancellation provider
        (plainRequest input) parsed artifact _ start after there opens.read ran
      rw [kind, given] at chosen
      rw [ran] at recovers
      exact freeNameFits_of_read start.tree after.tree reader.cwd input path last name plaintext
        named fits ((choice path last name named plain).mp chosen) recovers
    · obtain ⟨_, _, textual, _⟩ := execute_delivered reader onProgress cancellation provider
        (plainRequest input) parsed artifact _ start after there opens.read ran
      rw [kind] at textual
      cases textual
  · -- A free name that fits gives a path the file can be moved to.
    intro free
    obtain ⟨path, up, available, parented, made, temp, moves⟩ := recoveredFilePath_ready start.tree
      reader.cwd input last name named (Tree.readFile_exists _ _ _ _ there) fits free
    have chosen := (choice path last name named plain).mpr available
    rw [← kind] at chosen
    obtain ⟨after, ran, written⟩ := executeWithCancel_once reader onProgress cancellation provider
      (plainRequest input) parsed never healthy key plaintext artifact opens password answers
      protected_ keyed ⟨.file path, plaintext.length⟩
      (fun tree => tree.readFile reader.cwd path = .ok plaintext) start there (some path) chosen
      (by
        intro kept recoverFileKey gives world tree fresh
        rw [kind]
        exact recoverPayloadOnce_file reader onProgress cancellation (plainRequest input) parsed
          never healthy key plaintext artifact opens kept recoverFileKey gives
          (String.ofList name) path up world fresh (tree ▸ there) parented (tree ▸ made)
          (tree ▸ temp) (tree ▸ moves))
    rw [ran]
    exact written

end Recovers

/-- What a source held comes back from a file that holds it, exactly if it can. -/
theorem holds_unlocks (host : LockHost) (reader : Host) (healthy : reader.Healthy)
    (reporting : Bool) (token : Option CancellationToken) (never : NeverCancelled token)
    (provider : Option PasswordProvider) (password : Option String)
    (answers : Answers provider password) (pathExists : Path → Bool) (argument : String)
    (tree : Tree) (plaintext : Bytes) (name : Option String)
    (held : sourceHolds host tree (resolveInputSource pathExists argument) = some (plaintext, name))
    (presented : Bytes) (holds : Holds reader.crates password name plaintext presented)
    (input : Path) (present : input ≠ []) (start : World)
    (there : start.tree.readFile reader.cwd input = .ok presented) :
    Recovers reader plaintext (executeWithCancelAndPasswordProvider reader reporting token
        provider (plainRequest input) start) ↔
      Unlockable host (resolveInputSource pathExists argument) reader start.tree input := by
  obtain ⟨last, named, _⟩ := Tree.readFile_named start.tree reader.cwd input presented present there
  have text := text_recovers reader healthy reporting token never provider password answers
    plaintext presented input start there
  have file := file_recovers reader healthy reporting token never provider password answers
    plaintext presented input start there last
  -- What the source was decides whether the artifact has a name.
  cases kind : resolveInputSource pathExists argument with
  | stdin =>
      rw [kind] at held
      cases held
      exact text holds
  | text words =>
      rw [kind] at held
      cases held
      rw [Unlockable, text holds, fromUtf8_asBytes]
      exact ⟨fun _ => trivial, fun _ => rfl⟩
  | file path =>
      rw [kind] at held
      obtain ⟨rfl, _⟩ := resolveInputSource_file _ _ path kind
      obtain ⟨_, recorded, ownName, fits, rfl⟩ :=
        sourceHolds_file host tree _ (ofText_ne_nil argument) plaintext name held
      rw [file recorded named fits holds, Unlockable]
      constructor
      · intro free name same
        rw [ownName] at same
        obtain rfl := Option.some.inj same
        exact free
      · intro free
        exact free recorded ownName

/-- Of whatever a lock accepted: unlocking it beside no options, with the same
password, returns what the source held exactly if it can. -/
theorem locked_unlocks (host : LockHost) (trusted : Trusted host) (onProgress : Bool)
    (cancellation : Option CancellationToken) (request : LockRequest)
    (bits : request.modulusBits < 65536) (response : LockResponse) (before after : World)
    (locked : Lock.executeWithCancel host onProgress cancellation request before =
      (.ok response, after))
    (artifact : Bytes) (left : after.tree.readFile host.cwd response.outputPath = .ok artifact)
    (addressable : artifact.length < 2 ^ 64) (reader : Host)
    (sameCrates : reader.crates = host.crates) (healthy : reader.Healthy) (reporting : Bool)
    (token : Option CancellationToken) (never : NeverCancelled token)
    (provider : Option PasswordProvider) (answers : Answers provider request.password)
    (input : Path) (present : input ≠ []) (start : World)
    (there : start.tree.readFile reader.cwd input = .ok artifact) :
    ∃ plaintext name,
      sourceHolds host before.tree
        (resolveInputSource (before.tree.pathExists host.cwd) request.input) =
          some (plaintext, name) ∧
      (Recovers reader plaintext (executeWithCancelAndPasswordProvider reader reporting token
          provider (plainRequest input) start) ↔
        Unlockable host (resolveInputSource (before.tree.pathExists host.cwd) request.input) reader
          start.tree input) := by
  obtain ⟨source, plaintext, name, written, sourced, _, _, held, _, readable, holding⟩ :=
    executeWithCancel_ok host trusted onProgress cancellation request bits response before after
      locked
  rw [left] at readable
  obtain rfl := Except.ok.inj readable
  have holds := holding addressable
  rw [← sameCrates] at holds
  rw [sourced] at held
  exact ⟨plaintext, name, held, holds_unlocks host reader healthy reporting token never provider
    request.password answers _ request.input before.tree plaintext name held artifact holds input
    present start there⟩

def stdinRequest : LockRequest := { LockEffects.textRequest false with input := "-" }

def lockStdin (stdin : Bytes) : Except Error LockResponse × World :=
  Lock.executeWithCancel (keepingHost stdin) false none stdinRequest (freshWorld .bare)

def lockedStdin : LockResponse := ⟨["o.timelocked".toList], 3, "high-end-2026", 1⟩

def later (run : Except Error LockResponse × World) : World := freshWorld run.2.tree

def unlockPlain (run : Except Error LockResponse × World) : Except Error UnlockResponse × World :=
  executeWithCancelAndPasswordProvider (calmHost keepingCrates) false none none
    (plainRequest ["o.timelocked".toList]) (later run)

theorem lockStdin_runs :
    (lockStdin [120]).1 = .ok lockedStdin ∧
      (lockStdin [120]).2.tree.readFile [] ["o.timelocked".toList] =
        .ok (leftBy (lockStdin [120])) ∧
      (leftBy (lockStdin [120])).length < 2 ^ 64 := by
  decide +kernel

theorem lockStdin_ok : lockStdin [120] = (.ok lockedStdin, (lockStdin [120]).2) := by
  rw [← lockStdin_runs.1]

theorem locked_unlocks_stdin :
    ∃ plaintext name,
      sourceHolds (keepingHost [120]) Tree.bare .stdin = some (plaintext, name) ∧
      (Recovers (calmHost keepingCrates) plaintext (unlockPlain (lockStdin [120])) ↔
        Unlockable (keepingHost [120]) .stdin (calmHost keepingCrates)
          (later (lockStdin [120])).tree ["o.timelocked".toList]) := by
  obtain ⟨_, left, short⟩ := lockStdin_runs
  have kind : resolveInputSource (Tree.bare.pathExists []) "-" = .stdin := by decide +kernel
  rw [← kind]
  apply locked_unlocks (keepingHost [120]) (keepingHost_trusted [120]) false none stdinRequest
    (by decide) lockedStdin (freshWorld .bare) (lockStdin [120]).2 lockStdin_ok
    (leftBy (lockStdin [120])) left short (calmHost keepingCrates) rfl (fun _ => rfl) false none
    neverCancelled_none none (fun _ absent => by cases absent)
    ["o.timelocked".toList] (by decide) (later (lockStdin [120]))
  rw [later, freshWorld_tree]
  exact left

/-- A byte that is no text is locked without complaint, and never comes back. -/
theorem locked_lost :
    (lockStdin [255]).1 = .ok lockedStdin ∧
      (unlockPlain (lockStdin [255])).1 =
        .error (.invalidFormat "recovered text payload is not valid UTF-8") ∧
      ¬ Recovers (calmHost keepingCrates) [255] (unlockPlain (lockStdin [255])) := by
  have failed : (unlockPlain (lockStdin [255])).1 =
      .error (.invalidFormat "recovered text payload is not valid UTF-8") := by
    decide +kernel
  exact ⟨by decide +kernel, failed, recovers_error _ _ _ _ failed⟩

end RoundTrip
