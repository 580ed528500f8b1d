import Timelocked.Browser
import Timelocked.Calibration
import Timelocked.Inspection
import Timelocked.TuiKeys

/-!
The forms of the terminal interface with their fields: `lock/file_form.rs`,
`lock/text_form.rs`, `unlock/form.rs`, `inspect/form.rs`, `inspect/details.rs`
and the estimates under `features/shared`. A handler returns the form after the
key, what the key asks of the session, and the session's calibration.
-/
namespace Forms

open RunRules Base PathText LockDifficulty Lock Unlock Inspection TextFields TuiSession TuiKeys
  Browser Calibration

/-- What lies outside the session while one key or one poll is handled. -/
structure Outside where
  disk : Disk
  pathExists : Path → Bool
  inspect : InspectRequest → Except Error InspectResponse
  verify : Path → Except Error Unit
  openFolder : Except Error Unit
  /-- What the calibration thread measures, if it is waited for. -/
  awaited : Option UInt64
  /-- What a benchmark on the spot measures. -/
  measured : UInt64
  lockModulusBits : Nat

inductive FormEffect where
  | stays
  | leaves
  | fails (message : String)
  | browses (target : BrowserTarget) (mode : BrowserMode) (preferredPath : Path)
  | locks (request : LockRequest) (inputDisplay outputDisplay : String)
  | unlocks (request : UnlockRequest) (fileDisplay : String)
      (estimatedDurationSeconds : Option UInt64)
  | inspects (response : InspectResponse)

def shown (field : TextField) : String := String.ofList field.value

def entered (field : TextField) : String := LockForms.trim (shown field)

def armSecret (secret : SecretTextField) : SecretTextField :=
  ⟨secret.field.armClearOnNextEdit⟩

def profileOptionCount : Nat := profiles.length + 1

def defaultProfileIndex : Nat :=
  (profiles.findIdx? fun profile => profile.id = "desktop-2026").getD 0

def profileNext (index : Nat) : Nat := (index + 1) % max profileOptionCount 1

def profilePrev (index : Nat) : Nat := if index = 0 then profileOptionCount - 1 else index - 1

def profileKey (index : Nat) (key : KeyEvent) : Nat :=
  match key.code with
  | .left => profilePrev index
  | .right => profileNext index
  | .char ' ' => profileNext index
  | _ => index

def ensuredRate (outside : Outside) : Run String SessionCalibration (Option UInt64) :=
  fun calibration =>
    let ensured := calibration.ensureSessionCalibration outside.awaited outside.measured
    ((ensured.1.map some).mapError describe, ensured.2)

def sessionRate (outside : Outside) (profile : String) :
    Run String SessionCalibration (Option UInt64) :=
  if isCurrentMachineProfileId profile = true then ensuredRate outside else pure none

/-- Both forms, which differ in what their first field is called. -/
def buildLockRequest (outside : Outside) (inputRequired outputRequired : String)
    (input output target : TextField) (password confirmation : SecretTextField)
    (profileIndex : Nat) : Run String SessionCalibration LockRequest := do
  let input := entered input
  Run.lift (rejectIf (input = "") inputRequired)
  let output := entered output
  Run.lift (rejectIf (output = "") outputRequired)
  let target := entered target
  Run.lift (rejectIf (target = "") "Target delay is required (examples: 6h, 3d, 2w).")
  let password ← Run.lift (LockForms.passwordFromFields (shown password.field)
    (shown confirmation.field))
  let profile := LockForms.profileIdForIndex profileIndex
  let currentMachineIterationsPerSecond ← sessionRate outside profile
  pure {
    input := input
    output := some (ofText output)
    modulusBits := outside.lockModulusBits
    target := some target
    iterations := none
    hardwareProfile := some profile
    currentMachineIterationsPerSecond := currentMachineIterationsPerSecond
    password := password
    verify := false }

/-! `lock/file_form.rs`. -/

inductive LockFileFocus where
  | inputPath
  | browseInput
  | outputPath
  | targetDelay
  | password
  | confirmPassword
  | hardwareProfile
  | lock
  | cancel
  deriving DecidableEq, Repr

namespace LockFileFocus

def next : LockFileFocus → LockFileFocus
  | .inputPath => .browseInput
  | .browseInput => .outputPath
  | .outputPath => .targetDelay
  | .targetDelay => .password
  | .password => .confirmPassword
  | .confirmPassword => .hardwareProfile
  | .hardwareProfile => .lock
  | .lock => .cancel
  | .cancel => .inputPath

def prev : LockFileFocus → LockFileFocus
  | .inputPath => .cancel
  | .browseInput => .inputPath
  | .outputPath => .browseInput
  | .targetDelay => .outputPath
  | .password => .targetDelay
  | .confirmPassword => .password
  | .hardwareProfile => .confirmPassword
  | .lock => .hardwareProfile
  | .cancel => .lock

end LockFileFocus

structure LockFileFormState where
  inputPath : TextField
  outputPath : TextField
  targetDelay : TextField
  password : SecretTextField
  passwordConfirmation : SecretTextField
  profileIndex : Nat
  outputTouched : Bool
  focus : LockFileFocus
  deriving DecidableEq, Repr

namespace LockFileFormState

def armFocusFieldForReplace (state : LockFileFormState) : LockFileFormState :=
  match state.focus with
  | .inputPath => { state with inputPath := state.inputPath.armClearOnNextEdit }
  | .outputPath => { state with outputPath := state.outputPath.armClearOnNextEdit }
  | .targetDelay => { state with targetDelay := state.targetDelay.armClearOnNextEdit }
  | .password => { state with password := armSecret state.password }
  | .confirmPassword =>
      { state with passwordConfirmation := armSecret state.passwordConfirmation }
  | _ => state

def default : LockFileFormState :=
  armFocusFieldForReplace
    ⟨TextField.new [], TextField.new [], TextField.new "3d".toList, SecretTextField.default,
      SecretTextField.default, defaultProfileIndex, false, .inputPath⟩

end LockFileFormState

def deriveDefaultOutput (input : List Char) : List Char :=
  let trimmed := LockForms.trim (String.ofList input)
  if trimmed.isEmpty then []
  else (describePath (ensureTimelockedExtension (ofText trimmed))).toList

def buildLockFileRequest (outside : Outside) (state : LockFileFormState) :
    Run String SessionCalibration LockRequest :=
  buildLockRequest outside "Input file is required." "Output timelocked file is required."
    state.inputPath state.outputPath state.targetDelay state.password state.passwordConfirmation
    state.profileIndex

def startLockFile (outside : Outside) (state : LockFileFormState)
    (calibration : SessionCalibration) : LockFileFormState × FormEffect × SessionCalibration :=
  match buildLockFileRequest outside state calibration with
  | (.ok request, calibration) =>
      ({ state with
          password := state.password.clear
          passwordConfirmation := state.passwordConfirmation.clear },
        .locks request request.input (describePath (request.output.getD [[]])), calibration)
  | (.error err, calibration) => (state, .fails err, calibration)

def pressLockFile (outside : Outside) (state : LockFileFormState) (key : KeyEvent)
    (calibration : SessionCalibration) : LockFileFormState × FormEffect × SessionCalibration :=
  let keeps (state : LockFileFormState) := (state, FormEffect.stays, calibration)
  match state.focus with
  | .inputPath =>
      let edited := state.inputPath.applyKey key
      let state := { state with inputPath := edited.1 }
      if edited.2 && !state.outputTouched then
        keeps { state with outputPath := TextField.new (deriveDefaultOutput edited.1.value) }
      else keeps state
  | .browseInput =>
      if key.code = .enter then
        (state, .browses .lockFileInput .file (ofText (entered state.inputPath)),
          calibration)
      else keeps state
  | .outputPath =>
      let edited := state.outputPath.applyKey key
      let state := { state with outputPath := edited.1 }
      if edited.2 then keeps { state with outputTouched := true } else keeps state
  | .targetDelay => keeps { state with targetDelay := (state.targetDelay.applyKey key).1 }
  | .password => keeps { state with password := (state.password.applyKey key).1 }
  | .confirmPassword =>
      keeps { state with
        passwordConfirmation := (state.passwordConfirmation.applyKey key).1 }
  | .hardwareProfile =>
      keeps { state with profileIndex := profileKey state.profileIndex key }
  | .lock =>
      if key.code = .enter then startLockFile outside state calibration else keeps state
  | .cancel =>
      if key.code = .enter then (state, .leaves, calibration) else keeps state

def handleLockFileFormKey (outside : Outside) (state : LockFileFormState) (key : KeyEvent)
    (calibration : SessionCalibration) : LockFileFormState × FormEffect × SessionCalibration :=
  if key.code = .esc then (state, .leaves, calibration)
  else
    match cycledFocus key state.focus LockFileFocus.next LockFileFocus.prev .vertical with
    | some focus => ({ state with focus := focus }.armFocusFieldForReplace, .stays, calibration)
    | none => pressLockFile outside state key calibration

/-! `lock/text_form.rs`. -/

inductive LockTextFocus where
  | inputText
  | outputPath
  | targetDelay
  | password
  | confirmPassword
  | hardwareProfile
  | lock
  | cancel
  deriving DecidableEq, Repr

namespace LockTextFocus

def next : LockTextFocus → LockTextFocus
  | .inputText => .outputPath
  | .outputPath => .targetDelay
  | .targetDelay => .password
  | .password => .confirmPassword
  | .confirmPassword => .hardwareProfile
  | .hardwareProfile => .lock
  | .lock => .cancel
  | .cancel => .inputText

def prev : LockTextFocus → LockTextFocus
  | .inputText => .cancel
  | .outputPath => .inputText
  | .targetDelay => .outputPath
  | .password => .targetDelay
  | .confirmPassword => .password
  | .hardwareProfile => .confirmPassword
  | .lock => .hardwareProfile
  | .cancel => .lock

end LockTextFocus

structure LockTextFormState where
  inputText : TextField
  outputPath : TextField
  targetDelay : TextField
  password : SecretTextField
  passwordConfirmation : SecretTextField
  profileIndex : Nat
  focus : LockTextFocus
  deriving DecidableEq, Repr

namespace LockTextFormState

def armFocusFieldForReplace (state : LockTextFormState) : LockTextFormState :=
  match state.focus with
  | .inputText => { state with inputText := state.inputText.armClearOnNextEdit }
  | .outputPath => { state with outputPath := state.outputPath.armClearOnNextEdit }
  | .targetDelay => { state with targetDelay := state.targetDelay.armClearOnNextEdit }
  | .password => { state with password := armSecret state.password }
  | .confirmPassword =>
      { state with passwordConfirmation := armSecret state.passwordConfirmation }
  | _ => state

def default : LockTextFormState :=
  armFocusFieldForReplace
    ⟨TextField.new [], TextField.new [], TextField.new "3d".toList, SecretTextField.default,
      SecretTextField.default, defaultProfileIndex, .inputText⟩

end LockTextFormState

def buildLockTextRequest (outside : Outside) (state : LockTextFormState) :
    Run String SessionCalibration LockRequest :=
  buildLockRequest outside "Input text is required."
    "Output timelocked file is required for text lock." state.inputText state.outputPath
    state.targetDelay state.password state.passwordConfirmation state.profileIndex

def startLockText (outside : Outside) (state : LockTextFormState)
    (calibration : SessionCalibration) : LockTextFormState × FormEffect × SessionCalibration :=
  match buildLockTextRequest outside state calibration with
  | (.ok request, calibration) =>
      ({ state with
          password := state.password.clear
          passwordConfirmation := state.passwordConfirmation.clear },
        .locks request "inline text" (describePath (request.output.getD [[]])), calibration)
  | (.error err, calibration) => (state, .fails err, calibration)

def pressLockText (outside : Outside) (state : LockTextFormState) (key : KeyEvent)
    (calibration : SessionCalibration) : LockTextFormState × FormEffect × SessionCalibration :=
  let keeps (state : LockTextFormState) := (state, FormEffect.stays, calibration)
  match state.focus with
  | .inputText => keeps { state with inputText := (state.inputText.applyKey key).1 }
  | .outputPath => keeps { state with outputPath := (state.outputPath.applyKey key).1 }
  | .targetDelay => keeps { state with targetDelay := (state.targetDelay.applyKey key).1 }
  | .password => keeps { state with password := (state.password.applyKey key).1 }
  | .confirmPassword =>
      keeps { state with
        passwordConfirmation := (state.passwordConfirmation.applyKey key).1 }
  | .hardwareProfile =>
      keeps { state with profileIndex := profileKey state.profileIndex key }
  | .lock =>
      if key.code = .enter then startLockText outside state calibration else keeps state
  | .cancel =>
      if key.code = .enter then (state, .leaves, calibration) else keeps state

def handleLockTextFormKey (outside : Outside) (state : LockTextFormState) (key : KeyEvent)
    (calibration : SessionCalibration) : LockTextFormState × FormEffect × SessionCalibration :=
  if key.code = .esc then (state, .leaves, calibration)
  else
    match cycledFocus key state.focus LockTextFocus.next LockTextFocus.prev .vertical with
    | some focus => ({ state with focus := focus }.armFocusFieldForReplace, .stays, calibration)
    | none => pressLockText outside state key calibration

/-! The estimates of `timelock_estimate.rs` and `unlock_estimate.rs`. -/

def formatEta (seconds : UInt64) : String :=
  let days := seconds / 86400
  let remaining := seconds % 86400
  let hours := remaining / 3600
  let remaining := remaining % 3600
  let minutes := remaining / 60
  let secs := remaining % 60
  if 0 < days then s!"~{days}d {hours}h"
  else if 0 < hours then s!"~{hours}h {minutes}m"
  else if 0 < minutes then s!"~{minutes}m {secs}s"
  else s!"~{secs}s"

structure TimelockEstimate where
  label : String
  seconds : UInt64
  deriving DecidableEq, Repr

def timelockEstimate (response : InspectResponse) : Option TimelockEstimate :=
  match response.estimatedDurationOnCurrentMachineSeconds with
  | some seconds => some ⟨"Estimated time on this machine: " ++ formatEta seconds, seconds⟩
  | none =>
      response.estimatedDurationOnProfileSeconds.map fun seconds =>
        ⟨"Estimated time from chosen profile: " ++ formatEta seconds, seconds⟩

def inspectTimelockEstimate (outside : Outside) (inputPath : Path)
    (calibration : SessionCalibration) :
    Except String (Option TimelockEstimate) × SessionCalibration :=
  let asked := calibration.estimateCalibrationForPath (outside.pathExists inputPath)
  (((outside.inspect ⟨inputPath, asked.1⟩).mapError describe).map timelockEstimate, asked.2)

/-! `unlock/form.rs`. -/

inductive UnlockFocus where
  | inputPath
  | browseInput
  | outputDir
  | browseOutputDir
  | start
  | cancel
  deriving DecidableEq, Repr

namespace UnlockFocus

def next : UnlockFocus → UnlockFocus
  | .inputPath => .browseInput
  | .browseInput => .outputDir
  | .outputDir => .browseOutputDir
  | .browseOutputDir => .start
  | .start => .cancel
  | .cancel => .inputPath

def prev : UnlockFocus → UnlockFocus
  | .inputPath => .cancel
  | .browseInput => .inputPath
  | .outputDir => .browseInput
  | .browseOutputDir => .outputDir
  | .start => .browseOutputDir
  | .cancel => .start

end UnlockFocus

structure UnlockFormState where
  inputPath : TextField
  outputDir : TextField
  focus : UnlockFocus
  estimatedDurationLabel : Option String
  estimatedDurationSeconds : Option UInt64
  estimatedError : Option String
  deriving DecidableEq, Repr

namespace UnlockFormState

def armFocusFieldForReplace (state : UnlockFormState) : UnlockFormState :=
  match state.focus with
  | .inputPath => { state with inputPath := state.inputPath.armClearOnNextEdit }
  | .outputDir => { state with outputDir := state.outputDir.armClearOnNextEdit }
  | _ => state

def default : UnlockFormState :=
  armFocusFieldForReplace ⟨TextField.new [], TextField.new [], .inputPath, none, none, none⟩

end UnlockFormState

def refreshUnlockEstimateState (outside : Outside) (state : UnlockFormState)
    (calibration : SessionCalibration) : UnlockFormState × SessionCalibration :=
  let cleared : UnlockFormState :=
    { state with
      estimatedDurationLabel := none
      estimatedDurationSeconds := none
      estimatedError := none }
  let input := entered state.inputPath
  if input.isEmpty then (cleared, calibration)
  else if outside.pathExists (ofText input) = false then
    ({ cleared with estimatedError := some "File not found" }, calibration)
  else
    let estimated := inspectTimelockEstimate outside (ofText input) calibration
    match estimated.1 with
    | .ok (some estimate) =>
        ({ cleared with
            estimatedDurationSeconds := some estimate.seconds
            estimatedDurationLabel := some estimate.label }, estimated.2)
    | .ok none => (cleared, estimated.2)
    | .error err => ({ cleared with estimatedError := some err }, estimated.2)

def startUnlock (state : UnlockFormState) : Except String FormEffect :=
  let input := entered state.inputPath
  if input.isEmpty then .error "Timelocked file is required."
  else
    let outDir := entered state.outputDir
    .ok (.unlocks
      ⟨ofText input, if outDir.isEmpty then none else some (ofText outDir), none⟩ input
      state.estimatedDurationSeconds)

def startUnlockFromPath (input : Path) (estimatedDurationSeconds : Option UInt64) :
    Except String FormEffect :=
  if input = [[]] then .error "Timelocked file is required."
  else .ok (.unlocks ⟨input, none, none⟩ (describePath input) estimatedDurationSeconds)

def started : Except String FormEffect → FormEffect
  | .ok effect => effect
  | .error err => .fails err

def pressUnlock (outside : Outside) (state : UnlockFormState) (key : KeyEvent)
    (calibration : SessionCalibration) : UnlockFormState × FormEffect × SessionCalibration :=
  let keeps (state : UnlockFormState) := (state, FormEffect.stays, calibration)
  match state.focus with
  | .inputPath =>
      let edited := state.inputPath.applyKey key
      let state := { state with inputPath := edited.1 }
      if edited.2 then
        let refreshed := refreshUnlockEstimateState outside state calibration
        (refreshed.1, .stays, refreshed.2)
      else keeps state
  | .browseInput =>
      if key.code = .enter then
        (state, .browses .unlockInput .file (ofText (entered state.inputPath)), calibration)
      else keeps state
  | .outputDir => keeps { state with outputDir := (state.outputDir.applyKey key).1 }
  | .browseOutputDir =>
      if key.code = .enter then
        (state, .browses .unlockOutputDir .directory (ofText (entered state.outputDir)),
          calibration)
      else keeps state
  | .start =>
      if key.code = .enter then (state, started (startUnlock state), calibration)
      else keeps state
  | .cancel =>
      if key.code = .enter then (state, .leaves, calibration) else keeps state

def handleUnlockFormKey (outside : Outside) (state : UnlockFormState) (key : KeyEvent)
    (calibration : SessionCalibration) : UnlockFormState × FormEffect × SessionCalibration :=
  if key.code = .esc then (state, .leaves, calibration)
  else
    match cycledFocus key state.focus UnlockFocus.next UnlockFocus.prev .vertical with
    | some focus => ({ state with focus := focus }.armFocusFieldForReplace, .stays, calibration)
    | none => pressUnlock outside state key calibration

/-! `inspect/form.rs` and `inspect/details.rs`. -/

inductive InspectFocus where
  | inputPath
  | browseInput
  | inspect
  | cancel
  deriving DecidableEq, Repr

namespace InspectFocus

def next : InspectFocus → InspectFocus
  | .inputPath => .browseInput
  | .browseInput => .inspect
  | .inspect => .cancel
  | .cancel => .inputPath

def prev : InspectFocus → InspectFocus
  | .inputPath => .cancel
  | .browseInput => .inputPath
  | .inspect => .browseInput
  | .cancel => .inspect

end InspectFocus

structure InspectFormState where
  inputPath : TextField
  focus : InspectFocus
  deriving DecidableEq, Repr

namespace InspectFormState

def armFocusFieldForReplace (state : InspectFormState) : InspectFormState :=
  if state.focus = .inputPath then
    { state with inputPath := state.inputPath.armClearOnNextEdit }
  else state

def default : InspectFormState := armFocusFieldForReplace ⟨TextField.new [], .inputPath⟩

end InspectFormState

def inspectPath (outside : Outside) (path : Path) (calibration : SessionCalibration) :
    Except Error InspectResponse × SessionCalibration :=
  let asked := calibration.estimateCalibrationForPath (outside.pathExists path)
  (outside.inspect ⟨path, asked.1⟩, asked.2)

def inspected : Except Error InspectResponse → FormEffect
  | .ok response => .inspects response
  | .error err => .fails (describe err)

def pressInspect (outside : Outside) (state : InspectFormState) (key : KeyEvent)
    (calibration : SessionCalibration) : InspectFormState × FormEffect × SessionCalibration :=
  let keeps (state : InspectFormState) := (state, FormEffect.stays, calibration)
  match state.focus with
  | .inputPath => keeps { state with inputPath := (state.inputPath.applyKey key).1 }
  | .browseInput =>
      if key.code = .enter then
        (state, .browses .inspectInput .file (ofText (entered state.inputPath)),
          calibration)
      else keeps state
  | .inspect =>
      if key.code = .enter then
        let input := entered state.inputPath
        if input.isEmpty then (state, .fails "Timelocked file is required.", calibration)
        else
          let result := inspectPath outside (ofText input) calibration
          (state, inspected result.1, result.2)
      else keeps state
  | .cancel =>
      if key.code = .enter then (state, .leaves, calibration) else keeps state

def handleInspectFormKey (outside : Outside) (state : InspectFormState) (key : KeyEvent)
    (calibration : SessionCalibration) : InspectFormState × FormEffect × SessionCalibration :=
  if key.code = .esc then (state, .leaves, calibration)
  else
    match cycledFocus key state.focus InspectFocus.next InspectFocus.prev .vertical with
    | some focus => ({ state with focus := focus }.armFocusFieldForReplace, .stays, calibration)
    | none => pressInspect outside state key calibration

inductive InspectDetailsFocus where
  | unlock
  | back
  deriving DecidableEq, Repr

namespace InspectDetailsFocus

def next : InspectDetailsFocus → InspectDetailsFocus
  | .unlock => .back
  | .back => .unlock

def prev (focus : InspectDetailsFocus) : InspectDetailsFocus := next focus

end InspectDetailsFocus

structure InspectDetailsState where
  response : InspectResponse
  focus : InspectDetailsFocus

def handleInspectDetailsKey (state : InspectDetailsState) (key : KeyEvent) :
    InspectDetailsState × FormEffect :=
  if key.code = .esc then (state, .leaves)
  else
    match cycledFocus key state.focus InspectDetailsFocus.next InspectDetailsFocus.prev
        .horizontal with
    | some focus => ({ state with focus := focus }, .stays)
    | none =>
        if key.code = .enter then
          match state.focus with
          | .unlock =>
              let seconds := state.response.estimatedDurationOnCurrentMachineSeconds.or
                state.response.estimatedDurationOnProfileSeconds
              (state, started (startUnlockFromPath state.response.path seconds))
          | .back => (state, .leaves)
        else (state, .stays)

/-! Fields as a form keeps them: an armed one is cleared by its next edit. -/

def Within (field : TextField) : Prop := field.cursor ≤ field.value.length

theorem within_new (value : List Char) : Within (TextField.new value) := Nat.le_refl _

theorem new_value (value : List Char) : (TextField.new value).value = value := rfl

theorem within_arm (field : TextField) (within : Within field) :
    Within field.armClearOnNextEdit := by
  unfold TextField.armClearOnNextEdit
  split
  · exact within
  · exact within

@[simp] theorem arm_value (field : TextField) :
    field.armClearOnNextEdit.value = field.value := by
  unfold TextField.armClearOnNextEdit
  split <;> rfl

theorem within_applyKey (field : TextField) (within : Within field) (key : KeyEvent) :
    Within (field.applyKey key).1 := by
  have consumed := plain_consumed field within
  have disarmed : Plain { field with clearOnNextEdit := false } := ⟨within, rfl⟩
  rcases key with ⟨code, modifiers⟩
  cases code with
  | char symbol =>
      by_cases typed : modifiers = KeyModifiers.none ∨ modifiers = KeyModifiers.onlyShift
      · have inserted : Within (field.consumeClearOnNextEdit.insert symbol) :=
          (plain_insert _ consumed symbol).inside
        simpa [TextField.applyKey, typed] using inserted
      · simpa [TextField.applyKey, typed] using within
  | backspace => exact (plain_backspace _ consumed).inside
  | delete => exact (plain_delete _ consumed).inside
  | left => exact (plain_moveLeft _ disarmed).inside
  | right => exact (plain_moveRight _ disarmed).inside
  | home => exact Nat.zero_le _
  | endKey => exact Nat.le_refl _
  | _ => exact within

/-- A key that a field does not use leaves it as it is. -/
theorem applyKey_unused (field : TextField) (key : KeyEvent)
    (unused : (field.applyKey key).2 = false) : (field.applyKey key).1 = field := by
  rcases key with ⟨code, modifiers⟩
  cases code with
  | char symbol =>
      by_cases typed : modifiers = KeyModifiers.none ∨ modifiers = KeyModifiers.onlyShift
      · simp [TextField.applyKey, typed] at unused
      · simp [TextField.applyKey, typed]
  | backspace => cases unused
  | delete => cases unused
  | left => cases unused
  | right => cases unused
  | home => cases unused
  | endKey => cases unused
  | _ => rfl

theorem profileKey_lt (index : Nat) (key : KeyEvent) (inside : index < profileOptionCount) :
    profileKey index key < profileOptionCount := by
  have positive : 0 < profileOptionCount := Nat.lt_of_le_of_lt (Nat.zero_le _) inside
  have next : profileNext index < profileOptionCount := by
    unfold profileNext
    rw [Nat.max_eq_left positive]
    exact Nat.mod_lt _ positive
  have prev : profilePrev index < profileOptionCount := by
    unfold profilePrev
    split <;> omega
  unfold profileKey
  split
  · exact prev
  · exact next
  · exact next
  · exact inside

/-- Until its output is touched, it is the default for the input as it is entered. -/
structure LockFileKept (state : LockFileFormState) : Prop where
  derived : state.outputTouched = false →
    state.outputPath.value = deriveDefaultOutput state.inputPath.value
  profile : state.profileIndex < profileOptionCount
  input : Within state.inputPath
  output : Within state.outputPath
  target : Within state.targetDelay
  password : Within state.password.field
  confirmation : Within state.passwordConfirmation.field

theorem lockFile_armed (state : LockFileFormState) (kept : LockFileKept state) :
    LockFileKept state.armFocusFieldForReplace := by
  obtain ⟨derived, profile, input, output, target, password, confirmation⟩ := kept
  unfold LockFileFormState.armFocusFieldForReplace
  split
  · refine ⟨fun untouched => ?_, profile, within_arm _ input, output, target, password,
      confirmation⟩
    rw [arm_value]
    exact derived untouched
  · refine ⟨fun untouched => ?_, profile, input, within_arm _ output, target, password,
      confirmation⟩
    rw [arm_value]
    exact derived untouched
  · exact ⟨derived, profile, input, output, within_arm _ target, password, confirmation⟩
  · exact ⟨derived, profile, input, output, target, within_arm _ password, confirmation⟩
  · exact ⟨derived, profile, input, output, target, password, within_arm _ confirmation⟩
  · exact ⟨derived, profile, input, output, target, password, confirmation⟩

theorem lockFile_default : LockFileKept LockFileFormState.default := by
  refine lockFile_armed _ ⟨fun _ => rfl, by decide, ?_, ?_, ?_, ?_, ?_⟩ <;> exact within_new _

theorem startLockFile_kept (outside : Outside) (state : LockFileFormState)
    (calibration : SessionCalibration) (kept : LockFileKept state) :
    LockFileKept (startLockFile outside state calibration).1 := by
  unfold startLockFile
  split
  · exact ⟨kept.derived, kept.profile, kept.input, kept.output, kept.target, Nat.le_refl _,
      Nat.le_refl _⟩
  · exact kept

theorem pressLockFile_kept (outside : Outside) (state : LockFileFormState)
    (key : KeyEvent) (calibration : SessionCalibration) (kept : LockFileKept state) :
    LockFileKept (pressLockFile outside state key calibration).1 := by
  have ⟨derived, profile, input, output, target, password, confirmation⟩ := kept
  unfold pressLockFile
  cases state.focus with
  | inputPath =>
      have entered_ := within_applyKey _ input key
      dsimp only
      split
      · exact ⟨fun _ => new_value _, profile, entered_, within_new _, target, password,
          confirmation⟩
      · rename_i unused
        refine ⟨fun untouched => ?_, profile, entered_, output, target, password, confirmation⟩
        have idle : (state.inputPath.applyKey key).2 = false := by
          simpa [show state.outputTouched = false from untouched] using unused
        rw [applyKey_unused _ _ idle]
        exact derived untouched
  | browseInput => dsimp only; split <;> exact kept
  | outputPath =>
      have entered_ := within_applyKey _ output key
      dsimp only
      split
      · refine ⟨?_, profile, input, entered_, target, password, confirmation⟩
        rintro ⟨⟩
      · rename_i unused
        refine ⟨fun untouched => ?_, profile, input, entered_, target, password, confirmation⟩
        rw [applyKey_unused _ _ (by simpa using unused)]
        exact derived untouched
  | targetDelay =>
      exact ⟨derived, profile, input, output, within_applyKey _ target key, password, confirmation⟩
  | password =>
      exact ⟨derived, profile, input, output, target, within_applyKey _ password key, confirmation⟩
  | confirmPassword =>
      exact ⟨derived, profile, input, output, target, password, within_applyKey _ confirmation key⟩
  | hardwareProfile =>
      exact ⟨derived, profileKey_lt _ _ profile, input, output, target, password, confirmation⟩
  | lock =>
      dsimp only
      split
      · exact startLockFile_kept outside state calibration kept
      · exact kept
  | cancel => dsimp only; split <;> exact kept

theorem handleLockFileFormKey_kept (outside : Outside) (state : LockFileFormState)
    (key : KeyEvent) (calibration : SessionCalibration) (kept : LockFileKept state) :
    LockFileKept (handleLockFileFormKey outside state key calibration).1 := by
  have ⟨derived, profile, input, output, target, password, confirmation⟩ := kept
  unfold handleLockFileFormKey
  split
  · exact kept
  · split
    · exact lockFile_armed _ ⟨derived, profile, input, output, target, password, confirmation⟩
    · exact pressLockFile_kept outside state key calibration kept

structure LockTextKept (state : LockTextFormState) : Prop where
  profile : state.profileIndex < profileOptionCount
  input : Within state.inputText
  output : Within state.outputPath
  target : Within state.targetDelay
  password : Within state.password.field
  confirmation : Within state.passwordConfirmation.field

theorem lockText_armed (state : LockTextFormState) (kept : LockTextKept state) :
    LockTextKept state.armFocusFieldForReplace := by
  obtain ⟨profile, input, output, target, password, confirmation⟩ := kept
  unfold LockTextFormState.armFocusFieldForReplace
  split
  · exact ⟨profile, within_arm _ input, output, target, password, confirmation⟩
  · exact ⟨profile, input, within_arm _ output, target, password, confirmation⟩
  · exact ⟨profile, input, output, within_arm _ target, password, confirmation⟩
  · exact ⟨profile, input, output, target, within_arm _ password, confirmation⟩
  · exact ⟨profile, input, output, target, password, within_arm _ confirmation⟩
  · exact ⟨profile, input, output, target, password, confirmation⟩

theorem lockText_default : LockTextKept LockTextFormState.default := by
  refine lockText_armed _ ⟨by decide, ?_, ?_, ?_, ?_, ?_⟩ <;> exact within_new _

theorem startLockText_kept (outside : Outside) (state : LockTextFormState)
    (calibration : SessionCalibration) (kept : LockTextKept state) :
    LockTextKept (startLockText outside state calibration).1 := by
  unfold startLockText
  split
  · exact ⟨kept.profile, kept.input, kept.output, kept.target, Nat.le_refl _, Nat.le_refl _⟩
  · exact kept

theorem pressLockText_kept (outside : Outside) (state : LockTextFormState) (key : KeyEvent)
    (calibration : SessionCalibration) (kept : LockTextKept state) :
    LockTextKept (pressLockText outside state key calibration).1 := by
  have ⟨profile, input, output, target, password, confirmation⟩ := kept
  unfold pressLockText
  cases state.focus with
  | inputText =>
      exact ⟨profile, within_applyKey _ input key, output, target, password, confirmation⟩
  | outputPath =>
      exact ⟨profile, input, within_applyKey _ output key, target, password, confirmation⟩
  | targetDelay =>
      exact ⟨profile, input, output, within_applyKey _ target key, password, confirmation⟩
  | password =>
      exact ⟨profile, input, output, target, within_applyKey _ password key, confirmation⟩
  | confirmPassword =>
      exact ⟨profile, input, output, target, password, within_applyKey _ confirmation key⟩
  | hardwareProfile =>
      exact ⟨profileKey_lt _ _ profile, input, output, target, password, confirmation⟩
  | lock =>
      dsimp only
      split
      · exact startLockText_kept outside state calibration kept
      · exact kept
  | cancel => dsimp only; split <;> exact kept

theorem handleLockTextFormKey_kept (outside : Outside) (state : LockTextFormState)
    (key : KeyEvent) (calibration : SessionCalibration) (kept : LockTextKept state) :
    LockTextKept (handleLockTextFormKey outside state key calibration).1 := by
  have ⟨profile, input, output, target, password, confirmation⟩ := kept
  unfold handleLockTextFormKey
  split
  · exact kept
  · split
    · exact lockText_armed _ ⟨profile, input, output, target, password, confirmation⟩
    · exact pressLockText_kept outside state key calibration kept

structure UnlockKept (state : UnlockFormState) : Prop where
  input : Within state.inputPath
  outputDir : Within state.outputDir

theorem unlock_armed (state : UnlockFormState) (kept : UnlockKept state) :
    UnlockKept state.armFocusFieldForReplace := by
  obtain ⟨input, outputDir⟩ := kept
  unfold UnlockFormState.armFocusFieldForReplace
  split
  · exact ⟨within_arm _ input, outputDir⟩
  · exact ⟨input, within_arm _ outputDir⟩
  · exact ⟨input, outputDir⟩

theorem unlock_default : UnlockKept UnlockFormState.default :=
  unlock_armed _ ⟨within_new _, within_new _⟩

/-- A refreshed estimate leaves the fields. -/
theorem refresh_fields (outside : Outside) (state : UnlockFormState)
    (calibration : SessionCalibration) :
    (refreshUnlockEstimateState outside state calibration).1.inputPath = state.inputPath ∧
      (refreshUnlockEstimateState outside state calibration).1.outputDir = state.outputDir ∧
      (refreshUnlockEstimateState outside state calibration).1.focus = state.focus := by
  unfold refreshUnlockEstimateState
  dsimp only
  split
  · exact ⟨rfl, rfl, rfl⟩
  · split
    · exact ⟨rfl, rfl, rfl⟩
    · split <;> exact ⟨rfl, rfl, rfl⟩

theorem refresh_kept (outside : Outside) (state : UnlockFormState)
    (calibration : SessionCalibration) (kept : UnlockKept state) :
    UnlockKept (refreshUnlockEstimateState outside state calibration).1 := by
  obtain ⟨sameInput, sameDir, _⟩ := refresh_fields outside state calibration
  refine ⟨?_, ?_⟩
  · rw [sameInput]
    exact kept.input
  · rw [sameDir]
    exact kept.outputDir

theorem pressUnlock_kept (outside : Outside) (state : UnlockFormState) (key : KeyEvent)
    (calibration : SessionCalibration) (kept : UnlockKept state) :
    UnlockKept (pressUnlock outside state key calibration).1 := by
  have ⟨input, outputDir⟩ := kept
  unfold pressUnlock
  cases state.focus with
  | inputPath =>
      have entered_ := within_applyKey _ input key
      dsimp only
      split
      · dsimp only
        exact refresh_kept outside _ calibration ⟨entered_, outputDir⟩
      · exact ⟨entered_, outputDir⟩
  | outputDir => exact ⟨input, within_applyKey _ outputDir key⟩
  | _ => dsimp only; split <;> exact kept

theorem handleUnlockFormKey_kept (outside : Outside) (state : UnlockFormState) (key : KeyEvent)
    (calibration : SessionCalibration) (kept : UnlockKept state) :
    UnlockKept (handleUnlockFormKey outside state key calibration).1 := by
  unfold handleUnlockFormKey
  split
  · exact kept
  · split
    · exact unlock_armed _ ⟨kept.input, kept.outputDir⟩
    · exact pressUnlock_kept outside state key calibration kept

theorem inspect_armed (state : InspectFormState) (within : Within state.inputPath) :
    Within state.armFocusFieldForReplace.inputPath := by
  unfold InspectFormState.armFocusFieldForReplace
  split
  · exact within_arm _ within
  · exact within

theorem handleInspectFormKey_within (outside : Outside) (state : InspectFormState)
    (key : KeyEvent) (calibration : SessionCalibration) (within : Within state.inputPath) :
    Within (handleInspectFormKey outside state key calibration).1.inputPath := by
  unfold handleInspectFormKey
  split
  · exact within
  · split
    · exact inspect_armed _ within
    · unfold pressInspect
      cases state.focus with
      | inputPath => exact within_applyKey _ within key
      | inspect =>
          dsimp only
          split
          · split <;> exact within
          · exact within
      | _ => dsimp only; split <;> exact within

/-! What the handlers ask of the session is what the session knows of their screens. -/

def FormEffect.outcome : FormEffect → FormOutcome
  | .stays => .stays
  | .leaves => .leaves
  | .fails message => .fails message
  | .browses target _ _ => .browses target
  | .locks _ inputDisplay outputDisplay => .startsLock inputDisplay outputDisplay
  | .unlocks _ fileDisplay estimatedDurationSeconds =>
      .startsUnlock fileDisplay estimatedDurationSeconds
  | .inspects _ => .inspects

def browsedMode : BrowserTarget → BrowserMode
  | .unlockOutputDir => .directory
  | _ => .file

def Offered (screen : Screen) (effect : FormEffect) : Prop :=
  offers screen effect.outcome = true ∧
    ∀ target mode path, effect = .browses target mode path → mode = browsedMode target

theorem offered_plain {screen : Screen} {effect : FormEffect}
    (offered : offers screen effect.outcome = true)
    (plain : ∀ target mode path, effect ≠ .browses target mode path) : Offered screen effect :=
  ⟨offered, fun target mode path same => absurd same (plain target mode path)⟩

section Offers
variable (outside : Outside) (key : KeyEvent) (calibration : SessionCalibration)

theorem startLockFile_offered (state : LockFileFormState) :
    Offered .lockFileForm (startLockFile outside state calibration).2.1 := by
  unfold startLockFile
  split <;> exact offered_plain rfl (by simp)

theorem lockFileFormKey_offered (state : LockFileFormState) :
    Offered .lockFileForm (handleLockFileFormKey outside state key calibration).2.1 := by
  have stays : Offered .lockFileForm .stays := offered_plain rfl (by simp)
  have leaves : Offered .lockFileForm .leaves := offered_plain rfl (by simp)
  unfold handleLockFileFormKey
  split
  · exact leaves
  · split
    · exact stays
    · unfold pressLockFile
      cases state.focus with
      | inputPath => dsimp only; split <;> exact stays
      | browseInput =>
          dsimp only
          split
          · exact ⟨rfl, by rintro _ _ _ ⟨⟩; rfl⟩
          · exact stays
      | outputPath => dsimp only; split <;> exact stays
      | lock =>
          dsimp only
          split
          · exact startLockFile_offered outside calibration state
          · exact stays
      | cancel =>
          dsimp only
          split
          · exact leaves
          · exact stays
      | _ => exact stays

theorem startLockText_offered (state : LockTextFormState) :
    Offered .lockTextForm (startLockText outside state calibration).2.1 := by
  unfold startLockText
  split <;> exact offered_plain rfl (by simp)

theorem lockTextFormKey_offered (state : LockTextFormState) :
    Offered .lockTextForm (handleLockTextFormKey outside state key calibration).2.1 := by
  have stays : Offered .lockTextForm .stays := offered_plain rfl (by simp)
  have leaves : Offered .lockTextForm .leaves := offered_plain rfl (by simp)
  unfold handleLockTextFormKey
  split
  · exact leaves
  · split
    · exact stays
    · unfold pressLockText
      cases state.focus with
      | lock =>
          dsimp only
          split
          · exact startLockText_offered outside calibration state
          · exact stays
      | cancel =>
          dsimp only
          split
          · exact leaves
          · exact stays
      | _ => exact stays

theorem started_unlock_offered (screen : Screen) (result : Except String FormEffect)
    (fails : ∀ message, offers screen (.fails message) = true)
    (starts : ∀ effect, result = .ok effect → Offered screen effect) :
    Offered screen (started result) := by
  cases result with
  | ok effect => exact starts effect rfl
  | error err => exact offered_plain (fails err) (by simp [started])

theorem unlockFormKey_offered (state : UnlockFormState) :
    Offered .unlockForm (handleUnlockFormKey outside state key calibration).2.1 := by
  have stays : Offered .unlockForm .stays := offered_plain rfl (by simp)
  have leaves : Offered .unlockForm .leaves := offered_plain rfl (by simp)
  unfold handleUnlockFormKey
  split
  · exact leaves
  · split
    · exact stays
    · unfold pressUnlock
      cases state.focus with
      | inputPath => dsimp only; split <;> exact stays
      | browseInput =>
          dsimp only
          split
          · exact ⟨rfl, by rintro _ _ _ ⟨⟩; rfl⟩
          · exact stays
      | outputDir => exact stays
      | browseOutputDir =>
          dsimp only
          split
          · exact ⟨rfl, by rintro _ _ _ ⟨⟩; rfl⟩
          · exact stays
      | start =>
          dsimp only
          split
          · dsimp only
            refine started_unlock_offered _ _ (fun _ => rfl) ?_
            intro effect success
            unfold startUnlock at success
            dsimp only at success
            split at success
            · cases success
            · cases success
              exact offered_plain rfl (by simp)
          · exact stays
      | cancel =>
          dsimp only
          split
          · exact leaves
          · exact stays

theorem inspected_offered (screen : Screen) (result : Except Error InspectResponse)
    (fails : ∀ message, offers screen (.fails message) = true)
    (inspects : offers screen .inspects = true) : Offered screen (inspected result) := by
  cases result with
  | ok response => exact offered_plain inspects (by simp [inspected])
  | error err => exact offered_plain (fails _) (by simp [inspected])

theorem inspectFormKey_offered (state : InspectFormState) :
    Offered .inspectForm (handleInspectFormKey outside state key calibration).2.1 := by
  have stays : Offered .inspectForm .stays := offered_plain rfl (by simp)
  have leaves : Offered .inspectForm .leaves := offered_plain rfl (by simp)
  unfold handleInspectFormKey
  split
  · exact leaves
  · split
    · exact stays
    · unfold pressInspect
      cases state.focus with
      | inputPath => exact stays
      | browseInput =>
          dsimp only
          split
          · exact ⟨rfl, by rintro _ _ _ ⟨⟩; rfl⟩
          · exact stays
      | inspect =>
          dsimp only
          split
          · split
            · exact offered_plain rfl (by simp)
            · dsimp only
              exact inspected_offered _ _ (fun _ => rfl) rfl
          · exact stays
      | cancel =>
          dsimp only
          split
          · exact leaves
          · exact stays

theorem inspectDetailsKey_offered (state : InspectDetailsState) :
    Offered .inspectDetails (handleInspectDetailsKey state key).2 := by
  have stays : Offered .inspectDetails .stays := offered_plain rfl (by simp)
  have leaves : Offered .inspectDetails .leaves := offered_plain rfl (by simp)
  unfold handleInspectDetailsKey
  split
  · exact leaves
  · split
    · exact stays
    · split
      · cases state.focus with
        | unlock =>
            dsimp only
            refine started_unlock_offered _ _ (fun _ => rfl) ?_
            intro effect success
            unfold startUnlockFromPath at success
            split at success
            · cases success
            · cases success
              exact offered_plain rfl (by simp)
        | back => exact leaves
      · exact stays

end Offers

/-! The requests are those of the forms without their cursors. -/

def LockFileFormState.texts (state : LockFileFormState) : LockForms.LockFileFormState :=
  ⟨shown state.inputPath, shown state.outputPath, shown state.targetDelay,
    shown state.password.field, shown state.passwordConfirmation.field, state.profileIndex⟩

def LockTextFormState.texts (state : LockTextFormState) : LockForms.LockTextFormState :=
  ⟨shown state.inputText, shown state.outputPath, shown state.targetDelay,
    shown state.password.field, shown state.passwordConfirmation.field, state.profileIndex⟩

def formApp (outside : Outside) (calibration : SessionCalibration) : LockForms.App :=
  ⟨(calibration.ensureSessionCalibration outside.awaited outside.measured).1,
    outside.lockModulusBits⟩

theorem lift_bind_answer {σ α β : Type} (value : Except String α)
    (next : α → Run String σ β) (s : σ) :
    ((Run.lift value >>= next) s).1 = value >>= fun result => (next result s).1 := by
  cases value with
  | ok result => rfl
  | error err => rfl

theorem sessionRate_answer {β : Type} (outside : Outside) (profile : String)
    (result : Option UInt64 → β) (calibration : SessionCalibration) :
    ((sessionRate outside profile >>= fun rate => pure (result rate)) calibration).1 =
      LockForms.formRate (formApp outside calibration) profile >>= fun rate =>
        pure (result rate) := by
  by_cases machine : isCurrentMachineProfileId profile = true
  · rw [sessionRate, if_pos machine, LockForms.formRate, if_pos machine, formApp]
    cases ensured : calibration.ensureSessionCalibration outside.awaited outside.measured with
    | mk rate after => cases rate <;> simp [ensuredRate, ensured, bind, Except.bind, Except.map,
        Except.mapError, pure, Except.pure]
  · rw [sessionRate, if_neg machine, LockForms.formRate, if_neg machine]
    rfl

theorem buildLockRequest_answer (outside : Outside) (inputRequired outputRequired : String)
    (input output target : TextField) (password confirmation : SecretTextField)
    (profileIndex : Nat) (calibration : SessionCalibration) :
    (buildLockRequest outside inputRequired outputRequired input output target password
      confirmation profileIndex calibration).1 =
      LockForms.buildLockRequest (formApp outside calibration) inputRequired outputRequired
        (shown input) (shown output) (shown target) (shown password.field)
        (shown confirmation.field) profileIndex := by
  unfold buildLockRequest LockForms.buildLockRequest
  simp only [lift_bind_answer, sessionRate_answer]
  rfl

/-- A file form starts a lock with the request of its texts. -/
theorem startLockFile_request (outside : Outside) (state : LockFileFormState)
    (calibration : SessionCalibration) (request : LockRequest) (inputDisplay outputDisplay : String)
    (starts : (startLockFile outside state calibration).2.1 =
      .locks request inputDisplay outputDisplay) :
    LockForms.buildLockFileRequest (formApp outside calibration) state.texts = .ok request := by
  have answer : (buildLockFileRequest outside state calibration).1 =
      LockForms.buildLockFileRequest (formApp outside calibration) state.texts :=
    buildLockRequest_answer outside _ _ _ _ _ _ _ _ calibration
  rw [← answer]
  unfold startLockFile at starts
  split at starts <;> rename_i built
  · cases starts
    rw [built]
  · cases starts

/-- And a text form. -/
theorem startLockText_request (outside : Outside) (state : LockTextFormState)
    (calibration : SessionCalibration) (request : LockRequest) (inputDisplay outputDisplay : String)
    (starts : (startLockText outside state calibration).2.1 =
      .locks request inputDisplay outputDisplay) :
    LockForms.buildLockTextRequest (formApp outside calibration) state.texts = .ok request := by
  have answer : (buildLockTextRequest outside state calibration).1 =
      LockForms.buildLockTextRequest (formApp outside calibration) state.texts :=
    buildLockRequest_answer outside _ _ _ _ _ _ _ _ calibration
  rw [← answer]
  unfold startLockText at starts
  split at starts <;> rename_i built
  · cases starts
    rw [built]
  · cases starts

def Keeping (before after : SessionCalibration) : Prop :=
  Sound before → Sound after ∧
    ∀ rate, before.iterationsPerSecond = some rate → after.iterationsPerSecond = some rate

theorem keeping_refl (calibration : SessionCalibration) : Keeping calibration calibration :=
  fun sound => ⟨sound, fun _ known => known⟩

theorem keeping_trans (a b c : SessionCalibration) (first : Keeping a b) (second : Keeping b c) :
    Keeping a c := by
  intro sound
  obtain ⟨between, kept⟩ := first sound
  obtain ⟨last, later⟩ := second between
  exact ⟨last, fun rate known => later rate (kept rate known)⟩

theorem keeping_asked {before after : SessionCalibration}
    (asked : Sound before → ∃ answer, Asked before answer after) : Keeping before after := by
  intro sound
  obtain ⟨answer, asked⟩ := asked sound
  exact ⟨(asked_sound sound asked).1, (asked_kept asked).1⟩

theorem sessionRate_keeps (outside : Outside) (profile : String) :
    Run.Keeps Keeping (sessionRate outside profile) := by
  by_cases machine : isCurrentMachineProfileId profile = true
  · rw [sessionRate, if_pos machine]
    exact fun calibration => keeping_asked fun sound =>
      ⟨_, ensure_asked outside.awaited outside.measured sound⟩
  · rw [sessionRate, if_neg machine]
    exact Run.keeps_pure keeping_refl _

theorem buildLockRequest_keeps (outside : Outside) (inputRequired outputRequired : String)
    (input output target : TextField) (password confirmation : SecretTextField)
    (profileIndex : Nat) :
    Run.Keeps Keeping (buildLockRequest outside inputRequired outputRequired input output target
      password confirmation profileIndex) := by
  have lifted : ∀ {α : Type} (value : Except String α), Run.Keeps Keeping (Run.lift value) :=
    fun value => Run.keeps_lift keeping_refl value
  unfold buildLockRequest
  refine Run.keeps_bind keeping_trans (lifted _) fun _ => ?_
  refine Run.keeps_bind keeping_trans (lifted _) fun _ => ?_
  refine Run.keeps_bind keeping_trans (lifted _) fun _ => ?_
  refine Run.keeps_bind keeping_trans (lifted _) fun _ => ?_
  refine Run.keeps_bind keeping_trans (sessionRate_keeps outside _) fun _ => ?_
  exact Run.keeps_pure keeping_refl _

section Rates
variable (outside : Outside) (key : KeyEvent) (calibration : SessionCalibration)

theorem startLockFile_keeping (state : LockFileFormState) :
    Keeping calibration (startLockFile outside state calibration).2.2 := by
  have kept : Keeping calibration (buildLockFileRequest outside state calibration).2 :=
    buildLockRequest_keeps outside _ _ _ _ _ _ _ _ calibration
  unfold startLockFile
  split <;> rename_i built <;> rw [built] at kept <;> exact kept

theorem lockFileFormKey_keeping (state : LockFileFormState) :
    Keeping calibration (handleLockFileFormKey outside state key calibration).2.2 := by
  unfold handleLockFileFormKey
  split
  · exact keeping_refl _
  · split
    · exact keeping_refl _
    · unfold pressLockFile
      cases state.focus with
      | lock =>
          dsimp only
          split
          · exact startLockFile_keeping outside calibration state
          · exact keeping_refl _
      | _ => dsimp only; (try split) <;> exact keeping_refl _

theorem startLockText_keeping (state : LockTextFormState) :
    Keeping calibration (startLockText outside state calibration).2.2 := by
  have kept : Keeping calibration (buildLockTextRequest outside state calibration).2 :=
    buildLockRequest_keeps outside _ _ _ _ _ _ _ _ calibration
  unfold startLockText
  split <;> rename_i built <;> rw [built] at kept <;> exact kept

theorem lockTextFormKey_keeping (state : LockTextFormState) :
    Keeping calibration (handleLockTextFormKey outside state key calibration).2.2 := by
  unfold handleLockTextFormKey
  split
  · exact keeping_refl _
  · split
    · exact keeping_refl _
    · unfold pressLockText
      cases state.focus with
      | lock =>
          dsimp only
          split
          · exact startLockText_keeping outside calibration state
          · exact keeping_refl _
      | _ => dsimp only; (try split) <;> exact keeping_refl _

theorem inspectPath_keeping (path : Path) :
    Keeping calibration (inspectPath outside path calibration).2 :=
  keeping_asked fun sound => ⟨_, estimate_asked (outside.pathExists path) sound⟩

theorem inspectFormKey_keeping (state : InspectFormState) :
    Keeping calibration (handleInspectFormKey outside state key calibration).2.2 := by
  unfold handleInspectFormKey
  split
  · exact keeping_refl _
  · split
    · exact keeping_refl _
    · unfold pressInspect
      cases state.focus with
      | inspect =>
          dsimp only
          split
          · split
            · exact keeping_refl _
            · exact inspectPath_keeping outside calibration _
          · exact keeping_refl _
      | _ => dsimp only; (try split) <;> exact keeping_refl _

/-- The estimate for what is entered, at a rate: a label, its seconds, or what failed. -/
def unlockEstimate (rate : Option UInt64) (input : String) :
    Option String × Option UInt64 × Option String :=
  if input.isEmpty then (none, none, none)
  else if outside.pathExists (ofText input) = false then (none, none, some "File not found")
  else
    match outside.inspect ⟨ofText input, rate⟩ with
    | .error err => (none, none, some (describe err))
    | .ok response =>
        ((timelockEstimate response).map TimelockEstimate.label,
          (timelockEstimate response).map TimelockEstimate.seconds, none)

def estimateShown (state : UnlockFormState) : Option String × Option UInt64 × Option String :=
  (state.estimatedDurationLabel, state.estimatedDurationSeconds, state.estimatedError)

theorem asked_answer {calibration after : SessionCalibration} {answer : Option UInt64}
    (asked : Asked calibration answer after) : answer = after.iterationsPerSecond := by
  cases asked with
  | known rate known => exact known.symm
  | pending unknown => exact unknown.symm
  | failed unknown => exact unknown.symm
  | learnt rate _ _ => rfl

/-- A refreshed estimate is for what is entered now, at the rate the session then has. -/
theorem refresh_estimate (state : UnlockFormState) (sound : Sound calibration) :
    estimateShown (refreshUnlockEstimateState outside state calibration).1 =
      unlockEstimate outside
        (refreshUnlockEstimateState outside state calibration).2.iterationsPerSecond
        (entered state.inputPath) := by
  unfold refreshUnlockEstimateState unlockEstimate
  dsimp only
  split
  · rfl
  · split
    · rfl
    · have answer := asked_answer
        (estimate_asked (outside.pathExists (ofText (entered state.inputPath))) sound)
      unfold inspectTimelockEstimate
      dsimp only
      cases inspected : outside.inspect ⟨ofText (entered state.inputPath),
          (calibration.estimateCalibrationForPath
            (outside.pathExists (ofText (entered state.inputPath)))).1⟩ with
      | error err =>
          simp only [Except.mapError, Except.map]
          rw [← answer, inspected]
          rfl
      | ok response =>
          simp only [Except.mapError, Except.map]
          cases estimated : timelockEstimate response with
          | none =>
              dsimp only
              rw [← answer, inspected]
              simp [estimateShown, estimated]
          | some estimate =>
              dsimp only
              rw [← answer, inspected]
              simp [estimateShown, estimated]

theorem refresh_keeping (state : UnlockFormState) :
    Keeping calibration (refreshUnlockEstimateState outside state calibration).2 := by
  have asked : Keeping calibration (calibration.estimateCalibrationForPath
      (outside.pathExists (ofText (entered state.inputPath)))).2 :=
    keeping_asked fun sound => ⟨_, estimate_asked _ sound⟩
  unfold refreshUnlockEstimateState
  dsimp only
  split
  · exact keeping_refl _
  · split
    · exact keeping_refl _
    · split <;> exact asked

theorem unlockFormKey_keeping (state : UnlockFormState) :
    Keeping calibration (handleUnlockFormKey outside state key calibration).2.2 := by
  unfold handleUnlockFormKey
  split
  · exact keeping_refl _
  · split
    · exact keeping_refl _
    · unfold pressUnlock
      cases state.focus with
      | inputPath =>
          dsimp only
          split
          · dsimp only
            exact refresh_keeping outside calibration _
          · exact keeping_refl _
      | _ => dsimp only; (try split) <;> exact keeping_refl _

end Rates

end Forms
