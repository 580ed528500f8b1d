import Timelocked.TuiSession

/-!
The key handlers of the session: `routing.rs`, `modal.rs` and the screens under
`src/userinterfaces/tui/features`. The fields of the two lock forms, the unlock
form and the inspection screens are left out; the answer to a key says what they
make of it, among what the handler of the screen can do.
-/
namespace TuiKeys

open Base PathText Lock Unlock Channels TextFields TuiSession

inductive FormOutcome where
  | stays
  | leaves
  | fails (message : String)
  | browses (target : BrowserTarget)
  | startsLock (inputDisplay outputDisplay : String)
  | startsUnlock (fileDisplay : String) (estimatedDurationSeconds : Option UInt64)
  | inspects
  deriving DecidableEq, Repr

structure Answer where
  form : FormOutcome
  /-- The path of the browser's entry that the key selects. -/
  selection : Option Path
  /-- What inspecting, verifying or opening a folder returns. -/
  called : Except Error Unit

def offers : Screen → FormOutcome → Bool
  | .lockFileForm, .browses target => target = .lockFileInput
  | .lockFileForm, .startsLock _ _ => true
  | .lockTextForm, .startsLock _ _ => true
  | .unlockForm, .browses target => target = .unlockInput || target = .unlockOutputDir
  | .unlockForm, .startsUnlock _ _ => true
  | .inspectForm, .browses target => target = .inspectInput
  | .inspectForm, .inspects => true
  | .inspectDetails, .startsUnlock _ _ => true
  | _, .stays => true
  | _, .leaves => true
  | _, .fails _ => true
  | _, _ => false

def openBrowser (session : Session) (target : BrowserTarget) : Session :=
  session.setModal (some (.browser target))

def handleFormKey (form : Screen) (outcome : FormOutcome) (session : Session) :
    Screen × Session :=
  if offers form outcome then
    match outcome with
    | .stays => (form, session)
    | .leaves => (mainMenu, session)
    | .fails message => (form, session.setModal (some (.error message)))
    | .browses target => (form, openBrowser session target)
    | .startsLock inputDisplay outputDisplay =>
        let (worker, session) := spawnLockWorker session
        (newLockProgressScreen inputDisplay outputDisplay worker, session)
    | .startsUnlock fileDisplay estimatedDurationSeconds =>
        let (worker, session) := spawnUnlockWorker session
        (newUnlockProgressScreen fileDisplay estimatedDurationSeconds worker, session)
    | .inspects => (.inspectDetails, session)
  else (form, session)

inductive FocusNavigationAxis where
  | vertical
  | horizontal
  deriving DecidableEq, Repr

def cycledFocus {F : Type} (key : KeyEvent) (focus : F) (next prev : F → F)
    (axis : FocusNavigationAxis) : Option F :=
  match key.code, axis with
  | .tab, _ => some (next focus)
  | .backTab, _ => some (prev focus)
  | .down, .vertical => some (next focus)
  | .up, .vertical => some (prev focus)
  | .right, .horizontal => some (next focus)
  | .left, .horizontal => some (prev focus)
  | _, _ => none

/-! `main_menu/screen.rs`. -/

def mainMenuItems : List Screen :=
  [.lockFileForm, .lockTextForm, .unlockForm, .inspectForm,
    .verifyForm ⟨TextField.new [], .inputPath, .idle⟩]

namespace MainMenuState

def moveUp (state : MainMenuState) : MainMenuState :=
  if state.selected = 0 then ⟨mainMenuItems.length - 1⟩ else ⟨state.selected - 1⟩

def moveDown (state : MainMenuState) : MainMenuState :=
  ⟨(state.selected + 1) % max mainMenuItems.length 1⟩

end MainMenuState

def handleMainMenuKey (state : MainMenuState) (key : KeyEvent) (session : Session) :
    Screen × Session :=
  match key.code with
  | .esc => (.mainMenu state, session.quit)
  | .up => (.mainMenu (MainMenuState.moveUp state), session)
  | .char 'k' => (.mainMenu (MainMenuState.moveUp state), session)
  | .down => (.mainMenu (MainMenuState.moveDown state), session)
  | .char 'j' => (.mainMenu (MainMenuState.moveDown state), session)
  | .enter => ((mainMenuItems[state.selected]?).getD (.mainMenu state), session)
  | _ => (.mainMenu state, session)

/-! `lock/progress.rs` and `unlock/progress.rs`. -/

namespace ProgressFocus

def next : ProgressFocus → ProgressFocus
  | .progress => .cancel
  | .cancel => .progress

def prev (focus : ProgressFocus) : ProgressFocus := next focus

end ProgressFocus

def progressKey (focus : ProgressFocus) (key : KeyEvent) : ProgressFocus × Bool :=
  match cycledFocus key focus ProgressFocus.next ProgressFocus.prev .horizontal with
  | some moved => (moved, false)
  | none =>
      match key.code with
      | .esc => (focus, true)
      | .enter => (focus, focus = .cancel)
      | _ => (focus, false)

def requestLockCancel (state : LockProgressState) (session : Session) :
    LockProgressState × Session :=
  if state.cancelRequested then (state, session)
  else ({ state with cancelRequested := true }, session.cancel state.worker.id)

def requestUnlockCancel (state : UnlockProgressState) (session : Session) :
    UnlockProgressState × Session :=
  if state.cancelRequested then (state, session)
  else ({ state with cancelRequested := true }, session.cancel state.worker.id)

def handleLockProgressKey (state : LockProgressState) (key : KeyEvent) (session : Session) :
    Screen × Session :=
  let (focus, cancels) := progressKey state.focus key
  let state := { state with focus := focus }
  let (state, session) := if cancels then requestLockCancel state session else (state, session)
  (.lockProgress state, session)

def handleUnlockProgressKey (state : UnlockProgressState) (key : KeyEvent) (session : Session) :
    Screen × Session :=
  let (focus, cancels) := progressKey state.focus key
  let state := { state with focus := focus }
  let (state, session) := if cancels then requestUnlockCancel state session else (state, session)
  (.unlockProgress state, session)

/-! `lock/complete.rs` and `unlock/complete.rs`. -/

namespace LockCompleteFocus

def next : LockCompleteFocus → LockCompleteFocus
  | .inspect => .verify
  | .verify => .done
  | .done => .inspect

def prev : LockCompleteFocus → LockCompleteFocus
  | .inspect => .done
  | .verify => .inspect
  | .done => .verify

end LockCompleteFocus

def report (session : Session) (called : Except Error Unit) (success : Option String) : Session :=
  match called, success with
  | .ok _, some message => session.setModal (some (.info message))
  | .ok _, none => session
  | .error err, _ => session.setModal (some (.error (describe err)))

def handleLockCompleteKey (state : LockCompleteState) (key : KeyEvent)
    (called : Except Error Unit) (session : Session) : Screen × Session :=
  if key.code = .esc then (mainMenu, session)
  else
    match cycledFocus key state.focus LockCompleteFocus.next LockCompleteFocus.prev .horizontal with
    | some focus => (.lockComplete { state with focus := focus }, session)
    | none =>
        if key.code = .enter then
          match state.focus with
          | .inspect =>
              match called with
              | .ok _ => (.inspectDetails, session)
              | .error _ => (.lockComplete state, report session called none)
          | .verify =>
              (.lockComplete state, report session called (some "Structural verification OK"))
          | .done => (mainMenu, session)
        else (.lockComplete state, session)

namespace UnlockCompleteFocus

def next : UnlockCompleteFocus → UnlockCompleteFocus
  | .openFolder => .done
  | .done => .openFolder

def prev (focus : UnlockCompleteFocus) : UnlockCompleteFocus := next focus

end UnlockCompleteFocus

def handleUnlockCompleteKey (state : UnlockCompleteState) (key : KeyEvent)
    (called : Except Error Unit) (session : Session) : Screen × Session :=
  if key.code = .esc then (mainMenu, session)
  else
    match state.recoveredPayload with
    | .text _ =>
        if key.code = .enter then (mainMenu, session) else (.unlockComplete state, session)
    | .file _ =>
        match cycledFocus key state.focus UnlockCompleteFocus.next UnlockCompleteFocus.prev
            .horizontal with
        | some focus => (.unlockComplete { state with focus := focus }, session)
        | none =>
            if key.code = .enter then
              match state.focus with
              | .openFolder =>
                  (.unlockComplete state, report session called (some "Opened output folder."))
              | .done => (mainMenu, session)
            else (.unlockComplete state, session)

/-! `verify/form.rs` and `verify/details.rs`. -/

namespace VerifyFocus

def next : VerifyFocus → VerifyFocus
  | .inputPath => .browseInput
  | .browseInput => .verify
  | .verify => .cancel
  | .cancel => .inputPath

def prev : VerifyFocus → VerifyFocus
  | .inputPath => .cancel
  | .browseInput => .inputPath
  | .verify => .browseInput
  | .cancel => .verify

end VerifyFocus

def armFocusFieldForReplace (state : VerifyFormState) : VerifyFormState :=
  if state.focus = .inputPath then
    { state with inputPath := state.inputPath.armClearOnNextEdit }
  else state

def startVerify (state : VerifyFormState) (session : Session) :
    Except String VerifyFormState × Session :=
  let input := LockForms.trim (String.ofList state.inputPath.value)
  if input.isEmpty then (.error "Timelocked file is required.", session)
  else
    let (worker, session) := spawnVerifyWorker session
    (.ok { state with status := .running }, session.setVerifyWorker (some worker))

def pressVerify (state : VerifyFormState) (session : Session) : Screen × Session :=
  match startVerify state session with
  | (.ok started, session) => (.verifyForm started, session)
  | (.error err, session) => (.verifyForm state, session.setModal (some (.error err)))

def requestVerifyCancel (state : VerifyFormState) (session : Session) :
    VerifyFormState × Session :=
  if state.status = .cancelling then (state, session)
  else
    match session.app.verifyWorker with
    | some worker => ({ state with status := .cancelling }, session.cancel worker.id)
    | none => (state, session)

def handleVerifyFormKey (state : VerifyFormState) (key : KeyEvent) (session : Session) :
    Screen × Session :=
  let cancelled := requestVerifyCancel state session
  if key.code = .esc then
    if state.status = .idle then (mainMenu, session) else (.verifyForm cancelled.1, cancelled.2)
  else
    match cycledFocus key state.focus VerifyFocus.next VerifyFocus.prev .vertical with
    | some focus => (.verifyForm (armFocusFieldForReplace { state with focus := focus }), session)
    | none =>
        match state.focus with
        | .inputPath =>
            if state.status = .idle then
              (.verifyForm { state with inputPath := (state.inputPath.applyKey key).1 }, session)
            else (.verifyForm state, session)
        | .browseInput =>
            if key.code = .enter ∧ state.status = .idle then
              (.verifyForm state, openBrowser session .verifyInput)
            else (.verifyForm state, session)
        | .verify =>
            if key.code = .enter ∧ state.status = .idle then pressVerify state session
            else (.verifyForm state, session)
        | .cancel =>
            if key.code = .enter then
              if state.status = .idle then (mainMenu, session)
              else (.verifyForm cancelled.1, cancelled.2)
            else (.verifyForm state, session)

def handleVerifyDetailsKey (state : VerifyDetailsState) (key : KeyEvent) (session : Session) :
    Screen × Session :=
  match key.code with
  | .esc => (mainMenu, session)
  | .enter => (mainMenu, session)
  | _ => (.verifyDetails state, session)

/-! `modal.rs`. The screen stays in place while a modal takes the key. -/

/-- The fields of the other forms that a selection changes are left out. -/
def applyBrowserSelection (session : Session) (target : BrowserTarget) (path : Path) : Session :=
  match session.app.screen, target with
  | .verifyForm state, .verifyInput =>
      session.setScreen (.verifyForm
        { state with inputPath := TextField.new (describePath path).toList })
  | _, _ => session

/-- Whether the browser closes. A selection comes from `Enter` or `s`. -/
def handleBrowserKey (session : Session) (target : BrowserTarget) (key : KeyEvent)
    (selection : Option Path) : Bool × Session :=
  match key.code, selection with
  | .esc, _ => (true, session)
  | .char 's', some path => (true, applyBrowserSelection session target path)
  | .enter, some path => (true, applyBrowserSelection session target path)
  | _, _ => (false, session)

def submitPasswordPrompt (state : PasswordPromptState) (session : Session) : Session :=
  session.reply state.reply (.ok (String.ofList state.password.exposeSecret))

def cancelPasswordPrompt (state : PasswordPromptState) (session : Session) : Session :=
  let session := session.reply state.reply (.error .cancelled)
  match session.app.screen with
  | .unlockProgress progress =>
      (session.cancel progress.worker.id).setScreen
        (.unlockProgress { progress with cancelRequested := true })
  | _ => session

def handlePasswordPromptKey (state : PasswordPromptState) (key : KeyEvent) (session : Session) :
    Option PasswordPromptState × Session :=
  match key.code with
  | .tab => (some { state with focus := state.focus.next }, session)
  | .backTab => (some { state with focus := state.focus.prev }, session)
  | .esc => (none, cancelPasswordPrompt state session)
  | .enter =>
      if state.focus = .cancel then (none, cancelPasswordPrompt state session)
      else (none, submitPasswordPrompt state session)
  | _ =>
      if state.focus = .password then
        (some { state with password := (state.password.applyKey key).1 }, session)
      else (some state, session)

def handleModalKey (modal : Modal) (key : KeyEvent) (answer : Answer) (session : Session) :
    Session :=
  let taken := session.setModal none
  match modal with
  | .error message =>
      if key.code = .enter ∨ key.code = .esc then taken
      else taken.setModal (some (.error message))
  | .info message =>
      if key.code = .enter ∨ key.code = .esc then taken
      else taken.setModal (some (.info message))
  | .browser target =>
      let (closes, after) := handleBrowserKey taken target key answer.selection
      after.setModal (if closes then none else some (.browser target))
  | .passwordPrompt state =>
      let (kept, after) := handlePasswordPromptKey state key taken
      after.setModal (kept.map Modal.passwordPrompt)

/-! `routing.rs`. -/

def isQuitKey (key : KeyEvent) : Bool := key.modifiers.control && key.code = .char 'c'

def handleScreenKey (screen : Screen) (key : KeyEvent) (answer : Answer) (session : Session) :
    Screen × Session :=
  match screen with
  | .mainMenu state => handleMainMenuKey state key session
  | .lockProgress state => handleLockProgressKey state key session
  | .lockComplete state => handleLockCompleteKey state key answer.called session
  | .unlockProgress state => handleUnlockProgressKey state key session
  | .unlockComplete state => handleUnlockCompleteKey state key answer.called session
  | .verifyForm state => handleVerifyFormKey state key session
  | .verifyDetails state => handleVerifyDetailsKey state key session
  | form => handleFormKey form answer.form session

def onKey (session : Session) (key : KeyEvent) (answer : Answer) : Session :=
  if isQuitKey key then session.quit
  else
    match session.app.modal with
    | some modal => handleModalKey modal key answer session
    | none => install (handleScreenKey session.app.screen key answer (session.setScreen mainMenu))

end TuiKeys
