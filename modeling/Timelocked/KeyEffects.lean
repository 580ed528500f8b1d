import Timelocked.TuiKeys

/-!
What a key can do to a screen and to the session around it, said once for all
the handlers. A screen that runs no worker stays so unless a worker is started;
a screen that runs one only moves its focus or sets the worker's flag.
-/
namespace KeyEffects

open Base PathText Lock Unlock Channels TextFields TuiSession TuiKeys

def isRunning : Screen → Bool
  | .lockProgress _ => true
  | .unlockProgress _ => true
  | .verifyForm state => state.status ≠ .idle
  | _ => false

def isPrompt : Option Modal → Bool
  | some (.passwordPrompt _) => true
  | _ => false

inductive KeyEffect (session : Session) : Screen → Screen × Session → Prop
  | moves (screen after) (idle : isRunning screen = false) (still : isRunning after = false) :
      KeyEffect session screen (after, session)
  | notes (screen after) (modal : Option Modal) (idle : isRunning screen = false)
      (still : isRunning after = false) (plain : isPrompt modal = false) :
      KeyEffect session screen (after, session.setModal modal)
  | quits (state) : KeyEffect session (.mainMenu state) (.mainMenu state, session.quit)
  | focusesLock (state) (focus) :
      KeyEffect session (.lockProgress state) (.lockProgress { state with focus := focus }, session)
  | cancelsLock (state) (focus) :
      KeyEffect session (.lockProgress state)
        (.lockProgress { state with focus := focus, cancelRequested := true },
          session.cancel state.worker.id)
  | focusesUnlock (state) (focus) :
      KeyEffect session (.unlockProgress state)
        (.unlockProgress { state with focus := focus }, session)
  | cancelsUnlock (state) (focus) :
      KeyEffect session (.unlockProgress state)
        (.unlockProgress { state with focus := focus, cancelRequested := true },
          session.cancel state.worker.id)
  | focusesVerify (state after) (running : state.status ≠ .idle)
      (same : after.status = state.status) :
      KeyEffect session (.verifyForm state) (.verifyForm after, session)
  | cancelsVerify (state) (worker) (running : state.status ≠ .idle)
      (found : session.app.verifyWorker = some worker) :
      KeyEffect session (.verifyForm state)
        (.verifyForm { state with status := .cancelling }, session.cancel worker.id)
  | startsLock (screen) (inputDisplay outputDisplay) (idle : isRunning screen = false) :
      KeyEffect session screen
        (newLockProgressScreen inputDisplay outputDisplay (spawnLockWorker session).1,
          (spawnLockWorker session).2)
  | startsUnlock (screen) (fileDisplay) (estimate) (idle : isRunning screen = false) :
      KeyEffect session screen
        (newUnlockProgressScreen fileDisplay estimate (spawnUnlockWorker session).1,
          (spawnUnlockWorker session).2)
  | startsVerify (state) (idle : state.status = .idle) :
      KeyEffect session (.verifyForm state)
        (.verifyForm { state with status := .running },
          (spawnVerifyWorker session).2.setVerifyWorker (some (spawnVerifyWorker session).1))

section Handlers
variable (session : Session) (key : KeyEvent)

theorem mainMenuKey_effect (state : MainMenuState) :
    KeyEffect session (.mainMenu state) (handleMainMenuKey state key session) := by
  simp only [handleMainMenuKey]
  split
  · exact .quits state
  · exact .moves _ _ rfl rfl
  · exact .moves _ _ rfl rfl
  · exact .moves _ _ rfl rfl
  · exact .moves _ _ rfl rfl
  · -- No item of the menu runs a worker.
    cases item : mainMenuItems[state.selected]? with
    | none => exact .moves _ _ rfl rfl
    | some form =>
        have listed := List.mem_of_getElem? item
        have idle : ∀ form ∈ mainMenuItems, isRunning form = false := by
          simp [mainMenuItems, isRunning]
        exact .moves _ form rfl (idle form listed)
  · exact .moves _ _ rfl rfl

theorem lockProgressKey_effect (state : LockProgressState) :
    KeyEffect session (.lockProgress state) (handleLockProgressKey state key session) := by
  simp only [handleLockProgressKey, requestLockCancel]
  split
  · split
    · exact .focusesLock state _
    · exact .cancelsLock state _
  · exact .focusesLock state _

theorem unlockProgressKey_effect (state : UnlockProgressState) :
    KeyEffect session (.unlockProgress state) (handleUnlockProgressKey state key session) := by
  simp only [handleUnlockProgressKey, requestUnlockCancel]
  split
  · split
    · exact .focusesUnlock state _
    · exact .cancelsUnlock state _
  · exact .focusesUnlock state _

theorem report_effect (screen after : Screen) (called : Except Error Unit)
    (success : Option String) (idle : isRunning screen = false) (still : isRunning after = false) :
    KeyEffect session screen (after, report session called success) := by
  unfold report
  split
  · exact .notes _ _ _ idle still rfl
  · exact .moves _ _ idle still
  · exact .notes _ _ _ idle still rfl

theorem lockCompleteKey_effect (state : LockCompleteState) (called : Except Error Unit) :
    KeyEffect session (.lockComplete state) (handleLockCompleteKey state key called session) := by
  simp only [handleLockCompleteKey]
  split
  · exact .moves _ _ rfl rfl
  · split
    · exact .moves _ _ rfl rfl
    · split
      · split
        · split
          · exact .moves _ _ rfl rfl
          · exact report_effect _ _ _ _ _ rfl rfl
        · exact report_effect _ _ _ _ _ rfl rfl
        · exact .moves _ _ rfl rfl
      · exact .moves _ _ rfl rfl

theorem unlockCompleteKey_effect (state : UnlockCompleteState) (called : Except Error Unit) :
    KeyEffect session (.unlockComplete state)
      (handleUnlockCompleteKey state key called session) := by
  simp only [handleUnlockCompleteKey]
  split
  · exact .moves _ _ rfl rfl
  · split
    · split
      · exact .moves _ _ rfl rfl
      · exact .moves _ _ rfl rfl
    · split
      · exact .moves _ _ rfl rfl
      · split
        · split
          · exact report_effect _ _ _ _ _ rfl rfl
          · exact .moves _ _ rfl rfl
        · exact .moves _ _ rfl rfl

theorem formKey_effect (form : Screen) (outcome : FormOutcome) (idle : isRunning form = false) :
    KeyEffect session form (handleFormKey form outcome session) := by
  simp only [handleFormKey]
  split
  · cases outcome with
    | stays => exact .moves _ _ idle idle
    | leaves => exact .moves _ _ idle rfl
    | fails message => exact .notes _ _ _ idle idle rfl
    | browses target => exact .notes _ _ _ idle idle rfl
    | startsLock inputDisplay outputDisplay => exact .startsLock form inputDisplay outputDisplay idle
    | startsUnlock fileDisplay estimate => exact .startsUnlock form fileDisplay estimate idle
    | inspects => exact .moves _ _ idle rfl
  · exact .moves _ _ idle idle

theorem pressVerify_effect (state : VerifyFormState) (idle : state.status = .idle) :
    KeyEffect session (.verifyForm state) (pressVerify state session) := by
  have still : isRunning (.verifyForm state) = false := by simp [isRunning, idle]
  simp only [pressVerify, startVerify]
  split
  · rename_i failed
    split at failed
    · cases failed
    · cases failed
      exact .startsVerify state idle
  · rename_i failed
    split at failed
    · cases failed
      exact .notes _ _ _ still still rfl
    · cases failed

/-- The handler moves the focus, with or without a worker. -/
theorem verifyFocus_effect (state after : VerifyFormState) (same : after.status = state.status) :
    KeyEffect session (.verifyForm state) (.verifyForm after, session) := by
  by_cases idle : state.status = .idle
  · exact .moves _ _ (by simp [isRunning, idle]) (by simp [isRunning, same, idle])
  · exact .focusesVerify state after idle same

theorem verifyCancel_effect (state : VerifyFormState) (running : state.status ≠ .idle) :
    KeyEffect session (.verifyForm state)
      (.verifyForm (requestVerifyCancel state session).1,
        (requestVerifyCancel state session).2) := by
  unfold requestVerifyCancel
  split
  · exact verifyFocus_effect session state state rfl
  · split
    · rename_i worker found
      exact .cancelsVerify state worker running found
    · exact verifyFocus_effect session state state rfl

theorem armed_status (state : VerifyFormState) :
    (armFocusFieldForReplace state).status = state.status := by
  unfold armFocusFieldForReplace
  split <;> rfl

theorem verifyFormKey_effect (state : VerifyFormState) :
    KeyEffect session (.verifyForm state) (handleVerifyFormKey state key session) := by
  have leaves : state.status = .idle → KeyEffect session (.verifyForm state) (mainMenu, session) :=
    fun idle => .moves _ _ (by simp [isRunning, idle]) rfl
  have stays : KeyEffect session (.verifyForm state) (.verifyForm state, session) :=
    verifyFocus_effect session state state rfl
  simp only [handleVerifyFormKey]
  split
  · split
    · exact leaves ‹_›
    · exact verifyCancel_effect session state ‹_›
  · split
    · exact verifyFocus_effect session state _ (armed_status _)
    · split
      · split
        · exact verifyFocus_effect session state _ rfl
        · exact stays
      · split
        · rename_i pressed
          have idle : isRunning (.verifyForm state) = false := by simp [isRunning, pressed.2]
          exact .notes _ _ _ idle idle rfl
        · exact stays
      · split
        · rename_i pressed
          exact pressVerify_effect session state pressed.2
        · exact stays
      · split
        · split
          · exact leaves ‹_›
          · exact verifyCancel_effect session state ‹_›
        · exact stays

theorem verifyDetailsKey_effect (state : VerifyDetailsState) :
    KeyEffect session (.verifyDetails state) (handleVerifyDetailsKey state key session) := by
  simp only [handleVerifyDetailsKey]
  split
  · exact .moves _ _ rfl rfl
  · exact .moves _ _ rfl rfl
  · exact .moves _ _ rfl rfl

theorem screenKey_effect (screen : Screen) (answer : Answer) :
    KeyEffect session screen (handleScreenKey screen key answer session) := by
  cases screen with
  | mainMenu state => exact mainMenuKey_effect session key state
  | lockFileForm => exact formKey_effect session _ answer.form rfl
  | lockTextForm => exact formKey_effect session _ answer.form rfl
  | lockProgress state => exact lockProgressKey_effect session key state
  | lockComplete state => exact lockCompleteKey_effect session key state _
  | unlockForm => exact formKey_effect session _ answer.form rfl
  | unlockProgress state => exact unlockProgressKey_effect session key state
  | unlockComplete state => exact unlockCompleteKey_effect session key state _
  | inspectForm => exact formKey_effect session _ answer.form rfl
  | inspectDetails => exact formKey_effect session _ answer.form rfl
  | verifyForm state => exact verifyFormKey_effect session key state
  | verifyDetails state => exact verifyDetailsKey_effect session key state

end Handlers

end KeyEffects
