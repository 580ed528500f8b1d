import Timelocked.Forms
import Timelocked.OneWorker

/-!
The whole application: the session, and the fields, the browser and the rate
that it leaves out. Each key is answered by what they make of it, so every run
of the application is a run of the session; what holds of the session in any
run of its own holds here as well.
-/
namespace Application

open RunRules Base PathText Lock Unlock Inspection Channels TextFields TuiSession TuiKeys
  PromptSystem Browser Calibration Forms
open KeyEffects (isRunning)
open OneWorker (Matched)

/-- What the screens and the modal hold beyond the session. A form that is not shown keeps what
was last in it, and is new when it is opened. -/
structure Slots where
  lockFile : LockFileFormState
  lockText : LockTextFormState
  unlock : UnlockFormState
  inspectForm : InspectFormState
  inspectDetails : Option InspectDetailsState
  browser : Option FileBrowserState
  calibration : SessionCalibration

def Slots.new : Slots :=
  ⟨LockFileFormState.default, LockTextFormState.default, UnlockFormState.default,
    InspectFormState.default, none, none, SessionCalibration.new⟩

structure App where
  system : System
  slots : Slots
  /-- What lay outside at each key and poll so far. -/
  seen : List Outside

def start : App := ⟨PromptSystem.start, Slots.new, []⟩

def idle : Answer := ⟨.stays, none, .ok ()⟩

def answering (effect : FormEffect) : Answer := ⟨effect.outcome, none, .ok ()⟩

def opened (outside : Outside) (effect : FormEffect) (slots : Slots) : Slots :=
  match effect with
  | .browses target mode preferredPath =>
      { slots with
        browser := some (FileBrowserState.new outside.disk mode target (some preferredPath)) }
  | .inspects response => { slots with inspectDetails := some ⟨response, .unlock⟩ }
  | _ => slots

def entering (selected : Nat) (slots : Slots) : Slots :=
  match mainMenuItems[selected]? with
  | some .lockFileForm => { slots with lockFile := LockFileFormState.default }
  | some .lockTextForm => { slots with lockText := LockTextFormState.default }
  | some .unlockForm => { slots with unlock := UnlockFormState.default }
  | some .inspectForm => { slots with inspectForm := InspectFormState.default }
  | _ => slots

def lockCompleteKey (outside : Outside) (state : LockCompleteState) (slots : Slots) :
    Answer × Slots :=
  match state.focus with
  | .inspect =>
      let result := inspectPath outside state.outputPath slots.calibration
      (⟨.stays, none, result.1.map fun _ => ()⟩,
        opened outside (inspected result.1) { slots with calibration := result.2 })
  | .verify => (⟨.stays, none, outside.verify state.outputPath⟩, slots)
  | .done => (idle, slots)

def screenKey (outside : Outside) (slots : Slots) (key : KeyEvent) : Screen → Answer × Slots
  | .mainMenu state =>
      (idle, if key.code = .enter then entering state.selected slots else slots)
  | .lockFileForm =>
      let handled := handleLockFileFormKey outside slots.lockFile key slots.calibration
      (answering handled.2.1, opened outside handled.2.1
        { slots with lockFile := handled.1, calibration := handled.2.2 })
  | .lockTextForm =>
      let handled := handleLockTextFormKey outside slots.lockText key slots.calibration
      (answering handled.2.1, opened outside handled.2.1
        { slots with lockText := handled.1, calibration := handled.2.2 })
  | .lockComplete state =>
      if key.code = .enter then lockCompleteKey outside state slots else (idle, slots)
  | .unlockForm =>
      let handled := handleUnlockFormKey outside slots.unlock key slots.calibration
      (answering handled.2.1, opened outside handled.2.1
        { slots with unlock := handled.1, calibration := handled.2.2 })
  | .unlockComplete _ => (⟨.stays, none, outside.openFolder⟩, slots)
  | .inspectForm =>
      let handled := handleInspectFormKey outside slots.inspectForm key slots.calibration
      (answering handled.2.1, opened outside handled.2.1
        { slots with inspectForm := handled.1, calibration := handled.2.2 })
  | .inspectDetails =>
      match slots.inspectDetails with
      | some state =>
          let handled := handleInspectDetailsKey state key
          (answering handled.2,
            opened outside handled.2 { slots with inspectDetails := some handled.1 })
      | none => (idle, slots)
  | .verifyForm state =>
      if key.code = .enter ∧ state.focus = .browseInput ∧ state.status = .idle then
        (idle, opened outside
          (.browses .verifyInput .file (ofText (entered state.inputPath))) slots)
      else (idle, slots)
  | _ => (idle, slots)

/-- A selection goes to the field that the browser was opened for. That of the verify form is part
of the session. -/
def applyBrowserSelection (outside : Outside) (screen : Screen) (target : BrowserTarget)
    (path : Path) (slots : Slots) : Slots :=
  let field := TextField.new (describePath path).toList
  match screen, target with
  | .lockFileForm, .lockFileInput =>
      let state := { slots.lockFile with inputPath := field }
      let state := if state.outputTouched then state
        else { state with outputPath := TextField.new (deriveDefaultOutput field.value) }
      { slots with lockFile := state }
  | .unlockForm, .unlockInput =>
      let refreshed := refreshUnlockEstimateState outside
        { slots.unlock with inputPath := field } slots.calibration
      { slots with unlock := refreshed.1, calibration := refreshed.2 }
  | .unlockForm, .unlockOutputDir =>
      { slots with unlock := { slots.unlock with outputDir := field } }
  | .inspectForm, .inspectInput =>
      { slots with inspectForm := { slots.inspectForm with inputPath := field } }
  | _, _ => slots

def browserKey (outside : Outside) (screen : Screen) (slots : Slots) (key : KeyEvent)
    (browser : FileBrowserState) : Answer × Slots :=
  let handled := Browser.handleBrowserKey outside.disk browser key
  match handled.2 with
  | .stays => (idle, { slots with browser := some handled.1 })
  | .closes => (idle, { slots with browser := none })
  | .selects path =>
      (⟨.stays, some path, .ok ()⟩,
        applyBrowserSelection outside screen handled.1.target path
          { slots with browser := none })

def pressed (outside : Outside) (session : Session) (slots : Slots) (key : KeyEvent) :
    Answer × Slots :=
  if isQuitKey key then (idle, slots)
  else
    match session.app.modal with
    | some (.browser _) =>
        match slots.browser with
        | some browser => browserKey outside session.app.screen slots key browser
        | none => (idle, slots)
    | some _ => (idle, slots)
    | none => screenKey outside slots key session.app.screen

def pollSessionCalibrationWorker (outside : Outside) (screen : Screen) (slots : Slots) : Slots :=
  let completed := slots.calibration.tryCompleteSessionCalibration
  let slots := { slots with calibration := completed.2 }
  if completed.1.isSome then
    match screen with
    | .unlockForm =>
        let refreshed := refreshUnlockEstimateState outside slots.unlock slots.calibration
        { slots with unlock := refreshed.1, calibration := refreshed.2 }
    | _ => slots
  else slots

inductive AppEvent where
  /-- A step of a worker's thread. -/
  | thread (event : PromptSystem.Event)
  | calibrationSends (measured : UInt64)
  | calibrationExits
  | poll (outside : Outside)
  | frame
  | key (key : KeyEvent) (outside : Outside)

def isThread : PromptSystem.Event → Bool
  | .poll => false
  | .key _ _ => false
  | _ => true

def onMainMenu : Screen → Bool
  | .mainMenu _ => true
  | _ => false

def onCalibration (app : App) (change : SessionCalibration → SessionCalibration) : App :=
  { app with slots := { app.slots with calibration := change app.slots.calibration } }

def next (app : App) : AppEvent → Option App
  | .thread event =>
      if isThread event then
        (PromptSystem.next app.system event).map fun system => { app with system := system }
      else none
  | .calibrationSends measured =>
      some (onCalibration app
        (CalibrationSystem.onWorker · (send · (calibrateCurrentMachine measured))))
  | .calibrationExits => some (onCalibration app (CalibrationSystem.onWorker · disconnect))
  | .poll outside =>
      (PromptSystem.next app.system .poll).map fun system =>
        ⟨system, pollSessionCalibrationWorker outside app.system.session.app.screen app.slots,
          outside :: app.seen⟩
  | .frame =>
      some (onCalibration app (SessionCalibration.onFrameRendered
        (onMainMenu app.system.session.app.screen)))
  | .key key outside =>
      let handled := pressed outside app.system.session app.slots key
      (PromptSystem.next app.system (.key key handled.1)).map fun system =>
        ⟨system, handled.2, outside :: app.seen⟩

def Takes (before after : App) : Prop := ∃ event, next before event = some after

abbrev Leads := Relation.ReflTransGen Takes

theorem next_session {app after : App} {event : AppEvent} (step : next app event = some after) :
    after.system = app.system ∨ PromptSystem.Takes app.system after.system := by
  cases event with
  | thread event =>
      simp only [next] at step
      split at step
      · obtain ⟨system, taken, rfl⟩ := Option.map_eq_some_iff.mp step
        exact .inr ⟨event, taken⟩
      · cases step
  | calibrationSends measured =>
      cases step
      exact .inl rfl
  | calibrationExits =>
      cases step
      exact .inl rfl
  | poll outside =>
      obtain ⟨system, taken, rfl⟩ := Option.map_eq_some_iff.mp step
      exact .inr ⟨.poll, taken⟩
  | frame =>
      cases step
      exact .inl rfl
  | key key outside =>
      obtain ⟨system, taken, rfl⟩ := Option.map_eq_some_iff.mp step
      exact .inr ⟨_, taken⟩

/-- Every run of the application is one of its session. -/
theorem leads_session {app : App} (reached : Leads start app) :
    PromptSystem.Leads PromptSystem.start app.system := by
  induction reached with
  | refl => exact .refl
  | tail _ step ih =>
      obtain ⟨event, taken⟩ := step
      rcases next_session taken with same | further
      · rw [same]
        exact ih
      · exact ih.tail further

theorem leads_matched {app : App} (reached : Leads start app) : Matched app.system.session :=
  OneWorker.matched_reached (leads_session reached)

inductive Place where
  | lockFileForm
  | lockTextForm
  | unlockForm
  | inspectForm
  | inspectDetails
  | verifyIdle
  | other
  deriving DecidableEq, Repr

def placeOf : Screen → Place
  | .lockFileForm => .lockFileForm
  | .lockTextForm => .lockTextForm
  | .unlockForm => .unlockForm
  | .inspectForm => .inspectForm
  | .inspectDetails => .inspectDetails
  | .verifyForm state => if state.status = .idle then .verifyIdle else .other
  | _ => .other

def holds : Place → BrowserTarget → Bool
  | .lockFileForm, .lockFileInput => true
  | .unlockForm, .unlockInput => true
  | .unlockForm, .unlockOutputDir => true
  | .inspectForm, .inspectInput => true
  | .verifyIdle, .verifyInput => true
  | _, _ => false

def isBrowser : Option Modal → Bool
  | some (.browser _) => true
  | _ => false

structure Stays (before after : Session) : Prop where
  place : placeOf after.app.screen = placeOf before.app.screen
  modal : after.app.modal = before.app.modal

theorem stays_refl (session : Session) : Stays session session := ⟨rfl, rfl⟩

section Threads
variable {session : Session}

theorem onUnlockChannel_stays (worker : WorkerId)
    (change : Channel UnlockWorkerEvent → Channel UnlockWorkerEvent) :
    Stays session (onUnlockChannel session worker change) := by
  unfold onUnlockChannel
  split
  · rename_i state screen
    split
    · refine ⟨?_, rfl⟩
      rw [screen]
      rfl
    · exact stays_refl session
  · exact stays_refl session

theorem onLockChannel_stays (change : Channel LockWorkerEvent → Channel LockWorkerEvent) :
    Stays session (onLockChannel session change) := by
  unfold onLockChannel
  split
  · rename_i state screen
    refine ⟨?_, rfl⟩
    rw [screen]
    rfl
  · exact stays_refl session

end Threads

theorem setThread_stays {before session : Session} (stays : Stays before session)
    (worker : WorkerId) (thread : Thread) : Stays before (setThread session worker thread) :=
  ⟨stays.place, stays.modal⟩

theorem thread_stays {system after : System} {event : PromptSystem.Event}
    (thread : isThread event = true) (step : PromptSystem.next system event = some after) :
    Stays system.session after.session := by
  cases event with
  | progress worker status =>
      simp only [PromptSystem.next] at step
      split at step
      · cases step
        exact @onUnlockChannel_stays system.session worker (send · (.progress status))
      · cases step
  | ask worker attempt maxAttempts failed =>
      simp only [PromptSystem.next] at step
      split at step
      · split at step
        · cases step
          exact setThread_stays (onUnlockChannel_stays worker _) _ _
        · cases step
          exact stays_refl _
      · cases step
  | notice worker =>
      simp only [PromptSystem.next] at step
      split at step
      · split at step
        · cases step
          exact setThread_stays (stays_refl _) _ _
        · cases step
      · cases step
  | receive worker =>
      simp only [PromptSystem.next] at step
      split at step
      · split at step
        · cases step
          exact setThread_stays (stays_refl _) _ _
        · cases step
      · cases step
  | hangUp worker =>
      simp only [PromptSystem.next] at step
      split at step
      · split at step
        · cases step
          exact setThread_stays (stays_refl _) _ _
        · cases step
      · cases step
  | finish worker result =>
      simp only [PromptSystem.next] at step
      split at step
      · cases step
        exact setThread_stays (onUnlockChannel_stays worker _) _ _
      · cases step
  | exit worker =>
      simp only [PromptSystem.next] at step
      split at step
      · cases step
        exact setThread_stays (onUnlockChannel_stays worker _) _ _
      · cases step
  | lockSends event =>
      cases step
      exact onLockChannel_stays (send · event)
  | lockExits =>
      cases step
      exact onLockChannel_stays disconnect
  | verifySends event =>
      cases step
      exact ⟨rfl, rfl⟩
  | verifyExits =>
      cases step
      exact ⟨rfl, rfl⟩
  | poll => cases thread
  | key key answer => cases thread

structure Polled (before after : Session) : Prop where
  running : isRunning before.app.screen = true
  place : placeOf after.app.screen = .other ∨ placeOf after.app.screen = .verifyIdle
  modal : isBrowser after.app.modal = true → after.app.modal = before.app.modal

theorem pollUnlock_polled (session : Session) (state : UnlockProgressState)
    (screen : session.app.screen = .unlockProgress state) :
    Polled session (install (pollUnlockWorker (session.setScreen mainMenu) state)) := by
  have loop : isBrowser (receiveEach unlockEvent ⟨session.setScreen mainMenu, state, none⟩
      state.worker.receiver.queue).1.session.app.modal = true →
        (receiveEach unlockEvent ⟨session.setScreen mainMenu, state, none⟩
          state.worker.receiver.queue).1.session.app.modal = session.app.modal := by
    intro browses
    obtain ⟨_, same | ⟨prompt, prompted⟩⟩ := OneWorker.unlockLoop_leaves
      ⟨session.setScreen mainMenu, state, none⟩ state.worker.receiver.queue
    · exact same
    · rw [prompted] at browses
      cases browses
  have running : isRunning session.app.screen = true := by
    rw [screen]
    rfl
  simp only [pollUnlockWorker, whileOk]
  split
  · exact ⟨running, .inl rfl, loop⟩
  · exact ⟨running, .inl rfl, fun browses => by cases browses⟩
  · exact ⟨running, .inl rfl, fun browses => by cases browses⟩
  · exact ⟨running, .inl rfl, loop⟩

theorem pollLock_polled (session : Session) (state : LockProgressState)
    (screen : session.app.screen = .lockProgress state) :
    Polled session (install (pollLockWorker (session.setScreen mainMenu) state)) := by
  have running : isRunning session.app.screen = true := by
    rw [screen]
    rfl
  simp only [pollLockWorker]
  split
  · exact ⟨running, .inl rfl, fun _ => rfl⟩
  · exact ⟨running, .inl rfl, fun browses => by cases browses⟩
  · exact ⟨running, .inl rfl, fun browses => by cases browses⟩
  · exact ⟨running, .inl rfl, fun _ => rfl⟩

theorem verifyForm_place (state : VerifyFormState) :
    placeOf (.verifyForm state) = .other ∨ placeOf (.verifyForm state) = .verifyIdle := by
  by_cases still : state.status = .idle
  · exact .inr (by simp [placeOf, still])
  · exact .inl (by simp [placeOf, still])

theorem pollVerify_polled (session : Session) (state : VerifyFormState)
    (screen : session.app.screen = .verifyForm state) (running : state.status ≠ .idle) :
    Polled session (install (pollVerifyWorker (session.setScreen mainMenu) state)) := by
  have shown : isRunning session.app.screen = true := by
    rw [screen]
    simpa [isRunning] using running
  simp only [pollVerifyWorker]
  split
  · exact ⟨shown, verifyForm_place _, fun _ => rfl⟩
  · split
    · exact ⟨shown, .inl rfl, fun _ => rfl⟩
    · exact ⟨shown, verifyForm_place _, fun browses => by cases browses⟩
    · exact ⟨shown, verifyForm_place _, fun browses => by cases browses⟩
    · exact ⟨shown, verifyForm_place _, fun _ => rfl⟩
    · exact ⟨shown, verifyForm_place _, fun browses => by cases browses⟩

theorem poll_polled (session : Session) (matched : Matched session) :
    Stays session (pollWorkers session) ∨ Polled session (pollWorkers session) := by
  cases screen : session.app.screen with
  | lockProgress state =>
      right
      simpa [pollWorkers, screen] using pollLock_polled session state screen
  | unlockProgress state =>
      right
      simpa [pollWorkers, screen] using pollUnlock_polled session state screen
  | verifyForm state =>
      by_cases running : state.status = .idle
      · left
        rw [Matched, screen] at matched
        have clear : session.app.verifyWorker = none := by
          simpa [OneWorker.verifying, running] using matched
        have same : pollVerifyWorker (session.setScreen mainMenu) state =
            (.verifyForm state, session.setScreen mainMenu) := by
          have taken : (session.setScreen mainMenu).app.verifyWorker = none := clear
          simp [pollVerifyWorker, taken, running]
        have kept : pollWorkers session =
            install (.verifyForm state, session.setScreen mainMenu) := by
          simp only [pollWorkers, screen, same]
        rw [kept]
        exact ⟨by rw [screen]; rfl, rfl⟩
      · right
        simpa [pollWorkers, screen] using pollVerify_polled session state screen running
  | _ =>
      left
      refine ⟨?_, ?_⟩ <;> simp [pollWorkers, screen, install, Session.setScreen]

section BrowserKeys
variable {disk : Disk} {browser after : FileBrowserState} {key : KeyEvent}

theorem browserKey_stays (stays : Browser.handleBrowserKey disk browser key = (after, .stays)) :
    key.code ≠ .esc := by
  intro escaped
  simp [Browser.handleBrowserKey, escaped] at stays

theorem browserKey_closes (closes : Browser.handleBrowserKey disk browser key = (after, .closes)) :
    key.code = .esc := by
  unfold Browser.handleBrowserKey at closes
  split at closes
  · assumption
  all_goals try cases closes
  · split at closes <;> cases closes
  · split at closes <;> cases closes
  · split at closes
    · cases closes
    · split at closes <;> split at closes <;> cases closes

theorem browserKey_selects {path : Path}
    (selects : Browser.handleBrowserKey disk browser key = (after, .selects path)) :
    key.code = .enter ∨ key.code = .char 's' := by
  unfold Browser.handleBrowserKey at selects
  split at selects
  all_goals try cases selects
  · split at selects <;> cases selects
  · exact .inr ‹_›
  · exact .inl ‹_›

end BrowserKeys

theorem cancelPrompt_place (session : Session) (state : PasswordPromptState) :
    placeOf (cancelPasswordPrompt state session).app.screen = placeOf session.app.screen := by
  unfold cancelPasswordPrompt
  dsimp only
  split
  · rename_i progress screen
    have shown : session.app.screen = .unlockProgress progress := screen
    rw [shown]
    rfl
  · rfl

theorem promptKey_place (session : Session) (state : PasswordPromptState) (key : KeyEvent) :
    placeOf (handlePasswordPromptKey state key session).2.app.screen =
      placeOf session.app.screen := by
  unfold handlePasswordPromptKey
  split
  · rfl
  · rfl
  · exact cancelPrompt_place session state
  · split
    · exact cancelPrompt_place session state
    · rfl
  · split <;> rfl

/-- A modal that is no browser opens none, and leaves the place. -/
theorem modalKey_place (session : Session) (modal : Modal) (key : KeyEvent) (answer : Answer)
    (plain : isBrowser (some modal) = false) :
    placeOf (handleModalKey modal key answer session).app.screen = placeOf session.app.screen ∧
      isBrowser (handleModalKey modal key answer session).app.modal = false := by
  cases modal with
  | error message =>
      simp only [handleModalKey]
      split <;> exact ⟨rfl, rfl⟩
  | info message =>
      simp only [handleModalKey]
      split <;> exact ⟨rfl, rfl⟩
  | browser target => cases plain
  | passwordPrompt state =>
      refine ⟨promptKey_place (session.setModal none) state key, ?_⟩
      simp only [handleModalKey]
      show isBrowser ((handlePasswordPromptKey state key _).1.map Modal.passwordPrompt) = false
      cases (handlePasswordPromptKey state key (session.setModal none)).1 <;> rfl

/-! An open browser has a field of the screen below it to fill, and was led where it is by the
keys of this run. -/

structure Placed (session : Session) (slots : Slots) (seen : List Outside) : Prop where
  browser : ∀ target, session.app.modal = some (.browser target) →
    holds (placeOf session.app.screen) target = true ∧
      ∃ browser disks, slots.browser = some browser ∧ disks ⊆ seen.map Outside.disk ∧
        Browsed (browsedMode target) target disks browser
  details : placeOf session.app.screen = .inspectDetails → slots.inspectDetails.isSome = true

theorem placed_plain {session : Session} {slots : Slots} {seen : List Outside}
    (modal : isBrowser session.app.modal = false)
    (details : placeOf session.app.screen = .inspectDetails →
      slots.inspectDetails.isSome = true) :
    Placed session slots seen where
  browser target opened := by
    rw [opened] at modal
    cases modal
  details := details

theorem placed_kept {before after : Session} {slots changed : Slots} {seen later : List Outside}
    (placed : Placed before slots seen) (stays : Stays before after)
    (browser : changed.browser = slots.browser)
    (details : changed.inspectDetails = slots.inspectDetails) (more : seen ⊆ later) :
    Placed after changed later where
  browser target opened := by
    rw [stays.modal] at opened
    obtain ⟨held, shown, disks, same, member, browsed⟩ := placed.browser target opened
    refine ⟨?_, shown, disks, browser.trans same, ?_, browsed⟩
    · rw [stays.place]
      exact held
    · exact fun disk found => List.map_subset _ more (member found)
  details place := by
    rw [stays.place] at place
    rw [details]
    exact placed.details place

theorem offers_browses {form : Screen} {target : BrowserTarget}
    (offered : offers form (.browses target) = true) : holds (placeOf form) target = true := by
  cases form <;> cases target <;> first | rfl | cases offered

theorem effect_placed {session : Session} {slots : Slots} {seen : List Outside}
    (outside : Outside) (form : Screen) (effect : FormEffect)
    (clear : session.app.modal = none) (offered : Offered form effect)
    (details : placeOf form = .inspectDetails → slots.inspectDetails.isSome = true) :
    Placed (install (handleFormKey form effect.outcome session)) (opened outside effect slots)
      (outside :: seen) := by
  obtain ⟨has, moded⟩ := offered
  have plain : isBrowser session.app.modal = false := by rw [clear]; rfl
  unfold handleFormKey
  rw [if_pos has]
  cases effect with
  | stays => exact placed_plain plain details
  | leaves => exact placed_plain plain (fun place => by cases place)
  | fails message => exact placed_plain rfl details
  | browses target mode preferredPath =>
      refine ⟨fun target_ opened_ => ?_, details⟩
      cases opened_
      rw [moded target mode preferredPath rfl]
      exact ⟨offers_browses has, _, [outside.disk], rfl, by simp, .opened _ _⟩
  | locks request inputDisplay outputDisplay =>
      exact placed_plain plain (fun place => by cases place)
  | unlocks request fileDisplay estimatedDurationSeconds =>
      exact placed_plain plain (fun place => by cases place)
  | inspects response => exact placed_plain plain (fun _ => rfl)

theorem report_plain {session : Session} (called : Except Error Unit) (success : Option String)
    (plain : isBrowser session.app.modal = false) :
    isBrowser (report session called success).app.modal = false := by
  unfold report
  split
  · rfl
  · exact plain
  · rfl

def Closed (handled : Screen × Session) : Prop :=
  isBrowser handled.2.app.modal = false ∧
    (placeOf handled.1 = .other ∨ placeOf handled.1 = .verifyIdle)

theorem closed_not {handled : Screen × Session} (closed : Closed handled) (place : Place)
    (other : place ≠ .other) (verify : place ≠ .verifyIdle) : placeOf handled.1 ≠ place := by
  rcases closed.2 with same | same <;> rw [same]
  · exact other.symm
  · exact verify.symm

theorem closed_placed {handled : Screen × Session} {slots : Slots} {seen : List Outside}
    (closed : Closed handled) : Placed (install handled) slots seen :=
  placed_plain closed.1 fun place =>
    absurd place (closed_not closed .inspectDetails (by simp) (by simp))

section Screens
variable {session : Session} (key : KeyEvent)

/-- The main menu stays, or opens the item it is on. -/
theorem mainMenuKey_goes (state : MainMenuState) :
    (handleMainMenuKey state key session).2.app.modal = session.app.modal ∧
      (placeOf (handleMainMenuKey state key session).1 = .other ∨
        key.code = .enter ∧
          mainMenuItems[state.selected]? = some (handleMainMenuKey state key session).1) := by
  unfold handleMainMenuKey
  split
  · exact ⟨rfl, .inl rfl⟩
  · exact ⟨rfl, .inl rfl⟩
  · exact ⟨rfl, .inl rfl⟩
  · exact ⟨rfl, .inl rfl⟩
  · exact ⟨rfl, .inl rfl⟩
  · refine ⟨rfl, ?_⟩
    cases mainMenuItems[state.selected]? with
    | none => exact .inl rfl
    | some form => exact .inr ⟨‹_›, rfl⟩
  · exact ⟨rfl, .inl rfl⟩

theorem mainMenuKey_placed (state : MainMenuState) {slots : Slots} {seen : List Outside}
    (plain : isBrowser session.app.modal = false) :
    Placed (install (handleMainMenuKey state key session)) slots seen := by
  have items : ∀ form ∈ mainMenuItems, placeOf form ≠ .inspectDetails := by
    simp [mainMenuItems, placeOf]
  obtain ⟨same, goes⟩ := @mainMenuKey_goes session key state
  refine placed_plain (same ▸ plain) fun place => ?_
  rcases goes with other | ⟨_, item⟩
  · cases other.symm.trans place
  · exact absurd place (items _ (List.mem_of_getElem? item))

theorem lockProgressKey_closed (state : LockProgressState)
    (plain : isBrowser session.app.modal = false) :
    Closed (handleLockProgressKey state key session) := by
  simp only [handleLockProgressKey, requestLockCancel]
  split
  · split <;> exact ⟨plain, .inl rfl⟩
  · exact ⟨plain, .inl rfl⟩

theorem unlockProgressKey_closed (state : UnlockProgressState)
    (plain : isBrowser session.app.modal = false) :
    Closed (handleUnlockProgressKey state key session) := by
  simp only [handleUnlockProgressKey, requestUnlockCancel]
  split
  · split <;> exact ⟨plain, .inl rfl⟩
  · exact ⟨plain, .inl rfl⟩

theorem unlockCompleteKey_closed (state : UnlockCompleteState) (called : Except Error Unit)
    (plain : isBrowser session.app.modal = false) :
    Closed (handleUnlockCompleteKey state key called session) := by
  simp only [handleUnlockCompleteKey]
  split
  · exact ⟨plain, .inl rfl⟩
  · split
    · split <;> exact ⟨plain, .inl rfl⟩
    · split
      · exact ⟨plain, .inl rfl⟩
      · split
        · split
          · exact ⟨report_plain called _ plain, .inl rfl⟩
          · exact ⟨plain, .inl rfl⟩
        · exact ⟨plain, .inl rfl⟩

theorem verifyDetailsKey_closed (state : VerifyDetailsState)
    (plain : isBrowser session.app.modal = false) :
    Closed (handleVerifyDetailsKey state key session) := by
  unfold handleVerifyDetailsKey
  split <;> exact ⟨plain, .inl rfl⟩

theorem verifyCancel_closed (state : VerifyFormState)
    (plain : isBrowser session.app.modal = false) :
    Closed (.verifyForm (requestVerifyCancel state session).1,
      (requestVerifyCancel state session).2) := by
  refine ⟨?_, verifyForm_place _⟩
  unfold requestVerifyCancel
  split
  · exact plain
  · split <;> exact plain

theorem pressVerify_closed (state : VerifyFormState)
    (plain : isBrowser session.app.modal = false) : Closed (pressVerify state session) := by
  unfold pressVerify startVerify
  dsimp only
  split
  · rename_i started
    split at started
    · cases started
    · cases started
      exact ⟨plain, verifyForm_place _⟩
  · exact ⟨rfl, verifyForm_place _⟩

def browsesVerify (state : VerifyFormState) (key : KeyEvent) : Prop :=
  key.code = .enter ∧ state.focus = .browseInput ∧ state.status = .idle

theorem verifyFormKey_closed (state : VerifyFormState)
    (plain : isBrowser session.app.modal = false) (elsewhere : ¬ browsesVerify state key) :
    Closed (handleVerifyFormKey state key session) := by
  have stays : Closed (.verifyForm state, session) := ⟨plain, verifyForm_place _⟩
  have leaves : Closed (mainMenu, session) := ⟨plain, .inl rfl⟩
  have cancelled := verifyCancel_closed state plain
  simp only [handleVerifyFormKey]
  split
  · split
    · exact leaves
    · exact cancelled
  · split
    · exact ⟨plain, verifyForm_place _⟩
    · split
      · split
        · exact ⟨plain, verifyForm_place _⟩
        · exact stays
      · split
        · rename_i focus pressed
          exact absurd ⟨pressed.1, focus, pressed.2⟩ elsewhere
        · exact stays
      · split
        · exact pressVerify_closed state plain
        · exact stays
      · split
        · split
          · exact leaves
          · exact cancelled
        · exact stays

theorem verifyFormKey_browses (state : VerifyFormState) (browses : browsesVerify state key) :
    handleVerifyFormKey state key session =
      (.verifyForm state, openBrowser session .verifyInput) := by
  obtain ⟨entered_, focus, idle⟩ := browses
  simp [handleVerifyFormKey, entered_, focus, idle, cycledFocus]

/-- A completed lock opens the details of what it inspected, and no browser. -/
theorem lockCompleteKey_placed (state : LockCompleteState) (outside : Outside) (slots : Slots)
    (seen : List Outside) (plain : isBrowser session.app.modal = false) :
    Placed
      (install (handleLockCompleteKey state key
        (screenKey outside slots key (.lockComplete state)).1.called session))
      (screenKey outside slots key (.lockComplete state)).2 seen := by
  by_cases entered_ : key.code = .enter
  · simp only [screenKey, entered_, if_true, handleLockCompleteKey, lockCompleteKey, cycledFocus]
    cases state.focus with
    | inspect =>
        cases (inspectPath outside state.outputPath slots.calibration).1 with
        | ok response => exact placed_plain plain (fun _ => rfl)
        | error err => exact placed_plain rfl (fun place => by cases place)
    | verify =>
        exact placed_plain (report_plain _ _ plain) (fun place => by cases place)
    | done => exact placed_plain plain (fun place => by cases place)
  · simp only [handleLockCompleteKey, entered_, if_false]
    split
    · exact placed_plain plain (fun place => by cases place)
    · split <;> exact placed_plain plain (fun place => by cases place)

end Screens

theorem screenKey_placed {session : Session} {slots : Slots} {seen : List Outside}
    (outside : Outside) (key : KeyEvent) (clear : session.app.modal = none)
    (placed : Placed session slots seen) :
    Placed
      (install (handleScreenKey session.app.screen key
        (screenKey outside slots key session.app.screen).1 (session.setScreen mainMenu)))
      (screenKey outside slots key session.app.screen).2 (outside :: seen) := by
  have taken : (session.setScreen mainMenu).app.modal = none := clear
  have plain : isBrowser (session.setScreen mainMenu).app.modal = false := by rw [taken]; rfl
  cases screen : session.app.screen with
  | mainMenu state => exact mainMenuKey_placed key state plain
  | lockFileForm =>
      exact effect_placed outside _ _ taken (lockFileFormKey_offered outside key _ _)
        (fun place => by cases place)
  | lockTextForm =>
      exact effect_placed outside _ _ taken (lockTextFormKey_offered outside key _ _)
        (fun place => by cases place)
  | lockProgress state => exact closed_placed (lockProgressKey_closed key state plain)
  | lockComplete state => exact lockCompleteKey_placed key state outside slots _ plain
  | unlockForm =>
      exact effect_placed outside _ _ taken (unlockFormKey_offered outside key _ _)
        (fun place => by cases place)
  | unlockProgress state => exact closed_placed (unlockProgressKey_closed key state plain)
  | unlockComplete state => exact closed_placed (unlockCompleteKey_closed key state _ plain)
  | inspectForm =>
      exact effect_placed outside _ _ taken (inspectFormKey_offered outside key _ _)
        (fun place => by cases place)
  | inspectDetails =>
      have shown := placed.details (by rw [screen]; rfl)
      obtain ⟨state, found⟩ := Option.isSome_iff_exists.mp shown
      simp only [screenKey, found]
      exact effect_placed outside _ _ taken (inspectDetailsKey_offered key state) (fun _ => rfl)
  | verifyForm state =>
      by_cases browses : browsesVerify state key
      · have asked : key.code = .enter ∧ state.focus = .browseInput ∧ state.status = .idle :=
          browses
        simp only [handleScreenKey, verifyFormKey_browses key state browses, screenKey,
          if_pos asked]
        have place : placeOf (.verifyForm state) = .verifyIdle := by simp [placeOf, browses.2.2]
        refine ⟨fun target opened_ => ?_, fun shown => ?_⟩
        · cases opened_
          refine ⟨?_, _, [outside.disk], rfl, by simp, .opened _ _⟩
          show holds (placeOf (.verifyForm state)) .verifyInput = true
          rw [place]
          rfl
        · cases place.symm.trans shown
      · exact closed_placed (verifyFormKey_closed key state plain browses)
  | verifyDetails state => exact closed_placed (verifyDetailsKey_closed key state plain)

theorem selection_place (session : Session) (target : BrowserTarget) (path : Path) :
    placeOf (TuiKeys.applyBrowserSelection session target path).app.screen =
      placeOf session.app.screen := by
  unfold TuiKeys.applyBrowserSelection
  split
  · rename_i state screen
    rw [screen]
    rfl
  · rfl

inductive BrowserKeyed (outside : Outside) (session : Session) (slots : Slots)
    (target : BrowserTarget) (browser : FileBrowserState) (key : KeyEvent) : Prop where
  | stays (after : FileBrowserState)
      (handled : Browser.handleBrowserKey outside.disk browser key = (after, .stays))
      (answered : pressed outside session slots key = (idle, { slots with browser := some after }))
      (session_ : onKey session key idle = session)
  | closes (answered : pressed outside session slots key = (idle, { slots with browser := none }))
      (session_ : onKey session key idle = session.setModal none)
  | selects (after : FileBrowserState) (path : Path)
      (handled : Browser.handleBrowserKey outside.disk browser key = (after, .selects path))
      (answered : pressed outside session slots key =
        (⟨.stays, some path, .ok ()⟩,
          applyBrowserSelection outside session.app.screen target path
            { slots with browser := none }))
      (session_ : onKey session key ⟨.stays, some path, .ok ()⟩ =
        (TuiKeys.applyBrowserSelection (session.setModal none) target path).setModal none)

theorem setModal_back {session : Session} {modal : Option Modal}
    (same : session.app.modal = modal) : (session.setModal none).setModal modal = session := by
  rcases session with ⟨app, tokens, threads, spawned, sent⟩
  cases same
  rfl

theorem browserKeyed {outside : Outside} {session : Session} {slots : Slots} {key : KeyEvent}
    {target : BrowserTarget} {browser : FileBrowserState} {disks : List Disk}
    (going : isQuitKey key = false) (opened : session.app.modal = some (.browser target))
    (shown : slots.browser = some browser)
    (browsed : Browsed (browsedMode target) target disks browser) :
    BrowserKeyed outside session slots target browser key := by
  have answered : pressed outside session slots key =
      browserKey outside session.app.screen slots key browser := by
    simp [pressed, going, opened, shown]
  have passed : ∀ answer, onKey session key answer =
      handleModalKey (.browser target) key answer session := by
    intro answer
    simp [onKey, going, opened]
  cases handled : Browser.handleBrowserKey outside.disk browser key with
  | mk after outcome =>
      have turned := handleBrowserKey_turned outside.disk browser key
      rw [handled] at turned
      have kept := turned_kept outside.disk (browsed_kept browsed) turned
      simp only [browserKey, handled] at answered
      cases outcome with
      | stays =>
          refine .stays after handled answered ?_
          have code := browserKey_stays handled
          rw [passed]
          have ignored : TuiKeys.handleBrowserKey (session.setModal none) target key none =
              (false, session.setModal none) := by
            unfold TuiKeys.handleBrowserKey
            split
            · contradiction
            · contradiction
            · contradiction
            · rfl
          simp only [handleModalKey, idle, ignored]
          exact setModal_back opened
      | closes =>
          refine .closes answered ?_
          rw [passed]
          simp only [handleModalKey, TuiKeys.handleBrowserKey, browserKey_closes handled]
          rfl
      | selects path =>
          rw [kept.target_] at answered
          refine .selects after path handled answered ?_
          rw [passed]
          rcases browserKey_selects handled with code | code
          · simp only [handleModalKey, TuiKeys.handleBrowserKey, code]
            rfl
          · simp only [handleModalKey, TuiKeys.handleBrowserKey, code]
            rfl

/-- A selection leaves the open browser and the details to themselves. -/
theorem applySelection_slots (outside : Outside) (screen : Screen) (target : BrowserTarget)
    (path : Path) (slots : Slots) :
    (applyBrowserSelection outside screen target path slots).inspectDetails =
      slots.inspectDetails := by
  unfold applyBrowserSelection
  dsimp only
  split <;> rfl

inductive Pressed (outside : Outside) (session : Session) (slots : Slots) (key : KeyEvent) :
    Prop where
  | quits (answered : pressed outside session slots key = (idle, slots))
      (session_ : onKey session key idle = session.quit)
  | screen (clear : session.app.modal = none)
      (answered : pressed outside session slots key =
        screenKey outside slots key session.app.screen)
      (session_ : ∀ answer, onKey session key answer =
        install (handleScreenKey session.app.screen key answer (session.setScreen mainMenu)))
  | browser (target : BrowserTarget) (browser : FileBrowserState) (disks : List Disk)
      (opened : session.app.modal = some (.browser target))
      (shown : slots.browser = some browser)
      (browsed : Browsed (browsedMode target) target disks browser)
      (keyed : BrowserKeyed outside session slots target browser key)
  | modal (open_ : Modal) (plain : isBrowser (some open_) = false)
      (answered : pressed outside session slots key = (idle, slots))
      (session_ : onKey session key idle = handleModalKey open_ key idle session)

theorem pressed_cases {session : Session} {slots : Slots} {seen : List Outside}
    (outside : Outside) (key : KeyEvent) (placed : Placed session slots seen) :
    Pressed outside session slots key := by
  by_cases quits : isQuitKey key = true
  · exact .quits (by simp [pressed, quits]) (by simp [onKey, quits])
  · have going : isQuitKey key = false := by simpa using quits
    cases modal : session.app.modal with
    | none =>
        refine .screen modal (by simp [pressed, going, modal]) fun answer => ?_
        simp [onKey, going, modal]
    | some open_ =>
        by_cases browses : isBrowser (some open_) = true
        · obtain ⟨target, rfl⟩ : ∃ target, open_ = .browser target := by
            cases open_ with
            | browser target => exact ⟨target, rfl⟩
            | _ => cases browses
          obtain ⟨_, browser, disks, shown, _, browsed⟩ := placed.browser target modal
          exact .browser target browser disks modal shown browsed
            (browserKeyed going modal shown browsed)
        · have plain : isBrowser (some open_) = false := by simpa using browses
          refine .modal open_ plain ?_ (by simp [onKey, going, modal])
          unfold pressed
          rw [going, modal]
          cases open_ <;> first | rfl | cases plain

theorem pressed_placed {session : Session} {slots : Slots} {seen : List Outside}
    (outside : Outside) (key : KeyEvent) (placed : Placed session slots seen) :
    Placed (onKey session key (pressed outside session slots key).1)
      (pressed outside session slots key).2 (outside :: seen) := by
  have more : seen ⊆ outside :: seen := List.subset_cons_self _ _
  cases pressed_cases outside key placed with
  | quits answered quit =>
      rw [answered, quit]
      exact placed_kept placed ⟨rfl, rfl⟩ rfl rfl more
  | screen clear answered passed =>
      rw [answered, passed]
      exact screenKey_placed outside key clear placed
  | browser target browser _ open_ shown _ keyed =>
      obtain ⟨held, same, disks, found, member, browsed⟩ := placed.browser target open_
      cases shown.symm.trans found
      cases keyed with
      | stays after handled answered still =>
          rw [answered, still]
          refine ⟨fun target_ opened_ => ?_, placed.details⟩
          cases open_.symm.trans opened_
          refine ⟨held, after, outside.disk :: disks, rfl, ?_, .pressed _ key browsed handled⟩
          rw [List.map_cons]
          exact List.cons_subset_cons _ member
      | closes answered closed =>
          rw [answered, closed]
          exact placed_plain rfl placed.details
      | selects after path handled answered selected =>
          rw [answered, selected]
          refine placed_plain rfl fun place => ?_
          rw [applySelection_slots]
          refine placed.details (Eq.trans ?_ place)
          exact (selection_place (session.setModal none) target path).symm
  | modal open_ plain answered passed =>
      obtain ⟨place, closed⟩ := modalKey_place session open_ key idle plain
      rw [answered, passed]
      exact placed_plain closed fun shown => placed.details (place.symm.trans shown)

structure FieldsKept (slots : Slots) : Prop where
  lockFile : LockFileKept slots.lockFile
  lockText : LockTextKept slots.lockText
  unlock : UnlockKept slots.unlock
  inspectForm : Within slots.inspectForm.inputPath
  calibration : Calibration.Sound slots.calibration

section Fields
variable {slots : Slots}

theorem new_fields : FieldsKept Slots.new where
  lockFile := lockFile_default
  lockText := lockText_default
  unlock := unlock_default
  inspectForm := inspect_armed _ (within_new _)
  calibration := new_once.sound

theorem opened_fields (outside : Outside) (effect : FormEffect) (kept : FieldsKept slots) :
    FieldsKept (opened outside effect slots) := by
  obtain ⟨lockFile, lockText, unlock, inspectForm, calibration⟩ := kept
  cases effect with
  | browses target mode preferredPath =>
      exact ⟨lockFile, lockText, unlock, inspectForm, calibration⟩
  | inspects response => exact ⟨lockFile, lockText, unlock, inspectForm, calibration⟩
  | _ => exact ⟨lockFile, lockText, unlock, inspectForm, calibration⟩

theorem entering_fields (selected : Nat) (kept : FieldsKept slots) :
    FieldsKept (entering selected slots) := by
  obtain ⟨lockFile, lockText, unlock, inspectForm, calibration⟩ := kept
  unfold entering
  split
  · exact ⟨lockFile_default, lockText, unlock, inspectForm, calibration⟩
  · exact ⟨lockFile, lockText_default, unlock, inspectForm, calibration⟩
  · exact ⟨lockFile, lockText, unlock_default, inspectForm, calibration⟩
  · exact ⟨lockFile, lockText, unlock, inspect_armed _ (within_new _), calibration⟩
  · exact ⟨lockFile, lockText, unlock, inspectForm, calibration⟩

theorem screenKey_fields (outside : Outside) (key : KeyEvent) (screen : Screen)
    (kept : FieldsKept slots) : FieldsKept (screenKey outside slots key screen).2 := by
  have ⟨lockFile, lockText, unlock, inspectForm, calibration⟩ := kept
  cases screen with
  | mainMenu state =>
      unfold screenKey
      dsimp only
      split
      · exact entering_fields state.selected kept
      · exact kept
  | lockFileForm =>
      exact opened_fields outside _ ⟨handleLockFileFormKey_kept outside _ key _ lockFile, lockText,
        unlock, inspectForm, (lockFileFormKey_keeping outside key _ _ calibration).1⟩
  | lockTextForm =>
      exact opened_fields outside _ ⟨lockFile, handleLockTextFormKey_kept outside _ key _ lockText,
        unlock, inspectForm, (lockTextFormKey_keeping outside key _ _ calibration).1⟩
  | lockComplete state =>
      unfold screenKey lockCompleteKey
      dsimp only
      split
      · split
        · exact opened_fields outside _ ⟨lockFile, lockText, unlock, inspectForm,
            (inspectPath_keeping outside _ state.outputPath calibration).1⟩
        · exact kept
        · exact kept
      · exact kept
  | unlockForm =>
      exact opened_fields outside _ ⟨lockFile, lockText, handleUnlockFormKey_kept outside _ key _
        unlock, inspectForm, (unlockFormKey_keeping outside key _ _ calibration).1⟩
  | inspectForm =>
      exact opened_fields outside _ ⟨lockFile, lockText, unlock,
        handleInspectFormKey_within outside _ key _ inspectForm,
        (inspectFormKey_keeping outside key _ _ calibration).1⟩
  | inspectDetails =>
      unfold screenKey
      dsimp only
      split
      · exact opened_fields outside _ ⟨lockFile, lockText, unlock, inspectForm, calibration⟩
      · exact kept
  | verifyForm state =>
      unfold screenKey
      dsimp only
      split
      · dsimp only
        exact opened_fields outside _ kept
      · exact kept
  | _ => exact kept

theorem selection_fields (outside : Outside) (screen : Screen) (target : BrowserTarget)
    (path : Path) (kept : FieldsKept slots) :
    FieldsKept (applyBrowserSelection outside screen target path slots) := by
  have ⟨lockFile, lockText, unlock, inspectForm, calibration⟩ := kept
  unfold applyBrowserSelection
  dsimp only
  split
  · have ⟨derived, profile, input, output, target_, password, confirmation⟩ := lockFile
    refine ⟨?_, lockText, unlock, inspectForm, calibration⟩
    split
    · rename_i touched
      refine ⟨fun untouched => ?_, profile, within_new _, output, target_, password,
        confirmation⟩
      cases touched.symm.trans untouched
    · exact ⟨fun _ => new_value _, profile, within_new _, within_new _, target_, password,
        confirmation⟩
  · refine ⟨lockFile, lockText, ?_, inspectForm, ?_⟩
    · dsimp only
      exact refresh_kept outside _ _ ⟨within_new _, unlock.outputDir⟩
    · dsimp only
      exact (refresh_keeping outside _ _ calibration).1
  · exact ⟨lockFile, lockText, ⟨unlock.input, within_new _⟩, inspectForm, calibration⟩
  · exact ⟨lockFile, lockText, unlock, within_new _, calibration⟩
  · exact kept

theorem pressed_fields (outside : Outside) (session : Session) (key : KeyEvent)
    (kept : FieldsKept slots) : FieldsKept (pressed outside session slots key).2 := by
  have ⟨lockFile, lockText, unlock, inspectForm, calibration⟩ := kept
  unfold pressed browserKey
  split
  · exact kept
  · split
    · split
      · dsimp only
        split
        · exact ⟨lockFile, lockText, unlock, inspectForm, calibration⟩
        · exact ⟨lockFile, lockText, unlock, inspectForm, calibration⟩
        · exact selection_fields outside _ _ _ ⟨lockFile, lockText, unlock, inspectForm,
            calibration⟩
      · exact kept
    · exact kept
    · exact screenKey_fields outside key _ kept

def alone (calibration : SessionCalibration) : CalibrationSystem :=
  ⟨calibration, calibration.prewarmStarted.toNat, []⟩

theorem alone_once {calibration : SessionCalibration} (sound : Calibration.Sound calibration)
    (event : CalibrationEvent) :
    Calibration.Sound (CalibrationSystem.next (alone calibration) event).calibration :=
  (next_once (alone calibration) event ⟨sound, rfl, fun _ told => by cases told⟩).sound

theorem polled_fields (outside : Outside) (screen : Screen) (kept : FieldsKept slots) :
    FieldsKept (pollSessionCalibrationWorker outside screen slots) := by
  have ⟨lockFile, lockText, unlock, inspectForm, calibration⟩ := kept
  have completed := alone_once calibration .poll
  unfold pollSessionCalibrationWorker
  dsimp only
  split
  · split
    · refine ⟨lockFile, lockText, ?_, inspectForm, ?_⟩
      · dsimp only
        exact refresh_kept outside _ _ unlock
      · dsimp only
        exact (refresh_keeping outside _ _ completed).1
    · exact ⟨lockFile, lockText, unlock, inspectForm, completed⟩
  · exact ⟨lockFile, lockText, unlock, inspectForm, completed⟩

end Fields

theorem next_fields {app after : App} {event : AppEvent} (kept : FieldsKept app.slots)
    (step : next app event = some after) : FieldsKept after.slots := by
  have ⟨lockFile, lockText, unlock, inspectForm, calibration⟩ := kept
  cases event with
  | thread event =>
      simp only [next] at step
      split at step
      · obtain ⟨system, taken, rfl⟩ := Option.map_eq_some_iff.mp step
        exact kept
      · cases step
  | calibrationSends measured =>
      cases step
      exact ⟨lockFile, lockText, unlock, inspectForm, alone_once calibration (.sends measured)⟩
  | calibrationExits =>
      cases step
      exact ⟨lockFile, lockText, unlock, inspectForm, alone_once calibration .exits⟩
  | poll outside =>
      obtain ⟨system, taken, rfl⟩ := Option.map_eq_some_iff.mp step
      exact polled_fields outside _ kept
  | frame =>
      cases step
      exact ⟨lockFile, lockText, unlock, inspectForm, alone_once calibration (.frame _)⟩
  | key key outside =>
      obtain ⟨system, taken, rfl⟩ := Option.map_eq_some_iff.mp step
      exact pressed_fields outside _ key kept

/-- What the form shows is the estimate for the file that is entered, at the rate known now, as it
was found outside at some key or poll. -/
def Estimated (unlock : UnlockFormState) (calibration : SessionCalibration)
    (seen : List Outside) : Prop :=
  ∃ outside ∈ seen, estimateShown unlock =
    unlockEstimate outside calibration.iterationsPerSecond (entered unlock.inputPath)

theorem estimated_same {before after : UnlockFormState} {calibration : SessionCalibration}
    {seen later : List Outside} (estimated : Estimated before calibration seen)
    (shown : estimateShown after = estimateShown before)
    (value : after.inputPath.value = before.inputPath.value) (more : seen ⊆ later) :
    Estimated after calibration later := by
  obtain ⟨outside, member, same⟩ := estimated
  refine ⟨outside, more member, ?_⟩
  rw [shown, same]
  simp only [entered, Forms.shown, value]

theorem estimated_refresh (outside : Outside) (state : UnlockFormState)
    {calibration : SessionCalibration} (sound : Calibration.Sound calibration)
    (seen : List Outside) :
    Estimated (refreshUnlockEstimateState outside state calibration).1
      (refreshUnlockEstimateState outside state calibration).2 (outside :: seen) := by
  refine ⟨outside, List.mem_cons_self, ?_⟩
  rw [refresh_estimate outside calibration state sound]
  simp only [entered, Forms.shown, (refresh_fields outside state calibration).1]

theorem estimated_default (outside : Outside) (calibration : SessionCalibration)
    (seen : List Outside) :
    Estimated UnlockFormState.default calibration (outside :: seen) :=
  ⟨outside, List.mem_cons_self, rfl⟩

theorem armed_estimated (state : UnlockFormState) :
    estimateShown state.armFocusFieldForReplace = estimateShown state ∧
      state.armFocusFieldForReplace.inputPath.value = state.inputPath.value := by
  unfold UnlockFormState.armFocusFieldForReplace
  split
  · exact ⟨rfl, arm_value _⟩
  · exact ⟨rfl, rfl⟩
  · exact ⟨rfl, rfl⟩

theorem unlockFormKey_estimated (outside : Outside) (state : UnlockFormState) (key : KeyEvent)
    {calibration : SessionCalibration} (sound : Calibration.Sound calibration)
    {seen : List Outside} (estimated : Estimated state calibration seen) :
    Estimated (handleUnlockFormKey outside state key calibration).1
      (handleUnlockFormKey outside state key calibration).2.2 (outside :: seen) := by
  have more : seen ⊆ outside :: seen := List.subset_cons_self _ _
  have stays := estimated_same estimated rfl rfl more
  unfold handleUnlockFormKey
  split
  · exact stays
  · split
    · rename_i focus _
      obtain ⟨shown, value⟩ := armed_estimated { state with focus := focus }
      exact estimated_same estimated shown value more
    · unfold pressUnlock
      cases state.focus with
      | inputPath =>
          dsimp only
          split
          · dsimp only
            exact estimated_refresh outside _ sound seen
          · rename_i unused
            refine estimated_same estimated rfl ?_ more
            have idle : (state.inputPath.applyKey key).2 = false := by simpa using unused
            exact congrArg TextField.value (applyKey_unused _ _ idle)
      | outputDir => exact estimated_same estimated rfl rfl more
      | _ => dsimp only; split <;> exact stays

theorem startUnlock_ok (state : UnlockFormState) (effect : FormEffect)
    (starts : startUnlock state = .ok effect) :
    ∃ outDir, effect = .unlocks ⟨ofText (entered state.inputPath), outDir, none⟩
      (entered state.inputPath) state.estimatedDurationSeconds := by
  unfold startUnlock at starts
  dsimp only at starts
  split at starts
  · cases starts
  · exact ⟨_, (Except.ok.inj starts).symm⟩

/-- An unlock from the form is of what is entered, with the seconds it shows. -/
theorem unlockFormKey_unlocks (outside : Outside) (state : UnlockFormState) (key : KeyEvent)
    (calibration : SessionCalibration) (request : UnlockRequest) (fileDisplay : String)
    (seconds : Option UInt64)
    (unlocks : (handleUnlockFormKey outside state key calibration).2.1 =
      .unlocks request fileDisplay seconds) :
    request.input = ofText (entered state.inputPath) ∧ fileDisplay = entered state.inputPath ∧
      seconds = state.estimatedDurationSeconds := by
  unfold handleUnlockFormKey at unlocks
  split at unlocks
  · cases unlocks
  · split at unlocks
    · cases unlocks
    · unfold pressUnlock at unlocks
      cases focus : state.focus with
      | start =>
          simp only [focus] at unlocks
          split at unlocks
          · cases starts : startUnlock state with
            | error err => simp [starts, started] at unlocks
            | ok effect =>
                obtain ⟨dir, rfl⟩ := startUnlock_ok state effect starts
                simp only [starts, started, FormEffect.unlocks.injEq] at unlocks
                obtain ⟨same, display, passed⟩ := unlocks
                refine ⟨?_, display.symm, passed.symm⟩
                simp only [← same]
          · cases unlocks
      | inputPath =>
          simp only [focus] at unlocks
          split at unlocks <;> dsimp only at unlocks <;> cases unlocks
      | outputDir =>
          simp only [focus] at unlocks
          cases unlocks
      | _ =>
          simp only [focus] at unlocks
          split at unlocks <;> cases unlocks

def Fresh (session : Session) (slots : Slots) (seen : List Outside) : Prop :=
  placeOf session.app.screen = .unlockForm → Estimated slots.unlock slots.calibration seen

theorem fresh_elsewhere {session : Session} {slots : Slots} {seen : List Outside}
    (elsewhere : placeOf session.app.screen ≠ .unlockForm) : Fresh session slots seen :=
  fun place => absurd place elsewhere

/-- A form stays, or leaves for a screen that is no form. -/
theorem formKey_place (form : Screen) (outcome : FormOutcome) (session : Session) :
    placeOf (handleFormKey form outcome session).1 = placeOf form ∨
      placeOf (handleFormKey form outcome session).1 = .other ∨
      placeOf (handleFormKey form outcome session).1 = .inspectDetails := by
  unfold handleFormKey
  split
  · cases outcome with
    | stays => exact .inl rfl
    | leaves => exact .inr (.inl rfl)
    | fails message => exact .inl rfl
    | browses target => exact .inl rfl
    | startsLock inputDisplay outputDisplay => exact .inr (.inl rfl)
    | startsUnlock fileDisplay estimatedDurationSeconds => exact .inr (.inl rfl)
    | inspects => exact .inr (.inr rfl)
  · exact .inl rfl

theorem formKey_elsewhere {form : Screen} (outcome : FormOutcome) (session : Session)
    (other : placeOf form ≠ .unlockForm) :
    placeOf (handleFormKey form outcome session).1 ≠ .unlockForm := by
  rcases formKey_place form outcome session with same | same | same <;> rw [same]
  · exact other
  · simp
  · simp

theorem lockCompleteKey_place (state : LockCompleteState) (key : KeyEvent)
    (called : Except Error Unit) (session : Session) :
    placeOf (handleLockCompleteKey state key called session).1 ≠ .unlockForm := by
  unfold handleLockCompleteKey
  split
  · simp [mainMenu, placeOf]
  · split
    · simp [placeOf]
    · split
      · split
        · split <;> simp [placeOf]
        · simp [placeOf]
        · simp [mainMenu, placeOf]
      · simp [placeOf]

@[simp] theorem opened_unlock (outside : Outside) (effect : FormEffect) (slots : Slots) :
    (opened outside effect slots).unlock = slots.unlock := by
  cases effect <;> rfl

@[simp] theorem opened_calibration (outside : Outside) (effect : FormEffect) (slots : Slots) :
    (opened outside effect slots).calibration = slots.calibration := by
  cases effect <;> rfl

theorem placeOf_unlockForm {screen : Screen} (place : placeOf screen = .unlockForm) :
    screen = .unlockForm := by
  cases screen with
  | unlockForm => rfl
  | verifyForm state => rcases verifyForm_place state with same | same <;> cases same.symm.trans place
  | _ => cases place

theorem screenKey_fresh {session : Session} {slots : Slots} {seen : List Outside}
    (outside : Outside) (key : KeyEvent) (clear : session.app.modal = none)
    (kept : FieldsKept slots) (fresh : Fresh session slots seen) :
    Fresh
      (install (handleScreenKey session.app.screen key
        (screenKey outside slots key session.app.screen).1 (session.setScreen mainMenu)))
      (screenKey outside slots key session.app.screen).2 (outside :: seen) := by
  have taken : (session.setScreen mainMenu).app.modal = none := clear
  have plain : isBrowser (session.setScreen mainMenu).app.modal = false := by rw [taken]; rfl
  have closed : ∀ {handled : Screen × Session} {slots : Slots}, Closed handled →
      Fresh (install handled) slots (outside :: seen) :=
    fun shut => fresh_elsewhere (closed_not shut _ (by simp) (by simp))
  cases screen : session.app.screen with
  | mainMenu state =>
      intro place
      obtain ⟨_, goes⟩ := @mainMenuKey_goes (session.setScreen mainMenu) key state
      rcases goes with other | ⟨entered_, item⟩
      · cases other.symm.trans place
      · have reached : (handleMainMenuKey state key (session.setScreen mainMenu)).1 = .unlockForm :=
          placeOf_unlockForm place
        rw [reached] at item
        simp only [screenKey, entered_, if_true, entering, item]
        exact estimated_default outside _ seen
  | lockFileForm => exact fresh_elsewhere (formKey_elsewhere _ _ (by simp [placeOf]))
  | lockTextForm => exact fresh_elsewhere (formKey_elsewhere _ _ (by simp [placeOf]))
  | lockProgress state => exact closed (lockProgressKey_closed key state plain)
  | lockComplete state => exact fresh_elsewhere (lockCompleteKey_place state key _ _)
  | unlockForm =>
      intro place
      have estimated := unlockFormKey_estimated outside slots.unlock key kept.calibration
        (fresh (by rw [screen]; rfl))
      simpa only [screenKey, opened_unlock, opened_calibration] using estimated
  | unlockProgress state => exact closed (unlockProgressKey_closed key state plain)
  | unlockComplete state => exact closed (unlockCompleteKey_closed key state _ plain)
  | inspectForm => exact fresh_elsewhere (formKey_elsewhere _ _ (by simp [placeOf]))
  | inspectDetails => exact fresh_elsewhere (formKey_elsewhere _ _ (by simp [placeOf]))
  | verifyForm state =>
      by_cases browses : browsesVerify state key
      · refine fresh_elsewhere ?_
        simp only [handleScreenKey, verifyFormKey_browses key state browses]
        exact fun place => by cases placeOf_unlockForm place
      · exact closed (verifyFormKey_closed key state plain browses)
  | verifyDetails state => exact closed (verifyDetailsKey_closed key state plain)

theorem selection_estimated {seen : List Outside}
    (outside : Outside) (target : BrowserTarget) (path : Path) (slots : Slots)
    (sound : Calibration.Sound slots.calibration)
    (estimated : Estimated slots.unlock slots.calibration seen) :
    Estimated (applyBrowserSelection outside .unlockForm target path slots).unlock
      (applyBrowserSelection outside .unlockForm target path slots).calibration
      (outside :: seen) := by
  have more : seen ⊆ outside :: seen := List.subset_cons_self _ _
  cases target with
  | unlockInput =>
      dsimp only [applyBrowserSelection]
      exact estimated_refresh outside _ sound seen
  | unlockOutputDir => exact estimated_same estimated rfl rfl more
  | _ => exact estimated_same estimated rfl rfl more

theorem pressed_fresh {session : Session} {slots : Slots} {seen : List Outside}
    (outside : Outside) (key : KeyEvent) (placed : Placed session slots seen)
    (kept : FieldsKept slots) (fresh : Fresh session slots seen) :
    Fresh (onKey session key (pressed outside session slots key).1)
      (pressed outside session slots key).2 (outside :: seen) := by
  have more : seen ⊆ outside :: seen := List.subset_cons_self _ _
  have later : ∀ {after : Session}, placeOf after.app.screen = placeOf session.app.screen →
      Fresh after slots (outside :: seen) := fun same place =>
    estimated_same (fresh (same.symm.trans place)) rfl rfl more
  cases pressed_cases outside key placed with
  | quits answered quit =>
      rw [answered, quit]
      exact later rfl
  | screen clear answered passed =>
      rw [answered, passed]
      exact screenKey_fresh outside key clear kept fresh
  | browser target browser _ open_ shown _ keyed =>
      cases keyed with
      | stays after handled answered still =>
          rw [answered, still]
          exact later rfl
      | closes answered closed =>
          rw [answered, closed]
          exact later rfl
      | selects after path handled answered selected =>
          rw [answered, selected]
          intro place
          have below : placeOf session.app.screen = .unlockForm :=
            (selection_place (session.setModal none) target path).symm.trans place
          rw [placeOf_unlockForm below]
          exact selection_estimated outside target path { slots with browser := none }
            kept.calibration (fresh below)
  | modal open_ plain answered passed =>
      rw [answered, passed]
      exact later (modalKey_place session open_ key idle plain).1

theorem polled_fresh {before after : Session} {slots : Slots} {seen : List Outside}
    (outside : Outside) (kept : FieldsKept slots) (fresh : Fresh before slots seen)
    (polled : placeOf after.app.screen = .unlockForm →
      placeOf before.app.screen = .unlockForm) :
    Fresh after (pollSessionCalibrationWorker outside before.app.screen slots)
      (outside :: seen) := by
  intro place
  have shown := placeOf_unlockForm (polled place)
  have completed := alone_once kept.calibration .poll
  unfold pollSessionCalibrationWorker
  rw [shown]
  dsimp only
  split
  · dsimp only
    exact estimated_refresh outside _ completed seen
  · rename_i silent
    obtain ⟨found, member, same⟩ := fresh (polled place)
    refine ⟨found, List.mem_cons_of_mem outside member, ?_⟩
    have quiet : slots.calibration.tryCompleteSessionCalibration.1 = none := by simpa using silent
    have unchanged : slots.calibration.tryCompleteSessionCalibration.2.iterationsPerSecond =
        slots.calibration.iterationsPerSecond := by
      rcases poll_asked kept.calibration with asked | still
      · rw [quiet] at asked
        rcases asked_nothing asked with same | given
        · rw [same]
        · rw [given]
          rfl
      · rw [still]
    rw [unchanged]
    exact same

structure Kept (app : App) : Prop where
  placed : Placed app.system.session app.slots app.seen
  fields : FieldsKept app.slots
  fresh : Fresh app.system.session app.slots app.seen

theorem start_kept : Kept start where
  placed := placed_plain rfl (fun place => by cases place)
  fields := new_fields
  fresh := fresh_elsewhere (by simp [start, PromptSystem.start, Session.new, placeOf])

theorem polled_slots (outside : Outside) (screen : Screen) (slots : Slots) :
    (pollSessionCalibrationWorker outside screen slots).browser = slots.browser ∧
      (pollSessionCalibrationWorker outside screen slots).inspectDetails =
        slots.inspectDetails := by
  unfold pollSessionCalibrationWorker
  dsimp only
  split
  · split <;> exact ⟨rfl, rfl⟩
  · exact ⟨rfl, rfl⟩

theorem running_place {screen : Screen} (running : isRunning screen = true) :
    placeOf screen = .other := by
  cases screen with
  | verifyForm state =>
      have going : state.status ≠ .idle := by simpa [isRunning] using running
      simp [placeOf, going]
  | lockProgress state => rfl
  | unlockProgress state => rfl
  | _ => cases running

theorem poll_placed {before after : Session} {slots : Slots} {seen : List Outside}
    (outside : Outside) (polled : Stays before after ∨ Polled before after)
    (placed : Placed before slots seen) :
    Placed after (pollSessionCalibrationWorker outside before.app.screen slots)
      (outside :: seen) := by
  obtain ⟨browser, details⟩ := polled_slots outside before.app.screen slots
  rcases polled with stays | polled
  · exact placed_kept placed stays browser details (List.subset_cons_self _ _)
  · refine ⟨fun target opened_ => ?_, fun place => ?_⟩
    · -- A running screen has no field for a browser to fill.
      have open_ := (polled.modal (by rw [opened_]; rfl)).symm.trans opened_
      have held := (placed.browser target open_).1
      rw [running_place polled.running] at held
      cases held
    · rcases polled.place with same | same <;> cases same.symm.trans place

theorem poll_fresh {before after : Session} {slots : Slots} {seen : List Outside}
    (outside : Outside) (polled : Stays before after ∨ Polled before after)
    (kept : FieldsKept slots) (fresh : Fresh before slots seen) :
    Fresh after (pollSessionCalibrationWorker outside before.app.screen slots)
      (outside :: seen) := by
  refine polled_fresh outside kept fresh fun place => ?_
  rcases polled with stays | polled
  · exact stays.place.symm.trans place
  · rcases polled.place with same | same <;> cases same.symm.trans place

theorem frame_rate (onMenu : Bool) (calibration : SessionCalibration) :
    (calibration.onFrameRendered onMenu).iterationsPerSecond =
      calibration.iterationsPerSecond := by
  unfold SessionCalibration.onFrameRendered SessionCalibration.startSessionCalibrationPrewarm
  split
  · split <;> rfl
  · rfl

theorem next_kept {app after : App} {event : AppEvent} (kept : Kept app)
    (matched : Matched app.system.session) (step : next app event = some after) : Kept after := by
  have ⟨placed, fields, fresh⟩ := kept
  have moved := next_fields fields step
  have same : ∀ {change : SessionCalibration → SessionCalibration},
      (change app.slots.calibration).iterationsPerSecond =
        app.slots.calibration.iterationsPerSecond → FieldsKept (onCalibration app change).slots →
      Kept (onCalibration app change) := by
    intro change rate kept
    refine ⟨placed_kept placed (stays_refl _) rfl rfl (List.Subset.refl _), kept, fun place => ?_⟩
    obtain ⟨outside, member, shown⟩ := fresh place
    exact ⟨outside, member, shown.trans (by rw [← rate]; rfl)⟩
  cases event with
  | thread event =>
      simp only [next] at step
      split at step
      · rename_i thread
        obtain ⟨system, taken, rfl⟩ := Option.map_eq_some_iff.mp step
        have stays := thread_stays thread taken
        exact ⟨placed_kept placed stays rfl rfl (List.Subset.refl _), fields,
          fun place => fresh (stays.place.symm.trans place)⟩
      · cases step
  | calibrationSends measured =>
      cases step
      exact same rfl moved
  | calibrationExits =>
      cases step
      exact same rfl moved
  | poll outside =>
      obtain ⟨system, taken, rfl⟩ := Option.map_eq_some_iff.mp step
      simp only [PromptSystem.next] at taken
      split at taken
      · cases taken
      · cases taken
        have polled := poll_polled app.system.session matched
        exact ⟨poll_placed outside polled placed, moved, poll_fresh outside polled fields fresh⟩
  | frame =>
      cases step
      exact same (frame_rate _ _) moved
  | key key outside =>
      obtain ⟨system, taken, rfl⟩ := Option.map_eq_some_iff.mp step
      simp only [PromptSystem.next] at taken
      split at taken
      · cases taken
      · cases taken
        exact ⟨pressed_placed outside key placed, moved,
          pressed_fresh outside key placed fields fresh⟩

theorem reached_kept {app : App} (reached : Leads start app) : Kept app := by
  induction reached with
  | refl => exact start_kept
  | tail before step ih =>
      obtain ⟨event, taken⟩ := step
      exact next_kept ih (leads_matched before) taken

inductive FieldName where
  | lockFileInput
  | lockFileOutput
  | lockFileTarget
  | lockFilePassword
  | lockFileConfirmation
  | lockTextInput
  | lockTextOutput
  | lockTextTarget
  | lockTextPassword
  | lockTextConfirmation
  | unlockInput
  | unlockOutputDir
  | inspectInput
  | verifyInput
  deriving DecidableEq, Repr

def fieldOf (screen : Screen) (slots : Slots) (name : FieldName) : Option TextField :=
  match screen, name with
  | .lockFileForm, .lockFileInput => some slots.lockFile.inputPath
  | .lockFileForm, .lockFileOutput => some slots.lockFile.outputPath
  | .lockFileForm, .lockFileTarget => some slots.lockFile.targetDelay
  | .lockFileForm, .lockFilePassword => some slots.lockFile.password.field
  | .lockFileForm, .lockFileConfirmation => some slots.lockFile.passwordConfirmation.field
  | .lockTextForm, .lockTextInput => some slots.lockText.inputText
  | .lockTextForm, .lockTextOutput => some slots.lockText.outputPath
  | .lockTextForm, .lockTextTarget => some slots.lockText.targetDelay
  | .lockTextForm, .lockTextPassword => some slots.lockText.password.field
  | .lockTextForm, .lockTextConfirmation => some slots.lockText.passwordConfirmation.field
  | .unlockForm, .unlockInput => some slots.unlock.inputPath
  | .unlockForm, .unlockOutputDir => some slots.unlock.outputDir
  | .inspectForm, .inspectInput => some slots.inspectForm.inputPath
  | .verifyForm state, .verifyInput => some state.inputPath
  | _, _ => none

def App.field (app : App) (name : FieldName) : Option TextField :=
  fieldOf app.system.session.app.screen app.slots name

def keyed (outside : Outside) (app : App) (key : KeyEvent) : App :=
  (next app (.key key outside)).getD app

def typed (outside : Outside) (keys : List KeyEvent) : App := keys.foldl (keyed outside) start

theorem leads_keyed {app : App} (outside : Outside) (keys : List KeyEvent)
    (reached : Leads start app) : Leads start (keys.foldl (keyed outside) app) := by
  induction keys generalizing app with
  | nil => exact reached
  | cons key later ih =>
      refine ih ?_
      unfold keyed
      cases step : next app (.key key outside) with
      | none => exact reached
      | some after => exact reached.tail ⟨_, step⟩

theorem leads_typed (outside : Outside) (keys : List KeyEvent) :
    Leads start (typed outside keys) :=
  leads_keyed outside keys .refl

section Results
variable {app after : App}

def beside : Outside where
  disk := shelf
  pathExists path := path = ofText "d"
  inspect _ := .error (.invalidFormat "too short")
  verify _ := .ok ()
  openFolder := .ok ()
  awaited := none
  measured := 1
  lockModulusBits := 2048

/-- The unlock form shows the estimate for the file that is entered, at the rate known now, as some
look outside in this run gave it, and starts an unlock of that file with it. -/
def Forecast (app : App) : Prop :=
  ∃ outside ∈ app.seen,
    estimateShown app.slots.unlock = unlockEstimate outside
      app.slots.calibration.iterationsPerSecond (entered app.slots.unlock.inputPath) ∧
    ∀ now key request fileDisplay seconds,
      (handleUnlockFormKey now app.slots.unlock key app.slots.calibration).2.1 =
          .unlocks request fileDisplay seconds →
        fileDisplay = entered app.slots.unlock.inputPath ∧ request.input = ofText fileDisplay ∧
          seconds = (unlockEstimate outside app.slots.calibration.iterationsPerSecond
            fileDisplay).2.1

/-- Keys, selections, polls and the calibration's thread never leave an estimate on the form that
is for another file or at an older rate. -/
theorem estimate_fresh (reached : Leads start app)
    (shown : app.system.session.app.screen = .unlockForm) : Forecast app := by
  obtain ⟨outside, member, same⟩ := (reached_kept reached).fresh (by rw [shown]; rfl)
  refine ⟨outside, member, same, ?_⟩
  intro now key request fileDisplay seconds unlocks
  obtain ⟨input, display, passed⟩ := unlockFormKey_unlocks now _ key _ _ _ _ unlocks
  rw [display]
  exact ⟨rfl, input, passed.trans (congrArg (fun estimate => estimate.2.1) same)⟩

def asking : App := typed beside [struck .down, struck .down, struck .enter, struck (.char 'd')]

theorem estimate_fresh_asking :
    Forecast asking ∧
      estimateShown asking.slots.unlock = (none, none, some "invalid format: too short") :=
  ⟨estimate_fresh (leads_typed beside _) rfl, by decide +kernel⟩

end Results

end Application
