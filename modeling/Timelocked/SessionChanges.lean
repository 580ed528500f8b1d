import Timelocked.KeyEffects
import Timelocked.PromptSystem

/-!
What the polls and the keys of the session are to the dialogue. Each keeps the
session sound and is a run of the dialogue, most often an empty one: it leaves
the screen of a worker, or sets a flag, only where no prompt is open.
-/
namespace SessionChanges

open Base hiding Event
open Lock Unlock Channels TextFields TuiSession TuiKeys KeyEffects Dialogue PromptSystem

section Changes
variable (pressed : RequestId → List KeyEvent) (issued : WorkerId → Nat) {session after : Session}

/-- A change of a sound session keeps it sound and is a run of the dialogue. -/
def Advances (before after : Session) : Prop :=
  Sound before →
    Sound after ∧ Run rules (view before pressed issued) (view after pressed issued)

theorem Advances.trans {later : Session} (first : Advances pressed issued session after)
    (second : Advances pressed issued after later) : Advances pressed issued session later := by
  intro sound
  obtain ⟨afterSound, run⟩ := first sound
  obtain ⟨laterSound, further⟩ := second afterSound
  exact ⟨laterSound, run.trans further⟩

theorem advances_refl : Advances pressed issued session session :=
  fun sound => ⟨sound, .refl⟩

theorem advances_setScreen (screen : Screen) (screenSound : ScreenSound session screen)
    (same : deskOf screen = deskOf session.app.screen) :
    Advances pressed issued session (session.setScreen screen) := by
  intro sound
  refine ⟨⟨sound.fresh, screenSound, sound.modal, sound.verify⟩, ?_⟩
  have unchanged : view (session.setScreen screen) pressed issued =
      view session pressed issued := by
    simp [view, Session.setScreen, same]
  rw [unchanged]

/-- A modal that is no prompt, opened where no prompt is or over a screen that is no
unlock screen. -/
theorem advances_setModal (modal : Option Modal) (plain : shownOf modal = none)
    (free : deskOf session.app.screen = none ∨ shownOf session.app.modal = none) :
    Advances pressed issued session (session.setModal modal) := by
  intro sound
  have modalSound : ModalSound modal := by
    unfold ModalSound
    split
    · simp [shownOf] at plain
    · trivial
  refine ⟨⟨sound.fresh, sound.screen, modalSound, sound.verify⟩, ?_⟩
  have unchanged : view (session.setModal modal) pressed issued =
      { view session pressed issued with shown := none } := by
    simp [view, Session.setModal, plain]
  rw [unchanged]
  rcases free with free | clear
  · exact .single (.discard _ free)
  · have same : { view session pressed issued with shown := none } =
        view session pressed issued := by
      simp [view, clear]
    rw [same]

theorem advances_setVerifyWorker (worker : Option (Worker VerifyWorkerEvent))
    (numbered : ∀ found ∈ worker, found.id < session.spawned) :
    Advances pressed issued session (session.setVerifyWorker worker) :=
  fun sound => ⟨⟨sound.fresh, sound.screen, sound.modal, numbered⟩, .refl⟩

theorem advances_quit : Advances pressed issued session session.quit :=
  fun sound => ⟨⟨sound.fresh, sound.screen, sound.modal, sound.verify⟩, .refl⟩

/-- More workers and more flags set change nothing for a sound screen. -/
theorem screenSound_mono {screen : Screen} (sound : ScreenSound session screen)
    (spawned : session.spawned ≤ after.spawned)
    (tokens : ∀ worker, session.tokens worker = true → after.tokens worker = true) :
    ScreenSound after screen := by
  cases screen with
  | lockProgress state => exact Nat.lt_of_lt_of_le sound spawned
  | unlockProgress state =>
      exact ⟨Nat.lt_of_lt_of_le sound.1 spawned, fun requested => tokens _ (sound.2 requested)⟩
  | _ => trivial

theorem sound_cancel (sound : Sound session) (worker : WorkerId)
    (numbered : worker < session.spawned) : Sound (session.cancel worker) := by
  refine ⟨?_, ?_, sound.modal, sound.verify⟩
  · intro other later
    have different : other ≠ worker := by
      rintro rfl
      exact absurd numbered (Nat.not_lt.mpr later)
    simpa [Session.cancel, Function.update_of_ne different] using sound.fresh other later
  · refine screenSound_mono sound.screen (Nat.le_refl _) (fun other stopped => ?_)
    simp only [Session.cancel, Function.update_apply]
    split
    · rfl
    · exact stopped

/-- A token is set where no prompt is open. -/
theorem advances_cancel (worker : WorkerId) (numbered : worker < session.spawned)
    (clear : shownOf session.app.modal = none) :
    Advances pressed issued session (session.cancel worker) :=
  fun sound => ⟨sound_cancel sound worker numbered, .single (.stop _ worker clear)⟩

/-- The flag of a new worker was not set before. -/
theorem tokens_spawn (sound : Sound session) : session.spawn.2.tokens = session.tokens := by
  have new := (sound.fresh session.spawned (Nat.le_refl _)).2
  simp only [Session.spawn]
  rw [← new, Function.update_eq_self]

theorem advances_spawn : Advances pressed issued session session.spawn.2 := by
  intro sound
  have tokens := tokens_spawn sound
  constructor
  · refine ⟨?_, ?_, sound.modal, ?_⟩
    · intro worker later
      rw [tokens]
      exact sound.fresh worker (Nat.le_of_succ_le later)
    · exact screenSound_mono sound.screen (Nat.le_succ _) (fun worker stopped => by
        rw [tokens]
        exact stopped)
    · intro worker found
      exact Nat.lt_succ_of_lt (sound.verify worker found)
  · have unchanged : view session.spawn.2 pressed issued = view session pressed issued := by
      simp only [view, tokens]
      rfl
    rw [unchanged]

/-! Handled screens are put back in place; both lemmas are about a screen other
than that of an unlock worker. -/

theorem advances_install (screen placeholder : Screen)
    (screenSound : ScreenSound session screen) (free : deskOf screen = none)
    (was : deskOf session.app.screen = none) :
    Advances pressed issued session (install (screen, session.setScreen placeholder)) :=
  advances_setScreen pressed issued screen screenSound (free.trans was.symm)

theorem advances_install_modal (screen placeholder : Screen) (modal : Option Modal)
    (screenSound : ScreenSound session screen) (free : deskOf screen = none)
    (was : deskOf session.app.screen = none) (plain : shownOf modal = none) :
    Advances pressed issued session
      (install (screen, (session.setScreen placeholder).setModal modal)) :=
  (advances_setModal pressed issued modal plain (.inl was)).trans pressed issued
    (advances_setScreen pressed issued screen screenSound (free.trans was.symm))

theorem lockEvent_worker (state : LockProgressState) :
    (whileOk lockEvent ⟨state, none⟩ state.worker.receiver).1.state.worker = state.worker := by
  refine whileOk_rule lockEvent (fun poll _ => poll.state.worker = state.worker)
    (fun poll _ => poll.state.worker = state.worker) ?_ ?_ ?_ ⟨state, none⟩
    state.worker.receiver rfl
  · exact fun poll same => same
  · intro poll event rest later same turn
    cases event with
    | progress status =>
        cases turn
        exact same
    | finished result => cases turn
  · intro poll event rest last same turn
    cases event with
    | progress status => cases turn
    | finished result =>
        cases turn
        exact same

theorem advances_pollLock (state : LockProgressState)
    (screen : session.app.screen = .lockProgress state) :
    Advances pressed issued session
      (install (pollLockWorker (session.setScreen mainMenu) state)) := by
  intro sound
  have was : deskOf session.app.screen = none := by rw [screen]; rfl
  have numbered : state.worker.id < session.spawned := by
    have before := sound.screen
    rw [screen] at before
    exact before
  have kept := lockEvent_worker state
  simp only [pollLockWorker]
  split
  · exact advances_install pressed issued _ _ trivial rfl was sound
  · exact advances_install_modal pressed issued _ _ _ trivial rfl was rfl sound
  · exact advances_install_modal pressed issued _ _ _ trivial rfl was rfl sound
  · refine advances_install pressed issued _ _ ?_ rfl was sound
    simpa [ScreenSound, kept] using numbered

theorem advances_pollVerify (state : VerifyFormState)
    (screen : session.app.screen = .verifyForm state) :
    Advances pressed issued session
      (install (pollVerifyWorker (session.setScreen mainMenu) state)) := by
  intro sound
  have was : deskOf session.app.screen = none := by rw [screen]; rfl
  unfold pollVerifyWorker
  split
  · exact advances_install pressed issued _ _ trivial rfl was sound
  · rename_i worker found
    have taken : Advances pressed issued session (session.setVerifyWorker none) :=
      advances_setVerifyWorker pressed issued none (by simp)
    split
    · exact taken.trans pressed issued (advances_install pressed issued _ mainMenu trivial rfl was)
        sound
    · exact taken.trans pressed issued
        (advances_install_modal pressed issued _ mainMenu _ trivial rfl was rfl) sound
    · exact taken.trans pressed issued
        (advances_install_modal pressed issued _ mainMenu _ trivial rfl was rfl) sound
    · refine (advances_setVerifyWorker pressed issued _ ?_).trans pressed issued
        (advances_install pressed issued _ mainMenu trivial rfl was) sound
      rintro _ ⟨⟩
      exact sound.verify worker found
    · exact taken.trans pressed issued
        (advances_install_modal pressed issued _ mainMenu _ trivial rfl was rfl) sound

section UnlockLoop
variable (connected : Bool)

/-- The session inside the loop of the unlock poll, its screen put back. -/
def during (poll : UnlockPoll) (queue : List UnlockWorkerEvent) : Session :=
  poll.session.setScreen (.unlockProgress
    { poll.state with worker := { poll.state.worker with receiver := ⟨queue, connected⟩ } })

def Polled (session : Session) (poll : UnlockPoll) (queue : List UnlockWorkerEvent) : Prop :=
  poll.terminal = none ∧ Sound (during connected poll queue) ∧
    Run rules (view session pressed issued) (view (during connected poll queue) pressed issued)

def PolledLast (session : Session) (poll : UnlockPoll) (queue : List UnlockWorkerEvent) : Prop :=
  Polled pressed issued connected session poll queue ∨
    ∃ result, poll.terminal = some result ∧
      Polled pressed issued connected session { poll with terminal := none }
        (.finished result :: queue)

theorem polled_progress {poll : UnlockPoll} {status : ProgressStatus}
    {rest : List UnlockWorkerEvent}
    (polled : Polled pressed issued connected session poll (.progress status :: rest)) :
    Polled pressed issued connected session
      { poll with state := { poll.state with progress := status } } rest := by
  obtain ⟨open_, sound, run⟩ := polled
  exact ⟨open_, ⟨sound.fresh, sound.screen, sound.modal, sound.verify⟩,
    run.tail (.hear _ poll.state.worker.id (rest.map messageOf) rfl)⟩

theorem polled_request {poll last : UnlockPoll} {attempt maxAttempts : UInt8} {failed : Bool}
    {reply : RequestId} {rest : List UnlockWorkerEvent}
    (polled : Polled pressed issued connected session poll
      (.passwordRequired attempt maxAttempts failed reply :: rest))
    (turn : unlockEvent poll (.passwordRequired attempt maxAttempts failed reply) = .done last) :
    Polled pressed issued connected session last rest := by
  obtain ⟨open_, sound, run⟩ := polled
  simp only [unlockEvent] at turn
  split at turn
  · cases turn
    refine ⟨open_, ⟨sound.fresh, sound.screen, sound.modal, sound.verify⟩, run.tail ?_⟩
    have refused : Step rules _ _ := .refuse
      (view (during connected poll (.passwordRequired attempt maxAttempts failed reply :: rest))
        pressed issued) poll.state.worker.id reply (rest.map messageOf) rfl
    simpa [view, during, Session.reply, Session.setScreen, deskOf, replyOf,
      Except.toOption] using refused
  · rename_i going
    cases turn
    have plain : Plain SecretTextField.default.field := plain_new []
    simp only [Bool.or_eq_true, not_or, Bool.not_eq_true] at going
    exact ⟨open_, ⟨sound.fresh, sound.screen, plain, sound.verify⟩,
      run.tail (.display _ poll.state.worker.id reply (rest.map messageOf) rfl going.2)⟩

theorem polledLast_loop (state : UnlockProgressState) (placed : Session)
    (polled : Polled pressed issued state.worker.receiver.connected session
      ⟨placed, state, none⟩ state.worker.receiver.queue) :
    PolledLast pressed issued state.worker.receiver.connected session
      (whileOk unlockEvent ⟨placed, state, none⟩ state.worker.receiver).1
      (whileOk unlockEvent ⟨placed, state, none⟩ state.worker.receiver).2.queue := by
  refine whileOk_rule unlockEvent
    (Polled pressed issued state.worker.receiver.connected session)
    (PolledLast pressed issued state.worker.receiver.connected session)
    ?_ ?_ ?_ _ _ polled
  · exact fun poll before => .inl before
  · intro poll event rest later before turn
    cases event with
    | progress status =>
        cases turn
        exact polled_progress pressed issued _ before
    | passwordRequired attempt maxAttempts failed reply =>
        simp only [unlockEvent] at turn
        split at turn <;> cases turn
    | finished result => cases turn
  · intro poll event rest last before turn
    cases event with
    | progress status => cases turn
    | passwordRequired attempt maxAttempts failed reply =>
        exact .inl (polled_request pressed issued _ before turn)
    | finished result =>
        cases turn
        refine .inr ⟨result, rfl, ?_⟩
        obtain ⟨open_, held⟩ := before
        exact ⟨rfl, held⟩

end UnlockLoop

theorem advances_pollUnlock (state : UnlockProgressState)
    (screen : session.app.screen = .unlockProgress state) :
    Advances pressed issued session
      (install (pollUnlockWorker (session.setScreen mainMenu) state)) := by
  intro sound
  have placed : during state.worker.receiver.connected ⟨session.setScreen mainMenu, state, none⟩
      state.worker.receiver.queue = session := by
    simp [during, Session.setScreen, ← screen]
  have polled := polledLast_loop pressed issued state (session.setScreen mainMenu)
    ⟨rfl, by rwa [placed], by rw [placed]⟩
  simp only [pollUnlockWorker]
  generalize whileOk unlockEvent ⟨session.setScreen mainMenu, state, none⟩
    state.worker.receiver = ended at polled ⊢
  obtain ⟨poll, receiver⟩ := ended
  rcases polled with ⟨open_, sound, run⟩ | ⟨result, finished, _, sound, run⟩
  · simp only at open_
    simp only [open_]
    exact ⟨⟨sound.fresh, sound.screen, sound.modal, sound.verify⟩, run⟩
  · simp only at finished
    simp only [finished]
    -- The screen is left first; a modal may then take the place of another.
    have left : ∀ screen, deskOf screen = none → ScreenSound poll.session screen →
        Sound (poll.session.setScreen screen) ∧
          Run rules (view session pressed issued)
            (view (poll.session.setScreen screen) pressed issued) := by
      intro screen free screenSound
      refine ⟨⟨sound.fresh, screenSound, sound.modal, sound.verify⟩, run.tail ?_⟩
      have closed : Step rules _ _ := .close
        (view (during state.worker.receiver.connected { poll with terminal := none }
          (.finished result :: receiver.queue)) pressed issued)
        poll.state.worker.id (receiver.queue.map messageOf) rfl
      simpa [view, during, Session.setScreen, free] using closed
    have noted : ∀ modal, shownOf modal = none →
        Sound ((poll.session.setModal modal).setScreen mainMenu) ∧
          Run rules (view session pressed issued)
            (view ((poll.session.setModal modal).setScreen mainMenu) pressed issued) := by
      intro modal plain
      obtain ⟨closedSound, closed⟩ := left mainMenu rfl trivial
      obtain ⟨shownSound, shown⟩ :=
        advances_setModal pressed issued modal plain (.inl rfl) closedSound
      exact ⟨shownSound, closed.trans shown⟩
    split
    · exact left _ rfl trivial
    · exact noted _ rfl
    · exact noted _ rfl
    · rename_i other
      cases other

theorem advances_poll : Advances pressed issued session (pollWorkers session) := by
  simp only [pollWorkers]
  split
  · rename_i state screen
    exact advances_pollLock pressed issued state screen
  · rename_i state screen
    exact advances_pollUnlock pressed issued state screen
  · rename_i state screen
    exact advances_pollVerify pressed issued state screen
  · intro sound
    exact advances_setScreen pressed issued _ sound.screen rfl sound

theorem deskOf_idle {screen : Screen} (idle : isRunning screen = false) : deskOf screen = none := by
  cases screen with
  | unlockProgress state => cases idle
  | _ => rfl

theorem screenSound_idle {screen : Screen} (idle : isRunning screen = false) :
    ScreenSound session screen := by
  cases screen with
  | lockProgress state => cases idle
  | unlockProgress state => cases idle
  | _ => trivial

theorem shownOf_plain {modal : Option Modal} (plain : isPrompt modal = false) :
    shownOf modal = none := by
  unfold shownOf
  split
  · cases plain
  · rfl

theorem advances_startLock (inputDisplay outputDisplay : String)
    (was : deskOf session.app.screen = none) :
    Advances pressed issued session (install
      (newLockProgressScreen inputDisplay outputDisplay
        (spawnLockWorker (session.setScreen mainMenu)).1,
        (spawnLockWorker (session.setScreen mainMenu)).2)) := by
  have screenSound : ScreenSound session.spawn.2
      (newLockProgressScreen inputDisplay outputDisplay ⟨session.spawned, channel⟩) := by
    simp only [newLockProgressScreen, ScreenSound, Session.spawn]
    exact Nat.lt_succ_self _
  exact (advances_spawn pressed issued).trans pressed issued
    (advances_setScreen pressed issued _ screenSound was.symm)

theorem advances_startVerify (state : VerifyFormState)
    (was : deskOf session.app.screen = none) :
    Advances pressed issued session (install
      (.verifyForm state, (spawnVerifyWorker (session.setScreen mainMenu)).2.setVerifyWorker
        (some (spawnVerifyWorker (session.setScreen mainMenu)).1))) := by
  refine (advances_spawn pressed issued).trans pressed issued ?_
  refine (advances_setVerifyWorker pressed issued _ ?_).trans pressed issued
    (advances_setScreen pressed issued _ trivial was.symm)
  rintro _ ⟨⟩
  exact Nat.lt_succ_self _

section Keys
variable (clear : session.app.modal = none)
include clear

theorem advances_requestCancel (screen : Screen) (worker : WorkerId)
    (numbered : worker < session.spawned)
    (screenSound : ScreenSound (session.cancel worker) screen)
    (same : deskOf screen = deskOf session.app.screen) :
    Advances pressed issued session ((session.cancel worker).setScreen screen) :=
  (advances_cancel pressed issued worker numbered (by rw [clear]; rfl)).trans pressed issued
    (advances_setScreen pressed issued screen screenSound same)

/-- A new unlock worker is a new client at a free desk. -/
theorem advances_startUnlock (fileDisplay : String) (estimate : Option UInt64)
    (was : deskOf session.app.screen = none) :
    Advances pressed issued session (install
      (newUnlockProgressScreen fileDisplay estimate
        (spawnUnlockWorker (session.setScreen mainMenu)).1,
        (spawnUnlockWorker (session.setScreen mainMenu)).2)) := by
  intro sound
  have tokens : Function.update session.tokens session.spawned false = session.tokens :=
    tokens_spawn sound
  obtain ⟨new, going⟩ := sound.fresh session.spawned (Nat.le_refl _)
  constructor
  · refine ⟨?_, ⟨Nat.lt_succ_self _, by rintro ⟨⟩⟩, sound.modal, ?_⟩
    · intro worker later
      have different : worker ≠ session.spawned := Nat.ne_of_gt later
      have fresh := sound.fresh worker (Nat.le_of_succ_le later)
      simpa [install, spawnUnlockWorker, Session.spawn, Session.setScreen,
        Function.update_of_ne different] using fresh
    · intro worker found
      exact Nat.lt_succ_of_lt (sound.verify worker found)
  · have started : Step rules _ _ := .start (view session pressed issued) session.spawned was
      (by simp [view, clear, shownOf]) (by simp [view, new, phaseOf]) going
    refine .single ?_
    have phases : (fun worker => phaseOf
        (Function.update session.threads session.spawned .running worker)) =
        Function.update (fun worker => phaseOf (session.threads worker)) session.spawned
          .running := by
      funext worker
      by_cases same : worker = session.spawned
      · simp [same, phaseOf]
      · simp [Function.update_of_ne same]
    simpa [view, install, newUnlockProgressScreen, spawnUnlockWorker, Session.spawn,
      Session.setScreen, deskOf, channel, phases, tokens] using started

/-- Whatever a key does to a screen is a run of the dialogue. -/
theorem advances_effect {screen : Screen} {handled : Screen × Session}
    (shown : session.app.screen = screen)
    (effect : KeyEffect (session.setScreen mainMenu) screen handled) :
    Advances pressed issued session (install handled) := by
  intro sound
  have screenSound : ScreenSound session screen := by
    rw [← shown]
    exact sound.screen
  cases effect with
  | moves _ after idle still =>
      exact advances_install pressed issued after _ (screenSound_idle still) (deskOf_idle still)
        (by rw [shown, deskOf_idle idle]) sound
  | notes _ after modal idle still plain =>
      exact advances_install_modal pressed issued after _ modal (screenSound_idle still)
        (deskOf_idle still) (by rw [shown, deskOf_idle idle]) (shownOf_plain plain) sound
  | quits state =>
      exact (advances_quit pressed issued).trans pressed issued
        (advances_setScreen pressed issued _ trivial (by rw [← shown]; rfl)) sound
  | focusesLock state focus =>
      exact advances_setScreen pressed issued (.lockProgress { state with focus := focus })
        screenSound (by rw [shown]; rfl) sound
  | cancelsLock state focus =>
      exact advances_requestCancel pressed issued clear _ state.worker.id screenSound screenSound
        (by rw [shown]; rfl) sound
  | focusesUnlock state focus =>
      exact advances_setScreen pressed issued (.unlockProgress { state with focus := focus })
        screenSound (by rw [shown]; rfl) sound
  | cancelsUnlock state focus =>
      refine advances_requestCancel pressed issued clear _ state.worker.id screenSound.1
        ⟨screenSound.1, fun _ => ?_⟩ (by rw [shown]; rfl) sound
      exact Function.update_self ..
  | focusesVerify state after running same =>
      exact advances_setScreen pressed issued (.verifyForm after) trivial (by rw [shown]; rfl) sound
  | cancelsVerify state worker running found =>
      exact advances_requestCancel pressed issued clear _ worker.id (sound.verify worker found)
        trivial (by rw [shown]; rfl) sound
  | startsLock _ inputDisplay outputDisplay idle =>
      exact advances_startLock pressed issued inputDisplay outputDisplay
        (by rw [shown, deskOf_idle idle]) sound
  | startsUnlock _ fileDisplay estimate idle =>
      exact advances_startUnlock pressed issued clear fileDisplay estimate
        (by rw [shown, deskOf_idle idle]) sound
  | startsVerify state idle =>
      exact advances_startVerify pressed issued _ (by rw [shown]; rfl) sound

theorem advances_screenKey (key : KeyEvent) (answer : Answer) :
    Advances pressed issued session
      (install (handleScreenKey session.app.screen key answer (session.setScreen mainMenu))) :=
  advances_effect pressed issued clear rfl
    (screenKey_effect (session.setScreen mainMenu) key session.app.screen answer)

end Keys

theorem advances_selection (target : BrowserTarget) (path : PathText.Path) :
    Advances pressed issued session (applyBrowserSelection session target path) := by
  unfold applyBrowserSelection
  split
  · rename_i screen
    exact advances_setScreen pressed issued _ trivial (by rw [screen]; rfl)
  · exact advances_refl pressed issued

theorem modal_selection (target : BrowserTarget) (path : PathText.Path) :
    (applyBrowserSelection session target path).app.modal = session.app.modal := by
  unfold applyBrowserSelection
  split <;> rfl

theorem advances_handleBrowserKey (target : BrowserTarget) (key : KeyEvent)
    (selection : Option PathText.Path) :
    Advances pressed issued session (handleBrowserKey session target key selection).2 ∧
      (handleBrowserKey session target key selection).2.app.modal = session.app.modal := by
  unfold handleBrowserKey
  split
  · exact ⟨advances_refl pressed issued, rfl⟩
  · exact ⟨advances_selection pressed issued _ _, modal_selection _ _⟩
  · exact ⟨advances_selection pressed issued _ _, modal_selection _ _⟩
  · exact ⟨advances_refl pressed issued, rfl⟩

theorem advances_browserKey (target : BrowserTarget) (key : KeyEvent) (answer : Answer)
    (modal : session.app.modal = some (.browser target)) :
    Advances pressed issued session
      (handleModalKey (.browser target) key answer session) := by
  have taken : Advances pressed issued session (session.setModal none) :=
    advances_setModal pressed issued none rfl (.inr (by rw [modal]; rfl))
  obtain ⟨handled, kept⟩ :=
    @advances_handleBrowserKey pressed issued (session.setModal none) target key answer.selection
  refine (taken.trans pressed issued handled).trans pressed issued
    (advances_setModal pressed issued _ ?_ (.inr ?_))
  · split <;> rfl
  · rw [kept]
    rfl

theorem advances_noteKey (modal : Modal) (key : KeyEvent) (answer : Answer)
    (open_ : session.app.modal = some modal) (plain : shownOf (some modal) = none) :
    Advances pressed issued session (handleModalKey modal key answer session) := by
  have replaced : ∀ last, shownOf last = none →
      Advances pressed issued session (session.setModal last) := fun last none_ =>
    advances_setModal pressed issued last none_ (.inr (by rw [open_]; exact plain))
  cases modal with
  | error message =>
      simp only [handleModalKey]
      split
      · exact replaced _ rfl
      · exact replaced _ rfl
  | info message =>
      simp only [handleModalKey]
      split
      · exact replaced _ rfl
      · exact replaced _ rfl
  | browser target => exact advances_browserKey pressed issued target key answer open_
  | passwordPrompt state => cases plain

end Changes

end SessionChanges
