import Timelocked.PromptProtocol

/-!
The session waits for at most one worker. The receiver of a lock or an unlock
worker is part of its screen, that of a verification is not; all the same it is
there exactly as long as the form shows that it runs, and no thread of an unlock
worker goes on unseen.
-/
namespace OneWorker

open Base hiding Event
open Lock Unlock Channels TextFields TuiSession TuiKeys KeyEffects Dialogue PromptSystem
  SessionChanges PromptProtocol

def verifying : Screen → Bool
  | .verifyForm state => state.status ≠ .idle
  | _ => false

def Matched (session : Session) : Prop :=
  session.app.verifyWorker.isSome = verifying session.app.screen

theorem verifying_idle {screen : Screen} (idle : isRunning screen = false) :
    verifying screen = false := by
  cases screen with
  | verifyForm state => exact idle
  | _ => rfl

section Keys
variable {session : Session}

theorem matched_effect {screen : Screen} {handled : Screen × Session}
    (shown : session.app.screen = screen) (matched : Matched session)
    (effect : KeyEffect (session.setScreen mainMenu) screen handled) :
    Matched (install handled) := by
  have before : session.app.verifyWorker.isSome = verifying screen := by
    rw [← shown]
    exact matched
  cases effect with
  | moves _ after idle still =>
      have same : verifying after = verifying screen :=
        (verifying_idle still).trans (verifying_idle idle).symm
      exact before.trans same.symm
  | notes _ after modal idle still plain =>
      have same : verifying after = verifying screen :=
        (verifying_idle still).trans (verifying_idle idle).symm
      exact before.trans same.symm
  | quits state => exact before
  | focusesLock state focus => exact before
  | cancelsLock state focus => exact before
  | focusesUnlock state focus => exact before
  | cancelsUnlock state focus => exact before
  | focusesVerify state after running same =>
      have still : verifying (.verifyForm after) = verifying (.verifyForm state) := by
        simp [verifying, same]
      exact before.trans still.symm
  | cancelsVerify state worker running found =>
      have still : verifying (.verifyForm state) = true := by simpa [verifying] using running
      exact before.trans still
  | startsLock _ inputDisplay outputDisplay idle => exact before.trans (verifying_idle idle)
  | startsUnlock _ fileDisplay estimate idle => exact before.trans (verifying_idle idle)
  | startsVerify state idle => rfl

theorem matched_selection (matched : Matched session) (target : BrowserTarget)
    (path : PathText.Path) : Matched (applyBrowserSelection session target path) := by
  unfold applyBrowserSelection
  split
  · rename_i screen
    rw [Matched, screen] at matched
    exact matched
  · exact matched

theorem matched_browserKey (matched : Matched session) (target : BrowserTarget) (key : KeyEvent)
    (selection : Option PathText.Path) :
    Matched (handleBrowserKey session target key selection).2 := by
  unfold handleBrowserKey
  split
  · exact matched
  · exact matched_selection matched _ _
  · exact matched_selection matched _ _
  · exact matched

theorem matched_cancelPrompt (matched : Matched session) (state : PasswordPromptState) :
    Matched (cancelPasswordPrompt state session) := by
  unfold cancelPasswordPrompt
  dsimp only
  split
  · rename_i screen
    have shown : session.app.screen = .unlockProgress _ := screen
    rw [Matched, shown] at matched
    exact matched
  · exact matched

theorem matched_promptKey (matched : Matched session) (state : PasswordPromptState)
    (key : KeyEvent) : Matched (handlePasswordPromptKey state key session).2 := by
  unfold handlePasswordPromptKey
  split
  · exact matched
  · exact matched
  · exact matched_cancelPrompt matched state
  · split
    · exact matched_cancelPrompt matched state
    · exact matched
  · split
    · exact matched
    · exact matched

/-- No modal touches a verification. -/
theorem matched_modalKey (matched : Matched session) (modal : Modal) (key : KeyEvent)
    (answer : Answer) : Matched (handleModalKey modal key answer session) := by
  have taken : Matched (session.setModal none) := matched
  cases modal with
  | error message =>
      simp only [handleModalKey]
      split
      · exact matched
      · exact matched
  | info message =>
      simp only [handleModalKey]
      split
      · exact matched
      · exact matched
  | browser target => exact matched_browserKey taken target key answer.selection
  | passwordPrompt state => exact matched_promptKey taken state key

theorem matched_onKey (matched : Matched session) (key : KeyEvent) (answer : Answer) :
    Matched (onKey session key answer) := by
  unfold onKey
  split
  · exact matched
  · split
    · exact matched_modalKey matched _ key answer
    · exact matched_effect rfl matched
        (screenKey_effect (session.setScreen mainMenu) key session.app.screen answer)

end Keys

section Polls
variable {session : Session}

/-- The loop over the events of an unlock worker replies to one that was cancelled,
or opens a prompt. -/
theorem unlockLoop_leaves (poll : UnlockPoll) (queue : List UnlockWorkerEvent) :
    (receiveEach unlockEvent poll queue).1.session.app.verifyWorker =
        poll.session.app.verifyWorker ∧
      ((receiveEach unlockEvent poll queue).1.session.app.modal = poll.session.app.modal ∨
        ∃ prompt, (receiveEach unlockEvent poll queue).1.session.app.modal =
          some (.passwordPrompt prompt)) := by
  refine receiveEach_rule unlockEvent (fun now _ => now.session = poll.session)
    (fun last _ => last.session.app.verifyWorker = poll.session.app.verifyWorker ∧
      (last.session.app.modal = poll.session.app.modal ∨
        ∃ prompt, last.session.app.modal = some (.passwordPrompt prompt))) ?_ ?_ ?_ poll queue rfl
  · intro now same
    rw [same]
    exact ⟨rfl, .inl rfl⟩
  · -- only a report lets the loop go on
    intro now event rest next same turn
    cases event with
    | progress status =>
        cases turn
        exact same
    | passwordRequired attempt maxAttempts failed reply =>
        simp only [unlockEvent] at turn
        split at turn <;> cases turn
    | finished result => cases turn
  · intro now event rest last same turn
    cases event with
    | progress status => cases turn
    | passwordRequired attempt maxAttempts failed reply =>
        simp only [unlockEvent] at turn
        rw [← same]
        split at turn
        · cases turn
          exact ⟨rfl, .inl rfl⟩
        · cases turn
          exact ⟨rfl, .inr ⟨_, rfl⟩⟩
    | finished result =>
        cases turn
        rw [← same]
        exact ⟨rfl, .inl rfl⟩

theorem matched_pollUnlock (clear : session.app.verifyWorker = none)
    (state : UnlockProgressState) : Matched (install (pollUnlockWorker session state)) := by
  have kept := (unlockLoop_leaves ⟨session, state, none⟩ state.worker.receiver.queue).1
  rw [clear] at kept
  simp only [pollUnlockWorker, whileOk]
  split
  · simp [Matched, install, Session.setScreen, kept, verifying]
  · simp [Matched, install, Session.setScreen, Session.setModal, kept, verifying, mainMenu]
  · simp [Matched, install, Session.setScreen, Session.setModal, kept, verifying, mainMenu]
  · simp [Matched, install, Session.setScreen, kept, verifying]

theorem matched_pollLock (clear : session.app.verifyWorker = none)
    (state : LockProgressState) : Matched (install (pollLockWorker session state)) := by
  simp only [pollLockWorker]
  split
  · simp [Matched, install, Session.setScreen, clear, verifying]
  · simp [Matched, install, Session.setScreen, Session.setModal, clear, verifying, mainMenu]
  · simp [Matched, install, Session.setScreen, Session.setModal, clear, verifying, mainMenu]
  · simp [Matched, install, Session.setScreen, clear, verifying]

theorem matched_pollVerify (state : VerifyFormState)
    (matched : session.app.verifyWorker.isSome = verifying (.verifyForm state)) :
    Matched (install (pollVerifyWorker session state)) := by
  cases attached : session.app.verifyWorker with
  | none =>
      rw [attached] at matched
      have idle : state.status = .idle := by simpa [verifying] using matched.symm
      simp [pollVerifyWorker, attached, Matched, install, Session.setScreen, verifying, idle]
  | some worker =>
      rw [attached] at matched
      have running : state.status ≠ .idle := by simpa [verifying] using matched.symm
      simp only [pollVerifyWorker, attached]
      split
      · rfl
      · rfl
      · rfl
      · simpa [Matched, install, Session.setScreen, Session.setVerifyWorker, verifying]
          using running
      · rfl

theorem matched_poll (matched : Matched session) : Matched (pollWorkers session) := by
  have none_ : verifying session.app.screen = false →
      (session.setScreen mainMenu).app.verifyWorker = none := by
    intro idle
    change session.app.verifyWorker = none
    rw [Matched, idle] at matched
    simpa using matched
  simp only [pollWorkers]
  split
  · rename_i state screen
    exact matched_pollLock (none_ (by rw [screen]; rfl)) state
  · rename_i state screen
    exact matched_pollUnlock (none_ (by rw [screen]; rfl)) state
  · rename_i state screen
    rw [Matched, screen] at matched
    exact matched_pollVerify state matched
  · exact matched

end Polls

section Threads
variable {session : Session}

theorem matched_onUnlockChannel (matched : Matched session) (worker : WorkerId)
    (change : Channel UnlockWorkerEvent → Channel UnlockWorkerEvent) :
    Matched (onUnlockChannel session worker change) := by
  unfold onUnlockChannel
  split
  · rename_i state screen
    split
    · rw [Matched, screen] at matched
      exact matched
    · exact matched
  · exact matched

theorem matched_onLockChannel (matched : Matched session)
    (change : Channel LockWorkerEvent → Channel LockWorkerEvent) :
    Matched (onLockChannel session change) := by
  unfold onLockChannel
  split
  · rename_i state screen
    rw [Matched, screen] at matched
    exact matched
  · exact matched

theorem matched_onVerifyChannel (matched : Matched session)
    (change : Channel VerifyWorkerEvent → Channel VerifyWorkerEvent) :
    Matched (onVerifyChannel session change) := by
  simpa [Matched, onVerifyChannel, Session.setVerifyWorker] using matched

end Threads

theorem matched_next {system after : System} (matched : Matched system.session) {event : Event}
    (step : next system event = some after) : Matched after.session := by
  cases event with
  | progress worker status =>
      simp only [next] at step
      split at step
      · cases step
        exact matched_onUnlockChannel matched worker _
      · cases step
  | ask worker attempt maxAttempts failed =>
      simp only [next] at step
      split at step
      · split at step
        · cases step
          exact matched_onUnlockChannel matched worker _
        · cases step
          exact matched
      · cases step
  | notice worker =>
      simp only [next] at step
      split at step
      · split at step
        · cases step
          exact matched
        · cases step
      · cases step
  | receive worker =>
      simp only [next] at step
      split at step
      · split at step
        · cases step
          exact matched
        · cases step
      · cases step
  | hangUp worker =>
      simp only [next] at step
      split at step
      · split at step
        · cases step
          exact matched
        · cases step
      · cases step
  | finish worker result =>
      simp only [next] at step
      split at step
      · cases step
        exact matched_onUnlockChannel matched worker _
      · cases step
  | exit worker =>
      simp only [next] at step
      split at step
      · cases step
        exact matched_onUnlockChannel matched worker _
      · cases step
  | lockSends event =>
      cases step
      exact matched_onLockChannel matched _
  | lockExits =>
      cases step
      exact matched_onLockChannel matched _
  | verifySends event =>
      cases step
      exact matched_onVerifyChannel matched _
  | verifyExits =>
      cases step
      exact matched_onVerifyChannel matched _
  | poll =>
      simp only [next] at step
      split at step
      · cases step
      · cases step
        exact matched_poll matched
  | key key answer =>
      simp only [next] at step
      split at step
      · cases step
      · cases step
        exact matched_onKey matched key answer

theorem matched_reached {system : System} (reached : Leads start system) :
    Matched system.session := by
  induction reached with
  | refl => rfl
  | tail _ step ih =>
      obtain ⟨event, taken⟩ := step
      exact matched_next ih taken

def attached (session : Session) : List WorkerId :=
  (match session.app.screen with
    | .lockProgress state => [state.worker.id]
    | .unlockProgress state => [state.worker.id]
    | _ => []) ++ session.app.verifyWorker.toList.map Worker.id

structure Attended (session : Session) : Prop where
  counted : (attached session).length = if isRunning session.app.screen then 1 else 0
  started : ∀ worker ∈ attached session, worker < session.spawned
  live : ∀ worker, session.threads worker = .running ∨
    (∃ request, session.threads worker = .waiting request) → attached session = [worker]
  prompted : ∀ state, session.app.modal = some (.passwordPrompt state) →
    session.threads state.reply.worker = .waiting state.reply ∧
      attached session = [state.reply.worker]

theorem counted_matched {session : Session} (matched : Matched session) :
    (attached session).length = if isRunning session.app.screen then 1 else 0 := by
  have size : session.app.verifyWorker.toList.length =
      if verifying session.app.screen then 1 else 0 := by
    rw [← matched]
    cases session.app.verifyWorker <;> rfl
  simp only [attached, List.length_append, List.length_map, size]
  cases session.app.screen <;> simp [isRunning, verifying]

theorem attached_served {session : Session} (matched : Matched session) {worker : WorkerId}
    {queue : List (Message RequestId)} (served : deskOf session.app.screen = some ⟨worker, queue⟩) :
    attached session = [worker] := by
  cases screen : session.app.screen with
  | unlockProgress state =>
      rw [Matched, screen] at matched
      have clear : session.app.verifyWorker = none := by simpa [verifying] using matched
      simp only [screen, deskOf, Option.some.injEq, Desk.mk.injEq] at served
      simp [attached, screen, clear, served.1]
  | _ => simp [screen, deskOf] at served

/-- In every reachable state the session holds the receiver of one worker if its screen shows
one running and of none otherwise, and a live unlock thread is that worker. -/
theorem one_worker (system : System) (reached : Leads start system) :
    Attended system.session := by
  obtain ⟨sound, run⟩ := leads_simulates start_sound start_coherent reached
  have coherent := start_coherent.run run
  have matched := matched_reached reached
  refine ⟨counted_matched matched, ?_, ?_, ?_⟩
  · intro worker held
    rcases List.mem_append.mp held with shown | verifies
    · have screenSound := sound.screen
      cases screen : system.session.app.screen with
      | lockProgress state =>
          rw [screen] at screenSound shown
          rw [List.mem_singleton.mp shown]
          exact screenSound
      | unlockProgress state =>
          rw [screen] at screenSound shown
          rw [List.mem_singleton.mp shown]
          exact screenSound.1
      | _ =>
          rw [screen] at shown
          cases shown
    · obtain ⟨found, is, rfl⟩ := List.mem_map.mp verifies
      exact sound.verify found (Option.mem_toList.mp is)
  · intro worker going
    have live : Live ((abstract system).phase worker) := by
      rcases going with running | ⟨request, waiting⟩
      · simp [abstract, view, running, phaseOf, Live]
      · simp [abstract, view, waiting, phaseOf, Live]
    obtain ⟨queue, served⟩ := coherent.served worker live
    exact attached_served matched served
  · intro state open_
    obtain ⟨_, client, queue, served, waiting, _⟩ := coherent.prompt _ _ (shown_prompt open_)
    have mine : state.reply.worker = client := (coherent.waits client state.reply waiting).1
    have phase : phaseOf (system.session.threads client) = .waiting state.reply := waiting
    rw [mine]
    refine ⟨?_, attached_served matched served⟩
    cases thread : system.session.threads client <;> simp [thread, phaseOf] at phase
    rw [phase]

def verifyRun : List Event :=
  [plainKey .down, plainKey .down, plainKey .down, plainKey .down, plainKey .enter,
    plainKey (.char 'a'), plainKey .tab, plainKey .tab, plainKey .enter, plainKey .esc]

theorem one_worker_verifying :
    ∃ system, steps start verifyRun = some system ∧ attached system.session = [0] ∧
      Attended system.session :=
  ⟨_, rfl, rfl, one_worker _ (leads_steps _ _ verifyRun rfl)⟩

end OneWorker
