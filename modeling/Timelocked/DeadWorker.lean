import Timelocked.KeyEffects
import Timelocked.PromptSystem

/-!
A worker whose thread is gone. The thread sends a list of events and drops its
sender, at any pace between the polls and the keys. A verify worker that is
gone ends its run; a lock or unlock worker that is gone without a result leaves
its screen waiting for ever.
-/
namespace DeadWorker

open Base hiding Event
open Lock Unlock Channels TextFields TuiSession TuiKeys KeyEffects PromptSystem

inductive Kind where
  | lock
  | unlock
  | verify
  deriving DecidableEq, Repr

def EventOf : Kind → Type
  | .lock => LockWorkerEvent
  | .unlock => UnlockWorkerEvent
  | .verify => VerifyWorkerEvent

def finishes : (kind : Kind) → EventOf kind → Bool
  | .lock, .finished _ => true
  | .unlock, .finished _ => true
  | .verify, .finished _ => true
  | _, _ => false

def watched (kind : Kind) (session : Session) : Option (Channel (EventOf kind)) :=
  match kind, session.app.screen with
  | .lock, .lockProgress state => some state.worker.receiver
  | .unlock, .unlockProgress state => some state.worker.receiver
  | .verify, .verifyForm state =>
      if state.status = .idle then none
      else session.app.verifyWorker.map fun worker => worker.receiver
  | _, _ => none

/-- What the thread does to its channel; nothing, if the receiver is dropped. -/
def onWatched (kind : Kind) (session : Session)
    (change : Channel (EventOf kind) → Channel (EventOf kind)) : Session :=
  match kind, session.app.screen with
  | .lock, .lockProgress _ => onLockChannel session change
  | .unlock, .unlockProgress state => onUnlockChannel session state.worker.id change
  | .verify, .verifyForm _ => onVerifyChannel session change
  | _, _ => session

/-- A session and the thread of its worker: what the thread has yet to send, and
whether its sender is dropped. -/
structure Watch (kind : Kind) where
  session : Session
  pending : List (EventOf kind)
  closed : Bool

inductive Input where
  | poll
  | key (key : KeyEvent) (answer : Answer)
  | thread

section Runs
variable {kind : Kind}

def turn (watch : Watch kind) : Input → Watch kind
  | .poll => { watch with session := pollWorkers watch.session }
  | .key key answer => { watch with session := onKey watch.session key answer }
  | .thread =>
      match watch.pending with
      | event :: later =>
          { watch with session := onWatched kind watch.session (send · event), pending := later }
      | [] => { watch with session := onWatched kind watch.session disconnect, closed := true }

def run (watch : Watch kind) (inputs : List Input) : Watch kind := inputs.foldl turn watch

def Running (session : Session) : Prop := isRunning session.app.screen = true

def Drained (watch : Watch kind) : Prop :=
  watch.closed = true ∧
    ∀ channel, watched kind watch.session = some channel → channel.queue = []

/-- Whatever is done while the worker sends its events and is gone, a poll after the
last of them was received leaves the running state. -/
def LeavesRunning (kind : Kind) (session : Session) (events : List (EventOf kind)) : Prop :=
  ∀ inputs, Drained (run ⟨session, events, false⟩ inputs) →
    -- No prompt is left open.
    isPrompt (run ⟨session, events, false⟩ inputs).session.app.modal = false →
    -- No other worker has been started.
    (run ⟨session, events, false⟩ inputs).session.spawned = session.spawned →
    ¬ Running (pollWorkers (run ⟨session, events, false⟩ inputs).session)

end Runs

def Read (kind : Kind) (queue rest : List (EventOf kind)) : Prop :=
  ∃ front, queue = front ++ rest ∧ ∀ event ∈ front, finishes kind event = false

theorem read_start (kind : Kind) (queue : List (EventOf kind)) : Read kind queue queue :=
  ⟨[], rfl, by simp⟩

theorem read_next {kind : Kind} {queue rest : List (EventOf kind)} {event : EventOf kind}
    (read : Read kind queue (event :: rest)) (silent : finishes kind event = false) :
    Read kind queue rest := by
  obtain ⟨front, split, before⟩ := read
  refine ⟨front ++ [event], by simp [split], ?_⟩
  intro other member
  rcases List.mem_append.mp member with early | last
  · exact before other early
  · rw [List.mem_singleton.mp last, silent]

theorem read_member {kind : Kind} {queue rest : List (EventOf kind)} {event : EventOf kind}
    (read : Read kind queue (event :: rest)) : event ∈ queue := by
  obtain ⟨front, split, _⟩ := read
  simp [split]

theorem read_shorter {kind : Kind} {queue rest : List (EventOf kind)} {event : EventOf kind}
    (read : Read kind queue (event :: rest)) : rest.length < queue.length := by
  obtain ⟨front, split, _⟩ := read
  rw [split, List.length_append, List.length_cons]
  omega

def Polled (kind : Kind) (session : Session) (queue : List (EventOf kind)) (connected : Bool) :
    Prop :=
  (¬ Running (pollWorkers session) ∧
      (kind = .verify ∨ ∃ event ∈ queue, finishes kind event = true)) ∨
    ∃ rest, Read kind queue rest ∧ watched kind (pollWorkers session) = some ⟨rest, connected⟩ ∧
      (rest = [] ∨ rest.length < queue.length) ∧ (kind = .verify → connected = true)

section Polls
variable {session : Session}

/-- The loop of a lock poll ends at a result, or with an empty queue. -/
theorem lockLoop (state : LockProgressState) :
    let ended := whileOk lockEvent ⟨state, none⟩ state.worker.receiver
    (ended.1.terminal = none ∧ Read .lock state.worker.receiver.queue [] ∧
        ended.2.queue = []) ∨
      (ended.1.terminal ≠ none ∧
        ∃ event ∈ state.worker.receiver.queue, finishes .lock event = true) := by
  refine whileOk_rule lockEvent
    (fun poll rest => poll.terminal = none ∧ Read .lock state.worker.receiver.queue rest)
    (fun poll rest => (poll.terminal = none ∧ Read .lock state.worker.receiver.queue [] ∧
        rest = []) ∨ (poll.terminal ≠ none ∧
        ∃ event ∈ state.worker.receiver.queue, finishes .lock event = true))
    ?_ ?_ ?_ ⟨state, none⟩ state.worker.receiver ⟨rfl, read_start .lock _⟩
  · exact fun poll held => .inl ⟨held.1, held.2, rfl⟩
  · rintro poll event rest next ⟨open_, read⟩ turn
    cases event with
    | progress status =>
        cases turn
        exact ⟨open_, read_next read rfl⟩
    | finished result => cases turn
  · rintro poll event rest last ⟨open_, read⟩ turn
    cases event with
    | progress status => cases turn
    | finished result =>
        cases turn
        exact .inr ⟨by simp, .finished result, read_member read, rfl⟩

theorem polled_lock (state : LockProgressState) (queue : List LockWorkerEvent)
    (connected : Bool) (screen : session.app.screen = .lockProgress state)
    (receiver : state.worker.receiver = ⟨queue, connected⟩) :
    Polled .lock session queue connected := by
  have loop := lockLoop state
  have kept := whileOk_connected lockEvent ⟨state, none⟩ state.worker.receiver
  have polled : pollWorkers session =
      install (pollLockWorker (session.setScreen mainMenu) state) := by
    simp [pollWorkers, screen]
  simp only [Polled, polled, pollLockWorker, receiver] at loop kept ⊢
  generalize whileOk lockEvent ⟨state, none⟩ ⟨queue, connected⟩ = ended at loop kept ⊢
  obtain ⟨poll, rest, still⟩ := ended
  rcases loop with ⟨open_, read, empty⟩ | ⟨closed, finished⟩
  · simp only at open_ empty kept
    subst empty kept
    simp only [open_]
    exact .inr ⟨[], read, rfl, .inl rfl, nofun⟩
  · refine .inl ⟨?_, .inr finished⟩
    cases result : poll.terminal with
    | none => exact absurd result closed
    | some result =>
        simp only [Running, Bool.not_eq_true]
        split
        · rfl
        · rfl
        · rfl
        · rename_i none_
          cases none_

/-- The loop of an unlock poll also ends at a password request. -/
theorem unlockLoop (session : Session) (state : UnlockProgressState) :
    let ended := whileOk unlockEvent ⟨session, state, none⟩ state.worker.receiver
    (ended.1.terminal = none ∧ Read .unlock state.worker.receiver.queue ended.2.queue ∧
        (ended.2.queue = [] ∨
          ended.2.queue.length < state.worker.receiver.queue.length)) ∨
      (ended.1.terminal ≠ none ∧
        ∃ event ∈ state.worker.receiver.queue, finishes .unlock event = true) := by
  refine whileOk_rule unlockEvent
    (fun poll rest => poll.terminal = none ∧ Read .unlock state.worker.receiver.queue rest)
    (fun poll rest => (poll.terminal = none ∧ Read .unlock state.worker.receiver.queue rest ∧
        (rest = [] ∨ rest.length < state.worker.receiver.queue.length)) ∨
      (poll.terminal ≠ none ∧
        ∃ event ∈ state.worker.receiver.queue, finishes .unlock event = true))
    ?_ ?_ ?_ ⟨session, state, none⟩ state.worker.receiver ⟨rfl, read_start .unlock _⟩
  · exact fun poll held => .inl ⟨held.1, held.2, .inl rfl⟩
  · rintro poll event rest next ⟨open_, read⟩ turn
    cases event with
    | progress status =>
        cases turn
        exact ⟨open_, read_next read rfl⟩
    | passwordRequired attempt maxAttempts failed reply =>
        simp only [unlockEvent] at turn
        split at turn <;> cases turn
    | finished result => cases turn
  · rintro poll event rest last ⟨open_, read⟩ turn
    cases event with
    | progress status => cases turn
    | passwordRequired attempt maxAttempts failed reply =>
        have unfinished : last.terminal = none := by
          simp only [unlockEvent] at turn
          split at turn <;> cases turn <;> exact open_
        exact .inl ⟨unfinished, read_next read rfl, .inr (read_shorter read)⟩
    | finished result =>
        cases turn
        exact .inr ⟨by simp, .finished result, read_member read, rfl⟩

theorem polled_unlock (state : UnlockProgressState) (queue : List UnlockWorkerEvent)
    (connected : Bool) (screen : session.app.screen = .unlockProgress state)
    (receiver : state.worker.receiver = ⟨queue, connected⟩) :
    Polled .unlock session queue connected := by
  have loop := unlockLoop (session.setScreen mainMenu) state
  have kept := whileOk_connected unlockEvent ⟨session.setScreen mainMenu, state, none⟩
    state.worker.receiver
  have polled : pollWorkers session =
      install (pollUnlockWorker (session.setScreen mainMenu) state) := by
    simp [pollWorkers, screen]
  simp only [Polled, polled, pollUnlockWorker, receiver] at loop kept ⊢
  generalize whileOk unlockEvent ⟨session.setScreen mainMenu, state, none⟩ ⟨queue, connected⟩ =
    ended at loop kept ⊢
  obtain ⟨poll, rest, still⟩ := ended
  rcases loop with ⟨open_, read, shorter⟩ | ⟨closed, finished⟩
  · simp only at open_ kept shorter
    subst kept
    simp only [open_]
    exact .inr ⟨rest, read, rfl, shorter, nofun⟩
  · refine .inl ⟨?_, .inr finished⟩
    cases result : poll.terminal with
    | none => exact absurd result closed
    | some result =>
        simp only [Running, Bool.not_eq_true]
        split
        · rfl
        · rfl
        · rfl
        · rename_i none_
          cases none_

theorem polled_verify (state : VerifyFormState) (worker : Worker VerifyWorkerEvent)
    (queue : List VerifyWorkerEvent) (connected : Bool)
    (screen : session.app.screen = .verifyForm state) (running : state.status ≠ .idle)
    (found : session.app.verifyWorker = some worker)
    (receiver : worker.receiver = ⟨queue, connected⟩) :
    Polled .verify session queue connected := by
  have polled : pollWorkers session =
      install (pollVerifyWorker (session.setScreen mainMenu) state) := by
    simp [pollWorkers, screen]
  have taken : (session.setScreen mainMenu).app.verifyWorker = some worker := found
  unfold Polled
  rw [polled]
  simp only [pollVerifyWorker, taken, receiver, tryRecv]
  cases queue with
  | cons event rest =>
      refine .inl ⟨?_, .inl trivial⟩
      obtain ⟨result⟩ := event
      rw [Running, Bool.not_eq_true]
      cases result with
      | ok response => rfl
      | error reason => cases reason <;> rfl
  | nil =>
      cases connected with
      | false => exact .inl ⟨by rw [Running, Bool.not_eq_true]; rfl, .inl trivial⟩
      | true =>
          refine .inr ⟨[], read_start .verify _, ?_, .inl rfl, fun _ => rfl⟩
          simp [watched, install, Session.setScreen, Session.setVerifyWorker, running]
          rfl

theorem polled (kind : Kind) (queue : List (EventOf kind)) (connected : Bool)
    (held : watched kind session = some ⟨queue, connected⟩) :
    Polled kind session queue connected := by
  cases kind with
  | lock =>
      cases screen : session.app.screen with
      | lockProgress state =>
          simp only [watched, screen] at held
          exact polled_lock state queue connected screen (Option.some.inj held)
      | _ => simp [watched, screen] at held
  | unlock =>
      cases screen : session.app.screen with
      | unlockProgress state =>
          simp only [watched, screen] at held
          exact polled_unlock state queue connected screen (Option.some.inj held)
      | _ => simp [watched, screen] at held
  | verify =>
      cases screen : session.app.screen with
      | verifyForm state =>
          simp only [watched, screen] at held
          split at held
          · cases held
          · rename_i running
            obtain ⟨worker, found, receiver⟩ := Option.map_eq_some_iff.mp held
            exact polled_verify state worker queue connected screen running found receiver
      | _ => simp [watched, screen] at held

/-- A screen that waits for no worker is not made to by a poll. -/
theorem poll_idle (idle : ¬ Running session) : ¬ Running (pollWorkers session) := by
  rw [Running, Bool.not_eq_true] at idle ⊢
  cases screen : session.app.screen with
  | lockProgress state => simp [screen, isRunning] at idle
  | unlockProgress state => simp [screen, isRunning] at idle
  | verifyForm state =>
      have resting : state.status = .idle := by simpa [screen, isRunning] using idle
      simp only [pollWorkers, screen, pollVerifyWorker]
      split
      · simp [install, Session.setScreen, isRunning, resting]
      · split
        · rfl
        · rfl
        · rfl
        · simp [install, Session.setScreen, isRunning, resting]
        · rfl
  | _ => simp [pollWorkers, screen, install, Session.setScreen, isRunning]

theorem unlockEvent_spawned (state : UnlockProgressState) :
    (whileOk unlockEvent ⟨session, state, none⟩ state.worker.receiver).1.session.spawned =
      session.spawned := by
  refine whileOk_rule unlockEvent (fun poll _ => poll.session.spawned = session.spawned)
    (fun poll _ => poll.session.spawned = session.spawned) ?_ ?_ ?_ ⟨session, state, none⟩
    state.worker.receiver rfl
  · exact fun poll same => same
  · intro poll event rest next same turn
    cases event with
    | progress status =>
        cases turn
        exact same
    | passwordRequired attempt maxAttempts failed reply =>
        simp only [unlockEvent] at turn
        split at turn <;> cases turn
    | finished result => cases turn
  · intro poll event rest last same turn
    cases event with
    | progress status => cases turn
    | passwordRequired attempt maxAttempts failed reply =>
        simp only [unlockEvent] at turn
        split at turn <;> cases turn <;> exact same
    | finished result =>
        cases turn
        exact same

/-- A poll starts no worker. -/
theorem poll_spawned : (pollWorkers session).spawned = session.spawned := by
  cases screen : session.app.screen with
  | lockProgress state =>
      simp only [pollWorkers, screen, pollLockWorker]
      split <;> rfl
  | unlockProgress state =>
      have same := @unlockEvent_spawned (session.setScreen mainMenu) state
      simp only [pollWorkers, screen, pollUnlockWorker]
      split <;> exact same
  | verifyForm state =>
      simp only [pollWorkers, screen, pollVerifyWorker]
      split
      · rfl
      · split <;> rfl
  | _ => simp [pollWorkers, screen, install, Session.setScreen]

end Polls

section Keys
variable {session : Session}

structure SameWorker (before after : Session) : Prop where
  running : isRunning after.app.screen = isRunning before.app.screen
  watched : ∀ kind, watched kind after = watched kind before
  spawned : after.spawned = before.spawned

theorem sameWorker_trans {middle after : Session} (first : SameWorker session middle)
    (second : SameWorker middle after) : SameWorker session after :=
  ⟨second.running.trans first.running, fun kind => (second.watched kind).trans (first.watched kind),
    second.spawned.trans first.spawned⟩

theorem sameWorker_setModal (modal : Option Modal) :
    SameWorker session (session.setModal modal) :=
  ⟨rfl, fun kind => by cases kind <;> rfl, rfl⟩

theorem sameWorker_reply (request : RequestId) (result : Except Error String) :
    SameWorker session (session.reply request result) :=
  ⟨rfl, fun kind => by cases kind <;> rfl, rfl⟩

theorem sameWorker_selection (target : BrowserTarget) (path : PathText.Path) :
    SameWorker session (applyBrowserSelection session target path) := by
  unfold applyBrowserSelection
  split
  · rename_i state screen
    refine ⟨by simp [Session.setScreen, isRunning, screen], fun kind => ?_, rfl⟩
    cases kind <;> simp [watched, Session.setScreen, screen]
  · exact ⟨rfl, fun _ => rfl, rfl⟩

theorem sameWorker_browserKey (target : BrowserTarget) (key : KeyEvent)
    (selection : Option PathText.Path) :
    SameWorker session (handleBrowserKey session target key selection).2 := by
  unfold handleBrowserKey
  split
  · exact ⟨rfl, fun _ => rfl, rfl⟩
  · exact sameWorker_selection _ _
  · exact sameWorker_selection _ _
  · exact ⟨rfl, fun _ => rfl, rfl⟩

theorem sameWorker_cancelPrompt (state : PasswordPromptState) :
    SameWorker session (cancelPasswordPrompt state session) := by
  unfold cancelPasswordPrompt
  refine sameWorker_trans (sameWorker_reply state.reply (.error .cancelled)) ?_
  dsimp only
  split
  · rename_i progress screen
    refine ⟨by simp [Session.setScreen, isRunning, screen], fun kind => ?_, rfl⟩
    cases kind <;> simp [watched, Session.setScreen, screen]
  · exact ⟨rfl, fun _ => rfl, rfl⟩

theorem sameWorker_promptKey (state : PasswordPromptState) (key : KeyEvent) :
    SameWorker session (handlePasswordPromptKey state key session).2 := by
  unfold handlePasswordPromptKey
  split
  · exact ⟨rfl, fun _ => rfl, rfl⟩
  · exact ⟨rfl, fun _ => rfl, rfl⟩
  · exact sameWorker_cancelPrompt state
  · split
    · exact sameWorker_cancelPrompt state
    · exact sameWorker_reply _ _
  · split
    · exact ⟨rfl, fun _ => rfl, rfl⟩
    · exact ⟨rfl, fun _ => rfl, rfl⟩

theorem sameWorker_modalKey (modal : Modal) (key : KeyEvent) (answer : Answer) :
    SameWorker session (handleModalKey modal key answer session) := by
  have taken : SameWorker session (session.setModal none) := sameWorker_setModal none
  cases modal with
  | error message =>
      simp only [handleModalKey]
      split
      · exact taken
      · exact sameWorker_trans taken (sameWorker_setModal _)
  | info message =>
      simp only [handleModalKey]
      split
      · exact taken
      · exact sameWorker_trans taken (sameWorker_setModal _)
  | browser target =>
      exact sameWorker_trans (sameWorker_trans taken (sameWorker_browserKey _ _ _))
        (sameWorker_setModal _)
  | passwordPrompt state =>
      exact sameWorker_trans (sameWorker_trans taken (sameWorker_promptKey _ _))
        (sameWorker_setModal _)

theorem watched_running {kind : Kind} {channel : Channel (EventOf kind)}
    (held : watched kind session = some channel) : isRunning session.app.screen = true := by
  cases kind with
  | lock =>
      cases screen : session.app.screen with
      | lockProgress state => rfl
      | _ => simp [watched, screen] at held
  | unlock =>
      cases screen : session.app.screen with
      | unlockProgress state => rfl
      | _ => simp [watched, screen] at held
  | verify =>
      cases screen : session.app.screen with
      | verifyForm state =>
          simp only [watched, screen] at held
          split at held
          · cases held
          · rename_i running
            simpa [isRunning] using running
      | _ => simp [watched, screen] at held

/-- A key on a screen that waits for a worker keeps it. -/
theorem effect_running {handled : Screen × Session}
    (effect : KeyEffect (session.setScreen mainMenu) session.app.screen handled)
    (running : isRunning session.app.screen = true) : SameWorker session (install handled) := by
  generalize shown : session.app.screen = screen at effect running
  cases effect with
  | moves _ after idle still => simp [idle] at running
  | notes _ after modal idle still plain => simp [idle] at running
  | quits state => cases running
  | focusesLock state focus =>
      refine ⟨by simp [install, Session.setScreen, isRunning, shown], fun kind => ?_, rfl⟩
      cases kind <;> simp [watched, install, Session.setScreen, shown]
  | cancelsLock state focus =>
      refine ⟨by simp [install, Session.setScreen, isRunning, shown], fun kind => ?_, rfl⟩
      cases kind <;> simp [watched, install, Session.setScreen, shown]
  | focusesUnlock state focus =>
      refine ⟨by simp [install, Session.setScreen, isRunning, shown], fun kind => ?_, rfl⟩
      cases kind <;> simp [watched, install, Session.setScreen, shown]
  | cancelsUnlock state focus =>
      refine ⟨by simp [install, Session.setScreen, isRunning, shown], fun kind => ?_, rfl⟩
      cases kind <;> simp [watched, install, Session.setScreen, shown]
  | focusesVerify state after waiting same =>
      refine ⟨by simp [install, Session.setScreen, isRunning, shown, same], fun kind => ?_, rfl⟩
      cases kind <;> simp [watched, install, Session.setScreen, shown, same]
  | cancelsVerify state worker waiting found =>
      refine ⟨by simp [install, Session.setScreen, isRunning, shown, waiting], fun kind => ?_, rfl⟩
      cases kind <;>
        simp [watched, install, Session.setScreen, Session.cancel, shown, waiting]
  | startsLock _ inputDisplay outputDisplay idle => simp [idle] at running
  | startsUnlock _ fileDisplay estimate idle => simp [idle] at running
  | startsVerify state idle => simp [isRunning, idle] at running

/-- A key on any other screen waits for no worker but one it has started. -/
theorem effect_idle {handled : Screen × Session}
    (effect : KeyEffect (session.setScreen mainMenu) session.app.screen handled)
    (idle : isRunning session.app.screen = false) :
    (isRunning (install handled).app.screen = false ∧
        (install handled).spawned = session.spawned) ∨
      session.spawned < (install handled).spawned := by
  generalize shown : session.app.screen = screen at effect idle
  cases effect with
  | moves _ after was still => exact .inl ⟨still, rfl⟩
  | notes _ after modal was still plain => exact .inl ⟨still, rfl⟩
  | quits state => exact .inl ⟨rfl, rfl⟩
  | focusesLock state focus => cases idle
  | cancelsLock state focus => cases idle
  | focusesUnlock state focus => cases idle
  | cancelsUnlock state focus => cases idle
  | focusesVerify state after waiting same => simp [isRunning, waiting] at idle
  | cancelsVerify state worker waiting found => simp [isRunning, waiting] at idle
  | startsLock _ inputDisplay outputDisplay was => exact .inr (Nat.lt_succ_self _)
  | startsUnlock _ fileDisplay estimate was => exact .inr (Nat.lt_succ_self _)
  | startsVerify state was => exact .inr (Nat.lt_succ_self _)

theorem onKey_running (key : KeyEvent) (answer : Answer)
    (running : isRunning session.app.screen = true) :
    SameWorker session (onKey session key answer) := by
  unfold onKey
  split
  · exact ⟨rfl, fun kind => by cases kind <;> rfl, rfl⟩
  · split
    · exact sameWorker_modalKey _ key answer
    · exact effect_running (screenKey_effect _ key _ answer) running

theorem onKey_idle (key : KeyEvent) (answer : Answer)
    (idle : isRunning session.app.screen = false) :
    (isRunning (onKey session key answer).app.screen = false ∧
        (onKey session key answer).spawned = session.spawned) ∨
      session.spawned < (onKey session key answer).spawned := by
  unfold onKey
  split
  · exact .inl ⟨idle, rfl⟩
  · split
    · rename_i modal open_
      have same := @sameWorker_modalKey session modal key answer
      exact .inl ⟨same.running.trans idle, same.spawned⟩
    · exact effect_idle (screenKey_effect _ key _ answer) idle

def escape : KeyEvent := ⟨.esc, KeyModifiers.none⟩

/-- `Esc` closes whatever modal is open. -/
theorem escape_closes (answer : Answer) :
    isPrompt (onKey session escape answer).app.modal = false := by
  have noQuit : isQuitKey escape = false := rfl
  simp only [onKey, noQuit, Bool.false_eq_true, if_false]
  cases open_ : session.app.modal with
  | some modal => cases modal <;> rfl
  | none =>
      have clear : isPrompt session.app.modal = false := by rw [open_]; rfl
      have effect := screenKey_effect (session.setScreen mainMenu) escape session.app.screen answer
      generalize session.app.screen = screen at effect ⊢
      generalize handleScreenKey screen escape answer (session.setScreen mainMenu) = handled
        at effect
      cases effect with
      | notes _ after modal idle still plain => exact plain
      | _ => exact clear

theorem onKey_spawned (key : KeyEvent) (answer : Answer) :
    session.spawned ≤ (onKey session key answer).spawned := by
  cases running : isRunning session.app.screen with
  | true => exact Nat.le_of_eq (onKey_running key answer running).spawned.symm
  | false =>
      rcases onKey_idle key answer running with ⟨_, same⟩ | started
      · exact Nat.le_of_eq same.symm
      · exact Nat.le_of_lt started

end Keys

section Thread
variable {kind : Kind} {session : Session}

theorem onWatched_watched (change : Channel (EventOf kind) → Channel (EventOf kind)) :
    watched kind (onWatched kind session change) = (watched kind session).map change := by
  cases kind with
  | lock =>
      cases screen : session.app.screen with
      | lockProgress state =>
          simp only [watched, onWatched, onLockChannel, Session.setScreen, screen]
          rfl
      | _ => simp [watched, onWatched, screen]
  | unlock =>
      cases screen : session.app.screen with
      | unlockProgress state =>
          simp only [watched, onWatched, onUnlockChannel, Session.setScreen, screen, if_true]
          rfl
      | _ => simp [watched, onWatched, screen]
  | verify =>
      cases screen : session.app.screen with
      | verifyForm state =>
          simp only [watched, onWatched, onVerifyChannel, Session.setVerifyWorker, screen]
          split
          · rfl
          · cases session.app.verifyWorker <;> rfl
      | _ => simp [watched, onWatched, screen]

theorem onWatched_running (change : Channel (EventOf kind) → Channel (EventOf kind)) :
    isRunning (onWatched kind session change).app.screen = isRunning session.app.screen := by
  cases kind <;> cases screen : session.app.screen <;>
    simp [onWatched, onLockChannel, onUnlockChannel, onVerifyChannel, Session.setScreen,
      Session.setVerifyWorker, isRunning, screen]

theorem onWatched_spawned (change : Channel (EventOf kind) → Channel (EventOf kind)) :
    (onWatched kind session change).spawned = session.spawned := by
  cases kind <;> cases screen : session.app.screen <;>
    simp [onWatched, onLockChannel, onUnlockChannel, onVerifyChannel, Session.setScreen,
      Session.setVerifyWorker, screen]

end Thread

section Following
variable {kind : Kind} (events : List (EventOf kind)) (spawned : Nat)

/-- The worker is still waited for, and no result has been read of what it sent. -/
def Follows (watch : Watch kind) : Prop :=
  ∃ queue, Read kind events (queue ++ watch.pending) ∧
    watched kind watch.session = some ⟨queue, !watch.closed⟩

structure Watching (watch : Watch kind) : Prop where
  sent : watch.closed = true → watch.pending = []
  state : spawned < watch.session.spawned ∨
    (watch.session.spawned = spawned ∧
      (isRunning watch.session.app.screen = false ∨ Follows events watch))

theorem watching_poll {watch : Watch kind} (watching : Watching events spawned watch) :
    Watching events spawned (turn watch .poll) := by
  refine ⟨watching.sent, ?_⟩
  simp only [turn, poll_spawned]
  refine watching.state.imp_right fun ⟨same, waits⟩ => ⟨same, ?_⟩
  rcases waits with idle | ⟨queue, read, held⟩
  · have still := @poll_idle watch.session (by simp [Running, idle])
    exact .inl (by simpa [Running] using still)
  · rcases polled kind queue (!watch.closed) held with ⟨left, _⟩ | ⟨rest, taken, held', _⟩
    · exact .inl (by simpa [Running] using left)
    · obtain ⟨front, split, silent⟩ := read
      obtain ⟨more, split', silent'⟩ := taken
      refine .inr ⟨rest, ⟨front ++ more, by simp [split, split'], ?_⟩, held'⟩
      intro event member
      exact (List.mem_append.mp member).elim (silent event) (silent' event)

theorem watching_key {watch : Watch kind} (watching : Watching events spawned watch)
    (key : KeyEvent) (answer : Answer) :
    Watching events spawned (turn watch (.key key answer)) := by
  refine ⟨watching.sent, ?_⟩
  rcases watching.state with started | ⟨same, idle | ⟨queue, read, held⟩⟩
  · exact .inl (Nat.lt_of_lt_of_le started (onKey_spawned key answer))
  · rcases onKey_idle key answer idle with ⟨still, unchanged⟩ | started
    · exact .inr ⟨unchanged.trans same, .inl still⟩
    · exact .inl (by rwa [same] at started)
  · have kept := onKey_running key answer (watched_running held)
    exact .inr ⟨kept.spawned.trans same, .inr ⟨queue, read, (kept.watched kind).trans held⟩⟩

theorem watching_thread {watch : Watch kind} (watching : Watching events spawned watch) :
    Watching events spawned (turn watch .thread) := by
  obtain ⟨sent, state⟩ := watching
  obtain ⟨session, pending, closed⟩ := watch
  cases pending with
  | cons event later =>
      have going : closed = false := by
        cases closed with
        | false => rfl
        | true => cases sent rfl
      subst going
      refine ⟨nofun, ?_⟩
      simp only [turn, onWatched_spawned, onWatched_running]
      refine state.imp_right fun ⟨same, waits⟩ => ⟨same, waits.imp_right ?_⟩
      rintro ⟨queue, read, held⟩
      exact ⟨queue ++ [event], by simpa using read, by
        simp only at held
        simp [onWatched_watched, held, send]⟩
  | nil =>
      refine ⟨fun _ => rfl, ?_⟩
      simp only [turn, onWatched_spawned, onWatched_running]
      refine state.imp_right fun ⟨same, waits⟩ => ⟨same, waits.imp_right ?_⟩
      rintro ⟨queue, read, held⟩
      exact ⟨queue, read, by
        simp only at held
        simp [onWatched_watched, held, disconnect]⟩

theorem watching_run {watch : Watch kind} (watching : Watching events spawned watch)
    (inputs : List Input) : Watching events spawned (run watch inputs) := by
  induction inputs generalizing watch with
  | nil => exact watching
  | cons input later ih =>
      cases input with
      | poll => exact ih (watching_poll events spawned watching)
      | key key answer => exact ih (watching_key events spawned watching key answer)
      | thread => exact ih (watching_thread events spawned watching)

end Following

section Results
variable {kind : Kind} {session : Session}

/-- A result among the events, or the verify screen, is enough. -/
theorem leaves_running (fresh : watched kind session = some channel)
    (events : List (EventOf kind))
    (ends : kind = .verify ∨ ∃ event ∈ events, finishes kind event = true) :
    LeavesRunning kind session events := by
  intro inputs drained _ unchanged
  have started : Watching events session.spawned ⟨session, events, false⟩ :=
    ⟨nofun, .inr ⟨rfl, .inr ⟨[], read_start kind events, fresh⟩⟩⟩
  obtain ⟨sent, state⟩ := watching_run events session.spawned started inputs
  generalize run ⟨session, events, false⟩ inputs = last at drained unchanged sent state
  obtain ⟨closed, empty⟩ := drained
  rcases state with later | ⟨_, idle | ⟨queue, read, held⟩⟩
  · exact absurd unchanged (Nat.ne_of_gt later)
  · exact poll_idle (by simp [Running, idle])
  · have none_ : queue = [] := empty _ held
    rw [closed, none_] at held
    rcases polled kind [] false held with ⟨left, _⟩ | ⟨_, _, _, _, alive⟩
    · exact left
    · -- All the events have been read, and none was a result.
      rcases ends with verify | ⟨event, member, finish⟩
      · cases alive verify
      · obtain ⟨front, split, silent⟩ := read
        rw [none_, sent closed, List.append_nil, List.append_nil] at split
        rw [split] at member
        rw [silent event member] at finish
        cases finish

/-- The thread sends what it has and drops its sender. -/
theorem run_threads (events : List (EventOf kind)) (session : Session)
    (queue : List (EventOf kind)) (held : watched kind session = some ⟨queue, true⟩) :
    ∃ after, run ⟨session, events, false⟩ (List.replicate (events.length + 1) .thread) =
        ⟨after, [], true⟩ ∧
      watched kind after = some ⟨queue ++ events, false⟩ ∧ after.spawned = session.spawned := by
  induction events generalizing session queue with
  | nil =>
      refine ⟨onWatched kind session disconnect, rfl, ?_, onWatched_spawned _⟩
      simp [onWatched_watched, held, disconnect]
  | cons event later ih =>
      have sent : watched kind (onWatched kind session (send · event)) =
          some ⟨queue ++ [event], true⟩ := by
        simp [onWatched_watched, held, send]
      obtain ⟨after, ran, last, same⟩ := ih _ _ sent
      exact ⟨after, ran, by simpa using last, same.trans (onWatched_spawned _)⟩

/-- Polls read what is queued and stay, if none of it is a result. -/
theorem run_polls (background : kind ≠ .verify) (queue : List (EventOf kind))
    (silent : ∀ event ∈ queue, finishes kind event = false) (count : Nat)
    (session : Session) (held : watched kind session = some ⟨queue, false⟩) :
    ∃ after rest, run (⟨session, [], true⟩ : Watch kind) (List.replicate count .poll) =
        ⟨after, [], true⟩ ∧
      watched kind after = some ⟨rest, false⟩ ∧
      (∀ event ∈ rest, finishes kind event = false) ∧ rest.length ≤ queue.length - count ∧
      after.spawned = session.spawned := by
  induction count generalizing session queue with
  | zero => exact ⟨session, queue, rfl, held, silent, Nat.le_refl _, rfl⟩
  | succ count ih =>
      rcases polled kind queue false held with ⟨_, verify | ⟨event, member, finish⟩⟩ |
        ⟨rest, ⟨front, split, _⟩, left, shorter, _⟩
      · exact absurd verify background
      · rw [silent event member] at finish
        cases finish
      · have still : ∀ event ∈ rest, finishes kind event = false := fun event member =>
          silent event (by simp [split, member])
        obtain ⟨after, rest', ran, last, silent', length, same⟩ := ih rest still _ left
        refine ⟨after, rest', ran, last, silent', ?_, same.trans poll_spawned⟩
        rcases shorter with none_ | less
        · rw [none_, List.length_nil, Nat.zero_sub] at length
          omega
        · omega

/-- Without a result the screen is never left. -/
theorem stays_running (fresh : watched kind session = some channel)
    (events : List (EventOf kind)) (background : kind ≠ .verify)
    (silent : ∀ event ∈ events, finishes kind event = false) :
    ¬ LeavesRunning kind session events := by
  intro leaves
  obtain ⟨sent, ran, held, same⟩ := run_threads events session [] fresh
  obtain ⟨after, rest, polls, left, silent', length, same'⟩ :=
    run_polls background events silent events.length sent held
  have none_ : rest = [] := List.eq_nil_of_length_eq_zero (by omega)
  subst none_
  -- The last key answers a prompt that a poll has opened.
  have closing := onKey_running escape ⟨.stays, none, .ok ()⟩ (watched_running left)
  generalize escaped : onKey after escape ⟨.stays, none, .ok ()⟩ = last at closing
  have whole : run ⟨session, events, false⟩
      (List.replicate (events.length + 1) .thread ++
        (List.replicate events.length .poll ++ [.key escape ⟨.stays, none, .ok ()⟩])) =
      (⟨last, [], true⟩ : Watch kind) := by
    rw [run, List.foldl_append, List.foldl_append]
    have polled_ := (congrArg (run · (List.replicate events.length .poll)) ran).trans polls
    rw [← escaped]
    exact congrArg (turn · (.key escape ⟨.stays, none, .ok ()⟩)) polled_
  have waiting : watched kind last = some ⟨[], false⟩ := (closing.watched kind).trans left
  have gone := leaves _ (by
    rw [whole]
    refine ⟨rfl, fun found there => ?_⟩
    rw [waiting] at there
    cases there
    rfl) (by
    rw [whole, ← escaped]
    exact escape_closes _) (by
    rw [whole]
    exact closing.spawned.trans (same'.trans same))
  rw [whole] at gone
  rcases polled kind [] false waiting with ⟨_, verify | ⟨event, member, _⟩⟩ | ⟨_, _, waits, _⟩
  · exact background verify
  · cases member
  · exact gone (watched_running waits)

/-- A worker that is gone is noticed exactly if it is a verify worker or has sent a
result. -/
theorem dead_worker_iff (kind : Kind) (session : Session) (events : List (EventOf kind))
    (fresh : watched kind session = some channel) :
    LeavesRunning kind session events ↔
      kind = .verify ∨ ∃ event ∈ events, finishes kind event = true := by
  constructor
  · intro leaves
    by_contra neither
    rw [not_or, not_exists] at neither
    refine stays_running fresh events neither.1 (fun event member => ?_) leaves
    simpa [member] using neither.2 event
  · exact leaves_running fresh events

end Results

def lockStarted : Session :=
  onKey (Session.new.setScreen .lockTextForm) ⟨.enter, KeyModifiers.none⟩
    ⟨.startsLock "inline text" "note.timelocked", none, .ok ()⟩

theorem dead_worker_iff_lock :
    watched .lock lockStarted = some channel ∧
      (LeavesRunning .lock lockStarted [.finished (.error .cancelled)] ↔
        Kind.lock = .verify ∨ ∃ event ∈ [LockWorkerEvent.finished (.error .cancelled)],
          finishes .lock event = true) :=
  ⟨rfl, dead_worker_iff .lock lockStarted [.finished (.error .cancelled)] rfl⟩

/-- The thread panics before it sends anything. -/
theorem dead_lock_worker_stays :
    ¬ ∀ (kind : Kind) (session : Session) (events : List (EventOf kind)),
      watched kind session = some channel → LeavesRunning kind session events := by
  intro leaves
  have gone := leaves .lock lockStarted [] rfl [.thread, .poll] (by
    refine ⟨rfl, fun found there => ?_⟩
    cases there
    rfl) rfl rfl
  exact gone rfl

end DeadWorker
