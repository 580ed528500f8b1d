import Timelocked.Dialogue
import Timelocked.TuiKeys

/-!
The password prompt between the session and the threads of its unlock workers.
The system takes steps of a thread, polls and keys in any order. Seen from
outside it is a dialogue: the screen is the desk, the prompt is the request
shown, and a prompt's text is edited as a line.
-/
namespace PromptSystem

open Base Lock Unlock Channels LineEditor TextFields TuiSession TuiKeys Dialogue

structure Entry where
  line : Line Char
  focus : PasswordPromptFocus

def pressKey (entry : Entry) (key : KeyEvent) : Entry :=
  match key.code with
  | .tab => { entry with focus := entry.focus.next }
  | .backTab => { entry with focus := entry.focus.prev }
  | .esc => entry
  | .enter => entry
  | _ => if entry.focus = .password then { entry with line := edited entry.line key } else entry

def rules : Rules WorkerId RequestId KeyEvent Entry String where
  asker := RequestId.worker
  blank := ⟨LineEditor.blank, .password⟩
  press := pressKey
  read entry := String.ofList (contents entry.line)

structure System where
  session : Session
  /-- How many requests each worker has made. -/
  issued : WorkerId → Nat
  /-- The keys each prompt has taken. -/
  pressed : RequestId → List KeyEvent

inductive Event where
  | progress (worker : WorkerId) (status : ProgressStatus)
  | ask (worker : WorkerId) (attempt maxAttempts : UInt8) (previousAttemptFailed : Bool)
  | notice (worker : WorkerId)
  | receive (worker : WorkerId)
  | hangUp (worker : WorkerId)
  | finish (worker : WorkerId) (result : Except Error UnlockResponse)
  | exit (worker : WorkerId)
  | lockSends (event : LockWorkerEvent)
  | lockExits
  | verifySends (event : VerifyWorkerEvent)
  | verifyExits
  | poll
  | key (key : KeyEvent) (answer : Answer)

def start : System := ⟨Session.new, fun _ => 0, fun _ => []⟩

def heard (session : Session) (worker : WorkerId) : Bool :=
  match session.app.screen with
  | .unlockProgress state => state.worker.id = worker
  | _ => false

def onUnlockChannel (session : Session) (worker : WorkerId)
    (change : Channel UnlockWorkerEvent → Channel UnlockWorkerEvent) : Session :=
  match session.app.screen with
  | .unlockProgress state =>
      if state.worker.id = worker then
        session.setScreen (.unlockProgress
          { state with worker := { state.worker with receiver := change state.worker.receiver } })
      else session
  | _ => session

def onLockChannel (session : Session)
    (change : Channel LockWorkerEvent → Channel LockWorkerEvent) : Session :=
  match session.app.screen with
  | .lockProgress state =>
      session.setScreen (.lockProgress
        { state with worker := { state.worker with receiver := change state.worker.receiver } })
  | _ => session

def onVerifyChannel (session : Session)
    (change : Channel VerifyWorkerEvent → Channel VerifyWorkerEvent) : Session :=
  session.setVerifyWorker
    (session.app.verifyWorker.map fun worker => { worker with receiver := change worker.receiver })

def setThread (session : Session) (worker : WorkerId) (thread : Thread) : Session :=
  { session with threads := Function.update session.threads worker thread }

def heldReplies (session : Session) : List RequestId :=
  (match session.app.screen with
    | .unlockProgress state =>
        state.worker.receiver.queue.filterMap fun
          | .passwordRequired _ _ _ reply => some reply
          | _ => none
    | _ => []) ++
  (match session.app.modal with
    | some (.passwordPrompt state) => [state.reply]
    | _ => [])

def replied (session : Session) (request : RequestId) : Bool :=
  session.sent.any fun reply => reply.request = request

def recordKey (system : System) (key : KeyEvent) : RequestId → List KeyEvent :=
  match system.session.app.modal with
  | some (.passwordPrompt state) =>
      if isQuitKey key then system.pressed
      else Function.update system.pressed state.reply (system.pressed state.reply ++ [key])
  | _ => system.pressed

/-- A thread does the next thing it can do where it is; the session is polled and
takes keys until it quits. -/
def next (system : System) : Event → Option System
  | .progress worker status =>
      if system.session.threads worker = .running then
        some { system with
          session := onUnlockChannel system.session worker (send · (.progress status)) }
      else none
  | .ask worker attempt maxAttempts previousAttemptFailed =>
      if system.session.threads worker = .running then
        if heard system.session worker then
          let request : RequestId := ⟨worker, system.issued worker⟩
          some { system with
            session := setThread
              (onUnlockChannel system.session worker
                (send · (.passwordRequired attempt maxAttempts previousAttemptFailed request)))
              worker (.waiting request)
            issued := Function.update system.issued worker (system.issued worker + 1) }
        -- The send fails and the provider returns `Cancelled`.
        else some system
      else none
  | .notice worker =>
      match system.session.threads worker with
      | .waiting _ =>
          if system.session.tokens worker then
            some { system with session := setThread system.session worker .running }
          else none
      | _ => none
  | .receive worker =>
      match system.session.threads worker with
      | .waiting request =>
          if replied system.session request then
            some { system with session := setThread system.session worker .running }
          else none
      | _ => none
  | .hangUp worker =>
      match system.session.threads worker with
      | .waiting request =>
          if request ∉ heldReplies system.session ∧ ¬ replied system.session request then
            some { system with session := setThread system.session worker .running }
          else none
      | _ => none
  | .finish worker result =>
      if system.session.threads worker = .running then
        some { system with
          session := setThread
            (onUnlockChannel system.session worker (send · (.finished result))) worker .leaving }
      else none
  | .exit worker =>
      -- From `running` the thread unwinds.
      if system.session.threads worker = .running ∨ system.session.threads worker = .leaving then
        some { system with
          session := setThread (onUnlockChannel system.session worker disconnect) worker .ended }
      else none
  | .lockSends event =>
      some { system with session := onLockChannel system.session (send · event) }
  | .lockExits => some { system with session := onLockChannel system.session disconnect }
  | .verifySends event =>
      some { system with session := onVerifyChannel system.session (send · event) }
  | .verifyExits => some { system with session := onVerifyChannel system.session disconnect }
  | .poll =>
      if system.session.app.shouldQuit then none
      else some { system with session := pollWorkers system.session }
  | .key key answer =>
      if system.session.app.shouldQuit then none
      else some { system with
        session := onKey system.session key answer, pressed := recordKey system key }

def Takes (before after : System) : Prop := ∃ event, next before event = some after

abbrev Leads := Relation.ReflTransGen Takes

def steps (system : System) : List Event → Option System
  | [] => some system
  | event :: later => (next system event).bind fun after => steps after later

theorem leads_steps (system after : System) (events : List Event)
    (ran : steps system events = some after) : Leads system after := by
  induction events generalizing system with
  | nil =>
      cases ran
      exact .refl
  | cons event later ih =>
      obtain ⟨middle, first, rest⟩ := Option.bind_eq_some_iff.mp ran
      exact .head ⟨event, first⟩ (ih middle rest)

def phaseOf : Thread → Phase RequestId
  | .absent => .absent
  | .running => .running
  | .waiting request => .waiting request
  | .leaving => .ended
  | .ended => .ended

def messageOf : UnlockWorkerEvent → Message RequestId
  | .progress _ => .notice
  | .passwordRequired _ _ _ reply => .ask reply
  | .finished _ => .finished

def deskOf : Screen → Option (Desk WorkerId RequestId)
  | .unlockProgress state => some ⟨state.worker.id, state.worker.receiver.queue.map messageOf⟩
  | _ => none

def entryOf (state : PasswordPromptState) : Entry := ⟨line state.password.field, state.focus⟩

def shownOf : Option Modal → Option (RequestId × Entry)
  | some (.passwordPrompt state) => some (state.reply, entryOf state)
  | _ => none

def replyOf (reply : Reply) : RequestId × Option String := (reply.request, reply.result.toOption)

def view (session : Session) (pressed : RequestId → List KeyEvent)
    (issued : WorkerId → Nat) :
    State WorkerId RequestId KeyEvent Entry String where
  phase worker := phaseOf (session.threads worker)
  desk := deskOf session.app.screen
  shown := shownOf session.app.modal
  stopped := session.tokens
  sent := session.sent.map replyOf
  pressed := pressed
  issued := { request | request.serial < issued request.worker }

def abstract (system : System) : State WorkerId RequestId KeyEvent Entry String :=
  view system.session system.pressed system.issued

def ScreenSound (session : Session) : Screen → Prop
  | .lockProgress state => state.worker.id < session.spawned
  | .unlockProgress state =>
      state.worker.id < session.spawned ∧
        (state.cancelRequested = true → session.tokens state.worker.id = true)
  | _ => True

def ModalSound : Option Modal → Prop
  | some (.passwordPrompt state) => Plain state.password.field
  | _ => True

structure Sound (session : Session) : Prop where
  fresh : ∀ worker, session.spawned ≤ worker →
    session.threads worker = .absent ∧ session.tokens worker = false
  screen : ScreenSound session session.app.screen
  modal : ModalSound session.app.modal
  verify : ∀ worker ∈ session.app.verifyWorker, worker.id < session.spawned

end PromptSystem
