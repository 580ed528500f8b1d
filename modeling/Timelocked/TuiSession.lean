import Mathlib.Logic.Function.Basic
import Timelocked.Channels
import Timelocked.TextFields
import Timelocked.LockForms
import Timelocked.Unlock

/-!
The terminal session: its screens, its modal, the workers it polls and the keys
it takes, from `src/userinterfaces/tui`. A worker is known by a number, which
also names the cancellation flag it shares with its thread. A reply sender is
known by the request it was made for. What the fields of a form, the file
system or the file manager decide comes with each key, as its answer.
-/
namespace TuiSession

open Base PathText Lock Unlock Channels TextFields

abbrev WorkerId := Nat

/-- The sender of the reply channel of one password request. -/
structure RequestId where
  worker : WorkerId
  serial : Nat
  deriving DecidableEq, Repr

structure ProgressStatus where
  phase : String
  current : UInt64
  total : UInt64
  pct : Float
  etaSeconds : Option UInt64
  ratePerSecond : Option Float

namespace ProgressStatus

def percent (current total : UInt64) : Float :=
  if total = 0 then 0.0
  else
    let ratio := current.toFloat / total.toFloat * 100.0
    if ratio < 0.0 then 0.0 else if 100.0 < ratio then 100.0 else ratio

def new (phase : String) (current total : UInt64) (etaSeconds : Option UInt64)
    (ratePerSecond : Option Float) : ProgressStatus :=
  ⟨phase, current, total, percent current total, etaSeconds, ratePerSecond⟩

end ProgressStatus

structure VerifyResponse where
  path : Path
  chunkCount : UInt64
  payloadPlaintextBytes : UInt64
  deriving DecidableEq, Repr

/-! `worker.rs`: what the threads send. -/

inductive LockWorkerEvent where
  | progress (status : ProgressStatus)
  | finished (result : Except Error LockResponse)

inductive UnlockWorkerEvent where
  | progress (status : ProgressStatus)
  | passwordRequired (attempt maxAttempts : UInt8) (previousAttemptFailed : Bool)
      (reply : RequestId)
  | finished (result : Except Error UnlockResponse)

inductive VerifyWorkerEvent where
  | finished (result : Except Error VerifyResponse)

structure Worker (Event : Type) where
  id : WorkerId
  receiver : Channel Event

inductive Thread where
  | absent
  | running
  /-- Inside the password provider, on the reply channel of a request. -/
  | waiting (request : RequestId)
  /-- The result is sent and the sender not yet dropped. -/
  | leaving
  | ended
  deriving DecidableEq, Repr

structure Reply where
  request : RequestId
  result : Except Error String

/-! `screen_state.rs`, and the states of the screens. -/

structure MainMenuState where
  selected : Nat
  deriving DecidableEq, Repr

inductive ProgressFocus where
  | progress
  | cancel
  deriving DecidableEq, Repr

structure LockProgressState where
  inputDisplay : String
  outputDisplay : String
  progress : ProgressStatus
  worker : Worker LockWorkerEvent
  cancelRequested : Bool
  focus : ProgressFocus

structure UnlockProgressState where
  fileDisplay : String
  progress : ProgressStatus
  worker : Worker UnlockWorkerEvent
  cancelRequested : Bool
  focus : ProgressFocus

inductive LockCompleteFocus where
  | inspect
  | verify
  | done
  deriving DecidableEq, Repr

structure LockCompleteState where
  outputPath : Path
  payloadBytes : UInt64
  inputDisplay : String
  outputDisplay : String
  progress : ProgressStatus
  focus : LockCompleteFocus

inductive UnlockCompleteFocus where
  | openFolder
  | done
  deriving DecidableEq, Repr

structure UnlockCompleteState where
  recoveredPayload : RecoveredPayload
  recoveredBytes : Nat
  focus : UnlockCompleteFocus
  deriving DecidableEq, Repr

inductive VerifyRunState where
  | idle
  | running
  | cancelling
  deriving DecidableEq, Repr

inductive VerifyFocus where
  | inputPath
  | browseInput
  | verify
  | cancel
  deriving DecidableEq, Repr

structure VerifyFormState where
  inputPath : TextField
  focus : VerifyFocus
  status : VerifyRunState
  deriving DecidableEq, Repr

inductive VerifyDetailsFocus where
  | done
  deriving DecidableEq, Repr

structure VerifyDetailsState where
  response : VerifyResponse
  focus : VerifyDetailsFocus
  deriving DecidableEq, Repr

inductive Screen where
  | mainMenu (state : MainMenuState)
  | lockFileForm
  | lockTextForm
  | lockProgress (state : LockProgressState)
  | lockComplete (state : LockCompleteState)
  | unlockForm
  | unlockProgress (state : UnlockProgressState)
  | unlockComplete (state : UnlockCompleteState)
  | inspectForm
  | inspectDetails
  | verifyForm (state : VerifyFormState)
  | verifyDetails (state : VerifyDetailsState)

inductive BrowserTarget where
  | lockFileInput
  | unlockInput
  | unlockOutputDir
  | inspectInput
  | verifyInput
  deriving DecidableEq, Repr

inductive PasswordPromptFocus where
  | password
  | unlock
  | cancel
  deriving DecidableEq, Repr

namespace PasswordPromptFocus

def next : PasswordPromptFocus → PasswordPromptFocus
  | .password => .unlock
  | .unlock => .cancel
  | .cancel => .password

def prev : PasswordPromptFocus → PasswordPromptFocus
  | .password => .cancel
  | .unlock => .password
  | .cancel => .unlock

end PasswordPromptFocus

structure PasswordPromptState where
  password : SecretTextField
  focus : PasswordPromptFocus
  attempt : UInt8
  maxAttempts : UInt8
  previousAttemptFailed : Bool
  reply : RequestId
  deriving DecidableEq

inductive Modal where
  | error (message : String)
  | info (message : String)
  | browser (target : BrowserTarget)
  | passwordPrompt (state : PasswordPromptState)
  deriving DecidableEq

structure App where
  screen : Screen
  modal : Option Modal
  shouldQuit : Bool
  verifyWorker : Option (Worker VerifyWorkerEvent)

/-- The application with what lies around it: the cancellation flags, the
threads of the unlock workers, the workers spawned and the replies sent. -/
structure Session where
  app : App
  tokens : WorkerId → Bool
  threads : WorkerId → Thread
  spawned : Nat
  sent : List Reply

namespace Session

def new : Session :=
  ⟨⟨.mainMenu ⟨0⟩, none, false, none⟩, fun _ => false, fun _ => .absent, 0, []⟩

def setScreen (session : Session) (screen : Screen) : Session :=
  { session with app := { session.app with screen := screen } }

def setModal (session : Session) (modal : Option Modal) : Session :=
  { session with app := { session.app with modal := modal } }

def setVerifyWorker (session : Session) (worker : Option (Worker VerifyWorkerEvent)) : Session :=
  { session with app := { session.app with verifyWorker := worker } }

def quit (session : Session) : Session :=
  { session with app := { session.app with shouldQuit := true } }

def cancel (session : Session) (worker : WorkerId) : Session :=
  { session with tokens := Function.update session.tokens worker true }

def reply (session : Session) (request : RequestId) (result : Except Error String) : Session :=
  { session with sent := session.sent ++ [⟨request, result⟩] }

def spawn (session : Session) : WorkerId × Session :=
  (session.spawned,
    { session with
      tokens := Function.update session.tokens session.spawned false
      spawned := session.spawned + 1 })

end Session

def spawnLockWorker (session : Session) : Worker LockWorkerEvent × Session :=
  let (id, session) := session.spawn
  (⟨id, channel⟩, session)

def spawnUnlockWorker (session : Session) : Worker UnlockWorkerEvent × Session :=
  let (id, session) := session.spawn
  (⟨id, channel⟩, { session with threads := Function.update session.threads id .running })

def spawnVerifyWorker (session : Session) : Worker VerifyWorkerEvent × Session :=
  let (id, session) := session.spawn
  (⟨id, channel⟩, session)

def mainMenu : Screen := .mainMenu ⟨0⟩

/-! `progress_screens.rs`. -/

def newLockProgressScreen (inputDisplay outputDisplay : String)
    (worker : Worker LockWorkerEvent) : Screen :=
  .lockProgress
    ⟨inputDisplay, outputDisplay, ProgressStatus.new "starting" 0 1 none none, worker, false,
      .progress⟩

def newUnlockProgressScreen (fileDisplay : String) (estimatedDurationSeconds : Option UInt64)
    (worker : Worker UnlockWorkerEvent) : Screen :=
  .unlockProgress
    ⟨fileDisplay, ProgressStatus.new "unlock-timelock" 0 1 estimatedDurationSeconds none, worker,
      false, .progress⟩

/-! `worker_poll.rs`. The calibration poll changes the estimates of the unlock
form only, which no function here reads. -/

def completedLockProgress (progress : ProgressStatus) : ProgressStatus :=
  let phase := if progress.phase = "starting" then "lock-encrypt" else progress.phase
  let total := max (max progress.total progress.current) 1
  ProgressStatus.new phase total total (some 0) progress.ratePerSecond

structure LockPoll where
  state : LockProgressState
  terminal : Option (Except Error LockResponse)

def lockEvent (poll : LockPoll) : LockWorkerEvent → ForInStep LockPoll
  | .progress status => .yield { poll with state := { poll.state with progress := status } }
  | .finished result => .done { poll with terminal := some result }

def pollLockWorker (session : Session) (state : LockProgressState) : Screen × Session :=
  let (poll, receiver) := whileOk lockEvent ⟨state, none⟩ state.worker.receiver
  let state := { poll.state with worker := { poll.state.worker with receiver := receiver } }
  match poll.terminal with
  | some (.ok response) =>
      (.lockComplete
        ⟨response.outputPath, response.payloadBytes, state.inputDisplay,
          describePath response.outputPath, completedLockProgress state.progress, .inspect⟩,
        session)
  | some (.error .cancelled) =>
      (mainMenu, session.setModal (some (.info "Lock operation cancelled.")))
  | some (.error err) => (mainMenu, session.setModal (some (.error (describe err))))
  | none => (.lockProgress state, session)

structure UnlockPoll where
  session : Session
  state : UnlockProgressState
  terminal : Option (Except Error UnlockResponse)

def unlockEvent (poll : UnlockPoll) : UnlockWorkerEvent → ForInStep UnlockPoll
  | .progress status => .yield { poll with state := { poll.state with progress := status } }
  | .passwordRequired attempt maxAttempts previousAttemptFailed reply =>
      if poll.state.cancelRequested || poll.session.tokens poll.state.worker.id then
        .done { poll with session := poll.session.reply reply (.error .cancelled) }
      else
        -- Whatever modal is open is overwritten.
        .done { poll with
          session := poll.session.setModal (some (.passwordPrompt
            ⟨SecretTextField.default, .password, attempt, maxAttempts, previousAttemptFailed,
              reply⟩)) }
  | .finished result => .done { poll with terminal := some result }

def completeFocus : RecoveredPayload → UnlockCompleteFocus
  | .text _ => .done
  | .file _ => .openFolder

def pollUnlockWorker (session : Session) (state : UnlockProgressState) : Screen × Session :=
  let (poll, receiver) := whileOk unlockEvent ⟨session, state, none⟩ state.worker.receiver
  let state := { poll.state with worker := { poll.state.worker with receiver := receiver } }
  match poll.terminal with
  | some (.ok response) =>
      (.unlockComplete
        ⟨response.recoveredPayload, response.recoveredBytes,
          completeFocus response.recoveredPayload⟩,
        poll.session)
  | some (.error .cancelled) =>
      (mainMenu, poll.session.setModal (some (.info "Unlock operation cancelled.")))
  | some (.error err) => (mainMenu, poll.session.setModal (some (.error (describe err))))
  | none => (.unlockProgress state, poll.session)

def pollVerifyWorker (session : Session) (state : VerifyFormState) : Screen × Session :=
  match session.app.verifyWorker with
  | none =>
      (.verifyForm (if state.status ≠ .idle then { state with status := .idle } else state),
        session)
  | some worker =>
      let session := session.setVerifyWorker none
      let idle := { state with status := .idle }
      match tryRecv worker.receiver with
      | (.ok (.finished (.ok response)), _) => (.verifyDetails ⟨response, .done⟩, session)
      | (.ok (.finished (.error .cancelled)), _) =>
          (.verifyForm idle,
            session.setModal (some (.info "Structural verification cancelled.")))
      | (.ok (.finished (.error err)), _) =>
          (.verifyForm idle, session.setModal (some (.error (describe err))))
      | (.error .empty, receiver) =>
          (.verifyForm state, session.setVerifyWorker (some { worker with receiver := receiver }))
      | (.error .disconnected, _) =>
          (.verifyForm idle, session.setModal (some (.error
            "Structural verification worker disconnected unexpectedly.")))

/-- While a screen is handled a main menu stands in its place. -/
def install (handled : Screen × Session) : Session := handled.2.setScreen handled.1

def pollWorkers (session : Session) : Session :=
  let taken := session.setScreen mainMenu
  match session.app.screen with
  | .lockProgress state => install (pollLockWorker taken state)
  | .unlockProgress state => install (pollUnlockWorker taken state)
  | .verifyForm state => install (pollVerifyWorker taken state)
  | other => install (other, taken)

end TuiSession
