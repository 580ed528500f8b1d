import Timelocked.Base
import Timelocked.Channels

/-!
The rate of this machine, measured at most once a session: `app_state/session.rs`,
the thread of `worker.rs` that measures it early, and the calibration service. A
rate that is known is never measured again nor replaced, so whatever asks for it
during one session is told the same.
-/
namespace Calibration

open Base Channels

def calibrateCurrentMachine (measured : UInt64) : Except Error UInt64 :=
  if measured = 0 then .error (.invalidArgument "machine calibration produced zero iterations")
  else .ok measured

structure SessionCalibration where
  iterationsPerSecond : Option UInt64
  worker : Option (Channel (Except Error UInt64))
  prewarmStarted : Bool

namespace SessionCalibration

def new : SessionCalibration := ⟨none, none, false⟩

def cacheSessionCalibration (calibration : SessionCalibration) (rate : UInt64) :
    UInt64 × SessionCalibration :=
  (rate, { calibration with iterationsPerSecond := some rate })

def tryCompleteSessionCalibration (calibration : SessionCalibration) :
    Option UInt64 × SessionCalibration :=
  match calibration.worker with
  | none => (none, calibration)
  | some receiver =>
      let taken := { calibration with worker := none }
      match tryRecv receiver with
      | (.ok (.ok rate), _) =>
          let (rate, cached) := taken.cacheSessionCalibration rate
          (some rate, cached)
      | (.ok (.error _), _) => (none, taken)
      | (.error .empty, receiver) => (none, { taken with worker := some receiver })
      | (.error .disconnected, _) => (none, taken)

def startSessionCalibrationPrewarm (calibration : SessionCalibration) : SessionCalibration :=
  if calibration.prewarmStarted || calibration.iterationsPerSecond.isSome ||
      calibration.worker.isSome then calibration
  else { calibration with prewarmStarted := true, worker := some channel }

def onFrameRendered (onMainMenu : Bool) (calibration : SessionCalibration) :
    SessionCalibration :=
  if onMainMenu then calibration.startSessionCalibrationPrewarm else calibration

/-- `recv` on the channel of a thread that has sent nothing yet: what it sends, if it sends. -/
def receive (receiver : Channel (Except Error UInt64)) (awaited : Option UInt64) :
    Option (Except Error UInt64) :=
  match receiver.queue with
  | result :: _ => some result
  | [] => if receiver.connected then awaited.map calibrateCurrentMachine else none

/-- `calibrate::execute` in the session itself. -/
def measureSessionCalibration (calibration : SessionCalibration) (measured : UInt64) :
    Except Error UInt64 × SessionCalibration :=
  match calibrateCurrentMachine measured with
  | .ok rate =>
      let (rate, cached) := calibration.cacheSessionCalibration rate
      (.ok rate, cached)
  | .error err => (.error err, calibration)

/-- The thread measures `awaited` where it is waited for, the session itself `measured`. -/
def ensureSessionCalibration (awaited : Option UInt64) (measured : UInt64)
    (calibration : SessionCalibration) : Except Error UInt64 × SessionCalibration :=
  match calibration.iterationsPerSecond with
  | some rate => (.ok rate, calibration)
  | none =>
      match calibration.tryCompleteSessionCalibration with
      | (some rate, completed) => (.ok rate, completed)
      | (none, tried) =>
          match tried.worker with
          | none => tried.measureSessionCalibration measured
          | some receiver =>
              let taken := { tried with worker := none }
              match receive receiver awaited with
              | some (.ok rate) =>
                  let (rate, cached) := taken.cacheSessionCalibration rate
                  (.ok rate, cached)
              | _ => taken.measureSessionCalibration measured

def calibrationForEstimate (calibration : SessionCalibration) :
    Option UInt64 × SessionCalibration :=
  match calibration.iterationsPerSecond with
  | some rate => (some rate, calibration)
  | none => calibration.tryCompleteSessionCalibration

def estimateCalibrationForPath (pathExists : Bool) (calibration : SessionCalibration) :
    Option UInt64 × SessionCalibration :=
  if pathExists then calibration.calibrationForEstimate
  else (calibration.iterationsPerSecond, calibration)

end SessionCalibration

open SessionCalibration

/-- What the thread may send, and a rate known only once no thread is waited for. -/
structure Sound (calibration : SessionCalibration) : Prop where
  known : ∀ rate ∈ calibration.iterationsPerSecond, rate ≠ 0 ∧ calibration.worker = none
  sent : ∀ receiver ∈ calibration.worker, ∀ result ∈ receiver.queue, result ≠ .ok 0
  started : calibration.worker.isSome = true → calibration.prewarmStarted = true

def dropped (calibration : SessionCalibration) : SessionCalibration :=
  { calibration with worker := none }

def cached (calibration : SessionCalibration) (rate : UInt64) : SessionCalibration :=
  { calibration with iterationsPerSecond := some rate, worker := none }

inductive Asked (calibration : SessionCalibration) :
    Option UInt64 → SessionCalibration → Prop where
  | known (rate : UInt64) (known : calibration.iterationsPerSecond = some rate) :
      Asked calibration (some rate) calibration
  | pending (unknown : calibration.iterationsPerSecond = none) : Asked calibration none calibration
  | failed (unknown : calibration.iterationsPerSecond = none) :
      Asked calibration none (dropped calibration)
  | learnt (rate : UInt64) (positive : rate ≠ 0)
      (unknown : calibration.iterationsPerSecond = none) :
      Asked calibration (some rate) (cached calibration rate)

theorem calibrateCurrentMachine_ne (measured : UInt64) :
    calibrateCurrentMachine measured ≠ .ok 0 := by
  unfold calibrateCurrentMachine
  split
  · exact fun same => by cases same
  · rename_i positive
    exact fun same => positive (Except.ok.inj same)

theorem calibrateCurrentMachine_pos (measured rate : UInt64)
    (calibrated : calibrateCurrentMachine measured = .ok rate) : rate ≠ 0 := by
  rintro rfl
  exact calibrateCurrentMachine_ne measured calibrated

section Asking
variable {calibration : SessionCalibration}

theorem dropped_of_none (there : calibration.worker = none) :
    dropped calibration = calibration := by
  rw [dropped, ← there]

theorem tryComplete_asked (sound : Sound calibration)
    (unknown : calibration.iterationsPerSecond = none) :
    Asked calibration calibration.tryCompleteSessionCalibration.1
      calibration.tryCompleteSessionCalibration.2 := by
  unfold tryCompleteSessionCalibration
  cases there : calibration.worker with
  | none => exact .pending unknown
  | some receiver =>
      cases queued : receiver.queue with
      | nil =>
          cases live : receiver.connected with
          | true =>
              have same : { calibration with worker := some receiver } = calibration := by
                rw [← there]
              simp only [tryRecv, queued, live, if_true, same]
              exact .pending unknown
          | false =>
              simp only [tryRecv, queued, live]
              exact .failed unknown
      | cons result rest =>
          simp only [tryRecv, queued]
          cases result with
          | error err => exact .failed unknown
          | ok rate =>
              refine .learnt rate ?_ unknown
              rintro rfl
              exact sound.sent receiver there (.ok 0) (by simp [queued]) rfl

theorem asked_nothing {after : SessionCalibration} (asked : Asked calibration none after) :
    after = calibration ∨ after = dropped calibration := by
  cases asked with
  | pending _ => exact .inl rfl
  | failed _ => exact .inr rfl

theorem asked_dropped (unknown : calibration.iterationsPerSecond = none)
    (answer : Option UInt64) (after : SessionCalibration)
    (asked : Asked (dropped calibration) answer after) : Asked calibration answer after := by
  cases asked with
  | known rate known =>
      rw [show (dropped calibration).iterationsPerSecond = none from unknown] at known
      cases known
  | pending _ => exact .failed unknown
  | failed _ => exact .failed unknown
  | learnt rate positive _ => exact .learnt rate positive unknown

/-- Without its thread, the session measures. -/
theorem measure_dropped (measured : UInt64) (unknown : calibration.iterationsPerSecond = none) :
    Asked calibration ((dropped calibration).measureSessionCalibration measured).1.toOption
      ((dropped calibration).measureSessionCalibration measured).2 := by
  refine asked_dropped unknown _ _ ?_
  unfold measureSessionCalibration
  cases calibrated : calibrateCurrentMachine measured with
  | error err => exact .pending unknown
  | ok rate => exact .learnt rate (calibrateCurrentMachine_pos measured rate calibrated) unknown

theorem receive_pos (sound : Sound calibration) (receiver : Channel (Except Error UInt64))
    (there : calibration.worker = some receiver) (awaited : Option UInt64) (rate : UInt64)
    (received : receive receiver awaited = some (.ok rate)) : rate ≠ 0 := by
  unfold receive at received
  cases queued : receiver.queue with
  | nil =>
      rw [queued] at received
      cases live : receiver.connected with
      | false => simp [live] at received
      | true =>
          simp only [live, if_true, Option.map_eq_some_iff] at received
          obtain ⟨measured, _, calibrated⟩ := received
          exact calibrateCurrentMachine_pos measured rate calibrated
  | cons result rest =>
      rw [queued] at received
      obtain rfl := Option.some.inj received
      rintro rfl
      exact sound.sent receiver there (.ok 0) (by simp [queued]) rfl

theorem ensure_asked (awaited : Option UInt64) (measured : UInt64) (sound : Sound calibration) :
    Asked calibration (calibration.ensureSessionCalibration awaited measured).1.toOption
      (calibration.ensureSessionCalibration awaited measured).2 := by
  unfold ensureSessionCalibration
  cases known : calibration.iterationsPerSecond with
  | some rate => exact .known rate known
  | none =>
      have alone := @measure_dropped calibration measured known
      have asked := tryComplete_asked sound known
      rcases tried : calibration.tryCompleteSessionCalibration with ⟨answer, after⟩
      rw [tried] at asked
      cases answer with
      | some rate => exact asked
      | none =>
          have left : after = calibration ∨ after = dropped calibration := asked_nothing asked
          rcases left with same | same
          · subst same
            cases there : after.worker with
            | none =>
                rw [dropped_of_none there] at alone
                simpa [there] using alone
            | some receiver =>
                simp only [there]
                split
                · rename_i rate received
                  exact .learnt rate (receive_pos sound receiver there awaited rate received) known
                · exact alone
          · subst same
            exact alone

theorem estimate_asked (pathExists : Bool) (sound : Sound calibration) :
    Asked calibration (calibration.estimateCalibrationForPath pathExists).1
      (calibration.estimateCalibrationForPath pathExists).2 := by
  unfold estimateCalibrationForPath calibrationForEstimate
  cases known : calibration.iterationsPerSecond with
  | some rate => split <;> exact .known rate known
  | none =>
      split
      · exact tryComplete_asked sound known
      · exact .pending known

end Asking

structure CalibrationSystem where
  calibration : SessionCalibration
  /-- The threads started. -/
  started : Nat
  /-- The rates handed out. -/
  answers : List UInt64

inductive CalibrationEvent where
  /-- The thread has measured, and sends the result. -/
  | sends (measured : UInt64)
  | exits
  | frame (onMainMenu : Bool)
  | poll
  | ensure (awaited : Option UInt64) (measured : UInt64)
  | estimate (pathExists : Bool)

namespace CalibrationSystem

def new : CalibrationSystem := ⟨SessionCalibration.new, 0, []⟩

def answered (system : CalibrationSystem) (answer : Option UInt64)
    (calibration : SessionCalibration) : CalibrationSystem :=
  { system with calibration := calibration, answers := answer.toList ++ system.answers }

def onWorker (calibration : SessionCalibration)
    (change : Channel (Except Error UInt64) → Channel (Except Error UInt64)) :
    SessionCalibration :=
  { calibration with worker := calibration.worker.map change }

def next (system : CalibrationSystem) : CalibrationEvent → CalibrationSystem
  | .sends measured =>
      { system with
        calibration := onWorker system.calibration (send · (calibrateCurrentMachine measured)) }
  | .exits => { system with calibration := onWorker system.calibration disconnect }
  | .frame onMainMenu =>
      let rendered := system.calibration.onFrameRendered onMainMenu
      let starts := rendered.worker.isSome && !system.calibration.worker.isSome
      { system with calibration := rendered, started := system.started + starts.toNat }
  | .poll =>
      let (answer, calibration) := system.calibration.tryCompleteSessionCalibration
      system.answered answer calibration
  | .ensure awaited measured =>
      let (answer, calibration) := system.calibration.ensureSessionCalibration awaited measured
      system.answered answer.toOption calibration
  | .estimate pathExists =>
      let (answer, calibration) := system.calibration.estimateCalibrationForPath pathExists
      system.answered answer calibration

end CalibrationSystem

open CalibrationSystem

def run (system : CalibrationSystem) (events : List CalibrationEvent) : CalibrationSystem :=
  events.foldl next system

structure Once (system : CalibrationSystem) : Prop where
  sound : Sound system.calibration
  one : system.started = system.calibration.prewarmStarted.toNat
  same : ∀ rate ∈ system.answers, system.calibration.iterationsPerSecond = some rate

section Steps
variable {calibration after : SessionCalibration} {answer : Option UInt64}

theorem asked_sound (sound : Sound calibration) (asked : Asked calibration answer after) :
    Sound after ∧ after.prewarmStarted = calibration.prewarmStarted := by
  cases asked with
  | known rate _ => exact ⟨sound, rfl⟩
  | pending _ => exact ⟨sound, rfl⟩
  | failed unknown =>
      refine ⟨⟨?_, ?_, ?_⟩, rfl⟩
      · intro rate known
        rw [show (dropped calibration).iterationsPerSecond = none from unknown] at known
        cases known
      · rintro _ ⟨⟩
      · rintro ⟨⟩
  | learnt rate positive _ =>
      refine ⟨⟨?_, ?_, ?_⟩, rfl⟩
      · rintro _ ⟨⟩
        exact ⟨positive, rfl⟩
      · rintro _ ⟨⟩
      · rintro ⟨⟩

/-- What is known stays known, and it is what is answered. -/
theorem asked_kept (asked : Asked calibration answer after) :
    (∀ rate, calibration.iterationsPerSecond = some rate →
      after.iterationsPerSecond = some rate) ∧
      ∀ rate ∈ answer, after.iterationsPerSecond = some rate := by
  cases asked with
  | known rate known =>
      refine ⟨fun _ there => there, ?_⟩
      rintro _ ⟨⟩
      exact known
  | pending _ => exact ⟨fun _ there => there, fun _ given => by cases given⟩
  | failed _ => exact ⟨fun _ there => there, fun _ given => by cases given⟩
  | learnt rate _ unknown =>
      refine ⟨fun other there => ?_, ?_⟩
      · rw [unknown] at there
        cases there
      · rintro _ ⟨⟩
        rfl

theorem answered_once (system : CalibrationSystem) (once : Once system)
    (asked : Asked system.calibration answer after) : Once (system.answered answer after) := by
  obtain ⟨sound, prewarm⟩ := asked_sound once.sound asked
  obtain ⟨kept, given⟩ := asked_kept asked
  refine ⟨sound, ?_, ?_⟩
  · rw [show (system.answered answer after).started = system.started from rfl, once.one]
    exact congrArg Bool.toNat prewarm.symm
  · intro rate member
    rcases List.mem_append.mp member with now | before
    · exact given rate (Option.mem_toList.mp now)
    · exact kept rate (once.same rate before)

theorem poll_asked (sound : Sound calibration) :
    Asked calibration calibration.tryCompleteSessionCalibration.1
      calibration.tryCompleteSessionCalibration.2 ∨
      calibration.tryCompleteSessionCalibration = (none, calibration) := by
  cases known : calibration.iterationsPerSecond with
  | none => exact .inl (tryComplete_asked sound known)
  | some rate =>
      have alone := (sound.known rate known).2
      simp [tryCompleteSessionCalibration, alone]

end Steps

theorem onWorker_once (system : CalibrationSystem)
    (change : Channel (Except Error UInt64) → Channel (Except Error UInt64))
    (sends : ∀ receiver, ∀ result ∈ (change receiver).queue,
      result ∈ receiver.queue ∨ result ≠ .ok 0)
    (once : Once system) :
    Once { system with calibration := onWorker system.calibration change } := by
  refine ⟨⟨?_, ?_, ?_⟩, once.one, once.same⟩
  · intro rate known
    obtain ⟨positive, alone⟩ := once.sound.known rate known
    refine ⟨positive, ?_⟩
    rw [onWorker, alone]
    rfl
  · intro changed there result member
    obtain ⟨receiver, before, rfl⟩ := Option.map_eq_some_iff.mp there
    rcases sends receiver result member with queued | fine
    · exact once.sound.sent receiver before result queued
    · exact fine
  · intro waited
    exact once.sound.started (by simpa [onWorker] using waited)

theorem frame_once (system : CalibrationSystem) (onMainMenu : Bool) (once : Once system) :
    Once (next system (.frame onMainMenu)) := by
  have still : Once { system with
      calibration := system.calibration
      started := system.started +
        (system.calibration.worker.isSome && !system.calibration.worker.isSome).toNat } := by
    have none_ : (system.calibration.worker.isSome &&
        !system.calibration.worker.isSome) = false := by simp
    rw [none_]
    exact once
  simp only [next, onFrameRendered]
  split
  · unfold startSessionCalibrationPrewarm
    split
    · exact still
    · rename_i first
      simp only [Bool.or_eq_true, not_or, Bool.not_eq_true, Option.isSome_eq_false_iff,
        Option.isNone_iff_eq_none] at first
      obtain ⟨⟨unstarted, unknown⟩, alone⟩ := first
      have before := once.one
      rw [unstarted] at before
      refine ⟨⟨?_, ?_, fun _ => rfl⟩, ?_, once.same⟩
      · intro rate known
        rw [show (_ : Option UInt64) = none from unknown] at known
        cases known
      · rintro _ ⟨⟩ result member
        cases member
      · simp [before, alone]
  · exact still

theorem next_once (system : CalibrationSystem) (event : CalibrationEvent) (once : Once system) :
    Once (next system event) := by
  cases event with
  | sends measured =>
      refine onWorker_once system _ ?_ once
      intro receiver result member
      rcases List.mem_append.mp member with queued | sent
      · exact .inl queued
      · rw [List.mem_singleton.mp sent]
        exact .inr (calibrateCurrentMachine_ne measured)
  | exits => exact onWorker_once system _ (fun receiver result member => .inl member) once
  | frame onMainMenu => exact frame_once system onMainMenu once
  | poll =>
      rcases poll_asked once.sound with asked | still
      · exact answered_once system once asked
      · rw [next, still]
        exact once
  | ensure awaited measured =>
      exact answered_once system once (ensure_asked awaited measured once.sound)
  | estimate pathExists =>
      exact answered_once system once (estimate_asked pathExists once.sound)

theorem run_once (events : List CalibrationEvent) (system : CalibrationSystem)
    (once : Once system) : Once (run system events) := by
  induction events generalizing system with
  | nil => exact once
  | cons event later ih => exact ih (next system event) (next_once system event once)

theorem new_once : Once CalibrationSystem.new := by
  refine ⟨⟨?_, ?_, ?_⟩, rfl, ?_⟩
  · rintro _ ⟨⟩
  · rintro _ ⟨⟩
  · rintro ⟨⟩
  · rintro _ ⟨⟩

/-- Whatever the order of its frames, its polls, its questions and its thread, a session starts at
most one thread to measure, and every rate it is ever told is the one it still keeps. -/
theorem one_rate (events : List CalibrationEvent) :
    (run CalibrationSystem.new events).started ≤ 1 ∧
      ∀ rate ∈ (run CalibrationSystem.new events).answers,
        rate ≠ 0 ∧
          (run CalibrationSystem.new events).calibration.iterationsPerSecond = some rate := by
  have once := run_once events CalibrationSystem.new new_once
  constructor
  · rw [once.one]
    exact Bool.toNat_le _
  · intro rate told
    have kept := once.same rate told
    exact ⟨(once.sound.known rate kept).1, kept⟩

end Calibration
