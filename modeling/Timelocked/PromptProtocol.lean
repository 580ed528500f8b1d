import Timelocked.SessionChanges

/-!
The password protocol between the session and the threads of its unlock workers.
Every step of the system is a run of the dialogue, so what holds of every
dialogue holds here: a waiting worker can still be woken, a request has one
reply, a password is what was entered for it, and none follows a cancellation.
-/
namespace PromptProtocol

open Base hiding Event
open Lock Unlock Channels TextFields TuiSession TuiKeys Dialogue PromptSystem SessionChanges

/-- Enter submits what was shown before it. -/
theorem pressKey_enter (entry : Entry) (key : KeyEvent) (enter : key.code = .enter) :
    pressKey entry key = entry := by
  simp [pressKey, enter]

section Prompt
variable {system : System} {state : PasswordPromptState}
  (open_ : system.session.app.modal = some (.passwordPrompt state)) (key : KeyEvent)
  (noQuit : isQuitKey key = false)

include open_

theorem shown_prompt : (abstract system).shown = some (state.reply, entryOf state) := by
  simp [abstract, view, open_, shownOf]

include noQuit

theorem recordKey_prompt :
    recordKey system key = Dialogue.press (abstract system) state.reply key := by
  simp [recordKey, open_, noQuit, Dialogue.press, abstract, view]

/-- The prompt stays open. -/
theorem prompt_kept (sound : Sound system.session) (kept : PasswordPromptState)
    (same : kept.reply = state.reply) (plain : Plain kept.password.field)
    (shows : entryOf kept = pressKey (entryOf state) key) :
    Sound (system.session.setModal (some (.passwordPrompt kept))) ∧
      Run rules (abstract system)
        (view (system.session.setModal (some (.passwordPrompt kept))) (recordKey system key)
          system.issued) := by
  refine ⟨⟨sound.fresh, sound.screen, plain, sound.verify⟩, .single ?_⟩
  have pressed : Step rules _ _ := .press (abstract system) state.reply (entryOf state) key
    (shown_prompt open_)
  rw [recordKey_prompt open_ key noQuit]
  simpa [abstract, view, Session.setModal, shownOf, same, shows, rules] using pressed

theorem prompt_submitted (sound : Sound system.session) (enter : key.code = .enter) :
    Sound ((submitPasswordPrompt state (system.session.setModal none)).setModal none) ∧
      Run rules (abstract system)
        (view ((submitPasswordPrompt state (system.session.setModal none)).setModal none)
          (recordKey system key) system.issued) := by
  refine ⟨⟨sound.fresh, sound.screen, trivial, sound.verify⟩, .single ?_⟩
  have submitted : Step rules _ _ := .submit (abstract system) state.reply (entryOf state) key
    (shown_prompt open_)
  have text : rules.read (rules.press (entryOf state) key) =
      String.ofList state.password.exposeSecret := by
    simp only [rules, pressKey_enter _ key enter, entryOf, contents_line]
    rfl
  rw [text] at submitted
  rw [recordKey_prompt open_ key noQuit]
  simpa [abstract, view, submitPasswordPrompt, Session.reply, Session.setModal, shownOf, replyOf,
    Except.toOption] using submitted

/-- A prompt is cancelled over the screen of its worker. -/
theorem prompt_cancelled (sound : Sound system.session)
    (coherent : Coherent rules (abstract system)) :
    Sound ((cancelPasswordPrompt state (system.session.setModal none)).setModal none) ∧
      Run rules (abstract system)
        (view ((cancelPasswordPrompt state (system.session.setModal none)).setModal none)
          (recordKey system key) system.issued) := by
  obtain ⟨_, client, queue, served, _⟩ := coherent.prompt _ _ (shown_prompt open_)
  have declined : Step rules _ _ := .decline (abstract system) client queue state.reply
    (entryOf state) key served (shown_prompt open_)
  rw [recordKey_prompt open_ key noQuit]
  cases screen : system.session.app.screen with
  | unlockProgress progress =>
      have numbered : progress.worker.id < system.session.spawned := by
        have before := sound.screen
        rw [screen] at before
        exact before.1
      have cancelled := sound_cancel sound progress.worker.id numbered
      simp only [abstract, view, screen, deskOf, Option.some.injEq, Desk.mk.injEq] at served
      obtain ⟨rfl, rfl⟩ := served
      simp only [cancelPasswordPrompt, Session.reply, Session.setModal, screen]
      refine ⟨⟨cancelled.fresh, ⟨numbered, fun _ => Function.update_self ..⟩, trivial,
        cancelled.verify⟩, .single ?_⟩
      simpa [abstract, view, Session.cancel, Session.setScreen, shownOf, replyOf, screen, deskOf,
        Except.toOption] using declined
  | _ => simp [abstract, view, screen, deskOf] at served

theorem promptKey_simulates (sound : Sound system.session)
    (coherent : Coherent rules (abstract system)) (answer : Answer) :
    Sound (handleModalKey (.passwordPrompt state) key answer system.session) ∧
      Run rules (abstract system)
        (view (handleModalKey (.passwordPrompt state) key answer system.session)
          (recordKey system key) system.issued) := by
  have plain : Plain state.password.field := by
    have before := sound.modal
    rw [open_] at before
    exact before
  have kept := prompt_kept open_ key noQuit sound
  simp only [handleModalKey, handlePasswordPromptKey]
  split
  · rename_i tab
    exact kept { state with focus := state.focus.next } rfl plain (by simp [entryOf, pressKey, tab])
  · rename_i backTab
    exact kept { state with focus := state.focus.prev } rfl plain
      (by simp [entryOf, pressKey, backTab])
  · exact prompt_cancelled open_ key noQuit sound coherent
  · rename_i enter
    split
    · exact prompt_cancelled open_ key noQuit sound coherent
    · exact prompt_submitted open_ key noQuit sound enter
  · rename_i tab backTab esc enter
    split
    · rename_i focused
      refine kept { state with password := (state.password.applyKey key).1 } rfl
        (plain_applyKey _ plain key) ?_
      have shows := line_applyKey _ plain key
      simpa [entryOf, pressKey, focused, SecretTextField.applyKey] using shows
    · rename_i unfocused
      refine kept state rfl plain ?_
      simp [entryOf, pressKey, unfocused]

end Prompt

theorem key_simulates {system : System} (sound : Sound system.session)
    (coherent : Coherent rules (abstract system)) (key : KeyEvent) (answer : Answer) :
    Sound (onKey system.session key answer) ∧
      Run rules (abstract system)
        (view (onKey system.session key answer) (recordKey system key) system.issued) := by
  by_cases quits : isQuitKey key = true
  · have recorded : recordKey system key = system.pressed := by
      unfold recordKey
      split
      · simp [quits]
      · rfl
    simp only [onKey, quits, if_true, recorded]
    exact advances_quit _ _ sound
  · have noQuit : isQuitKey key = false := by simpa using quits
    have unrecorded : shownOf system.session.app.modal = none →
        recordKey system key = system.pressed := by
      intro clear
      unfold recordKey
      split
      · rename_i open_
        rw [open_] at clear
        cases clear
      · rfl
    simp only [onKey, noQuit, Bool.false_eq_true, if_false]
    cases modal : system.session.app.modal with
    | none =>
        rw [unrecorded (by rw [modal]; rfl)]
        exact advances_screenKey _ _ modal key answer sound
    | some open_ =>
        cases open_ with
        | passwordPrompt state => exact promptKey_simulates modal key noQuit sound coherent answer
        | error message =>
            rw [unrecorded (by rw [modal]; rfl)]
            exact advances_noteKey _ _ _ key answer modal rfl sound
        | info message =>
            rw [unrecorded (by rw [modal]; rfl)]
            exact advances_noteKey _ _ _ key answer modal rfl sound
        | browser target =>
            rw [unrecorded (by rw [modal]; rfl)]
            exact advances_noteKey _ _ _ key answer modal rfl sound

section Threads
variable {session : Session} {pressed : RequestId → List KeyEvent} {issued : WorkerId → Nat}

theorem sound_setThread (sound : Sound session) (worker : WorkerId) (thread : Thread)
    (started : session.threads worker ≠ .absent) : Sound (setThread session worker thread) := by
  refine ⟨?_, sound.screen, sound.modal, sound.verify⟩
  intro other later
  have different : other ≠ worker := by
    rintro rfl
    exact started (sound.fresh other later).1
  simpa [setThread, Function.update_of_ne different] using sound.fresh other later

theorem view_setThread (worker : WorkerId) (thread : Thread) :
    view (setThread session worker thread) pressed issued =
      { view session pressed issued with
        phase := Function.update (view session pressed issued).phase worker (phaseOf thread) } := by
  have phases : (fun other => phaseOf (Function.update session.threads worker thread other)) =
      Function.update (fun other => phaseOf (session.threads other)) worker (phaseOf thread) := by
    funext other
    by_cases same : other = worker
    · simp [same]
    · simp [Function.update_of_ne same]
  simp [view, setThread, phases]

theorem sound_onUnlockChannel (sound : Sound session) (worker : WorkerId)
    (change : Channel UnlockWorkerEvent → Channel UnlockWorkerEvent) :
    Sound (onUnlockChannel session worker change) := by
  unfold onUnlockChannel
  split
  · rename_i state screen
    have before := sound.screen
    rw [screen] at before
    split
    · exact ⟨sound.fresh, before, sound.modal, sound.verify⟩
    · exact sound
  · exact sound

@[simp] theorem threads_onUnlockChannel (worker : WorkerId)
    (change : Channel UnlockWorkerEvent → Channel UnlockWorkerEvent) :
    (onUnlockChannel session worker change).threads = session.threads := by
  unfold onUnlockChannel
  split
  · split <;> rfl
  · rfl

theorem onUnlockChannel_unheard {worker : WorkerId} (unheard : heard session worker = false)
    (change : Channel UnlockWorkerEvent → Channel UnlockWorkerEvent) :
    onUnlockChannel session worker change = session := by
  unfold heard at unheard
  unfold onUnlockChannel
  split
  · rename_i state screen
    simp only [screen, decide_eq_false_iff_not] at unheard
    rw [if_neg unheard]
  · rfl

/-- What a worker sends is queued at the desk, which is its own. -/
theorem view_send {worker : WorkerId} (heard_ : heard session worker = true)
    (event : UnlockWorkerEvent) :
    ∃ queue, (view session pressed issued).desk = some ⟨worker, queue⟩ ∧
      view (onUnlockChannel session worker (send · event)) pressed issued =
        { view session pressed issued with desk := some ⟨worker, queue ++ [messageOf event]⟩ } := by
  unfold heard at heard_
  split at heard_
  · rename_i state screen
    simp only [decide_eq_true_eq] at heard_
    subst heard_
    exact ⟨state.worker.receiver.queue.map messageOf, by simp [view, screen, deskOf],
      by simp [view, onUnlockChannel, screen, Session.setScreen, deskOf, send]⟩
  · cases heard_

theorem view_disconnect (worker : WorkerId) :
    view (onUnlockChannel session worker disconnect) pressed issued =
      view session pressed issued := by
  unfold onUnlockChannel
  split
  · rename_i state screen
    split
    · simp [view, screen, Session.setScreen, deskOf, disconnect]
    · rfl
  · rfl

theorem asks_messages (queue : List UnlockWorkerEvent) :
    asks (queue.map messageOf) = queue.filterMap fun
      | .passwordRequired _ _ _ reply => some reply
      | _ => none := by
  induction queue with
  | nil => rfl
  | cons event queue ih => cases event <;> simp [messageOf, ih]

theorem heldReplies_eq :
    heldReplies session =
      askedAt (deskOf session.app.screen) ++ shownIn (shownOf session.app.modal) := by
  unfold heldReplies
  congr 1
  · cases session.app.screen with
    | unlockProgress state => exact (asks_messages _).symm
    | _ => rfl
  · cases session.app.modal with
    | none => rfl
    | some modal => cases modal <;> rfl

theorem replied_iff (request : RequestId) :
    replied session request = true ↔ request ∈ answered (session.sent.map replyOf) := by
  simp [replied, answered, replyOf]

end Threads

section Simulation
variable {system after : System}

theorem start_sound : Sound start.session where
  fresh := fun _ _ => ⟨rfl, rfl⟩
  screen := trivial
  modal := trivial
  verify := by
    rintro _ ⟨⟩

theorem start_coherent : Coherent rules (abstract start) := by
  have nothing : abstract start = initial (fun _ => false) := by
    simp [abstract, view, start, Session.new, initial, phaseOf, deskOf, shownOf]
  rw [nothing]
  exact coherent_initial _

theorem progress_simulates (sound : Sound system.session) (worker : WorkerId)
    (event : UnlockWorkerEvent) (tells : messageOf event = .notice) :
    Sound (onUnlockChannel system.session worker (send · event)) ∧
      Run rules (abstract system)
        (view (onUnlockChannel system.session worker (send · event)) system.pressed
          system.issued) := by
  refine ⟨sound_onUnlockChannel sound worker _, ?_⟩
  cases heard_ : heard system.session worker with
  | true =>
      obtain ⟨queue, served, sent⟩ := view_send heard_ event
      rw [sent, tells]
      exact .single (.tell _ worker queue served)
  | false =>
      rw [onUnlockChannel_unheard heard_]
      exact .refl

theorem ask_simulates (sound : Sound system.session) {worker : WorkerId}
    (running : system.session.threads worker = .running)
    (heard_ : heard system.session worker = true) (event : UnlockWorkerEvent)
    (asks_ : messageOf event = .ask ⟨worker, system.issued worker⟩) :
    Sound (setThread (onUnlockChannel system.session worker (send · event)) worker
        (.waiting ⟨worker, system.issued worker⟩)) ∧
      Run rules (abstract system)
        (view (setThread (onUnlockChannel system.session worker (send · event)) worker
            (.waiting ⟨worker, system.issued worker⟩)) system.pressed
          (Function.update system.issued worker (system.issued worker + 1))) := by
  refine ⟨sound_setThread (sound_onUnlockChannel sound worker _) worker _ (by simp [running]), ?_⟩
  obtain ⟨queue, served, sent⟩ := @view_send _ system.pressed system.issued worker heard_ event
  have asked : Step rules _ _ := .ask (abstract system) worker queue
    ⟨worker, system.issued worker⟩ served (by simp [abstract, view, running, phaseOf])
    (by simp [abstract, view]) rfl
  -- The requests issued are those of before and the new one.
  have grown : { request : RequestId | request.serial <
      Function.update system.issued worker (system.issued worker + 1) request.worker } =
      insert ⟨worker, system.issued worker⟩ (abstract system).issued := by
    ext ⟨other, serial⟩
    simp only [Set.mem_ofPred_eq, Set.mem_insert_iff, RequestId.mk.injEq, abstract, view]
    by_cases same : other = worker
    · subst same
      simp only [Function.update_self, true_and]
      omega
    · simp [same]
  have shape : view (setThread (onUnlockChannel system.session worker (send · event)) worker
      (.waiting ⟨worker, system.issued worker⟩)) system.pressed
      (Function.update system.issued worker (system.issued worker + 1)) =
      { abstract system with
        desk := some ⟨worker, queue ++ [messageOf event]⟩
        phase := Function.update (abstract system).phase worker
          (.waiting ⟨worker, system.issued worker⟩)
        issued := insert ⟨worker, system.issued worker⟩ (abstract system).issued } := by
    rw [← grown, view_setThread]
    have parts := sent
    simp only [view, State.mk.injEq] at parts
    simp [view, abstract, parts, phaseOf]
  rw [shape, asks_]
  exact .single asked

theorem finish_simulates (sound : Sound system.session) {worker : WorkerId}
    (running : system.session.threads worker = .running) (event : UnlockWorkerEvent)
    (last : messageOf event = .finished) :
    Sound (setThread (onUnlockChannel system.session worker (send · event)) worker .leaving) ∧
      Run rules (abstract system)
        (view (setThread (onUnlockChannel system.session worker (send · event)) worker .leaving)
          system.pressed system.issued) := by
  refine ⟨sound_setThread (sound_onUnlockChannel sound worker _) worker _ (by simp [running]), ?_⟩
  have phase : (abstract system).phase worker = .running := by
    simp [abstract, view, running, phaseOf]
  rw [view_setThread]
  cases heard_ : heard system.session worker with
  | true =>
      obtain ⟨queue, served, sent⟩ := @view_send _ system.pressed system.issued worker heard_ event
      rw [sent, last]
      exact .single (.finish _ worker queue served phase)
  | false =>
      rw [onUnlockChannel_unheard heard_]
      exact .single (.die _ worker phase)

theorem exit_simulates (sound : Sound system.session) {worker : WorkerId}
    (going : system.session.threads worker = .running ∨
      system.session.threads worker = .leaving) :
    Sound (setThread (onUnlockChannel system.session worker disconnect) worker .ended) ∧
      Run rules (abstract system)
        (view (setThread (onUnlockChannel system.session worker disconnect) worker .ended)
          system.pressed system.issued) := by
  constructor
  · refine sound_setThread (sound_onUnlockChannel sound worker _) worker _ ?_
    rcases going with running | leaving
    · simp [running]
    · simp [leaving]
  · rw [view_setThread, view_disconnect]
    rcases going with running | leaving
    · have phase : (view system.session system.pressed system.issued).phase worker = .running := by
        simp [view, running, phaseOf]
      exact .single (.die _ worker phase)
    · have ended : (view system.session system.pressed system.issued).phase worker = .ended := by
        simp [view, leaving, phaseOf]
      have unchanged : Function.update (view system.session system.pressed system.issued).phase
          worker (phaseOf .ended) =
          (view system.session system.pressed system.issued).phase := by
        rw [show phaseOf .ended = Phase.ended from rfl, ← ended, Function.update_eq_self]
      rw [unchanged]
      exact .refl

/-- A thread leaves its password provider. -/
theorem resume_simulates (sound : Sound system.session) {worker : WorkerId} {request : RequestId}
    (waiting : system.session.threads worker = .waiting request)
    (step : Step rules (abstract system) { abstract system with
      phase := Function.update (abstract system).phase worker .running }) :
    Sound (setThread system.session worker .running) ∧
      Run rules (abstract system)
        (view (setThread system.session worker .running) system.pressed system.issued) := by
  refine ⟨sound_setThread sound worker _ (by simp [waiting]), ?_⟩
  rw [view_setThread]
  exact .single step

theorem lock_simulates (sound : Sound system.session)
    (change : Channel LockWorkerEvent → Channel LockWorkerEvent) :
    Sound (onLockChannel system.session change) ∧
      Run rules (abstract system)
        (view (onLockChannel system.session change) system.pressed system.issued) := by
  unfold onLockChannel
  split
  · rename_i state screen
    have before := sound.screen
    rw [screen] at before
    exact advances_setScreen _ _ _ before (by rw [screen]; rfl) sound
  · exact ⟨sound, .refl⟩

theorem verify_simulates (sound : Sound system.session)
    (change : Channel VerifyWorkerEvent → Channel VerifyWorkerEvent) :
    Sound (onVerifyChannel system.session change) ∧
      Run rules (abstract system)
        (view (onVerifyChannel system.session change) system.pressed system.issued) := by
  refine advances_setVerifyWorker _ _ _ ?_ sound
  intro worker found
  simp only [Option.mem_def, Option.map_eq_some_iff] at found
  obtain ⟨before, was, rfl⟩ := found
  exact sound.verify before was

/-- Each step of the system is a run of the dialogue. -/
theorem next_simulates (sound : Sound system.session)
    (coherent : Coherent rules (abstract system)) {event : Event}
    (step : next system event = some after) :
    Sound after.session ∧ Run rules (abstract system) (abstract after) := by
  have phaseAt : ∀ {worker thread}, system.session.threads worker = thread →
      (abstract system).phase worker = phaseOf thread := by
    rintro worker _ rfl
    rfl
  cases event with
  | progress worker status =>
      simp only [next] at step
      split at step
      · cases step
        exact progress_simulates sound worker (.progress status) rfl
      · cases step
  | ask worker attempt maxAttempts failed =>
      simp only [next] at step
      split at step
      · rename_i running
        split at step
        · rename_i heard_
          cases step
          exact ask_simulates sound running heard_
            (.passwordRequired attempt maxAttempts failed ⟨worker, system.issued worker⟩) rfl
        · cases step
          exact ⟨sound, .refl⟩
      · cases step
  | notice worker =>
      simp only [next] at step
      split at step
      · rename_i request waiting
        split at step
        · rename_i stopped
          cases step
          exact resume_simulates sound waiting
            (.withdraw _ worker request (phaseAt waiting) stopped)
        · cases step
      · cases step
  | receive worker =>
      simp only [next] at step
      split at step
      · rename_i request waiting
        split at step
        · rename_i replied_
          cases step
          exact resume_simulates sound waiting
            (.receive _ worker request (phaseAt waiting) ((replied_iff request).mp replied_))
        · cases step
      · cases step
  | hangUp worker =>
      simp only [next] at step
      split at step
      · rename_i request waiting
        split at step
        · rename_i dropped
          cases step
          refine resume_simulates sound waiting
            (.hangUp _ worker request (phaseAt waiting) ?_)
          rw [heldReplies_eq, replied_iff] at dropped
          simpa [handles, abstract, view, and_assoc] using dropped
        · cases step
      · cases step
  | finish worker result =>
      simp only [next] at step
      split at step
      · rename_i running
        cases step
        exact finish_simulates sound running (.finished result) rfl
      · cases step
  | exit worker =>
      simp only [next] at step
      split at step
      · rename_i going
        cases step
        exact exit_simulates sound going
      · cases step
  | lockSends event =>
      cases step
      exact lock_simulates sound (send · event)
  | lockExits =>
      cases step
      exact lock_simulates sound disconnect
  | verifySends event =>
      cases step
      exact verify_simulates sound (send · event)
  | verifyExits =>
      cases step
      exact verify_simulates sound disconnect
  | poll =>
      simp only [next] at step
      split at step
      · cases step
      · cases step
        exact advances_poll _ _ sound
  | key key answer =>
      simp only [next] at step
      split at step
      · cases step
      · cases step
        exact key_simulates sound coherent key answer

theorem leads_simulates (sound : Sound system.session)
    (coherent : Coherent rules (abstract system)) (leads : Leads system after) :
    Sound after.session ∧ Run rules (abstract system) (abstract after) := by
  induction leads with
  | refl => exact ⟨sound, .refl⟩
  | tail _ step ih =>
      obtain ⟨event, taken⟩ := step
      obtain ⟨middleSound, run⟩ := ih
      obtain ⟨afterSound, further⟩ := next_simulates middleSound (coherent.run run) taken
      exact ⟨afterSound, run.trans further⟩

end Simulation

def Queued (session : Session) (request : RequestId) : Prop :=
  ∃ state attempt maxAttempts failed, session.app.screen = .unlockProgress state ∧
    .passwordRequired attempt maxAttempts failed request ∈ state.worker.receiver.queue

def PromptHolds (session : Session) (request : RequestId) : Prop :=
  ∃ state, session.app.modal = some (.passwordPrompt state) ∧ state.reply = request

def repliesTo (session : Session) (request : RequestId) : List Reply :=
  session.sent.filter fun reply => reply.request = request

/-- Cancellation has been requested for a worker: its flag is set, or its screen has noted it. -/
def CancelRequested (session : Session) (worker : WorkerId) : Prop :=
  session.tokens worker = true ∨
    ∃ state, session.app.screen = .unlockProgress state ∧ state.worker.id = worker ∧
      state.cancelRequested = true

def enteredText (keys : List KeyEvent) : String := rules.read (entered rules keys)

structure Protocol (system : System) : Prop where
  awaited : ∀ worker request, system.session.threads worker = .waiting request →
    Queued system.session request ∨ PromptHolds system.session request ∨
      repliesTo system.session request ≠ [] ∨ system.session.tokens worker = true
  once : ∀ request, (repliesTo system.session request).length ≤ 1
  faithful : ∀ request text, ⟨request, .ok text⟩ ∈ system.session.sent →
    text = enteredText (system.pressed request)
  silent : ∀ later, Leads system later → ∀ request,
    CancelRequested system.session request.worker → ∀ text,
    ⟨request, .ok text⟩ ∈ later.session.sent → ⟨request, .ok text⟩ ∈ system.session.sent

section Sessions
variable {session : Session} {request : RequestId}

theorem queued_of_asked (asked : request ∈ askedAt (deskOf session.app.screen)) :
    Queued session request := by
  cases screen : session.app.screen with
  | unlockProgress state =>
      simp only [screen, deskOf, askedAt_some, mem_asks, List.mem_map] at asked
      obtain ⟨event, queued, asks_⟩ := asked
      cases event with
      | progress status => cases asks_
      | finished result => cases asks_
      | passwordRequired attempt maxAttempts failed reply =>
          cases asks_
          exact ⟨state, attempt, maxAttempts, failed, screen, queued⟩
  | _ => simp [screen, deskOf] at asked

theorem promptHolds_of_shown (shown : request ∈ shownIn (shownOf session.app.modal)) :
    PromptHolds session request := by
  cases modal : session.app.modal with
  | none => simp [modal, shownOf] at shown
  | some open_ =>
      cases open_ with
      | passwordPrompt state =>
          simp only [modal, shownOf, shownIn_some, List.mem_singleton] at shown
          exact ⟨state, modal, shown.symm⟩
      | _ => simp [modal, shownOf] at shown

theorem repliesTo_ne_nil (replied_ : request ∈ answered (session.sent.map replyOf)) :
    repliesTo session request ≠ [] := by
  simp only [answered, List.map_map, List.mem_map, Function.comp_apply] at replied_
  obtain ⟨reply, sent, rfl⟩ := replied_
  exact List.ne_nil_of_mem (List.mem_filter.mpr ⟨sent, by simp [replyOf]⟩)

theorem repliesTo_length (once : (answered (session.sent.map replyOf)).Nodup)
    (request : RequestId) : (repliesTo session request).length ≤ 1 := by
  have requests : answered (session.sent.map replyOf) = session.sent.map Reply.request := by
    simp [answered, replyOf]
  rw [requests] at once
  have count := List.nodup_iff_count_le_one.mp once request
  rw [List.count, List.countP_map] at count
  rw [repliesTo, ← List.countP_eq_length_filter]
  refine Nat.le_trans (Nat.le_of_eq ?_) count
  congr 1

theorem mem_sent (text : String) :
    (request, some text) ∈ session.sent.map replyOf ↔ ⟨request, .ok text⟩ ∈ session.sent := by
  constructor
  · intro sent
    obtain ⟨⟨asked, result⟩, found, same⟩ := List.mem_map.mp sent
    cases result with
    | ok given =>
        cases same
        exact found
    | error reason => cases same
  · exact fun sent => List.mem_map.mpr ⟨_, sent, rfl⟩

/-- The flag is set wherever cancellation has been requested. -/
theorem stopped_of_requested (sound : Sound session) {worker : WorkerId}
    (requested : CancelRequested session worker) : session.tokens worker = true := by
  rcases requested with stopped | ⟨state, screen, rfl, noted⟩
  · exact stopped
  · have before := sound.screen
    rw [screen] at before
    exact before.2 noted

end Sessions

/-- The protocol holds in every reachable state, whatever the order of the steps. -/
theorem prompt_protocol (system : System) (reached : Leads start system) : Protocol system := by
  obtain ⟨sound, run⟩ := leads_simulates start_sound start_coherent reached
  have coherent := start_coherent.run run
  refine ⟨?_, ?_, ?_, ?_⟩
  · intro worker request waiting
    have phase : (abstract system).phase worker = .waiting request := by
      simp [abstract, view, waiting, phaseOf]
    rcases coherent.awaits phase with asked | shown | replied_ | stopped
    · exact .inl (queued_of_asked asked)
    · exact .inr (.inl (promptHolds_of_shown shown))
    · exact .inr (.inr (.inl (repliesTo_ne_nil replied_)))
    · exact .inr (.inr (.inr stopped))
  · exact repliesTo_length coherent.answeredOnce
  · intro request text sent
    exact coherent.granted request text ((mem_sent text).mpr sent)
  · intro later leads request requested text sent
    obtain ⟨_, further⟩ := leads_simulates sound coherent leads
    exact (mem_sent text).mp
      (coherent.silent further (stopped_of_requested sound requested) ((mem_sent text).mpr sent))

def plainKey (code : KeyCode) : Event := .key ⟨code, KeyModifiers.none⟩ ⟨.stays, none, .ok ()⟩

def answeredRun : List Event :=
  [plainKey .down, plainKey .down, plainKey .enter,
    .key ⟨.enter, KeyModifiers.none⟩ ⟨.startsUnlock "a" none, none, .ok ()⟩,
    .ask 0 1 3 false, .poll, plainKey (.char 's'), plainKey (.char '3'), plainKey .left,
    plainKey (.char 'x'), plainKey .enter, .receive 0]

theorem prompt_protocol_answered :
    ∃ system, steps start answeredRun = some system ∧
      repliesTo system.session ⟨0, 0⟩ = [⟨⟨0, 0⟩, .ok (String.ofList ['s', 'x', '3'])⟩] ∧
      Protocol system :=
  ⟨_, rfl, rfl, prompt_protocol _ (leads_steps _ _ answeredRun rfl)⟩

end PromptProtocol
