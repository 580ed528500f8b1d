import Timelocked.PromptProtocol

/-!
A worker that waits for a password is never stuck. Wherever a run has come to,
one poll and one key let the worker go on without a password; and as long as its
request is open, any text can still be entered for it, whatever has been typed
into the prompt before.
-/
namespace PromptLiveness

open Base hiding Event
open Lock Unlock Channels LineEditor TextFields TuiSession TuiKeys Dialogue PromptSystem
  SessionChanges PromptProtocol

theorem steps_append (system : System) (first later : List Event) :
    steps system (first ++ later) = (steps system first).bind fun middle => steps middle later := by
  induction first generalizing system with
  | nil => rfl
  | cons event first ih =>
      simp only [List.cons_append, steps]
      cases next system event with
      | none => rfl
      | some middle => exact ih middle

theorem steps_trans {system middle after : System} {first later : List Event}
    (ran : steps system first = some middle) (further : steps middle later = some after) :
    steps system (first ++ later) = some after := by
  rw [steps_append, ran]
  exact further

theorem reached_coherent {system : System} (leads : Leads start system) :
    Sound system.session ∧ Coherent rules (abstract system) := by
  obtain ⟨sound, run⟩ := leads_simulates start_sound start_coherent leads
  exact ⟨sound, start_coherent.run run⟩

def AsksOnly (request : RequestId) (queue : List UnlockWorkerEvent) : Prop :=
  ∀ event ∈ queue, (∃ status, event = .progress status) ∨
    ∃ attempt maxAttempts failed, event = .passwordRequired attempt maxAttempts failed request

def Blank (request : RequestId) (state : PasswordPromptState) : Prop :=
  state.reply = request ∧ state.password = SecretTextField.default ∧ state.focus = .password

theorem unlockLoop_displays (placed : Session) (request : RequestId)
    (queue : List UnlockWorkerEvent) (only : AsksOnly request queue)
    (asked : ∃ attempt maxAttempts failed,
      .passwordRequired attempt maxAttempts failed request ∈ queue)
    (state : UnlockProgressState) (uncancelled : state.cancelRequested = false)
    (going : placed.tokens state.worker.id = false) :
    ∃ shown last, Blank request shown ∧
      (receiveEach unlockEvent ⟨placed, state, none⟩ queue).1 =
        ⟨placed.setModal (some (.passwordPrompt shown)), last, none⟩ := by
  induction queue generalizing state with
  | nil =>
      obtain ⟨_, _, _, member⟩ := asked
      cases member
  | cons event queue ih =>
      rcases only event (by simp) with ⟨status, rfl⟩ | ⟨attempt, maxAttempts, failed, rfl⟩
      · obtain ⟨attempt, maxAttempts, failed, member⟩ := asked
        have later : .passwordRequired attempt maxAttempts failed request ∈ queue := by
          simpa using member
        exact ih (fun event queued => only event (.tail _ queued)) ⟨_, _, _, later⟩
          { state with progress := status } uncancelled going
      · refine ⟨⟨SecretTextField.default, .password, attempt, maxAttempts, failed, request⟩, state,
          ⟨rfl, rfl, rfl⟩, ?_⟩
        simp [receiveEach, unlockEvent, uncancelled, going]

section Waiting
variable {system : System} {worker : WorkerId} {request : RequestId}

/-- What a waiting worker's screen has queued. -/
theorem asksOnly_waiting (coherent : Coherent rules (abstract system))
    (waiting : system.session.threads worker = .waiting request)
    (going : system.session.tokens worker = false) (state : UnlockProgressState)
    (screen : system.session.app.screen = .unlockProgress state) :
    state.worker.id = worker ∧ AsksOnly request state.worker.receiver.queue := by
  have phase : (abstract system).phase worker = .waiting request := by
    simp [abstract, view, waiting, phaseOf]
  have live : Live ((abstract system).phase worker) := by
    rw [phase]
    trivial
  have desk : (abstract system).desk =
      some ⟨state.worker.id, state.worker.receiver.queue.map messageOf⟩ := by
    simp [abstract, view, screen, deskOf]
  have same := coherent.alone desk live
  subst same
  refine ⟨rfl, fun event queued => ?_⟩
  cases event with
  | progress status => exact .inl ⟨status, rfl⟩
  | passwordRequired attempt maxAttempts failed reply =>
      have asked : Message.ask reply ∈ state.worker.receiver.queue.map messageOf :=
        List.mem_map.mpr ⟨_, queued, rfl⟩
      have waits := coherent.awaited _ _ desk going reply asked
      rw [phase] at waits
      cases waits
      exact .inr ⟨attempt, maxAttempts, failed, rfl⟩
  | finished result =>
      -- A worker that has sent its result waits for nothing.
      have closed : Message.finished ∈ state.worker.receiver.queue.map messageOf :=
        List.mem_map.mpr ⟨_, queued, rfl⟩
      have ended := coherent.closing _ _ desk closed
      rw [phase] at ended
      cases ended

theorem poll_displays (sound : Sound system.session) (coherent : Coherent rules (abstract system))
    (waiting : system.session.threads worker = .waiting request)
    (going : system.session.tokens worker = false) (queued : Queued system.session request) :
    ∃ shown screen, Blank request shown ∧ pollWorkers system.session =
      (system.session.setModal (some (.passwordPrompt shown))).setScreen screen := by
  obtain ⟨state, attempt, maxAttempts, failed, screen, member⟩ := queued
  obtain ⟨rfl, only⟩ := asksOnly_waiting coherent waiting going state screen
  have uncancelled : state.cancelRequested = false := by
    have before := sound.screen
    rw [screen] at before
    cases noted : state.cancelRequested with
    | false => rfl
    | true =>
        rw [before.2 noted] at going
        cases going
  obtain ⟨shown, last, blank, ended⟩ := unlockLoop_displays (system.session.setScreen mainMenu)
    request _ only ⟨attempt, maxAttempts, failed, member⟩ state uncancelled going
  refine ⟨shown, ?_⟩
  simp only [pollWorkers, screen, pollUnlockWorker, whileOk, ended]
  exact ⟨_, blank, rfl⟩

/-- A poll, the key that declines a prompt, and what the worker does by itself. -/
inductive Declines (worker : WorkerId) : Event → Prop
  | poll : Declines worker .poll
  | escape : Declines worker (plainKey .esc)
  | notice : Declines worker (.notice worker)
  | receive : Declines worker (.receive worker)

/-- The worker runs again, after so many steps at most and with no password sent. -/
def GoesOn (system : System) (worker : WorkerId) (bound : Nat) : Prop :=
  ∃ events after, events.length ≤ bound ∧ (∀ event ∈ events, Declines worker event) ∧
    steps system events = some after ∧ after.session.threads worker = .running ∧
    ∀ request text, ⟨request, .ok text⟩ ∈ after.session.sent →
      ⟨request, .ok text⟩ ∈ system.session.sent

theorem goesOn_of_replied (waiting : system.session.threads worker = .waiting request)
    (replied_ : replied system.session request = true) : GoesOn system worker 1 := by
  refine ⟨[.receive worker], { system with session := setThread system.session worker .running },
    Nat.le_refl _, ?_, ?_, ?_, fun _ _ sent => sent⟩
  · simpa using Declines.receive
  · simp [steps, next, waiting, replied_]
  · simp [setThread]

theorem goesOn_of_stopped (waiting : system.session.threads worker = .waiting request)
    (stopped : system.session.tokens worker = true) : GoesOn system worker 1 := by
  refine ⟨[.notice worker], { system with session := setThread system.session worker .running },
    Nat.le_refl _, ?_, ?_, ?_, fun _ _ sent => sent⟩
  · simpa using Declines.notice
  · simp [steps, next, waiting, stopped]
  · simp [setThread]

/-- A step that sends no password comes before. -/
theorem GoesOn.after {middle : System} {bound : Nat} {event : Event}
    (later : GoesOn middle worker bound) (declines : Declines worker event)
    (step : next system event = some middle)
    (silent : ∀ request text, ⟨request, .ok text⟩ ∈ middle.session.sent →
      ⟨request, .ok text⟩ ∈ system.session.sent) : GoesOn system worker (bound + 1) := by
  obtain ⟨events, after, short, all, ran, running, none_⟩ := later
  refine ⟨event :: events, after, Nat.succ_le_succ short, ?_, ?_, running, ?_⟩
  · rintro other (_ | ⟨_, member⟩)
    · exact declines
    · exact all other member
  · simp [steps, step, ran]
  · exact fun request text sent => silent request text (none_ request text sent)

theorem goesOn_of_prompt (open_ : system.session.app.shouldQuit = false)
    (waiting : system.session.threads worker = .waiting request)
    (state : PasswordPromptState)
    (prompt : system.session.app.modal = some (.passwordPrompt state))
    (same : state.reply = request) : GoesOn system worker 2 := by
  have declined : next system (plainKey .esc) = some { system with
      session := onKey system.session ⟨.esc, KeyModifiers.none⟩ ⟨.stays, none, .ok ()⟩
      pressed := recordKey system ⟨.esc, KeyModifiers.none⟩ } := by
    simp [next, plainKey, open_]
  -- Declining replies to the request and leaves the threads alone.
  have handled : ∃ after,
      onKey system.session ⟨.esc, KeyModifiers.none⟩ ⟨.stays, none, .ok ()⟩ = after ∧
        after.threads = system.session.threads ∧
        after.sent = system.session.sent ++ [⟨request, .error .cancelled⟩] := by
    refine ⟨_, rfl, ?_, ?_⟩
    · cases screen : system.session.app.screen <;>
        simp [onKey, isQuitKey, prompt, handleModalKey, handlePasswordPromptKey,
          cancelPasswordPrompt, Session.reply, Session.setModal, Session.setScreen, screen,
          Session.cancel, KeyModifiers.none]
    · cases screen : system.session.app.screen <;>
        simp [onKey, isQuitKey, prompt, handleModalKey, handlePasswordPromptKey,
          cancelPasswordPrompt, Session.reply, Session.setModal, Session.setScreen, screen,
          Session.cancel, KeyModifiers.none, same]
  obtain ⟨after, reached, threads, sent⟩ := handled
  rw [reached] at declined
  have woken : GoesOn { system with
      session := after, pressed := recordKey system ⟨.esc, KeyModifiers.none⟩ } worker 1 :=
    goesOn_of_replied ((congrFun threads worker).trans waiting) (by simp [replied, sent])
  refine woken.after .escape declined fun other text member => ?_
  simpa [sent] using member

/-- A waiting worker can be made to run again by a poll and one key, at any point of any run. -/
theorem waiting_unblocks (leads : Leads start system)
    (open_ : system.session.app.shouldQuit = false)
    (waiting : system.session.threads worker = .waiting request) : GoesOn system worker 3 := by
  obtain ⟨sound, coherent⟩ := reached_coherent leads
  have wider : ∀ {bound}, bound ≤ 3 → GoesOn system worker bound → GoesOn system worker 3 := by
    rintro bound below ⟨events, after, short, rest⟩
    exact ⟨events, after, Nat.le_trans short below, rest⟩
  have phase : (abstract system).phase worker = .waiting request := by
    simp [abstract, view, waiting, phaseOf]
  cases going : system.session.tokens worker with
  | true => exact wider (by omega) (goesOn_of_stopped waiting going)
  | false =>
      rcases coherent.awaits phase with asked | shown | replied_ | stopped
      · obtain ⟨state, screen, ⟨same, _⟩, polled⟩ :=
          poll_displays sound coherent waiting going (queued_of_asked asked)
        have shown : GoesOn { system with session := pollWorkers system.session } worker 2 := by
          rw [polled]
          exact goesOn_of_prompt open_ waiting state rfl same
        refine shown.after .poll (by simp [next, open_]) ?_
        rw [polled]
        exact fun _ _ sent => sent
      · obtain ⟨state, prompt, same⟩ := promptHolds_of_shown shown
        exact wider (by omega) (goesOn_of_prompt open_ waiting state prompt same)
      · exact wider (by omega) (goesOn_of_replied waiting ((replied_iff request).mpr replied_))
      · rw [show (abstract system).stopped worker = system.session.tokens worker from rfl,
          going] at stopped
        cases stopped

end Waiting

def retype (size : Nat) (text : List Char) : List KeyEvent :=
  struck .home :: List.replicate size (struck .delete) ++
    text.map fun symbol => struck (.char symbol)

theorem edited_deletes (size : Nat) (after : List Char) (all : after.length ≤ size) :
    (List.replicate size (struck .delete)).foldl edited ⟨[], after⟩ = LineEditor.blank := by
  induction size generalizing after with
  | zero =>
      rw [List.length_eq_zero_iff.mp (Nat.le_zero.mp all)]
      rfl
  | succ size ih =>
      refine ih after.tail ?_
      rw [List.length_tail]
      omega

theorem edited_types (text : List Char) (shown : Line Char) :
    (text.map fun symbol => struck (.char symbol)).foldl edited shown =
      (text.map Edit.insert).foldl apply shown := by
  rw [List.foldl_map, List.foldl_map]
  rfl

/-- A line that is cleared and typed anew holds the text. -/
theorem contents_retyped (shown : Line Char) (text : List Char) :
    contents ((retype (contents shown).length text).foldl edited shown) = text := by
  have cleared : (struck .home :: List.replicate (contents shown).length (struck .delete)).foldl
      edited shown = LineEditor.blank :=
    edited_deletes _ (contents shown) (Nat.le_refl _)
  rw [retype, List.foldl_append, cleared, edited_types, contents_typed text LineEditor.blank rfl]
  rfl

def applyKeys (field : TextField) (keys : List KeyEvent) : TextField :=
  keys.foldl (fun field key => (field.applyKey key).1) field

theorem line_applyKeys (keys : List KeyEvent) (field : TextField) (plain : Plain field) :
    line (applyKeys field keys) = keys.foldl edited (line field) := by
  induction keys generalizing field with
  | nil => rfl
  | cons key keys ih =>
      rw [applyKeys, List.foldl_cons, List.foldl_cons, ← line_applyKey field plain key]
      exact ih _ (plain_applyKey field plain key)

theorem retyped_value (field : TextField) (plain : Plain field) (text : List Char) :
    (applyKeys field (retype field.value.length text)).value = text := by
  have line_ := line_applyKeys (retype field.value.length text) field plain
  have typed := contents_retyped (line field) text
  rw [contents_line, ← line_, contents_line] at typed
  exact typed

section Typing
variable {system : System}

def keyed (key : KeyEvent) : Event := .key key ⟨.stays, none, .ok ()⟩

def Typed (key : KeyEvent) : Prop :=
  isQuitKey key = false ∧ key.code ≠ .tab ∧ key.code ≠ .backTab ∧ key.code ≠ .esc ∧
    key.code ≠ .enter

theorem retype_typed (size : Nat) (text : List Char) (key : KeyEvent)
    (member : key ∈ retype size text) : Typed key := by
  simp only [retype, List.cons_append, List.mem_cons, List.mem_append, List.mem_replicate,
    List.mem_map] at member
  rcases member with rfl | ⟨_, rfl⟩ | ⟨symbol, _, rfl⟩
  · exact ⟨rfl, by simp [struck], by simp [struck], by simp [struck], by simp [struck]⟩
  · exact ⟨rfl, by simp [struck], by simp [struck], by simp [struck], by simp [struck]⟩
  · exact ⟨rfl, by simp [struck], by simp [struck], by simp [struck], by simp [struck]⟩

theorem next_typed (open_ : system.session.app.shouldQuit = false) (state : PasswordPromptState)
    (prompt : system.session.app.modal = some (.passwordPrompt state))
    (focused : state.focus = .password) (key : KeyEvent) (typed : Typed key) :
    next system (keyed key) = some { system with
      session := system.session.setModal (some (.passwordPrompt
        { state with password := ⟨(state.password.field.applyKey key).1⟩ }))
      pressed := recordKey system key } := by
  obtain ⟨noQuit, tab, backTab, esc, enter⟩ := typed
  rcases key with ⟨code, modifiers⟩
  cases code with
  | tab => exact absurd rfl tab
  | backTab => exact absurd rfl backTab
  | esc => exact absurd rfl esc
  | enter => exact absurd rfl enter
  | _ =>
      simp [next, keyed, open_, onKey, noQuit, prompt, handleModalKey, handlePasswordPromptKey,
        focused, SecretTextField.applyKey, Session.setModal]

/-- Keys typed into a prompt change nothing but its field. -/
theorem steps_typed (keys : List KeyEvent) (typed : ∀ key ∈ keys, Typed key)
    (system : System) (open_ : system.session.app.shouldQuit = false)
    (state : PasswordPromptState)
    (prompt : system.session.app.modal = some (.passwordPrompt state))
    (focused : state.focus = .password) :
    ∃ pressed, steps system (keys.map keyed) = some { system with
      session := system.session.setModal (some (.passwordPrompt
        { state with password := ⟨applyKeys state.password.field keys⟩ }))
      pressed := pressed } := by
  induction keys generalizing system state with
  | nil =>
      refine ⟨system.pressed, ?_⟩
      have kept : system.session.setModal (some (.passwordPrompt state)) = system.session := by
        rw [← prompt]
        rfl
      simp [steps, applyKeys, kept]
  | cons key keys ih =>
      have step := next_typed open_ state prompt focused key (typed key (.head _))
      obtain ⟨pressed, ran⟩ := ih (fun other member => typed other (.tail _ member))
        { system with
          session := system.session.setModal (some (.passwordPrompt
            { state with password := ⟨(state.password.field.applyKey key).1⟩ }))
          pressed := recordKey system key } open_
        { state with password := ⟨(state.password.field.applyKey key).1⟩ } rfl focused
      refine ⟨pressed, ?_⟩
      simp only [List.map_cons, steps, step, Option.bind_some]
      exact ran

def refocus : PasswordPromptFocus → List KeyEvent
  | .password => []
  | .unlock => [struck .backTab]
  | .cancel => [struck .tab]

theorem steps_refocus (open_ : system.session.app.shouldQuit = false)
    (state : PasswordPromptState)
    (prompt : system.session.app.modal = some (.passwordPrompt state)) :
    ∃ pressed, steps system ((refocus state.focus).map keyed) = some { system with
      session := system.session.setModal (some (.passwordPrompt { state with focus := .password }))
      pressed := pressed } := by
  cases focus : state.focus with
  | password =>
      refine ⟨system.pressed, ?_⟩
      have kept : system.session.setModal
          (some (.passwordPrompt { state with focus := .password })) = system.session := by
        rw [← focus, ← prompt]
        rfl
      simp [steps, refocus, kept]
  | unlock =>
      refine ⟨recordKey system (struck .backTab), ?_⟩
      simp [steps, refocus, next, keyed, open_, onKey, isQuitKey, struck, prompt, handleModalKey,
        handlePasswordPromptKey, focus, PasswordPromptFocus.prev, Session.setModal]
  | cancel =>
      refine ⟨recordKey system (struck .tab), ?_⟩
      simp [steps, refocus, next, keyed, open_, onKey, isQuitKey, struck, prompt, handleModalKey,
        handlePasswordPromptKey, focus, PasswordPromptFocus.next, Session.setModal]

/-- A poll, a key, and a worker that takes its reply. -/
inductive Enters (worker : WorkerId) : Event → Prop
  | poll : Enters worker .poll
  | key (key : KeyEvent) : Enters worker (keyed key)
  | receive : Enters worker (.receive worker)

/-- The text can be sent as the reply to the request, and its worker runs again. -/
def Delivers (system : System) (worker : WorkerId) (request : RequestId) (text : List Char) :
    Prop :=
  ∃ events after, (∀ event ∈ events, Enters worker event) ∧ steps system events = some after ∧
    after.session.sent = system.session.sent ++ [⟨request, .ok (String.ofList text)⟩] ∧
    after.session.threads worker = .running

theorem Delivers.after {middle : System} {worker : WorkerId} {request : RequestId}
    {text : List Char} {events : List Event} (later : Delivers middle worker request text)
    (enters : ∀ event ∈ events, Enters worker event) (ran : steps system events = some middle)
    (silent : middle.session.sent = system.session.sent) :
    Delivers system worker request text := by
  obtain ⟨further, after, all, reached, sent, running⟩ := later
  refine ⟨events ++ further, after, ?_, steps_trans ran reached, ?_, running⟩
  · intro event member
    rcases List.mem_append.mp member with before | behind
    · exact enters event before
    · exact all event behind
  · rw [sent, silent]

theorem keyed_enters {worker : WorkerId} (keys : List KeyEvent) :
    ∀ event ∈ keys.map keyed, Enters worker event := by
  intro event member
  obtain ⟨key, _, rfl⟩ := List.mem_map.mp member
  exact .key key

/-- Enter on a prompt whose field is in focus sends what the field holds. -/
theorem delivers_submit {worker : WorkerId} {request : RequestId} {text : List Char}
    (open_ : system.session.app.shouldQuit = false)
    (waiting : system.session.threads worker = .waiting request) (state : PasswordPromptState)
    (prompt : system.session.app.modal = some (.passwordPrompt state))
    (focused : state.focus = .password) (same : state.reply = request)
    (holds : state.password.field.value = text) : Delivers system worker request text := by
  -- Submitting replies to the request and leaves the threads alone.
  have handled : ∃ after,
      onKey system.session (struck .enter) ⟨.stays, none, .ok ()⟩ = after ∧
        after.threads = system.session.threads ∧
        after.sent = system.session.sent ++ [⟨request, .ok (String.ofList text)⟩] := by
    refine ⟨_, rfl, ?_, ?_⟩
    · simp [onKey, isQuitKey, struck, prompt, handleModalKey, handlePasswordPromptKey, focused,
        submitPasswordPrompt, Session.reply, Session.setModal]
    · simp [onKey, isQuitKey, struck, prompt, handleModalKey, handlePasswordPromptKey, focused,
        submitPasswordPrompt, Session.reply, Session.setModal, same,
        SecretTextField.exposeSecret, holds]
  obtain ⟨after, reached, threads, sent⟩ := handled
  have submitted : next system (keyed (struck .enter)) = some { system with
      session := after, pressed := recordKey system (struck .enter) } := by
    simp [next, keyed, open_, reached]
  have woken : next { system with
      session := after, pressed := recordKey system (struck .enter) } (.receive worker) =
      some { system with
        session := setThread after worker .running
        pressed := recordKey system (struck .enter) } := by
    have still : after.threads worker = .waiting request := (congrFun threads worker).trans waiting
    have replied_ : replied after request = true := by simp [replied, sent]
    simp only [next, still, replied_, if_true]
  refine ⟨[keyed (struck .enter), .receive worker], { system with
      session := setThread after worker .running
      pressed := recordKey system (struck .enter) }, ?_, ?_, sent, ?_⟩
  · simpa using And.intro (@Enters.key worker (struck .enter)) Enters.receive
  · simp only [steps, submitted, Option.bind_some, woken]
  · simp [setThread]

/-- A prompt that is open for the request takes any text, whatever has been typed before. -/
theorem delivers_of_prompt {worker : WorkerId} {request : RequestId} (text : List Char)
    (open_ : system.session.app.shouldQuit = false)
    (waiting : system.session.threads worker = .waiting request) (state : PasswordPromptState)
    (prompt : system.session.app.modal = some (.passwordPrompt state))
    (same : state.reply = request) (plain : Plain state.password.field) :
    Delivers system worker request text := by
  obtain ⟨moved, focused⟩ := steps_refocus open_ state prompt
  obtain ⟨typed, entered_⟩ := steps_typed (retype state.password.field.value.length text)
    (retype_typed _ _) { system with
      session := system.session.setModal (some (.passwordPrompt { state with focus := .password }))
      pressed := moved } open_ { state with focus := .password } rfl rfl
  have submitted : Delivers { system with
      session := system.session.setModal (some (.passwordPrompt { state with
        focus := .password
        password := ⟨applyKeys state.password.field
          (retype state.password.field.value.length text)⟩ }))
      pressed := typed } worker request text :=
    delivers_submit open_ waiting _ rfl rfl same (retyped_value _ plain text)
  have filled : Delivers _ worker request text :=
    submitted.after (keyed_enters _) entered_ rfl
  exact filled.after (keyed_enters _) focused rfl

/-- While a request is open, any text can still be entered for it, at any point of any run. -/
theorem password_delivered {worker : WorkerId} {request : RequestId} (leads : Leads start system)
    (open_ : system.session.app.shouldQuit = false)
    (waiting : system.session.threads worker = .waiting request)
    (going : system.session.tokens worker = false)
    (unanswered : replied system.session request = false) (text : List Char) :
    Delivers system worker request text := by
  obtain ⟨sound, coherent⟩ := reached_coherent leads
  have phase : (abstract system).phase worker = .waiting request := by
    simp [abstract, view, waiting, phaseOf]
  rcases coherent.awaits phase with asked | shown | replied_ | stopped
  · obtain ⟨state, screen, ⟨same, empty, _⟩, polled⟩ :=
      poll_displays sound coherent waiting going (queued_of_asked asked)
    have polls : steps system [.poll] = some { system with
        session := (system.session.setModal (some (.passwordPrompt state))).setScreen screen } := by
      simp [steps, next, open_, polled]
    have plain : Plain state.password.field := by
      rw [empty]
      exact plain_new []
    have entered_ : Delivers { system with
        session := (system.session.setModal (some (.passwordPrompt state))).setScreen screen }
        worker request text := delivers_of_prompt text open_ waiting state rfl same plain
    refine entered_.after ?_ polls rfl
    simpa using Enters.poll
  · obtain ⟨state, prompt, same⟩ := promptHolds_of_shown shown
    have plain : Plain state.password.field := by
      have before := sound.modal
      rw [prompt] at before
      exact before
    exact delivers_of_prompt text open_ waiting state prompt same plain
  · rw [(replied_iff request).mpr replied_] at unanswered
    cases unanswered
  · rw [show (abstract system).stopped worker = system.session.tokens worker from rfl,
      going] at stopped
    cases stopped

end Typing

def askedRun : List Event :=
  [plainKey .down, plainKey .down, plainKey .enter,
    .key ⟨.enter, KeyModifiers.none⟩ ⟨.startsUnlock "a" none, none, .ok ()⟩, .ask 0 1 3 false]

theorem waiting_unblocks_asked :
    ∃ system, steps start askedRun = some system ∧ GoesOn system 0 3 :=
  ⟨_, rfl, waiting_unblocks (leads_steps _ _ askedRun rfl) rfl rfl⟩

def typedRun : List Event :=
  askedRun ++ [.poll, plainKey (.char 's'), plainKey .backTab]

theorem password_delivered_typed :
    ∃ system, steps start typedRun = some system ∧ Delivers system 0 ⟨0, 0⟩ ['o', 'k'] :=
  ⟨_, rfl, password_delivered (leads_steps _ _ typedRun rfl) rfl rfl rfl rfl ['o', 'k']⟩

end PromptLiveness
