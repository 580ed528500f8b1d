import Mathlib.Data.Set.Insert
import Mathlib.Data.List.Nodup
import Mathlib.Logic.Function.Basic
import Mathlib.Logic.Relation

/-!
A desk that serves one client at a time. The client queues messages, some of
which ask for a text and carry the one handle its reply is sent with; it then
waits. The desk shows a request and takes keys for it until the text is
submitted or declined, or refuses it once the client has been stopped. What
holds of every run is proved from one coherent state to the next.
-/
namespace Dialogue

section Definitions
variable (Client Request Key Entry Text : Type)

inductive Phase (Request : Type) where
  | absent
  | running
  | waiting (request : Request)
  | ended
  deriving DecidableEq

inductive Message (Request : Type) where
  | notice
  | ask (request : Request)
  | finished
  deriving DecidableEq

structure Desk (Client Request : Type) where
  client : Client
  queue : List (Message Request)

/-- Whose a request is, what a new entry shows, and what a key does to an entry. -/
structure Rules where
  asker : Request → Client
  blank : Entry
  press : Entry → Key → Entry
  read : Entry → Text

structure State where
  phase : Client → Phase Request
  desk : Option (Desk Client Request)
  shown : Option (Request × Entry)
  stopped : Client → Bool
  /-- The replies in order; no text is a refusal. -/
  sent : List (Request × Option Text)
  /-- The keys taken while the request was shown. -/
  pressed : Request → List Key
  issued : Set Request

end Definitions

variable {Client Request Key Entry Text : Type}

def asks (queue : List (Message Request)) : List Request :=
  queue.filterMap fun
    | .ask request => some request
    | _ => none

def askedAt : Option (Desk Client Request) → List Request
  | some desk => asks desk.queue
  | none => []

def shownIn : Option (Request × Entry) → List Request
  | some (request, _) => [request]
  | none => []

def answered (sent : List (Request × Option Text)) : List Request := sent.map Prod.fst

def handles (state : State Client Request Key Entry Text) : List Request :=
  askedAt state.desk ++ shownIn state.shown ++ answered state.sent

section Queue
variable (queue later : List (Message Request)) (request : Request)

@[simp] theorem asks_nil : asks ([] : List (Message Request)) = [] := rfl

@[simp] theorem asks_notice : asks (.notice :: queue) = asks queue := rfl

@[simp] theorem asks_ask : asks (.ask request :: queue) = request :: asks queue := rfl

@[simp] theorem asks_finished : asks (.finished :: queue) = asks queue := rfl

@[simp] theorem asks_append : asks (queue ++ later) = asks queue ++ asks later :=
  List.filterMap_append

@[simp] theorem mem_asks : request ∈ asks queue ↔ .ask request ∈ queue := by
  induction queue with
  | nil => simp
  | cons message queue ih => cases message <;> simp [ih]

@[simp] theorem askedAt_some (client : Client) : askedAt (some ⟨client, queue⟩) = asks queue := rfl

@[simp] theorem askedAt_none : askedAt (none : Option (Desk Client Request)) = [] := rfl

@[simp] theorem shownIn_some (entry : Entry) : shownIn (some (request, entry)) = [request] := rfl

@[simp] theorem shownIn_none : shownIn (none : Option (Request × Entry)) = [] := rfl

@[simp] theorem answered_append (sent : List (Request × Option Text)) (reply : Option Text) :
    answered (sent ++ [(request, reply)]) = answered sent ++ [request] := by
  simp [answered]

end Queue

def press [DecidableEq Request] (state : State Client Request Key Entry Text)
    (request : Request) (key : Key) : Request → List Key :=
  Function.update state.pressed request (state.pressed request ++ [key])

section Steps
variable (rules : Rules Client Request Key Entry Text) [DecidableEq Client] [DecidableEq Request]

inductive Step : State Client Request Key Entry Text → State Client Request Key Entry Text → Prop
  | start (state) (client)
      (free : state.desk = none) (clear : state.shown = none)
      (new : state.phase client = .absent) (going : state.stopped client = false) :
      Step state { state with
        desk := some ⟨client, []⟩, phase := Function.update state.phase client .running }
  | tell (state) (client) (queue)
      (served : state.desk = some ⟨client, queue⟩) :
      Step state { state with desk := some ⟨client, queue ++ [.notice]⟩ }
  | ask (state) (client) (queue) (request)
      (served : state.desk = some ⟨client, queue⟩) (running : state.phase client = .running)
      (fresh : request ∉ state.issued) (own : rules.asker request = client) :
      Step state { state with
        desk := some ⟨client, queue ++ [.ask request]⟩
        phase := Function.update state.phase client (.waiting request)
        issued := insert request state.issued }
  | withdraw (state) (client) (request)
      (waits : state.phase client = .waiting request) (stopped : state.stopped client = true) :
      Step state { state with phase := Function.update state.phase client .running }
  | receive (state) (client) (request)
      (waits : state.phase client = .waiting request) (replied : request ∈ answered state.sent) :
      Step state { state with phase := Function.update state.phase client .running }
  | hangUp (state) (client) (request)
      (waits : state.phase client = .waiting request) (dropped : request ∉ handles state) :
      Step state { state with phase := Function.update state.phase client .running }
  | finish (state) (client) (queue)
      (served : state.desk = some ⟨client, queue⟩) (running : state.phase client = .running) :
      Step state { state with
        desk := some ⟨client, queue ++ [.finished]⟩
        phase := Function.update state.phase client .ended }
  | die (state) (client) (running : state.phase client = .running) :
      Step state { state with phase := Function.update state.phase client .ended }
  | hear (state) (client) (rest) (served : state.desk = some ⟨client, .notice :: rest⟩) :
      Step state { state with desk := some ⟨client, rest⟩ }
  | display (state) (client) (request) (rest)
      (served : state.desk = some ⟨client, .ask request :: rest⟩)
      (going : state.stopped client = false) :
      Step state { state with
        desk := some ⟨client, rest⟩, shown := some (request, rules.blank) }
  | refuse (state) (client) (request) (rest)
      (served : state.desk = some ⟨client, .ask request :: rest⟩) :
      Step state { state with
        desk := some ⟨client, rest⟩, sent := state.sent ++ [(request, none)] }
  | close (state) (client) (rest) (served : state.desk = some ⟨client, .finished :: rest⟩) :
      Step state { state with desk := none }
  | discard (state) (free : state.desk = none) : Step state { state with shown := none }
  | stop (state) (client) (clear : state.shown = none) :
      Step state { state with stopped := Function.update state.stopped client true }
  | press (state) (request) (entry) (key) (open_ : state.shown = some (request, entry)) :
      Step state { state with
        shown := some (request, rules.press entry key), pressed := press state request key }
  | submit (state) (request) (entry) (key) (open_ : state.shown = some (request, entry)) :
      Step state { state with
        shown := none
        sent := state.sent ++ [(request, some (rules.read (rules.press entry key)))]
        pressed := press state request key }
  | decline (state) (client) (queue) (request) (entry) (key)
      (served : state.desk = some ⟨client, queue⟩)
      (open_ : state.shown = some (request, entry)) :
      Step state { state with
        shown := none, sent := state.sent ++ [(request, none)]
        pressed := press state request key
        stopped := Function.update state.stopped client true }

abbrev Run := Relation.ReflTransGen (Step rules)

end Steps

def entered (rules : Rules Client Request Key Entry Text) (keys : List Key) : Entry :=
  keys.foldl rules.press rules.blank

def Live : Phase Request → Prop
  | .running => True
  | .waiting _ => True
  | _ => False

structure Coherent (rules : Rules Client Request Key Entry Text)
    (state : State Client Request Key Entry Text) : Prop where
  linear : (handles state).Nodup
  known : ∀ request ∈ handles state, request ∈ state.issued
  served : ∀ client, Live (state.phase client) →
    ∃ queue, state.desk = some ⟨client, queue⟩
  waits : ∀ client request, state.phase client = .waiting request →
    rules.asker request = client ∧ (request ∈ handles state ∨ state.stopped client = true)
  prompt : ∀ request entry, state.shown = some (request, entry) →
    entry = entered rules (state.pressed request) ∧
    ∃ client queue, state.desk = some ⟨client, queue⟩ ∧
      state.phase client = .waiting request ∧ state.stopped client = false
  awaited : ∀ client queue, state.desk = some ⟨client, queue⟩ →
    state.stopped client = false → ∀ request, .ask request ∈ queue →
    state.phase client = .waiting request
  closing : ∀ client queue, state.desk = some ⟨client, queue⟩ → .finished ∈ queue →
    state.phase client = .ended
  untouched : ∀ request, request ∈ askedAt state.desk ∨ request ∉ state.issued →
    state.pressed request = []
  granted : ∀ request text, (request, some text) ∈ state.sent →
    text = rules.read (entered rules (state.pressed request))

section States
variable {rules : Rules Client Request Key Entry Text}
  {state : State Client Request Key Entry Text}

/-- Only the client at the desk is live. -/
theorem Coherent.alone (coherent : Coherent rules state) {client other : Client}
    {queue : List (Message Request)} (served : state.desk = some ⟨client, queue⟩)
    (live : Live (state.phase other)) : other = client := by
  obtain ⟨_, found⟩ := coherent.served other live
  rw [served] at found
  cases found
  rfl

theorem Coherent.idle (coherent : Coherent rules state) (free : state.desk = none)
    (client : Client) : ¬ Live (state.phase client) := by
  intro live
  obtain ⟨_, found⟩ := coherent.served client live
  rw [free] at found
  cases found

/-- A prompt is open for the request that the client at the desk waits on. -/
theorem Coherent.promptOf (coherent : Coherent rules state) {client : Client}
    {queue : List (Message Request)} (served : state.desk = some ⟨client, queue⟩)
    {request : Request} {entry : Entry} (open_ : state.shown = some (request, entry)) :
    state.phase client = .waiting request ∧ state.stopped client = false := by
  obtain ⟨_, other, _, found, waiting, going⟩ := coherent.prompt request entry open_
  rw [served] at found
  cases found
  exact ⟨waiting, going⟩

/-- Nothing is shown for a free desk. -/
theorem Coherent.clear (coherent : Coherent rules state) (free : state.desk = none) :
    state.shown = none := by
  cases shows : state.shown with
  | none => rfl
  | some prompt =>
      obtain ⟨_, _, _, served, _⟩ := coherent.prompt prompt.1 prompt.2 shows
      rw [free] at served
      cases served

/-- The request shown is neither queued, nor answered, nor new. -/
theorem Coherent.shownOnly (coherent : Coherent rules state) {request : Request} {entry : Entry}
    (open_ : state.shown = some (request, entry)) :
    request ∉ askedAt state.desk ∧ request ∉ answered state.sent ∧ request ∈ state.issued := by
  have linear := coherent.linear
  have known := coherent.known request
  simp only [handles, open_, shownIn_some, List.nodup_append, List.mem_append,
    List.mem_singleton] at linear known
  refine ⟨fun queued => ?_, fun replied => ?_, known (by simp)⟩
  · exact linear.1.2.2 request queued request rfl rfl
  · exact linear.2.2 request (by simp) request replied rfl

def initial (stopped : Client → Bool) : State Client Request Key Entry Text :=
  ⟨fun _ => .absent, none, none, stopped, [], fun _ => [], ∅⟩

theorem coherent_initial (stopped : Client → Bool) :
    Coherent rules (initial stopped : State Client Request Key Entry Text) where
  linear := by simp [handles, initial, answered]
  known := by simp [handles, initial, answered]
  served := by
    intro _ live
    exact live.elim
  waits := by
    intro _ _ waiting
    cases waiting
  prompt := by simp [initial]
  awaited := by
    rintro _ _ ⟨⟩
  closing := by
    rintro _ _ ⟨⟩
  untouched := by simp [initial]
  granted := by simp [initial]

/-- Wherever a client waits, something can still wake it. -/
theorem Coherent.awaits (coherent : Coherent rules state) {client : Client} {request : Request}
    (waiting : state.phase client = .waiting request) :
    request ∈ askedAt state.desk ∨ request ∈ shownIn state.shown ∨
      request ∈ answered state.sent ∨ state.stopped client = true := by
  obtain ⟨_, held⟩ := coherent.waits client request waiting
  simpa [handles, or_assoc] using held

theorem Coherent.answeredOnce (coherent : Coherent rules state) :
    (answered state.sent).Nodup := (List.nodup_append.mp coherent.linear).2.1

end States

section Queues
variable {rules : Rules Client Request Key Entry Text}
  {state : State Client Request Key Entry Text}

/-- A queue that asks and ends nothing new. -/
theorem Coherent.requeue (coherent : Coherent rules state) {client : Client}
    {queue : List (Message Request)} (served : state.desk = some ⟨client, queue⟩)
    (later : List (Message Request)) (same : asks later = asks queue)
    (closes : .finished ∈ later → .finished ∈ queue) :
    Coherent rules { state with desk := some ⟨client, later⟩ } where
  linear := by
    simpa [handles, served, same] using coherent.linear
  known := by
    simpa [handles, served, same] using coherent.known
  served := by
    intro other live
    exact ⟨later, by rw [coherent.alone served live]⟩
  waits := by
    intro other request waiting
    simpa [handles, served, same] using coherent.waits other request waiting
  prompt := by
    intro request entry open_
    obtain ⟨shows, _⟩ := coherent.prompt request entry open_
    exact ⟨shows, client, later, rfl, coherent.promptOf served open_⟩
  awaited := by
    rintro _ _ ⟨⟩ going request queued
    refine coherent.awaited client queue served going request ?_
    rwa [← mem_asks, ← same, mem_asks]
  closing := by
    rintro _ _ ⟨⟩ finished
    exact coherent.closing client queue served (closes finished)
  untouched := by
    intro request untouched
    exact coherent.untouched request (by simpa [served, same] using untouched)
  granted := coherent.granted

/-- The last message of an ended client. -/
theorem Coherent.lastWord (coherent : Coherent rules state) {client : Client}
    {queue : List (Message Request)} (served : state.desk = some ⟨client, queue⟩)
    (ended : state.phase client = .ended) :
    Coherent rules { state with desk := some ⟨client, queue ++ [.finished]⟩ } where
  linear := by simpa [handles, served] using coherent.linear
  known := by simpa [handles, served] using coherent.known
  served := by
    intro other live
    exact ⟨_, by rw [coherent.alone served live]⟩
  waits := by
    intro other request waiting
    simpa [handles, served] using coherent.waits other request waiting
  prompt := by
    intro request entry open_
    have waiting := (coherent.promptOf served open_).1
    rw [ended] at waiting
    cases waiting
  awaited := by
    rintro _ _ ⟨⟩ going request queued
    exact coherent.awaited client queue served going request (by simpa using queued)
  closing := by
    rintro _ _ ⟨⟩ _
    exact ended
  untouched := by
    intro request untouched
    exact coherent.untouched request (by simpa [served] using untouched)
  granted := coherent.granted

theorem Coherent.display (coherent : Coherent rules state) {client : Client}
    {request : Request} {rest : List (Message Request)}
    (served : state.desk = some ⟨client, .ask request :: rest⟩)
    (going : state.stopped client = false) :
    Coherent rules { state with
      desk := some ⟨client, rest⟩, shown := some (request, rules.blank) } := by
  have waiting := coherent.awaited client _ served going request (by simp)
  -- Nothing else is shown: its request too would be the one waited on.
  have clear : state.shown = none := by
    cases shows : state.shown with
    | none => rfl
    | some prompt =>
        obtain ⟨shown, entry⟩ := prompt
        have other := (coherent.promptOf served shows).1
        rw [waiting] at other
        cases other
        have linear := coherent.linear
        simp [handles, served, shows] at linear
  have linear := coherent.linear
  have known := coherent.known
  simp only [handles, served, clear, askedAt_some, asks_ask, shownIn_none] at linear known
  refine ⟨?_, ?_, ?_, ?_, ?_, ?_, ?_, ?_, coherent.granted⟩
  · simp only [handles, askedAt_some, shownIn_some]
    grind
  · intro other used
    refine known other ?_
    simp only [handles, askedAt_some, shownIn_some] at used
    grind
  · intro other live
    exact ⟨rest, by rw [coherent.alone served live]⟩
  · intro other another waits
    have before := coherent.waits other another waits
    simp only [handles, served, clear, askedAt_some, asks_ask, shownIn_none] at before
    simp only [handles, askedAt_some, shownIn_some]
    grind
  · rintro _ _ ⟨⟩
    refine ⟨?_, client, rest, rfl, waiting, going⟩
    rw [coherent.untouched request (.inl (by simp [served]))]
    rfl
  · rintro _ _ ⟨⟩ _ other queued
    exact coherent.awaited client _ served going other (by simp [queued])
  · rintro _ _ ⟨⟩ finished
    exact coherent.closing client _ served (by simp [finished])
  · intro other untouched
    refine coherent.untouched other (untouched.imp_left fun queued => ?_)
    simp only [askedAt_some] at queued
    simp [served, queued]

theorem Coherent.refuse (coherent : Coherent rules state) {client : Client}
    {request : Request} {rest : List (Message Request)}
    (served : state.desk = some ⟨client, .ask request :: rest⟩) :
    Coherent rules { state with
      desk := some ⟨client, rest⟩, sent := state.sent ++ [(request, none)] } := by
  have linear := coherent.linear
  have known := coherent.known
  simp only [handles, served, askedAt_some, asks_ask] at linear known
  refine ⟨?_, ?_, ?_, ?_, ?_, ?_, ?_, ?_, ?_⟩
  · simp only [handles, askedAt_some, answered_append]
    grind
  · intro other used
    refine known other ?_
    simp only [handles, askedAt_some, answered_append] at used
    grind
  · intro other live
    exact ⟨rest, by rw [coherent.alone served live]⟩
  · intro other another waits
    have before := coherent.waits other another waits
    simp only [handles, served, askedAt_some, asks_ask] at before
    simp only [handles, askedAt_some, answered_append]
    grind
  · intro other entry open_
    obtain ⟨shows, _⟩ := coherent.prompt other entry open_
    exact ⟨shows, client, rest, rfl, coherent.promptOf served open_⟩
  · rintro _ _ ⟨⟩ going other queued
    exact coherent.awaited client _ served going other (by simp [queued])
  · rintro _ _ ⟨⟩ finished
    exact coherent.closing client _ served (by simp [finished])
  · intro other untouched
    refine coherent.untouched other (untouched.imp_left fun queued => ?_)
    simp only [askedAt_some] at queued
    simp [served, queued]
  · intro other text sent
    exact coherent.granted other text (by simpa using sent)

theorem Coherent.close (coherent : Coherent rules state) {client : Client}
    {rest : List (Message Request)} (served : state.desk = some ⟨client, .finished :: rest⟩) :
    Coherent rules { state with desk := none } := by
  have ended := coherent.closing client _ served (by simp)
  have dead : ∀ other, ¬ Live (state.phase other) := by
    intro other live
    have same := coherent.alone served live
    subst same
    simp [ended, Live] at live
  have linear := coherent.linear
  have known := coherent.known
  simp only [handles, served, askedAt_some, asks_finished] at linear known
  refine ⟨?_, ?_, ?_, ?_, ?_, ?_, ?_, ?_, coherent.granted⟩
  · simp only [handles, askedAt_none]
    grind
  · intro other used
    refine known other ?_
    simp only [handles, askedAt_none] at used
    grind
  · intro other live
    exact absurd live (dead other)
  · intro other request waiting
    change state.phase other = .waiting request at waiting
    exact absurd (by simp [waiting, Live]) (dead other)
  · intro request entry open_
    have waiting := (coherent.promptOf served open_).1
    rw [ended] at waiting
    cases waiting
  · rintro _ _ ⟨⟩
  · rintro _ _ ⟨⟩
  · intro other untouched
    refine coherent.untouched other (untouched.imp_left fun queued => ?_)
    simp at queued

end Queues

section Phases
variable [DecidableEq Client] {rules : Rules Client Request Key Entry Text}
  {state : State Client Request Key Entry Text}

theorem Coherent.start (coherent : Coherent rules state) (client : Client)
    (free : state.desk = none) (clear : state.shown = none) :
    Coherent rules { state with
      desk := some ⟨client, []⟩, phase := Function.update state.phase client .running } where
  linear := by
    simpa [handles, free, clear] using coherent.linear
  known := by
    simpa [handles, free, clear] using coherent.known
  served := by
    intro other live
    by_cases same : other = client
    · exact ⟨[], by simp [same]⟩
    · simp only [Function.update_of_ne same] at live
      exact absurd live (coherent.idle free other)
  waits := by
    intro other request waiting
    by_cases same : other = client
    · subst same
      simp at waiting
    · simp only [Function.update_of_ne same] at waiting
      exact absurd (by simp [waiting, Live]) (coherent.idle free other)
  prompt := by simp [clear]
  awaited := by
    rintro _ _ ⟨⟩
    simp
  closing := by
    rintro _ _ ⟨⟩
    simp
  untouched := by
    intro request untouched
    exact coherent.untouched request (by simpa [free] using untouched)
  granted := coherent.granted

theorem Coherent.ask (coherent : Coherent rules state) {client : Client}
    {queue : List (Message Request)} (served : state.desk = some ⟨client, queue⟩)
    (running : state.phase client = .running) (request : Request)
    (fresh : request ∉ state.issued) (own : rules.asker request = client) :
    Coherent rules { state with
      desk := some ⟨client, queue ++ [.ask request]⟩
      phase := Function.update state.phase client (.waiting request)
      issued := insert request state.issued } where
  linear := by
    have new : request ∉ handles state := fun used => fresh (coherent.known request used)
    have before := coherent.linear
    simp only [handles, served, askedAt_some, List.mem_append, not_or] at before new
    simp only [handles, askedAt_some, asks_append, asks_ask, asks_nil]
    grind
  known := by
    intro other used
    have before := coherent.known other
    simp only [handles, served, askedAt_some, asks_append, asks_ask, asks_nil, List.mem_append,
      List.mem_singleton] at used before
    grind
  served := by
    intro other live
    by_cases same : other = client
    · exact ⟨_, by rw [same]⟩
    · simp only [Function.update_of_ne same] at live
      exact absurd (coherent.alone served live) same
  waits := by
    intro other asked_ waiting
    by_cases same : other = client
    · subst same
      simp only [Function.update_self, Phase.waiting.injEq] at waiting
      subst waiting
      exact ⟨own, .inl (by simp [handles])⟩
    · simp only [Function.update_of_ne same] at waiting
      exact absurd (coherent.alone served (by simp [waiting, Live])) same
  prompt := by
    intro shown entry open_
    have waiting := (coherent.promptOf served open_).1
    rw [running] at waiting
    cases waiting
  awaited := by
    rintro _ _ ⟨⟩ going other queued
    rcases List.mem_append.mp queued with before | new
    · have waiting := coherent.awaited client queue served going other before
      rw [running] at waiting
      cases waiting
    · simp only [List.mem_singleton, Message.ask.injEq] at new
      simp [new]
  closing := by
    rintro _ _ ⟨⟩ finished
    have ended := coherent.closing client queue served (by simpa using finished)
    rw [running] at ended
    cases ended
  untouched := by
    intro other untouched
    refine coherent.untouched other ?_
    simp only [served, askedAt_some, asks_append, asks_ask, asks_nil, List.mem_append,
      List.mem_singleton, Set.mem_insert_iff, not_or] at untouched ⊢
    grind
  granted := coherent.granted

/-- A client stops waiting, for a request that is neither queued nor shown, or
because it has been stopped. -/
theorem Coherent.resume (coherent : Coherent rules state) {client : Client} {request : Request}
    (waiting : state.phase client = .waiting request)
    (settled : (request ∉ askedAt state.desk ∧ request ∉ shownIn state.shown) ∨
      state.stopped client = true) :
    Coherent rules { state with phase := Function.update state.phase client .running } where
  linear := coherent.linear
  known := coherent.known
  served := by
    intro other live
    by_cases same : other = client
    · subst same
      exact coherent.served other (by simp [waiting, Live])
    · simp only [Function.update_of_ne same] at live
      exact coherent.served other live
  waits := by
    intro other another waits
    by_cases same : other = client
    · subst same
      simp at waits
    · simp only [Function.update_of_ne same] at waits
      exact coherent.waits other another waits
  prompt := by
    intro shown entry open_
    change state.shown = some (shown, entry) at open_
    obtain ⟨shows, other, queue, served, waits, going⟩ := coherent.prompt shown entry open_
    have live : Live (state.phase client) := by simp [waiting, Live]
    have same := coherent.alone served live
    subst same
    rw [waiting] at waits
    cases waits
    rcases settled with ⟨_, closed⟩ | stopped
    · simp [open_] at closed
    · simp [going] at stopped
  awaited := by
    intro other queue served going another queued
    change state.desk = some ⟨other, queue⟩ at served
    have waits := coherent.awaited other queue served going another queued
    have live : Live (state.phase client) := by simp [waiting, Live]
    have same := coherent.alone served live
    subst same
    rw [waiting] at waits
    cases waits
    rcases settled with ⟨unqueued, _⟩ | stopped
    · simp [served, queued] at unqueued
    · exact absurd (going.symm.trans stopped) (by simp)
  closing := by
    intro other queue served finished
    have ended := coherent.closing other queue served finished
    by_cases same : other = client
    · subst same
      rw [waiting] at ended
      cases ended
    · simpa only [Function.update_of_ne same] using ended
  untouched := coherent.untouched
  granted := coherent.granted

theorem Coherent.receive (coherent : Coherent rules state) {client : Client} {request : Request}
    (waiting : state.phase client = .waiting request)
    (replied : request ∈ answered state.sent) :
    Coherent rules { state with phase := Function.update state.phase client .running } := by
  refine coherent.resume waiting (.inl ?_)
  have linear := coherent.linear
  simp only [handles, List.nodup_append, List.mem_append] at linear
  exact ⟨fun queued => linear.2.2 request (.inl queued) request replied rfl,
    fun shown => linear.2.2 request (.inr shown) request replied rfl⟩

theorem Coherent.die (coherent : Coherent rules state) {client : Client}
    (running : state.phase client = .running) :
    Coherent rules { state with phase := Function.update state.phase client .ended } where
  linear := coherent.linear
  known := coherent.known
  served := by
    intro other live
    by_cases same : other = client
    · subst same
      simp [Live] at live
    · simp only [Function.update_of_ne same] at live
      exact coherent.served other live
  waits := by
    intro other request waits
    by_cases same : other = client
    · subst same
      simp at waits
    · simp only [Function.update_of_ne same] at waits
      exact coherent.waits other request waits
  prompt := by
    intro request entry open_
    obtain ⟨_, other, _, served, waits, _⟩ := coherent.prompt request entry open_
    have live : Live (state.phase client) := by simp [running, Live]
    have same := coherent.alone served live
    subst same
    simp [running] at waits
  awaited := by
    intro other queue served going request queued
    have waits := coherent.awaited other queue served going request queued
    have live : Live (state.phase client) := by simp [running, Live]
    have same := coherent.alone served live
    subst same
    simp [running] at waits
  closing := by
    intro other queue served finished
    by_cases same : other = client
    · simp [same]
    · simp only [Function.update_of_ne same]
      exact coherent.closing other queue served finished
  untouched := coherent.untouched
  granted := coherent.granted

theorem Coherent.stop (coherent : Coherent rules state) (client : Client)
    (clear : state.shown = none) :
    Coherent rules { state with stopped := Function.update state.stopped client true } where
  linear := coherent.linear
  known := coherent.known
  served := coherent.served
  waits := by
    intro other request waiting
    obtain ⟨own, held⟩ := coherent.waits other request waiting
    refine ⟨own, held.imp_right fun stopped => ?_⟩
    by_cases same : other = client
    · simp [same]
    · simpa [Function.update_of_ne same] using stopped
  prompt := by simp [clear]
  awaited := by
    intro other queue served going
    by_cases same : other = client
    · simp [same] at going
    · simp only [Function.update_of_ne same] at going
      exact coherent.awaited other queue served going
  closing := coherent.closing
  untouched := coherent.untouched
  granted := coherent.granted

end Phases

section Keys
variable [DecidableEq Request] {rules : Rules Client Request Key Entry Text}
  {state : State Client Request Key Entry Text}

theorem press_of_ne {request other : Request} (different : other ≠ request) (key : Key) :
    press state request key other = state.pressed other := Function.update_of_ne different _ _

theorem entered_press (request : Request) (key : Key) :
    entered rules (press state request key request) =
      rules.press (entered rules (state.pressed request)) key := by
  simp [press, entered]

/-- A key changes what is known of the request shown only. -/
theorem Coherent.untouchedBy (coherent : Coherent rules state) {request : Request}
    {entry : Entry} (open_ : state.shown = some (request, entry)) (key : Key) (other : Request)
    (untouched : other ∈ askedAt state.desk ∨ other ∉ state.issued) :
    press state request key other = [] := by
  obtain ⟨unqueued, _, issued⟩ := coherent.shownOnly open_
  have different : other ≠ request := by
    rintro rfl
    exact untouched.elim unqueued (fun new => new issued)
  rw [press_of_ne different]
  exact coherent.untouched other untouched

theorem Coherent.grantedBy (coherent : Coherent rules state) {request : Request}
    {entry : Entry} (open_ : state.shown = some (request, entry)) (key : Key) (other : Request)
    (text : Text) (sent : (other, some text) ∈ state.sent) :
    text = rules.read (entered rules (press state request key other)) := by
  obtain ⟨_, unanswered, _⟩ := coherent.shownOnly open_
  have different : other ≠ request := by
    rintro rfl
    exact unanswered (List.mem_map.mpr ⟨_, sent, rfl⟩)
  rw [press_of_ne different]
  exact coherent.granted other text sent

theorem Coherent.press (coherent : Coherent rules state) {request : Request} {entry : Entry}
    (open_ : state.shown = some (request, entry)) (key : Key) :
    Coherent rules { state with
      shown := some (request, rules.press entry key)
      pressed := Dialogue.press state request key } where
  linear := by simpa [handles, open_] using coherent.linear
  known := by simpa [handles, open_] using coherent.known
  served := coherent.served
  waits := by
    intro client other waiting
    simpa [handles, open_] using coherent.waits client other waiting
  prompt := by
    rintro _ _ ⟨⟩
    obtain ⟨shows, held⟩ := coherent.prompt request entry open_
    exact ⟨by rw [entered_press, shows], held⟩
  awaited := coherent.awaited
  closing := coherent.closing
  untouched := coherent.untouchedBy open_ key
  granted := coherent.grantedBy open_ key

/-- The reply to the request shown, with the text its keys come to or with none. -/
theorem Coherent.answer (coherent : Coherent rules state) {request : Request} {entry : Entry}
    (open_ : state.shown = some (request, entry)) (key : Key) (reply : Option Text)
    (reads : ∀ text, reply = some text → text = rules.read (rules.press entry key)) :
    Coherent rules { state with
      shown := none, sent := state.sent ++ [(request, reply)]
      pressed := Dialogue.press state request key } where
  linear := by
    have linear := coherent.linear
    simp only [handles, open_, shownIn_some] at linear
    simp only [handles, shownIn_none, answered_append]
    grind
  known := by
    intro other used
    refine coherent.known other ?_
    simp only [handles, shownIn_none, answered_append] at used
    simp only [handles, open_, shownIn_some]
    grind
  served := coherent.served
  waits := by
    intro client other waiting
    have before := coherent.waits client other waiting
    simp only [handles, open_, shownIn_some] at before
    simp only [handles, shownIn_none, answered_append]
    grind
  prompt := by simp
  awaited := coherent.awaited
  closing := coherent.closing
  untouched := coherent.untouchedBy open_ key
  granted := by
    intro other text sent
    rcases List.mem_append.mp sent with before | new
    · exact coherent.grantedBy open_ key other text before
    · simp only [List.mem_singleton, Prod.mk.injEq] at new
      obtain ⟨rfl, granted⟩ := new
      rw [entered_press, ← (coherent.prompt other entry open_).1]
      exact reads text granted.symm

end Keys

section Runs
variable [DecidableEq Client] [DecidableEq Request] {rules : Rules Client Request Key Entry Text}
  {state after : State Client Request Key Entry Text}

theorem Coherent.step (coherent : Coherent rules state) (step : Step rules state after) :
    Coherent rules after := by
  cases step with
  | start client free clear new going => exact coherent.start client free clear
  | tell client queue served => exact coherent.requeue served _ (by simp) (by simp)
  | ask client queue request served running fresh own =>
      exact coherent.ask served running request fresh own
  | withdraw client request waits stopped => exact coherent.resume waits (.inr stopped)
  | receive client request waits replied => exact coherent.receive waits replied
  | hangUp client request waits dropped =>
      simp only [handles, List.mem_append, not_or] at dropped
      exact coherent.resume waits (.inl dropped.1)
  | finish client queue served running =>
      exact (coherent.die running).lastWord served (by simp)
  | die client running => exact coherent.die running
  | hear client rest served => exact coherent.requeue served rest (by simp) (by simp)
  | display client request rest served going => exact coherent.display served going
  | refuse client request rest served => exact coherent.refuse served
  | close client rest served => exact coherent.close served
  | discard free => simpa [← coherent.clear free] using coherent
  | stop client clear => exact coherent.stop client clear
  | press request entry key open_ => exact coherent.press open_ key
  | submit request entry key open_ =>
      exact coherent.answer open_ key _ (by rintro _ ⟨⟩; rfl)
  | decline client queue request entry key served open_ =>
      exact (coherent.answer open_ key none (by rintro _ ⟨⟩)).stop client rfl

theorem Coherent.run (coherent : Coherent rules state) (run : Run rules state after) :
    Coherent rules after := by
  induction run with
  | refl => exact coherent
  | tail _ step ih => exact ih.step step

theorem stopped_step (step : Step rules state after) {client : Client}
    (stopped : state.stopped client = true) : after.stopped client = true := by
  cases step with
  | stop other clear =>
      by_cases same : client = other
      · simp [same]
      · simpa [Function.update_of_ne same] using stopped
  | decline other queue request entry key served open_ =>
      by_cases same : client = other
      · simp [same]
      · simpa [Function.update_of_ne same] using stopped
  | _ => exact stopped

/-- A text is only sent for a client that is going on. -/
theorem Coherent.grants_step (coherent : Coherent rules state) (step : Step rules state after)
    {request : Request} {text : Text} (sent : (request, some text) ∈ after.sent) :
    (request, some text) ∈ state.sent ∨ state.stopped (rules.asker request) = false := by
  cases step with
  | refuse client other rest served => exact .inl (by simpa using sent)
  | submit other entry key open_ =>
      rcases List.mem_append.mp sent with before | new
      · exact .inl before
      · simp only [List.mem_singleton, Prod.mk.injEq] at new
        obtain ⟨rfl, _⟩ := new
        obtain ⟨_, client, _, _, waiting, going⟩ := coherent.prompt request entry open_
        rw [(coherent.waits client request waiting).1]
        exact .inr going
  | decline client queue other entry key served open_ => exact .inl (by simpa using sent)
  | _ => exact .inl sent

/-- Once a client is stopped, none of its requests is answered with a text. -/
theorem Coherent.silent (coherent : Coherent rules state) (run : Run rules state after)
    {request : Request} (stopped : state.stopped (rules.asker request) = true) {text : Text}
    (sent : (request, some text) ∈ after.sent) :
    (request, some text) ∈ state.sent := by
  induction run with
  | refl => exact sent
  | @tail middle after run step ih =>
      have still : middle.stopped (rules.asker request) = true := by
        clear ih sent step
        induction run with
        | refl => exact stopped
        | tail _ step ih => exact stopped_step step ih
      rcases (coherent.run run).grants_step step sent with before | going
      · exact ih before
      · rw [still] at going
        cases going

end Runs

end Dialogue
