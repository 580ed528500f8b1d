/-!
An asynchronous channel as its receiving side sees it: the messages queued, and
whether a sender is left. A loop that receives until nothing is there comes with
the rule its proofs use: what holds before each message, and what holds where
the loop stops.
-/
namespace Channels

universe u v
variable {α : Type u} {σ : Type v}

structure Channel (α : Type u) where
  queue : List α
  connected : Bool
  deriving DecidableEq, Repr

inductive TryRecvError where
  | empty
  | disconnected
  deriving DecidableEq, Repr

def channel : Channel α := ⟨[], true⟩

def send (receiver : Channel α) (message : α) : Channel α :=
  { receiver with queue := receiver.queue ++ [message] }

/-- The last sender is dropped. What was sent before can still be received. -/
def disconnect (receiver : Channel α) : Channel α :=
  { receiver with connected := false }

def tryRecv (receiver : Channel α) : Except TryRecvError α × Channel α :=
  match receiver.queue with
  | message :: rest => (.ok message, { receiver with queue := rest })
  | [] => (.error (if receiver.connected then .empty else .disconnected), receiver)

section Loop
variable (body : σ → α → ForInStep σ)

/-- A loop over the messages of a queue, left early where the body is done, and
the messages it leaves queued. -/
def receiveEach : σ → List α → σ × List α
  | state, [] => (state, [])
  | state, message :: rest =>
      match body state message with
      | .yield next => receiveEach next rest
      | .done last => (last, rest)

/-- `while let Ok(message) = receiver.try_recv()`. -/
def whileOk (state : σ) (receiver : Channel α) : σ × Channel α :=
  let (last, rest) := receiveEach body state receiver.queue
  (last, { receiver with queue := rest })

/-- One turn of the loop is one `tryRecv`, whatever error ends it. -/
theorem whileOk_tryRecv (state : σ) (receiver : Channel α) :
    whileOk body state receiver =
      match tryRecv receiver with
      | (.error _, after) => (state, after)
      | (.ok message, after) =>
          match body state message with
          | .yield next => whileOk body next after
          | .done last => (last, after) := by
  rcases receiver with ⟨_ | ⟨message, rest⟩, connected⟩
  · rfl
  · simp only [whileOk, tryRecv, receiveEach]
    cases body state message <;> rfl

/-- The rule of the loop: `inv` holds before each message, and `post` where the
loop ends, with the messages then left. -/
theorem receiveEach_rule (inv post : σ → List α → Prop)
    (drained : ∀ state, inv state [] → post state [])
    (yielded : ∀ state message rest next, inv state (message :: rest) →
      body state message = .yield next → inv next rest)
    (done : ∀ state message rest last, inv state (message :: rest) →
      body state message = .done last → post last rest)
    (state : σ) (queue : List α) (start : inv state queue) :
    post (receiveEach body state queue).1 (receiveEach body state queue).2 := by
  induction queue generalizing state with
  | nil => exact drained state start
  | cons message rest ih =>
      rw [receiveEach]
      cases turn : body state message with
      | yield next => exact ih next (yielded state message rest next start turn)
      | done last => exact done state message rest last start turn

theorem whileOk_rule (inv post : σ → List α → Prop)
    (drained : ∀ state, inv state [] → post state [])
    (yielded : ∀ state message rest next, inv state (message :: rest) →
      body state message = .yield next → inv next rest)
    (done : ∀ state message rest last, inv state (message :: rest) →
      body state message = .done last → post last rest)
    (state : σ) (receiver : Channel α) (start : inv state receiver.queue) :
    post (whileOk body state receiver).1 (whileOk body state receiver).2.queue :=
  receiveEach_rule body inv post drained yielded done state receiver.queue start

@[simp] theorem whileOk_connected (state : σ) (receiver : Channel α) :
    (whileOk body state receiver).2.connected = receiver.connected := rfl

end Loop

end Channels
