import Timelocked.RunRules
import Timelocked.Blocks

/-!
Code that may panic. Each partial operation of the language, applied outside
its domain, stops the program; a fallible function that returns an error does
not. A guarded computation agrees with a plain fallible one when it returns
what that returns: then no operation in it was applied outside its domain.
-/
namespace Panics
open RunRules Blocks

inductive Panic where
  | sliceOutOfRange
  | wrongArrayLength
  | arithmeticOverflow
  | zeroChunkSize
  | divisionByZero
  | expectedValue (message : String)
  deriving DecidableEq, Repr

/-- Why a guarded computation did not return a value: it panicked, or it
returned an error. -/
inductive Stop (failure : Type) where
  | panic (cause : Panic)
  | returned (reason : failure)

abbrev Guarded (failure α : Type) := Except (Stop failure) α

variable {failure α β : Type}

def panics (cause : Panic) : Guarded failure α := .error (.panic cause)

def returns (value : Except failure α) : Guarded failure α := value.mapError .returned

/-- `value.ok()`: an error is dropped, a panic is not. -/
def attempt (value : Guarded failure α) : Guarded failure (Option α) :=
  match value with
  | .ok result => .ok (some result)
  | .error (.returned _) => .ok none
  | .error (.panic cause) => panics cause

/-- `&items[start..stop]`. -/
def slice (items : List α) (start stop : Nat) : Guarded failure (List α) :=
  if start ≤ stop ∧ stop ≤ items.length then .ok ((items.drop start).take (stop - start))
  else panics .sliceOutOfRange

def sliceFrom (items : List α) (start : Nat) : Guarded failure (List α) :=
  if start ≤ items.length then .ok (items.drop start) else panics .sliceOutOfRange

def sliceTo (items : List α) (stop : Nat) : Guarded failure (List α) :=
  if stop ≤ items.length then .ok (items.take stop) else panics .sliceOutOfRange

/-- `items.try_into().expect(..)` for an array of this length. -/
def toArray (length : Nat) (items : List α) : Guarded failure (List α) :=
  if items.length = length then .ok items else panics .wrongArrayLength

def add (left right : Nat) : Guarded failure Nat :=
  if left + right < 2 ^ 64 then .ok (left + right) else panics .arithmeticOverflow

def sub (left right : Nat) : Guarded failure Nat :=
  if right ≤ left then .ok (left - right) else panics .arithmeticOverflow

def mul (left right : Nat) : Guarded failure Nat :=
  if left * right < 2 ^ 64 then .ok (left * right) else panics .arithmeticOverflow

def rem (left right : Nat) : Guarded failure Nat :=
  if right = 0 then panics .divisionByZero else .ok (left % right)

def chunks (width : Nat) (items : List α) : Guarded failure (List (List α)) :=
  if width = 0 then panics .zeroChunkSize else .ok (chunksExact width items)

def expect (message : String) (value : Option α) : Guarded failure α :=
  match value with
  | some result => .ok result
  | none => panics (.expectedValue message)

theorem slice_eq (items : List α) (start stop : Nat) (ordered : start ≤ stop)
    (inside : stop ≤ items.length) :
    (slice items start stop : Guarded failure (List α)) =
      .ok ((items.drop start).take (stop - start)) := if_pos ⟨ordered, inside⟩

theorem sliceFrom_eq (items : List α) (start : Nat) (inside : start ≤ items.length) :
    (sliceFrom items start : Guarded failure (List α)) = .ok (items.drop start) := if_pos inside

theorem sliceTo_eq (items : List α) (stop : Nat) (inside : stop ≤ items.length) :
    (sliceTo items stop : Guarded failure (List α)) = .ok (items.take stop) := if_pos inside

theorem toArray_eq (length : Nat) (items : List α) (same : items.length = length) :
    (toArray length items : Guarded failure (List α)) = .ok items := if_pos same

theorem add_eq (left right : Nat) (fits : left + right < 2 ^ 64) :
    (add left right : Guarded failure Nat) = .ok (left + right) := if_pos fits

theorem sub_eq (left right : Nat) (fits : right ≤ left) :
    (sub left right : Guarded failure Nat) = .ok (left - right) := if_pos fits

theorem mul_eq (left right : Nat) (fits : left * right < 2 ^ 64) :
    (mul left right : Guarded failure Nat) = .ok (left * right) := if_pos fits

theorem rem_eq (left right : Nat) (nonzero : right ≠ 0) :
    (rem left right : Guarded failure Nat) = .ok (left % right) := if_neg nonzero

theorem chunks_eq (width : Nat) (items : List α) (nonzero : width ≠ 0) :
    (chunks width items : Guarded failure (List (List α))) = .ok (chunksExact width items) :=
  if_neg nonzero

/-- No panic, and the result of the plain computation. -/
def Agrees (guarded : Guarded failure α) (plain : Except failure α) : Prop :=
  guarded = returns plain

theorem agrees_returns (plain : Except failure α) : Agrees (returns plain) plain := rfl

theorem agrees_pure (value : α) : Agrees (pure value : Guarded failure α) (.ok value) := rfl

theorem agrees_bind {guarded : Guarded failure α} {plain : Except failure α}
    {next : α → Guarded failure β} {plainNext : α → Except failure β}
    (first : Agrees guarded plain)
    (later : ∀ value, plain = .ok value → Agrees (next value) (plainNext value)) :
    Agrees (guarded >>= next) (plain >>= plainNext) := by
  unfold Agrees at first ⊢
  rw [first]
  cases plain with
  | error reason => rfl
  | ok value => exact later value rfl

/-- An operation inside its domain, before the rest. -/
theorem agrees_step {guarded : Guarded failure α} {value : α} {next : α → Guarded failure β}
    {plain : Except failure β} (inside : guarded = .ok value) (later : Agrees (next value) plain) :
    Agrees (guarded >>= next) plain := by
  rw [inside]
  exact later

/-- An error is refused by both; what is not refused may be used after. -/
theorem agrees_rejectIf {bad : Prop} [Decidable bad] {reason : failure}
    {next : Unit → Guarded failure β} {plainNext : Unit → Except failure β}
    (later : ¬ bad → Agrees (next ()) (plainNext ())) :
    Agrees (returns (rejectIf bad reason) >>= next) (rejectIf bad reason >>= plainNext) :=
  agrees_bind (agrees_returns _) fun _ accepted => later ((rejectIf_eq_ok _ _ _).mp accepted)

theorem attempt_agrees {guarded : Guarded failure α} {plain : Except failure α}
    (agrees : Agrees guarded plain) : attempt guarded = .ok plain.toOption := by
  rw [agrees]
  cases plain <;> rfl

theorem agrees_mapM (step : α → Guarded failure β) (plainStep : α → Except failure β)
    (inputs : List α) (each : ∀ input ∈ inputs, Agrees (step input) (plainStep input)) :
    Agrees (inputs.mapM step) (inputs.mapM plainStep) := by
  induction inputs with
  | nil => exact agrees_pure []
  | cons input rest ih =>
      rw [List.mapM_cons, List.mapM_cons]
      apply agrees_bind (each input (by simp))
      intro output _
      apply agrees_bind (ih fun other member => each other (by simp [member]))
      intro outputs _
      exact agrees_pure _

theorem agrees_ne_panic {guarded : Guarded failure α} {plain : Except failure α}
    (agrees : Agrees guarded plain) (cause : Panic) : guarded ≠ .error (.panic cause) := by
  rw [agrees]
  cases plain with
  | ok value => exact ok_avoids value _
  | error reason => exact fun same => by cases same

section Runs
variable {state : Type}

def raise (run : Run failure state α) : Run (Stop failure) state α :=
  fun s => (returns (run s).1, (run s).2)

def RunAgrees (guarded : Run (Stop failure) state α) (plain : Run failure state α) : Prop :=
  guarded = raise plain

theorem runAgrees_raise (plain : Run failure state α) : RunAgrees (raise plain) plain := rfl

theorem runAgrees_lift {guarded : Guarded failure α} {plain : Except failure α}
    (agrees : Agrees guarded plain) :
    RunAgrees (Run.lift guarded : Run (Stop failure) state α) (Run.lift plain) := by
  rw [agrees]
  rfl

theorem runAgrees_pure (value : α) :
    RunAgrees (pure value : Run (Stop failure) state α) (pure value) := rfl

theorem runAgrees_bind {guarded : Run (Stop failure) state α} {plain : Run failure state α}
    {next : α → Run (Stop failure) state β} {plainNext : α → Run failure state β}
    (first : RunAgrees guarded plain)
    (later : ∀ s value s', plain s = (.ok value, s') →
      RunAgrees (next value) (plainNext value)) :
    RunAgrees (guarded >>= next) (plain >>= plainNext) := by
  funext s
  rcases outcome : plain s with ⟨result, s'⟩
  have begun : guarded s = (returns result, s') := by
    rw [first, raise, outcome]
  cases result with
  | ok value =>
      rw [Run.bind_of_ok begun, raise, Run.bind_of_ok outcome, later s value s' outcome]
      rfl
  | error reason =>
      rw [Run.bind_of_error begun, raise, Run.bind_of_error outcome]
      rfl

/-- An operation inside its domain, before the rest. -/
theorem runAgrees_step {guarded : Guarded failure α} {value : α}
    {next : α → Run (Stop failure) state β} {plain : Run failure state β}
    (inside : guarded = .ok value) (later : RunAgrees (next value) plain) :
    RunAgrees (Run.lift guarded >>= next) plain := by
  funext s
  rw [Run.lift_bind_of_ok inside, later]

theorem runAgrees_ne_panic {guarded : Run (Stop failure) state α} {plain : Run failure state α}
    (agrees : RunAgrees guarded plain) (s : state) (cause : Panic) :
    (guarded s).1 ≠ .error (.panic cause) := by
  rw [agrees]
  exact agrees_ne_panic (agrees_returns (plain s).1) cause

end Runs

end Panics
