import Mathlib.Data.List.Forall2

/-!
Fallible computations and the state they leave behind. A run that fails still
returns the state it failed in: clean-up properties are about that state. The
rules below are the only way the rest of the development takes a run apart.
-/
namespace RunRules

variable {failure state α β γ : Type}

theorem toOption_eq_some {failure α : Type} {outcome : Except failure α} {value : α}
    (some_ : outcome.toOption = some value) : outcome = .ok value := by
  cases outcome with
  | error reason => cases some_
  | ok found => exact congrArg Except.ok (Option.some.inj some_)

theorem bind_eq_ok (first : Except failure α) (next : α → Except failure β) (result : β) :
    (first >>= next) = .ok result ↔ ∃ value, first = .ok value ∧ next value = .ok result := by
  cases first with
  | ok value => simp [bind, Except.bind]
  | error reason => simp [bind, Except.bind]

@[simp] theorem ok_bind (value : α) (next : α → Except failure β) :
    ((.ok value : Except failure α) >>= next) = next value := rfl

@[simp] theorem error_bind (reason : failure) (next : α → Except failure β) :
    ((.error reason : Except failure α) >>= next) = .error reason := rfl

theorem bind_eq_error (first : Except failure α) (next : α → Except failure β)
    (reason : failure) :
    (first >>= next) = .error reason ↔
      first = .error reason ∨ ∃ value, first = .ok value ∧ next value = .error reason := by
  cases first with
  | ok value => simp [bind, Except.bind]
  | error reason' => simp [bind, Except.bind]

theorem pure_eq_ok (value : α) : (pure value : Except failure α) = .ok value := rfl

def rejectIf (bad : Prop) [Decidable bad] (reason : failure) : Except failure Unit :=
  if bad then .error reason else .ok ()

@[simp] theorem rejectIf_eq_ok (bad : Prop) [Decidable bad] (reason : failure) (done : Unit) :
    rejectIf bad reason = .ok done ↔ ¬ bad := by
  by_cases refused : bad <;> simp [rejectIf, refused]

/-- A failure for another reason. -/
theorem rejectIf_avoids (bad : Prop) [Decidable bad] {reason other : failure}
    (different : reason ≠ other) : rejectIf bad reason ≠ .error other := by
  unfold rejectIf
  split
  · exact fun same => different (Except.error.inj same)
  · exact fun same => by cases same

theorem bind_avoids {first : Except failure α} {next : α → Except failure β} {reason : failure}
    (firstAvoids : first ≠ .error reason) (nextAvoids : ∀ value, next value ≠ .error reason) :
    (first >>= next) ≠ .error reason := by
  intro failed
  rcases (bind_eq_error _ _ _).mp failed with failed | ⟨value, _, failed⟩
  · exact firstAvoids failed
  · exact nextAvoids value failed

theorem ok_avoids (value : α) (reason : failure) : (.ok value : Except failure α) ≠ .error reason :=
  fun same => by cases same

theorem mapError_avoids {failure' : Type} {translate : failure → failure'}
    {value : Except failure α} {reason : failure'} (different : ∀ cause, translate cause ≠ reason) :
    value.mapError translate ≠ .error reason := by
  cases value with
  | ok result => exact ok_avoids result reason
  | error cause => exact fun same => different cause (Except.error.inj same)

@[simp] theorem mapError_eq_ok {failure' : Type} (translate : failure → failure')
    (value : Except failure α) (result : α) :
    value.mapError translate = .ok result ↔ value = .ok result := by
  cases value <;> simp [Except.mapError]

/-- A sequence of fallible steps succeeds when each step does, in order. -/
theorem mapM_eq_ok (step : α → Except failure β) (inputs : List α) (outputs : List β) :
    inputs.mapM step = .ok outputs ↔
      List.Forall₂ (fun input output => step input = .ok output) inputs outputs := by
  induction inputs generalizing outputs with
  | nil =>
      rw [List.mapM_nil, pure_eq_ok]
      constructor
      · intro same
        cases same
        exact List.Forall₂.nil
      · intro empty
        cases empty
        rfl
  | cons input rest ih =>
      rw [List.mapM_cons, bind_eq_ok]
      constructor
      · rintro ⟨output, head, tail⟩
        obtain ⟨outputs', rest', last⟩ := (bind_eq_ok _ _ _).mp tail
        cases last
        exact List.Forall₂.cons head ((ih outputs').mp rest')
      · intro pairs
        cases pairs with
        | cons head tail =>
            refine ⟨_, head, (bind_eq_ok _ _ _).mpr ⟨_, (ih _).mpr tail, rfl⟩⟩

/-- Every output of a sequence is the output of one of its steps. -/
theorem mapM_output (step : α → Except failure β) (inputs : List α) (outputs : List β)
    (success : inputs.mapM step = .ok outputs) (output : β) (member : output ∈ outputs) :
    ∃ input, step input = .ok output := by
  rw [mapM_eq_ok] at success
  induction success with
  | nil => cases member
  | @cons input _ _ _ head _ ih =>
      rcases List.mem_cons.mp member with first | later
      · exact ⟨input, first ▸ head⟩
      · exact ih later

theorem mapM_input (step : α → Except failure β) (inputs : List α) (outputs : List β)
    (success : inputs.mapM step = .ok outputs) (input : α) (member : input ∈ inputs) :
    ∃ output, step input = .ok output := by
  rw [mapM_eq_ok] at success
  induction success with
  | nil => cases member
  | @cons _ output _ _ head _ ih =>
      rcases List.mem_cons.mp member with first | later
      · exact ⟨output, first ▸ head⟩
      · exact ih later

/-- A step that succeeds on every input succeeds along the list. -/
theorem mapM_total (step : α → Except failure β) (inputs : List α)
    (each : ∀ input ∈ inputs, ∃ output, step input = .ok output) :
    ∃ outputs, inputs.mapM step = .ok outputs := by
  simp only [mapM_eq_ok]
  induction inputs with
  | nil => exact ⟨[], .nil⟩
  | cons input rest ih =>
      obtain ⟨output, head⟩ := each input (by simp)
      obtain ⟨outputs, later⟩ := ih fun other member => each other (by simp [member])
      exact ⟨output :: outputs, .cons head later⟩

theorem mapM_avoids (step : α → Except failure β) (inputs : List α) (reason : failure)
    (each : ∀ input, step input ≠ .error reason) : inputs.mapM step ≠ .error reason := by
  induction inputs with
  | nil => exact ok_avoids _ _
  | cons input rest ih =>
      rw [List.mapM_cons]
      exact bind_avoids (each input) fun _ => bind_avoids ih fun _ => ok_avoids _ _

def Run (failure state α : Type) : Type := state → Except failure α × state

namespace Run

instance : Monad (Run failure state) where
  pure value := fun s => (.ok value, s)
  bind first next := fun s =>
    match first s with
    | (.ok value, s') => next value s'
    | (.error reason, s') => (.error reason, s')

def fail (reason : failure) : Run failure state α := fun s => (.error reason, s)

def lift (value : Except failure α) : Run failure state α := fun s => (value, s)

def read (observe : state → α) : Run failure state α := fun s => (.ok (observe s), s)

def onlyIf (condition : Prop) [Decidable condition] (run : Run failure state Unit) :
    Run failure state Unit :=
  if condition then run else pure ()

def modify (update : state → state) : Run failure state Unit := fun s => (.ok (), update s)

@[simp] theorem pure_apply (value : α) (s : state) :
    (pure value : Run failure state α) s = (.ok value, s) := rfl

@[simp] theorem fail_apply (reason : failure) (s : state) :
    (fail reason : Run failure state α) s = (.error reason, s) := rfl

@[simp] theorem lift_apply (value : Except failure α) (s : state) :
    (lift value : Run failure state α) s = (value, s) := rfl

@[simp] theorem read_apply (observe : state → α) (s : state) :
    (read observe : Run failure state α) s = (.ok (observe s), s) := rfl

@[simp] theorem modify_apply (update : state → state) (s : state) :
    (modify update : Run failure state Unit) s = (.ok (), update s) := rfl

theorem bind_of_ok {first : Run failure state α} {s s' : state} {value : α}
    (success : first s = (.ok value, s')) (next : α → Run failure state β) :
    (first >>= next) s = next value s' := by
  simp [bind, success]

theorem bind_of_error {first : Run failure state α} {s s' : state} {reason : failure}
    (failed : first s = (.error reason, s')) (next : α → Run failure state β) :
    (first >>= next) s = (.error reason, s') := by
  simp [bind, failed]

theorem bind_assoc (first : Run failure state α) (next : α → Run failure state β)
    (last : β → Run failure state γ) :
    first >>= next >>= last = first >>= fun value => next value >>= last := by
  funext s
  rcases outcome : first s with ⟨reason | value, s'⟩
  · rw [bind_of_error (bind_of_error outcome next), bind_of_error outcome]
  · rw [bind_of_ok outcome]
    rcases outcome' : next value s' with ⟨reason | value', s''⟩
    · rw [bind_of_error outcome', bind_of_error ((bind_of_ok outcome next).trans outcome')]
    · rw [bind_of_ok outcome', bind_of_ok ((bind_of_ok outcome next).trans outcome')]

theorem pure_bind (value : α) (next : α → Run failure state β) : pure value >>= next = next value :=
  rfl

theorem bind_eq_ok (first : Run failure state α) (next : α → Run failure state β)
    (s s'' : state) (result : β) :
    (first >>= next) s = (.ok result, s'') ↔
      ∃ value s', first s = (.ok value, s') ∧ next value s' = (.ok result, s'') := by
  rcases outcome : first s with ⟨value | reason, s'⟩
  · simp [bind_of_error outcome]
  · rw [bind_of_ok outcome]
    constructor
    · intro success
      exact ⟨_, _, rfl, success⟩
    · rintro ⟨_, _, same, success⟩
      cases same
      exact success

theorem bind_eq_error (first : Run failure state α) (next : α → Run failure state β)
    (s s'' : state) (reason : failure) :
    (first >>= next) s = (.error reason, s'') ↔
      first s = (.error reason, s'') ∨
        ∃ value s', first s = (.ok value, s') ∧ next value s' = (.error reason, s'') := by
  rcases outcome : first s with ⟨value | reason', s'⟩
  · simp [bind_of_error outcome]
  · rw [bind_of_ok outcome]
    constructor
    · intro failed
      exact Or.inr ⟨_, _, rfl, failed⟩
    · rintro (same | ⟨_, _, same, failed⟩)
      · cases same
      · cases same
        exact failed

theorem read_bind (observe : state → α) (next : α → Run failure state β) (s : state) :
    (read observe >>= next) s = next (observe s) s := rfl

theorem lift_bind_of_ok {value : Except failure α} {result : α} (success : value = .ok result)
    (next : α → Run failure state β) (s : state) :
    (lift value >>= next) s = next result s := by
  rw [success]
  rfl

theorem lift_bind_eq_ok (value : Except failure α) (next : α → Run failure state β)
    (s s' : state) (result : β) :
    (lift value >>= next) s = (.ok result, s') ↔
      ∃ first, value = .ok first ∧ next first s = (.ok result, s') := by
  cases value with
  | ok first => simp [lift, bind]
  | error reason => simp [lift, bind]

theorem lift_bind_eq_error (value : Except failure α) (next : α → Run failure state β)
    (s s' : state) (reason : failure) :
    (lift value >>= next) s = (.error reason, s') ↔
      (value = .error reason ∧ s' = s) ∨
        ∃ first, value = .ok first ∧ next first s = (.error reason, s') := by
  cases value with
  | ok first => simp [lift, bind]
  | error cause => simp [lift, bind, eq_comm]

def Avoids (reason : failure) (run : Run failure state α) : Prop :=
  ∀ s s', run s ≠ (.error reason, s')

section Avoid
variable {reason : failure}

theorem avoids_pure (value : α) : Avoids reason (pure value : Run failure state α) := by
  intro s s' failed
  cases failed

theorem avoids_fail {other : failure} (different : other ≠ reason) :
    Avoids reason (fail other : Run failure state α) := by
  intro s s' failed
  cases failed
  exact different rfl

theorem avoids_lift {value : Except failure α} (different : value ≠ .error reason) :
    Avoids reason (lift value : Run failure state α) := by
  intro s s' failed
  exact different (congrArg Prod.fst failed)

theorem avoids_bind {first : Run failure state α} {next : α → Run failure state β}
    (firstAvoids : Avoids reason first) (nextAvoids : ∀ value, Avoids reason (next value)) :
    Avoids reason (first >>= next) := by
  intro s s'' failed
  rcases (bind_eq_error _ _ _ _ _).mp failed with failed | ⟨value, s', _, failed⟩
  · exact firstAvoids s s'' failed
  · exact nextAvoids value s' s'' failed

end Avoid

def FailsOnly (allowed : failure → Prop) (run : Run failure state α) : Prop :=
  ∀ s reason s', run s = (.error reason, s') → allowed reason

section FailsOnly
variable {allowed : failure → Prop}

theorem failsOnly_pure (value : α) : FailsOnly allowed (pure value : Run failure state α) := by
  intro s reason s' failed
  cases failed

theorem failsOnly_lift {value : Except failure α}
    (may : ∀ reason, value = .error reason → allowed reason) :
    FailsOnly allowed (lift value : Run failure state α) :=
  fun _ reason _ failed => may reason (congrArg Prod.fst failed)

theorem failsOnly_read (observe : state → α) :
    FailsOnly allowed (read observe : Run failure state α) := by
  intro s reason s' failed
  cases failed

theorem failsOnly_bind {first : Run failure state α} {next : α → Run failure state β}
    (firstFails : FailsOnly allowed first) (nextFails : ∀ value, FailsOnly allowed (next value)) :
    FailsOnly allowed (first >>= next) := by
  intro s reason s'' failed
  rcases (bind_eq_error _ _ _ _ _).mp failed with failed | ⟨value, s', _, failed⟩
  · exact firstFails s reason s'' failed
  · exact nextFails value s' reason s'' failed

end FailsOnly

/-- How the run ends from one state: with a value or for a reason of this kind. -/
def Meets (run : Run failure state α) (s : state) (good : α → Prop) (allowed : failure → Prop) :
    Prop :=
  match (run s).1 with
  | .ok value => good value
  | .error reason => allowed reason

section Meets
variable {s : state} {allowed : failure → Prop}

theorem meets_pure {value : α} {good : α → Prop} (holds : good value) :
    Meets (pure value : Run failure state α) s good allowed := holds

theorem meets_fail {reason : failure} {good : α → Prop} (may : allowed reason) :
    Meets (fail reason : Run failure state α) s good allowed := may

theorem meets_error {run : Run failure state α} {good : α → Prop} {reason : failure} {s' : state}
    (meets : Meets run s good allowed) (failed : run s = (.error reason, s')) : allowed reason := by
  rw [Meets, failed] at meets
  exact meets

theorem meets_failsOnly {run : Run failure state α} (fails : FailsOnly allowed run) :
    Meets run s (fun _ => True) allowed := by
  rcases outcome : run s with ⟨reason | value, s'⟩
  · rw [Meets, outcome]
    exact fails s reason s' outcome
  · rw [Meets, outcome]
    trivial

theorem meets_bind {first : Run failure state α} {next : α → Run failure state β}
    {early : α → Prop} {good : β → Prop} (meets : Meets first s early allowed)
    (later : ∀ value s', first s = (.ok value, s') → early value →
      Meets (next value) s' good allowed) :
    Meets (first >>= next) s good allowed := by
  rcases outcome : first s with ⟨reason | value, s'⟩
  · have stopped := meets_error meets outcome
    rw [Meets, bind_of_error outcome]
    exact stopped
  · rw [Meets, outcome] at meets
    have ends := later value s' outcome meets
    rw [Meets, bind_of_ok outcome]
    exact ends

theorem meets_lift_bind {outcome : Except failure α} {next : α → Run failure state β}
    {good : β → Prop} (may : ∀ reason, outcome = .error reason → allowed reason)
    (later : ∀ value, outcome = .ok value → Meets (next value) s good allowed) :
    Meets (lift outcome >>= next) s good allowed := by
  cases outcome with
  | error reason => exact may reason rfl
  | ok value => exact later value rfl

end Meets

/-- Wherever the run starts it has this outcome, or it is stopped from outside. -/
def Ends (stops : failure → Prop) (run : Run failure state α) (outcome : Except failure α) : Prop :=
  ∀ s, (run s).1 = outcome ∨ ∃ reason, (run s).1 = .error reason ∧ stops reason

section Ends
variable {stops : failure → Prop}

theorem ends_bind {first : Run failure state α} {next : α → Run failure state β} {value : α}
    {outcome : Except failure β} (firstEnds : Ends stops first (.ok value))
    (nextEnds : Ends stops (next value) outcome) : Ends stops (first >>= next) outcome := by
  intro s
  have ends := firstEnds s
  rcases ran : first s with ⟨reason | value', s'⟩
  · rw [ran] at ends
    rw [bind_of_error ran]
    rcases ends with success | ⟨reason', failed, stop⟩
    · cases success
    · cases failed
      exact .inr ⟨reason, rfl, stop⟩
  · rw [ran] at ends
    rcases ends with success | ⟨_, failed, _⟩
    · cases success
      rw [bind_of_ok ran]
      exact nextEnds s'
    · cases failed

theorem ends_bind_error {first : Run failure state α} {next : α → Run failure state β}
    {reason : failure} (firstEnds : Ends stops first (.error reason)) :
    Ends stops (first >>= next) (.error reason) := by
  intro s
  have ends := firstEnds s
  rcases ran : first s with ⟨reason' | value, s'⟩
  · rw [ran] at ends
    rw [bind_of_error ran]
    rcases ends with failed | ⟨_, failed, stop⟩
    · cases failed
      exact .inl rfl
    · cases failed
      exact .inr ⟨reason', rfl, stop⟩
  · rw [ran] at ends
    rcases ends with failed | ⟨_, failed, _⟩ <;> cases failed

end Ends

/-- One outcome for all runs of a family, each of which may be stopped. -/
def Determined {ι : Type} (stops : ι → failure → Prop) (runs : ι → Run failure state α) : Prop :=
  ∃ outcome, ∀ i, Ends (stops i) (runs i) outcome

section Determined
variable {ι : Type} {stops : ι → failure → Prop}

theorem determined_lift (outcome : Except failure α) :
    Determined stops (fun _ => (lift outcome : Run failure state α)) :=
  ⟨outcome, fun _ _ => .inl rfl⟩

theorem determined_answer {outcomes : ι → Except failure α} (outcome : Except failure α)
    (same : ∀ i, outcomes i = outcome) :
    Determined stops (fun i => (lift (outcomes i) : Run failure state α)) :=
  ⟨outcome, fun i _ => .inl (same i)⟩

theorem determined_pure (value : α) :
    Determined stops (fun _ => (pure value : Run failure state α)) :=
  determined_lift (.ok value)

theorem determined_fail (reason : failure) :
    Determined stops (fun _ => (fail reason : Run failure state α)) :=
  determined_lift (.error reason)

/-- Steps that return nothing fail only if they are stopped. -/
theorem determined_unit {runs : ι → Run failure state Unit}
    (fails : ∀ i, FailsOnly (stops i) (runs i)) : Determined stops runs := by
  refine ⟨.ok (), fun i s => ?_⟩
  rcases outcome : runs i s with ⟨reason | value, s'⟩
  · exact .inr ⟨reason, rfl, fails i s reason s' outcome⟩
  · exact .inl rfl

theorem determined_bind {first : ι → Run failure state α} {next : ι → α → Run failure state β}
    (firsts : Determined stops first) (nexts : ∀ value, Determined stops fun i => next i value) :
    Determined stops fun i => first i >>= next i := by
  obtain ⟨outcome, ends⟩ := firsts
  cases outcome with
  | error reason => exact ⟨.error reason, fun i => ends_bind_error (ends i)⟩
  | ok value =>
      obtain ⟨outcome', ends'⟩ := nexts value
      exact ⟨outcome', fun i => ends_bind (ends i) (ends' i)⟩

end Determined

/-- The run relates every state it starts in to the one it ends in, whether it
succeeds or fails. -/
def Keeps (related : state → state → Prop) (run : Run failure state α) : Prop :=
  ∀ s, related s (run s).2

section Frame
variable {related : state → state → Prop}

theorem keeps_outcome {run : Run failure state α} (kept : Keeps related run) {s s' : state}
    {outcome : Except failure α} (ran : run s = (outcome, s')) : related s s' := by
  have holds := kept s
  rw [ran] at holds
  exact holds

theorem keeps_pure (reflexive : ∀ s, related s s) (value : α) :
    Keeps related (pure value : Run failure state α) := fun s => reflexive s

theorem keeps_fail (reflexive : ∀ s, related s s) (reason : failure) :
    Keeps related (fail reason : Run failure state α) := fun s => reflexive s

theorem keeps_lift (reflexive : ∀ s, related s s) (value : Except failure α) :
    Keeps related (lift value : Run failure state α) := fun s => reflexive s

theorem keeps_read (reflexive : ∀ s, related s s) (observe : state → α) :
    Keeps related (read observe : Run failure state α) := fun s => reflexive s

theorem keeps_bind (transitive : ∀ a b c, related a b → related b c → related a c)
    {first : Run failure state α} {next : α → Run failure state β}
    (firstKeeps : Keeps related first) (nextKeeps : ∀ value, Keeps related (next value)) :
    Keeps related (first >>= next) := by
  intro s
  have kept := firstKeeps s
  rcases outcome : first s with ⟨reason | value, s'⟩
  · rw [bind_of_error outcome]
    simpa [outcome] using kept
  · rw [bind_of_ok outcome]
    rw [outcome] at kept
    exact transitive _ _ _ kept (nextKeeps value s')

theorem keeps_onlyIf (reflexive : ∀ s, related s s) (condition : Prop) [Decidable condition]
    {run : Run failure state Unit} (kept : Keeps related run) :
    Keeps related (onlyIf condition run) := by
  unfold onlyIf
  split
  · exact kept
  · exact keeps_pure reflexive ()

/-- The relation holds whenever the run fails; a success may break it. -/
def FailsKeeping (related : state → state → Prop) (run : Run failure state α) : Prop :=
  ∀ s reason s', run s = (.error reason, s') → related s s'

theorem fails_outcome {run : Run failure state α} {s s' : state} {reason : failure}
    (failed : run s = (.error reason, s')) (kept : FailsKeeping related run) : related s s' :=
  kept s reason s' failed

theorem fails_of_keeps {run : Run failure state α} (kept : Keeps related run) :
    FailsKeeping related run := by
  intro s reason s' failed
  have holds := kept s
  rw [failed] at holds
  exact holds

theorem fails_pure (value : α) : FailsKeeping related (pure value : Run failure state α) := by
  intro s reason s' failed
  cases failed

/-- Only the last step of a run may break the relation, by its success. -/
theorem fails_bind (transitive : ∀ a b c, related a b → related b c → related a c)
    {first : Run failure state α} {next : α → Run failure state β}
    (firstKeeps : Keeps related first) (nextFails : ∀ value, FailsKeeping related (next value)) :
    FailsKeeping related (first >>= next) := by
  intro s reason s'' failed
  have kept := firstKeeps s
  rcases (bind_eq_error _ _ _ _ _).mp failed with failed | ⟨value, s', success, failed⟩
  · rw [failed] at kept
    exact kept
  · rw [success] at kept
    exact transitive _ _ _ kept (nextFails value s' reason s'' failed)

/-- What follows cannot fail. -/
theorem fails_bind_pure {first : Run failure state α} (value : α → β)
    (firstFails : FailsKeeping related first) :
    FailsKeeping related (first >>= fun result => pure (value result)) := by
  intro s reason s'' failed
  rcases (bind_eq_error _ _ _ _ _).mp failed with failed | ⟨_, _, _, failed⟩
  · exact firstFails s reason s'' failed
  · cases failed

theorem keeps_weaken {weaker : state → state → Prop} {run : Run failure state α}
    (kept : Keeps related run) (weaken : ∀ a b, related a b → weaker a b) :
    Keeps weaker run := fun s => weaken _ _ (kept s)

end Frame

/-- Two runs end alike, or one of them is stopped from outside. -/
inductive Agreed (stops stops' : failure → Prop) (failed related : state → state → Prop) :
    Except failure α × state → Except failure α × state → Prop where
  | ok {value s s'} (ends : related s s') :
      Agreed stops stops' failed related (.ok value, s) (.ok value, s')
  | error {reason s s'} (ends : failed s s') :
      Agreed stops stops' failed related (.error reason, s) (.error reason, s')
  | left {reason s ended} (stop : stops reason) :
      Agreed stops stops' failed related (.error reason, s) ended
  | right {reason s' ended} (stop : stops' reason) :
      Agreed stops stops' failed related ended (.error reason, s')

/-- From related states two runs end alike: in states related by one relation if
they succeed, and by the other if they fail. -/
def Matches (stops stops' : failure → Prop) (failed before after : state → state → Prop)
    (run run' : Run failure state α) : Prop :=
  ∀ s s', before s s' → Agreed stops stops' failed after (run s) (run' s')

section Matches
variable {stops stops' : failure → Prop} {failed before between after : state → state → Prop}

theorem matches_bind {first first' : Run failure state α} {next next' : α → Run failure state β}
    (firstMatches : Matches stops stops' failed before between first first')
    (nextMatches : ∀ value,
      Matches stops stops' failed between after (next value) (next' value)) :
    Matches stops stops' failed before after (first >>= next) (first' >>= next') := by
  intro s s' start
  have agreed := firstMatches s s' start
  rcases ran : first s with ⟨reason | value, w⟩
  · rcases ran' : first' s' with ⟨reason' | value', w'⟩
    · rw [bind_of_error ran, bind_of_error ran']
      rw [ran, ran'] at agreed
      cases agreed with
      | error ends => exact .error ends
      | left stop => exact .left stop
      | right stop => exact .right stop
    · rw [bind_of_error ran]
      rw [ran, ran'] at agreed
      cases agreed with
      | left stop => exact .left stop
  · rcases ran' : first' s' with ⟨reason' | value', w'⟩
    · rw [bind_of_error ran']
      rw [ran, ran'] at agreed
      cases agreed with
      | right stop => exact .right stop
    · rw [bind_of_ok ran, bind_of_ok ran']
      rw [ran, ran'] at agreed
      cases agreed with
      | ok ends => exact nextMatches value w w' ends

/-- The same answer on both sides leaves the states as they were. -/
theorem matches_answer (outcome : Except failure α) (run run' : Run failure state α)
    (weaken : ∀ s s', before s s' → failed s s')
    (answers : ∀ s s', before s s' → run s = (outcome, s) ∧ run' s' = (outcome, s')) :
    Matches stops stops' failed before before run run' := by
  intro s s' start
  obtain ⟨left, right⟩ := answers s s' start
  rw [left, right]
  cases outcome with
  | ok value => exact .ok start
  | error reason => exact .error (weaken s s' start)

theorem matches_lift (weaken : ∀ s s', before s s' → failed s s') (value : Except failure α) :
    Matches stops stops' failed before before (lift value) (lift value) :=
  matches_answer value _ _ weaken fun _ _ _ => ⟨rfl, rfl⟩

theorem matches_pure (weaken : ∀ s s', before s s' → failed s s') (value : α) :
    Matches stops stops' failed before before (pure value : Run failure state α) (pure value) :=
  matches_answer (.ok value) _ _ weaken fun _ _ _ => ⟨rfl, rfl⟩

theorem matches_fail (weaken : ∀ s s', before s s' → failed s s') (reason : failure) :
    Matches stops stops' failed before after (fail reason : Run failure state α) (fail reason) :=
  fun s s' start => .error (weaken s s' start)

theorem matches_stops {wider : failure → Prop} {run run' : Run failure state α}
    (matched : Matches stops stops' failed before after run run')
    (widen : ∀ reason, stops reason → wider reason) :
    Matches wider stops' failed before after run run' := by
  intro s s' start
  have agreed := matched s s' start
  generalize run s = ended, run' s' = ended' at agreed ⊢
  cases agreed with
  | ok ends => exact .ok ends
  | error ends => exact .error ends
  | left stop => exact .left (widen _ stop)
  | right stop => exact .right stop

/-- What holds of one side all along may be carried with the relation. -/
theorem matches_holds {holds : state → Prop} {run run' : Run failure state α}
    (matched : Matches stops stops' failed before after run run')
    (kept : Keeps (fun a b => holds a → holds b) run) :
    Matches stops stops' failed (fun s s' => before s s' ∧ holds s)
      (fun s s' => after s s' ∧ holds s) run run' := by
  rintro s s' ⟨start, held⟩
  have agreed := matched s s' start
  have held' := kept s held
  rcases ran : run s with ⟨reason | value, ended⟩
  · rw [ran] at agreed
    rcases ran' : run' s' with ⟨reason' | value', ended'⟩
    · rw [ran'] at agreed
      cases agreed with
      | error ends => exact .error ends
      | left stop => exact .left stop
      | right stop => exact .right stop
    · rw [ran'] at agreed
      cases agreed with
      | left stop => exact .left stop
  · rw [ran] at agreed held'
    rcases ran' : run' s' with ⟨reason' | value', ended'⟩
    · rw [ran'] at agreed
      cases agreed with
      | right stop => exact .right stop
    · rw [ran'] at agreed
      cases agreed with
      | ok ends => exact .ok ⟨ends, held'⟩

theorem matches_left {run run' : Run failure state α}
    (fails : ∀ s s', before s s' → ∃ reason ended, run s = (.error reason, ended) ∧ stops reason) :
    Matches stops stops' failed before after run run' := by
  intro s s' start
  obtain ⟨reason, ended, failed, stop⟩ := fails s s' start
  rw [failed]
  exact .left stop

end Matches

end Run

end RunRules
