import Timelocked.RunRules
import Mathlib.Data.List.Basic

/-!
What a run leaves in a trace: a view of the state that its steps only add to.
A run is described by what it adds when it succeeds and by what it adds when it
fails, and of two runs one after the other the additions are appended.
-/
namespace TraceRules
open RunRules

variable {failure state event α β : Type}

/-- The run adds something to the trace, `whole` of its value if it succeeds and
`cut` of its reason if it fails. -/
def Adds (trace : state → List event) (run : Run failure state α) (s : state)
    (whole : α → List event → Prop) (cut : failure → List event → Prop) : Prop :=
  ∃ new, trace (run s).2 = trace s ++ new ∧
    match (run s).1 with
    | .ok value => whole value new
    | .error reason => cut reason new

def Silent (trace : state → List event) (before after : state) : Prop := trace after = trace before

section Rules
variable {trace : state → List event} {s : state}

theorem adds_ok {run : Run failure state α} {s' : state} {value : α}
    {whole : α → List event → Prop} {cut : failure → List event → Prop} {new : List event}
    (ran : run s = (.ok value, s')) (added : trace s' = trace s ++ new) (holds : whole value new) :
    Adds trace run s whole cut := by
  refine ⟨new, ?_, ?_⟩
  · rw [ran]
    exact added
  · rw [ran]
    exact holds

theorem adds_error {run : Run failure state α} {s' : state} {reason : failure}
    {whole : α → List event → Prop} {cut : failure → List event → Prop} {new : List event}
    (ran : run s = (.error reason, s')) (added : trace s' = trace s ++ new)
    (holds : cut reason new) : Adds trace run s whole cut := by
  refine ⟨new, ?_, ?_⟩
  · rw [ran]
    exact added
  · rw [ran]
    exact holds

/-- What a run that went well added. -/
theorem added_ok {run : Run failure state α} {s' : state} {value : α}
    {whole : α → List event → Prop} {cut : failure → List event → Prop}
    (adds : Adds trace run s whole cut) (ran : run s = (.ok value, s')) :
    ∃ new, trace s' = trace s ++ new ∧ whole value new := by
  obtain ⟨new, added, holds⟩ := adds
  rw [ran] at added holds
  exact ⟨new, added, holds⟩

theorem added_error {run : Run failure state α} {s' : state} {reason : failure}
    {whole : α → List event → Prop} {cut : failure → List event → Prop}
    (adds : Adds trace run s whole cut) (ran : run s = (.error reason, s')) :
    ∃ new, trace s' = trace s ++ new ∧ cut reason new := by
  obtain ⟨new, added, holds⟩ := adds
  rw [ran] at added holds
  exact ⟨new, added, holds⟩

theorem adds_weaken {run : Run failure state α} {whole whole' : α → List event → Prop}
    {cut cut' : failure → List event → Prop} (adds : Adds trace run s whole cut)
    (widen : ∀ value new, whole value new → whole' value new)
    (widenCut : ∀ reason new, cut reason new → cut' reason new) :
    Adds trace run s whole' cut' := by
  rcases ran : run s with ⟨reason | value, s'⟩
  · obtain ⟨new, added, holds⟩ := added_error adds ran
    exact adds_error ran added (widenCut reason new holds)
  · obtain ⟨new, added, holds⟩ := added_ok adds ran
    exact adds_ok ran added (widen value new holds)

theorem adds_pure {whole : α → List event → Prop} {cut : failure → List event → Prop} {value : α}
    (holds : whole value []) : Adds trace (pure value : Run failure state α) s whole cut :=
  adds_ok rfl (List.append_nil _).symm holds

theorem adds_fail {whole : α → List event → Prop} {cut : failure → List event → Prop}
    {reason : failure} (holds : cut reason []) :
    Adds trace (Run.fail reason : Run failure state α) s whole cut :=
  adds_error rfl (List.append_nil _).symm holds

theorem adds_silent {run : Run failure state α} {whole : α → List event → Prop}
    {cut : failure → List event → Prop} (kept : Run.Keeps (Silent trace) run)
    (holds : ∀ value s', run s = (.ok value, s') → whole value [])
    (holdsCut : ∀ reason s', run s = (.error reason, s') → cut reason []) :
    Adds trace run s whole cut := by
  have same := kept s
  rcases ran : run s with ⟨reason | value, s'⟩
  · rw [ran] at same
    exact adds_error ran (same.trans (List.append_nil _).symm) (holdsCut reason s' ran)
  · rw [ran] at same
    exact adds_ok ran (same.trans (List.append_nil _).symm) (holds value s' ran)

/-- Of two runs the later one adds behind what the earlier one added. -/
theorem adds_bind {first : Run failure state α} {next : α → Run failure state β}
    {early : α → List event → Prop} {whole : β → List event → Prop}
    {cut : failure → List event → Prop} (adds : Adds trace first s early cut)
    (later : ∀ value s' front, first s = (.ok value, s') → early value front →
      Adds trace (next value) s' (fun result new => whole result (front ++ new))
        (fun reason new => cut reason (front ++ new))) :
    Adds trace (first >>= next) s whole cut := by
  rcases ran : first s with ⟨reason | value, s'⟩
  · obtain ⟨new, added, holds⟩ := added_error adds ran
    exact adds_error (Run.bind_of_error ran next) added holds
  · obtain ⟨front, added, holds⟩ := added_ok adds ran
    obtain ⟨new, added', holds'⟩ := later value s' front ran holds
    refine ⟨front ++ new, ?_, ?_⟩
    · rw [Run.bind_of_ok ran, added', added, List.append_assoc]
    · rw [Run.bind_of_ok ran]
      exact holds'

theorem adds_silent_bind {first : Run failure state α} {next : α → Run failure state β}
    {whole : β → List event → Prop} {cut : failure → List event → Prop}
    (kept : Run.Keeps (Silent trace) first)
    (holdsCut : ∀ reason s', first s = (.error reason, s') → cut reason [])
    (later : ∀ value s', first s = (.ok value, s') → Adds trace (next value) s' whole cut) :
    Adds trace (first >>= next) s whole cut := by
  have nothing : Adds trace first s (fun _ new => new = []) cut :=
    adds_silent kept (fun _ _ _ => rfl) holdsCut
  apply adds_bind nothing
  rintro value s' _ ran rfl
  exact later value s' ran

theorem adds_lift_bind {outcome : Except failure α} {next : α → Run failure state β}
    {whole : β → List event → Prop} {cut : failure → List event → Prop}
    (holdsCut : ∀ reason, outcome = .error reason → cut reason [])
    (later : ∀ value, outcome = .ok value → Adds trace (next value) s whole cut) :
    Adds trace (Run.lift outcome >>= next) s whole cut := by
  cases outcome with
  | error reason => exact adds_error rfl (List.append_nil _).symm (holdsCut reason rfl)
  | ok value => exact later value rfl

/-- What follows adds nothing. -/
theorem adds_bind_silent {first : Run failure state α} {next : α → Run failure state β}
    {early : α → List event → Prop} {whole : β → List event → Prop}
    {cut : failure → List event → Prop} (adds : Adds trace first s early cut)
    (kept : ∀ value, Run.Keeps (Silent trace) (next value))
    (holds : ∀ value s' front result s'', first s = (.ok value, s') → early value front →
      next value s' = (.ok result, s'') → whole result front)
    (holdsCut : ∀ value s' front reason s'', first s = (.ok value, s') → early value front →
      next value s' = (.error reason, s'') → cut reason front) :
    Adds trace (first >>= next) s whole cut := by
  apply adds_bind adds
  intro value s' front ran shown
  apply adds_silent (kept value)
  · intro result s'' ended
    rw [List.append_nil]
    exact holds value s' front result s'' ran shown ended
  · intro reason s'' ended
    rw [List.append_nil]
    exact holdsCut value s' front reason s'' ran shown ended

end Rules

end TraceRules
