import Mathlib.Logic.Function.Basic

/-!
Agents that choose a place and write to it later. A board holds what is at every
place, and the place each agent has chosen. Choosing reserves nothing: a write
puts its content at the chosen place, whatever is there by then. A board is
clear if no chosen place is taken, and then no agent can overwrite anything.
-/
namespace Reservations

section Board
variable {Agent Place Content : Type}

structure Board (Agent Place Content : Type) where
  contents : Place → Option Content
  chosen : Agent → Option Place

inductive Event (Agent Place Content : Type) where
  | pass
  | choose (agent : Agent) (place : Place)
  | leave (agent : Agent)
  | write (agent : Agent) (content : Content)
  | put (place : Place) (content : Content)

section Next
variable [DecidableEq Agent] [DecidableEq Place]

def next (board : Board Agent Place Content) :
    Event Agent Place Content → Board Agent Place Content
  | .pass => board
  | .choose agent place => { board with chosen := Function.update board.chosen agent (some place) }
  | .leave agent => { board with chosen := Function.update board.chosen agent none }
  | .write agent content =>
      match board.chosen agent with
      | some place =>
          ⟨Function.update board.contents place (some content),
            Function.update board.chosen agent none⟩
      | none => board
  | .put place content =>
      { board with contents := Function.update board.contents place (some content) }

def run (board : Board Agent Place Content) :
    List (Event Agent Place Content) → Board Agent Place Content
  | [] => board
  | event :: later => run (next board event) later

def Along (allowed : Board Agent Place Content → Event Agent Place Content → Prop)
    (board : Board Agent Place Content) : List (Event Agent Place Content) → Prop
  | [] => True
  | event :: later => allowed board event ∧ Along allowed (next board event) later

end Next

def Overwrites (board : Board Agent Place Content) : Event Agent Place Content → Prop
  | .write agent _ => ∃ place, board.chosen agent = some place ∧ board.contents place ≠ none
  | _ => False

/-- The event takes no place that anyone else has chosen, and chooses none that is taken. -/
def Considerate (board : Board Agent Place Content) : Event Agent Place Content → Prop
  | .pass => True
  | .choose _ place => board.contents place = none
  | .leave _ => True
  | .write agent _ => ∀ place, board.chosen agent = some place →
      ∀ other, other ≠ agent → board.chosen other ≠ some place
  | .put place _ => ∀ agent, board.chosen agent ≠ some place

def Clear (board : Board Agent Place Content) : Prop :=
  ∀ agent place, board.chosen agent = some place → board.contents place = none

theorem clear_iff (board : Board Agent Place Content) :
    Clear board ↔ ∀ agent content, ¬ Overwrites board (.write agent content) := by
  constructor
  · rintro clear agent content ⟨place, chosen, taken⟩
    exact taken (clear agent place chosen)
  · intro never agent place chosen
    by_contra taken
    obtain ⟨content, _⟩ := Option.ne_none_iff_exists'.mp taken
    exact never agent content ⟨place, chosen, taken⟩

/-- Nothing is chosen yet. -/
theorem clear_of_unchosen (board : Board Agent Place Content)
    (unchosen : ∀ agent, board.chosen agent = none) : Clear board := by
  intro agent place chosen
  rw [unchosen] at chosen
  cases chosen

section Clear
variable [DecidableEq Agent] [DecidableEq Place]

theorem clear_next (board : Board Agent Place Content) (event : Event Agent Place Content)
    (clear : Clear board) (considerate : Considerate board event) : Clear (next board event) := by
  intro other place chosen
  cases event with
  | pass => exact clear other place chosen
  | choose agent wanted =>
      by_cases same : other = agent
      · subst same
        simp only [next, Function.update_self, Option.some.injEq] at chosen
        subst chosen
        exact considerate
      · simp only [next, Function.update_of_ne same] at chosen
        exact clear other place chosen
  | leave agent =>
      by_cases same : other = agent
      · simp [next, same] at chosen
      · simp only [next, Function.update_of_ne same] at chosen
        exact clear other place chosen
  | write agent content =>
      cases reserved : board.chosen agent with
      | none =>
          simp only [next, reserved] at chosen ⊢
          exact clear other place chosen
      | some taken =>
          simp only [next, reserved] at chosen ⊢
          by_cases same : other = agent
          · simp [same] at chosen
          · rw [Function.update_of_ne same] at chosen
            -- Writing to another agent's chosen place would not be considerate.
            have apart : place ≠ taken := by
              rintro rfl
              exact considerate place reserved other same chosen
            rw [Function.update_of_ne apart]
            exact clear other place chosen
  | put taken content =>
      have apart : place ≠ taken := by
        rintro rfl
        exact considerate other chosen
      simp only [next, Function.update_of_ne apart]
      exact clear other place chosen

/-- One inconsiderate event, and a chosen place is taken. -/
theorem considerate_of_clear_next (board : Board Agent Place Content)
    (event : Event Agent Place Content) (clear : Clear (next board event)) :
    Considerate board event := by
  cases event with
  | pass => exact trivial
  | choose agent place => exact clear agent place (by simp [next])
  | leave agent => exact trivial
  | write agent content =>
      intro place reserved other different chosen
      have there := clear other place (by simp [next, reserved, different, chosen])
      simp [next, reserved] at there
  | put place content =>
      intro agent chosen
      have there := clear agent place chosen
      simp [next] at there

theorem run_clear (events : List (Event Agent Place Content))
    (board : Board Agent Place Content) (clear : Clear board)
    (considerate : Along Considerate board events) : Clear (run board events) := by
  induction events generalizing board with
  | nil => exact clear
  | cons event later ih =>
      exact ih (next board event) (clear_next board event clear considerate.1) considerate.2

/-- In a run of considerate events nobody can overwrite anything at its end. -/
theorem run_not_overwrites (events : List (Event Agent Place Content))
    (board : Board Agent Place Content) (unchosen : ∀ agent, board.chosen agent = none)
    (considerate : Along Considerate board events) (agent : Agent) (content : Content) :
    ¬ Overwrites (run board events) (.write agent content) :=
  (clear_iff _).mp
    (run_clear events board (clear_of_unchosen board unchosen) considerate) agent content

end Clear

end Board

end Reservations
