import Mathlib.Data.List.Basic
import Mathlib.Data.List.InsertIdx

/-!
A line of symbols with a cursor in it. The line is what stands before the
cursor, nearest symbol first, and what stands after it, so no edit can leave the
cursor outside the text. An editor that keeps a text and a position is related
to it by `lineAt`, and each of its edits by one lemma.
-/
namespace LineEditor

variable {α : Type}

structure Line (α : Type) where
  before : List α
  after : List α
  deriving DecidableEq, Repr

inductive Edit (α : Type) where
  | insert (symbol : α)
  | backspace
  | delete
  | left
  | right
  | home
  | finish
  deriving DecidableEq, Repr

def blank : Line α := ⟨[], []⟩

def contents (line : Line α) : List α := line.before.reverse ++ line.after

def left : Line α → Line α
  | ⟨symbol :: before, after⟩ => ⟨before, symbol :: after⟩
  | line => line

def right : Line α → Line α
  | ⟨before, symbol :: after⟩ => ⟨symbol :: before, after⟩
  | line => line

def apply (line : Line α) : Edit α → Line α
  | .insert symbol => ⟨symbol :: line.before, line.after⟩
  | .backspace => ⟨line.before.tail, line.after⟩
  | .delete => ⟨line.before, line.after.tail⟩
  | .left => left line
  | .right => right line
  | .home => ⟨[], contents line⟩
  | .finish => ⟨(contents line).reverse, []⟩

/-- Typing at the end of a line appends to it. -/
theorem contents_typed (symbols : List α) (line : Line α) (atEnd : line.after = []) :
    contents ((symbols.map Edit.insert).foldl apply line) = contents line ++ symbols := by
  induction symbols generalizing line with
  | nil => simp
  | cons symbol later ih =>
      have further : (apply line (.insert symbol)).after = [] := atEnd
      rw [List.map_cons, List.foldl_cons, ih _ further]
      simp [contents, apply, atEnd]

/-! An editor that keeps the text and the number of symbols before its cursor. -/

section Positions

def lineAt (text : List α) (cursor : Nat) : Line α :=
  ⟨(text.take cursor).reverse, text.drop cursor⟩

@[simp] theorem contents_lineAt (text : List α) (cursor : Nat) :
    contents (lineAt text cursor) = text := by
  simp [contents, lineAt]

theorem lineAt_append (front back : List α) :
    lineAt (front ++ back) front.length = ⟨front.reverse, back⟩ := by
  simp [lineAt]

theorem lineAt_append_cons (front back : List α) (symbol : α) :
    lineAt (front ++ symbol :: back) (front.length + 1) = ⟨symbol :: front.reverse, back⟩ := by
  have joined : front ++ symbol :: back = (front ++ [symbol]) ++ back := by simp
  have further : front.length + 1 = (front ++ [symbol]).length := by simp
  rw [joined, further, lineAt_append]
  simp

/-- A text splits at any cursor inside it. -/
theorem split_at (text : List α) (cursor : Nat) (inside : cursor ≤ text.length) :
    ∃ front back, text = front ++ back ∧ cursor = front.length :=
  ⟨text.take cursor, text.drop cursor, (List.take_append_drop cursor text).symm,
    (List.length_take_of_le inside).symm⟩

theorem insertIdx_append (front back : List α) (symbol : α) :
    (front ++ back).insertIdx front.length symbol = front ++ symbol :: back := by
  induction front with
  | nil => simp
  | cons first front ih => simpa using ih

theorem lineAt_insert (text : List α) (cursor : Nat) (inside : cursor ≤ text.length)
    (symbol : α) :
    lineAt (text.insertIdx cursor symbol) (cursor + 1) =
      apply (lineAt text cursor) (.insert symbol) := by
  obtain ⟨front, back, rfl, rfl⟩ := split_at text cursor inside
  rw [insertIdx_append, lineAt_append_cons, lineAt_append]
  rfl

theorem lineAt_backspace (text : List α) (cursor : Nat) (inside : cursor + 1 ≤ text.length) :
    lineAt (text.eraseIdx cursor) cursor = apply (lineAt text (cursor + 1)) .backspace := by
  obtain ⟨front, back, rfl, rfl⟩ := split_at text cursor (Nat.le_of_succ_le inside)
  cases back with
  | nil => simp only [List.append_nil] at inside; omega
  | cons symbol back =>
      have erased : (front ++ symbol :: back).eraseIdx front.length = front ++ back := by
        rw [List.eraseIdx_append_of_length_le (Nat.le_refl _)]
        simp
      rw [erased, lineAt_append_cons, lineAt_append]
      rfl

theorem lineAt_delete (text : List α) (cursor : Nat) (inside : cursor ≤ text.length) :
    lineAt (text.eraseIdx cursor) cursor = apply (lineAt text cursor) .delete := by
  obtain ⟨front, back, rfl, rfl⟩ := split_at text cursor inside
  have erased : (front ++ back).eraseIdx front.length = front ++ back.tail := by
    rw [List.eraseIdx_append_of_length_le (Nat.le_refl _)]
    simp
  rw [erased, lineAt_append, lineAt_append]
  rfl

theorem lineAt_left (text : List α) (cursor : Nat) (inside : cursor + 1 ≤ text.length) :
    lineAt text cursor = apply (lineAt text (cursor + 1)) .left := by
  obtain ⟨front, back, rfl, rfl⟩ := split_at text cursor (Nat.le_of_succ_le inside)
  cases back with
  | nil => simp only [List.append_nil] at inside; omega
  | cons symbol back =>
      rw [lineAt_append, lineAt_append_cons]
      rfl

theorem lineAt_right (text : List α) (cursor : Nat) (inside : cursor < text.length) :
    lineAt text (cursor + 1) = apply (lineAt text cursor) .right := by
  obtain ⟨front, back, rfl, rfl⟩ := split_at text cursor (Nat.le_of_lt inside)
  cases back with
  | nil => simp only [List.append_nil] at inside; omega
  | cons symbol back =>
      rw [lineAt_append, lineAt_append_cons]
      rfl

theorem lineAt_home (text : List α) (cursor : Nat) :
    lineAt text 0 = apply (lineAt text cursor) .home := by
  simp [apply, lineAt, contents]

theorem lineAt_finish (text : List α) (cursor : Nat) :
    lineAt text text.length = apply (lineAt text cursor) .finish := by
  simp [apply, lineAt, contents]

end Positions

end LineEditor
