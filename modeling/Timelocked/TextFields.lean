import Timelocked.LineEditor

/-!
Keys as the terminal reports them, and the two text fields of
`src/userinterfaces/tui/state`. A field keeps its text and the number of
characters before its cursor; `line` relates it to the line it stands for.
-/
namespace TextFields

open LineEditor

inductive KeyCode where
  | backspace
  | enter
  | left
  | right
  | up
  | down
  | home
  | endKey
  | tab
  | backTab
  | delete
  | char (symbol : Char)
  | esc
  /-- A key that no handler looks for. -/
  | other (name : String)
  deriving DecidableEq, Repr

structure KeyModifiers where
  shift : Bool
  control : Bool
  alt : Bool
  super : Bool
  hyper : Bool
  metaKey : Bool
  deriving DecidableEq, Repr

namespace KeyModifiers

def none : KeyModifiers := ⟨false, false, false, false, false, false⟩

def onlyShift : KeyModifiers := { none with shift := true }

end KeyModifiers

structure KeyEvent where
  code : KeyCode
  modifiers : KeyModifiers
  deriving DecidableEq, Repr

def struck (code : KeyCode) : KeyEvent := ⟨code, KeyModifiers.none⟩

structure TextField where
  value : List Char
  cursor : Nat
  clearOnNextEdit : Bool
  deriving DecidableEq, Repr

namespace TextField

def new (value : List Char) : TextField := ⟨value, value.length, false⟩

def armClearOnNextEdit (field : TextField) : TextField :=
  if field.value.isEmpty then field else { field with clearOnNextEdit := true }

def clear (_field : TextField) : TextField := ⟨[], 0, false⟩

def consumeClearOnNextEdit (field : TextField) : TextField :=
  if field.clearOnNextEdit then clear field else field

def replaceValue (field : TextField) (value : List Char) (cursor : Nat) : TextField :=
  { field with value := value, cursor := cursor }

def insert (field : TextField) (symbol : Char) : TextField :=
  let index := min field.cursor field.value.length
  field.replaceValue (field.value.insertIdx index symbol) (index + 1)

def backspace (field : TextField) : TextField :=
  if field.cursor = 0 then field
  else
    let index := field.cursor - 1
    if index < field.value.length then field.replaceValue (field.value.eraseIdx index) index
    else field

def delete (field : TextField) : TextField :=
  if field.cursor < field.value.length then
    field.replaceValue (field.value.eraseIdx field.cursor) field.cursor
  else field

def moveLeft (field : TextField) : TextField :=
  if 0 < field.cursor then { field with cursor := field.cursor - 1 } else field

def moveRight (field : TextField) : TextField :=
  if field.cursor < field.value.length then { field with cursor := field.cursor + 1 } else field

/-- The field after the key, and whether the field used the key. -/
def applyKey (field : TextField) (key : KeyEvent) : TextField × Bool :=
  match key.code with
  | .char symbol =>
      if key.modifiers = KeyModifiers.none ∨ key.modifiers = KeyModifiers.onlyShift then
        (insert (consumeClearOnNextEdit field) symbol, true)
      else (field, false)
  | .backspace => (backspace (consumeClearOnNextEdit field), true)
  | .delete => (delete (consumeClearOnNextEdit field), true)
  | .left => (moveLeft { field with clearOnNextEdit := false }, true)
  | .right => (moveRight { field with clearOnNextEdit := false }, true)
  | .home => ({ field with clearOnNextEdit := false, cursor := 0 }, true)
  | .endKey => ({ field with clearOnNextEdit := false, cursor := field.value.length }, true)
  | _ => (field, false)

end TextField

structure SecretTextField where
  field : TextField
  deriving DecidableEq, Repr

namespace SecretTextField

def default : SecretTextField := ⟨TextField.new []⟩

def applyKey (secret : SecretTextField) (key : KeyEvent) : SecretTextField × Bool :=
  let (field, used) := secret.field.applyKey key
  (⟨field⟩, used)

def exposeSecret (secret : SecretTextField) : List Char := secret.field.value

def clear (secret : SecretTextField) : SecretTextField := ⟨secret.field.clear⟩

end SecretTextField

def line (field : TextField) : Line Char := lineAt field.value field.cursor

/-- The cursor is inside the text, and no edit is to clear it first. -/
structure Plain (field : TextField) : Prop where
  inside : field.cursor ≤ field.value.length
  kept : field.clearOnNextEdit = false

def editOf (key : KeyEvent) : Option (Edit Char) :=
  match key.code with
  | .char symbol =>
      if key.modifiers = KeyModifiers.none ∨ key.modifiers = KeyModifiers.onlyShift then
        some (.insert symbol)
      else none
  | .backspace => some .backspace
  | .delete => some .delete
  | .left => some .left
  | .right => some .right
  | .home => some .home
  | .endKey => some .finish
  | _ => none

/-- A key that asks for no edit leaves the line alone. -/
def edited (shown : Line Char) (key : KeyEvent) : Line Char :=
  match editOf key with
  | some edit => apply shown edit
  | none => shown

section Edits
variable (field : TextField)

@[simp] theorem contents_line : contents (line field) = field.value := contents_lineAt _ _

theorem line_insert (inside : field.cursor ≤ field.value.length) (symbol : Char) :
    line (field.insert symbol) = apply (line field) (.insert symbol) := by
  have index : min field.cursor field.value.length = field.cursor := Nat.min_eq_left inside
  simp only [line, TextField.insert, TextField.replaceValue, index]
  exact lineAt_insert field.value field.cursor inside symbol

theorem line_backspace (inside : field.cursor ≤ field.value.length) :
    line field.backspace = apply (line field) .backspace := by
  rcases field with ⟨value, _ | cursor, armed⟩
  · simp [TextField.backspace, line, lineAt, apply]
  · have room : cursor < value.length := inside
    simp only [TextField.backspace, Nat.add_one_ne_zero, if_false, Nat.add_sub_cancel, room,
      if_true, TextField.replaceValue, line]
    exact lineAt_backspace value cursor inside

theorem line_delete (inside : field.cursor ≤ field.value.length) :
    line field.delete = apply (line field) .delete := by
  by_cases room : field.cursor < field.value.length
  · simp only [TextField.delete, room, if_true, TextField.replaceValue, line]
    exact lineAt_delete field.value field.cursor inside
  · have atEnd : field.cursor = field.value.length := by omega
    simp [TextField.delete, line, lineAt, apply, atEnd]

theorem line_moveLeft (inside : field.cursor ≤ field.value.length) :
    line field.moveLeft = apply (line field) .left := by
  rcases field with ⟨value, _ | cursor, armed⟩
  · simp [TextField.moveLeft, line, lineAt, apply, left]
  · simp only [TextField.moveLeft, Nat.zero_lt_succ, if_true, Nat.add_sub_cancel, line]
    exact lineAt_left value cursor inside

theorem line_moveRight (inside : field.cursor ≤ field.value.length) :
    line field.moveRight = apply (line field) .right := by
  by_cases room : field.cursor < field.value.length
  · simp only [TextField.moveRight, room, if_true, line]
    exact lineAt_right field.value field.cursor room
  · have atEnd : field.cursor = field.value.length := by omega
    simp [TextField.moveRight, line, lineAt, apply, right, atEnd]

/-- On a plain field every key does the edit it stands for. -/
theorem line_applyKey (plain : Plain field) (key : KeyEvent) :
    line (field.applyKey key).1 = edited (line field) key := by
  have inside := plain.inside
  have consumed : field.consumeClearOnNextEdit = field := by
    simp [TextField.consumeClearOnNextEdit, plain.kept]
  have disarmed : ({ field with clearOnNextEdit := false } : TextField) = field := by
    rw [← plain.kept]
  rcases key with ⟨code, modifiers⟩
  cases code with
  | char symbol =>
      by_cases typed : modifiers = KeyModifiers.none ∨ modifiers = KeyModifiers.onlyShift
      · simpa [TextField.applyKey, edited, editOf, typed, consumed] using
          line_insert field inside symbol
      · simp [TextField.applyKey, edited, editOf, typed]
  | backspace =>
      simpa [TextField.applyKey, edited, editOf, consumed] using line_backspace field inside
  | delete => simpa [TextField.applyKey, edited, editOf, consumed] using line_delete field inside
  | left => simpa [TextField.applyKey, edited, editOf, disarmed] using line_moveLeft field inside
  | right => simpa [TextField.applyKey, edited, editOf, disarmed] using line_moveRight field inside
  | home => exact lineAt_home field.value field.cursor
  | endKey => exact lineAt_finish field.value field.cursor
  | _ => rfl

theorem plain_consumed (inside : field.cursor ≤ field.value.length) :
    Plain field.consumeClearOnNextEdit := by
  by_cases armed : field.clearOnNextEdit = true
  · simpa [TextField.consumeClearOnNextEdit, armed] using
      (⟨Nat.le_refl _, rfl⟩ : Plain field.clear)
  · simpa [TextField.consumeClearOnNextEdit, armed] using
      (⟨inside, by simpa using armed⟩ : Plain field)

theorem plain_insert (plain : Plain field) (symbol : Char) : Plain (field.insert symbol) := by
  have index : min field.cursor field.value.length = field.cursor := Nat.min_eq_left plain.inside
  refine ⟨?_, plain.kept⟩
  simp only [TextField.insert, TextField.replaceValue, index,
    List.length_insertIdx_of_le_length plain.inside]
  exact Nat.succ_le_succ plain.inside

theorem plain_backspace (plain : Plain field) : Plain field.backspace := by
  unfold TextField.backspace
  split
  · exact plain
  · dsimp only
    split
    · rename_i room
      refine ⟨?_, plain.kept⟩
      simp only [TextField.replaceValue, List.length_eraseIdx_of_lt room]
      omega
    · exact plain

theorem plain_delete (plain : Plain field) : Plain field.delete := by
  unfold TextField.delete
  split
  · rename_i room
    refine ⟨?_, plain.kept⟩
    simp only [TextField.replaceValue, List.length_eraseIdx_of_lt room]
    omega
  · exact plain

theorem plain_moveLeft (plain : Plain field) : Plain field.moveLeft := by
  have inside := plain.inside
  unfold TextField.moveLeft
  split
  · exact ⟨Nat.le_trans (Nat.sub_le _ _) inside, plain.kept⟩
  · exact plain

theorem plain_moveRight (plain : Plain field) : Plain field.moveRight := by
  unfold TextField.moveRight
  split
  · rename_i room
    exact ⟨room, plain.kept⟩
  · exact plain

theorem plain_applyKey (plain : Plain field) (key : KeyEvent) : Plain (field.applyKey key).1 := by
  have consumed := plain_consumed field plain.inside
  have disarmed : Plain { field with clearOnNextEdit := false } := ⟨plain.inside, rfl⟩
  rcases key with ⟨code, modifiers⟩
  cases code with
  | char symbol =>
      by_cases typed : modifiers = KeyModifiers.none ∨ modifiers = KeyModifiers.onlyShift
      · simpa [TextField.applyKey, typed] using plain_insert _ consumed symbol
      · simpa [TextField.applyKey, typed] using plain
  | backspace => exact plain_backspace _ consumed
  | delete => exact plain_delete _ consumed
  | left => exact plain_moveLeft _ disarmed
  | right => exact plain_moveRight _ disarmed
  | home => exact ⟨Nat.zero_le _, rfl⟩
  | endKey => exact ⟨Nat.le_refl _, rfl⟩
  | _ => exact plain

theorem plain_new (value : List Char) : Plain (TextField.new value) := ⟨Nat.le_refl _, rfl⟩

end Edits

end TextFields
