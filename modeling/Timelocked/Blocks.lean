import Mathlib.Data.List.Basic
import Mathlib.Tactic.Ring

/-!
Lists cut into blocks of one length, and blocks padded back to it. `cut` is the
reader's view of a region of equal records; `padded` is the writer's view of a
stream whose last block is short.
-/
namespace Blocks

variable {α : Type}

def cut (width : Nat) : Nat → List α → List (List α)
  | 0, _ => []
  | count + 1, items => items.take width :: cut width count (items.drop width)

/-- As many whole blocks as there are; a shorter rest is left out. -/
def chunksExact (width : Nat) (items : List α) : List (List α) :=
  cut width (items.length / width) items

@[simp] theorem cut_length (width count : Nat) (items : List α) :
    (cut width count items).length = count := by
  induction count generalizing items with
  | zero => rfl
  | succ count ih => simp [cut, ih]

theorem cut_flatten (width : Nat) (blocks : List (List α)) (rest : List α)
    (widths : ∀ block ∈ blocks, block.length = width) :
    cut width blocks.length (blocks.flatten ++ rest) = blocks := by
  induction blocks with
  | nil => rfl
  | cons block blocks ih =>
      have head : block.length = width := widths block (by simp)
      have tail := ih (fun other member => widths other (by simp [member]))
      subst head
      simp [cut, List.append_assoc, tail]

theorem cut_widths (width count : Nat) (items : List α) (enough : count * width ≤ items.length) :
    ∀ block ∈ cut width count items, block.length = width := by
  induction count generalizing items with
  | zero => simp [cut]
  | succ count ih =>
      rw [Nat.succ_mul] at enough
      have rest : count * width ≤ (items.drop width).length := by
        rw [List.length_drop]
        omega
      intro block member
      rcases List.mem_cons.mp member with head | tail
      · subst head
        rw [List.length_take]
        omega
      · exact ih _ rest block tail

theorem flatten_length (width : Nat) (blocks : List (List α))
    (widths : ∀ block ∈ blocks, block.length = width) :
    blocks.flatten.length = blocks.length * width := by
  induction blocks with
  | nil => simp
  | cons block blocks ih =>
      have head : block.length = width := widths block (by simp)
      have tail := ih (fun other member => widths other (by simp [member]))
      rw [List.flatten_cons, List.length_append, head, tail, List.length_cons, Nat.succ_mul]
      omega

theorem chunksExact_flatten (width : Nat) (blocks : List (List α)) (positive : 0 < width)
    (widths : ∀ block ∈ blocks, block.length = width) :
    chunksExact width blocks.flatten = blocks := by
  unfold chunksExact
  rw [flatten_length width blocks widths, Nat.mul_div_cancel _ positive]
  simpa using cut_flatten width blocks [] widths

theorem chunksExact_widths (width : Nat) (items : List α) :
    ∀ block ∈ chunksExact width items, block.length = width :=
  cut_widths width _ items (Nat.div_mul_le_self _ _)

@[simp] theorem chunksExact_length (width : Nat) (items : List α) :
    (chunksExact width items).length = items.length / width := cut_length _ _ _

def padTo (filler : α) (width : Nat) (block : List α) : List α :=
  block ++ List.replicate (width - block.length) filler

def slice (width : Nat) (items : List α) (index : Nat) : List α :=
  (items.drop (index * width)).take width

def padded (filler : α) (width count : Nat) (items : List α) : List (List α) :=
  (List.range count).map fun index => padTo filler width (slice width items index)

theorem slice_length_le (width : Nat) (items : List α) (index : Nat) :
    (slice width items index).length ≤ width := by
  simp [slice]

theorem padTo_length (filler : α) (width : Nat) (block : List α) (fits : block.length ≤ width) :
    (padTo filler width block).length = width := by
  simp [padTo]
  omega

@[simp] theorem padded_length (filler : α) (width count : Nat) (items : List α) :
    (padded filler width count items).length = count := by
  simp [padded]

theorem padded_widths (filler : α) (width count : Nat) (items : List α) :
    ∀ block ∈ padded filler width count items, block.length = width := by
  intro block member
  obtain ⟨index, _, rfl⟩ := List.mem_map.mp member
  exact padTo_length filler width _ (slice_length_le width items index)

theorem slice_succ (width : Nat) (items : List α) (index : Nat) :
    slice width items (index + 1) = slice width (items.drop width) index := by
  rw [slice, slice, List.drop_drop]
  congr 2
  ring

/-- The padded blocks spell the list, then only fillers. -/
theorem padded_flatten (filler : α) (width count : Nat) (items : List α)
    (fits : items.length ≤ count * width) :
    (padded filler width count items).flatten =
      items ++ List.replicate (count * width - items.length) filler := by
  -- Induction on the blocks; only the first one that runs over the list is padded.
  induction count generalizing items with
  | zero =>
      have empty : items = [] := List.eq_nil_of_length_eq_zero (by simpa using fits)
      simp [padded, empty]
  | succ count ih =>
      rw [Nat.succ_mul] at fits
      have rest : (items.drop width).length ≤ count * width := by
        rw [List.length_drop]
        omega
      have tail : (padded filler width (count + 1) items).tail =
          padded filler width count (items.drop width) := by
        simp [padded, List.range_succ_eq_map, Function.comp_def, slice_succ]
      have split : padded filler width (count + 1) items =
          padTo filler width (items.take width) :: padded filler width count (items.drop width) := by
        rw [← tail]
        simp [padded, List.range_succ_eq_map, slice]
      rw [split, List.flatten_cons, ih _ rest, padTo, Nat.succ_mul]
      by_cases full : width ≤ items.length
      · -- The block is full, so the fillers come later.
        have none : width - (items.take width).length = 0 := by
          rw [List.length_take]
          omega
        have same : count * width - (items.drop width).length =
            count * width + width - items.length := by
          rw [List.length_drop]
          omega
        rw [none, same, List.replicate_zero, List.append_nil, ← List.append_assoc,
          List.take_append_drop]
      · -- The list ends in this block; all later blocks are fillers.
        have short : items.length ≤ width := by omega
        rw [List.take_of_length_le short, List.drop_eq_nil_of_le short, List.nil_append,
          List.append_assoc, ← List.replicate_add]
        congr 2
        simp only [List.length_nil]
        omega

/-- No more blocks than items. -/
theorem length_le_flatten (blocks : List (List α)) (present : ∀ block ∈ blocks, block ≠ []) :
    blocks.length ≤ blocks.flatten.length := by
  induction blocks with
  | nil => simp
  | cons block rest ih =>
      have head := List.length_pos_iff.mpr (present block (by simp))
      have tail := ih fun other member => present other (by simp [member])
      rw [List.length_cons, List.flatten_cons, List.length_append]
      omega

/-- When all blocks but the last are full, there are as few as there can be. -/
theorem full_count (width : Nat) (blocks : List (List α)) (some : blocks ≠ [])
    (sized : ∀ block ∈ blocks, block ≠ [] ∧ block.length ≤ width)
    (full : ∀ block ∈ blocks.dropLast, block.length = width) :
    blocks.length = (blocks.flatten.length + width - 1) / width := by
  induction blocks with
  | nil => exact absurd rfl some
  | cons block rest ih =>
      obtain ⟨present, bounded⟩ := sized block (by simp)
      have positive := List.length_pos_iff.mpr present
      have wide : 0 < width := by omega
      -- Only the last block may be short, so one block and several are different cases.
      cases rest with
      | nil =>
          have one : (block.length + width - 1) / width = 1 := by
            apply Nat.div_eq_of_lt_le <;> omega
          simp [one]
      | cons second others =>
          have first : block.length = width := full block (by simp)
          have later := ih (by simp) (fun other member => sized other (by simp [member]))
            fun other member => full other (by
              rw [List.dropLast_cons_of_ne_nil (by simp)]
              exact List.mem_cons_of_mem _ member)
          have step : (block.length + (second :: others).flatten.length + width - 1) / width =
              ((second :: others).flatten.length + width - 1) / width + 1 := by
            rw [first, ← Nat.add_div_right _ wide]
            congr 1
            have more : 0 < (second :: others).flatten.length := by
              have head := List.length_pos_iff.mpr (sized second (by simp)).1
              rw [List.flatten_cons, List.length_append]
              omega
            omega
          rw [List.length_cons, later, ← step]
          simp only [List.flatten_cons, List.length_append]

end Blocks
