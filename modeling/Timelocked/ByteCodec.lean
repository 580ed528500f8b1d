import Mathlib.Data.Nat.Log
import Mathlib.Tactic.Ring
import Mathlib.Tactic.NormNum

/-!
Byte strings, fixed-width little-endian words, minimal big-endian naturals and
UTF-8 text, with a cursor that reads them back. Every reader comes with two
laws: it reads what was written, and what it read was written that way. The
second law is what makes a format canonical, so it is stated as an equivalence.
-/
namespace ByteCodec

abbrev Bytes := List UInt8

/-- A byte array of a length fixed by its type. -/
abbrev Block (width : Nat) := {bytes : Bytes // bytes.length = width}

def toLe : Nat → Nat → Bytes
  | 0, _ => []
  | width + 1, value => UInt8.ofNat (value % 256) :: toLe width (value / 256)

def ofLe : Bytes → Nat
  | [] => 0
  | byte :: rest => byte.toNat + 256 * ofLe rest

@[simp] theorem toLe_length (width value : Nat) : (toLe width value).length = width := by
  induction width generalizing value with
  | zero => rfl
  | succ width ih => simp [toLe, ih]

theorem ofLe_lt (bytes : Bytes) : ofLe bytes < 256 ^ bytes.length := by
  induction bytes with
  | nil => simp [ofLe]
  | cons byte rest ih =>
      have small : byte.toNat < 256 := byte.toNat_lt
      rw [List.length_cons, pow_succ, ofLe]
      omega

theorem ofLe_toLe (width value : Nat) (fits : value < 256 ^ width) :
    ofLe (toLe width value) = value := by
  induction width generalizing value with
  | zero =>
      have empty : value = 0 := by simpa using fits
      simp [toLe, ofLe, empty]
  | succ width ih =>
      have tail := ih (value / 256) (by
        rw [pow_succ] at fits
        omega)
      have head : (UInt8.ofNat (value % 256)).toNat = value % 256 := by
        simp
      rw [toLe, ofLe, tail, head]
      omega

theorem toLe_ofLe (bytes : Bytes) : toLe bytes.length (ofLe bytes) = bytes := by
  induction bytes with
  | nil => rfl
  | cons byte rest ih =>
      have small : byte.toNat < 256 := byte.toNat_lt
      have low : (byte.toNat + 256 * ofLe rest) % 256 = byte.toNat := by omega
      have high : (byte.toNat + 256 * ofLe rest) / 256 = ofLe rest := by omega
      simp [toLe, ofLe, low, high, ih]

theorem toLe_ofLe_of_length (width : Nat) (bytes : Bytes) (length : bytes.length = width) :
    toLe width (ofLe bytes) = bytes := by
  subst length
  exact toLe_ofLe bytes

/-! The unsigned machine words: a width in bytes and the range it gives. -/

class Word (word : Type) where
  width : Nat
  toNat : word → Nat
  ofNat : Nat → word
  toNat_lt : ∀ value, toNat value < 256 ^ width
  ofNat_toNat : ∀ value, ofNat (toNat value) = value
  toNat_ofNat : ∀ value, value < 256 ^ width → toNat (ofNat value) = value

instance : Word UInt8 where
  width := 1
  toNat := UInt8.toNat
  ofNat := UInt8.ofNat
  toNat_lt value := value.toNat_lt
  ofNat_toNat _ := UInt8.ofNat_toNat
  toNat_ofNat value fits := by
    have fits : value < 256 := by simpa using fits
    simp [Nat.mod_eq_of_lt fits]

instance : Word UInt16 where
  width := 2
  toNat := UInt16.toNat
  ofNat := UInt16.ofNat
  toNat_lt value := value.toNat_lt
  ofNat_toNat _ := UInt16.ofNat_toNat
  toNat_ofNat value fits := by
    have fits : value < 65536 := by simpa using fits
    simp [Nat.mod_eq_of_lt fits]

instance : Word UInt32 where
  width := 4
  toNat := UInt32.toNat
  ofNat := UInt32.ofNat
  toNat_lt value := value.toNat_lt
  ofNat_toNat _ := UInt32.ofNat_toNat
  toNat_ofNat value fits := by
    have fits : value < 4294967296 := by simpa using fits
    simp [Nat.mod_eq_of_lt fits]

instance : Word UInt64 where
  width := 8
  toNat := UInt64.toNat
  ofNat := UInt64.ofNat
  toNat_lt value := value.toNat_lt
  ofNat_toNat _ := UInt64.ofNat_toNat
  toNat_ofNat value fits := by
    have fits : value < 18446744073709551616 := by simpa using fits
    simp [Nat.mod_eq_of_lt fits]

section Words
variable {word : Type} [Word word]

def leBytes (value : word) : Bytes := toLe (Word.width word) (Word.toNat value)

def ofLeBytes (bytes : Bytes) : word := Word.ofNat (ofLe bytes)

@[simp] theorem leBytes_length (value : word) : (leBytes value).length = Word.width word :=
  toLe_length _ _

theorem ofLeBytes_leBytes (value : word) : ofLeBytes (leBytes value) = value := by
  rw [ofLeBytes, leBytes, ofLe_toLe _ _ (Word.toNat_lt value), Word.ofNat_toNat]

theorem leBytes_ofLeBytes (bytes : Bytes) (length : bytes.length = Word.width word) :
    leBytes (ofLeBytes bytes : word) = bytes := by
  have bound := ofLe_lt bytes
  rw [length] at bound
  rw [leBytes, ofLeBytes, Word.toNat_ofNat _ bound]
  exact toLe_ofLe_of_length _ _ length

theorem leBytes_injective : Function.Injective (leBytes : word → Bytes) := by
  intro left right same
  have decoded := congrArg (fun bytes => (ofLeBytes bytes : word)) same
  simpa only [ofLeBytes_leBytes] using decoded

end Words

/-! Naturals without leading zero bytes; zero itself takes one byte. -/

def beLength (value : Nat) : Nat := value.log2 / 8 + 1

def toBytesBe (value : Nat) : Bytes := (toLe (beLength value) value).reverse

def fromBytesBe (bytes : Bytes) : Nat := ofLe bytes.reverse

theorem lt_beLength (value : Nat) : value < 256 ^ beLength value := by
  have low : value < 2 ^ (value.log2 + 1) := Nat.lt_log2_self
  have wide : value.log2 + 1 ≤ 8 * beLength value := by
    unfold beLength
    omega
  calc value < 2 ^ (value.log2 + 1) := low
    _ ≤ 2 ^ (8 * beLength value) := Nat.pow_le_pow_right (by norm_num) wide
    _ = 256 ^ beLength value := by rw [pow_mul]; norm_num

theorem beLength_le (value bits : Nat) (positive : 0 < bits) (bound : value < 2 ^ bits) :
    beLength value ≤ (bits - 1) / 8 + 1 := by
  have log : value.log2 < bits := by
    by_cases zero : value = 0
    · rw [zero]
      exact positive
    · exact (Nat.log2_lt zero).mpr bound
  unfold beLength
  omega

@[simp] theorem toBytesBe_length (value : Nat) : (toBytesBe value).length = beLength value := by
  simp [toBytesBe]

theorem fromBytesBe_toBytesBe (value : Nat) : fromBytesBe (toBytesBe value) = value := by
  rw [fromBytesBe, toBytesBe, List.reverse_reverse, ofLe_toLe _ _ (lt_beLength value)]

/-- No other spelling of a natural is shorter than the minimal one. -/
theorem beLength_fromBytesBe (bytes : Bytes) (present : bytes ≠ []) :
    beLength (fromBytesBe bytes) ≤ bytes.length := by
  have bound : fromBytesBe bytes < 256 ^ bytes.length := by
    simpa [fromBytesBe] using ofLe_lt bytes.reverse
  have positive : 0 < bytes.length := List.length_pos_iff.mpr present
  by_cases zero : fromBytesBe bytes = 0
  · simp only [zero, beLength, Nat.log2_zero]
    omega
  · have power : fromBytesBe bytes < 2 ^ (8 * bytes.length) := by
      rw [pow_mul]
      simpa using bound
    have log := (Nat.log2_lt zero).mpr power
    unfold beLength
    omega

theorem ofLe_append (front later : Bytes) :
    ofLe (front ++ later) = ofLe front + 256 ^ front.length * ofLe later := by
  induction front with
  | nil => simp [ofLe]
  | cons byte rest ih =>
      rw [List.cons_append, ofLe, ofLe, ih, List.length_cons, pow_succ]
      ring

theorem fromBytesBe_cons (head : UInt8) (rest : Bytes) :
    fromBytesBe (head :: rest) = fromBytesBe rest + 256 ^ rest.length * head.toNat := by
  simp [fromBytesBe, ofLe_append, ofLe]

/-- Of the spellings of a positive number only the minimal one starts with a
nonzero byte. -/
theorem toBytesBe_fromBytesBe (bytes : Bytes) (positive : fromBytesBe bytes ≠ 0) :
    toBytesBe (fromBytesBe bytes) = bytes ↔ bytes.head? ≠ some 0 := by
  cases bytes with
  | nil => exact absurd rfl positive
  | cons head rest =>
      have value := fromBytesBe_cons head rest
      have low : fromBytesBe rest < 256 ^ rest.length := by
        simpa [fromBytesBe] using ofLe_lt rest.reverse
      have power : (256 : Nat) ^ rest.length = 2 ^ (8 * rest.length) := by rw [pow_mul]; norm_num
      constructor
      · -- a leading zero leaves the value to the other bytes, which are fewer
        intro minimal zero
        obtain rfl : head = 0 := Option.some.inj zero
        have width := congrArg List.length minimal
        rw [toBytesBe_length, List.length_cons] at width
        have bound : fromBytesBe (0 :: rest) < 2 ^ (8 * rest.length) := by
          rw [value, ← power]
          simpa using low
        have wide : 0 < rest.length := by
          by_contra empty
          rw [Nat.eq_zero_of_not_pos empty] at bound
          exact positive (by simpa using bound)
        have short := beLength_le _ (8 * rest.length) (by omega) bound
        omega
      · -- a nonzero first byte needs the whole length
        intro leading
        have head_positive : 1 ≤ head.toNat := by
          by_contra none
          apply leading
          have zero : head = 0 := UInt8.toNat_inj.mp (by simpa using none)
          rw [zero, List.head?_cons]
        have high : 2 ^ (8 * rest.length) ≤ fromBytesBe (head :: rest) := by
          rw [value, ← power]
          exact le_add_left (Nat.le_mul_of_pos_right _ head_positive)
        have log : 8 * rest.length ≤ (fromBytesBe (head :: rest)).log2 :=
          (Nat.le_log2 positive).mpr high
        have most := beLength_fromBytesBe (head :: rest) (List.cons_ne_nil _ _)
        have width : beLength (fromBytesBe (head :: rest)) = (head :: rest).length := by
          rw [List.length_cons] at most ⊢
          unfold beLength at most ⊢
          omega
        rw [toBytesBe, width, fromBytesBe, toLe_ofLe_of_length _ _ (List.length_reverse),
          List.reverse_reverse]

/-- Every spelling is the minimal one behind some zeros. -/
theorem toBytesBe_dropWhile (bytes : Bytes) (positive : fromBytesBe bytes ≠ 0) :
    toBytesBe (fromBytesBe bytes) = bytes.dropWhile (· = 0) := by
  induction bytes with
  | nil => exact absurd rfl positive
  | cons head rest ih =>
      by_cases zero : head = 0
      · subst zero
        have same : fromBytesBe (0 :: rest) = fromBytesBe rest := by
          rw [fromBytesBe_cons]
          rfl
        rw [same] at positive ⊢
        rw [ih positive, List.dropWhile_cons_of_pos (by simp)]
      · rw [List.dropWhile_cons_of_neg (by simpa using zero)]
        exact (toBytesBe_fromBytesBe _ positive).mpr (by simpa using zero)

def asBytes (text : String) : Bytes := text.toByteArray.data.toList

def fromUtf8 (bytes : Bytes) : Option String := String.fromUTF8? ⟨bytes.toArray⟩

theorem fromUtf8_eq_some (bytes : Bytes) (text : String) :
    fromUtf8 bytes = some text ↔ asBytes text = bytes := by
  unfold fromUtf8 String.fromUTF8? asBytes
  constructor
  · intro decoded
    split at decoded
    · obtain rfl := Option.some.inj decoded
      rfl
    · cases decoded
  · intro stored
    have same : (⟨bytes.toArray⟩ : ByteArray) = text.toByteArray := by
      rw [← stored]
    have valid : ByteArray.IsValidUTF8 ⟨bytes.toArray⟩ := same ▸ text.isValidUTF8
    rw [dif_pos valid]
    exact congrArg some (String.toByteArray_inj.mp same)

@[simp] theorem fromUtf8_asBytes (text : String) : fromUtf8 (asBytes text) = some text :=
  (fromUtf8_eq_some _ _).mpr rfl

theorem asBytes_injective : Function.Injective asBytes := by
  intro left right same
  have decoded := (fromUtf8_eq_some (asBytes right) left).mpr same
  rw [fromUtf8_asBytes] at decoded
  exact (Option.some.inj decoded).symm

@[simp] theorem asBytes_eq_nil (text : String) : asBytes text = [] ↔ text = "" := by
  constructor
  · intro empty
    exact asBytes_injective (empty.trans rfl)
  · intro empty
    subst empty
    rfl

/-! A cursor over the bytes not read yet. `eof` is the error of a short input. -/
section Cursor
variable {failure : Type} (eof : failure)

def takeExact (width : Nat) (input : Bytes) : Except failure (Block width × Bytes) :=
  if enough : width ≤ input.length then
    .ok (⟨input.take width, List.length_take_of_le enough⟩, input.drop width)
  else .error eof

theorem takeExact_eq_ok (width : Nat) (input : Bytes) (block : Block width) (rest : Bytes) :
    takeExact eof width input = .ok (block, rest) ↔ input = block.1 ++ rest := by
  unfold takeExact
  constructor
  · intro success
    split at success
    · injection success with pair
      obtain ⟨rfl, rfl⟩ := Prod.mk.inj pair
      exact (List.take_append_drop width input).symm
    · cases success
  · intro split
    obtain ⟨bytes, rfl⟩ := block
    subst split
    simp

@[simp] theorem takeExact_append {width : Nat} (block : Block width) (rest : Bytes) :
    takeExact eof width (block.1 ++ rest) = .ok (block, rest) :=
  (takeExact_eq_ok eof width _ block rest).mpr rfl

def takeWord (word : Type) [Word word] (input : Bytes) : Except failure (word × Bytes) :=
  match takeExact eof (Word.width word) input with
  | .ok (block, rest) => .ok (ofLeBytes block.1, rest)
  | .error short => .error short

theorem takeWord_eq_ok {word : Type} [Word word] (input : Bytes) (value : word) (rest : Bytes) :
    takeWord eof word input = .ok (value, rest) ↔ input = leBytes value ++ rest := by
  unfold takeWord
  constructor
  · intro success
    split at success
    · rename_i block tail taken
      injection success with pair
      obtain ⟨rfl, rfl⟩ := Prod.mk.inj pair
      rw [leBytes_ofLeBytes block.1 block.2]
      exact (takeExact_eq_ok eof _ _ _ _).mp taken
    · cases success
  · intro split
    have taken := (takeExact_eq_ok eof _ input ⟨leBytes value, leBytes_length value⟩ rest).mpr split
    simp only [taken, ofLeBytes_leBytes]

@[simp] theorem takeWord_append {word : Type} [Word word] (value : word) (rest : Bytes) :
    takeWord eof word (leBytes value ++ rest) = .ok (value, rest) :=
  (takeWord_eq_ok eof _ value rest).mpr rfl

end Cursor

end ByteCodec
