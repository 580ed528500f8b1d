import Mathlib.Data.List.Induction
import Mathlib.Data.Nat.Digits.Defs
import Timelocked.LockDifficulty

/-!
The durations that the documentation describes, and the texts that the parser
takes for one. It takes a plus sign in front of the digits as well, and it
splits off the last byte, which need not be a whole character.
-/
namespace DurationSpec
open ByteCodec RunRules Base OutputPath LockDifficulty

def units : List (Char × Nat) :=
  [('s', 1), ('m', 60), ('h', 3600), ('d', 86400), ('w', 604800)]

def decimalValue (digits : List Char) : Nat :=
  Nat.ofDigits 10 (digits.reverse.map fun digit => digit.toNat - '0'.toNat)

/-- Decimal digits, then one unit, and no more seconds than 64 bits hold. -/
def Spells (text : List Char) (seconds : Nat) : Prop :=
  ∃ digits unit perUnit, text = digits ++ [unit] ∧ digits ≠ [] ∧
    (∀ digit ∈ digits, digit.isDigit = true) ∧ (unit, perUnit) ∈ units ∧
    seconds = decimalValue digits * perUnit ∧ seconds < 2 ^ 64

/-- The parser is right about a text: it returns what the text spells, and
refuses, without a panic, what spells no duration. -/
def Exact (text : String) : Prop :=
  (∀ seconds : UInt64, parseDurationSpec text = .ok seconds ↔ Spells text.toList seconds.toNat) ∧
  ((∀ seconds, ¬ Spells text.toList seconds) →
    ∃ message, parseDurationSpec text = .error (.invalidArgument message))

def EndsInAscii (text : String) : Prop :=
  ∀ last, text.toList.getLast? = some last → last.toNat < 128

def PlusSigned (text : String) : Prop :=
  ∃ rest seconds, text.toList = '+' :: rest ∧ Spells rest seconds

theorem decimalValue_concat (digits : List Char) (last : Char) :
    decimalValue (digits ++ [last]) = decimalValue digits * 10 + (last.toNat - '0'.toNat) := by
  unfold decimalValue
  rw [List.reverse_append, List.reverse_singleton, List.singleton_append, List.map_cons,
    Nat.ofDigits_cons]
  omega

theorem parseDigits_eq (digits : List Char) : parseDigits digits = decimalValue digits := by
  induction digits using List.reverseRecOn with
  | nil => rfl
  | append_singleton digits last ih =>
      rw [decimalValue_concat, ← ih, parseDigits, List.foldl_append]
      rfl

theorem secondsPerUnit_iff (unit : Char) (perUnit : Nat) :
    (unit, perUnit) ∈ units ↔ ∃ seconds, secondsPerUnit unit = some seconds ∧
      seconds.toNat = perUnit := by
  constructor
  · intro member
    simp only [units, List.mem_cons, Prod.mk.injEq, List.not_mem_nil, or_false] at member
    rcases member with ⟨rfl, rfl⟩ | ⟨rfl, rfl⟩ | ⟨rfl, rfl⟩ | ⟨rfl, rfl⟩ | ⟨rfl, rfl⟩ <;>
      exact ⟨_, rfl, rfl⟩
  · rintro ⟨seconds, found, rfl⟩
    unfold secondsPerUnit at found
    split at found <;> cases found <;> decide

def withoutPlus : List Char → List Char
  | '+' :: rest => rest
  | text => text

theorem withoutPlus_digits (digits : List Char)
    (each : ∀ digit ∈ digits, digit.isDigit = true) : withoutPlus digits = digits := by
  unfold withoutPlus
  split
  · rename_i rest
    have plus := each '+' (by simp)
    cases plus
  · rfl

theorem withoutPlus_eq (text : List Char) :
    text = withoutPlus text ∨ text = '+' :: withoutPlus text := by
  unfold withoutPlus
  split
  · exact .inr rfl
  · exact .inl rfl

theorem parseU64_withoutPlus (text : List Char) :
    parseU64 text =
      if withoutPlus text = [] ∨ (withoutPlus text).all Char.isDigit = false then none
      else if parseDigits (withoutPlus text) > u64Max then none
      else some (UInt64.ofNat (parseDigits (withoutPlus text))) := by
  cases text with
  | nil => rfl
  | cons first rest =>
      by_cases plus : first = '+'
      · rw [plus]
        rfl
      · have kept : withoutPlus (first :: rest) = first :: rest := by
          unfold withoutPlus
          split
          · rename_i same
            exact absurd (List.cons.inj same).1 plus
          · rfl
        rw [kept]
        simp only [parseU64, List.cons.injEq, plus, false_and, imp_false, not_false_eq_true,
          implies_true]

/-- The integer parser takes digits, with or without a plus sign. -/
theorem parseU64_eq_some (text : List Char) (amount : UInt64) :
    parseU64 text = some amount ↔
      ∃ digits, (text = digits ∨ text = '+' :: digits) ∧ digits ≠ [] ∧
        (∀ digit ∈ digits, digit.isDigit = true) ∧ decimalValue digits = amount.toNat := by
  rw [parseU64_withoutPlus]
  constructor
  · intro success
    split at success
    · cases success
    · rename_i accepted
      split at success
      · cases success
      · rename_i fits
        obtain ⟨nonempty, each⟩ := not_or.mp accepted
        refine ⟨withoutPlus text, withoutPlus_eq text, nonempty, by simpa using each, ?_⟩
        have small : parseDigits (withoutPlus text) < 2 ^ 64 := by
          simp only [u64Max] at fits
          omega
        rw [← Option.some.inj success, ← parseDigits_eq, UInt64.toNat_ofNat',
          Nat.mod_eq_of_lt small]
  · rintro ⟨digits, written, nonempty, each, value⟩
    have stripped : withoutPlus text = digits := by
      rcases written with rfl | rfl
      · exact withoutPlus_digits text each
      · rfl
    have all : ¬ digits.all Char.isDigit = false := by simpa using each
    have bound := amount.toNat_lt
    have fits : ¬ amount.toNat > u64Max := by
      simp only [u64Max]
      omega
    rw [stripped, if_neg (not_or.mpr ⟨nonempty, all⟩), parseDigits_eq, value, if_neg fits]
    exact congrArg some UInt64.ofNat_toNat

theorem asBytes_concat (text : String) (front : List Char) (last : Char)
    (split : text.toList = front ++ [last]) :
    (asBytes text).length = (asBytes (String.ofList front)).length + last.utf8Size := by
  have pushed : text = (String.ofList front).push last := by
    apply String.toList_injective
    rw [split, String.toList_push, String.toList_ofList]
  have sized : ∀ other : String, (asBytes other).length = other.utf8ByteSize := fun _ => rfl
  rw [sized, sized, pushed, String.utf8ByteSize_push]

/-- Only the empty text and a single character of one byte are too short. -/
theorem short_iff (text : String) (front : List Char) (last : Char)
    (split : text.toList = front ++ [last]) :
    (asBytes text).length < 2 ↔ front = [] ∧ last.toNat < 128 := by
  have positive := Char.utf8Size_pos last
  have single : last.utf8Size = 1 ↔ last.toNat < 128 := by
    rw [Char.utf8Size_eq_one_iff, UInt32.le_iff_toNat_le]
    exact Nat.lt_succ_iff.symm
  rw [asBytes_concat text front last split]
  have empty : (asBytes (String.ofList front)).length = 0 ↔ front = [] := by
    rw [List.length_eq_zero_iff, asBytes_eq_nil]
    exact String.ofList_eq_empty_iff
  constructor
  · intro short
    exact ⟨empty.mp (by omega), single.mp (by omega)⟩
  · rintro ⟨nothing, ascii⟩
    have width := single.mpr ascii
    have none_ := empty.mpr nothing
    omega

/-- A last character that is not ASCII is split in the middle. -/
theorem parse_wide (text : String) (front : List Char) (last : Char)
    (split : text.toList = front ++ [last]) (wide : 128 ≤ last.toNat) :
    parseDurationSpec text = .error (.panicked "failed to slice string") := by
  have long : ¬ (asBytes text).length < 2 := by
    rw [short_iff text front last split]
    omega
  have backward : text.toList.reverse = last :: front.reverse := by
    rw [split, List.reverse_append]
    rfl
  unfold parseDurationSpec
  simp only [long, if_false, backward, wide, if_true]

/-- Otherwise the text before the last character is an integer, and that
character is a unit, or the argument is refused. -/
theorem parse_ascii (text : String) (front : List Char) (last : Char)
    (split : text.toList = front ++ [last]) (ascii : last.toNat < 128) :
    (∃ amount perUnit, parseU64 front = some amount ∧ secondsPerUnit last = some perUnit ∧
        amount.toNat * perUnit.toNat < 2 ^ 64 ∧ parseDurationSpec text = .ok (amount * perUnit)) ∨
      ((¬ ∃ amount perUnit, parseU64 front = some amount ∧ secondsPerUnit last = some perUnit ∧
        amount.toNat * perUnit.toNat < 2 ^ 64) ∧
        ∃ message, parseDurationSpec text = .error (.invalidArgument message)) := by
  have backward : text.toList.reverse = last :: front.reverse := by
    rw [split, List.reverse_append]
    rfl
  have narrow : ¬ 128 ≤ last.toNat := Nat.not_le.mpr ascii
  unfold parseDurationSpec
  simp only [short_iff text front last split, ascii, and_true, backward, narrow, if_false,
    List.reverse_reverse]
  by_cases alone : front = []
  · right
    rw [if_pos alone, alone]
    refine ⟨?_, _, rfl⟩
    rintro ⟨amount, _, parsed, _⟩
    cases parsed
  · rw [if_neg alone]
    cases parsed : parseU64 front with
    | none => exact .inr ⟨by simp, _, rfl⟩
    | some amount =>
        cases found : secondsPerUnit last with
        | none => exact .inr ⟨by simp, _, rfl⟩
        | some perUnit =>
            dsimp only
            by_cases fits : amount.toNat * perUnit.toNat < 2 ^ 64
            · exact .inl ⟨amount, perUnit, rfl, rfl, fits, if_pos fits⟩
            · rw [if_neg fits]
              exact .inr ⟨by simpa using fits, _, rfl⟩

/-- What an accepted text spells, after the plus sign if it has one. -/
theorem accepted_iff (front : List Char) (last : Char) (seconds : Nat) :
    (∃ amount perUnit : UInt64, parseU64 front = some amount ∧ secondsPerUnit last = some perUnit ∧
        amount.toNat * perUnit.toNat < 2 ^ 64 ∧ seconds = amount.toNat * perUnit.toNat) ↔
      Spells (front ++ [last]) seconds ∨
        ∃ digits, front = '+' :: digits ∧ Spells (digits ++ [last]) seconds := by
  constructor
  · rintro ⟨amount, perUnit, parsed, found, fits, rfl⟩
    obtain ⟨digits, written, nonempty, each, value⟩ := (parseU64_eq_some front amount).mp parsed
    have spelled : Spells (digits ++ [last]) (amount.toNat * perUnit.toNat) :=
      ⟨digits, last, perUnit.toNat, rfl, nonempty, each,
        (secondsPerUnit_iff last _).mpr ⟨perUnit, found, rfl⟩, by rw [value], fits⟩
    rcases written with rfl | rfl
    · exact .inl spelled
    · exact .inr ⟨digits, rfl, spelled⟩
  · -- The number fits into 64 bits, since the product does and no unit is zero.
    have enough : ∀ digits, (front = digits ∨ front = '+' :: digits) →
        Spells (digits ++ [last]) seconds →
          ∃ amount perUnit : UInt64, parseU64 front = some amount ∧
            secondsPerUnit last = some perUnit ∧ amount.toNat * perUnit.toNat < 2 ^ 64 ∧
            seconds = amount.toNat * perUnit.toNat := by
      rintro digits written ⟨digits', unit, perUnit, same, nonempty, each, listed, product, fits⟩
      obtain ⟨rfl, single⟩ := List.append_inj' same rfl
      obtain rfl : last = unit := by simpa using single
      obtain ⟨factor, found, rfl⟩ := (secondsPerUnit_iff last perUnit).mp listed
      have positive : 1 ≤ factor.toNat := by
        simp only [units, List.mem_cons, Prod.mk.injEq, List.not_mem_nil, or_false] at listed
        omega
      have small : decimalValue digits < 2 ^ 64 :=
        Nat.lt_of_le_of_lt (Nat.le_mul_of_pos_right _ positive) (product ▸ fits)
      have number : (UInt64.ofNat (decimalValue digits)).toNat = decimalValue digits := by
        rw [UInt64.toNat_ofNat']
        exact Nat.mod_eq_of_lt small
      refine ⟨UInt64.ofNat (decimalValue digits), factor,
        (parseU64_eq_some front _).mpr ⟨digits, written, nonempty, each, number.symm⟩, found, ?_, ?_⟩
      · rw [number, ← product]
        exact fits
      · rw [number, product]
    rintro (plain | ⟨digits, plus, signed⟩)
    · exact enough front (.inl rfl) plain
    · exact enough digits (.inr plus) signed

theorem spells_ascii (front : List Char) (last : Char) (seconds : Nat)
    (spelled : Spells (front ++ [last]) seconds) : last.toNat < 128 := by
  obtain ⟨_, unit, _, same, _, _, listed, _⟩ := spelled
  obtain ⟨_, single⟩ := List.append_inj' same rfl
  obtain rfl : last = unit := by simpa using single
  simp only [units, List.mem_cons, Prod.mk.injEq, List.not_mem_nil, or_false] at listed
  rcases listed with ⟨rfl, _⟩ | ⟨rfl, _⟩ | ⟨rfl, _⟩ | ⟨rfl, _⟩ | ⟨rfl, _⟩ <;> decide

theorem plus_spells_nothing (rest : List Char) (seconds : Nat) :
    ¬ Spells ('+' :: rest) seconds := by
  rintro ⟨digits, unit, _, same, nonempty, each, _⟩
  obtain ⟨first, others, rfl⟩ := List.exists_cons_of_ne_nil nonempty
  obtain rfl : '+' = first := (List.cons.inj same).1
  have digit := each '+' (by simp)
  cases digit

/-- The parser is right about the texts that end in an ASCII character and do
not put a plus sign before a duration, and about no others. -/
theorem duration_exact_iff (text : String) :
    Exact text ↔ EndsInAscii text ∧ ¬ PlusSigned text := by
  constructor
  · rintro ⟨accepts, refuses⟩
    constructor
    · intro last ends
      obtain ⟨front, split⟩ := List.getLast?_eq_some_iff.mp ends
      by_contra wide
      have silent : ∀ seconds, ¬ Spells text.toList seconds := by
        intro seconds spelled
        rw [split] at spelled
        exact wide (spells_ascii front last seconds spelled)
      obtain ⟨message, refused⟩ := refuses silent
      rw [parse_wide text front last split (Nat.not_lt.mp wide)] at refused
      cases refused
    · rintro ⟨rest, seconds, plus, spelled⟩
      have shape := spelled
      obtain ⟨digits, last, _, rfl, _⟩ := shape
      have split : text.toList = ('+' :: digits) ++ [last] := plus
      obtain ⟨amount, perUnit, parsed, found, fits, _⟩ :=
        (accepted_iff ('+' :: digits) last seconds).mpr (.inr ⟨digits, rfl, spelled⟩)
      rcases parse_ascii text _ last split (spells_ascii digits last seconds spelled) with
        ⟨_, _, _, _, _, returned⟩ | ⟨refused, _⟩
      · have spells := (accepts _).mp returned
        rw [plus] at spells
        exact plus_spells_nothing _ _ spells
      · exact refused ⟨amount, perUnit, parsed, found, fits⟩
  · rintro ⟨ascii, unsigned⟩
    rcases List.eq_nil_or_concat' text.toList with empty | ⟨front, last, split⟩
    · -- The empty text is too short and spells nothing.
      have silent : ∀ seconds, ¬ Spells text.toList seconds := by
        rintro seconds ⟨digits, unit, _, same, _⟩
        rw [empty] at same
        cases digits <;> cases same
      obtain rfl : text = "" := String.toList_injective (by rw [empty, String.toList_empty])
      exact ⟨fun seconds => ⟨fun returned => (by cases returned),
        fun spelled => absurd spelled (silent _)⟩, fun _ => ⟨_, rfl⟩⟩
    · have narrow : last.toNat < 128 := ascii last (by rw [split, List.getLast?_concat])
      rcases parse_ascii text front last split narrow with
        ⟨amount, perUnit, parsed, found, fits, returned⟩ | ⟨none_, message, refused⟩
      · have product : (amount * perUnit).toNat = amount.toNat * perUnit.toNat := by
          rw [UInt64.toNat_mul]
          exact Nat.mod_eq_of_lt fits
        have spelled : Spells text.toList (amount * perUnit).toNat := by
          rcases (accepted_iff front last _).mp ⟨amount, perUnit, parsed, found, fits, product⟩ with
            plain | ⟨digits, plus, signed⟩
          · rw [split]
            exact plain
          · exact absurd ⟨_, _, by rw [split, plus]; rfl, signed⟩ unsigned
        refine ⟨fun seconds => ?_, fun silent => absurd spelled (silent _)⟩
        rw [returned, Except.ok.injEq]
        constructor
        · rintro rfl
          exact spelled
        · intro again
          rw [split] at again
          obtain ⟨amount', perUnit', parsed', found', _, total⟩ :=
            (accepted_iff front last _).mpr (.inl again)
          obtain rfl := Option.some.inj (parsed.symm.trans parsed')
          obtain rfl := Option.some.inj (found.symm.trans found')
          exact UInt64.toNat_inj.mp (product.trans total.symm)
      · refine ⟨fun seconds => ?_, fun _ => ⟨message, refused⟩⟩
        rw [refused]
        constructor
        · intro returned
          cases returned
        · intro spelled
          rw [split] at spelled
          obtain ⟨amount, perUnit, parsed, found, fits, _⟩ :=
            (accepted_iff front last _).mpr (.inl spelled)
          exact absurd ⟨amount, perUnit, parsed, found, fits⟩ none_

/-- A plus sign is taken for a digit string, and the last byte of an accented
letter for a character. -/
theorem duration_not_exact : ¬ Exact "+3d" ∧ ¬ Exact "3é" := by
  constructor
  · rintro ⟨accepts, _⟩
    have returned : parseDurationSpec "+3d" = .ok 259200 := by decide +kernel
    exact plus_spells_nothing _ _ ((accepts _).mp returned)
  · rintro ⟨_, refuses⟩
    have panicked : parseDurationSpec "3é" = .error (.panicked "failed to slice string") :=
      parse_wide "3é" ['3'] 'é' (by decide) (by decide)
    obtain ⟨message, refused⟩ := refuses fun seconds spelled =>
      absurd (spells_ascii ['3'] 'é' seconds spelled) (by decide)
    rw [panicked] at refused
    cases refused

end DurationSpec
