import Mathlib.FieldTheory.Finite.Basic
import Mathlib.NumberTheory.LucasPrimality

/-!
Repeated squaring modulo a product of two primes, the long way and by the
shortcut only the factors give: the exponent reduced modulo the least common
multiple of the two group orders.
-/
namespace RepeatedSquaring

def square (modulus value : Nat) : Nat := value * value % modulus

def squarings (modulus : Nat) : Nat → Nat → Nat
  | 0, value => value
  | count + 1, value => squarings modulus count (square modulus value)

theorem squarings_modEq (modulus count value : Nat) :
    squarings modulus count value ≡ value ^ 2 ^ count [MOD modulus] := by
  induction count generalizing value with
  | zero =>
      rw [squarings, pow_zero, pow_one]
  | succ count ih =>
      have squared : square modulus value ≡ value ^ 2 [MOD modulus] := by
        rw [pow_two]
        exact Nat.mod_modEq _ _
      calc squarings modulus (count + 1) value
          ≡ square modulus value ^ 2 ^ count [MOD modulus] := ih (square modulus value)
        _ ≡ (value ^ 2) ^ 2 ^ count [MOD modulus] := squared.pow _
        _ ≡ value ^ 2 ^ (count + 1) [MOD modulus] := by rw [← pow_mul, pow_succ']

theorem squarings_lt (modulus count value : Nat) (reduced : value < modulus) :
    squarings modulus count value < modulus := by
  induction count generalizing value with
  | zero => exact reduced
  | succ count ih => exact ih _ (Nat.mod_lt _ (Nat.zero_lt_of_lt reduced))

def modpowLoop (modulus : Nat) : Nat → Nat → Nat → Nat → Nat
  | 0, _, _, result => result
  | rounds + 1, base, exponent, result =>
      modpowLoop modulus rounds (square modulus base) (exponent / 2)
        (if exponent % 2 = 1 then result * base % modulus else result)

def modpow (base exponent modulus : Nat) : Nat :=
  modpowLoop modulus (exponent.log2 + 1) base exponent 1 % modulus

theorem modpowLoop_modEq (modulus rounds base exponent result : Nat)
    (enough : exponent < 2 ^ rounds) :
    modpowLoop modulus rounds base exponent result ≡ result * base ^ exponent [MOD modulus] := by
  -- Induction on the bits of the exponent, the accumulator carrying those already read.
  induction rounds generalizing base exponent result with
  | zero =>
      obtain rfl : exponent = 0 := by simpa using enough
      rw [modpowLoop, pow_zero, Nat.mul_one]
  | succ rounds ih =>
      have half : exponent / 2 < 2 ^ rounds := by
        rw [pow_succ] at enough
        omega
      have squared : square modulus base ^ (exponent / 2) ≡ (base * base) ^ (exponent / 2)
          [MOD modulus] := (Nat.mod_modEq _ _).pow _
      have again := ih (square modulus base) (exponent / 2)
        (if exponent % 2 = 1 then result * base % modulus else result) half
      refine again.trans ?_
      split
      · rename_i odd
        have split : exponent = 2 * (exponent / 2) + 1 := by omega
        calc result * base % modulus * square modulus base ^ (exponent / 2)
            ≡ result * base * (base * base) ^ (exponent / 2) [MOD modulus] :=
              (Nat.mod_modEq _ _).mul squared
          _ = result * base ^ (2 * (exponent / 2) + 1) := by
              rw [pow_succ, pow_mul, pow_two]
              ring
          _ ≡ result * base ^ exponent [MOD modulus] := by rw [← split]
      · rename_i even
        have split : exponent = 2 * (exponent / 2) := by omega
        calc result * square modulus base ^ (exponent / 2)
            ≡ result * (base * base) ^ (exponent / 2) [MOD modulus] :=
              (Nat.ModEq.refl _).mul squared
          _ = result * base ^ (2 * (exponent / 2)) := by rw [pow_mul, pow_two]
          _ ≡ result * base ^ exponent [MOD modulus] := by rw [← split]

theorem modpow_eq (base exponent modulus : Nat) :
    modpow base exponent modulus = base ^ exponent % modulus := by
  have looped := modpowLoop_modEq modulus (exponent.log2 + 1) base exponent 1 Nat.lt_log2_self
  rw [Nat.one_mul] at looped
  exact looped

/-- Lucas' test, with powers that can be computed. -/
theorem prime_of_modpow (p base : Nat) (factors : List Nat) (large : 1 < p)
    (covers : ∀ q, q.Prime → q ∣ p - 1 → q ∈ factors) (whole : modpow base (p - 1) p = 1)
    (parts : ∀ q ∈ factors, modpow base ((p - 1) / q) p ≠ 1) : p.Prime := by
  have power (exponent : Nat) : (base : ZMod p) ^ exponent = 1 ↔ modpow base exponent p = 1 := by
    have one : 1 % p = 1 := Nat.mod_eq_of_lt large
    rw [← Nat.cast_pow, ← Nat.cast_one, ZMod.natCast_eq_natCast_iff, modpow_eq, Nat.ModEq, one]
  refine lucas_primality p base ((power _).mpr whole) ?_
  intro q prime divides same
  exact parts q (covers q prime divides) ((power _).mp same)

/-- An exponent may be reduced modulo any period of the base. -/
theorem pow_mod_period (modulus period base exponent : Nat)
    (periodic : base ^ period ≡ 1 [MOD modulus]) :
    base ^ (exponent % period) ≡ base ^ exponent [MOD modulus] := by
  have cycles : base ^ (period * (exponent / period)) ≡ 1 [MOD modulus] := by
    rw [pow_mul]
    simpa using periodic.pow (exponent / period)
  calc base ^ (exponent % period)
      = base ^ (exponent % period) * 1 := (Nat.mul_one _).symm
    _ ≡ base ^ (exponent % period) * base ^ (period * (exponent / period)) [MOD modulus] :=
        (Nat.ModEq.refl _).mul cycles.symm
    _ ≡ base ^ exponent [MOD modulus] := by rw [← pow_add, Nat.mod_add_div]

/-- The order of a unit modulo a prime divides any multiple of `p - 1`. -/
theorem pow_multiple_modEq_one (p base period : Nat) (prime : p.Prime) (unit : base.Coprime p)
    (multiple : p - 1 ∣ period) : base ^ period ≡ 1 [MOD p] := by
  obtain ⟨times, rfl⟩ := multiple
  have fermat : base ^ (p - 1) ≡ 1 [MOD p] := by
    rw [← Nat.totient_prime prime]
    exact Nat.ModEq.pow_totient unit
  rw [pow_mul]
  simpa using fermat.pow times

theorem pow_lcm_modEq_one (p q base : Nat) (pPrime : p.Prime) (qPrime : q.Prime) (different : p ≠ q)
    (unit : base.Coprime (p * q)) : base ^ Nat.lcm (p - 1) (q - 1) ≡ 1 [MOD p * q] := by
  have apart : p.Coprime q := (Nat.coprime_primes pPrime qPrime).mpr different
  refine (Nat.modEq_and_modEq_iff_modEq_mul apart).mp ⟨?_, ?_⟩
  · exact pow_multiple_modEq_one p base _ pPrime unit.coprime_mul_right_right (Nat.dvd_lcm_left _ _)
  · exact pow_multiple_modEq_one q base _ qPrime unit.coprime_mul_left_right (Nat.dvd_lcm_right _ _)

/-- The shortcut through the factors ends where the squarings end. -/
theorem shortcut_eq_squarings (p q base count : Nat) (pPrime : p.Prime) (qPrime : q.Prime)
    (different : p ≠ q) (unit : base.Coprime (p * q)) (reduced : base < p * q) :
    modpow base (modpow 2 count (Nat.lcm (p - 1) (q - 1))) (p * q) =
      squarings (p * q) count base := by
  rw [modpow_eq, modpow_eq]
  have period := pow_lcm_modEq_one p q base pPrime qPrime different unit
  have short := pow_mod_period (p * q) _ base (2 ^ count) period
  have same := short.trans (squarings_modEq (p * q) count base).symm
  rw [← Nat.mod_eq_of_lt (squarings_lt (p * q) count base reduced)]
  exact same

end RepeatedSquaring
