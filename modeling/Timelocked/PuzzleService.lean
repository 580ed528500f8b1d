import Timelocked.PasswordProtection
import Timelocked.RepeatedSquaring

/-!
The puzzle: its creator takes the shortcut through the factors of the modulus,
its solver squares one step at a time and looks at the token in between. The
two end at the same number, so the mask made from it wraps and unwraps a key.
-/
namespace PuzzleService
open ByteCodec RunRules Base PasswordProtection RepeatedSquaring

def minimumModulusBits : Nat := 2048

structure TimelockPuzzleMaterial where
  modulusN : Nat
  baseA : Nat
  wrappedKey : Block 32
  iterations : UInt64
  modulusBits : UInt16

structure CreatedTimelockPuzzle where
  modulusN : Nat
  baseA : Nat
  iterations : UInt64
  modulusBits : UInt16
  solutionMask : Block 32

/-- `BigUint::bits`. -/
def bits (value : Nat) : Nat := if value = 0 then 0 else value.log2 + 1

def tooClose (p q minDiffBits : Nat) : Bool :=
  let diff := if p > q then p - q else q - p
  bits diff < minDiffBits

/-- What `gen_blum_prime` returns: its loop ends at such a candidate. -/
abbrev BlumCandidate := {candidate : Nat // candidate % 4 = 3}

/-- The three loops that draw until a draw will do, by what they end with. The
first two fail where the prime generator does. -/
structure PuzzleDraws where
  genBlumPrime : History → (primeBits : Nat) → Except String BlumCandidate
  genDistantBlumPrime : History → (primeBits : Nat) → (p : BlumCandidate) →
    (minPrimeDiffBits : Nat) →
    Except String {q : BlumCandidate // ¬ (p = q ∨ tooClose p.1 q.1 minPrimeDiffBits = true)}
  randomCoprimeBase : History → (p q : BlumCandidate) → (modulusBits : Nat) →
    {a : Nat // 2 ≤ a ∧ a < p.1 * q.1 ∧ a.gcd (p.1 * q.1) = 1}

def repeatedSquareStep (value modulusN : Nat) : Nat := square modulusN value

section Mask
variable (crates : Crates)

def deriveKeyMask (result : Nat) : Block 32 := crates.blake3 (toBytesBe result)

def shortcutMask (p q a : Nat) (iterations : UInt64) : Block 32 :=
  let lambda := (p - 1).lcm (q - 1)
  let exponent := modpow 2 iterations.toNat lambda
  deriveKeyMask crates (modpow a exponent (p * q))

section Create
variable (draws : PuzzleDraws)

def primeError (name err : String) : Error := .crypto s!"failed to generate prime {name}: {err}"

def createPuzzleAndDeriveMask (iterations : UInt64) (modulusBits : Nat) :
    Op CreatedTimelockPuzzle := do
  Run.lift (rejectIf (iterations = 0) (.invalidArgument "iterations must be greater than zero"))
  Run.lift (rejectIf (modulusBits < minimumModulusBits ∨ modulusBits % 2 ≠ 0)
    (.invalidArgument s!"modulus bits must be even and >= {minimumModulusBits}"))
  let primeBits := modulusBits / 2
  let drawn ← draw fun history => draws.genBlumPrime history primeBits
  let p ← Run.lift (drawn.mapError (primeError "p"))
  let minPrimeDiffBits := primeBits / 2
  let drawn ← draw fun history => draws.genDistantBlumPrime history primeBits p minPrimeDiffBits
  let q ← Run.lift (drawn.mapError (primeError "q"))
  let a ← draw fun history => draws.randomCoprimeBase history p q.1 modulusBits
  pure {
    modulusN := p.1 * q.1.1
    baseA := a.1
    iterations := iterations
    modulusBits := UInt16.ofNat modulusBits
    solutionMask := shortcutMask crates p.1 q.1.1 a.1 iterations }

def createPuzzleAndWrapKey (key : Block 32) (iterations : UInt64) (modulusBits : Nat) :
    Op TimelockPuzzleMaterial := do
  let puzzle ← createPuzzleAndDeriveMask crates draws iterations modulusBits
  pure {
    modulusN := puzzle.modulusN
    baseA := puzzle.baseA
    wrappedKey := xor32 key puzzle.solutionMask
    iterations := puzzle.iterations
    modulusBits := puzzle.modulusBits }

end Create

section Solve
variable (onProgress : Bool) (cancellation : Option CancellationToken)

def solveLoop (material : TimelockPuzzleMaterial) : Nat → Nat → Nat → Op Nat
  | 0, _, value => pure value
  | remaining + 1, completed, value => do
      let value := repeatedSquareStep value material.modulusN
      let completed := completed + 1
      Run.onlyIf (completed % 1024 = 0) (ensureNotCancelled cancellation)
      Run.onlyIf (completed = material.iterations.toNat ∨ completed % 10000 = 0) do
        ensureNotCancelled cancellation
        emitProgress onProgress "unlock-timelock" completed material.iterations.toNat
      solveLoop material remaining completed value

def solvePuzzleMaskWithCancel (material : TimelockPuzzleMaterial) : Op (Block 32) := do
  ensureNotCancelled cancellation
  let value ← solveLoop onProgress cancellation material material.iterations.toNat 0 material.baseA
  emit .solved
  pure (deriveKeyMask crates value)

def unwrapKeyWithCancel (material : TimelockPuzzleMaterial) : Op (Block 32) := do
  let mask ← solvePuzzleMaskWithCancel crates onProgress cancellation material
  pure (xor32 material.wrappedKey mask)

end Solve

end Mask

section Watches
variable {related : World → World → Prop} (watches : Watches related) (onProgress : Bool)
  (cancellation : Option CancellationToken) (material : TimelockPuzzleMaterial)
include watches

theorem onlyIf_keeps (condition : Prop) [Decidable condition] (run : Op Unit)
    (kept : Run.Keeps related run) : Run.Keeps related (Run.onlyIf condition run) :=
  Run.keeps_onlyIf watches.refl condition kept

theorem solveLoop_keeps (remaining completed value : Nat) :
    Run.Keeps related (solveLoop onProgress cancellation material remaining completed value) := by
  have polled := ensureNotCancelled_keeps watches.refl watches.poll cancellation
  induction remaining generalizing completed value with
  | zero => exact Run.keeps_pure watches.refl value
  | succ remaining ih =>
      apply Run.keeps_bind watches.trans (onlyIf_keeps watches _ _ polled)
      intro _
      apply Run.keeps_bind watches.trans
      · apply onlyIf_keeps watches
        exact Run.keeps_bind watches.trans polled
          fun _ => emitProgress_keeps watches.refl watches.hears _ _ _ _
      · exact fun _ => ih _ _

theorem solvePuzzleMaskWithCancel_keeps (solved : Passes related .solved) (crates : Crates) :
    Run.Keeps related (solvePuzzleMaskWithCancel crates onProgress cancellation material) := by
  apply Run.keeps_bind watches.trans
    (ensureNotCancelled_keeps watches.refl watches.poll cancellation)
  intro _
  apply Run.keeps_bind watches.trans
    (solveLoop_keeps watches onProgress cancellation material _ _ _)
  intro _
  exact Run.keeps_bind watches.trans solved fun _ => Run.keeps_pure watches.refl _

end Watches

/-- A run that gives this value and changes nothing, unless it is cancelled, and
it is not cancelled by a token that never is. -/
def Yields {α : Type} (cancellation : Option CancellationToken) (run : Op α) (value : α) : Prop :=
  ∀ world, (∃ after, run world = (.ok value, after) ∧ Quiet world after) ∨
    (¬ NeverCancelled cancellation ∧
      ∃ after, run world = (.error .cancelled, after) ∧ Quiet world after)

section Yields
variable (cancellation : Option CancellationToken)

theorem yields_pure {α : Type} (value : α) : Yields cancellation (pure value) value :=
  fun world => .inl ⟨world, rfl, quiet_refl world⟩

theorem yields_bind {α β : Type} (first : Op α) (next : α → Op β) (value : α) (result : β)
    (firstYields : Yields cancellation first value)
    (nextYields : Yields cancellation (next value) result) :
    Yields cancellation (first >>= next) result := by
  intro world
  rcases firstYields world with ⟨between, success, quiet⟩ | ⟨may, between, failed, quiet⟩
  · rw [Run.bind_of_ok success]
    rcases nextYields between with ⟨after, success', quiet'⟩ | ⟨may, after, failed, quiet'⟩
    · exact .inl ⟨after, success', quiet_trans _ _ _ quiet quiet'⟩
    · exact .inr ⟨may, after, failed, quiet_trans _ _ _ quiet quiet'⟩
  · rw [Run.bind_of_error failed]
    exact .inr ⟨may, between, rfl, quiet⟩

theorem ensureNotCancelled_yields : Yields cancellation (ensureNotCancelled cancellation) () := by
  intro world
  by_cases never : NeverCancelled cancellation
  · exact .inl (ensureNotCancelled_ok cancellation never world)
  · cases cancellation with
    | none => exact absurd neverCancelled_none never
    | some isCancelled =>
        by_cases polled : isCancelled world.history = true
        · refine .inr ⟨never, { world with history := .poll :: world.history }, ?_, ⟨rfl, rfl, rfl⟩⟩
          simp [ensureNotCancelled, polled]
        · refine .inl ⟨{ world with history := .poll :: world.history }, ?_, ⟨rfl, rfl, rfl⟩⟩
          simp [ensureNotCancelled, polled]

theorem onlyIf_yields (condition : Prop) [Decidable condition] (run : Op Unit)
    (yields : Yields cancellation run ()) : Yields cancellation (Run.onlyIf condition run) () := by
  unfold Run.onlyIf
  split
  · exact yields
  · exact yields_pure cancellation ()

theorem emitProgress_yields (onProgress : Bool) (phase : String) (current total : Nat) :
    Yields cancellation (emitProgress onProgress phase current total) () :=
  fun world => .inl (emitProgress_ok onProgress phase current total world)

section Solve
variable (crates : Crates) (onProgress : Bool) (material : TimelockPuzzleMaterial)

/-- Whatever the token answers in between, the loop ends at the squarings. -/
theorem solveLoop_yields (remaining completed value : Nat) :
    Yields cancellation (solveLoop onProgress cancellation material remaining completed value)
      (squarings material.modulusN remaining value) := by
  induction remaining generalizing completed value with
  | zero => exact yields_pure cancellation _
  | succ remaining ih =>
      have later := ih (completed + 1) (repeatedSquareStep value material.modulusN)
      refine yields_bind _ _ _ _ _ (onlyIf_yields _ _ _ (ensureNotCancelled_yields _)) ?_
      refine yields_bind _ _ _ _ _ (onlyIf_yields _ _ _ ?_) later
      exact yields_bind _ _ _ _ _ (ensureNotCancelled_yields _) (emitProgress_yields _ _ _ _ _)

theorem solvePuzzleMaskWithCancel_yields (mask : Block 32)
    (solution : mask = deriveKeyMask crates
      (squarings material.modulusN material.iterations.toNat material.baseA)) :
    Yields cancellation (solvePuzzleMaskWithCancel crates onProgress cancellation material)
      mask := by
  have noted : Yields cancellation (emit .solved) () :=
    fun world => .inl ⟨_, rfl, ⟨rfl, rfl, rfl⟩⟩
  rw [solution]
  exact yields_bind _ _ _ _ _ (ensureNotCancelled_yields cancellation)
    (yields_bind _ _ _ _ _ (solveLoop_yields _ _ _ _ _ _)
      (yields_bind _ _ _ _ _ noted (yields_pure _ _)))

end Solve

end Yields

/-- Both ways to the mask agree, whatever the primes, the base and the count. -/
theorem shortcutMask_eq (crates : Crates) (p q a : Nat) (iterations : UInt64) (pPrime : p.Prime)
    (qPrime : q.Prime) (different : p ≠ q) (reduced : a < p * q) (unit : a.gcd (p * q) = 1) :
    shortcutMask crates p q a iterations =
      deriveKeyMask crates (squarings (p * q) iterations.toNat a) := by
  unfold shortcutMask
  exact congrArg (deriveKeyMask crates)
    (shortcut_eq_squarings p q a iterations.toNat pPrime qPrime different unit reduced)

/-- The prime generator returns primes, as its documentation promises. -/
structure PuzzleDraws.Prime (draws : PuzzleDraws) : Prop where
  genBlumPrime : ∀ history primeBits p, draws.genBlumPrime history primeBits = .ok p → p.1.Prime
  genDistantBlumPrime : ∀ history primeBits p minDiffBits q,
    draws.genDistantBlumPrime history primeBits p minDiffBits = .ok q → q.1.1.Prime

theorem draw_bind_ok {α β : Type} {generator : History → α} {next : α → Op β} {result : β}
    {before after : World} (success : (draw generator >>= next) before = (.ok result, after)) :
    ∃ drawn, next (generator before.history) drawn = (.ok result, after) ∧ Quiet before drawn :=
  ⟨_, success, draw_quiet generator before⟩

/-- The mask of a created puzzle is what its solver will find. -/
theorem createPuzzleAndDeriveMask_ok (crates : Crates) (draws : PuzzleDraws) (prime : draws.Prime)
    (iterations : UInt64) (modulusBits : Nat) (puzzle : CreatedTimelockPuzzle)
    (before after : World)
    (created : createPuzzleAndDeriveMask crates draws iterations modulusBits before =
      (.ok puzzle, after)) :
    iterations ≠ 0 ∧ puzzle.baseA ≠ 0 ∧ puzzle.modulusN ≠ 0 ∧
      puzzle.iterations = iterations ∧ puzzle.modulusBits = UInt16.ofNat modulusBits ∧
      puzzle.solutionMask = deriveKeyMask crates
        (squarings puzzle.modulusN iterations.toNat puzzle.baseA) ∧ Quiet before after := by
  unfold createPuzzleAndDeriveMask at created
  obtain ⟨_, counted, c₁⟩ := (Run.lift_bind_eq_ok _ _ _ _ _).mp created
  obtain ⟨_, _, c₂⟩ := (Run.lift_bind_eq_ok _ _ _ _ _).mp c₁
  obtain ⟨w₁, c₃, quiet₁⟩ := draw_bind_ok c₂
  obtain ⟨p, pDrawn, c₄⟩ := (Run.lift_bind_eq_ok _ _ _ _ _).mp c₃
  obtain ⟨w₂, c₅, quiet₂⟩ := draw_bind_ok c₄
  obtain ⟨q, qDrawn, c₆⟩ := (Run.lift_bind_eq_ok _ _ _ _ _).mp c₅
  obtain ⟨w₃, c₇, quiet₃⟩ := draw_bind_ok c₆
  rw [rejectIf_eq_ok] at counted
  rw [mapError_eq_ok] at pDrawn qDrawn
  cases c₇
  have pPrime := prime.genBlumPrime _ _ _ pDrawn
  have qPrime := prime.genDistantBlumPrime _ _ _ _ _ qDrawn
  -- What the draws promise: distinct primes, and a base between 2 and n prime to n.
  have different : p.1 ≠ q.1.1 := fun same => q.2 (.inl (Subtype.ext same))
  obtain ⟨a, atLeast, reduced, unit⟩ := draws.randomCoprimeBase w₂.history p q.1 modulusBits
  refine ⟨counted, ?_, ?_, rfl, rfl, ?_, ?_⟩
  · exact Nat.ne_of_gt (Nat.lt_of_lt_of_le Nat.zero_lt_two atLeast)
  · exact Nat.mul_ne_zero pPrime.ne_zero qPrime.ne_zero
  · exact shortcutMask_eq crates p.1 q.1.1 a iterations pPrime qPrime different reduced unit
  · exact quiet_trans _ _ _ quiet₁ (quiet_trans _ _ _ quiet₂ quiet₃)

/-- The creator's shortcut and the solver's work agree. So a solver that is not
cancelled finds the mask, and the key wrapped under it comes back. -/
theorem shortcut_agrees (crates : Crates) :
    (∀ p q a : Nat, ∀ iterations : UInt64, p.Prime → q.Prime → p ≠ q → 2 ≤ a → a < p * q →
      a.gcd (p * q) = 1 → iterations ≠ 0 →
      ∀ material : TimelockPuzzleMaterial, material.modulusN = p * q → material.baseA = a →
        material.iterations = iterations → ∀ onProgress cancellation,
          Yields cancellation (solvePuzzleMaskWithCancel crates onProgress cancellation material)
            (shortcutMask crates p q a iterations)) ∧
    ∀ draws : PuzzleDraws, draws.Prime → ∀ key iterations modulusBits material before after,
      createPuzzleAndWrapKey crates draws key iterations modulusBits before =
        (.ok material, after) →
      ∀ onProgress cancellation,
        Yields cancellation (unwrapKeyWithCancel crates onProgress cancellation material) key := by
  constructor
  · intro p q a iterations pPrime qPrime different _ reduced unit _ material modulus base count
      onProgress cancellation
    refine solvePuzzleMaskWithCancel_yields cancellation crates onProgress material _ ?_
    rw [shortcutMask_eq crates p q a iterations pPrime qPrime different reduced unit, modulus, base,
      count]
  · intro draws prime key iterations modulusBits material before after created onProgress
      cancellation
    obtain ⟨puzzle, _, made, returned⟩ := (Run.bind_eq_ok _ _ _ _ _).mp created
    cases returned
    obtain ⟨_, _, _, count, _, solution, _⟩ :=
      createPuzzleAndDeriveMask_ok crates draws prime _ _ _ _ _ made
    refine yields_bind _ _ _ _ _ (solvePuzzleMaskWithCancel_yields cancellation crates onProgress _
      puzzle.solutionMask (by rw [solution, count])) ?_
    rw [xor32_xor32]
    exact yields_pure cancellation key

/-! Two primes of the size the generator draws. -/

def smoothPrime (i j k : Nat) : Nat := 2 * 3 ^ i * 5 ^ j * 7 ^ k + 1

theorem smoothPrime_prime (i j k base : Nat)
    (whole : modpow base (smoothPrime i j k - 1) (smoothPrime i j k) = 1)
    (parts : ∀ q ∈ [2, 3, 5, 7],
      modpow base ((smoothPrime i j k - 1) / q) (smoothPrime i j k) ≠ 1) :
    (smoothPrime i j k).Prime := by
  refine prime_of_modpow _ base [2, 3, 5, 7] ?_ ?_ whole parts
  · have positive : 0 < 2 * 3 ^ i * 5 ^ j * 7 ^ k := by positivity
    exact Nat.lt_succ_of_le positive
  · intro q prime divides
    rw [smoothPrime, Nat.add_sub_cancel, prime.dvd_mul, prime.dvd_mul, prime.dvd_mul] at divides
    rcases divides with ((two | three) | five) | seven
    · simp [(Nat.prime_dvd_prime_iff_eq prime Nat.prime_two).mp two]
    · simp [(Nat.prime_dvd_prime_iff_eq prime Nat.prime_three).mp (prime.dvd_of_dvd_pow three)]
    · simp [(Nat.prime_dvd_prime_iff_eq prime Nat.prime_five).mp (prime.dvd_of_dvd_pow five)]
    · simp [(Nat.prime_dvd_prime_iff_eq prime Nat.prime_seven).mp (prime.dvd_of_dvd_pow seven)]

theorem smoothPrime_p : (smoothPrime 538 4 57).Prime :=
  smoothPrime_prime _ _ _ 7 (by decide +kernel) (by decide +kernel)

theorem smoothPrime_q : (smoothPrime 583 6 30).Prime :=
  smoothPrime_prime _ _ _ 3 (by decide +kernel) (by decide +kernel)

def smoothP : BlumCandidate := ⟨smoothPrime 538 4 57, by decide +kernel⟩
def smoothQ : BlumCandidate := ⟨smoothPrime 583 6 30, by decide +kernel⟩

/-- Two is coprime to every product of two such candidates, and below it. -/
theorem two_coprime (p q : BlumCandidate) :
    2 ≤ 2 ∧ 2 < p.1 * q.1 ∧ Nat.gcd 2 (p.1 * q.1) = 1 := by
  have pOdd := p.2
  have qOdd := q.2
  have large : 3 * 3 ≤ p.1 * q.1 := Nat.mul_le_mul (by omega) (by omega)
  have odd : p.1 * q.1 % 2 = 1 := by
    rw [Nat.mul_mod]
    have pParity : p.1 % 2 = 1 := by omega
    have qParity : q.1 % 2 = 1 := by omega
    rw [pParity, qParity]
  refine ⟨Nat.le_refl 2, by omega, ?_⟩
  exact Nat.coprime_two_left.mpr (Nat.odd_iff.mpr odd)

def smoothDraws : PuzzleDraws where
  genBlumPrime _ primeBits := if smoothP.1 < 2 ^ primeBits then .ok smoothP else .error "exhausted"
  genDistantBlumPrime _ primeBits p minPrimeDiffBits :=
    if apart : ¬ (p = smoothQ ∨ tooClose p.1 smoothQ.1 minPrimeDiffBits = true) then
      if smoothQ.1 < 2 ^ primeBits then .ok ⟨smoothQ, apart⟩ else .error "exhausted"
    else .error "exhausted"
  randomCoprimeBase _ p q _ := ⟨2, two_coprime p q⟩

theorem smoothDraws_p (history : History) (primeBits : Nat) (p : BlumCandidate)
    (drawn : smoothDraws.genBlumPrime history primeBits = .ok p) :
    p = smoothP ∧ smoothP.1 < 2 ^ primeBits := by
  simp only [smoothDraws] at drawn
  split at drawn
  · rename_i fits
    exact ⟨(Except.ok.inj drawn).symm, fits⟩
  · cases drawn

theorem smoothDraws_q (history : History) (primeBits : Nat) (p : BlumCandidate) (minDiffBits : Nat)
    (q : {q : BlumCandidate // ¬ (p = q ∨ tooClose p.1 q.1 minDiffBits = true)})
    (drawn : smoothDraws.genDistantBlumPrime history primeBits p minDiffBits = .ok q) :
    q.1 = smoothQ ∧ smoothQ.1 < 2 ^ primeBits := by
  simp only [smoothDraws] at drawn
  split at drawn
  · split at drawn
    · rename_i fits
      obtain rfl := Except.ok.inj drawn
      exact ⟨rfl, fits⟩
    · cases drawn
  · cases drawn

theorem smoothDraws_prime : smoothDraws.Prime := by
  refine ⟨fun history bits p drawn => ?_, fun history bits p diff q drawn => ?_⟩
  · rw [(smoothDraws_p history bits p drawn).1]
    exact smoothPrime_p
  · rw [(smoothDraws_q history bits p diff q drawn).1]
    exact smoothPrime_q

def createSmooth : Except Error TimelockPuzzleMaterial × World :=
  createPuzzleAndWrapKey plainCrates smoothDraws (zeros 32) 3 2048 (freshWorld .bare)

theorem shortcut_agrees_smooth :
    Yields none (solvePuzzleMaskWithCancel plainCrates false none
      ⟨7 * 11, 2, zeros 32, 3, 2048⟩) (shortcutMask plainCrates 7 11 2 3) ∧
    ∃ material after, createSmooth = (.ok material, after) ∧
      Yields none (unwrapKeyWithCancel plainCrates false none material) (zeros 32) := by
  obtain ⟨solves, unwraps⟩ := shortcut_agrees plainCrates
  refine ⟨solves 7 11 2 3 (by decide) (by decide) (by decide) (by decide) (by decide)
    (by decide) (by decide) _ rfl rfl rfl _ _, ?_⟩
  have success : createSmooth.1.toBool = true := by decide +kernel
  rcases made : createSmooth with ⟨reason | material, after⟩
  · rw [made] at success
    cases success
  · exact ⟨material, after, rfl, unwraps smoothDraws smoothDraws_prime _ _ _ _ _ _ made _ _⟩

structure PuzzleDraws.Sized (draws : PuzzleDraws) : Prop where
  genBlumPrime : ∀ history primeBits p,
    draws.genBlumPrime history primeBits = .ok p → p.1 < 2 ^ primeBits
  genDistantBlumPrime : ∀ history primeBits p minDiffBits q,
    draws.genDistantBlumPrime history primeBits p minDiffBits = .ok q → q.1.1 < 2 ^ primeBits

/-- So the modulus and the base take no more bits than were asked for. -/
theorem createPuzzleAndDeriveMask_sized (crates : Crates) (draws : PuzzleDraws)
    (sized : draws.Sized) (iterations : UInt64) (modulusBits : Nat)
    (puzzle : CreatedTimelockPuzzle) (before after : World)
    (created : createPuzzleAndDeriveMask crates draws iterations modulusBits before =
      (.ok puzzle, after)) :
    puzzle.modulusN < 2 ^ modulusBits ∧ puzzle.baseA < 2 ^ modulusBits := by
  unfold createPuzzleAndDeriveMask at created
  obtain ⟨_, _, c₁⟩ := (Run.lift_bind_eq_ok _ _ _ _ _).mp created
  obtain ⟨_, _, c₂⟩ := (Run.lift_bind_eq_ok _ _ _ _ _).mp c₁
  obtain ⟨w₁, c₃, _⟩ := draw_bind_ok c₂
  obtain ⟨p, pDrawn, c₄⟩ := (Run.lift_bind_eq_ok _ _ _ _ _).mp c₃
  obtain ⟨w₂, c₅, _⟩ := draw_bind_ok c₄
  obtain ⟨q, qDrawn, c₆⟩ := (Run.lift_bind_eq_ok _ _ _ _ _).mp c₅
  obtain ⟨w₃, c₇, _⟩ := draw_bind_ok c₆
  rw [mapError_eq_ok] at pDrawn qDrawn
  cases c₇
  obtain ⟨a, _, reduced, _⟩ := draws.randomCoprimeBase w₂.history p q.1 modulusBits
  have product : p.1 * q.1.1 < 2 ^ modulusBits :=
    calc p.1 * q.1.1 < 2 ^ (modulusBits / 2) * 2 ^ (modulusBits / 2) :=
          Nat.mul_lt_mul'' (sized.genBlumPrime _ _ _ pDrawn)
            (sized.genDistantBlumPrime _ _ _ _ _ qDrawn)
      _ = 2 ^ (modulusBits / 2 + modulusBits / 2) := (pow_add _ _ _).symm
      _ ≤ 2 ^ modulusBits := Nat.pow_le_pow_right Nat.two_pos (by omega)
  exact ⟨product, reduced.trans product⟩

theorem smoothDraws_sized : smoothDraws.Sized := by
  refine ⟨fun history bits p drawn => ?_, fun history bits p diff q drawn => ?_⟩
  · obtain ⟨rfl, fits⟩ := smoothDraws_p history bits p drawn
    exact fits
  · obtain ⟨same, fits⟩ := smoothDraws_q history bits p diff q drawn
    rw [same]
    exact fits

end PuzzleService
