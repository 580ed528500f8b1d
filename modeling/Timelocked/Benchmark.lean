import Timelocked.Inspection

/-!
How the rate of a machine is measured, and what a lock for a target is worth on
it. The benchmark squares until a look at the clock finds its window over, and
rounds the squarings a second; the difficulty is that rate for every second of
the target, so it is off by at most half a squaring for each of them.
-/
namespace Benchmark
open ByteCodec RunRules Base PuzzleService LockDifficulty OutputPath Lock LockEffects Inspection
open LockedArtifact (keepingHost)

/-- A monotonic clock by the looks at it, in nanoseconds. -/
structure Clock where
  nanos : Nat → Nat
  steady : Monotone nanos
  passes : ∀ time, ∃ look, time ≤ nanos look

def nanosPerSecond : Nat := 1000000000

def calibrationWindow : Nat := 750000000

def calibrationModulus : Nat := 2 ^ 2048 - 159

def calibrationBase : Nat := 2 ^ 1024 + 65537

def u128Max : Nat := 2 ^ 128 - 1

def calculateIterationsPerSecond (iterations : UInt64) (elapsedNanos : Nat) : UInt64 :=
  if iterations = 0 then 0
  else if elapsedNanos = 0 then iterations
  else
    let counted := min (iterations.toNat * nanosPerSecond) u128Max
    let scaled := min (counted + elapsedNanos / 2) u128Max / elapsedNanos
    UInt64.ofNat (min scaled u64Max)

structure Squaring where
  look : Nat
  value : Nat
  iterations : Nat

section Measure
variable (clock : Clock)

/-- `while started.elapsed() < duration`, for as many looks as there is fuel. -/
def squareWhile (started duration : Nat) : Nat → Squaring → Option Squaring
  | 0, _ => none
  | fuel + 1, state =>
      if clock.nanos state.look - started < duration then
        squareWhile started duration fuel
          ⟨state.look + 1, repeatedSquareStep state.value calibrationModulus,
            min (state.iterations + 1) u64Max⟩
      else some { state with look := state.look + 1 }

/-- The squarings of the warm-up are counted by nobody. -/
def warmUpRepeatedSquaring (duration fuel : Nat) : Option Squaring :=
  squareWhile clock (clock.nanos 0) duration fuel ⟨1, calibrationBase, 0⟩

def benchmarkRepeatedSquaringIterationsPerSecond (duration fuel : Nat) : Option UInt64 := do
  let warm ← warmUpRepeatedSquaring clock (duration / 5) fuel
  let started := clock.nanos warm.look
  let done ← squareWhile clock started duration fuel ⟨warm.look + 1, warm.value, 0⟩
  let elapsed := clock.nanos done.look - started
  pure (calculateIterationsPerSecond (UInt64.ofNat done.iterations) elapsed)

theorem saturating_add (cap iterations count : Nat) :
    min (min (iterations + 1) cap + count) cap = min (iterations + (count + 1)) cap := by
  omega

/-- The loop ends at the first look that finds its window over. -/
theorem squareWhile_some (started duration fuel : Nat) (state done : Squaring)
    (ends : squareWhile clock started duration fuel state = some done) :
    ∃ count, (∀ k < count, clock.nanos (state.look + k) - started < duration) ∧
      duration ≤ clock.nanos (state.look + count) - started ∧
      done.look = state.look + count + 1 ∧
      (state.iterations ≤ u64Max → done.iterations = min (state.iterations + count) u64Max) := by
  induction fuel generalizing state with
  | zero => cases ends
  | succ fuel ih =>
      rw [squareWhile] at ends
      by_cases inside : clock.nanos state.look - started < duration
      · rw [if_pos inside] at ends
        obtain ⟨count, earlier, spent, looked, counted⟩ := ih _ ends
        have further : ∀ k, state.look + 1 + k = state.look + (k + 1) := fun k => by omega
        refine ⟨count + 1, fun k before => ?_, ?_, ?_, fun small => ?_⟩
        · cases k with
          | zero => exact inside
          | succ k =>
              rw [← further]
              exact earlier k (Nat.lt_of_succ_lt_succ before)
        · rw [← further]
          exact spent
        · rw [looked, further]
        · rw [counted (Nat.min_le_right _ _)]
          exact saturating_add _ _ _
      · rw [if_neg inside] at ends
        cases ends
        exact ⟨0, fun _ before => absurd before (Nat.not_lt_zero _), Nat.not_lt.mp inside, rfl,
          fun small => (Nat.min_eq_left small).symm⟩

/-- Any clock that goes on ends the loop. -/
theorem squareWhile_ends (started duration : Nat) (state : Squaring) :
    ∃ fuel done, ∀ more, squareWhile clock started duration (fuel + more) state = some done := by
  obtain ⟨late, passed⟩ := clock.passes (started + duration)
  have spent : ¬ clock.nanos (max state.look late) - started < duration := by
    have later := clock.steady (Nat.le_max_right state.look late)
    omega
  -- Induction on the looks left until the one that is surely too late.
  obtain ⟨left, last⟩ := Nat.exists_eq_add_of_le (Nat.le_max_left state.look late)
  rw [last] at spent
  clear last
  induction left generalizing state with
  | zero =>
      rw [Nat.add_zero] at spent
      refine ⟨1, { state with look := state.look + 1 }, fun more => ?_⟩
      rw [Nat.add_comm 1 more, squareWhile, if_neg spent]
  | succ left ih =>
      by_cases inside : clock.nanos state.look - started < duration
      · have later : ¬ clock.nanos (state.look + 1 + left) - started < duration := by
          rwa [Nat.add_assoc, Nat.add_comm 1 left]
        obtain ⟨fuel, done, ends⟩ := ih ⟨state.look + 1, _, _⟩ later
        refine ⟨fuel + 1, done, fun more => ?_⟩
        rw [Nat.add_right_comm, squareWhile, if_pos inside]
        exact ends more
      · refine ⟨1, { state with look := state.look + 1 }, fun more => ?_⟩
        rw [Nat.add_comm 1 more, squareWhile, if_neg inside]

/-- A benchmark that began at this look: so many squarings before the window was
over, and the time they took. -/
structure Measured (window begun count elapsed : Nat) : Prop where
  warm : window / 5 ≤ clock.nanos begun - clock.nanos 0
  inside : ∀ k < count, clock.nanos (begun + 1 + k) - clock.nanos begun < window
  spent : window ≤ clock.nanos (begun + 1 + count) - clock.nanos begun
  elapsed_eq : elapsed = clock.nanos (begun + count + 2) - clock.nanos begun

theorem Measured.lasts {window begun count elapsed : Nat}
    (measured : Measured clock window begun count elapsed) : window ≤ elapsed := by
  have later : clock.nanos (begun + 1 + count) ≤ clock.nanos (begun + count + 2) :=
    clock.steady (by omega)
  have spent := measured.spent
  rw [measured.elapsed_eq]
  omega

theorem benchmark_measured (duration fuel : Nat) (rate : UInt64)
    (returned : benchmarkRepeatedSquaringIterationsPerSecond clock duration fuel = some rate) :
    ∃ begun count elapsed, Measured clock duration begun count elapsed ∧
      rate = calculateIterationsPerSecond (UInt64.ofNat (min count u64Max)) elapsed := by
  obtain ⟨warm, warmed, r₁⟩ := Option.bind_eq_some_iff.mp returned
  obtain ⟨done, ended, r₂⟩ := Option.bind_eq_some_iff.mp r₁
  cases r₂
  obtain ⟨warmups, _, heated, looked, _⟩ := squareWhile_some clock _ _ _ _ _ warmed
  obtain ⟨count, inside, spent, last, counted⟩ := squareWhile_some clock _ _ _ _ _ ended
  have reached := clock.steady (Nat.le_succ (1 + warmups))
  refine ⟨warm.look, count, _, ⟨?_, inside, spent, rfl⟩, ?_⟩
  · rw [looked]
    exact heated.trans (Nat.sub_le_sub_right reached _)
  · rw [counted (Nat.zero_le _), Nat.zero_add, last]
    have same : warm.look + 1 + count + 1 = warm.look + count + 2 := by omega
    rw [same]

/-- The benchmark returns, whatever the machine makes of its window. -/
theorem benchmark_ends (duration : Nat) :
    ∃ fuel rate, benchmarkRepeatedSquaringIterationsPerSecond clock duration fuel = some rate := by
  obtain ⟨fuel₁, warm, warmed⟩ := squareWhile_ends clock (clock.nanos 0) (duration / 5)
    ⟨1, calibrationBase, 0⟩
  obtain ⟨fuel₂, done, ended⟩ := squareWhile_ends clock (clock.nanos warm.look) duration
    ⟨warm.look + 1, warm.value, 0⟩
  refine ⟨fuel₁ + fuel₂, calculateIterationsPerSecond (UInt64.ofNat done.iterations)
    (clock.nanos done.look - clock.nanos warm.look), ?_⟩
  rw [benchmarkRepeatedSquaringIterationsPerSecond, warmUpRepeatedSquaring, warmed fuel₂]
  dsimp only [Option.bind_eq_bind, Option.bind_some]
  rw [Nat.add_comm, ended fuel₁]
  rfl

end Measure

/-- So many squarings take this time at the pace that was measured, up to the
time of half a squaring for each second; a count that would not fit makes the
time shorter. -/
structure Takes (iterations seconds count elapsed : Nat) : Prop where
  most : 2 * (iterations * elapsed) ≤ seconds * (2 * (count * nanosPerSecond) + elapsed)
  least : count < 2 ^ 63 →
    seconds * (2 * (count * nanosPerSecond)) ≤ 2 * (iterations * elapsed) + seconds * elapsed

def scaledRate (iterations elapsed : Nat) : Nat :=
  min (min (iterations * nanosPerSecond) u128Max + elapsed / 2) u128Max / elapsed

theorem scaledRate_most (iterations elapsed : Nat) :
    2 * (scaledRate iterations elapsed * elapsed) ≤ 2 * (iterations * nanosPerSecond) + elapsed := by
  have divided := Nat.div_mul_le_self
    (min (min (iterations * nanosPerSecond) u128Max + elapsed / 2) u128Max) elapsed
  rw [← scaledRate] at divided
  have capped := Nat.min_le_left
    (min (iterations * nanosPerSecond) u128Max + elapsed / 2) u128Max
  have counted := Nat.min_le_left (iterations * nanosPerSecond) u128Max
  omega

/-- Rounding takes away less than half a squaring a second; a time that does not
fit rounds to nothing anyway. -/
theorem scaledRate_least (iterations elapsed : Nat) (lasts : 0 < elapsed)
    (few : iterations < 2 ^ 64) :
    2 * (iterations * nanosPerSecond) ≤ 2 * (scaledRate iterations elapsed * elapsed) + elapsed := by
  have within : iterations * nanosPerSecond ≤ u128Max / 4 := by
    unfold nanosPerSecond u128Max
    omega
  by_cases fits : iterations * nanosPerSecond + elapsed / 2 ≤ u128Max
  · have below := Nat.lt_div_mul_add lasts
      (a := min (min (iterations * nanosPerSecond) u128Max + elapsed / 2) u128Max)
    rw [← scaledRate, Nat.min_eq_left (within.trans (Nat.div_le_self _ _)),
      Nat.min_eq_left fits] at below
    omega
  · omega

theorem calculateIterationsPerSecond_toNat (iterations : UInt64) (elapsed : Nat)
    (lasts : 0 < elapsed) :
    (calculateIterationsPerSecond iterations elapsed).toNat =
      min (scaledRate iterations.toNat elapsed) u64Max := by
  have small : min (scaledRate iterations.toNat elapsed) u64Max < 2 ^ 64 :=
    Nat.lt_of_le_of_lt (Nat.min_le_right _ _) (by decide)
  unfold calculateIterationsPerSecond
  by_cases none_ : iterations = 0
  · have nothing : scaledRate 0 elapsed = 0 := by
      have counted := scaledRate_most 0 elapsed
      rw [Nat.zero_mul, Nat.mul_zero, Nat.zero_add] at counted
      by_contra some_
      have once := Nat.mul_le_mul_right elapsed (Nat.pos_of_ne_zero some_)
      omega
    rw [if_pos none_, none_]
    change 0 = min (scaledRate 0 elapsed) u64Max
    rw [nothing, Nat.zero_min]
  · rw [if_neg none_, if_neg (Nat.ne_of_gt lasts)]
    dsimp only
    rw [← scaledRate, UInt64.toNat_ofNat', Nat.mod_eq_of_lt small]

section Rate
variable (count elapsed : Nat)

theorem count_toNat :
    (UInt64.ofNat (min count u64Max)).toNat = min count u64Max := by
  rw [UInt64.toNat_ofNat']
  exact Nat.mod_eq_of_lt (Nat.lt_of_le_of_lt (Nat.min_le_right _ _) (by decide))

theorem rate_most (lasts : 0 < elapsed) :
    2 * ((calculateIterationsPerSecond (UInt64.ofNat (min count u64Max)) elapsed).toNat *
      elapsed) ≤ 2 * (count * nanosPerSecond) + elapsed := by
  rw [calculateIterationsPerSecond_toNat _ elapsed lasts, count_toNat]
  have scaled := scaledRate_most (min count u64Max) elapsed
  have capped : min (scaledRate (min count u64Max) elapsed) u64Max * elapsed ≤
      scaledRate (min count u64Max) elapsed * elapsed :=
    Nat.mul_le_mul_right elapsed (Nat.min_le_left _ _)
  have counted : min count u64Max * nanosPerSecond ≤ count * nanosPerSecond :=
    Nat.mul_le_mul_right nanosPerSecond (Nat.min_le_left _ _)
  omega

/-- In a window of three quarters of a second no count of this size is capped. -/
theorem rate_least (lasts : calibrationWindow ≤ elapsed) (few : count < 2 ^ 63) :
    2 * (count * nanosPerSecond) ≤
      2 * ((calculateIterationsPerSecond (UInt64.ofNat (min count u64Max)) elapsed).toNat *
        elapsed) + elapsed := by
  have positive : 0 < elapsed := Nat.lt_of_lt_of_le (by decide) lasts
  have whole : min count u64Max = count := Nat.min_eq_left (by unfold u64Max; omega)
  have uncapped : scaledRate count elapsed ≤ u64Max := by
    by_contra larger
    have product : 2 ^ 64 * elapsed ≤ scaledRate count elapsed * elapsed :=
      Nat.mul_le_mul_right elapsed (by unfold u64Max at larger; omega)
    have scaled := scaledRate_most count elapsed
    unfold nanosPerSecond at scaled
    unfold calibrationWindow at lasts
    omega
  rw [calculateIterationsPerSecond_toNat _ elapsed positive, count_toNat, whole,
    Nat.min_eq_left uncapped]
  exact scaledRate_least count elapsed positive (by omega)

theorem rate_takes (seconds : Nat) (lasts : calibrationWindow ≤ elapsed) :
    Takes (seconds * (calculateIterationsPerSecond (UInt64.ofNat (min count u64Max)) elapsed).toNat)
      seconds count elapsed := by
  have positive : 0 < elapsed := Nat.lt_of_lt_of_le (by decide) lasts
  have scaled : ∀ rate, 2 * (seconds * rate * elapsed) = seconds * (2 * (rate * elapsed)) :=
    fun rate => by ring
  constructor
  · rw [scaled]
    exact Nat.mul_le_mul_left seconds (rate_most count elapsed positive)
  · intro few
    rw [scaled, ← Nat.mul_add]
    exact Nat.mul_le_mul_left seconds (rate_least count elapsed lasts few)

end Rate

def Measures (host : LockHost) (clock : History → Clock) : Prop :=
  ∀ history, ∃ fuel, benchmarkRepeatedSquaringIterationsPerSecond (clock history) calibrationWindow
    fuel = some (host.benchmark history)

/-- Every lock for a target on the machine it measures takes the target at the
pace it measured while it ran. -/
theorem locked_at_pace (host : LockHost) (clock : History → Clock) (measures : Measures host clock)
    (onProgress : Bool) (cancellation : Option CancellationToken) (request : LockRequest)
    (target : String) (machine : request.hardwareProfile = some currentMachineProfileId)
    (implicit : request.iterations = none) (targeted : request.target = some target)
    (unmeasured : request.currentMachineIterationsPerSecond = none) (response : LockResponse)
    (before after : World)
    (success : Lock.executeWithCancel host onProgress cancellation request before =
      (.ok response, after)) :
    ∃ seconds history begun count elapsed, parseDurationSpec target = .ok seconds ∧
      before.history <:+ history ∧ history <:+ after.history ∧
      Measured (clock history) calibrationWindow begun count elapsed ∧
      Takes response.iterations.toNat seconds.toNat count elapsed := by
  obtain ⟨⟨staged, difficulty⟩, ready, prepared, s₁⟩ := (Run.bind_eq_ok _ _ _ _ _).mp success
  obtain ⟨_, placed, moved, s₂⟩ := (Run.bind_eq_ok _ _ _ _ _).mp s₁
  obtain ⟨_, verified, checked, returned⟩ := (Run.bind_eq_ok _ _ _ _ _).mp s₂
  cases returned
  -- The measurement is at this moment of the run.
  obtain ⟨used, measuring, later, since, until_, rated, resolved⟩ :=
    prepare_resolved host onProgress cancellation request staged difficulty before ready prepared
  have renamed := logged_suffix
    (Run.keeps_outcome (persistTimelockedContainer_steady steady_logged host (moves_logged _)
      staged.outputPath) moved)
  have checking := logged_suffix
    (Run.keeps_outcome (verifyOutputIfRequested_steady steady_logged host cancellation _ _) checked)
  obtain rfl : used = some (host.benchmark measuring.history) := by
    rw [resolveCurrentMachine_rate host request implicit machine used measuring later rated,
      machineRate, unmeasured, Option.getD_none]
  rw [implicit, targeted, machine] at resolved
  obtain ⟨seconds, parsed, product⟩ := resolveLockDifficulty_machine target _ _ resolved
  obtain ⟨fuel, benched⟩ := measures measuring.history
  obtain ⟨begun, count, elapsed, measured, rate⟩ := benchmark_measured _ _ _ _ benched
  refine ⟨seconds, measuring.history, begun, count, elapsed, parsed, since,
    (until_.trans renamed).trans checking, measured, ?_⟩
  rw [product, rate]
  exact rate_takes count elapsed seconds.toNat measured.lasts

def slowClock : Clock where
  nanos look := look * 500000000
  steady _ _ before := Nat.mul_le_mul_right _ before
  passes time := ⟨time, Nat.le_mul_of_pos_right time (by decide)⟩

def machineRequest : LockRequest :=
  { targetRequest with target := some "1s" }

def lockOnMachine : Except Error LockResponse × World :=
  Lock.executeWithCancel (keepingHost [120]) false none machineRequest (freshWorld .bare)

theorem locked_at_pace_slow :
    ∃ response seconds history begun count elapsed, lockOnMachine.1 = .ok response ∧
      parseDurationSpec "1s" = .ok seconds ∧ [] <:+ history ∧
      history <:+ lockOnMachine.2.history ∧
      Measured slowClock calibrationWindow begun count elapsed ∧
      Takes response.iterations.toNat seconds.toNat count elapsed := by
  have benched : benchmarkRepeatedSquaringIterationsPerSecond slowClock calibrationWindow 3 =
      some 1 := by decide +kernel
  have succeeds : lockOnMachine.1.toOption.isSome = true := by decide +kernel
  rcases locked : lockOnMachine with ⟨reason | response, after⟩
  · rw [locked] at succeeds
    cases succeeds
  · obtain ⟨seconds, history, begun, count, elapsed, paced⟩ := locked_at_pace (keepingHost [120])
      (fun _ => slowClock) (fun _ => ⟨3, benched⟩) false none machineRequest "1s" rfl rfl rfl rfl
      response (freshWorld .bare) after locked
    exact ⟨response, seconds, history, begun, count, elapsed, rfl, paced⟩

end Benchmark
