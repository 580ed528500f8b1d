import Timelocked.OutputPath

/-!
How many squarings a lock asks for: given outright, or estimated from a target
duration and the rate of a hardware profile. Amounts are `u64`, products are
taken in `u128`.
-/
namespace LockDifficulty
open ByteCodec RunRules Base OutputPath

structure HardwareProfile where
  id : String
  label : String
  iterationsPerSecond : UInt64
  deriving DecidableEq, Repr

def profiles : List HardwareProfile :=
  [⟨"laptop-2024", "Laptop CPU (2024)", 250000⟩,
    ⟨"desktop-2026", "Desktop CPU (2026)", 400000⟩,
    ⟨"high-end-2026", "High-end CPU (2026)", 500000⟩]

def defaultHardwareProfileId : String := "high-end-2026"

def getProfile (profileId : String) : Except Error HardwareProfile :=
  match profiles.find? fun profile => profile.id = profileId with
  | some profile => .ok profile
  | none =>
      let known := ", ".intercalate (profiles.map HardwareProfile.id)
      .error (.invalidArgument
        s!"unknown hardware profile '{profileId}', expected one of: {known}")

def currentMachineProfileId : String := "current-machine"

def isCurrentMachineProfileId (profileId : String) : Bool := profileId = currentMachineProfileId

def ensureCurrentMachineRate (currentMachineIterationsPerSecond : Option UInt64) :
    Except Error UInt64 :=
  match currentMachineIterationsPerSecond with
  | some rate =>
      if rate = 0 then
        .error (.invalidArgument "current-machine calibration must be greater than zero")
      else .ok rate
  | none =>
      .error (.invalidArgument
        "current-machine hardware profile requires a machine calibration")

def resolveIterationsPerSecond (profileId : String)
    (currentMachineIterationsPerSecond : Option UInt64) : Except Error UInt64 := do
  if isCurrentMachineProfileId profileId then
    ensureCurrentMachineRate currentMachineIterationsPerSecond
  else
    let profile ← getProfile profileId
    pure profile.iterationsPerSecond

/-- `str::parse` for a `u64`, which allows one leading plus sign. -/
def parseU64 (text : List Char) : Option UInt64 :=
  let digits := match text with
    | '+' :: rest => rest
    | _ => text
  if digits = [] ∨ (digits.all Char.isDigit) = false then none
  else if parseDigits digits > u64Max then none
  else some (UInt64.ofNat (parseDigits digits))

def secondsPerUnit : Char → Option UInt64
  | 's' => some 1
  | 'm' => some 60
  | 'h' => some 3600
  | 'd' => some 86400
  | 'w' => some 604800
  | _ => none

/-- A duration in seconds. The last byte is split off as the unit, wherever the
last character begins. -/
def parseDurationSpec (spec : String) : Except Error UInt64 :=
  let tooShort := Error.invalidArgument
    s!"invalid duration '{spec}', expected formats like 6h, 3d, 2w"
  if (asBytes spec).length < 2 then .error tooShort
  else
    match spec.toList.reverse with
    | [] => .error tooShort
    | unit :: before =>
        if 128 ≤ unit.toNat then
          .error (.panicked "failed to slice string")
        else
          match parseU64 before.reverse with
          | none =>
              .error (.invalidArgument
                s!"invalid duration '{spec}', numeric value is not valid")
          | some amount =>
              match secondsPerUnit unit with
              | none =>
                  .error (.invalidArgument
                    s!"invalid duration unit '{unit}', expected one of s, m, h, d, w")
              | some seconds =>
                  if amount.toNat * seconds.toNat < 2 ^ 64 then .ok (amount * seconds)
                  else .error (.invalidArgument "duration is too large")

def estimateIterationsForRate (durationSeconds iterationsPerSecond : UInt64) :
    Except Error UInt64 := do
  let total := durationSeconds.toNat * iterationsPerSecond.toNat
  rejectIf (2 ^ 128 ≤ total) (.invalidArgument "iterations overflow")
  rejectIf (total = 0) (.invalidArgument "iterations cannot be zero")
  rejectIf (2 ^ 64 ≤ total) (.invalidArgument "iterations overflow u64")
  pure (UInt64.ofNat total)

structure ResolvedLockDifficulty where
  iterations : UInt64
  hardwareProfileId : String
  targetSeconds : Option UInt64
  deriving DecidableEq, Repr

def resolveLockDifficulty (explicitIterations : Option UInt64) (target profileId : Option String)
    (currentMachineIterationsPerSecond : Option UInt64) : Except Error ResolvedLockDifficulty :=
  let profileId := profileId.getD defaultHardwareProfileId
  match explicitIterations with
  | some iterations => do
      rejectIf (iterations = 0) (.invalidArgument "iterations must be greater than zero")
      if profileId = currentMachineProfileId then pure ⟨iterations, profileId, none⟩
      else
        let _ ← getProfile profileId
        pure ⟨iterations, profileId, none⟩
  | none =>
      match target with
      | none => .error (.invalidArgument "either --target or --iterations must be provided")
      | some target => do
          let duration ← parseDurationSpec target
          let rate ← resolveIterationsPerSecond profileId currentMachineIterationsPerSecond
          let iterations ← estimateIterationsForRate duration rate
          pure ⟨iterations, profileId, some duration⟩

/-- Every profile that is accepted is a known one, and its id is short. -/
theorem getProfile_known (profileId : String) (profile : HardwareProfile)
    (known : getProfile profileId = .ok profile) : profile ∈ profiles ∧ profile.id = profileId := by
  unfold getProfile at known
  split at known
  · rename_i found located
    cases known
    exact ⟨List.mem_of_find?_eq_some located, by simpa using List.find?_some located⟩
  · cases known

/-- The id a lock records is a known one. -/
theorem resolveLockDifficulty_profile (explicitIterations : Option UInt64)
    (target profileId : Option String) (currentMachineIterationsPerSecond : Option UInt64)
    (difficulty : ResolvedLockDifficulty)
    (resolved : resolveLockDifficulty explicitIterations target profileId
      currentMachineIterationsPerSecond = .ok difficulty) :
    difficulty.hardwareProfileId = currentMachineProfileId ∨
      difficulty.hardwareProfileId ∈ profiles.map HardwareProfile.id := by
  -- A profile that is found is one of the list, with the id it was looked up by.
  have member : ∀ id profile, getProfile id = .ok profile → id ∈ profiles.map HardwareProfile.id := by
    intro id profile known
    obtain ⟨listed, rfl⟩ := getProfile_known id profile known
    exact List.mem_map_of_mem listed
  unfold resolveLockDifficulty at resolved
  dsimp only at resolved
  generalize profileId.getD defaultHardwareProfileId = chosen at resolved
  split at resolved
  · -- Explicit iterations: the id is only recorded.
    obtain ⟨_, _, picked⟩ := (bind_eq_ok _ _ _).mp resolved
    split at picked
    · rename_i current
      cases picked
      exact .inl current
    · obtain ⟨profile, known, returned⟩ := (bind_eq_ok _ _ _).mp picked
      cases returned
      exact .inr (member chosen profile known)
  · split at resolved
    · cases resolved
    · -- A target: the rate is the machine's own or the profile's.
      obtain ⟨duration, _, r₁⟩ := (bind_eq_ok _ _ _).mp resolved
      obtain ⟨rate, rated, r₂⟩ := (bind_eq_ok _ _ _).mp r₁
      obtain ⟨_, _, returned⟩ := (bind_eq_ok _ _ _).mp r₂
      cases returned
      unfold resolveIterationsPerSecond at rated
      split at rated
      · rename_i current
        exact .inl (by simpa [isCurrentMachineProfileId] using current)
      · obtain ⟨profile, known, _⟩ := (bind_eq_ok _ _ _).mp rated
        exact .inr (member chosen profile known)

end LockDifficulty
