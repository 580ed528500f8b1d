import Timelocked.Lock
import Timelocked.StructuralAgreement

/-!
What a lock run does to the disk. Up to the rename it only makes directories,
so a run that fails there publishes nothing. The verification after the rename
can fail too, and then the artifact stays.
-/
namespace LockEffects
open ByteCodec RunRules Base PathText FileTree ArtifactReader ArtifactWriter Recovery LockDifficulty
  Lock

section Steady
variable {related : World → World → Prop} (steady : Steady related) (makes : Makes related)
  (hears : Hears related) (host : LockHost) (onProgress : Bool)
  (cancellation : Option CancellationToken)
include steady

theorem copyInputToStaging_steady (input : InputSource) :
    Run.Keeps related (copyInputToStaging host input) := by
  have called := call_steady steady host.toHost
  have written := writeAll_steady steady host.toHost .tempFile
  cases input with
  | stdin =>
      refine steady.bind called fun _ => steady.bind (written _) fun _ => ?_
      exact steady.bind called fun _ => steady.pure _
  | file inputPath =>
      refine steady.bind (readFile_steady steady host.toHost inputPath) fun copied => ?_
      refine steady.bind (written copied) fun _ => ?_
      exact steady.bind called fun _ => steady.pure _
  | text text =>
      refine steady.bind (written _) fun _ => ?_
      exact steady.bind called fun _ => steady.pure _

theorem resolveCurrentMachineIterationsPerSecond_steady (request : LockRequest) :
    Run.Keeps related (resolveCurrentMachineIterationsPerSecond host request) := by
  unfold resolveCurrentMachineIterationsPerSecond
  split
  · exact steady.pure _
  · split
    · exact steady.pure _
    · split
      · exact steady.pure _
      · split
        · exact steady.pure _
        · refine steady.bind (steady.read _) fun rate => ?_
          exact steady.lift_bind fun _ => steady.pure _

theorem createPuzzleAndDeriveMask_steady (iterations : UInt64) (modulusBits : Nat) :
    Run.Keeps related (PuzzleService.createPuzzleAndDeriveMask host.crates host.draws iterations
      modulusBits) := by
  refine steady.lift_bind fun _ => steady.lift_bind fun _ => ?_
  refine steady.bind (draw_steady steady _) fun _ => steady.lift_bind fun p => ?_
  refine steady.bind (draw_steady steady _) fun _ => steady.lift_bind fun q => ?_
  exact steady.bind (draw_steady steady _) fun a => steady.pure _

theorem keyProtectionMaterial_steady (fileKey timelockMask : Block 32) (password : Option String) :
    Run.Keeps related (keyProtectionMaterial host fileKey timelockMask password) := by
  cases password with
  | none => exact steady.pure _
  | some passphrase =>
      refine steady.bind (draw_steady steady _) fun salt => steady.lift_bind fun params => ?_
      exact steady.lift_bind fun ⟨wrappedKey, metadata⟩ => steady.pure _

theorem persistTimelockedContainer_steady (moves : Moves related) (outputPath : Path) :
    Run.Keeps related (persistTimelockedContainer host outputPath) :=
  steady.bind (steady.read World.sink)
    fun artifact => persist_steady steady moves host.toHost outputPath artifact

theorem verifyOutputIfRequested_steady (verify : Bool) (outputPath : Path) :
    Run.Keeps related (verifyOutputIfRequested host cancellation verify outputPath) := by
  unfold verifyOutputIfRequested
  split
  · exact steady.pure ()
  · refine steady.bind ?_ fun parsed => ?_
    · exact steady.bind (readFile_steady steady host.toHost outputPath) fun _ => steady.lift _
    · exact steady.bind
        (verifyTimelockedFileStructuralAndCancel_steady steady _ _ parsed cancellation)
        fun _ => steady.pure ()

section Makes
include makes

theorem ensureParentDirExists_steady (path : Path) :
    Run.Keeps related (ensureParentDirExists host path) := by
  unfold ensureParentDirExists
  split
  · exact createDirAll_steady steady makes host.toHost _
  · exact steady.pure ()

theorem resolveAndStageInput_steady (input : String) (explicitOutput : Option Path) :
    Run.Keeps related (resolveAndStageInput host cancellation input explicitOutput) := by
  have polled := ensureNotCancelled_steady steady cancellation
  refine steady.bind (steady.read _) fun tree => ?_
  refine steady.lift_bind fun outputPath => steady.lift_bind fun _ => ?_
  refine steady.bind (ensureParentDirExists_steady steady makes host outputPath) fun _ => ?_
  refine steady.bind polled fun _ => steady.bind (newTempIn_steady steady host.toHost _) fun _ => ?_
  refine steady.bind (copyInputToStaging_steady steady host _)
    fun ⟨plaintextBytes, originalFilename⟩ => ?_
  refine steady.bind (steady.read _) fun plaintextStaging => ?_
  exact steady.bind polled fun _ => steady.pure _

end Makes

include hears

theorem writePayloadArtifacts_steady (staged : StagedLockInput) (request : LockRequest)
    (difficulty : ResolvedLockDifficulty) :
    Run.Keeps related
      (writePayloadArtifacts host onProgress cancellation staged request difficulty) := by
  refine steady.bind (ensureNotCancelled_steady steady cancellation) fun _ => ?_
  refine steady.bind (draw_steady steady _) fun fileKey => ?_
  refine steady.lift_bind fun _ => ?_
  refine steady.bind (emitProgress_steady steady hears _ _ _ _) fun _ => ?_
  refine steady.bind (createPuzzleAndDeriveMask_steady steady host _ _) fun puzzle => ?_
  refine steady.bind (keyProtectionMaterial_steady steady host _ _ _)
    fun ⟨wrappedKey, passwordProtection⟩ => ?_
  refine steady.bind (emitProgress_steady steady hears _ _ _ _) fun _ => ?_
  refine steady.lift_bind fun streamLen => ?_
  refine steady.bind (newTempIn_steady steady host.toHost _) fun _ => ?_
  refine steady.bind (call_steady steady host.toHost) fun _ => ?_
  refine steady.bind (steady.read _) fun reader => ?_
  refine steady.bind (steady.read _) fun created => ?_
  refine steady.bind ?_ fun _ => call_steady steady host.toHost
  apply writeTimelockedArtifact_steady steady hears

include makes

theorem prepare_steady (request : LockRequest) :
    Run.Keeps related (prepare host onProgress cancellation request) := by
  refine steady.bind (ensureNotCancelled_steady steady cancellation) fun _ => ?_
  refine steady.bind (resolveAndStageInput_steady steady makes host cancellation _ _)
    fun staged => ?_
  refine steady.bind (resolveCurrentMachineIterationsPerSecond_steady steady host request)
    fun rate => ?_
  refine steady.lift_bind fun difficulty => ?_
  exact steady.bind (writePayloadArtifacts_steady steady hears host onProgress cancellation _ _ _)
    fun _ => steady.pure _

end Steady

section Lock
variable (host : LockHost) (onProgress : Bool) (cancellation : Option CancellationToken)

theorem prepare_grown (request : LockRequest) :
    Run.Keeps Grown (prepare host onProgress cancellation request) :=
  prepare_steady steady_grown makes_grown hears_grown host onProgress cancellation request

/-- The difficulty of a lock comes from its request and from a rate that was
resolved while it was prepared. -/
theorem prepare_resolved (request : LockRequest) (staged : StagedLockInput)
    (difficulty : ResolvedLockDifficulty) (before ready : World)
    (prepared : prepare host onProgress cancellation request before =
      (.ok (staged, difficulty), ready)) :
    ∃ used resolving later, before.history <:+ resolving.history ∧
      resolving.history <:+ ready.history ∧
      resolveCurrentMachineIterationsPerSecond host request resolving = (.ok used, later) ∧
      resolveLockDifficulty request.iterations request.target request.hardwareProfile used =
        .ok difficulty := by
  obtain ⟨_, w₁, polled, p₁⟩ := (Run.bind_eq_ok _ _ _ _ _).mp prepared
  obtain ⟨staged', w₂, staging, p₂⟩ := (Run.bind_eq_ok _ _ _ _ _).mp p₁
  obtain ⟨used, w₃, rated, p₃⟩ := (Run.bind_eq_ok _ _ _ _ _).mp p₂
  obtain ⟨_, resolved, p₄⟩ := (Run.lift_bind_eq_ok _ _ _ _ _).mp p₃
  obtain ⟨_, w₄, writing, returned⟩ := (Run.bind_eq_ok _ _ _ _ _).mp p₄
  cases returned
  have earlier := steady_logged.trans _ _ _
    (Run.keeps_outcome (ensureNotCancelled_steady steady_logged cancellation) polled)
    (Run.keeps_outcome (resolveAndStageInput_steady steady_logged makes_logged host cancellation
      _ _) staging)
  have later := steady_logged.trans _ _ _
    (Run.keeps_outcome (resolveCurrentMachineIterationsPerSecond_steady steady_logged host request)
      rated)
    (Run.keeps_outcome (writePayloadArtifacts_steady steady_logged hears_logged host onProgress
      cancellation _ _ _) writing)
  exact ⟨used, w₂, w₃, logged_suffix earlier, logged_suffix later, rated, resolved⟩

end Lock

def textRequest (verify : Bool) : LockRequest where
  input := "x"
  output := some [['o']]
  modulusBits := 2048
  target := none
  iterations := some 3
  hardwareProfile := none
  currentMachineIterationsPerSecond := none
  password := none
  verify := verify

end LockEffects
