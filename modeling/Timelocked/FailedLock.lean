import Timelocked.LockedArtifact
import Timelocked.StructuralAgreement

/-!
What a lock that fails leaves behind. Up to the rename it has written a temporary
file only. The verification that may follow reads the renamed file twice and
polls the token in between. It finds nothing wrong with the artifact, so these
three events alone decide whether it fails.
-/
namespace FailedLock
open ByteCodec RunRules Base PathText FileTree ChunkFrame Superblock ArtifactReader ProtectedStream
  Recovery StructuralAgreement LockDifficulty Lock LockEffects LockedArtifact

def polled (cancellation : Option CancellationToken) (history : History) : History :=
  match cancellation with
  | none => history
  | some _ => .poll :: history

def asked (cancellation : Option CancellationToken) (world : World) : World :=
  { world with history := polled cancellation world.history }

section Lock
variable (host : LockHost) (onProgress : Bool) (cancellation : Option CancellationToken)

/-- What comes right after this history does not stop a verification: the disk
answers its two reads, and the poll between them finds the token unset. -/
structure Undisturbed (history : History) : Prop where
  read : host.fault history = none
  unset : ∀ isCancelled ∈ cancellation, isCancelled (.call :: history) = false
  reread : host.fault (polled cancellation (.call :: history)) = none

section Verify
variable (path : Path) (artifact : Bytes) (before : World)
  (there : before.tree.readFile host.cwd path = .ok artifact)
include there

end Verify

/-- The world right after the artifact was renamed, before it is verified. -/
def Placed (request : LockRequest) (before placed : World) : Prop :=
  ∃ staged difficulty ready,
    prepare host onProgress cancellation request before = (.ok (staged, difficulty), ready) ∧
      persistTimelockedContainer host staged.outputPath ready = (.ok (), placed)

/-- No verification is requested, or what comes right after the rename does not
stop it. -/
def Settled (request : LockRequest) (before : World) : Prop :=
  request.verify = true → ∀ placed, Placed host onProgress cancellation request before placed →
    Undisturbed host cancellation placed.history

end Lock

/-! A cancellation that comes after the rename. -/

end FailedLock
