import Timelocked.TraceRules
import Timelocked.LockEffects
import Timelocked.PasswordAttempts

/-!
What a lock and an unlock report while they run. The solver reports every ten
thousandth squaring and its last one, a stream reports how far it is after each
chunk. A lock that succeeds ends with all of its payload, and so does an unlock,
however many passphrases it took: the puzzle is reported once, before the first.
-/
namespace Progress
open ByteCodec RunRules TraceRules Base ChunkFrame ProtectedStream ArtifactReader Recovery Unlock
  UnlockEffects PasswordAttempts

structure Report where
  phase : String
  current : Nat
  total : Nat
  deriving DecidableEq, Repr

def reported : Event → Option Report
  | .progress phase current total => some ⟨phase, current, total⟩
  | _ => none

def reports (world : World) : List Report := (world.history.filterMap reported).reverse

theorem reports_event (event : Event) (world : World) :
    reports { world with history := event :: world.history } =
      reports world ++ (reported event).toList := by
  cases found : reported event <;> simp [reports, found]

theorem passes_silent (event : Event) (quiet : reported event = none) :
    Passes (Silent reports) event := by
  intro world
  unfold Silent
  rw [reports_event, quiet, Option.toList_none, List.append_nil]

theorem steady_silent : Steady (Silent reports) where
  refl _ := rfl
  trans _ _ _ first second := second.trans first
  poll := passes_silent .poll rfl
  call := passes_silent .call rfl
  random := passes_silent .random rfl
  sealed _ _ _ _ := passes_silent _ rfl
  sink _ _ := rfl

theorem moves_silent : Moves (Silent reports) := fun _ _ => rfl

/-- A report never fails. -/
theorem emitProgress_adds (phase : String) (current total : Nat) (s : World)
    (cut : Error → List Report → Prop) :
    Adds reports (emitProgress true phase current total) s
      (fun _ new => new = [⟨phase, current, total⟩]) cut :=
  adds_ok rfl (reports_event _ s) rfl

/-- Cancellation is the only way a poll fails. -/
theorem ensureNotCancelled_cancelled (cancellation : Option CancellationToken) :
    Run.FailsOnly (· = .cancelled) (ensureNotCancelled cancellation) := by
  intro s reason s' failed
  cases cancellation with
  | none => cases failed
  | some isCancelled =>
      unfold ensureNotCancelled at failed
      dsimp only at failed
      split at failed <;> cases failed
      rfl

theorem capture_adds {α : Type} {run : Op α} {s : World} {whole : α → List Report → Prop}
    {cut : Error → List Report → Prop}
    (adds : Adds reports run { s with sink := [] } whole cut) :
    Adds reports (capture run) s (fun result new => whole result.1 new) cut := by
  obtain ⟨new, added, holds⟩ := adds
  refine ⟨new, ?_, ?_⟩ <;> unfold capture <;>
    rcases outcome : run { s with sink := [] } with ⟨reason | value, inner⟩ <;>
      rw [outcome] at added holds
  · exact added
  · exact added
  · exact holds
  · exact holds

def ticks (iterations completed remaining : Nat) : List Report :=
  ((List.range' (completed + 1) remaining).filter
    fun done => decide (done = iterations ∨ done % 10000 = 0)).map
      fun done => ⟨"unlock-timelock", done, iterations⟩

def solved (iterations : Nat) : List Report := ticks iterations 0 iterations

theorem ticks_succ (iterations completed remaining : Nat) :
    ticks iterations completed (remaining + 1) =
      (if completed + 1 = iterations ∨ (completed + 1) % 10000 = 0 then
        [⟨"unlock-timelock", completed + 1, iterations⟩] else []) ++
        ticks iterations (completed + 1) remaining := by
  unfold ticks
  rw [List.range'_succ, List.filter_cons]
  by_cases due : completed + 1 = iterations ∨ (completed + 1) % 10000 = 0
  · rw [if_pos due, if_pos (decide_eq_true due)]
    rfl
  · rw [if_neg due, if_neg (by simpa using due)]
    rfl

section Solve
variable (cancellation : Option CancellationToken)
  (material : PuzzleService.TimelockPuzzleMaterial)

/-- A squaring is reported after a poll, if its report is due. -/
theorem tick_adds (completed : Nat) (due : Prop) [Decidable due] (later : List Report) (s : World) :
    Adds reports
      (Run.onlyIf due do
        ensureNotCancelled cancellation
        emitProgress true "unlock-timelock" completed material.iterations.toNat) s
      (fun _ new => new =
        if due then [⟨"unlock-timelock", completed, material.iterations.toNat⟩] else [])
      (fun reason new => reason = .cancelled ∧ new <+: later) := by
  unfold Run.onlyIf
  split
  · refine adds_silent_bind (ensureNotCancelled_steady steady_silent cancellation) ?_
      fun _ s₁ _ => emitProgress_adds _ _ _ s₁ _
    exact fun reason s' failed =>
      ⟨ensureNotCancelled_cancelled cancellation _ _ _ failed, List.nil_prefix⟩
  · exact adds_pure rfl

theorem solveLoop_adds (remaining completed value : Nat) (s : World) :
    Adds reports (PuzzleService.solveLoop true cancellation material remaining completed value) s
      (fun _ new => new = ticks material.iterations.toNat completed remaining)
      (fun reason new => reason = .cancelled ∧
        new <+: ticks material.iterations.toNat completed remaining) := by
  have polled := ensureNotCancelled_steady steady_silent cancellation
  have stopped := ensureNotCancelled_cancelled cancellation
  induction remaining generalizing completed value s with
  | zero => exact adds_pure rfl
  | succ remaining ih =>
      rw [PuzzleService.solveLoop, ticks_succ]
      refine adds_silent_bind (Run.keeps_onlyIf steady_silent.refl _ polled) ?_ ?_
      · intro reason s' failed
        refine ⟨?_, List.nil_prefix⟩
        unfold Run.onlyIf at failed
        split at failed
        · exact stopped _ _ _ failed
        · cases failed
      · intro _ s₁ _
        apply adds_bind (tick_adds cancellation material (completed + 1) _ _ s₁)
        rintro _ s₂ front _ rfl
        apply adds_weaken (ih (completed + 1) _ s₂)
        · rintro _ _ rfl
          rfl
        · rintro reason _ ⟨rfl, later⟩
          exact ⟨rfl, (List.prefix_append_right_inj _).mpr later⟩

theorem solvePuzzleMaskWithCancel_adds (crates : Crates) (s : World) :
    Adds reports (PuzzleService.solvePuzzleMaskWithCancel crates true cancellation material) s
      (fun _ new => new = solved material.iterations.toNat)
      (fun reason new => reason = .cancelled ∧ new <+: solved material.iterations.toNat) := by
  refine adds_silent_bind (ensureNotCancelled_steady steady_silent cancellation) ?_
    fun _ s₁ _ => ?_
  · exact fun reason s' failed =>
      ⟨ensureNotCancelled_cancelled cancellation _ _ _ failed, List.nil_prefix⟩
  · apply adds_bind_silent (solveLoop_adds cancellation material _ _ _ s₁)
    · exact fun value => steady_silent.bind (passes_silent .solved rfl)
        fun _ => steady_silent.pure _
    · rintro value s' front result s'' _ rfl _
      rfl
    · intro value s' front reason s'' _ _ failed
      cases failed

end Solve

def strides (phase : String) (total : Nat) : Nat → List Nat → List Report
  | _, [] => []
  | done, size :: rest => ⟨phase, done + size, total⟩ :: strides phase total (done + size) rest

/-- Sizes of chunks: bounded, and only the last chunk may be empty. -/
def Chunked (chunkSize : Nat) (sizes : List Nat) : Prop :=
  (∀ size ∈ sizes, size ≤ chunkSize) ∧ ∀ size ∈ sizes.dropLast, 0 < size

theorem chunked_nil (chunkSize : Nat) : Chunked chunkSize [] := ⟨by simp, by simp⟩

theorem chunked_last (chunkSize size : Nat) (small : size ≤ chunkSize) :
    Chunked chunkSize [size] := ⟨by simpa using small, by simp⟩

theorem chunked_cons (chunkSize size : Nat) (rest : List Nat) (small : size ≤ chunkSize)
    (positive : 0 < size) (later : Chunked chunkSize rest) : Chunked chunkSize (size :: rest) := by
  constructor
  · intro other member
    rcases List.mem_cons.mp member with rfl | member
    · exact small
    · exact later.1 other member
  · intro other member
    cases rest with
    | nil => cases member
    | cons next others =>
        rw [List.dropLast_cons_of_ne_nil (by simp)] at member
        rcases List.mem_cons.mp member with rfl | member
        · exact positive
        · exact later.2 other member

/-- The last report says that the sum of all sizes is done. -/
theorem strides_last (phase : String) (total done : Nat) (sizes : List Nat) (some_ : sizes ≠ []) :
    (strides phase total done sizes).getLast? = some ⟨phase, done + sizes.sum, total⟩ := by
  induction sizes generalizing done with
  | nil => exact absurd rfl some_
  | cons size rest ih =>
      cases rest with
      | nil => simp [strides]
      | cons next others =>
          have later := ih (done + size) (by simp)
          rw [strides] at later
          rw [strides, strides, List.getLast?_cons_cons, later]
          simp only [List.sum_cons, Nat.add_assoc]

def Strode (phase : String) (total done chunkSize : Nat) (new : List Report) : Prop :=
  ∃ sizes, Chunked chunkSize sizes ∧ new = strides phase total done sizes

def Finished (phase : String) (total done chunkSize whole : Nat) (new : List Report) : Prop :=
  ∃ sizes, Chunked chunkSize sizes ∧ sizes ≠ [] ∧ done + sizes.sum = whole ∧
    new = strides phase total done sizes

theorem strode_nil (phase : String) (total done chunkSize : Nat) :
    Strode phase total done chunkSize [] := ⟨[], chunked_nil chunkSize, rfl⟩

section Stride
variable {phase : String} {total done chunkSize whole size : Nat}

theorem Finished.strode {new : List Report} (finished : Finished phase total done chunkSize whole new) :
    Strode phase total done chunkSize new := by
  obtain ⟨sizes, chunked, _, _, shown⟩ := finished
  exact ⟨sizes, chunked, shown⟩

theorem finished_last (small : size ≤ chunkSize) :
    Finished phase total done chunkSize (done + size) [⟨phase, done + size, total⟩] :=
  ⟨[size], chunked_last chunkSize size small, by simp, by simp, rfl⟩

theorem strode_cons (small : size ≤ chunkSize) (positive : 0 < size) {new : List Report}
    (later : Strode phase total (done + size) chunkSize new) :
    Strode phase total done chunkSize (⟨phase, done + size, total⟩ :: new) := by
  obtain ⟨sizes, chunked, rfl⟩ := later
  exact ⟨size :: sizes, chunked_cons chunkSize size sizes small positive chunked, rfl⟩

theorem finished_cons (small : size ≤ chunkSize) (positive : 0 < size) {new : List Report}
    (later : Finished phase total (done + size) chunkSize whole new) :
    Finished phase total done chunkSize whole (⟨phase, done + size, total⟩ :: new) := by
  obtain ⟨sizes, chunked, _, sum, rfl⟩ := later
  refine ⟨size :: sizes, chunked_cons chunkSize size sizes small positive chunked, by simp, ?_, rfl⟩
  rw [List.sum_cons]
  omega

end Stride

section Encrypt
variable (host : Host) (writer : Writer) (keyBytes superblockDigest : Block 32)
  (totalPlaintext : Nat) (cancellation : Option CancellationToken)

theorem encryptLoop_adds {size : Nat} (reader : PlaintextReader size) (current : Piece size)
    (index written : Nat) (s : World) :
    Adds reports (encryptLoop host writer keyBytes superblockDigest totalPlaintext true cancellation
        reader current index written) s
      (fun stats new =>
        Finished "lock-encrypt" totalPlaintext written size stats.plaintextBytes new)
      (fun _ new => Strode "lock-encrypt" totalPlaintext written size new) := by
  have polled := ensureNotCancelled_steady steady_silent cancellation
  have sealing := sealChunk_steady steady_silent host writer keyBytes superblockDigest
  induction reader generalizing current index written s with
  | nil =>
      refine adds_silent_bind polled (fun _ _ _ => strode_nil _ _ _ _) fun _ s₁ _ => ?_
      refine adds_silent_bind (sealing _ _ _) (fun _ _ _ => strode_nil _ _ _ _) fun _ s₂ _ => ?_
      refine adds_bind (emitProgress_adds _ _ _ s₂ _) ?_
      rintro _ s₃ _ _ rfl
      exact adds_pure (finished_last current.2.2)
  | cons read rest ih =>
      cases read with
      | error kind =>
          refine adds_silent_bind polled (fun _ _ _ => strode_nil _ _ _ _) fun _ s₁ _ => ?_
          exact adds_fail (strode_nil _ _ _ _)
      | ok next =>
          refine adds_silent_bind polled (fun _ _ _ => strode_nil _ _ _ _) fun _ s₁ _ => ?_
          refine adds_silent_bind (sealing _ _ _) (fun _ _ _ => strode_nil _ _ _ _) fun _ s₂ _ => ?_
          refine adds_bind (emitProgress_adds _ _ _ s₂ _) ?_
          rintro _ s₃ _ _ rfl
          have positive := List.length_pos_iff.mpr current.2.1
          apply adds_weaken (ih next (index + 1) (written + current.1.length) s₃)
          · exact fun _ _ later => finished_cons current.2.2 positive later
          · exact fun _ _ later => strode_cons current.2.2 positive later

theorem encryptProtectedStreamWithCancel_adds {chunkSize : Nat} (reader : PlaintextReader chunkSize)
    (s : World) :
    Adds reports (encryptProtectedStreamWithCancel host writer keyBytes superblockDigest
        totalPlaintext true cancellation reader) s
      (fun stats new => Finished "lock-encrypt" totalPlaintext 0 chunkSize stats.plaintextBytes new)
      (fun _ new => Strode "lock-encrypt" totalPlaintext 0 chunkSize new) := by
  refine adds_lift_bind (fun _ _ => strode_nil _ _ _ _) fun _ _ => ?_
  refine adds_silent_bind (ensureNotCancelled_steady steady_silent cancellation)
    (fun _ _ _ => strode_nil _ _ _ _) fun _ s₁ _ => ?_
  split
  · refine adds_silent_bind (sealChunk_steady steady_silent host writer keyBytes superblockDigest
      _ _ _) (fun _ _ _ => strode_nil _ _ _ _) fun _ s₂ _ => ?_
    refine adds_bind (emitProgress_adds _ _ _ s₂ _) ?_
    rintro _ s₃ _ _ rfl
    exact adds_pure (finished_last (Nat.zero_le chunkSize))
  · exact adds_fail (strode_nil _ _ _ _)
  · exact encryptLoop_adds host writer keyBytes superblockDigest totalPlaintext cancellation _ _ _ _ s₁

end Encrypt

section Decrypt
variable (host : Host) (writer : Writer) (keyBytes superblockDigest : Block 32)
  (chunkSize : UInt32) (expectedPlaintext : Nat) (cancellation : Option CancellationToken)

/-- A loop that stops with the terminal chunk seen has reported it. -/
theorem decryptLoop_adds (budget index written : Nat) (input : Bytes) (s : World) :
    Adds reports (decryptLoop host writer keyBytes superblockDigest chunkSize expectedPlaintext true
        cancellation budget index written input) s
      (fun stop new => Strode "unlock-decrypt" expectedPlaintext written chunkSize.toNat new ∧
        (stop.sawLast = true →
          Finished "unlock-decrypt" expectedPlaintext written chunkSize.toNat
            stop.plaintextBytes new))
      (fun _ new => Strode "unlock-decrypt" expectedPlaintext written chunkSize.toNat new) := by
  induction budget generalizing index written input s with
  | zero => exact adds_fail (strode_nil _ _ _ _)
  | succ budget ih =>
      refine adds_silent_bind (ensureNotCancelled_steady steady_silent cancellation)
        (fun _ _ _ => strode_nil _ _ _ _) fun _ s₁ _ => ?_
      refine adds_lift_bind (fun _ _ => strode_nil _ _ _ _) fun read taken => ?_
      cases read with
      | none =>
          dsimp only
          split
          · exact adds_fail (strode_nil _ _ _ _)
          · exact adds_pure ⟨strode_nil _ _ _ _, fun saw => by cases saw⟩
      | some item =>
          obtain ⟨header, ciphertext, rest⟩ := item
          refine adds_lift_bind (fun _ _ => strode_nil _ _ _ _) fun _ valid => ?_
          obtain ⟨frame, acceptable, rfl, rfl, rfl⟩ :=
            (acceptable_iff chunkSize index _ _ _ _).mp ⟨taken, valid⟩
          refine adds_lift_bind (fun _ _ => strode_nil _ _ _ _) fun message opened => ?_
          have length := ((openChunk_ok _ _ _ _ _ _).mp opened).2
          refine adds_silent_bind (writeAll_steady steady_silent host writer message)
            (fun _ _ _ => strode_nil _ _ _ _) fun _ s₂ _ => ?_
          refine adds_bind (emitProgress_adds _ _ _ s₂ _) ?_
          rintro _ s₃ _ _ rfl
          have small : message.length ≤ chunkSize.toNat := by
            rw [length]
            exact acceptable.bounded
          by_cases flagged : (frame.header (UInt64.ofNat index)).isLast = true
          · rw [if_pos flagged]
            exact adds_pure ⟨(finished_last small).strode, fun _ => finished_last small⟩
          · rw [if_neg flagged]
            have positive : 0 < message.length := by
              rw [length]
              have open_ : frame.terminal = 0 := by simpa [StoredFrame.header] using flagged
              have spoken := acceptable.spoken open_
              exact Nat.pos_of_ne_zero fun zero => spoken (UInt32.toNat_inj.mp zero)
            apply adds_weaken (ih (index + 1) (written + message.length) rest s₃)
            · rintro stop _ ⟨later, ends⟩
              exact ⟨strode_cons small positive later,
                fun saw => finished_cons small positive (ends saw)⟩
            · exact fun _ _ later => strode_cons small positive later

theorem decryptProtectedStreamToWriterWithCancel_adds (reader : Bytes) (s : World) :
    Adds reports (decryptProtectedStreamToWriterWithCancel host writer keyBytes superblockDigest
        chunkSize expectedPlaintext true cancellation reader) s
      (fun stats new => stats.plaintextBytes = expectedPlaintext ∧
        Finished "unlock-decrypt" expectedPlaintext 0 chunkSize.toNat expectedPlaintext new)
      (fun _ new => Strode "unlock-decrypt" expectedPlaintext 0 chunkSize.toNat new) := by
  refine adds_silent_bind (ensureNotCancelled_steady steady_silent cancellation)
    (fun _ _ _ => strode_nil _ _ _ _) fun _ s₁ _ => ?_
  apply adds_bind_silent (decryptLoop_adds host writer keyBytes superblockDigest chunkSize
    expectedPlaintext cancellation _ _ _ _ s₁)
  · exact fun stop => steady_silent.lift_bind fun _ => steady_silent.lift_bind
      fun _ => steady_silent.pure _
  · rintro stop s₂ front stats s₃ _ ⟨_, ends⟩ checked
    obtain ⟨_, finished, c₁⟩ := (Run.lift_bind_eq_ok _ _ _ _ _).mp checked
    obtain ⟨_, whole, returned⟩ := (Run.lift_bind_eq_ok _ _ _ _ _).mp c₁
    cases returned
    obtain ⟨_, saw, _⟩ := (bind_eq_ok _ _ _).mp finished
    rw [rejectIf_eq_ok, Bool.not_eq_false] at saw
    rw [rejectIf_eq_ok, not_not] at whole
    exact ⟨whole, whole ▸ ends saw⟩
  · exact fun stop s₂ front reason s₃ _ shown _ => shown.1

end Decrypt

section Lock
open Lock LockDifficulty LockEffects ArtifactWriter
variable (host : LockHost) (cancellation : Option CancellationToken)

def lockReports (total : Nat) (sizes : List Nat) : List Report :=
  ⟨"lock-primes", 0, 1⟩ :: ⟨"lock-puzzle", 1, 1⟩ :: strides "lock-encrypt" total 0 sizes

def LockStopped (new : List Report) : Prop :=
  ∃ total sizes, Chunked defaultLockChunkSizeBytes.toNat sizes ∧ new <+: lockReports total sizes

def LockFinished (total : Nat) (new : List Report) : Prop :=
  ∃ sizes, Chunked defaultLockChunkSizeBytes.toNat sizes ∧ sizes.sum = total ∧
    new = lockReports total sizes ∧ new.getLast? = some ⟨"lock-encrypt", total, total⟩

theorem lockStopped_nil : LockStopped [] := ⟨0, [], chunked_nil _, List.nil_prefix⟩

theorem lockStopped_strode (total : Nat) {new : List Report}
    (strode : Strode "lock-encrypt" total 0 defaultLockChunkSizeBytes.toNat new) :
    LockStopped (⟨"lock-primes", 0, 1⟩ :: ⟨"lock-puzzle", 1, 1⟩ :: new) := by
  obtain ⟨sizes, chunked, rfl⟩ := strode
  exact ⟨total, sizes, chunked, List.prefix_refl _⟩

theorem lockFinished_finished (total : Nat) {new : List Report}
    (finished : Finished "lock-encrypt" total 0 defaultLockChunkSizeBytes.toNat total new) :
    LockFinished total (⟨"lock-primes", 0, 1⟩ :: ⟨"lock-puzzle", 1, 1⟩ :: new) := by
  obtain ⟨sizes, chunked, some_, sum, rfl⟩ := finished
  rw [Nat.zero_add] at sum
  have last := strides_last "lock-encrypt" total 0 sizes some_
  rw [Nat.zero_add, sum] at last
  refine ⟨sizes, chunked, sum, rfl, ?_⟩
  obtain ⟨size, rest, rfl⟩ := List.exists_cons_of_ne_nil some_
  exact last

theorem writeTimelockedArtifact_adds (writer : Writer) (request : LockArtifactRequest)
    (plaintextReader : PlaintextReader request.aeadChunkSizeBytes.toNat) (s : World) :
    Adds reports (writeTimelockedArtifact host.toHost writer request plaintextReader true
        cancellation) s
      (fun _ new => Finished "lock-encrypt" request.payloadPlaintextBytes.toNat 0
        request.aeadChunkSizeBytes.toNat request.payloadPlaintextBytes.toNat new)
      (fun _ new => Strode "lock-encrypt" request.payloadPlaintextBytes.toNat 0
        request.aeadChunkSizeBytes.toNat new) := by
  have written := writeAll_steady steady_silent host.toHost writer
  refine adds_lift_bind (fun _ _ => strode_nil _ _ _ _) fun superblock _ => ?_
  refine adds_lift_bind (fun _ _ => strode_nil _ _ _ _) fun digest _ => ?_
  apply adds_bind_silent (capture_adds (encryptProtectedStreamWithCancel_adds host.toHost .memory
    request.keyBytes digest request.payloadPlaintextBytes.toNat cancellation plaintextReader _))
  · rintro ⟨stats, stream⟩
    refine steady_silent.lift_bind fun _ => steady_silent.lift_bind fun _ => ?_
    refine steady_silent.lift_bind fun region => steady_silent.lift_bind fun _ => ?_
    refine steady_silent.lift_bind fun notice => steady_silent.bind (written notice) fun _ => ?_
    refine steady_silent.lift_bind fun startCopy => steady_silent.bind (written startCopy) fun _ => ?_
    refine steady_silent.bind (written region) fun _ => ?_
    exact steady_silent.lift_bind fun endCopy => written endCopy
  · rintro ⟨stats, stream⟩ s₁ front _ s₂ _ finished checked
    obtain ⟨_, sized, _⟩ := (Run.lift_bind_eq_ok _ _ _ _ _).mp checked
    rw [rejectIf_eq_ok, not_not] at sized
    exact sized ▸ finished
  · exact fun _ _ _ _ _ _ finished _ => finished.strode

theorem writePayloadArtifacts_adds (staged : StagedLockInput) (request : LockRequest)
    (difficulty : ResolvedLockDifficulty) (s : World) :
    Adds reports (writePayloadArtifacts host true cancellation staged request difficulty) s
      (fun _ new => LockFinished staged.plaintextBytes.toNat new)
      (fun _ new => LockStopped new) := by
  refine adds_silent_bind (ensureNotCancelled_steady steady_silent cancellation)
    (fun _ _ _ => lockStopped_nil) fun _ s₁ _ => ?_
  refine adds_silent_bind (draw_steady steady_silent _) (fun _ _ _ => lockStopped_nil)
    fun fileKey s₂ _ => ?_
  refine adds_lift_bind (fun _ _ => lockStopped_nil) fun _ _ => ?_
  refine adds_bind (emitProgress_adds _ _ _ s₂ _) ?_
  rintro _ s₃ _ _ rfl
  have opened : LockStopped [⟨"lock-primes", 0, 1⟩] :=
    ⟨0, [], chunked_nil _, _, rfl⟩
  refine adds_silent_bind (createPuzzleAndDeriveMask_steady steady_silent host _ _)
    (fun _ _ _ => opened) fun puzzle s₄ _ => ?_
  refine adds_silent_bind (keyProtectionMaterial_steady steady_silent host _ _ _)
    (fun _ _ _ => opened) fun ⟨wrappedKey, passwordProtection⟩ s₅ _ => ?_
  refine adds_bind (emitProgress_adds _ _ _ s₅ _) ?_
  rintro _ s₆ _ _ rfl
  have prepared : LockStopped [⟨"lock-primes", 0, 1⟩, ⟨"lock-puzzle", 1, 1⟩] :=
    lockStopped_strode 0 (strode_nil _ _ _ _)
  refine adds_lift_bind (fun _ _ => prepared) fun streamLen _ => ?_
  refine adds_silent_bind (newTempIn_steady steady_silent host.toHost _) (fun _ _ _ => prepared)
    fun _ s₇ _ => ?_
  refine adds_silent_bind (call_steady steady_silent host.toHost) (fun _ _ _ => prepared)
    fun _ s₈ _ => ?_
  refine adds_silent_bind (steady_silent.read _) (fun _ _ _ => prepared) fun reader s₉ _ => ?_
  refine adds_silent_bind (steady_silent.read _) (fun _ _ _ => prepared) fun created s₁₀ _ => ?_
  apply adds_bind_silent (adds_weaken
    (writeTimelockedArtifact_adds host cancellation .tempFile _ _ s₁₀)
    (fun _ _ finished => finished) fun _ _ strode => lockStopped_strode _ strode)
  · exact fun _ => call_steady steady_silent host.toHost
  · exact fun _ _ _ _ _ _ finished _ => lockFinished_finished _ finished
  · exact fun _ _ _ _ _ _ finished _ => lockStopped_strode _ finished.strode

theorem prepare_adds (request : LockRequest) (s : World) :
    Adds reports (prepare host true cancellation request) s
      (fun prepared new => LockFinished prepared.1.plaintextBytes.toNat new)
      (fun _ new => LockStopped new) := by
  refine adds_silent_bind (ensureNotCancelled_steady steady_silent cancellation)
    (fun _ _ _ => lockStopped_nil) fun _ s₁ _ => ?_
  refine adds_silent_bind (resolveAndStageInput_steady steady_silent moves_silent.makes host
    cancellation _ _) (fun _ _ _ => lockStopped_nil) fun staged s₂ _ => ?_
  refine adds_silent_bind (resolveCurrentMachineIterationsPerSecond_steady steady_silent host request)
    (fun _ _ _ => lockStopped_nil) fun rate s₃ _ => ?_
  refine adds_lift_bind (fun _ _ => lockStopped_nil) fun difficulty _ => ?_
  apply adds_bind_silent (writePayloadArtifacts_adds host cancellation staged request difficulty s₃)
  · exact fun _ => steady_silent.pure _
  · rintro _ _ _ _ _ _ finished returned
    cases returned
    exact finished
  · rintro _ _ _ _ _ _ _ failed
    cases failed

/-- A lock that fails stops somewhere in the reports of a lock, and may have made
all of them; one that succeeds ends with all of its payload. -/
theorem lock_reports (request : LockRequest) (before : World) :
    Adds reports (executeWithCancel host true cancellation request) before
      (fun response new => LockFinished response.payloadBytes.toNat new)
      (fun _ new => LockStopped new) := by
  have persisting := persistTimelockedContainer_steady steady_silent host moves_silent
  apply adds_bind_silent (prepare_adds host cancellation request before)
  · rintro ⟨staged, difficulty⟩
    refine steady_silent.bind (persisting staged.outputPath) fun _ => ?_
    exact steady_silent.bind (verifyOutputIfRequested_steady steady_silent host cancellation _ _)
      fun _ => steady_silent.pure _
  · rintro ⟨staged, difficulty⟩ s₁ front response s₂ _ finished rest
    obtain ⟨_, _, _, r₁⟩ := (Run.bind_eq_ok _ _ _ _ _).mp rest
    obtain ⟨_, _, _, returned⟩ := (Run.bind_eq_ok _ _ _ _ _).mp r₁
    cases returned
    exact finished
  · rintro ⟨staged, difficulty⟩ s₁ front reason s₂ _ ⟨sizes, chunked, _, rfl, _⟩ _
    exact ⟨_, sizes, chunked, List.prefix_refl _⟩

end Lock

section Unlock
open PathText PasswordProtection Superblock OutputPath
variable (host : Host) (cancellation : Option CancellationToken)
  (provider : Option PasswordProvider) (request : UnlockRequest)
  (parsed : StoredTimelockedArtifact) (payloadKind : PayloadKind)
  (recoveredFilePath : Option Path)

abbrev payloadSize (parsed : StoredTimelockedArtifact) : Nat :=
  parsed.superblock.payloadPlaintextBytes.toNat

abbrev chunkBound (parsed : StoredTimelockedArtifact) : Nat :=
  parsed.superblock.aeadChunkSizeBytes.toNat

def decryption (parsed : StoredTimelockedArtifact) (sizes : List Nat) : List Report :=
  strides "unlock-decrypt" (payloadSize parsed) 0 sizes

section Once
variable (recoverFileKey : RecoverFileKeyFn) (told : List Report)

/-- The way to the key makes these reports; where it fails over the payload it
has made all of them. -/
def KeyTells (s : World) : Prop :=
  ∀ s', s'.cachedTimelockMask = s.cachedTimelockMask →
    Adds reports (recoverFileKey (keyRequest parsed)) s' (fun _ new => new = told)
      (fun reason new => new <+: told ∧ (Harmless reason ∨ new = told))

def AttemptStopped (reason : Error) (new : List Report) : Prop :=
  (Harmless reason ∧ new <+: told) ∨
    ∃ sizes, Chunked (chunkBound parsed) sizes ∧ new = told ++ decryption parsed sizes

def AttemptFinished (recoveredBytes : Nat) (new : List Report) : Prop :=
  recoveredBytes = payloadSize parsed ∧
    ∃ sizes, Chunked (chunkBound parsed) sizes ∧ sizes ≠ [] ∧ sizes.sum = payloadSize parsed ∧
      new = told ++ decryption parsed sizes

theorem AttemptFinished.stopped {parsed : StoredTimelockedArtifact} {told new : List Report}
    {recoveredBytes : Nat} (finished : AttemptFinished parsed told recoveredBytes new)
    (reason : Error) : AttemptStopped parsed told reason new := by
  obtain ⟨_, sizes, chunked, _, _, shown⟩ := finished
  exact .inr ⟨sizes, chunked, shown⟩

theorem attemptStopped_nil (reason : Error) (harmless : Harmless reason) :
    AttemptStopped parsed told reason [] := .inl ⟨harmless, List.nil_prefix⟩

theorem recoverPayloadToWriterWithCancel_adds (writer : Writer) (s : World)
    (tells : KeyTells parsed recoverFileKey told s) (s' : World)
    (same : s'.cachedTimelockMask = s.cachedTimelockMask) :
    Adds reports (recoverPayloadToWriterWithCancel host request.input parsed writer recoverFileKey
        true cancellation) s'
      (fun stats new => AttemptFinished parsed told stats.plaintextBytes new)
      (AttemptStopped parsed told) := by
  have keyed : ∀ reason, AttemptStopped parsed told reason (told ++ []) :=
    fun reason => .inr ⟨[], chunked_nil _, rfl⟩
  have keying : Adds reports (recoverFileKey (keyRequest parsed)) s' (fun _ new => new = told)
      (AttemptStopped parsed told) := by
    apply adds_weaken (tells s' same)
    · exact fun _ _ shown => shown
    · rintro reason new ⟨front, harmless | rfl⟩
      · exact .inl ⟨harmless, front⟩
      · have whole := keyed reason
        rw [List.append_nil] at whole
        exact whole
  apply adds_bind keying
  · rintro key s₁ _ _ rfl
    refine adds_silent_bind (readPayloadRegionBytes_steady steady_silent host request.input parsed)
      (fun reason _ _ => keyed reason) fun region s₂ _ => ?_
    refine adds_lift_bind (fun reason _ => keyed reason) fun stream _ => ?_
    refine adds_lift_bind (fun reason _ => keyed reason) fun digest _ => ?_
    apply adds_weaken (decryptProtectedStreamToWriterWithCancel_adds host writer key digest _ _
      cancellation stream s₂)
    · rintro stats new ⟨whole, sizes, chunked, some_, sum, rfl⟩
      rw [Nat.zero_add] at sum
      exact ⟨whole, sizes, chunked, some_, sum, rfl⟩
    · rintro reason new ⟨sizes, chunked, rfl⟩
      exact .inr ⟨sizes, chunked, rfl⟩

theorem recoverPayloadOnce_adds (s : World) (tells : KeyTells parsed recoverFileKey told s) :
    Adds reports (recoverPayloadOnce host true cancellation request parsed payloadKind
        recoveredFilePath recoverFileKey) s
      (fun response new => AttemptFinished parsed told response.recoveredBytes new)
      (AttemptStopped parsed told) := by
  have recovering := recoverPayloadToWriterWithCancel_adds host cancellation request parsed
    recoverFileKey told
  unfold recoverPayloadOnce
  cases payloadKind with
  | text =>
      apply adds_bind_silent (capture_adds (recovering .memory s tells _ rfl))
      · rintro ⟨stats, textBytes⟩
        dsimp only
        cases fromUtf8 textBytes with
        | none => exact steady_silent.fail _
        | some text => exact steady_silent.pure _
      · rintro ⟨stats, textBytes⟩ s₁ front response s₂ _ finished shown
        dsimp only at shown
        cases valid : fromUtf8 textBytes <;> rw [valid] at shown <;> cases shown
        exact finished
      · exact fun _ _ _ reason _ _ finished _ => finished.stopped reason
  | file originalFilename =>
      cases recoveredFilePath with
      | none => exact adds_fail (attemptStopped_nil parsed told _ rfl)
      | some outputPath =>
          dsimp only
          refine adds_silent_bind (createDirAll_steady steady_silent moves_silent.makes host _)
            (fun reason _ failed =>
              attemptStopped_nil parsed told reason (createDirAll_harmless host _ _ _ _ failed))
            fun _ s₁ made => ?_
          refine adds_silent_bind (newTempIn_steady steady_silent host _)
            (fun reason _ failed =>
              attemptStopped_nil parsed told reason (newTempIn_harmless host _ _ _ _ failed))
            fun _ s₂ opened => ?_
          -- Neither step touches the kept mask, so the key still tells the same.
          have same : s₂.cachedTimelockMask = s.cachedTimelockMask :=
            (Run.keeps_outcome (newTempIn_steady steady_plain host _) opened).2.trans
              (Run.keeps_outcome (createDirAll_steady steady_plain moves_plain.makes host _) made).2
          apply adds_bind_silent (recovering .tempFile s tells s₂ same)
          · intro stats
            refine steady_silent.bind (call_steady steady_silent host) fun _ => ?_
            refine steady_silent.bind (ensureNotCancelled_steady steady_silent cancellation)
              fun _ => ?_
            refine steady_silent.bind (steady_silent.read _) fun contents => ?_
            exact steady_silent.bind
              (persist_steady steady_silent moves_silent host outputPath contents)
              fun _ => steady_silent.pure _
          · rintro stats s₃ front response s₄ _ finished rest
            obtain ⟨_, _, _, r₁⟩ := (Run.bind_eq_ok _ _ _ _ _).mp rest
            obtain ⟨_, _, _, r₂⟩ := (Run.bind_eq_ok _ _ _ _ _).mp r₁
            obtain ⟨_, _, _, r₃⟩ := (Run.bind_eq_ok _ _ _ _ _).mp r₂
            obtain ⟨_, _, _, returned⟩ := (Run.bind_eq_ok _ _ _ _ _).mp r₃
            cases returned
            exact finished
          · exact fun _ _ _ reason _ _ finished _ => finished.stopped reason

end Once

theorem recoverFileKeyFromTimelock_tells (s : World) :
    KeyTells parsed (recoverFileKeyFromTimelock host true cancellation)
      (solved parsed.superblock.iterations.toNat) s := by
  intro s' _
  apply adds_bind_silent (adds_weaken
    (solvePuzzleMaskWithCancel_adds cancellation (puzzleOf (keyRequest parsed)) host.crates s')
    (fun _ _ shown => shown)
    (by
      rintro reason new ⟨rfl, front⟩
      exact ⟨front, .inl rfl⟩))
  · exact fun _ => steady_silent.pure _
  · exact fun _ _ _ _ _ _ shown _ => shown
  · intro _ _ _ reason _ _ _ failed
    cases failed

def unsolved (parsed : StoredTimelockedArtifact) (s : World) : List Report :=
  if s.cachedTimelockMask.isSome then [] else solved parsed.superblock.iterations.toNat

theorem cachedTimelockMask_adds (s : World) :
    Adds reports (cachedTimelockMask host true cancellation (keyRequest parsed)) s
      (fun _ new => new = unsolved parsed s)
      (fun reason new => reason = .cancelled ∧ new <+: unsolved parsed s) := by
  unfold cachedTimelockMask unsolved
  apply adds_silent_bind (steady_silent.read _)
  · intro reason s' failed
    cases failed
  · rintro cached s' observed
    cases observed
    cases kept : s.cachedTimelockMask with
    | some mask => exact adds_pure rfl
    | none =>
        apply adds_bind_silent (solvePuzzleMaskWithCancel_adds cancellation
          (puzzleOf (keyRequest parsed)) host.crates s)
        · exact fun mask => steady_silent.bind (fun _ => rfl) fun _ => steady_silent.pure _
        · exact fun _ _ _ _ _ _ shown _ => shown
        · intro _ _ _ reason _ _ _ failed
          cases failed

theorem recoverPasswordProtectedFileKey_tells (metadata : PasswordProtectionMetadata)
    (context : PasswordPromptContext) (s : World) :
    KeyTells parsed (recoverPasswordProtectedFileKey host true cancellation provider metadata
      context) (unsolved parsed s) s := by
  intro s' same
  have left : unsolved parsed s' = unsolved parsed s := by
    unfold unsolved
    rw [same]
  have solving := cachedTimelockMask_adds host cancellation parsed s'
  rw [left] at solving
  apply adds_bind_silent (adds_weaken solving (fun _ _ shown => shown) (by
    rintro reason new ⟨rfl, front⟩
    exact ⟨front, .inl rfl⟩))
  · intro mask
    refine steady_silent.bind ?_ fun _ => steady_silent.lift _
    unfold promptPassphrase
    cases provider with
    | none => exact steady_silent.fail _
    | some answer =>
        refine steady_silent.bind (steady_silent.read _) fun reply => ?_
        exact steady_silent.bind (passes_silent _ rfl) fun _ => steady_silent.lift _
  · exact fun _ _ _ _ _ _ shown _ => shown
  · rintro _ _ _ reason _ _ rfl _
    exact ⟨List.prefix_refl _, .inr rfl⟩

/-- Whoever was asked was asked behind a solved puzzle, whose solution is kept. -/
theorem ledger_kept {start world : World} {count : Nat}
    (ledger : Ledger start (count + 1) world) : world.cachedTimelockMask.isSome = true := by
  obtain ⟨new, _, called, first, counted⟩ := ledger
  by_contra nothing
  rw [if_neg nothing] at counted
  have asked : (count + 1, decide (0 < count)) ∈ calls new := by
    rw [called, firstCalls_succ]
    exact List.mem_append_right _ (List.mem_singleton_self _)
  obtain ⟨event, member, shown⟩ := List.mem_filterMap.mp (List.mem_reverse.mp asked)
  obtain ⟨later, earlier, split⟩ := List.append_of_mem member
  cases event with
  | prompt attempt previousAttemptFailed =>
      have there : Event.solved ∈ new := by
        rw [split]
        exact List.mem_append_right _ (List.mem_cons_of_mem _ (first later earlier _ _ split))
      exact absurd rfl (List.countP_eq_zero.mp counted _ there)
  | _ => cases shown

theorem unsolved_ledger {start world : World} {count : Nat}
    (ledger : Ledger start (count + 1) world) : unsolved parsed world = [] := by
  rw [unsolved, if_pos (ledger_kept ledger)]

def decryptions (parsed : StoredTimelockedArtifact) (failed : List (List Nat)) : List Report :=
  failed.flatMap (decryption parsed)

/-- The reports of at most this many attempts, wherever they stop. -/
def UnlockStopped (told : List Report) (attempts : Nat) (new : List Report) : Prop :=
  ∃ failed : List (List Nat), failed.length ≤ attempts ∧
    (∀ sizes ∈ failed, Chunked (chunkBound parsed) sizes) ∧
    new <+: told ++ decryptions parsed failed

/-- The reports of at most this many attempts, of which the last one succeeds. -/
def UnlockFinished (told : List Report) (attempts recoveredBytes : Nat) (new : List Report) : Prop :=
  recoveredBytes = payloadSize parsed ∧ ∃ (failed : List (List Nat)) (sizes : List Nat),
    failed.length < attempts ∧ (∀ sizes ∈ failed, Chunked (chunkBound parsed) sizes) ∧
    Chunked (chunkBound parsed) sizes ∧ sizes.sum = payloadSize parsed ∧
    new = told ++ decryptions parsed failed ++ decryption parsed sizes ∧
    new.getLast? = some ⟨"unlock-decrypt", payloadSize parsed, payloadSize parsed⟩

section Stops
variable {parsed : StoredTimelockedArtifact} {told new : List Report}

theorem AttemptStopped.unlock {reason : Error} (stopped : AttemptStopped parsed told reason new)
    (left : Nat) : UnlockStopped parsed told (left + 1) new := by
  rcases stopped with ⟨_, front⟩ | ⟨sizes, chunked, rfl⟩
  · exact ⟨[], Nat.zero_le _, by simp, front.trans (List.prefix_append _ _)⟩
  · exact ⟨[sizes], by simp, by simpa using chunked, by simp [decryptions]⟩

theorem AttemptFinished.unlock {recoveredBytes : Nat}
    (finished : AttemptFinished parsed told recoveredBytes new) (left : Nat) :
    UnlockFinished parsed told (left + 1) recoveredBytes new := by
  obtain ⟨whole, sizes, chunked, some_, sum, rfl⟩ := finished
  refine ⟨whole, [], sizes, Nat.succ_pos left, by simp, chunked, sum, by simp [decryptions], ?_⟩
  have last := strides_last "unlock-decrypt" (payloadSize parsed) 0 sizes some_
  rw [Nat.zero_add, sum] at last
  rw [List.getLast?_append, decryption, last]
  rfl

/-- A failed attempt before the others. -/
theorem unlockStopped_again {left : Nat} {sizes : List Nat}
    (chunked : Chunked (chunkBound parsed) sizes) (stopped : UnlockStopped parsed [] left new) :
    UnlockStopped parsed told (left + 1) (told ++ decryption parsed sizes ++ new) := by
  obtain ⟨failed, few, each, front⟩ := stopped
  refine ⟨sizes :: failed, Nat.succ_le_succ few, ?_, ?_⟩
  · simpa using ⟨chunked, each⟩
  · rw [decryptions, List.flatMap_cons, ← List.append_assoc]
    exact (List.prefix_append_right_inj _).mpr front

theorem unlockFinished_again {left recoveredBytes : Nat} {sizes : List Nat}
    (chunked : Chunked (chunkBound parsed) sizes)
    (finished : UnlockFinished parsed [] left recoveredBytes new) :
    UnlockFinished parsed told (left + 1) recoveredBytes
      (told ++ decryption parsed sizes ++ new) := by
  obtain ⟨whole, failed, others, few, each, chunked', sum, shown, last⟩ := finished
  refine ⟨whole, sizes :: failed, others, Nat.succ_lt_succ few, ?_, chunked', sum, ?_, ?_⟩
  · simpa using ⟨chunked, each⟩
  · rw [shown, decryptions, decryptions, List.flatMap_cons]
    simp only [List.nil_append, List.append_assoc]
  · rw [List.getLast?_append, last]
    rfl

end Stops

section After
variable (metadata : PasswordProtectionMetadata) (left attempt : Nat) (flag : Bool) {s stop : World}

theorem attempts_ok {response : UnlockResponse}
    (attempted : attemptOnce host true cancellation provider request parsed payloadKind
      recoveredFilePath metadata attempt flag s = (.ok response, stop)) :
    attempts host true cancellation provider request parsed payloadKind recoveredFilePath metadata
      (left + 1) attempt flag s = (.ok response, zeroizeMask stop) := by
  rw [attempts]
  dsimp only
  rw [attempted]

theorem attempts_error {reason : Error}
    (attempted : attemptOnce host true cancellation provider request parsed payloadKind
      recoveredFilePath metadata attempt flag s = (.error reason, stop)) :
    attempts host true cancellation provider request parsed payloadKind recoveredFilePath metadata
        (left + 1) attempt flag s =
      if isPayloadAuthenticationError reason then
        if attempt < maxPasswordAttempts then
          attempts host true cancellation provider request parsed payloadKind recoveredFilePath
            metadata left (attempt + 1) true stop
        else (.error passwordPayloadAuthenticationError, zeroizeMask stop)
      else (.error reason, zeroizeMask stop) := by
  rw [attempts]
  dsimp only
  rw [attempted]

end After

theorem attempts_adds (metadata : PasswordProtectionMetadata) {start : World} (left count : Nat)
    (s : World) (ledger : Ledger start count s) :
    Adds reports (attempts host true cancellation provider request parsed payloadKind
        recoveredFilePath metadata left (count + 1) (decide (0 < count))) s
      (fun response new =>
        UnlockFinished parsed (unsolved parsed s) left response.recoveredBytes new)
      (fun _ new => UnlockStopped parsed (unsolved parsed s) left new) := by
  induction left generalizing count s with
  | zero => exact adds_error rfl (List.append_nil _).symm ⟨[], Nat.le_refl 0, by simp, List.nil_prefix⟩
  | succ left ih =>
      have once := recoverPayloadOnce_adds host cancellation request parsed payloadKind
        recoveredFilePath _ (unsolved parsed s) s (recoverPasswordProtectedFileKey_tells host
          cancellation provider parsed metadata
          ⟨request.input, count + 1, maxPasswordAttempts, decide (0 < count)⟩ s)
      have spent := attemptOnce_spends host true cancellation provider request parsed payloadKind
        recoveredFilePath metadata count s ledger
      rcases attempted : attemptOnce host true cancellation provider request parsed payloadKind
        recoveredFilePath metadata (count + 1) (decide (0 < count)) s with ⟨reason | response, stop⟩
      · obtain ⟨new, added, stopped⟩ := added_error once attempted
        have after := attempts_error host cancellation provider request parsed payloadKind
          recoveredFilePath metadata left _ _ attempted
        rw [attempted] at spent
        -- The attempts go on after a payload that did not authenticate, and only then.
        by_cases refused : isPayloadAuthenticationError reason = true
        · rw [if_pos refused] at after
          by_cases more : count + 1 < maxPasswordAttempts
          · rw [if_pos more] at after
            have later : decide (0 < count + 1) = true := decide_eq_true (Nat.succ_pos count)
            obtain ⟨sizes, chunked, rfl⟩ : ∃ sizes, Chunked (chunkBound parsed) sizes ∧
                new = unsolved parsed s ++ decryption parsed sizes := by
              rcases stopped with ⟨harmless, _⟩ | shown
              · rw [Harmless, refused] at harmless
                cases harmless
              · exact shown
            have ledger' : Ledger start (count + 1) stop := by
              rcases spent with called | ⟨_, other, same, harmless⟩
              · exact called
              · cases same
                rw [refused] at harmless
                cases harmless
            have again := ih (count + 1) stop ledger'
            rw [later, unsolved_ledger parsed ledger'] at again
            obtain ⟨rest, added', ends⟩ := again
            refine ⟨unsolved parsed s ++ decryption parsed sizes ++ rest, ?_, ?_⟩
            · rw [after, added', added, List.append_assoc]
            · rw [after]
              split at ends
              · exact unlockFinished_again chunked ends
              · exact unlockStopped_again chunked ends
          · rw [if_neg more] at after
            exact adds_error after added (stopped.unlock left)
        · rw [if_neg refused] at after
          exact adds_error after added (stopped.unlock left)
      · obtain ⟨new, added, finished⟩ := added_ok once attempted
        have after := attempts_ok host cancellation provider request parsed payloadKind
          recoveredFilePath metadata left _ _ attempted
        exact adds_ok after added (finished.unlock left)

def Holds (request : UnlockRequest) (world : World) (parsed : StoredTimelockedArtifact) : Prop :=
  ∃ bytes, world.tree.readFile host.cwd request.input = .ok bytes ∧
    readTimelockedArtifactBytes host.crates bytes = .ok parsed

def allowed (parsed : StoredTimelockedArtifact) : Nat :=
  if parsed.superblock.passwordProtection.isSome then maxPasswordAttempts else 1

/-- An unlock reports the puzzle once, however often it tries the payload; if it
succeeds it ends with all of the payload, and if it fails it stops somewhere on
such a way. -/
theorem unlock_reports (before : World) :
    Adds reports (executeWithCancelAndPasswordProvider host true cancellation provider request)
      before
      (fun response new => ∃ parsed, Holds host request before parsed ∧
        UnlockFinished parsed (solved parsed.superblock.iterations.toNat) (allowed parsed)
          response.recoveredBytes new)
      (fun _ new => new = [] ∨ ∃ parsed, Holds host request before parsed ∧
        UnlockStopped parsed (solved parsed.superblock.iterations.toNat) (allowed parsed) new) := by
  refine adds_silent_bind (ensureNotCancelled_steady steady_silent cancellation)
    (fun _ _ _ => .inl rfl) fun _ s₁ polled => ?_
  have quiet := Run.keeps_outcome (ensureNotCancelled_quiet cancellation) polled
  refine adds_silent_bind (steady_silent.bind (readFile_steady steady_silent host _)
    fun _ => steady_silent.lift _) (fun _ _ _ => .inl rfl) fun parsed s₂ parsing => ?_
  obtain ⟨bytes, opened, reading, decoded⟩ := (Run.bind_eq_ok _ _ _ _ _).mp parsing
  obtain ⟨there, _⟩ := readFile_eq_ok host request.input bytes s₁ opened reading
  obtain ⟨read, rfl⟩ := Prod.mk.inj decoded
  rw [quiet.tree] at there
  have held : Holds host request before parsed := ⟨bytes, there, read⟩
  refine adds_silent_bind (steady_silent.read _) (fun _ _ _ => .inl rfl) fun tree s₃ _ => ?_
  refine adds_lift_bind (fun _ _ => .inl rfl) fun recoveredFilePath _ => ?_
  cases protection : parsed.superblock.passwordProtection with
  | none =>
      have once : allowed parsed = 1 := by
        unfold allowed
        rw [protection]
        rfl
      apply adds_weaken (recoverPayloadOnce_adds host cancellation request parsed _ recoveredFilePath
        _ _ s₃ (recoverFileKeyFromTimelock_tells host cancellation parsed s₃))
      · exact fun _ _ finished => ⟨parsed, held, once ▸ finished.unlock 0⟩
      · exact fun _ _ stopped => .inr ⟨parsed, held, once ▸ stopped.unlock 0⟩
  | some metadata =>
      have thrice : allowed parsed = maxPasswordAttempts := by
        unfold allowed
        rw [protection]
        rfl
      refine adds_silent_bind (fun _ => rfl) (fun _ _ _ => .inl rfl) fun _ s₄ cleared => ?_
      cases cleared
      -- Nothing is kept of an earlier puzzle, and nobody has been asked.
      have ledger := ledger_opened (logged_refl _ (zeroizeMask s₃)) rfl
      apply adds_weaken (attempts_adds host cancellation provider request parsed _ recoveredFilePath
        metadata maxPasswordAttempts 0 (zeroizeMask s₃) ledger)
      · exact fun _ _ finished => ⟨parsed, held, thrice ▸ finished⟩
      · exact fun _ _ stopped => .inr ⟨parsed, held, thrice ▸ stopped⟩

end Unlock

end Progress
