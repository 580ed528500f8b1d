import Timelocked.Base

/-!
The file key under a password. The key derived from the password and the
timelock mask is one half of a bytewise exclusive or, so wrapping and
unwrapping are the same operation.
-/
namespace PasswordProtection
open ByteCodec RunRules Base

def keyProtectionAlgorithmIdTimelockOnly : UInt8 := 1
def keyProtectionAlgorithmIdTimelockPlusArgon2idV1 : UInt8 := 2
def passwordKdfAlgorithmIdArgon2id : UInt8 := 1

def defaultArgon2idMemoryKib : UInt32 := 65536
def defaultArgon2idIterations : UInt32 := 3
def defaultArgon2idParallelism : UInt32 := 1
def defaultPasswordSaltLen : Nat := 32

inductive KeyProtectionAlgorithm where
  | timelockOnly
  | timelockPlusArgon2idV1
  deriving DecidableEq, Repr

def KeyProtectionAlgorithm.stableId : KeyProtectionAlgorithm → UInt8
  | .timelockOnly => keyProtectionAlgorithmIdTimelockOnly
  | .timelockPlusArgon2idV1 => keyProtectionAlgorithmIdTimelockPlusArgon2idV1

inductive PasswordKdfAlgorithm where
  | argon2id
  deriving DecidableEq, Repr

def PasswordKdfAlgorithm.stableId : PasswordKdfAlgorithm → UInt8
  | .argon2id => passwordKdfAlgorithmIdArgon2id

structure PasswordProtectionParams where
  memoryKib : UInt32
  iterations : UInt32
  parallelism : UInt32
  salt : Bytes
  deriving DecidableEq, Repr

namespace PasswordProtectionParams

def validate (params : PasswordProtectionParams) : Except Error Unit := do
  rejectIf (params.salt = [])
    (.invalidArgument "password protection salt must not be empty")
  rejectIf (params.memoryKib = 0)
    (.invalidArgument "password KDF memory cost must be greater than zero")
  rejectIf (params.iterations = 0)
    (.invalidArgument "password KDF iterations must be greater than zero")
  rejectIf (params.parallelism = 0)
    (.invalidArgument "password KDF parallelism must be greater than zero")

/-- `PasswordProtectionParams::new`. -/
def checked (memoryKib iterations parallelism : UInt32) (salt : Bytes) :
    Except Error PasswordProtectionParams := do
  let params : PasswordProtectionParams := ⟨memoryKib, iterations, parallelism, salt⟩
  params.validate
  pure params

def defaultWithSalt (salt : Bytes) : Except Error PasswordProtectionParams :=
  checked defaultArgon2idMemoryKib defaultArgon2idIterations defaultArgon2idParallelism salt

theorem checked_ok (memoryKib iterations parallelism : UInt32) (salt : Bytes)
    (params : PasswordProtectionParams) :
    checked memoryKib iterations parallelism salt = .ok params ↔
      params = ⟨memoryKib, iterations, parallelism, salt⟩ ∧ params.validate = .ok () := by
  unfold checked
  rw [bind_eq_ok]
  constructor
  · rintro ⟨_, valid, made⟩
    cases made
    exact ⟨rfl, valid⟩
  · rintro ⟨rfl, valid⟩
    exact ⟨(), valid, rfl⟩

end PasswordProtectionParams

def xor32 (left right : Block 32) : Block 32 :=
  ⟨List.zipWith (· ^^^ ·) left.1 right.1, by simp [left.2, right.2]⟩

theorem zipWith_xor_twice (left right : Bytes) (lengths : left.length = right.length) :
    List.zipWith (· ^^^ ·) (List.zipWith (· ^^^ ·) left right) right = left := by
  induction left generalizing right with
  | nil => simp
  | cons byte rest ih =>
      cases right with
      | nil => cases lengths
      | cons other others =>
          simp only [List.zipWith_cons_cons, ih others (by simpa using lengths), List.cons.injEq,
            and_true]
          rw [UInt8.xor_assoc, UInt8.xor_self, UInt8.xor_zero]

theorem xor32_xor32 (key mask : Block 32) : xor32 (xor32 key mask) mask = key :=
  Subtype.ext (zipWith_xor_twice key.1 mask.1 (key.2.trans mask.2.symm))

def passwordWrapDomainSeparator : Bytes := asBytes "TLCK-PASSWORD-WRAP-v1"

section Wrap
variable (crates : Crates)

def derivePasswordWrapKey (params : PasswordProtectionParams) (timelockMask : Block 32)
    (passphrase : String) : Except Error (Block 32) := do
  params.validate
  match crates.argon2Params params.memoryKib params.iterations params.parallelism with
  | .error err => .error (.invalidArgument s!"invalid Argon2id parameters: {err}")
  | .ok _ =>
      let kdfInput := passwordWrapDomainSeparator ++ timelockMask.1 ++ asBytes passphrase
      match crates.argon2Hash params.memoryKib params.iterations params.parallelism kdfInput
        params.salt with
      | .error err => .error (.crypto s!"password KDF failed: {err}")
      | .ok wrapKey => .ok wrapKey

def wrapFileKeyWithPassword (fileKey timelockMask : Block 32) (passphrase : String)
    (params : PasswordProtectionParams) : Except Error (Block 32) := do
  let wrapKey ← derivePasswordWrapKey crates params timelockMask passphrase
  pure (xor32 fileKey wrapKey)

def wrapFileKeyWithTimelockMask (fileKey timelockMask : Block 32) : Block 32 :=
  xor32 fileKey timelockMask

def validateLockPassphrase (passphrase : String) : Except Error Unit :=
  rejectIf (asBytes passphrase = []) (.invalidArgument "password must not be empty")

def unwrapFileKeyWithPassword (wrappedKey timelockMask : Block 32) (passphrase : String)
    (params : PasswordProtectionParams) : Except Error (Block 32) := do
  let wrapKey ← derivePasswordWrapKey crates params timelockMask passphrase
  pure (xor32 wrappedKey wrapKey)

theorem unwrapFileKeyWithPassword_wrap (fileKey wrappedKey timelockMask : Block 32)
    (passphrase : String) (params : PasswordProtectionParams)
    (wrapped : wrapFileKeyWithPassword crates fileKey timelockMask passphrase params =
      .ok wrappedKey) :
    unwrapFileKeyWithPassword crates wrappedKey timelockMask passphrase params = .ok fileKey := by
  obtain ⟨wrapKey, derived, returned⟩ := (bind_eq_ok _ _ _).mp wrapped
  cases returned
  rw [unwrapFileKeyWithPassword, derived, ok_bind, xor32_xor32, pure_eq_ok]

end Wrap

end PasswordProtection
