import Lockguard.Recovery
import Lockguard.Window
/-!
# The driver's globals (`lockguard.c:18-133`)

The static variables of `lockguard.c`, grouped by the lock that guards them, and the shape of
what a handler or callback returns. `unlessPermissive` is the tail the denying callbacks share.
-/
namespace Lockguard

/-- The state under `gNonceLock`. -/
structure NonceSlot where
  gPendingNonce : Bytes32
  gNonceValid : Bool
  gNonceIssuedAt : SysTime

def NonceSlot.boot : NonceSlot := ⟨zero32, false, SysTime.zero⟩

structure Driver where
  nonce : NonceSlot
  window : Window
  recovery : Recovery
  gTamperCount : ULONG
  gLastHeartbeat : Int

/-- `LgRecordTamperEvent` (`:124-129`). -/
def lgRecordTamperEvent (d : Driver) : Driver := { d with gTamperCount := d.gTamperCount + 1 }

@[simp] theorem tamper_window (d : Driver) : (lgRecordTamperEvent d).window = d.window := rfl
@[simp] theorem tamper_nonce (d : Driver) : (lgRecordTamperEvent d).nonce = d.nonce := rfl
@[simp] theorem tamper_recovery (d : Driver) : (lgRecordTamperEvent d).recovery = d.recovery := rfl

/-- `DriverEntry` (`:421-469`) once every subsystem is up: the first load may have failed. -/
def driverEntry (k : RecoveryReads) : Driver where
  nonce := .boot
  window := .boot
  recovery := (lgRecoveryLoadVerifier k .boot).2
  gTamperCount := 0
  gLastHeartbeat := 0

/-! ## What handling something returns -/

/-- A call to the permissive window, with the answer of `LgIsPermissive`. -/
inductive WindowCall where
  | entered (now : SysTime)
  | asked (now : SysTime) (answer : Bool)
deriving DecidableEq

structure Reply (α : Type) where
  value : α
  driver : Driver
  calls : List WindowCall

/-- `if (LgIsPermissive()) return ok; LgRecordTamperEvent(..); return denied;` -/
def unlessPermissive {α : Type} (now : SysTime) (ok denied : α) (d : Driver) : Reply α :=
  let (permissive, w) := lgIsPermissive now d.window
  let d := { d with window := w }
  if permissive then ⟨ok, d, [.asked now true]⟩
  else ⟨denied, lgRecordTamperEvent d, [.asked now false]⟩

end Lockguard
