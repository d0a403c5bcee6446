import Lockguard.Client
import Lockguard.Status
/-!
# What an `UNLOCK` leaves in the system buffer (`lockguard.c:303-363`)

The request carries the derived key. Four of the six exits of `LgHandleUnlock` zero it; the two that
leave before the key is looked at, without a nonce and with a stale one, hand the buffer back as it
came (`unlock_zeroes_iff`).
-/
namespace Lockguard

/-- The bytes of the request, as they lie in the buffer. -/
def Irp.requestBytes (irp : Irp) : Bytes := irp.systemBuffer.take sizeofUnlockRequest

/-- The exits with `RtlSecureZeroMemory(req, sizeof(*req))` on them. -/
def UnlockExit.Zeroes : UnlockExit → Prop
  | .noNonce | .staleNonce => False
  | .wrongKey | .hmacFailed _ | .mismatch | .granted => True

theorem overlay_whole {buf bs : Bytes} (h : bs.length ≤ buf.length) : (overlay buf 0 bs).take bs.length = bs := by
  apply List.ext_getElem
  · simp [h]
  · intro i h₁ h₂
    have hi : i < buf.length := by omega
    have hbyte : (overlay buf 0 bs).getD i 0 = bs.getD i 0 :=
      getD_overlay_inside hi (Nat.zero_le i) (by omega)
    simpa [List.getD_eq_getElem?_getD, hi, h₂] using hbyte

section
variable {irp : Irp} (hlong : sizeofUnlockRequest ≤ irp.inputBufferLength)
include hlong

theorem zeroRequest_requestBytes : irp.zeroRequest.requestBytes = List.replicate sizeofUnlockRequest 0 := by
  have hbuf := irp.buffered
  have hfits : (List.replicate sizeofUnlockRequest (0 : UInt8)).length ≤ irp.systemBuffer.length := by
    rw [List.length_replicate]
    omega
  have hwhole := overlay_whole hfits
  rwa [List.length_replicate] at hwhole

/-- An exit leaves the request zeroed, or as it came. -/
theorem unlockFinish_requestBytes (k : Kernel) (d : Driver) (x : UnlockExit) :
    (x.Zeroes → (unlockFinish irp k d x).value.2.requestBytes = List.replicate sizeofUnlockRequest 0) ∧
    (¬ x.Zeroes → (unlockFinish irp k d x).value.2 = irp) := by
  have hzero := zeroRequest_requestBytes hlong
  cases x with
  | noNonce => exact ⟨False.elim, fun _ => rfl⟩
  | staleNonce => exact ⟨False.elim, fun _ => rfl⟩
  | wrongKey => exact ⟨fun _ => hzero, fun h => absurd trivial h⟩
  | hmacFailed s => exact ⟨fun _ => hzero, fun h => absurd trivial h⟩
  | mismatch => exact ⟨fun _ => hzero, fun h => absurd trivial h⟩
  | granted => exact ⟨fun _ => hzero, fun h => absurd trivial h⟩

end

theorem unlockExit_noNonce_iff {hmac : Hmac} {s : NonceSlot} {r : Recovery} {req : UnlockRequest} {k : Kernel} :
    unlockExit hmac (nonceTake s).1 r req k = .noNonce ↔ s.gNonceValid = false := by
  cases hv : s.gNonceValid with
  | false => simp [nonceTake, hv, unlockExit]
  | true =>
    simp only [nonceTake, hv, if_true, unlockExit, Bool.true_eq_false, iff_false]
    split
    · simp
    · split
      · simp
      · split
        · simp
        · split <;> simp

/-- The handler zeroes the request once a pending nonce in time has been taken. -/
theorem unlockExit_zeroes_iff (hmac : Hmac) {s : NonceSlot} (r : Recovery) (req : UnlockRequest) {k : Kernel} :
    (unlockExit hmac (nonceTake s).1 r req k).Zeroes ↔ s.gNonceValid = true ∧ ¬ NonceStale s k.now := by
  have hexit : ∀ x : UnlockExit, x.Zeroes ↔ ¬ x = .noNonce ∧ ¬ x = .staleNonce := by
    intro x
    cases x <;> simp [UnlockExit.Zeroes]
  rw [hexit, unlockExit_noNonce_iff, stale_iff, Bool.not_eq_false]

/-- **When the request is zero on the way out**: a nonce was pending and in time, or there was
nothing to zero. -/
theorem unlock_zeroes_iff (hmac : Hmac) (irp : Irp) (k : Kernel) (d : Driver)
    (hlong : sizeofUnlockRequest ≤ irp.inputBufferLength) :
    (lgHandleUnlock hmac irp k d).value.2.requestBytes = List.replicate sizeofUnlockRequest 0 ↔
      d.nonce.gNonceValid = true ∧ ¬ NonceStale d.nonce k.now ∨
        irp.requestBytes = List.replicate sizeofUnlockRequest 0 := by
  rw [lgHandleUnlock_long hlong, ← unlockExit_zeroes_iff hmac d.recovery irp.unlockRequest]
  obtain ⟨hzeroed, hkept⟩ := unlockFinish_requestBytes hlong k { d with nonce := (nonceTake d.nonce).2 }
    (unlockExit hmac (nonceTake d.nonce).1 d.recovery irp.unlockRequest k)
  by_cases hx : (unlockExit hmac (nonceTake d.nonce).1 d.recovery irp.unlockRequest k).Zeroes
  · exact iff_of_true (hzeroed hx) (Or.inl hx)
  · rw [hkept hx, or_iff_right hx]

theorem unlock_zeroes_iff_worked :
    (lgHandleUnlock Worked.hmac Worked.unlockIrp (Worked.kernel (Worked.time 0))
        (driverEntry Worked.reads)).value.2.requestBytes = List.replicate sizeofUnlockRequest 0 ↔
      (driverEntry Worked.reads).nonce.gNonceValid = true ∧
          ¬ NonceStale (driverEntry Worked.reads).nonce (Worked.kernel (Worked.time 0)).now ∨
        Worked.unlockIrp.requestBytes = List.replicate sizeofUnlockRequest 0 :=
  unlock_zeroes_iff Worked.hmac Worked.unlockIrp (Worked.kernel (Worked.time 0)) (driverEntry Worked.reads) (by decide)

/-- The first request of a client that never asked for a nonce: the key stays in the buffer. -/
theorem unlock_leaves_key :
    let r := lgHandleUnlock Worked.hmac Worked.unlockIrp (Worked.kernel (Worked.time 0)) (driverEntry Worked.reads)
    sizeofUnlockRequest ≤ Worked.unlockIrp.inputBufferLength ∧ r.value.2.unlockRequest.derivedKey = Worked.key ∧
      ¬ r.value.2.requestBytes = List.replicate sizeofUnlockRequest 0 := by
  decide +kernel

end Lockguard
