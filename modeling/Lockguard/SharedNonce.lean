import Lockguard.ChannelThreads
/-!
# One pending nonce for all clients

The driver keeps a single pending nonce: a `GET_NONCE` of any process replaces it and an `UNLOCK` of
any process takes it, whoever it was issued to. So an honest exchange goes through if no other
client's section comes between its own two (`exchange_granted`), and need not otherwise
(`exchange_not_granted`).
-/
namespace Lockguard

open Runs Interleave

/-- An honest exchange. The `GET_NONCE` `g` returned its nonce to the client before the client's
`UNLOCK` took its first step; that one returns `r` in the turn `x`, carries the key of the loaded
verifier and the response to the nonce, and comes within 60 s. -/
structure Exchange (hmac : Hmac) {ι : Type} [DecidableEq ι] (op : ι → ChannelOp) (boot : RecoveryReads)
    (sch : List ι) (g : ι) (nonce : Bytes32) (issuedAt : SysTime)
    (pre : List (Turn (ChannelConfig ι) ι)) (x : Turn (ChannelConfig ι) ι) (irp : Irp) (k : Kernel)
    (r : ChannelResult) : Prop where
  run : ∃ post, trace (channel hmac) op (driverEntry boot) sch = pre ++ x :: post
  issued : (g, .issue nonce issuedAt) ∈ sections op pre
  reply : ∃ sch₁ sch₂ r', sch = sch₁ ++ sch₂ ∧ (after (channel hmac) op (driverEntry boot) sch₁).phase g = .inr r' ∧
    r'.1.1 = statusSuccess ∧ bytesAt 32 r'.1.2.systemBuffer 0 = nonce ∧ x.event ∉ sch₁
  request : op x.event = .unlock irp k
  length : sizeofUnlockRequest ≤ irp.inputBufferLength
  bcrypt : k.BcryptSucceeds
  returns : returned (channel hmac) op x = some (x.event, r)
  fresh : k.now.quadPart ≤ issuedAt.quadPart + ticks lgNonceTtlSeconds
  verifier : x.before.shared.recovery.loadedVerifier =
    some (hmac irp.unlockRequest.derivedKey.toList lgVerifierLabel)
  response : irp.unlockRequest.response = hmac irp.unlockRequest.derivedKey.toList nonce.toList

/-- **What other clients may do.** The exchange is granted exactly when the last section under the
nonce lock before that of its `UNLOCK` issued a nonce, at most 60 s old, with the same response; so
it is granted when no other client's section came between its own two. -/
theorem exchange_granted {hmac : Hmac} {ι : Type} [DecidableEq ι] {op : ι → ChannelOp} {boot : RecoveryReads}
    {sch : List ι} {g : ι} {nonce : Bytes32} {issuedAt : SysTime} {pre : List (Turn (ChannelConfig ι) ι)}
    {x : Turn (ChannelConfig ι) ι} {irp : Irp} {k : Kernel} {r : ChannelResult}
    (h : Exchange hmac op boot sch g nonce issuedAt pre x irp k r) :
    (opened r = true ↔ ∃ g' nonce' issuedAt', Follows (sections op pre) g' x.event nonce' issuedAt' ∧
      k.now.quadPart ≤ issuedAt'.quadPart + ticks lgNonceTtlSeconds ∧
      hmac irp.unlockRequest.derivedKey.toList nonce'.toList =
        hmac irp.unlockRequest.derivedKey.toList nonce.toList) ∧
    (Follows (sections op pre) g x.event nonce issuedAt → opened r = true) := by
  obtain ⟨post, hrun⟩ := h.run
  have hiff := unlock_opens hrun h.request h.length h.bcrypt h.returns
  refine ⟨?_, fun hfollows => hiff.2 ⟨g, nonce, issuedAt, hfollows, h.fresh, h.verifier, h.response⟩⟩
  rw [hiff]
  constructor
  · rintro ⟨g', nonce', issuedAt', hg', hfresh, -, hresp⟩
    exact ⟨g', nonce', issuedAt', hg', hfresh, by rw [← hresp, h.response]⟩
  · rintro ⟨g', nonce', issuedAt', hg', hfresh, hresp⟩
    exact ⟨g', nonce', issuedAt', hg', hfresh, h.verifier, by rw [h.response, hresp]⟩

namespace Worked

/-- Two clients: the first's `GET_NONCE` and `UNLOCK`, and the second's `GET_NONCE`. -/
def race : Fin 3 → ChannelOp
  | 0 => .getNonce nonceIrp (kernel (time 0))
  | 1 => .unlock unlockIrp (kernel (time 20))
  | 2 => .getNonce nonceIrp { kernel (time 10) with random := ⟨statusSuccess, otherNonce⟩ }

end Worked

theorem exchange_granted_undisturbed : ∃ pre x r,
    Exchange Worked.hmac Worked.race Worked.reads [2, 2, 2, 0, 0, 0, 1, 1, 1] 0 Worked.nonce (Worked.time 0)
      pre x Worked.unlockIrp (Worked.kernel (Worked.time 20)) r ∧ opened r = true := by
  have h : ∃ r, Exchange Worked.hmac Worked.race Worked.reads [2, 2, 2, 0, 0, 0, 1, 1, 1] 0 Worked.nonce
      (Worked.time 0) (trace (channel Worked.hmac) Worked.race (driverEntry Worked.reads)
        [2, 2, 2, 0, 0, 0, 1, 1]) ⟨after (channel Worked.hmac) Worked.race (driverEntry Worked.reads)
        [2, 2, 2, 0, 0, 0, 1, 1], 1⟩ Worked.unlockIrp (Worked.kernel (Worked.time 20)) r :=
    ⟨_, ⟨[], turns_snoc _ _ [2, 2, 2, 0, 0, 0, 1, 1] 1⟩, List.mem_of_getElem? (i := 1) rfl,
      ⟨[2, 2, 2, 0, 0, 0], [1, 1, 1], _, rfl, rfl, rfl, by decide +kernel, by decide⟩, rfl, by decide,
      by decide +kernel, rfl, by decide, by decide +kernel, by decide +kernel⟩
  obtain ⟨r, h⟩ := h
  exact ⟨_, _, r, h, (exchange_granted h).2 ⟨[(2, .issue Worked.otherNonce (Worked.time 10))], [], rfl⟩⟩

/-- **Any process can spoil an exchange**: a second client's `GET_NONCE` comes in between, and the
first client's `UNLOCK` is refused. -/
theorem exchange_not_granted : ∃ pre x r,
    Exchange Worked.hmac Worked.race Worked.reads [0, 0, 0, 2, 2, 2, 1, 1, 1] 0 Worked.nonce (Worked.time 0)
      pre x Worked.unlockIrp (Worked.kernel (Worked.time 20)) r ∧ opened r = false := by
  refine ⟨trace (channel Worked.hmac) Worked.race (driverEntry Worked.reads) [0, 0, 0, 2, 2, 2, 1, 1],
    ⟨after (channel Worked.hmac) Worked.race (driverEntry Worked.reads) [0, 0, 0, 2, 2, 2, 1, 1], 1⟩, _,
    ⟨⟨[], turns_snoc _ _ [0, 0, 0, 2, 2, 2, 1, 1] 1⟩, List.mem_of_getElem? (i := 0) rfl,
      ⟨[0, 0, 0], [2, 2, 2, 1, 1, 1], _, rfl, rfl, rfl, by decide +kernel, by decide⟩, rfl, by decide,
      by decide +kernel, rfl, by decide, by decide +kernel, by decide +kernel⟩, ?_⟩
  decide +kernel

end Lockguard
