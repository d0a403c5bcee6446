import Lockguard.Driver
/-!
# What stands behind an operation let through

The security theorem of the driver (`letThrough_unlocked`): over every run from driver load, an
operation that a closed window refuses goes ahead only because of an earlier `UNLOCK` that carried
the key of the loaded verifier and the response to a fresh nonce of its own. `Origin` is the invariant: the
pending nonce goes back to a `GET_NONCE` with no section under the nonce lock since, and an open
window to such an `UNLOCK` with no answer FALSE since.
-/
namespace Lockguard

open Runs

/-- The `UNLOCK` `u` took, under the nonce lock, what the `GET_NONCE` `g` had stored there; the
turns `gap` lie between the two. -/
structure Consumes (g : DriverTurn) (gap : List DriverTurn) (u : DriverTurn) (nonce : Bytes32)
    (issuedAt : SysTime) : Prop where
  issues : Issues g nonce issuedAt
  quiet : ∀ x ∈ gap, ¬ NonceSection x
  takes : TakesNonce u
  taken : (nonceTake u.before.nonce).1 = some (nonce, issuedAt)

/-- `u` opened the window: its key is the one of the loaded verifier `v`, and its response answers
the nonce, at most `LG_NONCE_TTL_SECONDS` old. -/
structure Opens (hmac : Hmac) (t : CaseTables) (u : DriverTurn) (nonce : Bytes32) (issuedAt : SysTime)
    (irp : Irp) (k : Kernel) (v : Bytes32) : Prop where
  event : u.event = .ioctl lgIoctlUnlock irp k
  length : sizeofUnlockRequest ≤ irp.inputBufferLength
  verifier : u.before.recovery.loadedVerifier = some v
  key : v = hmac irp.unlockRequest.derivedKey.toList lgVerifierLabel
  response : irp.unlockRequest.response = hmac irp.unlockRequest.derivedKey.toList nonce.toList
  fresh : k.now.quadPart - issuedAt.quadPart ≤ ticks lgNonceTtlSeconds
  entered : (handle hmac t u.before u.event).calls = [.entered k.windowTime]

/-- The past `past` and the turn `u` show an opening and the issuance behind it. -/
def Unlocks (hmac : Hmac) (t : CaseTables) (v : Bytes32) (past : List DriverTurn) (u : DriverTurn) : Prop :=
  ∃ old g gap nonce issuedAt irp k, past = old ++ g :: gap ∧ Consumes g gap u nonce issuedAt ∧
    Opens hmac t u nonce issuedAt irp k v

/-- No call of `LgIsPermissive` in the turn answered FALSE. -/
def NoRefusal (hmac : Hmac) (t : CaseTables) (x : DriverTurn) : Prop :=
  ∀ now, .asked now false ∉ (handle hmac t x.before x.event).calls

/-- Where the pending nonce and the open window come from. -/
structure Origin (hmac : Hmac) (t : CaseTables) (tr : List DriverTurn) (d : Driver) : Prop where
  nonce : d.nonce.gNonceValid = true →
    Since (fun _ g => Issues g d.nonce.gPendingNonce d.nonce.gNonceIssuedAt) (fun x => ¬ NonceSection x) tr
  window : d.window.gPermissive = true → ∃ v, d.recovery.loadedVerifier = some v ∧
    Since (Unlocks hmac t v) (NoRefusal hmac t) tr

theorem origin_boot (hmac : Hmac) (t : CaseTables) (boot : RecoveryReads) :
    Origin hmac t [] (driverEntry boot) := by
  constructor
  · intro h; cases h
  · intro h; cases h

/-- What is taken under the lock is what the slot held. -/
theorem nonceTake_some {s : NonceSlot} {nonce : Bytes32} {issuedAt : SysTime}
    (h : (nonceTake s).1 = some (nonce, issuedAt)) :
    s.gNonceValid = true ∧ s.gPendingNonce = nonce ∧ s.gNonceIssuedAt = issuedAt := by
  unfold nonceTake at h
  split at h
  · rename_i hv
    cases h
    exact ⟨hv, rfl, rfl⟩
  · cases h

theorem nonceTake_clears (s : NonceSlot) : (nonceTake s).2.gNonceValid = false := by
  unfold nonceTake
  split
  · rfl
  · rename_i h; simpa using h

theorem noRefusal_of_calls {hmac : Hmac} {t : CaseTables} {x : DriverTurn} {cs : List WindowCall}
    (h : (handle hmac t x.before x.event).calls = cs) (hcs : ∀ now, .asked now false ∉ cs) :
    NoRefusal hmac t x := by
  intro now
  rw [h]
  exact hcs now

section
variable {hmac : Hmac} {t : CaseTables} {tr : List DriverTurn} {d : Driver} (h : Origin hmac t tr d)
include h

theorem origin_nonce (e : Event) (hv : (driverStep hmac t d e).nonce.gNonceValid = true) :
    Since (fun _ g => Issues g (driverStep hmac t d e).nonce.gPendingNonce
      (driverStep hmac t d e).nonce.gNonceIssuedAt) (fun x => ¬ NonceSection x) (tr ++ [⟨d, e⟩]) := by
  unfold driverStep at *
  rcases handle_nonce hmac t d e with ⟨nonce, issuedAt, hi, hn⟩ | ⟨-, hn⟩ | ⟨hq, hn⟩
  · rw [hn]
    exact since_now hi
  · rw [hn, nonceTake_clears] at hv
    cases hv
  · rw [hn] at hv ⊢
    exact (h.nonce hv).keep hq

theorem origin_unlock {e : Event} {irp : Irp} {k : Kernel} (hg : GrantedBy hmac d e irp k)
    (hc : (handle hmac t d e).calls = [.entered k.windowTime]) :
    ∃ v, d.recovery.loadedVerifier = some v ∧ Unlocks hmac t v tr ⟨d, e⟩ := by
  obtain ⟨he, hlen, hx⟩ := hg
  obtain ⟨nonce, issuedAt, htake, hage, hv, hr⟩ := unlockExit_granted hx
  obtain ⟨hvalid, rfl, rfl⟩ := nonceTake_some htake
  obtain ⟨old, g, gap, rfl, hi, hq⟩ := h.nonce hvalid
  exact ⟨_, hv, old, g, gap, _, _, irp, k, rfl, ⟨hi, hq, ⟨irp, k, he, hlen⟩, htake⟩,
    ⟨he, hlen, hv, rfl, hr, hage, hc⟩⟩

theorem origin_window (e : Event) (hp : (driverStep hmac t d e).window.gPermissive = true) :
    ∃ v, (driverStep hmac t d e).recovery.loadedVerifier = some v ∧
      Since (Unlocks hmac t v) (NoRefusal hmac t) (tr ++ [⟨d, e⟩]) := by
  unfold driverStep at *
  have hkeep : d.window.gPermissive = true → NoRefusal hmac t ⟨d, e⟩ →
      ∃ v, (handle hmac t d e).driver.recovery.loadedVerifier = some v ∧
        Since (Unlocks hmac t v) (NoRefusal hmac t) (tr ++ [⟨d, e⟩]) := by
    intro hd hx
    obtain ⟨v, hv, hs⟩ := h.window hd
    exact ⟨v, handle_verifier hmac t hv e, hs.keep hx⟩
  rcases handle_window hmac t d e with (⟨hc, hw⟩ | ⟨hc, hw⟩) | ⟨irp, k, hg, hc, -⟩
  · rw [hw] at hp
    exact hkeep hp (noRefusal_of_calls hc (by simp))
  · -- an answer FALSE would have closed the window
    rw [hw] at hp
    have ha : (lgIsPermissive e.now d.window).1 = true := by
      by_contra hf
      rw [closed_of_false (Bool.eq_false_iff.2 hf)] at hp
      cases hp
    rw [ha] at hc
    exact hkeep (open_of_still_open hp) (noRefusal_of_calls hc (by simp))
  · obtain ⟨v, hv, hu⟩ := origin_unlock h hg hc
    exact ⟨v, handle_verifier hmac t hv e, since_now hu⟩

theorem origin_step (e : Event) : Origin hmac t (tr ++ [⟨d, e⟩]) (driverStep hmac t d e) :=
  ⟨origin_nonce h e, origin_window h e⟩

end

theorem origin_run (hmac : Hmac) (t : CaseTables) (boot : RecoveryReads) (es : List Event) :
    Origin hmac t (driverTurns hmac t boot es) (final (driverStep hmac t) (driverEntry boot) es) :=
  inv _ (origin_boot hmac t boot) (fun _ _ e h => origin_step h e) es

/-! ## The operations the window decides -/

/-- With the window closed the operation does not go ahead, whatever else the driver's state. -/
def Event.RefusedWhenClosed (hmac : Hmac) (t : CaseTables) (e : Event) : Prop :=
  ∀ d : Driver, d.window.gPermissive = false → ¬ (handle hmac t d e).value.LetsThrough

/-- **Closed, the window refuses every guarded operation.** -/
theorem guarded_refused (hmac : Hmac) {t : CaseTables} {e : Event} (hg : e.Guarded t) :
    e.RefusedWhenClosed hmac t := by
  intro d hw hl
  have hc := letThrough_asked hg hl
  rcases handle_window hmac t d e with (⟨hn, -⟩ | ⟨hn, -⟩) | ⟨irp, k, -, hn, -⟩
  · rw [hn] at hc; cases hc
  · rw [hn, lgIsPermissive_closed hw] at hc; simp at hc
  · rw [hn] at hc; simp at hc

/-! ## The theorem -/

/-- A section under the nonce lock is the only one that can consume what went before it, so an
issuance is consumed once. -/
theorem consumes_unique {g u u' : DriverTurn} {gap gap' rest rest' : List DriverTurn}
    {nonce nonce' : Bytes32} {issuedAt issuedAt' : SysTime} (h : gap ++ u :: rest = gap' ++ u' :: rest')
    (hc : Consumes g gap u nonce issuedAt) (hc' : Consumes g gap' u' nonce' issuedAt') :
    gap = gap' ∧ u = u' := by
  obtain ⟨hgap, hu, -⟩ := first_unique h hc.quiet (Or.inr hc.takes) hc'.quiet (Or.inr hc'.takes)
  exact ⟨hgap, hu⟩

/-- **Whatever an `UNLOCK` takes under the nonce lock, some `GET_NONCE` of the run issued.** -/
theorem taken_consumes {hmac : Hmac} {t : CaseTables} {boot : RecoveryReads} {es : List Event}
    {pre post : List DriverTurn} {u : DriverTurn} {nonce : Bytes32} {issuedAt : SysTime}
    (hrun : driverTurns hmac t boot es = pre ++ u :: post) (hu : TakesNonce u)
    (ht : (nonceTake u.before.nonce).1 = some (nonce, issuedAt)) :
    ∃ old g gap, pre = old ++ g :: gap ∧ Consumes g gap u nonce issuedAt := by
  obtain ⟨es₁, es₂, -, rfl, hb, -⟩ := turns_split _ hrun
  have ho := origin_run hmac t boot es₁
  obtain ⟨hvalid, hn, hi⟩ := nonceTake_some ht
  rw [hb] at hvalid hn hi
  obtain ⟨old, g, gap, hpre, hg, hq⟩ := ho.nonce hvalid
  rw [hn, hi] at hg
  exact ⟨old, g, gap, hpre, hg, hq, hu, ht⟩

/-- **The security theorem of the driver.** In every run from driver load, an operation that goes
ahead though a closed window refuses it has behind it an `UNLOCK` that carried the key of the loaded
verifier and the response to a nonce at most 60 s old, whose issuance no other `UNLOCK` of the run
consumed; and no call of `LgIsPermissive` since then answered FALSE. -/
theorem letThrough_unlocked (hmac : Hmac) (t : CaseTables) (boot : RecoveryReads) (es : List Event)
    {pre post : List DriverTurn} {op : DriverTurn}
    (hrun : driverTurns hmac t boot es = pre ++ op :: post) (hr : op.event.RefusedWhenClosed hmac t)
    (hl : (handle hmac t op.before op.event).value.LetsThrough) :
    ∃ old g gap u mid nonce issuedAt irp k v, pre = old ++ g :: gap ++ u :: mid ∧
      Consumes g gap u nonce issuedAt ∧
      (∀ gap' u' rest' nonce' issuedAt', gap ++ u :: mid ++ op :: post = gap' ++ u' :: rest' →
        Consumes g gap' u' nonce' issuedAt' → gap' = gap ∧ u' = u) ∧
      Opens hmac t u nonce issuedAt irp k v ∧
      op.before.recovery.loadedVerifier = some v ∧
      ∀ x ∈ mid, NoRefusal hmac t x := by
  obtain ⟨es₁, es₂, -, rfl, hb, -⟩ := turns_split _ hrun
  have ho := origin_run hmac t boot es₁
  have hopen : op.before.window.gPermissive = true := by
    by_contra hc
    exact hr _ (Bool.eq_false_iff.2 hc) hl
  rw [hb] at hopen
  obtain ⟨v, hv, past, u, mid, hpre, ⟨old, g, gap, nonce, issuedAt, irp, k, rfl, hcons, hopens⟩, hmid⟩ :=
    ho.window hopen
  refine ⟨old, g, gap, u, mid, nonce, issuedAt, irp, k, v, ?_, hcons, ?_, hopens, ?_, hmid⟩
  · exact hpre.trans (by simp)
  · intro gap' u' rest' nonce' issuedAt' he hc'
    have he' : gap ++ u :: (mid ++ op :: post) = gap' ++ u' :: rest' := by simpa using he
    obtain ⟨h1, h2⟩ := consumes_unique he' hcons hc'
    exact ⟨h1.symm, h2.symm⟩
  · rw [hb]; exact hv

namespace Worked

/-- A nonce, an unlock, and the filter unload it permits. -/
def unloadRun : List Event :=
  [.ioctl lgIoctlGetNonce nonceIrp (kernel (time 0)), .ioctl lgIoctlUnlock unlockIrp (kernel (time 20)),
    .filterUnload (time 30)]

end Worked

theorem letThrough_unlocked_unload : ∃ pre op post,
    driverTurns Worked.hmac .ascii Worked.reads Worked.unloadRun = pre ++ op :: post ∧
      (handle Worked.hmac .ascii op.before op.event).value.LetsThrough ∧
      ∃ u ∈ pre, ∃ nonce issuedAt irp k v, Opens Worked.hmac .ascii u nonce issuedAt irp k v := by
  have hl : (handle Worked.hmac .ascii (final (driverStep Worked.hmac .ascii) (driverEntry Worked.reads)
      (Worked.unloadRun.take 2)) (.filterUnload (Worked.time 30))).value.LetsThrough := by
    show _ = statusSuccess
    decide +kernel
  refine ⟨_, ⟨_, .filterUnload (Worked.time 30)⟩, [], turns_snoc _ _ (Worked.unloadRun.take 2) _, hl, ?_⟩
  obtain ⟨old, g, gap, u, mid, nonce, issuedAt, irp, k, v, hpre, -, -, ho, -, -⟩ :=
    letThrough_unlocked Worked.hmac .ascii Worked.reads Worked.unloadRun
      (turns_snoc _ _ (Worked.unloadRun.take 2) _) (guarded_refused _ trivial) hl
  exact ⟨u, by rw [hpre]; simp, nonce, issuedAt, irp, k, v, ho⟩

end Lockguard
