import Lockguard.DriverThreads
import Lockguard.TamperCount
/-!
# Tamper accounting under concurrent calls (`lockguard.c:122-131`)

A call that denies makes its record in its last step, and no other step touches the counter
(`threadStep_count`). So no record is lost, whatever comes between: the counter is the number of the
calls that have returned with a denial (`threads_count_denials`).
-/
namespace Lockguard

open Interleave Runs

/-- No driver has refused the launch before. One that has leaves its status in the answer, whatever this driver does. -/
def Event.Unspoken : Event → Prop
  | .process info _ => ∀ i, info = some i → i.creationStatus ≠ statusAccessDenied
  | _ => True

/-- The phase is one of the event's own. -/
def ThreadPhase.Serves (e : Event) : ThreadPhase → Prop
  | .start e' => e' = e
  | .check e' | .lock e' | .checked e' _ => e' = e ∧ ∀ irp k, e ≠ .ioctl lgIoctlUnlock irp k
  | .take irp k | .taken irp k _ | .compare irp k _ _ => e = .ioctl lgIoctlUnlock irp k
  | .leave irp k x => e = .ioctl lgIoctlUnlock irp k ∧
    ∀ s, x = .hmacFailed s → s ≠ statusAccessDenied ∧ s ≠ statusTimeout
  | _ => ∃ code irp k, e = .ioctl code irp k ∧ code ≠ lgIoctlUnlock

section
variable {hmac : Hmac} {t : CaseTables} {e : Event} {p : ThreadPhase} {d : Driver}

theorem request_serves {code : ULONG} {irp : Irp} {k : Kernel} {p : ThreadPhase}
    (h : requestStart code irp k = .inl p) : p.Serves (.ioctl code irp k) := by
  unfold requestStart at h
  split at h
  · rename_i hcode
    subst hcode
    split at h <;> cases h
    exact ⟨_, _, _, rfl, by decide⟩
  rename_i hget
  split at h
  · rename_i hcode
    subst hcode
    split at h <;> cases h
    rfl
  rename_i hunlock
  have hother : ∀ irp' k', Event.ioctl code irp k ≠ .ioctl lgIoctlUnlock irp' k' := by
    intro irp' k' heq
    cases heq
    exact hunlock rfl
  split at h
  · cases h
    exact ⟨_, _, _, rfl, hunlock⟩
  split at h
  · split at h <;> cases h
    exact ⟨rfl, hother⟩
  · cases h

theorem beforeCompare_serves {irp : Irp} {k : Kernel} (loaded : Bool) (found : Option (Bytes32 × SysTime)) :
    (beforeCompare hmac irp k loaded found).Serves (.ioctl lgIoctlUnlock irp k) := by
  have hleave : ∀ x, (∀ s, x ≠ .hmacFailed s) → (ThreadPhase.leave irp k x).Serves (.ioctl lgIoctlUnlock irp k) :=
    fun x hx => ⟨rfl, fun s hs => absurd hs (hx s)⟩
  cases found with
  | none => exact hleave .noNonce (by simp)
  | some taken =>
    obtain ⟨nonce, issuedAt⟩ := taken
    simp only [beforeCompare]
    split
    · exact hleave .staleNonce (by simp)
    split
    · exact hleave .wrongKey (by simp)
    split
    · exact hleave .wrongKey (by simp)
    · exact rfl

theorem afterCompare_apart {irp : Irp} {k : Kernel} (hk : k.responseHmac.Apart) {nonce computed stored : Bytes32}
    {s : NTSTATUS} (h : afterCompare hmac irp k nonce computed stored = .hmacFailed s) :
    s ≠ statusAccessDenied ∧ s ≠ statusTimeout := by
  unfold afterCompare at h
  split at h
  · cases h
  split at h
  · rename_i hfailed
    cases h
    exact lgHmacSha256_apart hk hfailed
  · split at h <;> cases h

/-- **A call stays with its event.** -/
theorem threadStep_serves (happ : e.BcryptApart) (hserves : p.Serves e) {p' : ThreadPhase} {d' : Driver}
    (h : threadStep hmac t p d = (.inl p', d')) : p'.Serves e := by
  cases p with
  | start e' =>
    obtain rfl := hserves
    rcases e'.ioctl_or_callback with ⟨code, irp, k, rfl⟩ | hcallback
    · simp only [threadStep, Prod.mk.injEq] at h
      exact request_serves h.1
    · rw [threadStep_start hcallback] at h
      split at h <;> cases h
      exact ⟨rfl, fun irp k => hcallback _ irp k⟩
  | check e' =>
    simp only [threadStep] at h
    split at h <;> cases h <;> exact hserves
  | lock e' =>
    cases h
    exact hserves
  | checked e' permissive =>
    obtain ⟨rfl, hother⟩ := hserves
    rcases e'.ioctl_or_callback with ⟨code, irp, k, rfl⟩ | hcallback
    · cases h
      exact ⟨code, irp, k, rfl, fun hcode => hother irp k (hcode ▸ rfl)⟩
    · rw [threadStep_checked hcallback] at h
      split at h <;> cases h
  | reload irp k q =>
    simp only [threadStep] at h
    split at h
    · cases h
      exact hserves
    · split at h <;> cases h
      exact hserves
  | taken irp k found =>
    obtain rfl := hserves
    cases h
    exact beforeCompare_serves _ _
  | compare irp k nonce computed =>
    obtain rfl := hserves
    cases h
    exact ⟨rfl, fun s hs => afterCompare_apart happ hs⟩
  | take irp k | expires irp permissive | counted irp permissive expires | issue irp nonce now =>
    cases h
    exact hserves
  | heartbeat irp permissive expires count | beat irp k | issued irp nonce | leave irp k x => cases h

/-- What a callback lets through does not look like a denial. -/
theorem granted_not_denies (hspoken : e.Unspoken) (he : ∀ code irp k, e ≠ .ioctl code irp k) :
    e.granted.denies e = false := by
  cases e with
  | ioctl code irp k => exact absurd rfl (he code irp k)
  | process info now =>
    cases info with
    | none => rfl
    | some i => simpa [Event.granted, Answer.denies] using hspoken i rfl
  | processHandle info now => simp [Event.granted, Answer.denies]
  | _ => rfl

theorem refused_denies (hrefusable : e.refusable t = true) (he : ∀ code irp k, e ≠ .ioctl code irp k) :
    e.refused.denies e = true := by
  cases e with
  | ioctl code irp k => exact absurd rfl (he code irp k)
  | processHandle info now =>
    simp only [Event.refusable, Bool.and_eq_true, bne_iff_ne] at hrefusable
    simpa [Event.refused, Answer.denies] using stripped_ne hrefusable.2
  | _ => rfl

theorem unlock_denies {irp : Irp} {k : Kernel} {r : NTSTATUS × Irp} :
    (Answer.ioctl r).denies (.ioctl lgIoctlUnlock irp k) = (r.1 == statusAccessDenied || r.1 == statusTimeout) := by
  simp [Answer.denies]

theorem request_not_denies {a : Answer} (he : ∃ code irp k, e = .ioctl code irp k ∧ code ≠ lgIoctlUnlock) :
    a.denies e = false := by
  obtain ⟨code, irp, k, rfl, hcode⟩ := he
  cases a <;> simp [Answer.denies, hcode]

theorem requestStart_not_denies {code : ULONG} {irp : Irp} {k : Kernel} {a : Answer}
    (h : requestStart code irp k = .inr a) : a.denies (.ioctl code irp k) = false := by
  by_cases hcode : code = lgIoctlUnlock
  · subst hcode
    have hget : lgIoctlUnlock ≠ lgIoctlGetNonce := by decide
    simp only [requestStart, if_neg hget, if_true] at h
    split at h <;> cases h
    rw [unlock_denies]
    simp [statusBufferTooSmall, statusAccessDenied, statusTimeout]
  · exact request_not_denies ⟨code, irp, k, rfl, hcode⟩

/-- **What one step does to the counter**: the step that returns a denial counts it, no other does. -/
theorem threadStep_count (hspoken : e.Unspoken) (hserves : p.Serves e) :
    (∀ p' d', threadStep hmac t p d = (.inl p', d') → d'.gTamperCount = d.gTamperCount) ∧
    ∀ a d', threadStep hmac t p d = (.inr a, d') →
      d'.gTamperCount = d.gTamperCount + if a.denies e then 1 else 0 := by
  refine ⟨fun p' d' h => ?_, fun a d' h => ?_⟩
  · cases p with
    | start e' => cases e' <;> simp only [threadStep, Prod.mk.injEq] at h <;> rw [← h.2]
    | checked e' permissive =>
      rcases e'.ioctl_or_callback with ⟨code, irp, k, rfl⟩ | hcallback
      · cases h
        rfl
      · rw [threadStep_checked hcallback] at h
        split at h <;> cases h
    | leave irp k x => cases h
    | _ =>
      simp only [threadStep, Prod.mk.injEq] at h
      rw [← h.2]
  · cases p with
    | start e' =>
      obtain rfl := hserves
      rcases e'.ioctl_or_callback with ⟨code, irp, k, rfl⟩ | hcallback
      · simp only [threadStep, Prod.mk.injEq] at h
        rw [← h.2, requestStart_not_denies h.1]
        simp
      · rw [threadStep_start hcallback] at h
        split at h <;> cases h
        rw [granted_not_denies hspoken hcallback]
        simp
    | checked e' permissive =>
      obtain ⟨rfl, -⟩ := hserves
      rcases e'.ioctl_or_callback with ⟨code, irp, k, rfl⟩ | hcallback
      · cases h
      rw [threadStep_checked hcallback] at h
      split at h
      · cases h
        rw [granted_not_denies hspoken hcallback]
        simp
      · rename_i hrefused
        cases h
        have hrefusable : e'.refusable t = true := by
          cases hr : e'.refusable t with
          | true => rfl
          | false => simp [hr] at hrefused
        rw [refused_denies hrefusable hcallback, if_pos rfl]
        rfl
    | leave irp k x =>
      obtain ⟨rfl, hx⟩ := hserves
      cases h
      rw [unlock_denies]
      by_cases hrecorded : x.Recorded
      · rw [(unlockFinish_tamper irp k x).1 hrecorded, if_pos ((unlockFinish_denies hx irp k d).2 hrecorded)]
      · rw [(unlockFinish_tamper irp k x).2 hrecorded, if_neg fun hd => hrecorded ((unlockFinish_denies hx irp k d).1 hd)]
        simp
    | heartbeat irp permissive expires count | beat irp k | issued irp nonce =>
      cases h
      rw [request_not_denies hserves]
      simp
    | reload irp k q =>
      simp only [threadStep, Prod.mk.injEq] at h
      rw [← h.2, request_not_denies hserves]
      simp
    | check e' =>
      simp only [threadStep] at h
      split at h <;> cases h
    | lock e' | take irp k | taken irp k found | compare irp k nonce computed | expires irp permissive
      | counted irp permissive expires | issue irp nonce now => cases h

end

section
variable {hmac : Hmac} {t : CaseTables} {ι : Type} [DecidableEq ι] {op : ι → Event}

/-- Every phase is one of its event's own. -/
theorem threads_serve (happ : ∀ i, (op i).BcryptApart) (boot : RecoveryReads) (sch : List ι) (i : ι) {p : ThreadPhase}
    (hp : (after (threads hmac t) op (driverEntry boot) sch).phase i = .inl p) : p.Serves (op i) := by
  induction sch using List.reverseRecOn generalizing p with
  | nil =>
    cases hp
    exact rfl
  | append_singleton sch j ih =>
    rw [after_snoc] at hp
    by_cases hij : i = j
    · subst hij
      cases hbefore : (after (threads hmac t) op (driverEntry boot) sch).phase i with
      | inr r =>
        rw [advance_done hbefore, hbefore] at hp
        cases hp
      | inl q =>
        simp only [advance_running hbefore, Function.update_self] at hp
        exact threadStep_serves (happ i) (ih hbefore) (Prod.ext hp rfl)
    · rw [advance_other hij] at hp
      exact ih hp

/-- **Tamper accounting under every interleaving.** The counter is the number of the calls that have
returned with a denial, modulo `2^32`: no record is lost and none is made twice. -/
theorem threads_count_denials (hmac : Hmac) (t : CaseTables) {op : ι → Event} (happ : ∀ i, (op i).BcryptApart)
    (hspoken : ∀ i, (op i).Unspoken) (boot : RecoveryReads) (sch : List ι) :
    (after (threads hmac t) op (driverEntry boot) sch).shared.gTamperCount =
      UInt32.ofNat ((returns (threads hmac t) op (driverEntry boot) sch).countP fun r => r.2.denies (op r.1)) := by
  induction sch using List.reverseRecOn with
  | nil => rfl
  | append_singleton sch i ih =>
    rw [returns_snoc, after_snoc, List.countP_append]
    rcases advance_cases (threads hmac t) op (after (threads hmac t) op (driverEntry boot) sch) i with
      ⟨_, -, hr, ha⟩ | ⟨p, p', d', hp, hstep, hr, ha⟩ | ⟨p, a, d', hp, hstep, hr, ha⟩
    · rw [hr, ha, ih]
      rfl
    · rw [hr, ha]
      exact ((threadStep_count (hspoken i) (threads_serve happ boot sch i hp)).1 p' d' hstep).trans ih
    · rw [hr, ha, Option.toList_some, List.countP_singleton, UInt32.ofNat_add, ← ih]
      rw [show d'.gTamperCount = _ from
        (threadStep_count (hspoken i) (threads_serve happ boot sch i hp)).2 a d' hstep]
      split <;> rfl

end

theorem threads_count_denials_overlapping :
    (after (threads Worked.hmac .ascii) Worked.overlapping (driverEntry Worked.reads) [2, 1, 2, 1, 1, 2, 1, 2]).shared.gTamperCount =
      UInt32.ofNat ((returns (threads Worked.hmac .ascii) Worked.overlapping (driverEntry Worked.reads)
        [2, 1, 2, 1, 1, 2, 1, 2]).countP fun r => r.2.denies (Worked.overlapping r.1)) := by
  refine threads_count_denials Worked.hmac .ascii (fun i => ?_) (fun i => ?_) Worked.reads _
  · match i with
    | 0 | 1 | 2 => simp [Worked.overlapping, Event.BcryptApart, HmacCalls.Apart, Worked.kernel, Worked.hmacCalls]
  · match i with
    | 0 | 1 | 2 => simp [Worked.overlapping, Event.Unspoken]

end Lockguard
