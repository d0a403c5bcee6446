import Lockguard.ClockedWindow
/-!
# `STATUS` under concurrent calls (`lockguard.c:373-387`)

The flag of a reply comes from a check under the lock and its expiry from a later read without it
(`:380-382`); `LgIsPermissive` itself reads both under `gPermissiveLock`. `Untorn` is the section that
does not come between the two reads of a reply in a way that shows. Without others the replies are
consistent (`status_consistent`); an unlock between them shows a closed window with an expiry ahead
(`status_torn`).
-/
namespace Lockguard

open Interleave Runs

/-- What a reply says of the window agrees: an open window ends at least the grace after its check, a
closed one has no end. -/
def Consistent (k : Check) (expires : Int) : Prop :=
  (k.answer = true → ∃ now, k.reading = some now ∧ now.quadPart + ticks lgPermissiveGraceSeconds ≤ expires) ∧
  (k.answer = false → expires = 0)

section
variable {ι : Type} [DecidableEq ι]

abbrev ClockedConfig (ι : Type) := Config Clocked ClockedPhase ClockedResult ι

/-- The calls from a driver just loaded, the clock at `t₀`. -/
abbrev afterClocked (op : ι → ClockedOp) (t₀ : SysTime) (sch : List ι) : ClockedConfig ι :=
  after clocked op ⟨.boot, t₀⟩ sch

omit [DecidableEq ι] in
/-- If call `j` is about to run its section, no `STATUS` that stands between its two reads would show
it: none has found the window closed and sees it entered, none has found it open and sees it closed
or its expiry drawn in. The readings stay below the 64-bit limit. -/
structure Untorn (op : ι → ClockedOp) (c : ClockedConfig ι) (j : ι) : Prop where
  enter : ∀ now, c.phase j = .inl (.lock now) → op j = .enter →
    now.quadPart + ticks lgUnlockWindowSeconds < 2 ^ 63 ∧
    ∀ i k, c.phase i = .inl (.expires k) → k.answer = true ∧ ∀ t, k.reading = some t →
      t.quadPart + ticks lgPermissiveGraceSeconds ≤ now.quadPart + ticks lgUnlockWindowSeconds
  check : ∀ now, c.phase j = .inl (.lock now) → op j ≠ .enter →
    now.quadPart + ticks lgPermissiveGraceSeconds < 2 ^ 63 ∧
    ∀ i k, c.phase i = .inl (.expires k) → k.answer = true → c.shared.window.gPermissive = true →
      now.quadPart < c.shared.window.gPermissiveExpires

omit [DecidableEq ι] in
/-- A closed window has no expiry, and the expiry there is agrees with what every `STATUS` on its way
has found, and every reply. -/
structure StatusInv (c : ClockedConfig ι) : Prop where
  closed : c.shared.window.gPermissive = false → c.shared.window.gPermissiveExpires = 0
  waiting : ∀ i k, c.phase i = .inl (.expires k) → Consistent k c.shared.window.gPermissiveExpires
  replied : ∀ i k e, c.phase i = .inr (.status k e) → Consistent k e

variable {op : ι → ClockedOp} {c : ClockedConfig ι} {j : ι}

/-- A step that keeps the expiry right for those on their way, and goes on or answers rightly. -/
theorem statusInv_update (h : StatusInv c) {s : Clocked} {n : ClockedPhase ⊕ ClockedResult}
    (hclosed : s.window.gPermissive = false → s.window.gPermissiveExpires = 0)
    (hwaiting : ∀ i k, c.phase i = .inl (.expires k) → Consistent k s.window.gPermissiveExpires)
    (hown : ∀ k, n = .inl (.expires k) → Consistent k s.window.gPermissiveExpires)
    (hreply : ∀ k e, n = .inr (.status k e) → Consistent k e) :
    StatusInv (⟨s, Function.update c.phase j n⟩ : ClockedConfig ι) := by
  refine ⟨hclosed, fun i k hi => ?_, fun i k e hi => ?_⟩
  · by_cases hij : i = j
    · subst hij
      simp only [Function.update_self] at hi
      exact hown k hi
    · simp only [Function.update_of_ne hij] at hi
      exact hwaiting i k hi
  · by_cases hij : i = j
    · subst hij
      simp only [Function.update_self] at hi
      exact hreply k e hi
    · simp only [Function.update_of_ne hij] at hi
      exact h.replied i k e hi

theorem answered_waits {o : ClockedOp} {k k' : Check} (h : o.answered k = .inl (.expires k')) : k' = k := by
  unfold ClockedOp.answered at h
  split at h
  · cases h; rfl
  · cases h

theorem answered_no_reply {o : ClockedOp} {k k' : Check} {e : Int} : o.answered k ≠ .inr (.status k' e) := by
  unfold ClockedOp.answered
  split <;> simp

theorem statusInv_step (h : StatusInv c) (hu : Untorn op c j) : StatusInv (advance clocked op c j) := by
  cases hp : c.phase j with
  | inr r => rwa [advance_done hp]
  | inl p =>
    rw [advance_running hp]
    show StatusInv ⟨(clockedStep (op j) p c.shared).2, Function.update c.phase j (clockedStep (op j) p c.shared).1⟩
    have hcase := clockedStep_cases (op j) p c.shared
    generalize clockedStep (op j) p c.shared = x at hcase
    cases hcase with
    | goOn => exact statusInv_update h h.closed h.waiting (fun k hk => by cases hk) fun k e he => by cases he
    | reading => exact statusInv_update h h.closed h.waiting (fun k hk => by cases hk) fun k e he => by cases he
    | tick p now => exact statusInv_update h h.closed h.waiting (fun k hk => by cases hk) fun k e he => by cases he
    | reject hclosed =>
      refine statusInv_update h h.closed h.waiting (fun k hk => ?_) fun k e he => absurd he answered_no_reply
      rw [answered_waits hk]
      exact ⟨(fun hf => by cases hf), fun _ => h.closed hclosed⟩
    | enter now ho =>
      obtain ⟨hlimit, hwait⟩ := hu.enter now hp ho
      rw [lgEnterPermissiveWindow_eq hlimit]
      refine statusInv_update h (fun hf => by cases hf) (fun i k hi => ?_) (fun k hk => by cases hk)
        fun k e he => by cases he
      obtain ⟨hans, hle⟩ := hwait i k hi
      obtain ⟨t, ht, -⟩ := (h.waiting i k hi).1 hans
      exact ⟨fun _ => ⟨t, ht, hle t ht⟩, fun hf => by cases hans.symm.trans hf⟩
    | check now ho =>
      obtain ⟨hlimit, hwait⟩ := hu.check now hp ho
      have hgrace := long64_later (by decide) hlimit
      have hno : ∀ {k k' : Check} {e : Int}, (op j).answered k = .inr (.status k' e) → Consistent k' e :=
        fun he => absurd he answered_no_reply
      rcases permissiveSection_cases now c.shared.window with ⟨hclosed, hs⟩ | ⟨hopen, hlt, hs⟩ | ⟨hopen, hle, hs⟩
      · rw [hs]
        refine statusInv_update h h.closed h.waiting (fun k hk => ?_) fun k e he => hno he
        rw [answered_waits hk]
        exact ⟨(fun hf => by cases hf), fun _ => h.closed hclosed⟩
      · rw [hs, hgrace]
        refine statusInv_update h (fun hf => by cases hf) (fun i k hi => ?_) (fun k hk => ?_) fun k e he => hno he
        · have hk := h.waiting i k hi
          refine ⟨fun hans => ?_, fun hans => ?_⟩
          · obtain ⟨t, ht, hle⟩ := hk.1 hans
            exact ⟨t, ht, Int.le_trans hle (Int.le_max_left _ _)⟩
          · -- a window that had no expiry would not be open
            have hnonneg := now.nonneg
            rw [hk.2 hans] at hlt
            omega
        · rw [answered_waits hk]
          exact ⟨fun _ => ⟨now, rfl, Int.le_max_right _ _⟩, fun hf => by cases hf⟩
      · rw [hs]
        refine statusInv_update h (fun _ => rfl) (fun i k hi => ?_) (fun k hk => ?_) fun k e he => hno he
        · refine ⟨fun hans => ?_, fun _ => rfl⟩
          have hlt := hwait i k hi hans hopen
          omega
        · rw [answered_waits hk]
          exact ⟨(fun hf => by cases hf), fun _ => rfl⟩
    | reply k =>
      refine statusInv_update h h.closed h.waiting (fun k' hk => by cases hk) fun k' e he => ?_
      cases he
      exact h.waiting j k hp

/-- **`STATUS` replies are consistent when no section comes between their two reads** in a way that
shows: in every interleaving of unlocks, checks and `STATUS` requests whose steps are all so. -/
theorem status_consistent (op : ι → ClockedOp) (t₀ : SysTime) (sch : List ι)
    (h : ∀ pre j post, sch = pre ++ j :: post → Untorn op (afterClocked op t₀ pre) j) {i : ι} {k : Check} {e : Int}
    (hi : (afterClocked op t₀ sch).phase i = .inr (.status k e)) : Consistent k e := by
  have hinv : StatusInv (afterClocked op t₀ sch) := by
    refine after_inv ?_ (fun c j hc hj => statusInv_step hc hj) h sch [] (List.append_nil sch).symm
    refine ⟨fun _ => rfl, fun i k hi => ?_, fun i k e hi => ?_⟩
    · cases ho : op i <;> simp [init, clocked, ho] at hi
    · simp [init] at hi
  exact hinv.replied i k e hi

end

namespace Worked

/-- A `STATUS` and an unlock. -/
def statusCalls : Bool → ClockedOp
  | false => .status
  | true => .enter

end Worked

/-- With no `STATUS` between its two reads, all a section needs is a reading below the limit. -/
theorem untorn_of_none {ι : Type} {op : ι → ClockedOp} {c : ClockedConfig ι} {j : ι}
    (hnone : ∀ i k, c.phase i ≠ .inl (.expires k)) (hlimit : ∀ now, c.phase j = .inl (.lock now) →
      now.quadPart + ticks lgUnlockWindowSeconds < 2 ^ 63) : Untorn op c j := by
  refine ⟨fun now hp _ => ⟨hlimit now hp, fun i k hi => absurd hi (hnone i k)⟩, fun now hp _ =>
    ⟨?_, fun i k hi => absurd hi (hnone i k)⟩⟩
  have := hlimit now hp
  simp only [ticks, lgPermissiveGraceSeconds, lgUnlockWindowSeconds] at *
  omega

/-- The unlock first, then the `STATUS`. -/
theorem status_consistent_apart : ∃ k e, (afterClocked Worked.statusCalls (Worked.time 0)
    [true, true, false, false, false, false]).phase false = .inr (.status k e) ∧ Consistent k e := by
  have hreply : (afterClocked Worked.statusCalls (Worked.time 0) [true, true, false, false, false, false]).phase false =
      .inr (.status ⟨true, some (Worked.time 0)⟩ (Worked.time 6000).quadPart) := by decide +kernel
  refine ⟨_, _, hreply, status_consistent Worked.statusCalls (Worked.time 0) _ ?_ hreply⟩
  refine splits_cons ?_ (splits_cons ?_ (splits_cons ?_ (splits_cons ?_ (splits_cons ?_ (splits_cons ?_ splits_nil)))))
  · exact untorn_of_none (fun i k hi => by cases i <;> cases hi) fun now hp => by cases hp
  · exact untorn_of_none (fun i k hi => by cases i <;> cases hi) fun now hp => by cases hp; decide
  · exact untorn_of_none (fun i k hi => by cases i <;> cases hi) fun now hp => by cases hp
  · exact untorn_of_none (fun i k hi => by cases i <;> cases hi) fun now hp => by cases hp
  · exact untorn_of_none (fun i k hi => by cases i <;> cases hi) fun now hp => by cases hp; decide
  · constructor
    · intro now hp
      cases hp
    · intro now hp
      cases hp

/-- **A torn reply.** The `STATUS` finds the window closed, the unlock opens it, and the `STATUS` reads
the expiry: closed, for ten minutes to come. -/
theorem status_torn : ∃ k e, (afterClocked Worked.statusCalls (Worked.time 0) [false, true, true, false]).phase false =
    .inr (.status k e) ∧ ¬ Consistent k e := by
  refine ⟨⟨false, none⟩, (Worked.time 6000).quadPart, by decide +kernel, fun h => ?_⟩
  exact absurd (h.2 rfl) (by decide)

end Lockguard
