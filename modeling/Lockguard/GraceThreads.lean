import Lockguard.StatusThreads
/-!
# The grace of a check under concurrent calls (`lockguard.c:70-118`, `lockguard.h:45-51`)

A check that answers TRUE at `t` leaves the expiry at least `LG_PERMISSIVE_GRACE_SECONDS` after `t`, and
no check can close the window before it. But `LgEnterPermissiveWindow` stores its own expiry whatever
stands there, worked out from a reading that may be old. `Timely` is the entry that does not draw the
expiry in below a grace still running; when all are, the grace is kept (`grace_kept`), and one entry
delayed for ten minutes breaks it (`grace_broken`).
-/
namespace Lockguard

open Interleave Runs

/-- What the `LgIsPermissive` of a call has answered. -/
def checkOf : ClockedPhase ⊕ ClockedResult → Option Check
  | .inl (.expires k) => some k
  | .inr (.asked k) => some k
  | .inr (.status k _) => some k
  | _ => none

section
variable {ι : Type} [DecidableEq ι]

omit [DecidableEq ι] in
/-- The `LgIsPermissive` of call `i` has returned TRUE, with the reading `t`. -/
def GrantedAt (c : ClockedConfig ι) (i : ι) (t : SysTime) : Prop := checkOf (c.phase i) = some ⟨true, some t⟩

omit [DecidableEq ι] in
/-- The grace of a check with the reading `t` has not run out. -/
def InGrace (c : ClockedConfig ι) (t : SysTime) : Prop :=
  c.shared.clock.quadPart < t.quadPart + ticks lgPermissiveGraceSeconds

/-- The next step of call `j` is the fast reject or the section that makes its `LgIsPermissive` answer FALSE. -/
def AnswersFalse (op : ι → ClockedOp) (c : ClockedConfig ι) (j : ι) : Prop :=
  checkOf (c.phase j) = none ∧ ∃ r, checkOf ((advance clocked op c j).phase j) = some ⟨false, r⟩

/-- In no state of the interleaving does a check answer FALSE within the grace of one that has answered TRUE. -/
def GraceKept (op : ι → ClockedOp) (t₀ : SysTime) (sch : List ι) : Prop :=
  ∀ pre j post, sch = pre ++ j :: post → AnswersFalse op (afterClocked op t₀ pre) j →
    ∀ i t, GrantedAt (afterClocked op t₀ pre) i t → ¬ InGrace (afterClocked op t₀ pre) t

omit [DecidableEq ι] in
/-- If call `j` is about to enter the window, its reading is not so old that the new expiry falls into
a grace still running. The readings stay below the 64-bit limit. -/
structure Timely (op : ι → ClockedOp) (c : ClockedConfig ι) (j : ι) : Prop where
  enter : ∀ now, c.phase j = .inl (.lock now) → op j = .enter →
    now.quadPart + ticks lgUnlockWindowSeconds < 2 ^ 63 ∧ ∀ i t, GrantedAt c i t → InGrace c t →
      t.quadPart + ticks lgPermissiveGraceSeconds ≤ now.quadPart + ticks lgUnlockWindowSeconds
  check : ∀ now, c.phase j = .inl (.lock now) → op j ≠ .enter →
    now.quadPart + ticks lgPermissiveGraceSeconds < 2 ^ 63

omit [DecidableEq ι] in
/-- No reading is ahead of the clock, and the window outlasts every grace still running. -/
structure GraceInv (c : ClockedConfig ι) : Prop where
  reading : ∀ i now, c.phase i = .inl (.lock now) → now.quadPart ≤ c.shared.clock.quadPart
  leased : ∀ i t, GrantedAt c i t → InGrace c t → c.shared.window.gPermissive = true ∧
    t.quadPart + ticks lgPermissiveGraceSeconds ≤ c.shared.window.gPermissiveExpires

variable {op : ι → ClockedOp} {c : ClockedConfig ι} {j : ι}

/-- A step that does not set the clock back keeps the invariant, if it keeps the window open past every
grace still running, its own included. -/
theorem graceInv_update (h : GraceInv c) {s : Clocked} {n : ClockedPhase ⊕ ClockedResult}
    (hclock : c.shared.clock.quadPart ≤ s.clock.quadPart)
    (hreading : ∀ now, n = .inl (.lock now) → now.quadPart ≤ s.clock.quadPart)
    (hleased : ∀ t, (∃ i, GrantedAt c i t ∧ InGrace c t) → s.window.gPermissive = true ∧
      t.quadPart + ticks lgPermissiveGraceSeconds ≤ s.window.gPermissiveExpires)
    (hown : ∀ t, checkOf n = some ⟨true, some t⟩ → s.clock.quadPart < t.quadPart + ticks lgPermissiveGraceSeconds →
      s.window.gPermissive = true ∧ t.quadPart + ticks lgPermissiveGraceSeconds ≤ s.window.gPermissiveExpires) :
    GraceInv (⟨s, Function.update c.phase j n⟩ : ClockedConfig ι) := by
  refine ⟨fun i now hi => ?_, fun i t hi hgrace => ?_⟩
  · by_cases hij : i = j
    · subst hij
      simp only [Function.update_self] at hi
      exact hreading now hi
    · simp only [Function.update_of_ne hij] at hi
      exact Int.le_trans (h.reading i now hi) hclock
  · by_cases hij : i = j
    · subst hij
      simp only [GrantedAt, Function.update_self] at hi
      exact hown t hi hgrace
    · simp only [GrantedAt, Function.update_of_ne hij] at hi
      refine hleased t ⟨i, hi, ?_⟩
      simp only [InGrace] at hgrace ⊢
      omega

theorem checkOf_answered (o : ClockedOp) (k : Check) : checkOf (o.answered k) = some k := by
  unfold ClockedOp.answered
  split <;> rfl

theorem answered_no_lock {o : ClockedOp} {k : Check} {now : SysTime} : o.answered k ≠ .inl (.lock now) := by
  unfold ClockedOp.answered
  split <;> simp

omit [DecidableEq ι] in
/-- A reading that is not ahead of the clock does not reach the expiry of a window within a grace. -/
theorem leased_not_expired (h : GraceInv c) {now : SysTime} (hp : c.phase j = .inl (.lock now)) {i : ι} {t : SysTime}
    (hi : GrantedAt c i t) (hgrace : InGrace c t) : now.quadPart < c.shared.window.gPermissiveExpires := by
  have hnow := h.reading j now hp
  have hle := (h.leased i t hi hgrace).2
  simp only [InGrace] at hgrace
  omega

theorem graceInv_step (h : GraceInv c) (hu : Timely op c j) : GraceInv (advance clocked op c j) := by
  cases hp : c.phase j with
  | inr r => rwa [advance_done hp]
  | inl p =>
    rw [advance_running hp]
    show GraceInv ⟨(clockedStep (op j) p c.shared).2, Function.update c.phase j (clockedStep (op j) p c.shared).1⟩
    have hsame : ∀ t, (∃ i, GrantedAt c i t ∧ InGrace c t) → c.shared.window.gPermissive = true ∧
        t.quadPart + ticks lgPermissiveGraceSeconds ≤ c.shared.window.gPermissiveExpires :=
      fun t ⟨i, hi, hgrace⟩ => h.leased i t hi hgrace
    have hcase := clockedStep_cases (op j) p c.shared
    generalize clockedStep (op j) p c.shared = x at hcase
    cases hcase with
    | goOn =>
      refine graceInv_update h (Int.le_refl _) (fun now hn => ?_) hsame fun t ht hgrace => ?_
      · cases hn
      · cases ht
    | reading =>
      refine graceInv_update h (Int.le_refl _) (fun now hn => ?_) hsame fun t ht hgrace => ?_
      · cases hn
        exact Int.le_refl _
      · cases ht
    | tick p now =>
      refine graceInv_update h (SysTime.le_later _ _) (fun now hn => ?_) hsame fun t ht hgrace => ?_
      · cases hn
      · cases ht
    | reject hclosed =>
      refine graceInv_update h (Int.le_refl _) (fun now hn => absurd hn answered_no_lock) hsame fun t ht hgrace => ?_
      rw [checkOf_answered] at ht
      cases ht
    | enter now ho =>
      obtain ⟨hlimit, hwait⟩ := hu.enter now hp ho
      rw [lgEnterPermissiveWindow_eq hlimit]
      refine graceInv_update h (Int.le_refl _) (fun now hn => ?_) (fun t ⟨i, hi, hgrace⟩ => ⟨rfl, ?_⟩)
        fun t ht hgrace => ?_
      · cases hn
      · exact hwait i t hi hgrace
      · cases ht
    | check now ho =>
      have hlimit := hu.check now hp ho
      have hgrace := long64_later (by decide) hlimit
      rcases permissiveSection_cases now c.shared.window with ⟨hclosed, hs⟩ | ⟨hopen, hlt, hs⟩ | ⟨hopen, hle, hs⟩
      · rw [hs]
        refine graceInv_update h (Int.le_refl _) (fun _ hn => absurd hn answered_no_lock) hsame fun t ht _ => ?_
        rw [checkOf_answered] at ht
        cases ht
      · rw [hs, hgrace]
        refine graceInv_update h (Int.le_refl _) (fun _ hn => absurd hn answered_no_lock) (fun t ht => ⟨rfl, ?_⟩)
          fun t ht _ => ⟨rfl, ?_⟩
        · exact Int.le_trans (hsame t ht).2 (Int.le_max_left _ _)
        · rw [checkOf_answered] at ht
          cases ht
          exact Int.le_max_right _ _
      · -- a window within a grace has not expired
        rw [hs]
        refine graceInv_update h (Int.le_refl _) (fun _ hn => absurd hn answered_no_lock)
          (fun t ⟨i, hi, hin⟩ => ?_) fun t ht _ => ?_
        · have hlt := leased_not_expired h hp hi hin
          omega
        · rw [checkOf_answered] at ht
          cases ht
    | reply k =>
      refine graceInv_update h (Int.le_refl _) (fun now hn => ?_) hsame fun t ht hgrace => ?_
      · cases hn
      · exact hsame t ⟨j, by simpa [GrantedAt, hp, checkOf] using ht, hgrace⟩

/-- **What keeps the grace now**: no next step answers FALSE within a grace still running. -/
theorem graceInv_keeps (h : GraceInv c) (hj : AnswersFalse op c j) {i : ι} {t : SysTime} (hi : GrantedAt c i t) :
    ¬ InGrace c t := by
  intro hgrace
  obtain ⟨hopen, hle⟩ := h.leased i t hi hgrace
  obtain ⟨hnone, r, hanswer⟩ := hj
  cases hp : c.phase j with
  | inr x =>
    rw [advance_done hp, hnone] at hanswer
    cases hanswer
  | inl p =>
    rw [advance_running hp] at hanswer
    simp only [Function.update_self] at hanswer
    have hcase := clockedStep_cases (op j) p c.shared
    change checkOf (clockedStep (op j) p c.shared).1 = _ at hanswer
    generalize clockedStep (op j) p c.shared = x at hcase hanswer
    cases hcase with
    | goOn | reading | tick | enter => cases hanswer
    | reject hclosed => cases hopen.symm.trans hclosed
    | check now ho =>
      rw [checkOf_answered] at hanswer
      have hlt := leased_not_expired h hp hi hgrace
      rcases permissiveSection_cases now c.shared.window with ⟨hclosed, -⟩ | ⟨-, -, hs⟩ | ⟨-, hle', -⟩
      · cases hopen.symm.trans hclosed
      · rw [hs] at hanswer
        cases hanswer
      · omega
    | reply k =>
      rw [hp] at hnone
      cases hnone

/-- **The grace is kept when entries are timely.** In every interleaving of checks, `STATUS` requests
and entries on a clock that never goes back, if no entry draws the expiry into a grace still running. -/
theorem grace_kept (op : ι → ClockedOp) (t₀ : SysTime) (sch : List ι)
    (h : ∀ pre j post, sch = pre ++ j :: post → Timely op (afterClocked op t₀ pre) j) : GraceKept op t₀ sch := by
  have hinv : ∀ pre post, sch = pre ++ post → GraceInv (afterClocked op t₀ pre) := by
    refine after_inv ?_ (fun c j hc hj => graceInv_step hc hj) h
    refine ⟨fun i now hi => ?_, fun i t hi _ => ?_⟩
    · cases ho : op i <;> simp [init, clocked, ho] at hi
    · cases ho : op i <;> simp [GrantedAt, init, clocked, ho, checkOf] at hi
  intro pre j post hsplit hj i t hi
  exact graceInv_keeps (hinv pre (j :: post) hsplit) hj hi

end

namespace Worked

/-- Two unlocks, two checks, and the clock at 599 s and at 600 s. -/
inductive GraceCall where
  | opener
  | late
  | nearEnd
  | holder
  | atEnd
  | other
deriving DecidableEq

def graceCalls : GraceCall → ClockedOp
  | .opener | .late => .enter
  | .nearEnd => .tick (time 5990)
  | .holder | .other => .ask
  | .atEnd => .tick (time 6000)

end Worked

/-- An unlock, and two checks a second apart at the end of its window. -/
theorem grace_kept_once : GraceKept Worked.graceCalls (Worked.time 0)
    [.opener, .opener, .nearEnd, .holder, .holder, .holder, .atEnd, .other, .other, .other] := by
  refine grace_kept _ _ _ ?_
  have hquiet : ∀ {c : ClockedConfig Worked.GraceCall} {j : Worked.GraceCall},
      (∀ now, c.phase j ≠ .inl (.lock now)) → Timely Worked.graceCalls c j :=
    fun hj => ⟨fun now hp => absurd hp (hj now), fun now hp => absurd hp (hj now)⟩
  refine splits_cons ?_ (splits_cons ?_ (splits_cons ?_ (splits_cons ?_ (splits_cons ?_ (splits_cons ?_
    (splits_cons ?_ (splits_cons ?_ (splits_cons ?_ (splits_cons ?_ splits_nil)))))))))
  · exact hquiet fun now hp => by cases hp
  · refine ⟨fun now hp _ => ⟨?_, fun i t hi => ?_⟩, fun now _ ho => absurd rfl ho⟩
    · cases hp
      decide
    · cases i <;> cases hi
  · exact hquiet fun now hp => by cases hp
  · exact hquiet fun now hp => by cases hp
  · exact hquiet fun now hp => by cases hp
  · refine ⟨(fun now _ ho => by cases ho), fun now hp _ => ?_⟩
    cases hp
    decide
  · exact hquiet fun now hp => by cases hp
  · exact hquiet fun now hp => by cases hp
  · exact hquiet fun now hp => by cases hp
  · refine ⟨(fun now _ ho => by cases ho), fun now hp _ => ?_⟩
    cases hp
    decide

/-- **A delayed entry breaks the grace.** The second unlock read the clock when the first one did, and
stores its expiry after a check at 599 s has been promised 601 s; at 600 s a check answers FALSE. -/
theorem grace_broken : ¬ GraceKept Worked.graceCalls (Worked.time 0)
    [.opener, .opener, .late, .nearEnd, .holder, .holder, .holder, .late, .atEnd, .other, .other, .other] := by
  intro h
  have hkept := h [.opener, .opener, .late, .nearEnd, .holder, .holder, .holder, .late, .atEnd, .other, .other] .other
    [] rfl ⟨by decide +kernel, some (Worked.time 6000), by decide +kernel⟩ .holder (Worked.time 5990)
    (show _ = _ by decide +kernel)
  exact hkept (show _ < _ by decide +kernel)

end Lockguard
