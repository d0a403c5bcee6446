import Lockguard.ReloadThreads
import Lockguard.Recover
/-!
# The rate limit on reload attempts (`lockguard.c:36-66`)

A call goes on to load when its compare-exchange finds in `gVerifierLastRetry` the value it has read
there, and then its reading takes that value's place. The readings that stand there one after the
other are thus those of the attempts, and each was at least ten seconds past the one it replaced,
whatever the clock did in between (`spacingInv_step`). A call that was due and did not attempt met a
reading other than the one it had read, which only an attempt leaves there.
-/
namespace Lockguard

open Interleave Runs

section
variable {ι : Type} [DecidableEq ι] (boot : RecoveryReads) (op : ι → ReloadCall)

/-- The call that goes on to `LgRecoveryLoadVerifier` in this turn. -/
def attempted (x : Turn (ReloadConfig ι) ι) : Option ι :=
  match x.before.phase x.event with
  | .inr _ => none
  | .inl p => if (reloadStep (op x.event) p x.before.shared).1 = .inl .openKey then some x.event else none

/-- The calls that go on to load while a schedule runs, oldest first. -/
def attemptsFrom (c : ReloadConfig ι) (sch : List ι) : List ι :=
  (turns (advance reloads op) c sch).filterMap (attempted op)

def loadAttempts (sch : List ι) : List ι := attemptsFrom op (init reloads op (driverEntry boot).recovery) sch

omit [DecidableEq ι] in
def readings (is : List ι) : List Int := is.map fun i => (op i).now.quadPart

/-- Each reading is at least ten seconds past all before it. -/
def Spaced (ts : List Int) : Prop := ts.Pairwise fun s t => s + lgVerifierRetryInterval100ns ≤ t

omit [DecidableEq ι] in
/-- What these attempts leave in `gVerifierLastRetry`. -/
def lastReading (is : List ι) : Int := (readings op is).getLast?.getD 0

/-- A call that finds itself due when it reads `gVerifierLastRetry` makes the attempt with its next step, or
loses its compare-exchange to the reading of a call that went on to load in between. -/
def NoneLost (sch : List ι) : Prop :=
  ∀ pre mid post i, sch = pre ++ i :: mid ++ i :: post → i ∉ mid →
    (afterReloads boot op pre).phase i = .inl .last → (afterReloads boot op pre).shared.ReloadDue (op i).now →
    loadAttempts boot op (pre ++ i :: mid ++ [i]) = loadAttempts boot op (pre ++ i :: mid) ++ [i] ∨
    (afterReloads boot op (pre ++ i :: mid ++ [i])).phase i = .inr none ∧
      ∃ j ∈ attemptsFrom op (afterReloads boot op pre) (i :: mid),
        (afterReloads boot op (pre ++ i :: mid)).shared.gVerifierLastRetry = (op j).now.quadPart

omit [DecidableEq ι] in
/-- The call has found the verifier not loaded, and neither attempted nor given up yet. -/
def Asks (c : ReloadConfig ι) (i : ι) : Prop :=
  c.phase i = .inl .clock ∨ c.phase i = .inl .last ∨ ∃ l, c.phase i = .inl (.exchange l)

/-- Once a call that has found the verifier not loaded is due, one attempt at least, its own or another
call's, begins before it is through. -/
def DueServed (sch : List ι) : Prop :=
  ∀ pre mid i, sch = pre ++ mid →
    ((afterReloads boot op pre).phase i = .inl .clock ∨ (afterReloads boot op pre).phase i = .inl .last) →
    (afterReloads boot op pre).shared.ReloadDue (op i).now → ¬ Asks (afterReloads boot op (pre ++ mid)) i →
    attemptsFrom op (afterReloads boot op pre) mid ≠ []

variable {boot op}

theorem attemptsFrom_append (c : ReloadConfig ι) (sch sch' : List ι) : attemptsFrom op c (sch ++ sch') =
    attemptsFrom op c sch ++ attemptsFrom op (final (advance reloads op) c sch) sch' := by
  rw [attemptsFrom, turns_append, List.filterMap_append, attemptsFrom, attemptsFrom]

theorem attemptsFrom_snoc (c : ReloadConfig ι) (sch : List ι) (i : ι) : attemptsFrom op c (sch ++ [i]) =
    attemptsFrom op c sch ++ (attempted op ⟨final (advance reloads op) c sch, i⟩).toList := by
  rw [attemptsFrom_append]
  cases hlast : attempted op ⟨final (advance reloads op) c sch, i⟩ with
  | none => simp [attemptsFrom, turns, hlast]
  | some j => simp [attemptsFrom, turns, hlast]

omit [DecidableEq ι] in
theorem lastReading_snoc (is : List ι) (i : ι) : lastReading op (is ++ [i]) = (op i).now.quadPart := by
  simp [lastReading, readings]

variable (op) in
omit [DecidableEq ι] in
theorem lastReading_cases (is : List ι) :
    (is = [] ∧ lastReading op is = 0) ∨ ∃ j ∈ is, lastReading op is = (op j).now.quadPart := by
  rcases List.eq_nil_or_concat is with rfl | ⟨is, j, rfl⟩
  · exact Or.inl ⟨rfl, rfl⟩
  · rw [List.concat_eq_append]
    exact Or.inr ⟨j, by simp, lastReading_snoc is j⟩

/-! ## One step -/

/-- An attempt under way leaves the time of the last attempt alone. -/
theorem attemptStep_retry {a : ReloadCall} {p : ReloadPhase} {r : Recovery} (ha : p.Attempting) :
    (reloadStep a p r).1 ≠ .inl .openKey ∧ (reloadStep a p r).2.gVerifierLastRetry = r.gVerifierLastRetry ∧
      ∀ l, (reloadStep a p r).1 = .inl (.exchange l) → l = r.gVerifierLastRetry ∧ r.ReloadDue a.now := by
  cases p with
  | check | clock | last | exchange last => exact absurd ha id
  | openKey => cases hopen : ntSuccess a.reads.openKey <;> simp [reloadStep, hopen]
  | readSalt => cases hsalt : lgReadRegBytes a.reads.installSalt lgSaltMaxLen <;> simp [reloadStep, hsalt]
  | readIterations => cases hiter : lgReadRegDword a.reads.iterations <;> simp [reloadStep, hiter]
  | readVerifier => cases hver : lgReadRegBytes a.reads.verifier lgVerifierLen <;> simp [reloadStep, hver]
  | writeVerifier verifier => by_cases hlen : verifier.length = lgVerifierLen <;> simp [reloadStep, hlen]
  | _ => simp [reloadStep]

/-- **What a step does to the time of the last attempt**: nothing, or it wins its compare-exchange. A
compare-exchange is due only for a call that has read that time and found itself due. -/
theorem reloadStep_retry {a : ReloadCall} {p : ReloadPhase} {r : Recovery} (hs : r.Stamped) :
    ((reloadStep a p r).1 ≠ .inl .openKey ∧ (reloadStep a p r).2.gVerifierLastRetry = r.gVerifierLastRetry ∧
      ∀ l, (reloadStep a p r).1 = .inl (.exchange l) → l = r.gVerifierLastRetry ∧ r.ReloadDue a.now) ∨
    (p = .exchange r.gVerifierLastRetry ∧
      reloadStep a p r = (.inl .openKey, { r with gVerifierLastRetry := a.now.quadPart })) := by
  cases p with
  | last =>
    left
    by_cases hlimit : r.gVerifierLastRetry ≠ 0 ∧
        long64 (a.now.quadPart - r.gVerifierLastRetry) < lgVerifierRetryInterval100ns
    · have hstep : reloadStep a .last r = (.inr none, r) := if_pos hlimit
      rw [hstep]
      exact ⟨nofun, rfl, nofun⟩
    · have hstep : reloadStep a .last r = (.inl (.exchange r.gVerifierLastRetry), r) := if_neg hlimit
      rw [hstep]
      refine ⟨nofun, rfl, ?_⟩
      intro l hl
      cases hl
      exact ⟨rfl, (reloadDue_iff hs a.now).1 hlimit⟩
  | exchange last =>
    by_cases hlast : r.gVerifierLastRetry = last
    · subst hlast
      exact Or.inr ⟨rfl, if_neg (not_not_intro rfl)⟩
    · have hlost : reloadStep a (.exchange last) r = (.inr none, r) := if_pos hlast
      rw [hlost]
      exact Or.inl ⟨nofun, rfl, nofun⟩
  | check =>
    left
    by_cases hskip : (r.gVerifierLoaded || decide (a.irql > 0)) = true
    · have hstep : reloadStep a .check r = (.inr none, r) := if_pos hskip
      rw [hstep]
      exact ⟨nofun, rfl, nofun⟩
    · have hstep : reloadStep a .check r = (.inl .clock, r) := if_neg hskip
      rw [hstep]
      exact ⟨nofun, rfl, nofun⟩
  | clock => exact Or.inl ⟨nofun, rfl, nofun⟩
  | _ => exact Or.inl (attemptStep_retry trivial)

/-! ## The readings recorded -/

/-- Where things stand after the attempts `is`. -/
structure SpacingInv (op : ι → ReloadCall) (c : ReloadConfig ι) (is : List ι) : Prop where
  spaced : Spaced (readings op is)
  recorded : c.shared.gVerifierLastRetry = lastReading op is
  /-- A call about to compare was due against the value it compares with. -/
  due : ∀ i l, c.phase i = .inl (.exchange l) → l = 0 ∨ lgVerifierRetryInterval100ns ≤ (op i).now.quadPart - l

omit [DecidableEq ι] in
theorem SpacingInv.stamped {c : ReloadConfig ι} {is : List ι} (h : SpacingInv op c is) : c.shared.Stamped := by
  unfold Recovery.Stamped
  rw [h.recorded]
  rcases lastReading_cases op is with ⟨-, hzero⟩ | ⟨j, -, hlast⟩
  · rw [hzero]
    decide
  · rw [hlast]
    exact ⟨(op j).now.nonneg, (op j).now.lt⟩

omit [DecidableEq ι] in
/-- A reading ten seconds past the last one is that far past all of them. -/
theorem spaced_snoc {is : List ι} (h : Spaced (readings op is)) (hnow : ∀ i, (op i).now ≠ .zero) {i : ι}
    (hdue : lastReading op is = 0 ∨ lgVerifierRetryInterval100ns ≤ (op i).now.quadPart - lastReading op is) :
    Spaced (readings op (is ++ [i])) := by
  rcases List.eq_nil_or_concat is with rfl | ⟨is, j, rfl⟩
  · simp [Spaced, readings]
  rw [List.concat_eq_append] at h hdue ⊢
  rw [lastReading_snoc] at hdue
  have hj : (op j).now.quadPart ≠ 0 := by
    intro hzero
    have hsame : (op j).now = .zero := by
      cases hnow' : (op j).now
      rw [hnow'] at hzero
      simpa [SysTime.zero] using hzero
    exact hnow j hsame
  have hlate : (op j).now.quadPart + lgVerifierRetryInterval100ns ≤ (op i).now.quadPart := by omega
  have hpos : 0 ≤ lgVerifierRetryInterval100ns := by decide
  have hsplit : readings op (is ++ [j] ++ [i]) = readings op (is ++ [j]) ++ [(op i).now.quadPart] := by simp [readings]
  have hj' : readings op (is ++ [j]) = readings op is ++ [(op j).now.quadPart] := by simp [readings]
  rw [hsplit, Spaced, List.pairwise_append]
  refine ⟨h, by simp, ?_⟩
  intro s hs t ht
  obtain rfl : t = (op i).now.quadPart := by simpa using ht
  rw [hj'] at h hs
  rcases List.mem_append.1 hs with hs | hs
  · have hold := (List.pairwise_append.1 h).2.2 s hs (op j).now.quadPart (by simp)
    omega
  · obtain rfl : s = (op j).now.quadPart := by simpa using hs
    exact hlate

theorem spacingInv_step {c : ReloadConfig ι} {is : List ι} (h : SpacingInv op c is) (hnow : ∀ i, (op i).now ≠ .zero)
    (i : ι) : SpacingInv op (advance reloads op c i) (is ++ (attempted op ⟨c, i⟩).toList) := by
  cases hp : c.phase i with
  | inr s =>
    have hnone : attempted op ⟨c, i⟩ = none := by simp [attempted, hp]
    rw [advance_done hp, hnone, Option.toList_none, List.append_nil]
    exact h
  | inl p =>
    rw [advance_running hp]
    show SpacingInv op ⟨(reloadStep (op i) p c.shared).2, Function.update c.phase i (reloadStep (op i) p c.shared).1⟩ _
    rcases reloadStep_retry (a := op i) (p := p) h.stamped with ⟨hgo, hsame, hexchange⟩ | ⟨rfl, hwin⟩
    · have hnone : attempted op ⟨c, i⟩ = none := by simp [attempted, hp, hgo]
      rw [hnone, Option.toList_none, List.append_nil]
      refine ⟨h.spaced, hsame.trans h.recorded, ?_⟩
      intro j l hj
      by_cases hij : j = i
      · subst hij
        simp only [Function.update_self] at hj
        obtain ⟨rfl, hdue⟩ := hexchange l hj
        exact hdue
      · simp only [Function.update_of_ne hij] at hj
        exact h.due j l hj
    · have hsome : attempted op ⟨c, i⟩ = some i := by simp [attempted, hp, hwin]
      rw [hsome, hwin, Option.toList_some]
      have hdue := h.due i _ hp
      rw [h.recorded] at hdue
      refine ⟨spaced_snoc h.spaced hnow hdue, (lastReading_snoc is i).symm, ?_⟩
      intro j l hj
      by_cases hij : j = i
      · subst hij
        simp at hj
      · simp only [Function.update_of_ne hij] at hj
        exact h.due j l hj

variable (boot) in
theorem spacingInv_run (hnow : ∀ i, (op i).now ≠ .zero) (sch : List ι) :
    SpacingInv op (afterReloads boot op sch) (loadAttempts boot op sch) := by
  induction sch using List.reverseRecOn with
  | nil =>
    refine ⟨List.Pairwise.nil, loadVerifier_lastRetry boot .boot, ?_⟩
    intro i l hi
    cases hi
  | append_singleton sch i ih =>
    rw [afterReloads, after_snoc, loadAttempts, attemptsFrom_snoc]
    exact spacingInv_step ih hnow i

/-! ## No attempt is lost -/

/-- A turn in which no call goes on to load leaves the time of the last attempt as it is. -/
theorem retry_kept {c : ReloadConfig ι} (hs : c.shared.Stamped) {i : ι} (h : attempted op ⟨c, i⟩ = none) :
    (advance reloads op c i).shared.gVerifierLastRetry = c.shared.gVerifierLastRetry := by
  cases hp : c.phase i with
  | inr s => rw [advance_done hp]
  | inl p =>
    rw [advance_running hp]
    rcases reloadStep_retry (a := op i) (p := p) hs with ⟨-, hsame, -⟩ | ⟨rfl, hwin⟩
    · exact hsame
    · simp [attempted, hp, hwin] at h

theorem due_step {c : ReloadConfig ι} {i : ι} (hs : c.shared.Stamped) (hp : c.phase i = .inl .last)
    (hdue : c.shared.ReloadDue (op i).now) :
    attempted op ⟨c, i⟩ = none ∧ (advance reloads op c i).shared = c.shared ∧
      (advance reloads op c i).phase i = .inl (.exchange c.shared.gVerifierLastRetry) := by
  have hstep : reloadStep (op i) .last c.shared = (.inl (.exchange c.shared.gVerifierLastRetry), c.shared) :=
    if_neg ((reloadDue_iff hs (op i).now).2 hdue)
  have hrun : reloads.step (op i) .last c.shared = (.inl (.exchange c.shared.gVerifierLastRetry), c.shared) := hstep
  rw [advance_running hp, hrun]
  exact ⟨by simp [attempted, hp, hstep], rfl, by simp⟩

omit [DecidableEq ι] in
theorem lastReading_append (is : List ι) {js : List ι} (h : js ≠ []) :
    ∃ j ∈ js, lastReading op (is ++ js) = (op j).now.quadPart := by
  rcases List.eq_nil_or_concat js with rfl | ⟨js, j, rfl⟩
  · exact absurd rfl h
  · rw [List.concat_eq_append, ← List.append_assoc]
    exact ⟨j, by simp, lastReading_snoc _ j⟩

theorem loadAttempts_append (sch sch' : List ι) : loadAttempts boot op (sch ++ sch') =
    loadAttempts boot op sch ++ attemptsFrom op (afterReloads boot op sch) sch' := attemptsFrom_append _ _ _

theorem noneLost_of (hnow : ∀ i, (op i).now ≠ .zero) (sch : List ι) : NoneLost boot op sch := by
  rintro pre mid post i - hmid hp hdue
  have hinv := spacingInv_run boot hnow
  obtain ⟨hnone, hshared, hexchange⟩ := due_step (hinv pre).stamped hp hdue
  have hafter : afterReloads boot op (pre ++ i :: mid) =
      final (advance reloads op) (advance reloads op (afterReloads boot op pre) i) mid := final_append _ _ _ _
  have hphase : (afterReloads boot op (pre ++ i :: mid)).phase i =
      .inl (.exchange (afterReloads boot op pre).shared.gVerifierLastRetry) := by
    rw [hafter, phase_kept hmid, hexchange]
  by_cases hlast : (afterReloads boot op (pre ++ i :: mid)).shared.gVerifierLastRetry =
      (afterReloads boot op pre).shared.gVerifierLastRetry
  · left
    rw [← hlast] at hphase
    have hwin : attempted op ⟨afterReloads boot op (pre ++ i :: mid), i⟩ = some i := by
      simp [attempted, hphase, reloadStep]
    have hone : attemptsFrom op (afterReloads boot op (pre ++ i :: mid)) [i] = [i] := by
      rw [attemptsFrom, turns, turns, List.filterMap_cons_some hwin, List.filterMap_nil]
    rw [loadAttempts_append, hone]
  · right
    have hlost : reloads.step (op i) (.exchange (afterReloads boot op pre).shared.gVerifierLastRetry)
        (afterReloads boot op (pre ++ i :: mid)).shared =
        (.inr none, (afterReloads boot op (pre ++ i :: mid)).shared) := if_pos hlast
    refine ⟨?_, ?_⟩
    · rw [afterReloads, after_snoc, advance_running hphase, hlost]
      simp
    · have hsome : attemptsFrom op (afterReloads boot op pre) (i :: mid) ≠ [] := by
        intro hnil
        refine hlast ?_
        rw [(hinv (pre ++ i :: mid)).recorded, loadAttempts_append, hnil, List.append_nil, (hinv pre).recorded]
      obtain ⟨j, hj, hreading⟩ := lastReading_append (loadAttempts boot op pre) hsome
      refine ⟨j, hj, ?_⟩
      rw [(hinv (pre ++ i :: mid)).recorded, loadAttempts_append, hreading]

/-- While no call goes on to load, a call that is due stays so and comes closer to its compare-exchange. -/
theorem due_waits (hnow : ∀ i, (op i).now ≠ .zero) {pre : List ι} {i : ι}
    (hp : (afterReloads boot op pre).phase i = .inl .clock ∨ (afterReloads boot op pre).phase i = .inl .last)
    (hdue : (afterReloads boot op pre).shared.ReloadDue (op i).now) (mid : List ι)
    (hnone : attemptsFrom op (afterReloads boot op pre) mid = []) :
    let c := afterReloads boot op (pre ++ mid)
    c.shared.gVerifierLastRetry = (afterReloads boot op pre).shared.gVerifierLastRetry ∧
      (c.phase i = .inl .clock ∨ c.phase i = .inl .last ∨ c.phase i = .inl (.exchange c.shared.gVerifierLastRetry)) := by
  induction mid using List.reverseRecOn with
  | nil =>
    rw [List.append_nil]
    exact ⟨rfl, hp.imp_right Or.inl⟩
  | append_singleton mid j ih =>
    rw [attemptsFrom_snoc, List.append_eq_nil_iff, Option.toList_eq_nil_iff, ← final_append] at hnone
    obtain ⟨hsame, hphase⟩ := ih hnone.1
    have hstamped := (spacingInv_run boot hnow (pre ++ mid)).stamped
    have hkept := retry_kept hstamped hnone.2
    have hsnoc : afterReloads boot op (pre ++ (mid ++ [j])) =
        advance reloads op (afterReloads boot op (pre ++ mid)) j := by
      rw [← List.append_assoc, afterReloads, after_snoc]
    simp only [hsnoc]
    refine ⟨hkept.trans hsame, ?_⟩
    by_cases hij : i = j
    · subst hij
      rcases hphase with hclock | hlast | hexchange
      · right
        left
        rw [advance_running hclock]
        simp [reloads, reloadStep]
      · right
        right
        have hdue' : (afterReloads boot op (pre ++ mid)).shared.ReloadDue (op i).now := by
          rwa [Recovery.ReloadDue, hsame]
        obtain ⟨-, hshared, hnext⟩ := due_step hstamped hlast hdue'
        rw [hshared, hnext]
      · -- its compare-exchange would win
        have hwin : attempted op ⟨afterReloads boot op (pre ++ mid), i⟩ = some i := by
          simp [attempted, hexchange, reloadStep]
        exact absurd (hwin.symm.trans hnone.2) (by simp)
    · rw [advance_other hij, hkept]
      exact hphase

theorem dueServed_of (hnow : ∀ i, (op i).now ≠ .zero) (sch : List ι) : DueServed boot op sch := by
  rintro pre mid i - hp hdue hover hnone
  obtain ⟨-, hphase⟩ := due_waits hnow hp hdue mid hnone
  refine hover ?_
  rcases hphase with hclock | hlast | hexchange
  · exact Or.inl hclock
  · exact Or.inr (Or.inl hlast)
  · exact Or.inr (Or.inr ⟨_, hexchange⟩)

variable (boot) (op) in
/-- **The rate limit.** In every interleaving, and with clocks that read anything but 0 and may go back, the
attempts are ten seconds apart, and no call that is due goes without an attempt. -/
theorem reloads_rate_limited (hnow : ∀ i, (op i).now ≠ .zero) (sch : List ι) :
    Spaced (readings op (loadAttempts boot op sch)) ∧ NoneLost boot op sch ∧ DueServed boot op sch :=
  ⟨(spacingInv_run boot hnow sch).spaced, noneLost_of hnow sch, dueServed_of hnow sch⟩

end

/-- Two calls that read the clock ten seconds apart both attempt, one after the other. -/
theorem reloads_rate_limited_twice :
    loadAttempts Worked.noReads Worked.reloadCalls (List.replicate 5 false ++ List.replicate 5 true) = [false, true] ∧
    Spaced (readings Worked.reloadCalls (loadAttempts Worked.noReads Worked.reloadCalls
      (List.replicate 5 false ++ List.replicate 5 true))) := by
  have hnow : ∀ i, (Worked.reloadCalls i).now ≠ .zero := by decide
  exact ⟨by decide +kernel, (reloads_rate_limited Worked.noReads Worked.reloadCalls hnow _).1⟩

end Lockguard
