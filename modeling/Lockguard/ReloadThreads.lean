import Lockguard.Ioctl
import Lockguard.Lib.Interleave
/-!
# Reload attempts under concurrent `GET_NONCE` (`lockguard.c:34-66`, `:170-253`)

`LgRecoveryTryReload` is cut at every access to a global and at every registry read. What keeps two
attempts apart is a compare-exchange on `gVerifierLastRetry` and ten seconds of rate limit; neither
waits for an attempt to end, and `gVerifierLoaded` is looked at once, before both. `Undisturbed` is
what the comments of the source take for granted of a compare-exchange that wins. With it the record
settles (`reloads_settle`), without it an attempt writes over a record that is loaded
(`reloads_disturbed`).
-/
namespace Lockguard

open Interleave Runs

/-- One call of `LgRecoveryTryReload`: its IRQL, its reading and what the registry answers it. -/
structure ReloadCall where
  irql : Nat
  now : SysTime
  reads : RecoveryReads

inductive ReloadPhase where
  | check
  | clock
  | last
  | exchange (last : Int)
  -- `LgRecoveryLoadVerifier`
  | openKey
  | readSalt
  | writeSalt (salt : Bytes)
  | writeSaltLen (len : Nat)
  | readIterations
  | writeIterations (iterations : ULONG)
  | readVerifier
  | writeVerifier (verifier : Bytes)
  | setLoaded
deriving DecidableEq

/-- The next step of a call; it returns the status of its attempt, if it made one. -/
def reloadStep (a : ReloadCall) : ReloadPhase → Recovery → (ReloadPhase ⊕ Option NTSTATUS) × Recovery
  | .check, r => if r.gVerifierLoaded || decide (a.irql > 0) then (.inr none, r) else (.inl .clock, r)
  | .clock, r => (.inl .last, r)
  | .last, r =>
    let last := r.gVerifierLastRetry
    if last ≠ 0 ∧ long64 (a.now.quadPart - last) < lgVerifierRetryInterval100ns then (.inr none, r)
    else (.inl (.exchange last), r)
  | .exchange last, r =>
    -- `InterlockedCompareExchange64`
    if r.gVerifierLastRetry ≠ last then (.inr none, r)
    else (.inl .openKey, { r with gVerifierLastRetry := a.now.quadPart })
  | .openKey, r => if !ntSuccess a.reads.openKey then (.inr (some a.reads.openKey), r) else (.inl .readSalt, r)
  | .readSalt, r => match lgReadRegBytes a.reads.installSalt lgSaltMaxLen with
    | .error s => (.inr (some s), r)
    | .ok salt => (.inl (.writeSalt salt), r)
  | .writeSalt salt, r =>
    (.inl (.writeSaltLen salt.length), { r with gInstallSalt := copyInto r.gInstallSalt salt })
  | .writeSaltLen len, r => (.inl .readIterations, { r with gInstallSaltLen := len })
  | .readIterations, r => match lgReadRegDword a.reads.iterations with
    | .error s => (.inr (some s), r)
    | .ok iterations => (.inl (.writeIterations iterations), r)
  | .writeIterations iterations, r => (.inl .readVerifier, { r with gIterations := iterations })
  | .readVerifier, r => match lgReadRegBytes a.reads.verifier lgVerifierLen with
    | .error s => (.inr (some s), r)
    | .ok verifier => (.inl (.writeVerifier verifier), r)
  | .writeVerifier verifier, r =>
    let r := { r with gStoredVerifier := copyInto r.gStoredVerifier verifier }
    if verifier.length ≠ lgVerifierLen then (.inr (some statusInvalidParameter), r) else (.inl .setLoaded, r)
  | .setLoaded, r => (.inr (some statusSuccess), { r with gVerifierLoaded := true })

def reloads : Program Recovery ReloadCall ReloadPhase (Option NTSTATUS) where
  start _ := .check
  step := reloadStep

/-- The steps of a call from a phase on, nothing coming between. -/
def reloadAlone (a : ReloadCall) : Nat → ReloadPhase → Recovery → Recovery
  | 0, _, r => r
  | n + 1, p, r => match reloadStep a p r with
    | (.inl p', r') => reloadAlone a n p' r'
    | (.inr _, r') => r'

theorem reloadAlone_next {a : ReloadCall} {p p' : ReloadPhase} {r r' : Recovery} (h : reloadStep a p r = (.inl p', r'))
    (n : Nat) : reloadAlone a (n + 1) p r = reloadAlone a n p' r' := by
  simp only [reloadAlone, h]

theorem reloadAlone_return {a : ReloadCall} {p : ReloadPhase} {r r' : Recovery} {s : Option NTSTATUS}
    (h : reloadStep a p r = (.inr s, r')) (n : Nat) : reloadAlone a (n + 1) p r = r' := by
  simp only [reloadAlone, h]

theorem reloadAlone_load (a : ReloadCall) (r : Recovery) :
    reloadAlone a 9 .openKey r = (lgRecoveryLoadVerifier a.reads r).2 := by
  unfold lgRecoveryLoadVerifier
  cases hopen : ntSuccess a.reads.openKey with
  | false => simp [reloadAlone, reloadStep, hopen]
  | true =>
    cases hsalt : lgReadRegBytes a.reads.installSalt lgSaltMaxLen with
    | error s => simp [reloadAlone, reloadStep, hopen, hsalt]
    | ok salt =>
      cases hiter : lgReadRegDword a.reads.iterations with
      | error s => simp [reloadAlone, reloadStep, hopen, hsalt, hiter]
      | ok iterations =>
        cases hver : lgReadRegBytes a.reads.verifier lgVerifierLen with
        | error s => simp [reloadAlone, reloadStep, hopen, hsalt, hiter, hver]
        | ok verifier =>
          by_cases hlen : verifier.length = lgVerifierLen
          · simp [reloadAlone, reloadStep, hopen, hsalt, hiter, hver, hlen]
          · simp [reloadAlone, reloadStep, hopen, hsalt, hiter, hver, hlen]

/-- **Run alone, the steps of a call are `LgRecoveryTryReload`.** -/
theorem reloadAlone_eq (a : ReloadCall) (r : Recovery) :
    reloadAlone a 13 .check r = lgRecoveryTryReload a.irql a.now a.reads r := by
  unfold lgRecoveryTryReload
  by_cases hloaded : r.gVerifierLoaded = true
  · simp [reloadAlone, reloadStep, hloaded]
  by_cases hirql : a.irql > 0
  · simp [reloadAlone, reloadStep, hloaded, hirql]
  have hcheck : reloadStep a .check r = (.inl .clock, r) := by simp [reloadStep, hloaded, hirql]
  have hclock : reloadStep a .clock r = (.inl .last, r) := rfl
  rw [reloadAlone_next hcheck, reloadAlone_next hclock, if_neg hloaded, if_neg hirql]
  by_cases hlimit : r.gVerifierLastRetry ≠ 0 ∧
      long64 (a.now.quadPart - r.gVerifierLastRetry) < lgVerifierRetryInterval100ns
  · have hlast : reloadStep a .last r = (.inr none, r) := if_pos hlimit
    rw [reloadAlone_return hlast]
    simp only [if_pos hlimit]
  · have hlast : reloadStep a .last r = (.inl (.exchange r.gVerifierLastRetry), r) := if_neg hlimit
    have hwin : reloadStep a (.exchange r.gVerifierLastRetry) r =
        (.inl .openKey, { r with gVerifierLastRetry := a.now.quadPart }) := if_neg (not_not_intro rfl)
    rw [reloadAlone_next hlast, reloadAlone_next hwin, reloadAlone_load]
    simp only [if_neg hlimit]

/-! ## What an attempt has written -/

/-- Between its compare-exchange and its end. -/
def ReloadPhase.Attempting : ReloadPhase → Prop
  | .check | .clock | .last | .exchange _ => False
  | _ => True

/-- The salt that is held is the one value `InstallSalt` of `k`. -/
structure Recovery.SaltOf (k : RecoveryReads) (r : Recovery) : Prop where
  bytes : lgReadRegBytes k.installSalt lgSaltMaxLen = .ok (r.gInstallSalt.toList.take r.gInstallSaltLen)
  fits : r.gInstallSaltLen ≤ lgSaltMaxLen

/-- Salt, iteration count and verifier are all those `k` answers. -/
structure Recovery.LoadedFrom (k : RecoveryReads) (r : Recovery) : Prop where
  salt : r.SaltOf k
  iterations : lgReadRegDword k.iterations = .ok r.gIterations
  verifier : lgReadRegBytes k.verifier lgVerifierLen = .ok r.gStoredVerifier.toList

/-- How far an attempt has come when it stands at a phase. -/
def Progress (k : RecoveryReads) : ReloadPhase → Recovery → Prop
  | .writeSalt salt, _ => lgReadRegBytes k.installSalt lgSaltMaxLen = .ok salt
  | .writeSaltLen len, r => Recovery.SaltOf k { r with gInstallSaltLen := len }
  | .readIterations, r => r.SaltOf k
  | .writeIterations iterations, r => r.SaltOf k ∧ lgReadRegDword k.iterations = .ok iterations
  | .readVerifier, r => r.SaltOf k ∧ lgReadRegDword k.iterations = .ok r.gIterations
  | .writeVerifier verifier, r => r.SaltOf k ∧ lgReadRegDword k.iterations = .ok r.gIterations ∧
      lgReadRegBytes k.verifier lgVerifierLen = .ok verifier
  | .setLoaded, r => r.LoadedFrom k
  | _, _ => True

theorem readRegBytes_length {q : RegQuery} {n : Nat} {bs : Bytes} (h : lgReadRegBytes q n = .ok bs) : bs.length ≤ n := by
  unfold lgReadRegBytes checked at h
  cases hs : ntSuccess q.status with
  | false => simp [hs, bind, Except.bind] at h
  | true =>
    simp only [hs, if_true, bind, Except.bind] at h
    split at h
    · cases h
    · cases h; omega

theorem take_copyInto {n : Nat} (dst : Vector UInt8 n) {src : Bytes} (h : src.length ≤ n) :
    (copyInto dst src).toList.take src.length = src := by
  apply List.ext_getElem
  · simpa using h
  · intro i h₁ h₂
    simp [copyInto, List.getD_eq_getElem?_getD, h₂]

/-- A step of an attempt that is not its last. -/
theorem attemptStep_progress {a : ReloadCall} {p : ReloadPhase} {r : Recovery} (ha : p.Attempting)
    (hp : Progress a.reads p r) (hload : p ≠ .setLoaded) :
    (reloadStep a p r).2.gVerifierLoaded = r.gVerifierLoaded ∧
      ∀ p', (reloadStep a p r).1 = .inl p' → p'.Attempting ∧ Progress a.reads p' (reloadStep a p r).2 := by
  cases p with
  | check | clock | last | exchange last => exact absurd ha id
  | openKey =>
    simp only [reloadStep]
    split
    · exact ⟨rfl, nofun⟩
    · refine ⟨rfl, fun p' h => ?_⟩
      cases h
      exact ⟨trivial, trivial⟩
  | readSalt =>
    simp only [reloadStep]
    split
    · exact ⟨rfl, nofun⟩
    · rename_i salt hsalt
      refine ⟨rfl, fun p' h => ?_⟩
      cases h
      exact ⟨trivial, hsalt⟩
  | writeSalt salt =>
    refine ⟨by simp only [reloadStep], fun p' h => ?_⟩
    simp only [reloadStep, Sum.inl.injEq] at h ⊢
    subst h
    have hsalt : lgReadRegBytes a.reads.installSalt lgSaltMaxLen = .ok salt := hp
    have hlen := readRegBytes_length hsalt
    refine ⟨trivial, ?_, hlen⟩
    show _ = Except.ok ((copyInto r.gInstallSalt salt).toList.take salt.length)
    rw [hsalt, take_copyInto r.gInstallSalt hlen]
  | writeSaltLen len =>
    refine ⟨rfl, fun p' h => ?_⟩
    cases h
    exact ⟨trivial, hp⟩
  | readIterations =>
    simp only [reloadStep]
    split
    · exact ⟨rfl, nofun⟩
    · rename_i iterations hiter
      refine ⟨rfl, fun p' h => ?_⟩
      cases h
      exact ⟨trivial, hp, hiter⟩
  | writeIterations iterations =>
    refine ⟨rfl, fun p' h => ?_⟩
    cases h
    exact ⟨trivial, ⟨hp.1.bytes, hp.1.fits⟩, hp.2⟩
  | readVerifier =>
    simp only [reloadStep]
    split
    · exact ⟨rfl, nofun⟩
    · rename_i verifier hver
      refine ⟨rfl, fun p' h => ?_⟩
      cases h
      exact ⟨trivial, hp.1, hp.2, hver⟩
  | writeVerifier verifier =>
    obtain ⟨hsalt, hiter, hver⟩ := hp
    simp only [reloadStep]
    split
    · exact ⟨rfl, nofun⟩
    · rename_i hlen
      refine ⟨rfl, fun p' h => ?_⟩
      cases h
      have hstored := take_copyInto r.gStoredVerifier (readRegBytes_length hver)
      rw [not_ne_iff.1 hlen, lgVerifierLen, List.take_of_length_le (by simp)] at hstored
      exact ⟨trivial, ⟨hsalt.bytes, hsalt.fits⟩, hiter, by rw [hver, hstored]⟩
  | setLoaded => exact absurd rfl hload

/-- **What one step of a call can do**: look on, win the compare-exchange, carry its attempt on, or
finish it. -/
theorem reloadStep_cases {a : ReloadCall} {p : ReloadPhase} {r : Recovery} (hp : Progress a.reads p r) :
    (¬ p.Attempting ∧ (reloadStep a p r).2 = r ∧ ∀ p', (reloadStep a p r).1 = .inl p' → ¬ p'.Attempting) ∨
    (p = .exchange r.gVerifierLastRetry ∧
      reloadStep a p r = (.inl .openKey, { r with gVerifierLastRetry := a.now.quadPart })) ∨
    (p.Attempting ∧ (reloadStep a p r).2.gVerifierLoaded = r.gVerifierLoaded ∧
      ∀ p', (reloadStep a p r).1 = .inl p' → p'.Attempting ∧ Progress a.reads p' (reloadStep a p r).2) ∨
    (p = .setLoaded ∧ reloadStep a p r = (.inr (some statusSuccess), { r with gVerifierLoaded := true })) := by
  by_cases ha : p.Attempting
  · by_cases hload : p = .setLoaded
    · subst hload
      exact Or.inr (Or.inr (Or.inr ⟨rfl, rfl⟩))
    · exact Or.inr (Or.inr (Or.inl ⟨ha, attemptStep_progress ha hp hload⟩))
  cases p with
  | check =>
    refine Or.inl ⟨id, ?_⟩
    simp only [reloadStep]
    split
    · exact ⟨rfl, nofun⟩
    · refine ⟨rfl, fun p' h => ?_⟩
      cases h
      exact id
  | clock =>
    refine Or.inl ⟨id, rfl, fun p' h => ?_⟩
    cases h
    exact id
  | last =>
    refine Or.inl ⟨id, ?_⟩
    simp only [reloadStep]
    split
    · exact ⟨rfl, nofun⟩
    · refine ⟨rfl, fun p' h => ?_⟩
      cases h
      exact id
  | exchange last =>
    by_cases hlast : r.gVerifierLastRetry = last
    · subst hlast
      exact Or.inr (Or.inl ⟨rfl, if_neg (not_not_intro rfl)⟩)
    · have hlost : reloadStep a (.exchange last) r = (.inr none, r) := if_pos hlast
      rw [hlost]
      exact Or.inl ⟨id, rfl, nofun⟩
  | _ => exact absurd trivial ha

theorem loadedFrom_setLoaded {k : RecoveryReads} {r : Recovery} (h : r.LoadedFrom k) :
    Recovery.LoadedFrom k { r with gVerifierLoaded := true } :=
  ⟨⟨h.salt.bytes, h.salt.fits⟩, h.iterations, h.verifier⟩

/-- An attempt that is left alone loads its own values. -/
theorem reloadAlone_loadedFrom {a : ReloadCall} {p : ReloadPhase} {r : Recovery} (n : Nat) (hp : Progress a.reads p r)
    (ha : p.Attempting) (hr : r.gVerifierLoaded = false) (h : (reloadAlone a n p r).gVerifierLoaded = true) :
    (reloadAlone a n p r).LoadedFrom a.reads := by
  induction n generalizing p r with
  | zero =>
    rw [reloadAlone, hr] at h
    cases h
  | succ n ih =>
    rcases reloadStep_cases hp with ⟨hout, -⟩ | ⟨rfl, -⟩ | ⟨-, hsame, hnext⟩ | ⟨rfl, hstep⟩
    · exact absurd ha hout
    · exact absurd ha id
    · rw [hr] at hsame
      rcases hs : reloadStep a p r with ⟨p' | s, r'⟩
      · rw [hs] at hsame hnext
        obtain ⟨ha', hp'⟩ := hnext p' rfl
        rw [reloadAlone_next hs] at h ⊢
        exact ih hp' ha' hsame h
      · rw [hs] at hsame
        rw [reloadAlone_return hs, hsame] at h
        cases h
    · rw [reloadAlone_return hstep]
      exact loadedFrom_setLoaded hp

/-- What the load at boot leaves, if it succeeds, is what the registry answered then. -/
theorem driverEntry_loadedFrom {boot : RecoveryReads} (h : (driverEntry boot).recovery.gVerifierLoaded = true) :
    (driverEntry boot).recovery.LoadedFrom boot := by
  have hload := reloadAlone_load ⟨0, .zero, boot⟩ .boot
  have hentry : (driverEntry boot).recovery = reloadAlone ⟨0, .zero, boot⟩ 9 .openKey .boot := hload.symm
  rw [hentry] at h ⊢
  exact reloadAlone_loadedFrom (a := ⟨0, .zero, boot⟩) (p := .openKey) 9 trivial trivial rfl h

/-! ## Over all interleavings -/

section
variable {ι : Type} [DecidableEq ι] (boot : RecoveryReads) (op : ι → ReloadCall)

abbrev ReloadConfig (ι : Type) := Config Recovery ReloadPhase (Option NTSTATUS) ι

abbrev afterReloads (sch : List ι) : ReloadConfig ι := after reloads op (driverEntry boot).recovery sch

omit [DecidableEq ι] in
/-- Call `i` is between its compare-exchange and its end. -/
def Attempts (c : ReloadConfig ι) (i : ι) : Prop := ∃ p, c.phase i = .inl p ∧ p.Attempting

omit [DecidableEq ι] in
/-- Call `i`, about to win its compare-exchange, finds the record not loaded and no attempt under way. -/
def Undisturbed (c : ReloadConfig ι) (i : ι) : Prop :=
  c.phase i = .inl (.exchange c.shared.gVerifierLastRetry) →
    c.shared.gVerifierLoaded = false ∧ ∀ j, ¬ Attempts c j

/-- The values a key is checked with. -/
def Recovery.record (r : Recovery) : Vector UInt8 64 × Nat × ULONG × Bytes32 :=
  (r.gInstallSalt, r.gInstallSaltLen, r.gIterations, r.gStoredVerifier)

/-- Once loaded, the record is what one attempt read, or the boot did, and stays as it is. -/
def Settles (sch : List ι) : Prop :=
  ∀ sch₁ sch₂, sch = sch₁ ++ sch₂ → (afterReloads boot op sch₁).shared.gVerifierLoaded = true →
    (∃ k, (k = boot ∨ ∃ i, k = (op i).reads) ∧ (afterReloads boot op sch₁).shared.LoadedFrom k) ∧
    (afterReloads boot op sch).shared.gVerifierLoaded = true ∧
    (afterReloads boot op sch).shared.record = (afterReloads boot op sch₁).shared.record

omit [DecidableEq ι] in
/-- One attempt at most, and only while nothing is loaded. -/
structure ReloadInv (c : ReloadConfig ι) : Prop where
  alone : ∀ i, Attempts c i → c.shared.gVerifierLoaded = false ∧ ∀ j, Attempts c j → j = i
  progress : ∀ i p, c.phase i = .inl p → Progress (op i).reads p c.shared
  loaded : c.shared.gVerifierLoaded = true →
    ∃ k, (k = boot ∨ ∃ i, k = (op i).reads) ∧ c.shared.LoadedFrom k

variable {boot op}

omit [DecidableEq ι] in
theorem reloadInv_init : ReloadInv boot op (init reloads op (driverEntry boot).recovery) := by
  refine ⟨?_, ?_, fun h => ⟨boot, Or.inl rfl, driverEntry_loadedFrom h⟩⟩
  · rintro i ⟨p, hp, ha⟩
    cases hp
    exact absurd ha id
  · rintro i p hp
    cases hp
    trivial

theorem progress_idle {k : RecoveryReads} {p : ReloadPhase} (h : ¬ p.Attempting) (r : Recovery) : Progress k p r := by
  cases p with
  | check | clock | last | exchange _ => trivial
  | _ => exact absurd trivial h

theorem attempts_other {c : ReloadConfig ι} {i j : ι} (hij : j ≠ i) {n : ReloadPhase ⊕ Option NTSTATUS} {r : Recovery} :
    Attempts ⟨r, Function.update c.phase i n⟩ j ↔ Attempts c j := by
  simp [Attempts, hij]

/-- A step of the only call that may be attempting. -/
theorem reloadInv_alone {c : ReloadConfig ι} {i : ι} (hothers : ∀ j, j ≠ i → ¬ Attempts c j)
    {n : ReloadPhase ⊕ Option NTSTATUS} {r : Recovery}
    (hn : ∀ p, n = .inl p → r.gVerifierLoaded = false ∧ Progress (op i).reads p r)
    (hloaded : r.gVerifierLoaded = true → r.LoadedFrom (op i).reads) :
    ReloadInv boot op ⟨r, Function.update c.phase i n⟩ := by
  have honly : ∀ j, Attempts (⟨r, Function.update c.phase i n⟩ : ReloadConfig ι) j → j = i := by
    intro j hj
    by_contra hij
    exact hothers j hij ((attempts_other hij).1 hj)
  refine ⟨?_, ?_, fun h => ⟨_, Or.inr ⟨i, rfl⟩, hloaded h⟩⟩
  · intro j hj
    obtain rfl := honly j hj
    obtain ⟨p, hp, -⟩ := hj
    simp only [Function.update_self] at hp
    exact ⟨(hn p hp).1, honly⟩
  · intro j p hp
    by_cases hij : j = i
    · subst hij
      simp only [Function.update_self] at hp
      exact (hn p hp).2
    · simp only [Function.update_of_ne hij] at hp
      exact progress_idle (fun ha => hothers j hij ⟨p, hp, ha⟩) r

theorem reloadInv_step {c : ReloadConfig ι} (h : ReloadInv boot op c) {i : ι} (hu : Undisturbed c i) :
    ReloadInv boot op (advance reloads op c i) := by
  cases hp : c.phase i with
  | inr s => rwa [advance_done hp]
  | inl p =>
    rw [advance_running hp]
    show ReloadInv boot op ⟨(reloadStep (op i) p c.shared).2, Function.update c.phase i (reloadStep (op i) p c.shared).1⟩
    rcases reloadStep_cases (h.progress i p hp) with ⟨-, hsame, hnext⟩ | ⟨rfl, hwin⟩ | ⟨ha, hsame, hnext⟩ |
      ⟨rfl, hload⟩
    · -- it looks on, and its next phase is not one of an attempt either
      rw [hsame]
      have hkeep : ∀ j, Attempts (⟨c.shared, Function.update c.phase i (reloadStep (op i) p c.shared).1⟩ :
          ReloadConfig ι) j → Attempts c j := by
        intro j hj
        by_cases hij : j = i
        · subst hij
          obtain ⟨q, hq, ha⟩ := hj
          simp only [Function.update_self] at hq
          exact absurd ha (hnext q hq)
        · exact (attempts_other hij).1 hj
      refine ⟨fun j hj => ?_, fun j q hq => ?_, h.loaded⟩
      · obtain ⟨hl, honly⟩ := h.alone j (hkeep j hj)
        exact ⟨hl, fun k hk => honly k (hkeep k hk)⟩
      · by_cases hij : j = i
        · subst hij
          simp only [Function.update_self] at hq
          exact progress_idle (hnext q hq) _
        · simp only [Function.update_of_ne hij] at hq
          exact h.progress j q hq
    · obtain ⟨hl, hnone⟩ := hu hp
      rw [hwin]
      refine reloadInv_alone (fun j _ => hnone j) (fun q hq => ?_) fun hl' => ?_
      · cases hq
        exact ⟨hl, trivial⟩
      · cases hl.symm.trans hl'
    · obtain ⟨hl, honly⟩ := h.alone i ⟨p, hp, ha⟩
      rw [hl] at hsame
      refine reloadInv_alone (fun j hij hj => hij (honly j hj)) (fun q hq => ⟨hsame, (hnext q hq).2⟩) fun hl' => ?_
      cases hsame.symm.trans hl'
    · obtain ⟨hl, honly⟩ := h.alone i ⟨_, hp, trivial⟩
      rw [hload]
      exact reloadInv_alone (fun j hij hj => hij (honly j hj)) nofun fun _ => loadedFrom_setLoaded (h.progress i _ hp)

/-- A step that meets a loaded record leaves it alone. -/
theorem loaded_step {c : ReloadConfig ι} (h : ReloadInv boot op c) {i : ι} (hu : Undisturbed c i)
    (hl : c.shared.gVerifierLoaded = true) : (advance reloads op c i).shared = c.shared := by
  cases hp : c.phase i with
  | inr s => rw [advance_done hp]
  | inl p =>
    have hidle : ¬ p.Attempting := fun ha => by cases hl.symm.trans (h.alone i ⟨p, hp, ha⟩).1
    rw [advance_running hp]
    show (reloadStep (op i) p c.shared).2 = c.shared
    rcases reloadStep_cases (h.progress i p hp) with ⟨-, hsame, -⟩ | ⟨rfl, -⟩ | ⟨ha, -⟩ | ⟨rfl, -⟩
    · exact hsame
    · cases hl.symm.trans (hu hp).1
    · exact absurd ha hidle
    · exact absurd trivial hidle

variable (boot) (op)

theorem reloadInv_run {sch : List ι} (h : ∀ pre i post, sch = pre ++ i :: post →
    Undisturbed (afterReloads boot op pre) i) :
    ∀ pre post, sch = pre ++ post → ReloadInv boot op (afterReloads boot op pre) :=
  after_inv reloadInv_init (fun _ _ hc hi => reloadInv_step hc hi) h

/-- **The record settles when attempts do not meet.** In every interleaving in which each
compare-exchange that wins finds the record not loaded and no attempt under way, a loaded record is
the salt, count and verifier of one attempt, and stays what it is. -/
theorem reloads_settle (sch : List ι) (h : ∀ pre i post, sch = pre ++ i :: post →
    Undisturbed (afterReloads boot op pre) i) : Settles boot op sch := by
  intro sch₁ sch₂ hsch hl
  subst hsch
  refine ⟨(reloadInv_run boot op h sch₁ sch₂ rfl).loaded hl, ?_⟩
  have hsame : (afterReloads boot op (sch₁ ++ sch₂)).shared = (afterReloads boot op sch₁).shared := by
    induction sch₂ using List.reverseRecOn with
    | nil => rw [List.append_nil]
    | append_singleton sch₂ i ih =>
      have hprev := ih fun pre j post hsplit => h pre j (post ++ [i]) (by rw [← List.append_assoc, hsplit]; simp)
      have hinv := reloadInv_run boot op h (sch₁ ++ sch₂) [i] (by simp)
      have hu := h (sch₁ ++ sch₂) i [] (by simp)
      rw [← List.append_assoc, afterReloads, after_snoc, loaded_step hinv hu (by rw [hprev]; exact hl)]
      exact hprev
  rw [hsame]
  exact ⟨hl, rfl⟩

end

namespace Worked

/-- The hive is not there yet. -/
def noReads : RecoveryReads := { reads with openKey := statusObjectNameNotFound }

/-- Another record, read ten seconds later. -/
def otherReads : RecoveryReads where
  openKey := statusSuccess
  installSalt := ⟨statusSuccess, regBinary, List.replicate 16 6⟩
  iterations := ⟨statusSuccess, regDword, [0x40, 0x0D, 0x03, 0x00]⟩
  verifier := ⟨statusSuccess, regBinary, List.replicate 32 7⟩

def reloadCalls : Bool → ReloadCall
  | false => ⟨0, time 0, reads⟩
  | true => ⟨0, time 100, otherReads⟩

end Worked

/-- One call after the other. -/
theorem reloads_settle_apart : Settles Worked.noReads Worked.reloadCalls
    (List.replicate 13 false ++ [true]) := by
  refine reloads_settle _ _ _ fun pre i post hsplit hwin => ?_
  have hpre : pre = (List.replicate 13 false ++ [true]).take pre.length := by rw [hsplit]; simp
  have hi : i = (List.replicate 13 false ++ [true]).getD pre.length false := by rw [hsplit]; simp
  have hlen : pre.length < 14 := by
    have := congrArg List.length hsplit
    simp at this
    omega
  -- the first call wins its exchange at its fourth step, and nothing else ever stands at one
  have hfourth : ∀ n < 14, (afterReloads Worked.noReads Worked.reloadCalls
      ((List.replicate 13 false ++ [true]).take n)).phase ((List.replicate 13 false ++ [true]).getD n false) =
      .inl (.exchange (afterReloads Worked.noReads Worked.reloadCalls
        ((List.replicate 13 false ++ [true]).take n)).shared.gVerifierLastRetry) → n = 3 := by decide +kernel
  have hthree := hfourth pre.length hlen (by rw [← hpre, ← hi]; exact hwin)
  rw [hthree] at hpre
  subst hpre
  refine ⟨by decide +kernel, ?_⟩
  rintro j ⟨p, hp, ha⟩
  have hphases : (afterReloads Worked.noReads Worked.reloadCalls [false, false, false]).phase false =
      .inl (.exchange 0) ∧ (afterReloads Worked.noReads Worked.reloadCalls [false, false, false]).phase true =
      .inl .check := by decide +kernel
  cases j with
  | false => cases hphases.1.symm.trans hp; exact ha
  | true => cases hphases.2.symm.trans hp; exact ha

/-- **A second attempt writes over the first.** It starts while the first, ten seconds under way, has
yet to set `gVerifierLoaded`; once that is set it goes on to write what it reads itself. -/
theorem reloads_disturbed : ¬ Settles Worked.noReads Worked.reloadCalls
    (List.replicate 12 false ++ List.replicate 7 true ++ [false] ++ List.replicate 6 true) := by
  intro h
  obtain ⟨-, -, hrecord⟩ := h _ _ rfl (by decide +kernel)
  exact absurd hrecord (by decide +kernel)

end Lockguard
