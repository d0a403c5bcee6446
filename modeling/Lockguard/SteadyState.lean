import Lockguard.InstallRoundTrip
import Lockguard.Lib.Repair
import Lockguard.SelfHeal
/-!
# Where the passes come to rest (`enforce_windows.go:63-292`)

A pass is a repair of the whole machine: when nothing fails in it but the stop of a service that does not run, and the
programs it asks tell the truth, each check finds its part as it wants it or makes it so, and the next pass finds
nothing to do but stop what is stopped, which fails. `passes_settle` says what the machine is then, and
that the passes leave exactly such machines alone.
-/
namespace Lockguard

open Calls Repair

/-! ## Files -/

section
variable {t : CaseTables} {p q : List Name} {data : Bytes} {disk : Disk}

theorem put_put (disk : Disk) (data' : Bytes) :
    Disk.put t (Disk.put t disk p data') p data = Disk.put t disk p data := by
  induction disk with
  | nil => simp [Disk.put, DiskFile.named]
  | cons f disk ih =>
    by_cases hf : f.named t p = true
    · have hf' : DiskFile.named t { f with data := data' } p = true := hf
      simp only [Disk.put, hf, hf', if_true]
    · simp only [Disk.put, if_neg hf, ih]

/-- Writing what is there changes nothing. -/
theorem put_same (h : Disk.find t disk p = some data) : Disk.put t disk p data = disk := by
  induction disk with
  | nil => cases h
  | cons f disk ih =>
    rw [Disk.find] at h
    by_cases hf : f.named t p = true
    · rw [if_pos hf, Option.some.injEq] at h
      subst h
      rw [Disk.put, if_pos hf]
    · rw [if_neg hf] at h
      rw [Disk.put, if_neg hf, ih h]

variable {dir : List Name}

theorem dropLast_of_named {f : DiskFile} (hf : f.named t p = true) : foldPath t f.path.dropLast = foldPath t p.dropLast := by
  rw [DiskFile.named, beq_iff_eq] at hf
  simp only [foldPath, List.map_dropLast] at hf ⊢
  rw [hf]

/-- A directory lists as before what is written and removed elsewhere. -/
theorem globCip_put (h : foldPath t p.dropLast ≠ foldPath t dir) (disk : Disk) :
    Disk.globCip t (Disk.put t disk p data) dir = Disk.globCip t disk dir := by
  induction disk with
  | nil => simp [Disk.put, Disk.globCip, h]
  | cons f disk ih =>
    by_cases hf : f.named t p = true
    · have hdir : foldPath t f.path.dropLast ≠ foldPath t dir := (dropLast_of_named hf).trans_ne h
      simp only [Disk.put, hf, if_true]
      simp [Disk.globCip, hdir]
    · simp only [Disk.put, if_neg hf]
      simp only [Disk.globCip, List.filter_cons] at ih ⊢
      split
      · rw [List.map_cons, List.map_cons, ih]
      · exact ih

theorem globCip_erase (h : foldPath t p.dropLast ≠ foldPath t dir) (disk : Disk) :
    Disk.globCip t (Disk.erase t disk p) dir = Disk.globCip t disk dir := by
  rw [Disk.globCip, Disk.globCip, Disk.erase, List.filter_filter]
  refine congrArg _ (List.filter_congr fun f _ => ?_)
  by_cases hf : f.named t p = true
  · have hdir : foldPath t f.path.dropLast ≠ foldPath t dir := (dropLast_of_named hf).trans_ne h
    simp [hdir]
  · simp [hf]

end

/-! ## The files a pass repairs -/

section
variable (t : CaseTables) (std : GoStd)

/-- What `ensureWDACPolicy` makes of the files. -/
def Disk.withPolicy (disk : Disk) : Disk :=
  match Disk.globCip t disk wdacPolicyDir, Disk.find t disk wdacBackup with
  | [], some cip => Disk.put t disk wdacPolicy cip
  | _, _ => disk

/-- A policy is found, or is the backup's under a name that the search does not know, or there is no backup. -/
def Disk.PolicySettled (disk : Disk) : Prop :=
  Disk.globCip t disk wdacPolicyDir ≠ [] ∨ ∀ cip, Disk.find t disk wdacBackup = some cip →
    Disk.find t disk wdacPolicy = some cip

/-- What a round of `ensureFileIntegrity` makes of the files. -/
def FilePair.repaired (p : FilePair) (disk : Disk) : Disk :=
  match Disk.find t disk p.primary, Disk.find t disk p.backup with
  | _, none => disk
  | none, some b => Disk.put t disk p.primary b
  | some d, some b =>
    if std.sha256Hex d = std.sha256Hex b then disk
    else Disk.put t (Disk.erase t (Disk.put t disk (stageOf p.primary) b) (stageOf p.primary)) p.primary b

/-- The primary has the hash of its backup, if that is there. -/
def FilePair.Settled (p : FilePair) (disk : Disk) : Prop :=
  ∀ b, Disk.find t disk p.backup = some b → ∃ d, Disk.find t disk p.primary = some d ∧ std.sha256Hex d = std.sha256Hex b

/-- What a pass makes of the files. -/
def Disk.enforced (disk : Disk) : Disk :=
  servicePair.repaired t std (driverPair.repaired t std (Disk.withPolicy t disk))

def Disk.Settled (disk : Disk) : Prop :=
  (Disk.PolicySettled t disk ∧ driverPair.Settled t std disk) ∧ servicePair.Settled t std disk

variable {t std}

theorem withPolicy_repairs (t : CaseTables) : Repairs (Disk.withPolicy t) (Disk.PolicySettled t) where
  mends disk := by
    unfold Disk.withPolicy
    split
    · rename_i cip _ hbackup
      refine Or.inr fun cip' hcip' => ?_
      rw [find_put_of_ne (wdacBackup_ne_policy t), hbackup] at hcip'
      rw [find_put_self, hcip']
    · rename_i hnot
      by_cases hglob : Disk.globCip t disk wdacPolicyDir = []
      · exact Or.inr fun cip hcip => absurd hcip (hnot cip hglob)
      · exact Or.inl hglob
  quiet disk h := by
    unfold Disk.withPolicy
    split
    · rename_i cip hglob hbackup
      exact put_same (h.resolve_left (not_not_intro hglob) cip hbackup)
    · rfl

theorem repaired_repairs {p : FilePair} (hp : p.Distinct t) : Repairs (p.repaired t std) (p.Settled t std) where
  mends disk := by
    have hwritten : ∀ {disk' : Disk} {b : Bytes}, Disk.find t disk' p.backup = some b →
        p.Settled t std (Disk.put t disk' p.primary b) := by
      intro disk' b hb b' hb'
      rw [find_put_of_ne hp.backup_primary, hb] at hb'
      obtain rfl := Option.some.inj hb'
      exact ⟨b, find_put_self _, rfl⟩
    unfold FilePair.repaired
    split
    · rename_i hbackup
      intro b hb
      rw [hbackup] at hb
      cases hb
    · rename_i b _ hbackup
      exact hwritten hbackup
    · rename_i d b hprimary hbackup
      split
      · rename_i hsame
        intro b' hb'
        rw [hbackup] at hb'
        obtain rfl := Option.some.inj hb'
        exact ⟨d, hprimary, hsame⟩
      · refine hwritten ?_
        rw [find_erase_of_ne hp.backup_stage, find_put_of_ne hp.backup_stage, hbackup]
  quiet disk h := by
    unfold FilePair.repaired
    split
    · rfl
    · rename_i b hprimary hbackup
      obtain ⟨d, hd, -⟩ := h b hbackup
      rw [hprimary] at hd
      cases hd
    · rename_i d b hprimary hbackup
      obtain ⟨d', hd', hsame⟩ := h b hbackup
      rw [hprimary] at hd'
      obtain rfl := Option.some.inj hd'
      rw [if_pos hsame]

/-- A repair leaves the files it does not write, and the directories it does not write in. -/
theorem repaired_keeps (t : CaseTables) (std : GoStd) (p : FilePair) (disk : Disk) :
    (∀ path, foldPath t path ≠ foldPath t p.primary → foldPath t path ≠ foldPath t (stageOf p.primary) →
      Disk.find t (p.repaired t std disk) path = Disk.find t disk path) ∧
    ∀ dir, foldPath t p.primary.dropLast ≠ foldPath t dir → foldPath t (stageOf p.primary).dropLast ≠ foldPath t dir →
      Disk.globCip t (p.repaired t std disk) dir = Disk.globCip t disk dir := by
  unfold FilePair.repaired
  split
  · exact ⟨fun _ _ _ => rfl, fun _ _ _ => rfl⟩
  · exact ⟨fun _ hprimary _ => find_put_of_ne hprimary _, fun _ hprimary _ => globCip_put hprimary _⟩
  · split
    · exact ⟨fun _ _ _ => rfl, fun _ _ _ => rfl⟩
    · constructor
      · intro path hprimary hstage
        rw [find_put_of_ne hprimary, find_erase_of_ne hstage, find_put_of_ne hstage]
      · intro dir hprimary hstage
        rw [globCip_put hprimary, globCip_erase hstage, globCip_put hstage]

theorem repaired_policy {p : FilePair} (hp : p ∈ [driverPair, servicePair]) (disk : Disk)
    (h : Disk.PolicySettled t disk) : Disk.PolicySettled t (p.repaired t std disk) := by
  obtain ⟨hfind, hglob⟩ := repaired_keeps t std p disk
  have hne : (∀ path ∈ [wdacBackup, wdacPolicy], foldPath t path ≠ foldPath t p.primary ∧
      foldPath t path ≠ foldPath t (stageOf p.primary)) ∧ foldPath t p.primary.dropLast ≠ foldPath t wdacPolicyDir ∧
      foldPath t (stageOf p.primary).dropLast ≠ foldPath t wdacPolicyDir := by
    simp only [List.mem_cons, List.not_mem_nil, or_false, forall_eq_or_imp, forall_eq] at hp ⊢
    rcases hp with rfl | rfl
    all_goals
      exact ⟨⟨⟨foldPath_ne (by decide) t, foldPath_ne (by decide) t⟩, foldPath_ne (by decide) t, foldPath_ne (by decide) t⟩,
        foldPath_ne (by decide) t, foldPath_ne (by decide) t⟩
  have hbackup := hne.1 wdacBackup (by simp)
  have hpolicy := hne.1 wdacPolicy (by simp)
  rw [Disk.PolicySettled, hglob _ hne.2.1 hne.2.2, hfind _ hbackup.1 hbackup.2, hfind _ hpolicy.1 hpolicy.2]
  exact h

/-- **The files of a pass**: the policy, the driver's image, the watchdog's own. -/
theorem files_repairs (t : CaseTables) (std : GoStd) : Repairs (Disk.enforced t std) (Disk.Settled t std) := by
  refine ((withPolicy_repairs t).comp (repaired_repairs (driverPair_distinct t)) ?_).comp
    (repaired_repairs (servicePair_distinct t)) ?_
  · exact fun disk => repaired_policy (by simp) disk
  · rintro disk ⟨hpolicy, hdriver⟩
    refine ⟨repaired_policy (by simp) disk hpolicy, ?_⟩
    obtain ⟨hfind, -⟩ := repaired_keeps t std servicePair disk
    rw [FilePair.Settled, hfind driverPair.backup (foldPath_ne (by decide) t) (foldPath_ne (by decide) t),
      hfind driverPair.primary (foldPath_ne (by decide) t) (foldPath_ne (by decide) t)]
    exact hdriver

end

/-! ## What the checks come to -/

section
variable {t : CaseTables} {std : GoStd} {env : Call → Outcome} {m : Host}

/-- What the programs print in a pass says how the machine is at its start. -/
structure Truthful (env : Call → Outcome) (m : Host) : Prop where
  driver : containsText (env (.run "sc.exe" ["query", "lockguard"])).out "RUNNING" = (m.services "lockguard").running
  audio : ∀ svc ∈ audioServices,
    containsText (env (.run "sc.exe" ["qc", svc])).out "DISABLED" = decide ((m.services svc).startType = .disabled)
  testsigning : matchString bcdTestSigningRe (bcdText env) = decide (m.bcd.testsigning = some "Yes")
  bootmenupolicy : matchString bcdBootMenuStdRe (bcdText env) = decide (m.bcd.bootmenupolicy = some "Standard")
  safeboot : matchString bcdSafeBootPresent (bcdText env) = m.bcd.safeboot.isSome

def Host.withServices (m : Host) (services : String → Service) : Host := { m with services := services }

@[simp] theorem withServices_services (m : Host) (services : String → Service) : (m.withServices services).services = services :=
  rfl

@[simp] theorem withServices_bcd (m : Host) (services : String → Service) : (m.withServices services).bcd = m.bcd := rfl

@[simp] theorem withServices_withServices (m : Host) (services services' : String → Service) :
    (m.withServices services).withServices services' = m.withServices services' := rfl

/-- The driver runs, the audio services are disabled and stopped. -/
def enforcedServices (services : String → Service) : String → Service :=
  Function.update (Function.update (Function.update services "lockguard" { services "lockguard" with running := true })
    "audiosrv" ⟨.disabled, false⟩) "AudioEndpointBuilder" ⟨.disabled, false⟩

/-- The WLAN check changes nothing but filter lists. -/
theorem ensureWLANFilter_frame (std : GoStd) (env : Call → Outcome) (m : Host) : ∃ lists,
    ((ensureWLANFilter std).run (onHost t env) m).2 = { m with filterList := lists } := by
  have hkeeps := check_keeps t env (f := fun m : Host => (m.disk, m.services, m.bcd, m.exe, m.debugger, m.interfaces))
    (ensureWLANFilter_makes std) (fun c hc m => ?_) m
  · generalize ((ensureWLANFilter std).run (onHost t env) m).2 = m' at hkeeps
    obtain ⟨disk, services, bcd, exe, debugger, interfaces, lists⟩ := m'
    simp only [Prod.mk.injEq] at hkeeps
    obtain ⟨rfl, rfl, rfl, rfl, rfl, rfl⟩ := hkeeps
    exact ⟨lists, rfl⟩
  · cases c with
    | wlanSetFilterList iface ty nets =>
      simp only [onHost, Host.answer]
      split <;> rfl
    | _ => first | rfl | cases hc

section
variable (hsucceeds : ∀ c, (env c).fails = false)
include hsucceeds

theorem ensureDriverRunning_run
    (hquery : containsText (env (.run "sc.exe" ["query", "lockguard"])).out "RUNNING" = (m.services "lockguard").running) :
    (ensureDriverRunning.run (onHost t env) m).2 =
      m.withServices (Function.update m.services "lockguard" { m.services "lockguard" with running := true }) := by
  have hcommand : m.command "sc.exe" ["query", "lockguard"] = m := rfl
  simp only [ensureDriverRunning, Prog.run_bind, run_runQuiet, hsucceeds, Bool.false_eq_true, if_false, hcommand, hquery]
  cases hrunning : (m.services "lockguard").running with
  | true =>
    have hsame : ({ m.services "lockguard" with running := true } : Service) = m.services "lockguard" := by rw [← hrunning]
    rw [hsame, Function.update_eq_self]
    rfl
  | false => simp [Host.command, Host.withServices, hsucceeds]

theorem ensureServiceDisabled_run (name : String)
    (hqc : containsText (env (.run "sc.exe" ["qc", name])).out "DISABLED" = decide ((m.services name).startType = .disabled)) :
    ((ensureServiceDisabled name).run (onHost t env) m).2 =
      m.withServices (Function.update m.services name ⟨.disabled, false⟩) := by
  have hcommand : m.command "sc.exe" ["qc", name] = m := rfl
  simp only [ensureServiceDisabled, Prog.run_bind, run_runQuiet, hsucceeds, Bool.false_eq_true, if_false, hcommand, hqc]
  by_cases hdisabled : (m.services name).startType = .disabled
  · simp [hdisabled, hsucceeds, Host.withServices]
  · simp [hdisabled, hsucceeds, Host.withServices]

theorem runIf_run {b : Bool} {cmd : String} {args : List String} :
    ((runIf b cmd args).run (onHost t env) m).2 = if b then m.command cmd args else m := by
  cases b with
  | false => rfl
  | true => simp [runIf, hsucceeds]

theorem ensureBCDState_run (h₁ : matchString bcdTestSigningRe (bcdText env) = decide (m.bcd.testsigning = some "Yes"))
    (h₂ : matchString bcdBootMenuStdRe (bcdText env) = decide (m.bcd.bootmenupolicy = some "Standard"))
    (h₃ : matchString bcdSafeBootPresent (bcdText env) = m.bcd.safeboot.isSome) :
    (ensureBCDState.run (onHost t env) m).2 = { m with bcd := ⟨some "Yes", some "Standard", none⟩ } := by
  have henum : ∀ m : Host, m.command "bcdedit.exe" ["/enum", "\x7bcurrent\x7d"] = m := fun _ => rfl
  have htext : (env (.run "bcdedit.exe" ["/enum", "\x7bcurrent\x7d"])).out = bcdText env := rfl
  obtain ⟨disk, services, ⟨testsigning, bootmenupolicy, safeboot⟩, exe, debugger, interfaces, filterList⟩ := m
  simp only [ensureBCDState, Prog.run_bind, run_runQuiet, henum, htext, ite_self, Prog.run_pure, runIf_run hsucceeds, h₁, h₂, h₃]
  by_cases h₄ : testsigning = some "Yes"
  all_goals by_cases h₅ : bootmenupolicy = some "Standard"
  all_goals cases safeboot <;> simp [h₄, h₅]

theorem ensureWDACPolicy_run (m : Host) :
    (ensureWDACPolicy.run (onHost t env) m).2 = { m with disk := Disk.withPolicy t m.disk } := by
  simp only [ensureWDACPolicy, Prog.run_bind, run_filepathGlob, hsucceeds, Bool.false_eq_true, if_false, Disk.withPolicy]
  cases hglob : Disk.globCip t m.disk wdacPolicyDir with
  | cons name names => simp
  | nil =>
    simp only [List.length_nil, gt_iff_lt, lt_self_iff_false, if_false, Prog.run_bind, run_osStat, hsucceeds]
    cases hbackup : Disk.find t m.disk wdacBackup with
    | none => simp
    | some cip =>
      have hcopy : CopySucceeds env wdacBackup wdacPolicy := ⟨hsucceeds _, hsucceeds _, hsucceeds _, hsucceeds _⟩
      simp [copyFile_run (wdacBackup_ne_policy t) hbackup hcopy, put_put]

theorem ensurePair_run (std : GoStd) {p : FilePair} (hp : p.Distinct t) (m : Host) :
    (ensurePair std p).run (onHost t env) m = (.ok (), { m with disk := p.repaired t std m.disk }) := by
  have hread : ∀ path, m.readOf t env path = Disk.find t m.disk path := fun path => by simp [Host.readOf, hsucceeds]
  have hcopy : ∀ src dst, CopySucceeds env src dst := fun _ _ => ⟨hsucceeds _, hsucceeds _, hsucceeds _, hsucceeds _⟩
  unfold FilePair.repaired
  split
  · rename_i hbackup
    exact ensurePair_quiet (Or.inl ((hread _).trans hbackup))
  · rename_i b hprimary hbackup
    rw [ensurePair_missing ((hread _).trans hprimary) ((hread _).trans hbackup),
      copyFile_run hp.backup_primary hbackup (hcopy _ _), put_put]
    rfl
  · rename_i d b hprimary hbackup
    by_cases hsame : std.sha256Hex d = std.sha256Hex b
    · rw [if_pos hsame]
      exact ensurePair_quiet (Or.inr ⟨d, b, (hread _).trans hprimary, (hread _).trans hbackup, hsame⟩)
    · rw [if_neg hsame, ensurePair_differs ((hread _).trans hprimary) ((hread _).trans hbackup) hsame, atomicReplace,
        run_orReturn, copyFile_run hp.backup_stage hbackup (hcopy _ _)]
      simp only
      rw [run_osRename]
      simp [onHost, Host.answer, hsucceeds, orFail, put_put, Except.mapError]

theorem ensureFileIntegrity_run (m : Host) : ((ensureFileIntegrity std).run (onHost t env) m).2 =
    { m with disk := servicePair.repaired t std (driverPair.repaired t std m.disk) } := by
  have hdriver := ensurePair_run hsucceeds std (driverPair_distinct t) m
  have hservice := ensurePair_run hsucceeds std (servicePair_distinct t)
    { m with disk := driverPair.repaired t std m.disk }
  rw [ensureFileIntegrity, ensurePairs, run_orReturn, hdriver]
  simp only
  rw [ensurePairs, run_orReturn, hservice]
  rfl

/-- **What a pass comes to**, but for the filter lists. -/
theorem enforced_run (t : CaseTables) (std : GoStd) (htruth : Truthful env m) : ∃ lists, m.enforced t env std =
    { m with
      disk := Disk.enforced t std m.disk
      services := enforcedServices m.services
      bcd := ⟨some "Yes", some "Standard", none⟩
      debugger := fun img => if img ∈ blockedImages then some (trampoline m.exe) else m.debugger img
      filterList := lists } := by
  have hfirst : m.beforeWlan t env = { m with
      disk := Disk.withPolicy t m.disk
      services := enforcedServices m.services
      bcd := ⟨some "Yes", some "Standard", none⟩ } := by
    have hbcd : ∀ services, (ensureBCDState.run (onHost t env) (m.withServices services)).2 =
        { m with services := services, bcd := ⟨some "Yes", some "Standard", none⟩ } := fun services =>
      ensureBCDState_run hsucceeds (m := m.withServices services) htruth.testsigning htruth.bootmenupolicy htruth.safeboot
    rw [Host.beforeWlan, runChecks_state]
    simp only [firstChecks, List.foldl_cons, List.foldl_nil, ensureAudioDisabled, ensureAudioEndpointDisabled]
    rw [ensureDriverRunning_run hsucceeds htruth.driver, ensureServiceDisabled_run hsucceeds "audiosrv",
      ensureServiceDisabled_run hsucceeds "AudioEndpointBuilder", withServices_withServices, withServices_withServices,
      hbcd, ensureWDACPolicy_run hsucceeds]
    · rfl
    · simpa using htruth.audio "AudioEndpointBuilder" (by decide)
    · simpa using htruth.audio "audiosrv" (by decide)
  obtain ⟨lists, hwlan⟩ := ensureWLANFilter_frame (t := t) std env (m.beforeWlan t env)
  refine ⟨lists, ?_⟩
  have hdebuggers := enforced_debuggers hsucceeds t std m
  rw [enforced_debugger] at hdebuggers
  rw [enforced_eq, ensureFileIntegrity_run hsucceeds, hdebuggers, Host.beforeFiles, Host.beforeIfeo, hwlan, hfirst,
    ensureIFEOBlocks_run]
  rfl

end

/-! ## A stop that fails -/

/-- Nothing fails in the pass, unless it is the stop of an audio service that does not run: `sc.exe` then exits with
an error (1062), which `ensureServiceDisabled` drops (`:113-121`). -/
def SmoothOn (env : Call → Outcome) (m : Host) : Prop := ∀ c, (env c).fails = true →
  ∃ svc ∈ audioServices, c = .run "sc.exe" ["stop", svc] ∧ (m.services svc).running = false

theorem smooth_of_succeeds (h : ∀ c, (env c).fails = false) : SmoothOn env m :=
  fun c hc => absurd (hc.symm.trans (h c)) (by decide)

/-- The same with no failure. -/
def mended (env : Call → Outcome) (c : Call) : Outcome := { env c with fails := false }

theorem mended_succeeds (env : Call → Outcome) (c : Call) : (mended env c).fails = false := rfl

theorem truthful_mended (h : Truthful env m) : Truthful (mended env) m :=
  ⟨h.driver, h.audio, h.testsigning, h.bootmenupolicy, h.safeboot⟩

/-- The call is no `sc.exe stop`. -/
def Call.StopsNothing (c : Call) : Prop := ∀ svc, c ≠ .run "sc.exe" ["stop", svc]

theorem run_mended {check : Go (Except GoError Unit)} (hsmooth : SmoothOn env m) (hmakes : check.Makes Call.StopsNothing)
    (m' : Host) : check.run (onHost t env) m' = check.run (onHost t (mended env)) m' := by
  have hsame : ∀ c, c.StopsNothing → mended env c = env c := by
    intro c hc
    cases hfails : (env c).fails with
    | true =>
      obtain ⟨svc, -, hstop, -⟩ := hsmooth c hfails
      exact absurd hstop (hc svc)
    | false => rw [mended, ← hfails]
  obtain ⟨hresult, hstate⟩ := Prog.run_sim (R := Eq) (h := onHost t env) (g := onHost t (mended env))
    (fun c s u hc hsu => by simp only [onHost, hsame c hc, hsu, and_self]) hmakes (rfl : m' = m')
  exact Prod.ext hresult hstate

theorem ensureDriverRunning_stops : ensureDriverRunning.Makes Call.StopsNothing := by
  refine Prog.makes_bind (Prog.makes_perform fun svc => by simp) fun r => makes_ite (Prog.makes_pure _) ?_
  exact Prog.makes_bind (Prog.makes_perform fun svc => by simp) fun _ => Prog.makes_pure _

theorem ensureBCDState_stops : ensureBCDState.Makes Call.StopsNothing := by
  have hrunIf : ∀ b args, (runIf b "bcdedit.exe" args).Makes Call.StopsNothing := fun b args =>
    makes_ite (Prog.makes_bind (Prog.makes_perform fun svc => by simp) fun _ => Prog.makes_pure _) (Prog.makes_pure _)
  refine Prog.makes_bind (Prog.makes_perform fun svc => by simp) fun r => ?_
  refine Prog.makes_bind (hrunIf _ _) fun _ => Prog.makes_bind (hrunIf _ _) fun _ => ?_
  exact Prog.makes_bind (hrunIf _ _) fun _ => Prog.makes_pure _

/-- A service that cannot be stopped because it does not run is as if it had been. -/
theorem stop_mended {name : String} (hsmooth : SmoothOn env m) {m' : Host}
    (hsame : (m'.services name).running = (m.services name).running) :
    ((runQuiet "sc.exe" ["stop", name]).run (onHost t env) m').2 =
      ((runQuiet "sc.exe" ["stop", name]).run (onHost t (mended env)) m').2 := by
  simp only [run_runQuiet, mended, Bool.false_eq_true, if_false]
  cases hfails : (env (.run "sc.exe" ["stop", name])).fails with
  | false => rfl
  | true =>
    obtain ⟨svc, -, hsvc, hstopped⟩ := hsmooth _ hfails
    obtain rfl : name = svc := by simpa using hsvc
    have hservice : ({ m'.services name with running := false } : Service) = m'.services name := by
      rw [← hsame.trans hstopped]
    rw [if_pos rfl, command_stop, hservice, Function.update_eq_self]

/-- The check, up to the stop it ends with. -/
theorem ensureServiceDisabled_stops {name : String} {m' : Host} (hqc : (env (.run "sc.exe" ["qc", name])).fails = false)
    (hconfig : (env (.run "sc.exe" ["config", name, "start=", "disabled"])).fails = false) :
    ((ensureServiceDisabled name).run (onHost t env) m').2 = ((runQuiet "sc.exe" ["stop", name]).run (onHost t env)
      (if containsText (env (.run "sc.exe" ["qc", name])).out "DISABLED" then m'
        else m'.command "sc.exe" ["config", name, "start=", "disabled"])).2 := by
  have hcommand : m'.command "sc.exe" ["qc", name] = m' := rfl
  by_cases hdisabled : containsText (env (.run "sc.exe" ["qc", name])).out "DISABLED" = true
  all_goals simp [ensureServiceDisabled, hqc, hconfig, hcommand, hdisabled]

theorem ensureServiceDisabled_mended (name : String) (hsmooth : SmoothOn env m) {m' : Host}
    (hsame : (m'.services name).running = (m.services name).running) :
    ((ensureServiceDisabled name).run (onHost t env) m').2 =
      ((ensureServiceDisabled name).run (onHost t (mended env)) m').2 := by
  have hfine : ∀ c : Call, c.StopsNothing → (env c).fails = false := by
    intro c hc
    by_contra hfails
    obtain ⟨svc, -, hstop, -⟩ := hsmooth c (by simpa using hfails)
    exact hc svc hstop
  rw [ensureServiceDisabled_stops (hfine _ fun svc => by simp) (hfine _ fun svc => by simp),
    ensureServiceDisabled_stops (mended_succeeds env _) (mended_succeeds env _)]
  refine stop_mended hsmooth ?_
  split
  · exact hsame
  · simpa using hsame

/-- **A pass does as it would if no stop failed.** -/
theorem enforced_mended (t : CaseTables) (std : GoStd) (hsmooth : SmoothOn env m) (htruth : Truthful env m) :
    m.enforced t env std = m.enforced t (mended env) std := by
  have hother : ∀ {check : Go (Except GoError Unit)}, check.Makes Call.StopsNothing → ∀ m',
      (check.run (onHost t env) m').2 = (check.run (onHost t (mended env)) m').2 :=
    fun hmakes m' => congrArg Prod.snd (run_mended hsmooth hmakes m')
  have hdriver := ensureDriverRunning_run (t := t) (mended_succeeds env) (truthful_mended htruth).driver
  have haudio : containsText (mended env (.run "sc.exe" ["qc", "audiosrv"])).out "DISABLED" =
      decide ((m.services "audiosrv").startType = .disabled) := htruth.audio "audiosrv" (by decide)
  have hafter := ensureServiceDisabled_run (t := t) (mended_succeeds env) (m := m.withServices (Function.update m.services
    "lockguard" { m.services "lockguard" with running := true })) "audiosrv" (by simpa using haudio)
  rw [Host.enforced, Host.enforced, enforceOnce, runChecks_state, runChecks_state]
  simp only [checks, List.foldl_cons, List.foldl_nil, ensureAudioDisabled, ensureAudioEndpointDisabled]
  rw [hother ensureDriverRunning_stops, hdriver, ensureServiceDisabled_mended "audiosrv" hsmooth (by simp), hafter,
    ensureServiceDisabled_mended "AudioEndpointBuilder" hsmooth (by simp), hother ensureBCDState_stops,
    hother (ensureWDACPolicy_makes.mono ?_), hother ((ensureWLANFilter_makes std).mono ?_),
    hother (ensureIFEOBlocks_makes.mono ?_), hother ((ensureFileIntegrity_makes std).mono ?_)]
  all_goals
    rintro c hc svc rfl
    simp [Call.IsPolicy, Call.IsCopy, Call.IsWlan, Call.IsIfeo, Call.IsFileRepair, FilePair.Repairs] at hc

/-! ## The machine at rest -/

structure Host.Settled (t : CaseTables) (std : GoStd) (m : Host) : Prop where
  files : Disk.Settled t std m.disk
  driver : (m.services "lockguard").running = true
  audio : ∀ svc ∈ audioServices, m.services svc = ⟨.disabled, false⟩
  bcd : m.bcd.Right
  images : ImagesBlocked m
  filters : FiltersSettled std t m

theorem enforcedServices_settled (services : String → Service) :
    (enforcedServices services "lockguard").running = true ∧
    ∀ svc ∈ audioServices, enforcedServices services svc = ⟨.disabled, false⟩ := by
  refine ⟨by simp [enforcedServices], ?_⟩
  simp [audioServices, enforcedServices]

theorem enforcedServices_same {services : String → Service} (hdriver : (services "lockguard").running = true)
    (haudio : ∀ svc ∈ audioServices, services svc = ⟨.disabled, false⟩) : enforcedServices services = services := by
  have hlockguard : ({ services "lockguard" with running := true } : Service) = services "lockguard" := by rw [← hdriver]
  have hdisabled : ∀ svc ∈ audioServices, Function.update services svc ⟨.disabled, false⟩ = services := by
    intro svc hsvc
    rw [← haudio svc hsvc, Function.update_eq_self]
  rw [enforcedServices, hlockguard, Function.update_eq_self, hdisabled "audiosrv" (by decide),
    hdisabled "AudioEndpointBuilder" (by decide)]

section
variable (hsmooth : SmoothOn env m) (htruth : Truthful env m)
include hsmooth htruth

theorem pass_settles (t : CaseTables) (std : GoStd) : (m.enforced t env std).Settled t std := by
  rw [enforced_mended t std hsmooth htruth]
  have hfilters : FiltersSettled std t (m.enforced t (mended env) std) := enforced_settled (mended_succeeds env) m
  obtain ⟨lists, hrun⟩ := enforced_run (mended_succeeds env) t std (truthful_mended htruth)
  rw [hrun] at hfilters ⊢
  obtain ⟨hdriver, haudio⟩ := enforcedServices_settled m.services
  exact ⟨(files_repairs t std).mends _, hdriver, haudio, ⟨rfl, rfl, rfl⟩, fun img himg => if_pos himg, hfilters⟩

theorem pass_quiet {t : CaseTables} {std : GoStd} (h : m.Settled t std) : m.enforced t env std = m := by
  rw [enforced_mended t std hsmooth htruth]
  have hlists : (m.enforced t (mended env) std).filterList = m.filterList := enforced_keepsLists (mended_succeeds env) h.filters
  obtain ⟨lists, hrun⟩ := enforced_run (mended_succeeds env) t std (truthful_mended htruth)
  rw [hrun] at hlists ⊢
  obtain rfl : lists = m.filterList := hlists
  have hdebuggers : (fun img => if img ∈ blockedImages then some (trampoline m.exe) else m.debugger img) = m.debugger := by
    funext img
    split
    · rename_i himg
      exact (h.images img himg).symm
    · rfl
  have hbcd : m.bcd = ⟨some "Yes", some "Standard", none⟩ := by
    obtain ⟨h₁, h₂, h₃⟩ := h.bcd
    rw [← h₁, ← h₂, ← h₃]
  rw [hdebuggers, (files_repairs t std).quiet _ h.files, enforcedServices_same h.driver h.audio, ← hbcd]

end

/-- In each pass nothing fails but such a stop, and it is told the truth about the machine it finds. -/
def SteadyPasses (t : CaseTables) (std : GoStd) : Host → List (Call → Outcome) → Prop
  | _, [] => True
  | m, env :: envs => (SmoothOn env m ∧ Truthful env m) ∧ SteadyPasses t std (m.enforced t env std) envs

theorem settled_passes {envs : List (Call → Outcome)} (h : SteadyPasses t std m envs) (hm : m.Settled t std) :
    m.watched t std envs = m := by
  induction envs with
  | nil => rfl
  | cons env envs ih =>
    obtain ⟨⟨hsmooth, htruth⟩, hrest⟩ := h
    have hquiet := pass_quiet hsmooth htruth hm
    rw [hquiet] at hrest
    rw [Host.watched, List.foldl_cons, ← Host.watched, hquiet]
    exact ih hrest

/-- **The passes come to rest after the first**, from whatever machine: it leaves the files the same as their backups,
the policy in place, the driver running, the audio services disabled, the boot settings, the debuggers
and the filter lists right, and no further pass changes anything, though the stop of a stopped service fails in it. A
machine that a pass leaves alone is one that is so already. -/
theorem passes_settle (t : CaseTables) (std : GoStd) (m : Host) (env : Call → Outcome) (envs : List (Call → Outcome))
    (h : SteadyPasses t std m (env :: envs)) : m.watched t std (env :: envs) = m.enforced t env std ∧
    (m.enforced t env std).Settled t std ∧ (m.enforced t env std = m ↔ m.Settled t std) := by
  obtain ⟨⟨hsmooth, htruth⟩, hrest⟩ := h
  have hsettles := pass_settles hsmooth htruth t std
  exact ⟨settled_passes hrest hsettles, hsettles, fun hsame => hsame ▸ hsettles, pass_quiet hsmooth htruth⟩

end

/-- What the programs print on a machine at rest, and on `driftedHost`. -/
def printed (args : List String) (atRest : Bool) : String :=
  match args with
  | ["query", _] => "STATE : 4 RUNNING"
  | ["qc", _] => if atRest then "START_TYPE : 4 DISABLED" else "START_TYPE : 3 DEMAND_START"
  | _ => if atRest then "bootmenupolicy Standard\ntestsigning Yes" else "bootmenupolicy Legacy"

/-- At rest the audio services do not run, and cannot be stopped. -/
def printing (atRest : Bool) : Call → Outcome
  | .run "sc.exe" ["stop", svc] => ⟨atRest && decide (svc ∈ audioServices), "", 0⟩
  | .run _ args => ⟨false, printed args atRest, 0⟩
  | _ => ⟨false, "", 0⟩

theorem printing_fails {atRest : Bool} {c : Call} (h : (printing atRest c).fails = true) :
    atRest = true ∧ ∃ svc ∈ audioServices, c = .run "sc.exe" ["stop", svc] := by
  unfold printing at h
  split at h
  · rename_i svc
    simp only [Bool.and_eq_true, decide_eq_true_eq] at h
    exact ⟨h.1, svc, h.2, rfl⟩
  · cases h
  · cases h

theorem printing_smooth {t : CaseTables} {std : GoStd} {m : Host} (h : m.Settled t std) : SmoothOn (printing true) m := by
  intro c hc
  obtain ⟨-, svc, hsvc, rfl⟩ := printing_fails hc
  exact ⟨svc, hsvc, rfl, by rw [h.audio svc hsvc]⟩

theorem printing_truthful {t : CaseTables} {std : GoStd} {m : Host} (h : m.Settled t std) : Truthful (printing true) m where
  driver := by
    rw [h.driver]
    decide
  audio svc hsvc := by
    rw [h.audio svc hsvc]
    exact (by decide : containsText (printed ["qc", ""] true) "DISABLED" = true)
  testsigning := by
    rw [h.bcd.1]
    decide
  bootmenupolicy := by
    rw [h.bcd.2.1]
    decide
  safeboot := by
    rw [h.bcd.2.2]
    decide

theorem printing_drifted : Truthful (printing false) driftedHost where
  driver := by decide
  audio := by decide
  testsigning := by decide
  bootmenupolicy := by decide
  safeboot := by decide

/-- Two passes over a machine that has drifted; in the second nothing is left to stop. -/
theorem passes_settle_drifted : driftedHost.enforced .ascii (printing false) workedStd ≠ driftedHost ∧
    (printing true (.run "sc.exe" ["stop", "audiosrv"])).fails = true ∧
    driftedHost.watched .ascii workedStd [printing false, printing true] =
      driftedHost.enforced .ascii (printing false) workedStd := by
  have hsmooth : SmoothOn (printing false) driftedHost := fun c hc => absurd (printing_fails hc).1 Bool.false_ne_true
  have hsettled := pass_settles hsmooth printing_drifted .ascii workedStd
  obtain ⟨hpassed, -, hquiet⟩ := passes_settle .ascii workedStd driftedHost (printing false) [printing true]
    ⟨⟨hsmooth, printing_drifted⟩, ⟨printing_smooth hsettled, printing_truthful hsettled⟩, trivial⟩
  refine ⟨fun hsame => ?_, by decide, hpassed⟩
  cases (hquiet.1 hsame).bcd.1

end Lockguard
