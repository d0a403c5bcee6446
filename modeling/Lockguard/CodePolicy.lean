import Lockguard.EntryPoints
import Lockguard.SteadyState
/-!
# The watchdog under the code integrity policy (`config/WDACPolicy.xml`, `enforce_windows.go:63-168`)

The policy admits what it lists and denies the rest, once it is built without its audit option
(`Install-Lockguard.ps1:267-296`). `sc.exe` and `bcdedit.exe` are among what it denies, and the first four checks
do everything with these: `policy_disarms` is what the passes come to then.
-/
namespace Lockguard

open Calls

/-! ## The policy -/

structure CodePolicy where
  auditMode : Bool
  allow : List String
  deny : List String

/-- `FileName` rules, which ignore case; a deny rule comes first, and nothing is blocked in audit mode. -/
def CodePolicy.admits (p : CodePolicy) (fileName : String) : Bool :=
  let listed := fun rules : List String => rules.any fun rule => rule.toList == fileName.toList.map Char.toUpper
  p.auditMode || (listed p.allow && !listed p.deny)

/-- The file rules of `WDACPolicy.xml`. -/
def codePolicy (auditMode : Bool) : CodePolicy where
  auditMode := auditMode
  allow := ["WINWORD.EXE", "EXPLORER.EXE", "MSEDGE.EXE", "NOTEPAD.EXE", "PRINTUI.EXE", "SPOOLSV.EXE", "SVCHOST.EXE", "DWM.EXE",
    "LOGONUI.EXE", "LSASS.EXE", "CSRSS.EXE", "WINLOGON.EXE", "SERVICES.EXE", "SMSS.EXE", "WININIT.EXE", "FONTDRVHOST.EXE",
    "RUNTIMEBROKER.EXE", "LOCKGUARD-SVC.EXE", "LOCKGUARD-CLI.EXE"]
  deny := ["CMD.EXE", "POWERSHELL.EXE", "POWERSHELL_ISE.EXE", "WSCRIPT.EXE", "CSCRIPT.EXE", "MSHTA.EXE", "REGEDIT.EXE",
    "TASKMGR.EXE", "BCDEDIT.EXE", "SC.EXE", "NET.EXE", "NET1.EXE", "NETSH.EXE", "REG.EXE", "RUNDLL32.EXE"]

/-- A program that is not admitted does not start, and prints nothing. -/
def Confined (p : CodePolicy) (env : Call → Outcome) : Prop :=
  ∀ cmd args, p.admits cmd = false → (env (.run cmd args)).fails = true ∧ (env (.run cmd args)).out = ""

theorem admits_programs (auditMode : Bool) {cmd : String} (h : cmd = "sc.exe" ∨ cmd = "bcdedit.exe") :
    (codePolicy auditMode).admits cmd = auditMode := by
  cases auditMode with
  | true => rfl
  | false => rcases h with rfl | rfl <;> decide

section
variable {t : CaseTables} {std : GoStd} {env : Call → Outcome}

theorem confined_run (h : Confined (codePolicy false) env) {cmd : String} (args : List String)
    (hcmd : cmd = "sc.exe" ∨ cmd = "bcdedit.exe") : (env (.run cmd args)).fails = true ∧ (env (.run cmd args)).out = "" :=
  h cmd args (admits_programs false hcmd)

/-! ## What needs a program -/

/-- No pass changes services or boot settings. -/
theorem confined_settings (t : CaseTables) (std : GoStd) (h : Confined (codePolicy false) env) (m : Host) :
    (m.enforced t env std).services = m.services ∧ (m.enforced t env std).bcd = m.bcd := by
  refine Prod.ext_iff.1 (check_keeps t env (f := fun m => (m.services, m.bcd)) (enforceOnce_makes std) (fun c hc m => ?_) m)
  cases c with
  | run cmd args =>
    have hcmd : cmd = "sc.exe" ∨ cmd = "bcdedit.exe" := by simpa [Call.IsWatchdog, Call.IsProgram, Call.IsPolicy, Call.IsCopy,
      Call.IsWlan, Call.IsIfeo, Call.IsFileRepair, FilePair.Repairs] using hc
    simp [onHost, Host.answer, (confined_run h args hcmd).1]
  | copy src dst =>
    simp only [onHost, Host.answer]
    split <;> rfl
  | rename src dst =>
    simp only [onHost, Host.answer]
    split
    · rfl
    · split <;> rfl
  | _ => first | rfl | (simp only [onHost, Host.answer]; split <;> rfl)

/-- What the first four checks log. -/
def refused : List (String × Except GoError Unit) :=
  [("driver-running", .error (.failed (.run "sc.exe" ["start", "lockguard"]))),
   ("audio-disabled", .error (.failed (.run "sc.exe" ["config", "audiosrv", "start=", "disabled"]))),
   ("audio-endpoint-disabled", .error (.failed (.run "sc.exe" ["config", "AudioEndpointBuilder", "start=", "disabled"]))),
   ("bcd-state", .ok ())]

theorem confined_log (h : Confined (codePolicy false) env) (m : Host) :
    ((enforceOnce std).run (onHost t env) m).1.take 4 = refused := by
  have hsc := fun args => confined_run h args (Or.inl (rfl : "sc.exe" = "sc.exe"))
  have hrunning : containsText "" "RUNNING" = false := by decide
  have hdisabled : containsText "" "DISABLED" = false := by decide
  simp [enforceOnce, checks, runChecks, ensureDriverRunning, ensureAudioDisabled, ensureAudioEndpointDisabled,
    ensureServiceDisabled, ensureBCDState_ok, hsc, hrunning, hdisabled, orFail, refused]

/-! ## What needs none -/

/-- What the other four checks work on. -/
def Host.rest (m : Host) : Disk × String × (String → Option String) × List Guid × (Guid → UInt32 → List Dot11Network) :=
  (m.disk, m.exe, m.debugger, m.interfaces, m.filterList)

theorem program_rest {c : Call} (hc : c.IsProgram) : c.Keeps t env Host.rest := by
  intro m
  cases c with
  | run cmd args =>
    simp only [onHost, Host.answer]
    split
    · rfl
    · obtain ⟨services, bcd, hm⟩ := command_frame m cmd args
      rw [hm]
      rfl
  | _ => cases hc

def bcdPrinted (testsigning bootmenupolicy safeboot : Bool) : String :=
  (if testsigning then "testsigning Yes\n" else "") ++ (if bootmenupolicy then "bootmenupolicy Standard\n" else "") ++
    if safeboot then "safeboot Minimal\n" else ""

theorem bcdPrinted_matches (a b c : Bool) : matchString bcdTestSigningRe (bcdPrinted a b c) = a ∧
    matchString bcdBootMenuStdRe (bcdPrinted a b c) = b ∧ matchString bcdSafeBootPresent (bcdPrinted a b c) = c := by
  cases a <;> cases b <;> cases c <;> decide

/-- What the programs of a pass would print if they told how the machine is. -/
def telling (env : Call → Outcome) (m : Host) : Call → Outcome
  | .run _ args => ⟨false, match args with
    | ["query", _] => if (m.services "lockguard").running then "RUNNING" else ""
    | ["qc", svc] => if (m.services svc).startType = .disabled then "DISABLED" else ""
    | _ => bcdPrinted (decide (m.bcd.testsigning = some "Yes")) (decide (m.bcd.bootmenupolicy = some "Standard"))
      m.bcd.safeboot.isSome, 0⟩
  | c => env c

theorem telling_truthful (env : Call → Outcome) (m : Host) : Truthful (telling env m) m where
  driver := by
    show containsText (if (m.services "lockguard").running then "RUNNING" else "") "RUNNING" = _
    cases (m.services "lockguard").running <;> decide
  audio svc _ := by
    show containsText (if (m.services svc).startType = .disabled then "DISABLED" else "") "DISABLED" = _
    by_cases h : (m.services svc).startType = .disabled <;> simp only [h, if_true, if_false] <;> decide
  testsigning := (bcdPrinted_matches _ _ _).1
  bootmenupolicy := (bcdPrinted_matches _ _ _).2.1
  safeboot := (bcdPrinted_matches _ _ _).2.2

/-- A call that runs no program. -/
theorem call_rest {c : Call} (hc : ∀ cmd args, c ≠ .run cmd args) (env : Call → Outcome) (m : Host) {s u : Host}
    (h : s.rest = u.rest) : (onHost t env c s).1 = (onHost t (telling env m) c u).1 ∧
      (onHost t env c s).2.rest = (onHost t (telling env m) c u).2.rest := by
  obtain ⟨disk, services, bcd, exe, debugger, interfaces, filterList⟩ := s
  obtain ⟨disk', services', bcd', exe', debugger', interfaces', filterList'⟩ := u
  simp only [Host.rest, Prod.mk.injEq] at h
  obtain ⟨rfl, rfl, rfl, rfl, rfl⟩ := h
  have htelling : telling env m c = env c := by
    cases c with
    | run cmd args => exact absurd rfl (hc cmd args)
    | _ => rfl
  simp only [onHost, htelling]
  cases c with
  | run cmd args => exact absurd rfl (hc cmd args)
  | copy src dst =>
    simp only [Host.answer]
    split <;> exact ⟨rfl, rfl⟩
  | rename src dst =>
    simp only [Host.answer]
    split
    · exact ⟨rfl, rfl⟩
    · cases (env (.rename src dst)).fails <;> exact ⟨rfl, rfl⟩
  | create path => cases hfails : (env (.create path)).fails <;> simp [Host.answer, Host.rest, hfails]
  | setStringValue img name value =>
    refine ⟨rfl, ?_⟩
    simp only [Host.answer]
    split <;> rfl
  | wlanSetFilterList iface ty nets =>
    cases hfails : (env (.wlanSetFilterList iface ty nets)).fails <;> simp [Host.answer, Host.rest, hfails]
  | _ => exact ⟨rfl, rfl⟩

/-- The checks that run programs, and the others. -/
def programChecks : List Checker :=
  [⟨"driver-running", ensureDriverRunning⟩, ⟨"audio-disabled", ensureAudioDisabled⟩,
   ⟨"audio-endpoint-disabled", ensureAudioEndpointDisabled⟩, ⟨"bcd-state", ensureBCDState⟩]

def otherChecks (std : GoStd) : List Checker :=
  [⟨"wdac-policy", ensureWDACPolicy⟩, ⟨"wlan-filter", ensureWLANFilter std⟩, ⟨"ifeo-blocks", ensureIFEOBlocks⟩,
   ⟨"file-integrity", ensureFileIntegrity std⟩]

theorem programChecks_rest (env : Call → Outcome) (m : Host) :
    ((runChecks programChecks).run (onHost t env) m).2.rest = m.rest := by
  refine runChecks_keeps (fun c hc => ?_) m
  simp only [programChecks, List.mem_cons, List.not_mem_nil, or_false] at hc
  rcases hc with rfl | rfl | rfl | rfl
  · exact ensureDriverRunning_makes.mono fun _ => program_rest
  · exact (ensureServiceDisabled_makes _).mono fun _ => program_rest
  · exact (ensureServiceDisabled_makes _).mono fun _ => program_rest
  · exact ensureBCDState_makes.mono fun _ => program_rest

theorem otherChecks_makes (std : GoStd) : (runChecks (otherChecks std)).Makes fun c => ∀ cmd args, c ≠ .run cmd args := by
  refine runChecks_makes fun c hc => ?_
  have hnone : ∀ c : Call, c.IsPolicy ∨ c.IsWlan ∨ c.IsIfeo ∨ c.IsFileRepair → ∀ cmd args, c ≠ .run cmd args := by
    rintro c hc cmd args rfl
    simp [Call.IsPolicy, Call.IsCopy, Call.IsWlan, Call.IsIfeo, Call.IsFileRepair, FilePair.Repairs] at hc
  simp only [otherChecks, List.mem_cons, List.not_mem_nil, or_false] at hc
  rcases hc with rfl | rfl | rfl | rfl
  · exact ensureWDACPolicy_makes.mono fun c h => hnone c (Or.inl h)
  · exact (ensureWLANFilter_makes std).mono fun c h => hnone c (Or.inr (Or.inl h))
  · exact ensureIFEOBlocks_makes.mono fun c h => hnone c (Or.inr (Or.inr (Or.inl h)))
  · exact (ensureFileIntegrity_makes std).mono fun c h => hnone c (Or.inr (Or.inr (Or.inr h)))

/-- Whether the programs of a pass start makes no difference to the rest of the machine. -/
theorem enforced_rest (env : Call → Outcome) (m : Host) :
    (m.enforced t env std).rest = (m.enforced t (telling env m) std).rest := by
  have hsplit : ∀ e, m.enforced t e std =
      ((runChecks (otherChecks std)).run (onHost t e) ((runChecks programChecks).run (onHost t e) m).2).2 := by
    intro e
    rw [Host.enforced, enforceOnce, runChecks_state, runChecks_state, runChecks_state]
    rfl
  rw [hsplit, hsplit]
  refine (Prog.run_sim (R := fun s u : Host => s.rest = u.rest) (fun c s u hc h => call_rest hc env m h)
    (otherChecks_makes std) ?_).2
  rw [programChecks_rest, programChecks_rest]

/-- The files, the debuggers and the filter lists are as the checks for them want them. -/
structure Host.PartlySettled (t : CaseTables) (std : GoStd) (m : Host) : Prop where
  files : Disk.Settled t std m.disk
  images : ImagesBlocked m
  filters : FiltersSettled std t m

theorem partlySettled_congr {m m' : Host} (h : m.rest = m'.rest) (hm : m.PartlySettled t std) : m'.PartlySettled t std := by
  obtain ⟨disk, services, bcd, exe, debugger, interfaces, filterList⟩ := m
  obtain ⟨disk', services', bcd', exe', debugger', interfaces', filterList'⟩ := m'
  simp only [Host.rest, Prod.mk.injEq] at h
  obtain ⟨rfl, rfl, rfl, rfl, rfl⟩ := h
  exact ⟨hm.files, hm.images, hm.filters⟩

section
variable (hothers : ∀ c, (∀ cmd args, c ≠ .run cmd args) → (env c).fails = false)
include hothers

theorem telling_succeeds (m : Host) (c : Call) : (telling env m c).fails = false := by
  cases c with
  | run cmd args => rfl
  | _ => exact hothers _ (by simp)

theorem enforced_partlySettled (m : Host) : (m.enforced t env std).PartlySettled t std := by
  have hsettled := pass_settles (smooth_of_succeeds (telling_succeeds hothers m)) (telling_truthful env m) t std
  exact partlySettled_congr (enforced_rest env m).symm ⟨hsettled.files, hsettled.images, hsettled.filters⟩

end

/-- The end of the passes of a watchdog whose programs are denied. -/
theorem watched_settings {m : Host} {envs : List (Call → Outcome)} (h : ∀ env ∈ envs, Confined (codePolicy false) env) :
    (m.watched t std envs).services = m.services ∧ (m.watched t std envs).bcd = m.bcd := by
  induction envs generalizing m with
  | nil => exact ⟨rfl, rfl⟩
  | cons env envs ih =>
    obtain ⟨hservices, hbcd⟩ := confined_settings t std (h env (List.mem_cons_self ..)) m
    obtain ⟨hservices', hbcd'⟩ := ih (m := m.enforced t env std) fun e he => h e (List.mem_cons_of_mem _ he)
    exact ⟨hservices'.trans hservices, hbcd'.trans hbcd⟩

theorem watched_partlySettled {m : Host} {envs : List (Call → Outcome)} (hne : envs ≠ [])
    (hothers : ∀ env ∈ envs, ∀ c, (∀ cmd args, c ≠ .run cmd args) → (env c).fails = false) :
    (m.watched t std envs).PartlySettled t std := by
  induction envs generalizing m with
  | nil => exact absurd rfl hne
  | cons env envs ih =>
    cases envs with
    | nil => exact enforced_partlySettled (hothers env (List.mem_cons_self ..)) m
    | cons env' envs =>
      exact ih (m := m.enforced t env std) (List.cons_ne_nil _ _) fun e he => hothers e (List.mem_cons_of_mem _ he)

end

/-- **The policy disarms half of the watchdog.** With the policy enforced, no passes change a service or a boot setting,
whatever else happens in them, so that a driver that is stopped stays stopped and a boot setting that is
wrong stays wrong; each logs errors for the driver and the audio services and `ok` for the boot settings. What the
passes do without programs they do as ever: the files, debuggers and filter lists are right after the first. -/
theorem policy_disarms (t : CaseTables) (std : GoStd) (m : Host) (envs : List (Call → Outcome))
    (hconfined : ∀ env ∈ envs, Confined (codePolicy false) env) :
    ((m.watched t std envs).services = m.services ∧ (m.watched t std envs).bcd = m.bcd) ∧
    (∀ env ∈ envs, ∀ m', ((enforceOnce std).run (onHost t env) m').1.take 4 = refused) ∧
    (envs ≠ [] → (∀ env ∈ envs, ∀ c, (∀ cmd args, c ≠ .run cmd args) → (env c).fails = false) →
      (m.watched t std envs).PartlySettled t std) :=
  ⟨watched_settings hconfined, fun env henv m' => confined_log (hconfined env henv) m', watched_partlySettled⟩

/-- The policy is enforced and nothing else fails. -/
def enforcing : Call → Outcome
  | .run cmd _ => ⟨!(codePolicy false).admits cmd, "", 0⟩
  | _ => ⟨false, "", 0⟩

/-- The services of `driftedHost` stay as they are. -/
theorem policy_disarms_drifted : (driftedHost.watched .ascii workedStd [enforcing]).services = driftedHost.services ∧
    (driftedHost.watched .ascii workedStd [enforcing]).PartlySettled .ascii workedStd := by
  have hconfined : ∀ env ∈ [enforcing], Confined (codePolicy false) env := by
    intro env henv cmd args hdenied
    obtain rfl := List.mem_singleton.1 henv
    exact ⟨by simp [enforcing, hdenied], rfl⟩
  obtain ⟨⟨hservices, -⟩, -, hsettled⟩ := policy_disarms .ascii workedStd driftedHost [enforcing] hconfined
  refine ⟨hservices, hsettled (List.cons_ne_nil _ _) fun env henv c hc => ?_⟩
  obtain rfl := List.mem_singleton.1 henv
  cases c with
  | run cmd args => exact absurd rfl (hc cmd args)
  | _ => rfl

end Lockguard
