import Lockguard.InstallScripts
/-!
# Install, passes of the watchdog, uninstall

The uninstaller says that it reverses the installer (`Uninstall-Lockguard.ps1:6`), but most of its steps
set a value of their own whatever there was before, and three kinds of settings it does not touch:
`advancedoptions`, the trusted certificates, and what the watchdog writes (the IFEO debuggers and the
group-policy filter lists). `uninstall_restores_iff` is the condition on the computer before.
-/
namespace Lockguard

open Calls

section
variable {t : CaseTables} {std : GoStd} {m : Host} {env : Call → Outcome}

/-! ## One pass in which nothing fails -/

theorem enforced_fixed (t : CaseTables) (std : GoStd) (env : Call → Outcome) (m : Host) :
    (m.enforced t env std).exe = m.exe ∧ (m.enforced t env std).interfaces = m.interfaces :=
  Prod.ext_iff.1 (check_keeps t env (f := fun m => (m.exe, m.interfaces)) (enforceOnce_makes std)
    (fun c _ m' => Prod.ext_iff.2 (answer_fixed _ c m')) m)

/-- No pass sets `safeboot`. -/
theorem enforced_safeboot (env : Call → Outcome) (h : m.bcd.safeboot = none) :
    (m.enforced t env std).bcd.safeboot = none := by
  refine Prog.run_rel (R := fun m m' : Host => m.bcd.safeboot = none → m'.bcd.safeboot = none) (fun _ => id)
    (fun _ _ _ h₁ h₂ => h₂ ∘ h₁) ?_ (enforceOnce_makes std) m h
  intro c m' _ hm'
  have hcommand : ∀ cmd args, (m'.command cmd args).bcd.safeboot = none := by
    intro cmd args
    unfold Host.command
    split <;> first | exact hm' | rfl
  cases c with
  | run cmd args =>
    simp only [onHost, Host.answer]
    split
    · exact hm'
    · exact hcommand cmd args
  | copy src dst =>
    simp only [onHost, Host.answer]
    split <;> exact hm'
  | rename src dst =>
    simp only [onHost, Host.answer]
    split
    · exact hm'
    · split <;> exact hm'
  | _ =>
    simp only [onHost, Host.answer]
    first | exact hm' | (split <;> exact hm')

/-- The configuration file is no image a pass repairs. -/
theorem enforced_config (env : Call → Outcome) (m : Host) :
    configuredSSID std t (m.enforced t env std) = configuredSSID std t m := by
  have hpolicy : foldPath t configPath ≠ foldPath t wdacPolicy := foldPath_ne (by decide) t
  have hrepairs : ∀ p ∈ [driverPair, servicePair], foldPath t configPath ≠ foldPath t p.primary ∧
      foldPath t configPath ≠ foldPath t (stageOf p.primary) := by
    intro p hp
    simp only [List.mem_cons, List.not_mem_nil, or_false] at hp
    rcases hp with rfl | rfl
    · exact ⟨foldPath_ne (by decide) t, foldPath_ne (by decide) t⟩
    · exact ⟨foldPath_ne (by decide) t, foldPath_ne (by decide) t⟩
  have hfiles := check_keeps t env (f := fun m => Disk.find t m.disk configPath) (ensureFileIntegrity_makes std)
    (fun c hc => keeps_find (hc.elim
      (fun h => (repairCall h).1 _ (hrepairs driverPair (by simp)).1 (hrepairs driverPair (by simp)).2)
      fun h => (repairCall h).1 _ (hrepairs servicePair (by simp)).1 (hrepairs servicePair (by simp)).2))
    (m.beforeFiles t env std)
  rw [configuredSSID, enforced_eq, hfiles, beforeFiles_find env std m hpolicy]
  rfl

/-- The WLAN check without a configured SSID. -/
theorem ensureWLANFilter_unconfigured (hssid : configuredSSID std t m = none) :
    ((ensureWLANFilter std).run (onHost t env) m).2 = m := by
  have hload : ((loadConfig std).run (onHost t env) m).2 = m := by
    rw [loadConfig, run_orReturn, run_readFile]
    split <;> rfl
  rw [ensureWLANFilter, run_orReturn]
  cases hcfg : ((loadConfig std).run (onHost t env) m).1 with
  | error e => exact hload
  | ok cfg =>
    have hconfigured := (loadConfig_ok hcfg).2
    rw [hssid] at hconfigured
    have hempty : cfg.printerSSID = [] := by simpa using hconfigured.symm
    simp only
    rw [if_pos hempty]
    exact hload

section
variable (hsucceeds : ∀ c, (env c).fails = false)
include hsucceeds

/-- Every blocked image gets the trampoline. -/
theorem enforced_debuggers (t : CaseTables) (std : GoStd) (m : Host) : (m.enforced t env std).debugger =
    fun img => if img ∈ blockedImages then some (trampoline m.exe) else m.debugger img := by
  have hbefore : (m.beforeIfeo t env std).debugger = m.debugger := by
    have hwlan := check_keeps t env (ensureWLANFilter_makes std) (fun _ hc => keeps_debugger (wlanCall (t := t) hc).2)
      (m.beforeWlan t env)
    have hfirst : (m.beforeWlan t env).debugger = m.debugger := runChecks_keeps
      (fun c hc => (firstChecks_makes c hc).mono fun _ hcall => keeps_debugger (firstCall (t := t) hcall).2.1) m
    exact hwlan.trans hfirst
  have hvalue : debuggerValue env (m.beforeIfeo t env std) = trampoline m.exe := by
    rw [debuggerValue, hsucceeds, beforeIfeo_exe]
    rfl
  rw [enforced_debugger, Host.beforeFiles, ensureIFEOBlocks_run, hvalue, hbefore]
  have hwritten : ∀ img, DebuggerWritten env (trampoline m.exe) img := fun _ => ⟨hsucceeds _, hsucceeds _⟩
  simp only [hwritten, and_true]

/-- The WLAN check with one: the lists are written where one of them is not right. -/
theorem ensureWLANFilter_configured {ssid : Bytes} (hssid : configuredSSID std t m = some ssid) :
    (¬ (ssid.length ≤ 32 ∧ ∃ g ∈ m.interfaces, ¬ ListsRight m ssid g) →
      ((ensureWLANFilter std).run (onHost t env) m).2 = m) ∧
    (ssid.length ≤ 32 → (∃ g ∈ m.interfaces, ¬ ListsRight m ssid g) → ∀ g ∈ m.interfaces,
      HasLists (permitOnly (ssidOf ssid)) denyAll ((ensureWLANFilter std).run (onHost t env) m).2 g) := by
  have hstart : WlanStarts env := ⟨hsucceeds _, fun user => ⟨hsucceeds _, hsucceeds _⟩⟩
  have hreads : ReadsSucceed env := ⟨hsucceeds _, hsucceeds _, fun _ _ => hsucceeds _⟩
  rw [ensureWLANFilter_run hstart hssid, run_orReturn, wlanFiltersOK_reads hreads]
  simp only
  by_cases hright : ∀ g ∈ m.interfaces, ListsRight m ssid g
  · rw [decide_eq_true hright, if_pos rfl]
    refine ⟨fun _ => rfl, ?_⟩
    rintro - ⟨g, hg, hwrong⟩
    exact absurd (hright g hg) hwrong
  · rw [decide_eq_false hright, if_neg Bool.false_ne_true]
    push Not at hright
    refine ⟨?_, ?_⟩
    · intro hlong
      have hlong : 32 < ssid.length := by
        by_contra hlen
        exact hlong ⟨Nat.not_lt.1 hlen, hright⟩
      have hfrom : ssidFromString ssid = .error (.ssidTooLong ssid) := if_pos hlong
      rw [applyWLANFilters, hfrom]
      rfl
    · intro hlen _ g hg
      rw [applyWLANFilters_run hstart hlen]
      obtain ⟨pre, post, hsplit⟩ := List.append_of_mem hg
      exact applyLoop_reached ⟨hsucceeds _, hsucceeds _⟩ ⟨pre, post, hsplit, fun _ _ => ⟨hsucceeds _, hsucceeds _⟩⟩

end

/-! ## The filter lists over passes -/

/-- The WLAN check has nothing to write: no SSID it could use is configured, or all lists are right for it. -/
def FiltersSettled (std : GoStd) (t : CaseTables) (m : Host) : Prop :=
  ∀ ssid, configuredSSID std t m = some ssid → ssid.length ≤ 32 → ∀ g ∈ m.interfaces, ListsRight m ssid g

theorem filtersSettled_congr {m m' : Host} (hconfig : configuredSSID std t m' = configuredSSID std t m)
    (hinterfaces : m'.interfaces = m.interfaces) (hlists : m'.filterList = m.filterList) :
    FiltersSettled std t m' ↔ FiltersSettled std t m := by
  simp only [FiltersSettled, ListsRight, hconfig, hinterfaces, hlists]

theorem beforeWlan_settled (env : Call → Outcome) (m : Host) :
    FiltersSettled std t (m.beforeWlan t env) ↔ FiltersSettled std t m :=
  filtersSettled_congr (beforeWlan_wlan std t env m).1 (beforeWlan_fixed t env m).2 beforeWlan_filterList

theorem ensureWLANFilter_config (env : Call → Outcome) (m : Host) :
    configuredSSID std t ((ensureWLANFilter std).run (onHost t env) m).2 = configuredSSID std t m := by
  have hfind := check_keeps t env (f := fun m => Disk.find t m.disk configPath) (ensureWLANFilter_makes std)
    (fun _ hc => keeps_find ((wlanCall hc).1 configPath)) m
  rw [configuredSSID, hfind]
  rfl

section
variable (hsucceeds : ∀ c, (env c).fails = false)
include hsucceeds

theorem ensureWLANFilter_settled (h : FiltersSettled std t m) : ((ensureWLANFilter std).run (onHost t env) m).2 = m := by
  cases hssid : configuredSSID std t m with
  | none => exact ensureWLANFilter_unconfigured hssid
  | some ssid =>
    refine (ensureWLANFilter_configured hsucceeds hssid).1 ?_
    rintro ⟨hlen, g, hg, hwrong⟩
    exact hwrong (h ssid hssid hlen g hg)

theorem ensureWLANFilter_settles (m : Host) : FiltersSettled std t ((ensureWLANFilter std).run (onHost t env) m).2 := by
  intro ssid hssid hlen g hg
  rw [ensureWLANFilter_interfaces] at hg
  rw [ensureWLANFilter_config] at hssid
  obtain ⟨hkept, hwritten⟩ := ensureWLANFilter_configured hsucceeds hssid
  by_cases hwrong : ∃ g ∈ m.interfaces, ¬ ListsRight m ssid g
  · exact listsRight_of_hasLists hlen (hwritten hlen hwrong g hg)
  · rw [hkept fun h => hwrong h.2]
    by_contra hg'
    exact hwrong ⟨g, hg, hg'⟩

theorem enforced_keepsLists (h : FiltersSettled std t m) : (m.enforced t env std).filterList = m.filterList := by
  rw [enforced_filterList, Host.beforeIfeo, ensureWLANFilter_settled hsucceeds ((beforeWlan_settled env m).2 h),
    beforeWlan_filterList]

theorem enforced_settled (m : Host) : FiltersSettled std t (m.enforced t env std) := by
  refine (filtersSettled_congr ?_ ?_ ?_).2 (ensureWLANFilter_settles hsucceeds (m.beforeWlan t env))
  · rw [enforced_config, ensureWLANFilter_config, (beforeWlan_wlan std t env m).1]
  · rw [(enforced_fixed t std env m).2, ensureWLANFilter_interfaces, (beforeWlan_fixed t env m).2]
  · exact enforced_filterList

end

/-! ## Any number of passes -/

/-- The host after passes. -/
def Host.passed (t : CaseTables) (std : GoStd) (m : Host) (passes : List SmoothPass) : Host :=
  passes.foldl (fun h p => h.enforced t p.env std) m

theorem passed_cons (m : Host) (p : SmoothPass) (passes : List SmoothPass) :
    m.passed t std (p :: passes) = (m.enforced t p.env std).passed t std passes := rfl

theorem passed_fixed (t : CaseTables) (std : GoStd) (m : Host) (passes : List SmoothPass) :
    (m.passed t std passes).exe = m.exe ∧ (m.passed t std passes).interfaces = m.interfaces ∧
      configuredSSID std t (m.passed t std passes) = configuredSSID std t m := by
  induction passes generalizing m with
  | nil => exact ⟨rfl, rfl, rfl⟩
  | cons p passes ih =>
    obtain ⟨hexe, hinterfaces⟩ := enforced_fixed t std p.env m
    obtain ⟨hexe', hinterfaces', hconfig⟩ := ih (m.enforced t p.env std)
    rw [passed_cons]
    exact ⟨hexe'.trans hexe, hinterfaces'.trans hinterfaces, hconfig.trans (enforced_config p.env m)⟩

theorem passed_safeboot (t : CaseTables) (std : GoStd) (h : m.bcd.safeboot = none) (passes : List SmoothPass) :
    (m.passed t std passes).bcd.safeboot = none := by
  induction passes generalizing m with
  | nil => exact h
  | cons p passes ih => exact ih (enforced_safeboot p.env h)

theorem passed_debuggers (m : Host) {passes : List SmoothPass} (h : passes ≠ []) :
    (m.passed t std passes).debugger =
      fun img => if img ∈ blockedImages then some (trampoline m.exe) else m.debugger img := by
  induction passes generalizing m with
  | nil => exact absurd rfl h
  | cons p passes ih =>
    have hfirst := enforced_debuggers p.succeeds t std m
    rw [passed_cons]
    cases passes with
    | nil => exact hfirst
    | cons q passes =>
      rw [ih (m.enforced t p.env std) (by simp), hfirst, (enforced_fixed t std p.env m).1]
      funext img
      split
      · rfl
      · rename_i himg
        exact if_neg himg

/-- The passes leave the debuggers alone if there are none, or if all images have the trampoline. -/
theorem passed_debuggers_iff (t : CaseTables) (std : GoStd) (m : Host) (passes : List SmoothPass) :
    (m.passed t std passes).debugger = m.debugger ↔ passes = [] ∨ ImagesBlocked m := by
  by_cases hnil : passes = []
  · subst hnil
    exact iff_of_true rfl (Or.inl rfl)
  · rw [passed_debuggers m hnil, or_iff_right hnil]
    constructor
    · intro h img himg
      have hvalue := congrFun h img
      rw [if_pos himg] at hvalue
      exact hvalue.symm
    · intro h
      funext img
      split
      · rename_i himg
        exact (h img himg).symm
      · rfl

theorem passed_settled (h : FiltersSettled std t m) (passes : List SmoothPass) :
    (m.passed t std passes).filterList = m.filterList := by
  induction passes generalizing m with
  | nil => rfl
  | cons p passes ih =>
    rw [passed_cons, ih (enforced_settled p.succeeds m), enforced_keepsLists p.succeeds h]

theorem passed_settles (m : Host) {passes : List SmoothPass} (h : passes ≠ []) :
    FiltersSettled std t (m.passed t std passes) := by
  induction passes generalizing m with
  | nil => exact absurd rfl h
  | cons p passes ih =>
    rw [passed_cons]
    cases passes with
    | nil => exact enforced_settled p.succeeds m
    | cons q passes => exact ih (m.enforced t p.env std) (by simp)

/-- The passes leave the filter lists alone if there are none, or if the first finds nothing to write. -/
theorem passed_filterList_iff (t : CaseTables) (std : GoStd) (m : Host) (passes : List SmoothPass) :
    (m.passed t std passes).filterList = m.filterList ↔ passes = [] ∨ FiltersSettled std t m := by
  by_cases hnil : passes = []
  · subst hnil
    exact iff_of_true rfl (Or.inl rfl)
  · rw [or_iff_right hnil]
    constructor
    · intro hlists
      obtain ⟨-, hinterfaces, hconfig⟩ := passed_fixed t std m passes
      exact (filtersSettled_congr hconfig hinterfaces hlists).1 (passed_settles m hnil)
    · exact fun h => passed_settled h passes

/-! ## What the scripts leave -/

theorem find_filter_none {disk : Disk} {path : List Name} (h : Disk.find t disk path = none) (q : DiskFile → Bool) :
    Disk.find t (List.filter q disk) path = none := by
  induction disk with
  | nil => rfl
  | cons f disk ih =>
    rw [Disk.find] at h
    split at h
    · cases h
    · rename_i hf
      rw [List.filter_cons]
      split
      · rw [Disk.find, if_neg hf, ih h]
      · exact ih h

theorem find_erase_self (disk : Disk) (path : List Name) : Disk.find t (Disk.erase t disk path) path = none := by
  unfold Disk.erase
  induction disk with
  | nil => rfl
  | cons f disk ih =>
    rw [List.filter_cons]
    split
    · rename_i hf
      have hf' : ¬ f.named t path = true := by simpa using hf
      rw [Disk.find, if_neg hf', ih]
    · exact ih

/-- The SSID the watchdog is configured with. -/
def Installation.configured (std : GoStd) (i : Installation) : Option Bytes :=
  ((std.unmarshal i.lockguardJson).map LockguardConfig.printerSSID).filter (· ≠ [])

section
variable (ps : PowerShell) (hmac : Hmac) (pbkdf2 : Pbkdf2) (i : Installation) (u : Uninstallation) (c : Computer)

theorem installed_host (t : CaseTables) : (i.run t ps hmac pbkdf2 c).host.bcd = ⟨some "Yes", some "Standard", none⟩ ∧
    (i.run t ps hmac pbkdf2 c).host.exe = c.host.exe ∧
    (i.run t ps hmac pbkdf2 c).host.debugger = c.host.debugger ∧
    (i.run t ps hmac pbkdf2 c).host.interfaces = c.host.interfaces ∧
    (i.run t ps hmac pbkdf2 c).host.filterList = c.host.filterList :=
  ⟨rfl, rfl, rfl, rfl, rfl⟩

theorem installed_configured : configuredSSID std t (i.run t ps hmac pbkdf2 c).host = i.configured std := by
  have hfind : Disk.find t (i.run t ps hmac pbkdf2 c).host.disk configPath = some i.lockguardJson := find_put_self _
  rw [configuredSSID, hfind]
  rfl

theorem uninstalled_policy : Disk.find t (u.run t c).host.disk wdacPolicy = none := by
  refine find_filter_none (find_filter_none (find_filter_none ?_ _) _) _
  exact find_erase_self _ _

/-! ## The computer at the end -/

/-- After install, passes and uninstall. -/
def roundTrip (t : CaseTables) (std : GoStd) (passes : List SmoothPass) : Computer :=
  u.run t ((i.run t ps hmac pbkdf2 c).watched t std passes)

theorem roundTrip_host (t : CaseTables) (std : GoStd) (passes : List SmoothPass) :
    let before := (i.run t ps hmac pbkdf2 c).host.passed t std passes
    let after := (roundTrip ps hmac pbkdf2 i u c t std passes).host
    after.bcd = ⟨some "No", some "Legacy", before.bcd.safeboot⟩ ∧ after.debugger = before.debugger ∧
      after.filterList = before.filterList :=
  ⟨rfl, rfl, rfl⟩

theorem roundTrip_bcd (t : CaseTables) (std : GoStd) (passes : List SmoothPass) :
    (roundTrip ps hmac pbkdf2 i u c t std passes).host.bcd = ⟨some "No", some "Legacy", none⟩ := by
  obtain ⟨hbcd, -⟩ := roundTrip_host ps hmac pbkdf2 i u c t std passes
  obtain ⟨hbcd₀, -⟩ := installed_host ps hmac pbkdf2 i c t
  rw [hbcd, passed_safeboot t std (congrArg Bcd.safeboot hbcd₀) passes]

/-- The uninstaller leaves the debuggers: without a pass none was set, and otherwise all had to be there. -/
theorem roundTrip_debugger_iff (t : CaseTables) (std : GoStd) (passes : List SmoothPass) :
    (roundTrip ps hmac pbkdf2 i u c t std passes).host.debugger = c.host.debugger ↔
      passes = [] ∨ ImagesBlocked c.host := by
  obtain ⟨-, hdebugger, -⟩ := roundTrip_host ps hmac pbkdf2 i u c t std passes
  obtain ⟨-, hexe₀, hdebugger₀, -⟩ := installed_host ps hmac pbkdf2 i c t
  have hpassed := passed_debuggers_iff t std (i.run t ps hmac pbkdf2 c).host passes
  unfold ImagesBlocked at hpassed
  rwa [← hdebugger, hdebugger₀, hexe₀] at hpassed

theorem roundTrip_filterList_iff (t : CaseTables) (std : GoStd) (passes : List SmoothPass) :
    (roundTrip ps hmac pbkdf2 i u c t std passes).host.filterList = c.host.filterList ↔
      passes = [] ∨ ∀ ssid, i.configured std = some ssid → ssid.length ≤ 32 →
        ∀ g ∈ c.host.interfaces, ListsRight c.host ssid g := by
  obtain ⟨-, -, hlists⟩ := roundTrip_host ps hmac pbkdf2 i u c t std passes
  obtain ⟨-, -, -, hinterfaces₀, hlists₀⟩ := installed_host ps hmac pbkdf2 i c t
  have hpassed := passed_filterList_iff t std (i.run t ps hmac pbkdf2 c).host passes
  unfold FiltersSettled ListsRight at hpassed
  rwa [← hlists, hlists₀, hinterfaces₀, installed_configured] at hpassed

theorem roundTrip_audio (t : CaseTables) (std : GoStd) (passes : List SmoothPass) : ∀ svc ∈ audioServices,
    ((roundTrip ps hmac pbkdf2 i u c t std passes).host.services svc).startType = .auto := by
  intro svc hsvc
  simp only [audioServices, List.mem_cons, List.not_mem_nil, or_false] at hsvc
  rcases hsvc with rfl | rfl <;> rfl

/-- What is there at the end under the names of a list, which is nothing, is what there was. -/
theorem forgotten_iff {α : Type} {names : List String} {f : String → Option α} :
    (fun name => if name ∈ names then none else f name) = f ↔ ∀ name ∈ names, f name = none := by
  constructor
  · intro h name hname
    have hvalue := congrFun h name
    rw [if_pos hname] at hvalue
    exact hvalue.symm
  · intro h
    funext name
    split
    · rename_i hname
      exact (h name hname).symm
    · rfl

def serviceNames : List String := ["lockguard", "lockguard-svc"]

theorem roundTrip_registrations (t : CaseTables) (std : GoStd) (passes : List SmoothPass) :
    (roundTrip ps hmac pbkdf2 i u c t std passes).registrations =
      fun name => if name ∈ serviceNames then none else c.registrations name := by
  have hfinal : (roundTrip ps hmac pbkdf2 i u c t std passes).registrations = Function.update (Function.update
      (i.run t ps hmac pbkdf2 c).registrations "lockguard-svc" none) "lockguard" none := rfl
  have hother : ∀ name ∉ serviceNames, (i.run t ps hmac pbkdf2 c).registrations name = c.registrations name := by
    intro name hname
    simp only [serviceNames, List.mem_cons, List.not_mem_nil, or_false, not_or] at hname
    have hinstalled : (i.run t ps hmac pbkdf2 c).registrations = (Installation.phase7 (Installation.phase6 c)).registrations :=
      rfl
    rw [hinstalled, Installation.phase7]
    split <;> simp [Installation.phase6, hname]
  funext name
  rw [hfinal]
  by_cases hname : name ∈ serviceNames
  · rw [if_pos hname]
    simp only [serviceNames, List.mem_cons, List.not_mem_nil, or_false] at hname
    rcases hname with rfl | rfl <;> simp
  · rw [if_neg hname, ← hother name hname]
    simp only [serviceNames, List.mem_cons, List.not_mem_nil, or_false, not_or] at hname
    simp [hname]

theorem roundTrip_tasks (t : CaseTables) (std : GoStd) (passes : List SmoothPass) : (roundTrip ps hmac pbkdf2 i u c t std passes).tasks =
    fun name => if name ∈ Uninstallation.taskNames then none else c.tasks name := by
  have hfinal : (roundTrip ps hmac pbkdf2 i u c t std passes).tasks = fun name =>
      if name ∈ Uninstallation.taskNames then none else (i.run t ps hmac pbkdf2 c).tasks name := rfl
  have hinstalled : (i.run t ps hmac pbkdf2 c).tasks = (Installation.phase13 c).tasks := rfl
  rw [hfinal, hinstalled]
  funext name
  split
  · rfl
  · rename_i hname
    simp only [Uninstallation.taskNames, List.mem_cons, List.not_mem_nil, or_false, not_or] at hname
    simp [Installation.phase13, hname]

theorem imported_eq_iff {cer : Bytes} {store : List Bytes} : imported cer store = store ↔ cer ∈ store := by
  unfold imported
  split
  · rename_i hmem
    exact iff_of_true rfl hmem
  · rename_i hmem
    exact iff_of_false (by simp) hmem

theorem roundTrip_trusted_iff (t : CaseTables) (std : GoStd) (passes : List SmoothPass) :
    (roundTrip ps hmac pbkdf2 i u c t std passes).trusted = c.trusted ↔
      ∀ cer, i.bundle.certificate = some cer → ∀ store, cer ∈ c.trusted store := by
  have hfinal : (roundTrip ps hmac pbkdf2 i u c t std passes).trusted = (Installation.phase4 i c).trusted := rfl
  rw [hfinal, Installation.phase4]
  cases i.bundle.certificate with
  | none => simp
  | some cer =>
    simp only [Option.some.injEq, forall_eq']
    rw [funext_iff]
    exact forall_congr' fun store => imported_eq_iff

/-! ## The filters of netsh -/

theorem filter_addFilter (p : WlanFilter → Bool) (filters : List WlanFilter) (f : WlanFilter) :
    (addFilter filters f).filter p = filters.filter p ++ if f ∉ filters ∧ p f = true then [f] else [] := by
  unfold addFilter
  by_cases hf : f ∈ filters
  · simp [hf]
  · cases hp : p f <;> simp [hf, hp]

/-- A filter added and others taken away leave the list as it was. -/
theorem filter_addFilter_eq_iff {p : WlanFilter → Bool} {filters : List WlanFilter} {f : WlanFilter} :
    (addFilter filters f).filter p = filters ↔ (∀ g ∈ filters, p g = true) ∧ (f ∈ filters ∨ p f = false) := by
  rw [filter_addFilter]
  by_cases hnew : f ∉ filters ∧ p f = true
  · rw [if_pos hnew]
    refine iff_of_false ?_ ?_
    · intro heq
      refine hnew.1 ?_
      rw [← heq]
      simp
    · rintro ⟨-, hf | hf⟩
      · exact hnew.1 hf
      · rw [hnew.2] at hf
        cases hf
  · rw [if_neg hnew, List.append_nil, List.filter_eq_self]
    refine (and_iff_left ?_).symm
    by_contra hnot
    push Not at hnot
    exact hnew ⟨hnot.1, by simpa using hnot.2⟩

theorem roundTrip_userFilters_iff (t : CaseTables) (std : GoStd) (passes : List SmoothPass) :
    (roundTrip ps hmac pbkdf2 i u c t std passes).userFilters = c.userFilters ↔
      (∀ f ∈ c.userFilters, f ∉ u.deletedFilters) ∧
        (.allow i.ssid .infrastructure ∈ c.userFilters ∨ i.ssid ∈ u.listed) := by
  have hfinal : (roundTrip ps hmac pbkdf2 i u c t std passes).userFilters =
      (addFilter (addFilter (addFilter c.userFilters (.allow i.ssid .infrastructure)) (.denyall .infrastructure))
        (.denyall .adhoc)).filter fun f => decide (f ∉ u.deletedFilters) := rfl
  have hdenied : ∀ type, decide (WlanFilter.denyall type ∉ u.deletedFilters) = false := by
    intro type
    cases type <;> simp [Uninstallation.deletedFilters]
  have hallowed : decide (WlanFilter.allow i.ssid .infrastructure ∉ u.deletedFilters) = false ↔ i.ssid ∈ u.listed := by
    simp [Uninstallation.deletedFilters]
  rw [hfinal, filter_addFilter, filter_addFilter, hdenied, hdenied]
  simp only [Bool.false_eq_true, and_false, if_false, List.append_nil]
  rw [filter_addFilter_eq_iff, hallowed]
  simp only [decide_eq_true_eq]

end

end

/-! ## The round trip -/

/-- Every setting the scripts and the passes write is as it was. -/
structure Restored (t : CaseTables) (c c' : Computer) : Prop where
  testsigning : c'.host.bcd.testsigning = c.host.bcd.testsigning
  bootmenupolicy : c'.host.bcd.bootmenupolicy = c.host.bcd.bootmenupolicy
  advancedoptions : c'.advancedoptions = c.advancedoptions
  safeboot : c'.host.bcd.safeboot = c.host.bcd.safeboot
  registrations : c'.registrations = c.registrations
  safeBootKeys : c'.safeBoot = c.safeBoot
  audio : ∀ svc ∈ audioServices, (c'.host.services svc).startType = (c.host.services svc).startType
  debuggers : c'.host.debugger = c.host.debugger
  certificates : c'.trusted = c.trusted
  associations : c'.defaultAssociations = c.defaultAssociations
  policy : Disk.find t c'.host.disk wdacPolicy = Disk.find t c.host.disk wdacPolicy
  policyFilters : c'.host.filterList = c.host.filterList
  userFilters : c'.userFilters = c.userFilters
  tasks : c'.tasks = c.tasks
  recoveryKey : c'.recoveryKey = c.recoveryKey

/-- Each setting had the value that is there at the end. -/
structure Restorable (t : CaseTables) (std : GoStd) (i : Installation) (passes : List SmoothPass) (u : Uninstallation)
    (c : Computer) : Prop where
  testsigning : c.host.bcd.testsigning = some "No"
  bootmenupolicy : c.host.bcd.bootmenupolicy = some "Legacy"
  advancedoptions : c.advancedoptions = some "No"
  safeboot : c.host.bcd.safeboot = none
  registrations : ∀ name ∈ serviceNames, c.registrations name = none
  safeBootKeys : ∀ mode, c.safeBoot mode = none
  audio : ∀ svc ∈ audioServices, (c.host.services svc).startType = .auto
  debuggers : passes = [] ∨ ImagesBlocked c.host
  certificates : ∀ cer, i.bundle.certificate = some cer → ∀ store, cer ∈ c.trusted store
  associations : c.defaultAssociations = none
  policy : Disk.find t c.host.disk wdacPolicy = none
  policyFilters : passes = [] ∨ ∀ ssid, i.configured std = some ssid → ssid.length ≤ 32 →
    ∀ g ∈ c.host.interfaces, ListsRight c.host ssid g
  userFilters : (∀ f ∈ c.userFilters, f ∉ u.deletedFilters) ∧
    (.allow i.ssid .infrastructure ∈ c.userFilters ∨ i.ssid ∈ u.listed)
  tasks : ∀ name ∈ Uninstallation.taskNames, c.tasks name = none
  recoveryKey : c.recoveryKey = none

/-- **What uninstalling restores.** For every computer, install, passes and uninstall, all settings have
their values again if and only if each had the value that is there at the end whatever it was before. -/
theorem uninstall_restores_iff (t : CaseTables) (std : GoStd) (ps : PowerShell) (hmac : Hmac) (pbkdf2 : Pbkdf2)
    (i : Installation) (passes : List SmoothPass) (u : Uninstallation) (c : Computer) :
    Restored t c (roundTrip ps hmac pbkdf2 i u c t std passes) ↔ Restorable t std i passes u c := by
  have hbcd := roundTrip_bcd ps hmac pbkdf2 i u c t std passes
  have hdebuggers := roundTrip_debugger_iff ps hmac pbkdf2 i u c t std passes
  have hfilters := roundTrip_filterList_iff ps hmac pbkdf2 i u c t std passes
  have haudio := roundTrip_audio ps hmac pbkdf2 i u c t std passes
  have hregistrations := roundTrip_registrations ps hmac pbkdf2 i u c t std passes
  have htasks := roundTrip_tasks ps hmac pbkdf2 i u c t std passes
  have hpolicy : Disk.find t (roundTrip ps hmac pbkdf2 i u c t std passes).host.disk wdacPolicy = none :=
    uninstalled_policy u _
  have hcertificates := roundTrip_trusted_iff ps hmac pbkdf2 i u c t std passes
  have huser := roundTrip_userFilters_iff ps hmac pbkdf2 i u c t std passes
  constructor
  · intro h
    refine ⟨?_, ?_, ?_, ?_, ?_, ?_, ?_, hdebuggers.1 h.debuggers, hcertificates.1 h.certificates, ?_, ?_,
      hfilters.1 h.policyFilters, huser.1 h.userFilters, ?_, ?_⟩
    · rw [← h.testsigning, hbcd]
    · rw [← h.bootmenupolicy, hbcd]
    · rw [← h.advancedoptions]
      rfl
    · rw [← h.safeboot, hbcd]
    · exact forgotten_iff.1 (hregistrations.symm.trans h.registrations)
    · intro mode
      rw [← h.safeBootKeys]
      rfl
    · intro svc hsvc
      rw [← h.audio svc hsvc, haudio svc hsvc]
    · rw [← h.associations]
      rfl
    · rw [← h.policy, hpolicy]
    · exact forgotten_iff.1 (htasks.symm.trans h.tasks)
    · rw [← h.recoveryKey]
      rfl
  · intro h
    refine ⟨?_, ?_, ?_, ?_, ?_, ?_, ?_, hdebuggers.2 h.debuggers, hcertificates.2 h.certificates, ?_, ?_,
      hfilters.2 h.policyFilters, huser.2 h.userFilters, ?_, ?_⟩
    · rw [hbcd, h.testsigning]
    · rw [hbcd, h.bootmenupolicy]
    · rw [h.advancedoptions]
      rfl
    · rw [hbcd, h.safeboot]
    · exact hregistrations.trans (forgotten_iff.2 h.registrations)
    · funext mode
      rw [h.safeBootKeys mode]
      rfl
    · intro svc hsvc
      rw [haudio svc hsvc, h.audio svc hsvc]
    · rw [h.associations]
      rfl
    · rw [hpolicy, h.policy]
    · exact htasks.trans (forgotten_iff.2 h.tasks)
    · rw [h.recoveryKey]
      rfl

/-! ## A computer as it comes -/

def workedInstallation : Installation where
  bundle := ⟨[77, 90, 1], [77, 90, 2], [(wide "lockguard.json", [123, 125])], some [48, 130]⟩
  password := Worked.installerRun none
  compiled := some [1]
  ssid := "LAN"
  lockguardJson := lanConfig

/-- Nothing of Lockguard on it, and the boot menu that Windows 11 has. -/
def freshComputer : Computer where
  host := { lanHost [] with
    disk := []
    services := fun _ => ⟨.auto, true⟩
    bcd := ⟨some "No", some "Standard", none⟩ }
  advancedoptions := none
  registrations := fun _ => none
  safeBoot := fun _ => none
  trusted := fun _ => []
  defaultAssociations := none
  userFilters := []
  tasks := fun _ => none
  recoveryKey := none

/-- Afterwards its boot menu is the legacy one. -/
theorem uninstall_not_restores : ¬ ∀ (t : CaseTables) (std : GoStd) (ps : PowerShell) (hmac : Hmac) (pbkdf2 : Pbkdf2)
    (i : Installation) (passes : List SmoothPass) (u : Uninstallation) (c : Computer),
    (phase2 ps hmac pbkdf2 c.recoveryKey i.password).through = true →
      Restored t c (roundTrip ps hmac pbkdf2 i u c t std passes) := by
  intro hall
  have hrestored := hall .ascii lanStd Worked.ps Worked.hmacTable Worked.pbkdf2Table workedInstallation
    [⟨nothingFails, fun _ => rfl⟩] ⟨[]⟩ freshComputer (by decide +kernel)
  have hmenu : some "Legacy" = some "Standard" := hrestored.bootmenupolicy
  exact absurd hmenu (by decide)

end Lockguard
