import Lockguard.InstallCommands
/-!
# What an install sets again (`Install-Lockguard.ps1:164-387`)

Most commands set a value whatever there was. So what a run has written before it was cut off, the next one
writes over again, the recovery key and the two services apart: a cut-off run makes no difference to what a
complete one leaves of the rest, `after_completed` and `after_tightened`.
-/
namespace Lockguard

open Calls Prog

section
variable {t : CaseTables} {record : RecoveryKey} {i : Installation} {edit : Option (Bytes → Bytes)}

/-! ## What is set again -/

/-- Phase 8 on the files, the policy compiled or not. -/
def policyCompiled (t : CaseTables) (compiled : Option Bytes) (disk : Disk) : Disk :=
  match compiled with
  | some cip => Disk.put t disk wdacBackup cip
  | none => disk

def policyDeployed (t : CaseTables) (disk : Disk) : Disk :=
  match Disk.find t disk wdacBackup with
  | some cip => Disk.put t disk wdacPolicy cip
  | none => disk

/-- The files after the script. -/
def Installation.files (t : CaseTables) (i : Installation) (edit : Option (Bytes → Bytes)) (disk : Disk) : Disk :=
  Disk.put t (policyDeployed t (policyCompiled t i.compiled (Disk.edited t edit (Disk.copied t disk i.bundle.staged)))) configPath
    i.lockguardJson

/-- A computer as it may be looked at, but for the recovery key and the two services: the contents of files,
the filters of `netsh` in any order, and the rest. -/
def Computer.view (t : CaseTables) (m : Computer) : (List Name → Option Bytes) × (WlanFilter → Prop) × Computer :=
  (Disk.find t m.host.disk, (· ∈ m.userFilters),
    { m with
      host := { m.host with disk := [] }
      userFilters := []
      registrations := fun name => if name ∈ serviceNames then none else m.registrations name
      recoveryKey := none })

theorem completed_other (m : Computer) : ∀ name ∉ serviceNames, (i.completed edit t record m).registrations name = m.registrations name := by
  intro name hname
  simp only [serviceNames, List.mem_cons, List.not_mem_nil, or_false, not_or] at hname
  have hinstalled : (i.completed edit t record m).registrations = (Installation.phase7 (Installation.phase6 m)).registrations := rfl
  rw [hinstalled, Installation.phase7]
  split <;> simp [Installation.phase6, hname]

theorem mem_addFilter {filters : List WlanFilter} {f g : WlanFilter} : g ∈ addFilter filters f ↔ g ∈ filters ∨ g = f := by
  unfold addFilter
  split
  · rename_i hmem
    refine (or_iff_left_of_imp ?_).symm
    rintro rfl
    exact hmem
  · rw [List.mem_append, List.mem_singleton]

theorem view_completed (t : CaseTables) (record : RecoveryKey) (i : Installation) (edit : Option (Bytes → Bytes)) (m : Computer) :
    (i.completed edit t record m).view t = (Disk.find t (i.files t edit m.host.disk),
      fun f => f ∈ m.userFilters ∨ f = .allow i.ssid .infrastructure ∨ f = .denyall .infrastructure ∨ f = .denyall .adhoc,
      { host := { m.host with
          disk := []
          services := fun name => if name ∈ audioServices then ⟨.disabled, false⟩ else m.host.services name
          bcd := ⟨some "Yes", some "Standard", none⟩ }
        advancedoptions := some "No"
        registrations := fun name => if name ∈ serviceNames then none else m.registrations name
        safeBoot := fun _ => some (some "Driver")
        trusted := fun store => i.bundle.certificate.toList.foldl (fun store cer => imported cer store) (m.trusted store)
        defaultAssociations := some appAssociations
        userFilters := []
        tasks := fun name => if name = "LockguardLogon" then some ⟨.atLogOn, taskAction⟩
          else if name = "LockguardBoot" then some ⟨.atStartup, taskAction⟩ else m.tasks name
        recoveryKey := none }) := by
  have hfilters : ∀ f, f ∈ (i.completed edit t record m).userFilters ↔
      f ∈ m.userFilters ∨ f = .allow i.ssid .infrastructure ∨ f = .denyall .infrastructure ∨ f = .denyall .adhoc := by
    intro f
    have hfinal : (i.completed edit t record m).userFilters = addFilter (addFilter (addFilter m.userFilters
        (.allow i.ssid .infrastructure)) (.denyall .infrastructure)) (.denyall .adhoc) := rfl
    rw [hfinal, mem_addFilter, mem_addFilter, mem_addFilter, or_assoc, or_assoc]
  have hservices : (i.completed edit t record m).host.services =
      fun name => if name ∈ audioServices then ⟨.disabled, false⟩ else m.host.services name := by
    funext name
    by_cases hname : name ∈ audioServices
    · rw [if_pos hname]
      simp only [audioServices, List.mem_cons, List.not_mem_nil, or_false] at hname
      rcases hname with rfl | rfl <;> rfl
    · rw [if_neg hname]
      simp only [audioServices, List.mem_cons, List.not_mem_nil, or_false, not_or] at hname
      have hfinal : (i.completed edit t record m).host.services = (Installation.phase11 m).host.services := rfl
      rw [hfinal]
      simp [Installation.phase11, audioServices, Computer.program, hname]
  have hregistrations : (fun name => if name ∈ serviceNames then none else (i.completed edit t record m).registrations name) =
      fun name => if name ∈ serviceNames then none else m.registrations name := by
    funext name
    split
    · rfl
    · rename_i hname
      exact completed_other m name hname
  have htrusted : (i.completed edit t record m).trusted =
      fun store => i.bundle.certificate.toList.foldl (fun store cer => imported cer store) (m.trusted store) := by
    have hfinal : (i.completed edit t record m).trusted = (Installation.phase4 i m).trusted := rfl
    rw [hfinal, Installation.phase4]
    cases i.bundle.certificate <;> rfl
  have htasks : (i.completed edit t record m).tasks = fun name => if name = "LockguardLogon" then some ⟨.atLogOn, taskAction⟩
      else if name = "LockguardBoot" then some ⟨.atStartup, taskAction⟩ else m.tasks name := by
    have hfinal : (i.completed edit t record m).tasks = (Installation.phase13 m).tasks := rfl
    rw [hfinal, Installation.phase13]
    funext name
    simp only [Function.update_apply]
  simp only [Computer.view, hregistrations, hservices, htrusted, htasks, hfilters]
  rfl

/-! ## Files written again -/

theorem find_fold {p q : List Name} (h : foldPath t q = foldPath t p) (disk : Disk) : Disk.find t disk q = Disk.find t disk p := by
  induction disk with
  | nil => rfl
  | cons f disk ih =>
    have hnamed : f.named t q = f.named t p := by
      rw [DiskFile.named, DiskFile.named, h]
    rw [Disk.find, Disk.find, hnamed, ih]

/-- The two hold the same but for the file at `p`. -/
def SameBut (t : CaseTables) (p : List Name) (disk disk' : Disk) : Prop :=
  ∀ q, foldPath t q ≠ foldPath t p → Disk.find t disk q = Disk.find t disk' q

variable {p dst : List Name} {data : Bytes} {disk disk' : Disk}

theorem sameBut_put (disk : Disk) : SameBut t p (Disk.put t disk p data) disk := fun _ hq => find_put_of_ne hq disk

/-- Written in both, the file at `p` is the same too. -/
theorem SameBut.settled (h : SameBut t p disk disk') (data : Bytes) :
    Disk.find t (Disk.put t disk p data) = Disk.find t (Disk.put t disk' p data) := by
  funext q
  by_cases hq : foldPath t q = foldPath t p
  · rw [find_fold hq, find_fold hq, find_put_self, find_put_self]
  · rw [find_put_of_ne hq, find_put_of_ne hq, h q hq]

theorem find_put_congr (h : Disk.find t disk = Disk.find t disk') :
    Disk.find t (Disk.put t disk p data) = Disk.find t (Disk.put t disk' p data) :=
  SameBut.settled (fun q _ => congrFun h q) data

theorem SameBut.put (h : SameBut t p disk disk') (dst : List Name) (data : Bytes) :
    SameBut t p (Disk.put t disk dst data) (Disk.put t disk' dst data) := by
  intro q hq
  by_cases hdst : foldPath t q = foldPath t dst
  · rw [find_fold hdst, find_fold hdst, find_put_self, find_put_self]
  · rw [find_put_of_ne hdst, find_put_of_ne hdst, h q hq]

theorem find_copied_congr (h : Disk.find t disk = Disk.find t disk') (files : List (List Name × Bytes)) :
    Disk.find t (Disk.copied t disk files) = Disk.find t (Disk.copied t disk' files) := by
  induction files generalizing disk disk' with
  | nil => exact h
  | cons f files ih => exact ih (find_put_congr h)

theorem SameBut.copied (h : SameBut t p disk disk') (files : List (List Name × Bytes)) :
    SameBut t p (Disk.copied t disk files) (Disk.copied t disk' files) := by
  induction files generalizing disk disk' with
  | nil => exact h
  | cons f files ih => exact ih (h.put f.1 f.2)

theorem SameBut.copied_settled (h : SameBut t p disk disk') {files : List (List Name × Bytes)} (hp : ∃ f ∈ files, f.1 = p) :
    Disk.find t (Disk.copied t disk files) = Disk.find t (Disk.copied t disk' files) := by
  induction files generalizing disk disk' with
  | nil =>
    obtain ⟨_, hmem, -⟩ := hp
    cases hmem
  | cons f files ih =>
    by_cases hf : f.1 = p
    · subst hf
      exact find_copied_congr (h.settled f.2) files
    · refine ih (h.put f.1 f.2) ?_
      obtain ⟨g, hg, rfl⟩ := hp
      rcases List.mem_cons.1 hg with rfl | hg
      · exact absurd rfl hf
      · exact ⟨g, hg, rfl⟩

/-- A file stays there while others are written, or it. -/
theorem put_isSome (h : (Disk.find t disk p).isSome) (dst : List Name) (data : Bytes) :
    (Disk.find t (Disk.put t disk dst data) p).isSome := by
  by_cases hdst : foldPath t p = foldPath t dst
  · rw [find_fold hdst, find_put_self]
    rfl
  · rwa [find_put_of_ne hdst]

theorem copied_isSome (h : (Disk.find t disk p).isSome) (files : List (List Name × Bytes)) :
    (Disk.find t (Disk.copied t disk files) p).isSome := by
  induction files generalizing disk with
  | nil => exact h
  | cons f files ih => exact ih (put_isSome h f.1 f.2)

theorem find_compile_congr (h : Disk.find t disk = Disk.find t disk') (compiled : Option Bytes) :
    Disk.find t (policyCompiled t compiled disk) = Disk.find t (policyCompiled t compiled disk') := by
  cases compiled with
  | none => exact h
  | some cip => exact find_put_congr h

theorem SameBut.compile (h : SameBut t p disk disk') (compiled : Option Bytes) :
    SameBut t p (policyCompiled t compiled disk) (policyCompiled t compiled disk') := by
  cases compiled with
  | none => exact h
  | some cip => exact h.put wdacBackup cip

theorem find_edit_congr (h : Disk.find t disk = Disk.find t disk') (edit : Option (Bytes → Bytes)) :
    Disk.find t (Disk.edited t edit disk) = Disk.find t (Disk.edited t edit disk') := by
  unfold Disk.edited
  rw [← h]
  split
  · exact find_put_congr h
  · exact h

theorem SameBut.edited (h : SameBut t p disk disk') (hp : foldPath t wdacXml ≠ foldPath t p) (edit : Option (Bytes → Bytes)) :
    SameBut t p (Disk.edited t edit disk) (Disk.edited t edit disk') := by
  unfold Disk.edited
  rw [← h _ hp]
  split
  · exact h.put wdacXml _
  · exact h

theorem find_deploy_congr (h : Disk.find t disk = Disk.find t disk') :
    Disk.find t (policyDeployed t disk) = Disk.find t (policyDeployed t disk') := by
  unfold policyDeployed
  rw [← h]
  cases Disk.find t disk wdacBackup with
  | none => exact h
  | some cip => exact find_put_congr h

theorem SameBut.deploy (h : SameBut t p disk disk') (hp : foldPath t wdacBackup ≠ foldPath t p) :
    SameBut t p (policyDeployed t disk) (policyDeployed t disk') := by
  unfold policyDeployed
  rw [← h _ hp]
  cases Disk.find t disk wdacBackup with
  | none => exact h
  | some cip => exact h.put wdacPolicy cip

/-- The policy is deployed in both. -/
theorem SameBut.deploy_settled (h : SameBut t wdacPolicy disk disk') (hbackup : (Disk.find t disk wdacBackup).isSome) :
    Disk.find t (policyDeployed t disk) = Disk.find t (policyDeployed t disk') := by
  obtain ⟨cip, hcip⟩ := Option.isSome_iff_exists.1 hbackup
  unfold policyDeployed
  rw [← h _ (foldPath_ne (by decide) t), hcip]
  exact h.settled cip

/-- **Writing a file of the script's first** makes no difference to the files after it. -/
theorem find_files_put (hdst : (∃ f ∈ i.bundle.staged, f.1 = dst) ∨ (dst = wdacBackup ∧ i.compiled.isSome) ∨ dst = configPath)
    (disk : Disk) : Disk.find t (i.files t edit (Disk.put t disk dst data)) = Disk.find t (i.files t edit disk) := by
  have hsame : SameBut t dst (Disk.put t disk dst data) disk := sameBut_put disk
  unfold Installation.files
  rcases hdst with hstaged | ⟨rfl, hcompiled⟩ | rfl
  · exact find_put_congr (find_deploy_congr (find_compile_congr (find_edit_congr (hsame.copied_settled hstaged) _) _))
  · obtain ⟨cip, hcip⟩ := Option.isSome_iff_exists.1 hcompiled
    rw [hcip]
    exact find_put_congr (find_deploy_congr (((hsame.copied _).edited (foldPath_ne (by decide) t) _).settled cip))
  · exact SameBut.settled ((((hsame.copied _).edited (foldPath_ne (by decide) t) _).compile _).deploy (foldPath_ne (by decide) t)) _

theorem edited_isSome (h : (Disk.find t disk p).isSome) : (Disk.find t (Disk.edited t edit disk) p).isSome := by
  unfold Disk.edited
  split
  · exact put_isSome h _ _
  · exact h

theorem find_files_copyPolicy {cip : Bytes} (hcip : Disk.find t disk wdacBackup = some cip) :
    Disk.find t (i.files t edit (Disk.put t disk wdacPolicy cip)) = Disk.find t (i.files t edit disk) := by
  have hsame : SameBut t wdacPolicy (Disk.put t disk wdacPolicy cip) disk := sameBut_put disk
  have hthere : (Disk.find t disk wdacBackup).isSome := by
    rw [hcip]
    rfl
  unfold Installation.files
  refine find_put_congr ((((hsame.copied _).edited (foldPath_ne (by decide) t) _).compile _).deploy_settled ?_)
  have hedited : (Disk.find t (Disk.edited t edit (Disk.copied t (Disk.put t disk wdacPolicy cip) i.bundle.staged)) wdacBackup).isSome :=
    edited_isSome (copied_isSome (put_isSome hthere _ _) _)
  cases i.compiled with
  | none => exact hedited
  | some compiled => exact put_isSome hedited _ _

/-! ## Commands given again -/

/-- Whatever the write does, the script does it over again. -/
def Write.Redone (t : CaseTables) (i : Installation) (edit : Option (Bytes → Bytes)) (w : Write) : Prop :=
  ∀ record record' m, (i.completed edit t record (w.effect t record' m)).view t = (i.completed edit t record m).view t

theorem redone_registry (step : RegistryStep) : (Write.registry step).Redone t i edit := by
  intro record record' m
  rw [view_completed, view_completed]
  rfl

theorem redone_copyItem (hdst : (∃ f ∈ i.bundle.staged, f.1 = dst) ∨ (dst = wdacBackup ∧ i.compiled.isSome)) :
    (Write.copyItem dst data).Redone t i edit := by
  intro record record' m
  have hfiles : (∃ f ∈ i.bundle.staged, f.1 = dst) ∨ (dst = wdacBackup ∧ i.compiled.isSome) ∨ dst = configPath :=
    hdst.imp_right Or.inl
  rw [view_completed, view_completed, Write.effect, find_files_put hfiles]

theorem redone_setConfigJson {json : Bytes} : (Write.setConfigJson json).Redone t i edit := by
  intro record record' m
  rw [view_completed, view_completed, Write.effect, find_files_put (Or.inr (Or.inr rfl))]

theorem redone_editPolicyXml (hxml : ∃ f ∈ i.bundle.staged, f.1 = wdacXml) (e : Bytes → Bytes) :
    (Write.editPolicyXml e).Redone t i edit := by
  intro record record' m
  rw [view_completed, view_completed]
  simp only [Write.effect, Computer.edited, Disk.edited]
  cases hfound : Disk.find t m.host.disk wdacXml with
  | none => rfl
  | some xml =>
    simp only
    rw [find_files_put (Or.inl hxml)]

theorem redone_copyPolicy : Write.copyPolicy.Redone t i edit := by
  intro record record' m
  rw [Write.effect]
  cases hcip : Disk.find t m.host.disk wdacBackup with
  | none => rfl
  | some cip =>
    simp only
    rw [view_completed, view_completed, find_files_copyPolicy hcip]

theorem imported_again (cer : Bytes) (store : List Bytes) : imported cer (imported cer store) = imported cer store := by
  rw [imported_eq_iff]
  unfold imported
  split
  · rename_i hmem
    exact hmem
  · simp

theorem redone_importCertificate {cer : Bytes} (hcer : i.bundle.certificate = some cer) (store : CertStore) :
    (Write.importCertificate cer store).Redone t i edit := by
  intro record record' m
  have htrusted : (fun st => imported cer ((Write.effect t record' m (.importCertificate cer store)).trusted st)) =
      fun st => imported cer (m.trusted st) := by
    funext st
    cases store <;> cases st <;> simp [Write.effect, imported_again]
  rw [view_completed, view_completed]
  simp only [hcer, Option.toList_some, List.foldl_cons, List.foldl_nil, htrusted]
  cases store <;> rfl

/-- A program of the scripts that sets the boot entry. -/
theorem redone_bcdedit {args : List String} (hargs : args ∈ [["/set", "testsigning", "on"], ["/set", "bootmenupolicy", "standard"],
    ["/set", "advancedoptions", "off"], ["/deletevalue", "safeboot"]]) : (Write.program "bcdedit.exe" args).Redone t i edit := by
  intro record record' m
  rw [view_completed, view_completed]
  simp only [List.mem_cons, List.not_mem_nil, or_false] at hargs
  rcases hargs with rfl | rfl | rfl | rfl <;> rfl

theorem redone_audio {svc : String} (hsvc : svc ∈ audioServices) :
    (Write.program "sc.exe" ["config", svc, "start=", "disabled"]).Redone t i edit ∧
      (Write.program "sc.exe" ["stop", svc]).Redone t i edit := by
  have hservices : ∀ (services : String → Service) (s : Service),
      (fun name => if name ∈ audioServices then (⟨.disabled, false⟩ : Service) else Function.update services svc s name) =
        fun name => if name ∈ audioServices then ⟨.disabled, false⟩ else services name := by
    intro services s
    funext name
    by_cases hname : name = svc
    · subst hname
      rw [if_pos hsvc, if_pos hsvc]
    · rw [Function.update_of_ne hname]
  constructor
  · intro record record' m
    have heffect : Write.effect t record' m (.program "sc.exe" ["config", svc, "start=", "disabled"]) =
        { m with host := m.host.command "sc.exe" ["config", svc, "start=", "disabled"] } := by
      simp [Write.effect, Computer.program]
    rw [heffect, view_completed, view_completed]
    simp only [command_config, hservices]
  · intro record record' m
    have heffect : Write.effect t record' m (.program "sc.exe" ["stop", svc]) =
        { m with host := m.host.command "sc.exe" ["stop", svc] } := by
      simp [Write.effect, Computer.program]
    rw [heffect, view_completed, view_completed]
    simp only [command_stop, hservices]

/-- What is registered of the two services is not in the view. -/
theorem redone_onRegistration {w : Write} {name : String} (f : Option Registration → Option Registration)
    (hw : ∀ record m, Write.effect t record m w = m.onRegistration name f) (hname : name ∈ serviceNames) : w.Redone t i edit := by
  intro record record' m
  have hregistrations : (fun n => if n ∈ serviceNames then none else (m.onRegistration name f).registrations n) =
      fun n => if n ∈ serviceNames then none else m.registrations n := by
    funext n
    split
    · rfl
    · rename_i hn
      refine Function.update_of_ne ?_ ..
      rintro rfl
      exact hn hname
  rw [hw, view_completed, view_completed]
  simp only [hregistrations]
  rfl

theorem redone_safeBoot (mode : SafeMode) : (Write.safeBootKey mode).Redone t i edit ∧ (Write.safeBootValue mode).Redone t i edit := by
  constructor <;> intro record record' m <;> rw [view_completed, view_completed] <;> cases mode <;> rfl

theorem redone_addFilter {f : WlanFilter} (hf : f = .allow i.ssid .infrastructure ∨ f = .denyall .infrastructure ∨ f = .denyall .adhoc) :
    (Write.addFilter f).Redone t i edit := by
  intro record record' m
  have hfilters : (fun g => g ∈ Lockguard.addFilter m.userFilters f ∨ g = .allow i.ssid .infrastructure ∨
      g = .denyall .infrastructure ∨ g = .denyall .adhoc) =
      fun g => g ∈ m.userFilters ∨ g = .allow i.ssid .infrastructure ∨ g = .denyall .infrastructure ∨ g = .denyall .adhoc := by
    funext g
    rw [mem_addFilter, or_assoc]
    refine propext (or_congr_right (or_iff_right_of_imp ?_))
    rintro rfl
    exact hf
  rw [view_completed, view_completed]
  simp only [Write.effect, hfilters]

theorem redone_registerTask {name : String} {task : ScheduledTask}
    (h : name = "LockguardBoot" ∨ name = "LockguardLogon") : (Write.registerTask name task).Redone t i edit := by
  intro record record' m
  have htasks : (fun n => if n = "LockguardLogon" then some ⟨.atLogOn, taskAction⟩ else if n = "LockguardBoot" then
      some ⟨.atStartup, taskAction⟩ else Function.update m.tasks name (some task) n) =
      fun n => if n = "LockguardLogon" then some ⟨.atLogOn, taskAction⟩ else if n = "LockguardBoot" then
        some ⟨.atStartup, taskAction⟩ else m.tasks n := by
    funext n
    by_cases hn : n = name
    · subst hn
      rcases h with rfl | rfl <;> rfl
    · rw [Function.update_of_ne hn]
  rw [view_completed, view_completed]
  simp only [Write.effect, htasks]

/-! ## The script -/

/-- **Everything the script writes is written over again** by the next run, the recovery key and the two services apart. -/
theorem script_makes (t : CaseTables) {i : Installation} (edit : Option (Bytes → Bytes))
    (hxml : ∃ f ∈ i.bundle.staged, f.1 = wdacXml) : (i.script edit).Makes (Command.Writes (Write.Redone t i edit)) := by
  have hdriver : "lockguard" ∈ serviceNames := by simp [serviceNames]
  have hwatchdog : "lockguard-svc" ∈ serviceNames := by simp [serviceNames]
  refine makes_bind (recovery_makes redone_registry) fun _ => makes_bind (writes_makes (forall_copies ?_)) fun _ =>
    makes_bind (writes_makes (forall_tighten ?_ ?_ ?_)) fun _ => rest_makes ?_ ?_ ?_ ?_ ?_ ?_ ?_ redone_copyPolicy ?_ ?_ ?_ ?_ ?_
  · exact fun f hf => redone_copyItem (Or.inl ⟨f, hf, rfl⟩)
  · exact fun _ _ _ _ => rfl
  · exact fun _ _ _ _ _ _ => rfl
  · exact fun _ _ _ _ => rfl
  · exact fun cer hcer store => redone_importCertificate hcer store
  · exact fun args hargs => redone_bcdedit hargs
  · exact ⟨redone_onRegistration (fun _ => some { driverRegistration with description := "" }) (fun _ _ => rfl) hdriver,
      redone_onRegistration (Option.map fun r => { r with description := driverRegistration.description }) (fun _ _ => rfl) hdriver⟩
  · intro w hw
    simp only [safeBootWrites, List.mem_cons, List.not_mem_nil, or_false] at hw
    rcases hw with rfl | rfl | rfl | rfl | rfl
    · exact (redone_safeBoot _).1
    · exact (redone_safeBoot _).2
    · exact (redone_safeBoot _).1
    · exact (redone_safeBoot _).2
    · exact redone_onRegistration (Option.map fun r => { r with restarts := [5000, 5000, 5000] }) (fun _ _ => rfl) hdriver
  · exact ⟨redone_onRegistration (fun _ => some { watchdogRegistration with restarts := [] }) (fun _ _ => rfl) hwatchdog,
      redone_onRegistration (Option.map fun r => { r with restarts := watchdogRegistration.restarts }) (fun _ _ => rfl) hwatchdog⟩
  · exact fun e _ => redone_editPolicyXml hxml e
  · intro cip hcip
    refine redone_copyItem (Or.inr ⟨rfl, ?_⟩)
    rw [hcip]
    rfl
  · intro record record' m
    rw [view_completed, view_completed]
    rfl
  · exact fun svc hsvc => redone_audio hsvc
  · exact redone_setConfigJson
  · exact fun f hf => redone_addFilter hf
  · exact fun name task h => redone_registerTask h

theorem after_completed (hxml : ∃ f ∈ i.bundle.staged, f.1 = wdacXml) (n : Nat) (record' : RecoveryKey) (m : Computer) :
    (i.completed edit t record ((i.script edit).after (onComputer t record') n m)).view t = (i.completed edit t record m).view t := by
  refine after_view (f := fun m => (i.completed edit t record m).view t) ?_ (script_makes t edit hxml) n m
  intro c m hc
  cases c with
  | write w => exact hc record record' m
  | _ => rfl

/-! ## The rules of the two directories -/

/-- Rules granted one after the other are those there are in the end, and what others have been granted. -/
theorem granted_foldl {rules : List AccessRule} (hrules : (rules.map AccessRule.identity).Nodup) (r : FolderRules) :
    rules.foldl FolderRules.grant r =
      ⟨r.inherited, r.granted.filter (fun x => decide (x.identity ∉ rules.map AccessRule.identity)) ++ rules⟩ := by
  induction rules generalizing r with
  | nil => simp
  | cons rule rules ih =>
    rw [List.map_cons, List.nodup_cons] at hrules
    have hkept : [rule].filter (fun x => decide (x.identity ∉ rules.map AccessRule.identity)) = [rule] :=
      List.filter_cons_of_pos (decide_eq_true hrules.1)
    have hfilter : ∀ x : AccessRule, (decide (x.identity ∉ rules.map AccessRule.identity) && (x.identity != rule.identity)) =
        decide (x.identity ∉ (rule :: rules).map AccessRule.identity) := by
      intro x
      rw [Bool.eq_iff_iff]
      simp only [Bool.and_eq_true, decide_eq_true_iff, bne_iff_ne, List.map_cons, List.mem_cons, not_or, and_comm]
    rw [List.foldl_cons, ih hrules.2, FolderRules.grant, List.filter_append, hkept, List.filter_filter, List.append_assoc, List.singleton_append]
    simp only [hfilter]

theorem tightRules_nodup : (tightRules.map AccessRule.identity).Nodup := by decide

theorem tightened_eq (r : FolderRules) : r.tightened =
    ⟨[], r.granted.filter (fun x => decide (x.identity ∉ tightRules.map AccessRule.identity)) ++ tightRules⟩ :=
  granted_foldl tightRules_nodup r.cut

/-- A rule of the script's makes no difference to what the script makes of the rules. -/
theorem tightened_grant (r : FolderRules) {rule : AccessRule} (h : rule ∈ tightRules) : (r.grant rule).tightened = r.tightened := by
  have hmem : rule.identity ∈ tightRules.map AccessRule.identity := List.mem_map_of_mem h
  have hfilter : ∀ x : AccessRule, (decide (x.identity ∉ tightRules.map AccessRule.identity) && (x.identity != rule.identity)) =
      decide (x.identity ∉ tightRules.map AccessRule.identity) := by
    intro x
    rw [Bool.eq_iff_iff, Bool.and_eq_true, decide_eq_true_iff, bne_iff_ne]
    exact and_iff_left_of_imp fun hx heq => hx (heq ▸ hmem)
  have hgone : [rule].filter (fun x => decide (x.identity ∉ tightRules.map AccessRule.identity)) = [] :=
    List.filter_cons_of_neg (by rw [decide_eq_true_iff]; exact fun h => h hmem)
  rw [tightened_eq, tightened_eq, FolderRules.grant, List.filter_append, hgone, List.filter_filter, List.append_nil]
  simp only [hfilter]

/-- The write sets no rule but those of the script. -/
def Write.Tightens (w : Write) : Prop := ∀ f rule, w = .icaclsGrant f rule → rule ∈ tightRules

theorem script_tightens (i : Installation) (edit : Option (Bytes → Bytes)) : (i.script edit).Makes (Command.Writes Write.Tightens) := by
  refine makes_bind (recovery_makes ?_) fun _ => makes_bind (writes_makes (forall_copies ?_)) fun _ =>
    makes_bind (writes_makes (forall_tighten ?_ ?_ ?_)) fun _ => rest_makes ?_ ?_ ?_ ?_ ?_ ?_ ?_ ?_ ?_ ?_ ?_ ?_ ?_
  all_goals simp [Write.Tightens, safeBootWrites]

/-- **Wherever a run is cut off**, what the script makes of the rules is the same. -/
theorem after_tightened (n : Nat) (s : Site) :
    (fun f => (((i.script edit).after (onSite t record) n s).folders f).tightened) = fun f => (s.folders f).tightened := by
  refine after_view (f := fun s : Site => fun f => (s.folders f).tightened) ?_ (script_tightens i edit) n s
  intro c s hc
  have hupdate : ∀ (g : Folder) (r : FolderRules), r.tightened = (s.folders g).tightened →
      (fun f => (Function.update s.folders g r f).tightened) = fun f => (s.folders f).tightened := by
    intro g r hr
    funext f
    by_cases hf : f = g
    · subst hf
      rw [Function.update_self, hr]
    · rw [Function.update_of_ne hf]
  cases c with
  | write w =>
    cases w with
    | icaclsInheritance g => exact hupdate g _ rfl
    | icaclsGrant g rule => exact hupdate g _ (tightened_grant _ (hc g rule rfl))
    | _ => rfl
  | _ => rfl

/-- The write is none of `icacls.exe`. -/
def Write.KeepsFolders (w : Write) : Prop := ∀ rules, (Command.write w).folders rules = rules

theorem keeps_folders {c : Command} (hc : c.Writes Write.KeepsFolders) (s : Site) : (onSite t record c s).2.folders = s.folders := by
  cases c with
  | write w => exact hc s.folders
  | _ => rfl

theorem copies_keepFolders (i : Installation) : (writes i.copies).Makes (Command.Writes Write.KeepsFolders) :=
  writes_makes (forall_copies fun _ _ _ => rfl)

theorem rest_keepsFolders (i : Installation) (edit : Option (Bytes → Bytes)) : (i.rest edit).Makes (Command.Writes Write.KeepsFolders) := by
  refine rest_makes ?_ ?_ ?_ ?_ ?_ ?_ ?_ ?_ ?_ ?_ ?_ ?_ ?_
  all_goals simp [Write.KeepsFolders, Command.folders, safeBootWrites]

theorem run_keepsFolders {x : Script Unit} (hx : x.Makes (Command.Writes Write.KeepsFolders)) (s : Site) :
    (x.run (onSite t record) s).2.folders = s.folders :=
  run_frame (f := Site.folders) (fun _ s hc => keeps_folders hc s) hx s

theorem run_tighten (s : Site) :
    ((writes Installation.tighten).run (onSite t record) s).2.folders = fun f => (s.folders f).tightened := by
  funext f
  cases f <;> rfl

theorem completed_folders (s : Site) :
    ((i.script edit).run (onSite t record) s).2.folders = fun f => (s.folders f).tightened := by
  have hrecovery : recovery.Makes (Command.Writes Write.KeepsFolders) := recovery_makes fun _ _ => rfl
  simp only [Installation.script, Prog.run_bind]
  rw [run_keepsFolders (rest_keepsFolders i edit), run_tighten, run_keepsFolders (copies_keepFolders i), run_keepsFolders hrecovery]

end

end Lockguard
