import Lockguard.InstallAgain
/-!
# Who brings an install to its end (`Install-Lockguard.ps1:36`, `:156-185`, `:257-296`, `:343-368`)

The script writes in the two directories, takes the right to do so from the administrators, runs the watchdog from
one of them, which they may not do either then, and writes there again. The first of these it is refused ends it:
`script_passes_iff` says which accounts it does not come to that with, `tightened_lets_iff` who they can be.
-/
namespace Lockguard

open Calls Prog

/-- The account may write in both directories, write in `$ProgramData` once the script has set the rules, and run the
watchdog there, if it is not registered. -/
structure Site.Admits (s : Site) (account : Account) : Prop where
  before : ∀ f, (s.folders f).lets .write account = true
  tightened : (s.folders .programData).tightened.lets .write account = true
  runs : s.computer.registrations "lockguard-svc" = none → (s.folders .programData).tightened.lets .run account = true

/-- **The rules of the script leave the right to write** to `TrustedInstaller`, and the right to run to `SYSTEM` too,
apart from what was granted by a rule the script does not replace. -/
theorem tightened_lets_iff (r : FolderRules) (access : Access) (account : Account) : r.tightened.lets access account = true ↔
    "NT SERVICE\\TrustedInstaller" ∈ account.identities ∨ (access = .run ∧ "NT AUTHORITY\\SYSTEM" ∈ account.identities) ∨
      ∃ rule ∈ r.granted, rule.identity ∉ tightRules.map AccessRule.identity ∧ rule.identity ∈ account.identities ∧
        rule.lets access = true := by
  have hscript : (∃ rule ∈ tightRules, rule.identity ∈ account.identities ∧ rule.lets access = true) ↔
      "NT SERVICE\\TrustedInstaller" ∈ account.identities ∨ (access = .run ∧ "NT AUTHORITY\\SYSTEM" ∈ account.identities) := by
    cases access <;> simp [tightRules, AccessRule.lets, Access.rights]
  simp only [tightened_eq, FolderRules.lets, List.nil_append, List.any_append, List.any_filter, Bool.or_eq_true,
    List.any_eq_true, Bool.and_eq_true, decide_eq_true_iff, hscript]
  rw [or_comm, or_assoc]

section
variable {t : CaseTables} {record : RecoveryKey} {i : Installation} {edit : Option (Bytes → Bytes)} {account : Account} {s u : Site}

variable {access : Access}

theorem lets_congr (h : u.folders = s.folders) (p : List Name) : u.lets access account p = s.lets access account p := by
  rw [Site.lets, Site.lets, h]

/-! ## The files in the directories -/

theorem folderOf_append (f : Folder) (p : List Name) : folderOf (f.path ++ p) = some f := by
  cases f with
  | programData => simp [folderOf, Folder.path]
  | restore =>
    have hfirst : wide "ProgramData" ≠ wide "Windows" := by decide
    simp [folderOf, Folder.path, programDataPath, restorePath, hfirst]

theorem lets_folder (f : Folder) (p : List Name) : s.lets access account (f.path ++ p) = (s.folders f).lets access account := by
  rw [Site.lets, folderOf_append]
  rfl

theorem lets_of_folders (h : ∀ f, (s.folders f).lets access account = true) (p : List Name) : s.lets access account p = true := by
  rw [Site.lets]
  cases folderOf p with
  | none => rfl
  | some f => exact h f

theorem lets_config (name : Name) : s.lets access account (configDir ++ [name]) = (s.folders .programData).lets access account := by
  have hpath : configDir ++ [name] = Folder.programData.path ++ [wide "config", name] := rfl
  rw [hpath, lets_folder]

theorem lets_configPath : s.lets access account configPath = (s.folders .programData).lets access account :=
  lets_config (wide "lockguard.json")

/-! ## What the script asks for -/

/-- Each of the writes that go through does not fail at the rules as they are in the beginning, where they leave
the rules alone. -/
theorem passes_mem {ws : List Write} (hkeeps : ∀ w ∈ ws, w.KeepsFolders)
    (hpasses : (writes ws).Passes (onSite t record) (Command.fails t account) s) {w : Write} (hmem : w ∈ ws) :
    ∃ u : Site, u.folders = s.folders ∧ (Command.write w).fails t account u = false := by
  induction ws generalizing s with
  | nil => cases hmem
  | cons v ws ih =>
    obtain ⟨hkeepsv, hkeeps⟩ := List.forall_mem_cons.1 hkeeps
    obtain ⟨hfirst, hrest⟩ := hpasses
    rcases List.mem_cons.1 hmem with rfl | hmem
    · exact ⟨s, rfl, hfirst⟩
    · have hfolders : (onSite t record (.write v) s).2.folders = s.folders := hkeepsv s.folders
      obtain ⟨u, hu, hfails⟩ := ih hkeeps hrest hmem
      exact ⟨u, hu.trans hfolders, hfails⟩

/-- A file that is there is not taken away by a write. -/
theorem effect_isSome (w : Write) (m : Computer) {p : List Name} (h : (Disk.find t m.host.disk p).isSome) :
    (Disk.find t (w.effect t record m).host.disk p).isSome := by
  have hprogram : ∀ cmd args, (m.program cmd args).host.disk = m.host.disk := by
    intro cmd args
    unfold Computer.program
    split
    all_goals first
      | rfl
      | obtain ⟨services, bcd, hcommand⟩ := command_frame m.host cmd args
        rw [hcommand]
  cases w with
  | copyItem dst data => exact put_isSome h dst data
  | setConfigJson json => exact put_isSome h configPath json
  | editPolicyXml edit => exact edited_isSome h
  | copyPolicy =>
    rw [Write.effect]
    split
    · exact put_isSome h _ _
    · exact h
  | program cmd args =>
    rw [Write.effect, hprogram]
    exact h
  | importCertificate cer store => cases store <;> exact h
  | safeBootKey mode => cases mode <;> exact h
  | safeBootValue mode => cases mode <;> exact h
  | _ => exact h

/-- What the phases after that of the watchdog need: the right to write in `$ProgramData`, and the two files to be edited. -/
structure Site.Ready (t : CaseTables) (s : Site) (account : Account) : Prop where
  lets : (s.folders .programData).lets .write account = true
  xml : (Disk.find t s.computer.host.disk wdacXml).isSome
  json : (Disk.find t s.computer.host.disk configPath).isSome

/-- The write leaves the rules alone, is in `$ProgramData` where it is one of `Copy-Item`, and runs nothing there. -/
def Write.Inside (w : Write) : Prop :=
  w.KeepsFolders ∧ (∀ dst data, w = .copyItem dst data → ∃ name, dst = configDir ++ [name]) ∧ w ≠ .createService

theorem ready_next {c : Command} (hc : c.Writes Write.KeepsFolders) (h : s.Ready t account) : (onSite t record c s).2.Ready t account := by
  have hfolders : (onSite t record c s).2.folders = s.folders := keeps_folders hc s
  cases c with
  | write w =>
    refine ⟨?_, effect_isSome w s.computer h.xml, effect_isSome w s.computer h.json⟩
    rw [hfolders]
    exact h.lets
  | _ => exact h

theorem run_ready {x : Script Unit} (hx : x.Makes (Command.Writes Write.KeepsFolders)) (h : s.Ready t account) :
    (x.run (onSite t record) s).2.Ready t account := by
  have halways : x.Always (onSite t record) (fun s => s.Ready t account) s := by
    refine always_of_makes ?_ hx h
    exact fun _ _ hc hs => ready_next hc hs
  exact halways.run

theorem Write.Inside.keeps {c : Command} (hc : c.Writes Write.Inside) : c.Writes Write.KeepsFolders := by
  cases c with
  | write w => exact hc.1
  | _ => exact hc

/-- Such writes need no more than that. -/
theorem passes_inside {x : Script Unit} (hx : x.Makes (Command.Writes Write.Inside)) (h : s.Ready t account) :
    x.Passes (onSite t record) (Command.fails t account) s := by
  refine passes_of_makes (I := fun s : Site => s.Ready t account) ?_ hx h
  intro c s hc hs
  refine ⟨?_, ready_next (Write.Inside.keeps hc) hs⟩
  cases c with
  | write w =>
    obtain ⟨-, hinside, hruns⟩ := hc
    cases w with
    | copyItem dst data =>
      obtain ⟨name, rfl⟩ := hinside dst data rfl
      have hlets : s.lets .write account (configDir ++ [name]) = true := (lets_config name).trans hs.lets
      simp [Command.fails, hlets]
    | editPolicyXml edit =>
      have hlets : s.lets .write account wdacXml = true := (lets_config _).trans hs.lets
      simp [Command.fails, hlets, Option.isNone_eq_false_iff, hs.xml]
    | setConfigJson json =>
      have hlets : s.lets .write account configPath = true := lets_configPath.trans hs.lets
      simp [Command.fails, hlets, Option.isNone_eq_false_iff, hs.json]
    | createService => exact absurd rfl hruns
    | _ => rfl
  | _ => rfl

/-- Writes that never fail. -/
theorem passes_quietly {x : Script Unit}
    (hx : x.Makes (Command.Writes fun w => ∀ s, (Command.write w).fails t account s = false)) (s : Site) :
    x.Passes (onSite t record) (Command.fails t account) s := by
  refine passes_of_makes (I := fun _ => True) ?_ hx trivial
  intro c s hc _
  cases c with
  | write w => exact ⟨hc s, trivial⟩
  | _ => exact ⟨rfl, trivial⟩

/-! ## Phases 4 to 13 -/

theorem watchdogService_passes_iff : watchdogService.Passes (onSite t record) (Command.fails t account) s ↔
    (s.computer.registrations "lockguard-svc" = none → (s.folders .programData).lets .run account = true) := by
  have hpath : servicePair.primary = Folder.programData.path ++ [wide "bin", wide "lockguard-svc.exe"] := rfl
  have hcreate : (Command.write .createService).fails t account s = !(s.folders .programData).lets .run account := by
    rw [← lets_folder .programData [wide "bin", wide "lockguard-svc.exe"], ← hpath]
    rfl
  have hfirst : watchdogService.Passes (onSite t record) (Command.fails t account) s ↔
      (writes (if (s.computer.registrations "lockguard-svc").isSome then [] else [.createService, .setRecoveryActions])).Passes
        (onSite t record) (Command.fails t account) s := passes_bind.trans (and_iff_right ⟨rfl, trivial⟩)
  rw [hfirst]
  cases hreg : s.computer.registrations "lockguard-svc" with
  | some r => exact iff_of_true trivial (fun h => by cases h)
  | none =>
    have hnew : (writes [.createService, .setRecoveryActions]).Passes (onSite t record) (Command.fails t account) s ↔
        (Command.write .createService).fails t account s = false := and_iff_left ⟨rfl, trivial⟩
    rw [Option.isSome_none, if_neg (by simp), hnew, hcreate]
    simp

/-- The last file the script writes is `lockguard.json`. -/
theorem lets_of_afterPolicy (h : (writes i.afterPolicy).Passes (onSite t record) (Command.fails t account) s) :
    (s.folders .programData).lets .write account = true := by
  have hkeeps : ∀ w ∈ i.afterPolicy, w.KeepsFolders := by
    refine forall_afterPolicy ?_ ?_ ?_ ?_ ?_
    all_goals simp [Write.KeepsFolders, Command.folders]
  have hmem : Write.setConfigJson i.lockguardJson ∈ i.afterPolicy := by simp [Installation.afterPolicy]
  obtain ⟨u, hfolders, hfails⟩ := passes_mem hkeeps h hmem
  have hlets : u.lets .write account configPath = true := by
    have hfails : (!u.lets .write account configPath || (Disk.find t u.computer.host.disk configPath).isNone) = false := hfails
    simpa using (Bool.or_eq_false_iff.1 hfails).1
  rwa [lets_configPath, hfolders] at hlets

theorem rest_passes_iff (hxml : (Disk.find t s.computer.host.disk wdacXml).isSome)
    (hjson : (Disk.find t s.computer.host.disk configPath).isSome) :
    (i.rest edit).Passes (onSite t record) (Command.fails t account) s ↔
      (s.folders .programData).lets .write account = true ∧
        (s.computer.registrations "lockguard-svc" = none → (s.folders .programData).lets .run account = true) := by
  have hbackup : ∃ name, wdacBackup = configDir ++ [name] := ⟨_, rfl⟩
  have htrust : (writes i.trustAndBoot).Makes (Command.Writes Write.Inside) := by
    refine writes_makes (forall_trustAndBoot ?_ ?_)
    all_goals simp [Write.Inside, Write.KeepsFolders, Command.folders]
  have hdriver : driverService.Makes (Command.Writes Write.Inside) := by
    refine driverService_makes ?_ ?_
    all_goals simp [Write.Inside, Write.KeepsFolders, Command.folders, safeBootWrites]
  have hpolicy : (i.policy edit).Makes (Command.Writes Write.Inside) := by
    refine policy_makes ?_ ?_ ?_
    all_goals simp [Write.Inside, Write.KeepsFolders, Command.folders, hbackup]
  have hafter : (writes i.afterPolicy).Makes (Command.Writes Write.Inside) := by
    refine writes_makes (forall_afterPolicy ?_ ?_ ?_ ?_ ?_)
    all_goals simp [Write.Inside, Write.KeepsFolders, Command.folders]
  have hwatchdog : watchdogService.Makes (Command.Writes Write.KeepsFolders) :=
    watchdogService_makes ⟨fun _ => rfl, fun _ => rfl⟩
  have hkeeps : ∀ {x : Script Unit}, x.Makes (Command.Writes Write.Inside) → x.Makes (Command.Writes Write.KeepsFolders) :=
    fun hx => hx.mono fun _ hc => Write.Inside.keeps hc
  -- the site the watchdog is registered at
  obtain ⟨u, hu⟩ : ∃ u, u = (driverService.run (onSite t record) ((writes i.trustAndBoot).run (onSite t record) s).2).2 := ⟨_, rfl⟩
  have hfolders : u.folders = s.folders := by
    rw [hu, run_keepsFolders (hkeeps hdriver), run_keepsFolders (hkeeps htrust)]
  have hregistered : u.computer.registrations "lockguard-svc" = s.computer.registrations "lockguard-svc" := by
    rw [hu, run_computer, driverService_run, run_computer, run_writes, trustAndBoot_effect]
    simp [Installation.phase6, Installation.phase5, Installation.phase4, Computer.program]
  simp only [Installation.rest, passes_bind, watchdogService_passes_iff]
  rw [← hu, hfolders, hregistered]
  constructor
  · rintro ⟨-, -, hruns, -, hlast⟩
    have hlets := lets_of_afterPolicy hlast
    rw [run_keepsFolders (hkeeps hpolicy), run_keepsFolders hwatchdog, hfolders] at hlets
    exact ⟨hlets, hruns⟩
  · rintro ⟨hlets, hruns⟩
    have hready : s.Ready t account := ⟨hlets, hxml, hjson⟩
    have hbooted : ((writes i.trustAndBoot).run (onSite t record) s).2.Ready t account := run_ready (hkeeps htrust) hready
    have hregisters : u.Ready t account := hu ▸ run_ready (hkeeps hdriver) hbooted
    have hdone : (watchdogService.run (onSite t record) u).2.Ready t account := run_ready hwatchdog hregisters
    exact ⟨passes_inside htrust hready, passes_inside hdriver hbooted, hruns, passes_inside hpolicy hdone,
      passes_inside hafter (run_ready (hkeeps hpolicy) hdone)⟩

/-! ## The whole script -/

theorem copies_passes_iff : (writes i.copies).Passes (onSite t record) (Command.fails t account) s ↔
    ∀ f, (s.folders f).lets .write account = true := by
  constructor
  · intro hpasses
    have hlets : ∀ file ∈ i.bundle.staged, s.lets .write account file.1 = true := by
      intro file hfile
      obtain ⟨u, hfolders, hfails⟩ := passes_mem (forall_copies fun _ _ _ => rfl) hpasses
        (List.mem_map_of_mem (f := fun f => Write.copyItem f.1 f.2) hfile)
      have hfails : (!u.lets .write account file.1) = false := hfails
      rw [← lets_congr hfolders]
      simpa using hfails
    have hservice := hlets (servicePair.primary, i.bundle.service) (by simp [Bundle.staged])
    have hdriver := hlets (driverPathBackup, i.bundle.driver) (by simp [Bundle.staged])
    rintro (_ | _)
    · exact (lets_folder .programData _).symm.trans hservice
    · exact (lets_folder .restore _).symm.trans hdriver
  · intro h
    have hmakes : (writes i.copies).Makes (Command.Writes fun w => ∃ dst data, w = .copyItem dst data) :=
      writes_makes (forall_copies fun f _ => ⟨f.1, f.2, rfl⟩)
    refine passes_of_makes (I := fun s => ∀ f, (s.folders f).lets .write account = true) ?_ hmakes h
    intro c s hc hs
    cases c with
    | write w =>
      obtain ⟨dst, data, rfl⟩ := hc
      have hlets : s.lets .write account dst = true := lets_of_folders hs dst
      exact ⟨by simp [Command.fails, hlets], hs⟩
    | _ => exact ⟨rfl, hs⟩

theorem copied_find {p : List Name} {files : List (List Name × Bytes)} (hp : ∃ f ∈ files, f.1 = p) (disk : Disk) :
    (Disk.find t (Disk.copied t disk files) p).isSome := by
  induction files generalizing disk with
  | nil =>
    obtain ⟨_, hmem, -⟩ := hp
    cases hmem
  | cons f files ih =>
    obtain ⟨g, hg, hpath⟩ := hp
    rcases List.mem_cons.1 hg with rfl | hg
    · refine copied_isSome ?_ files
      rw [← hpath, find_put_self]
      rfl
    · exact ih ⟨g, hg, hpath⟩ _

/-- The bundle holds the two files the script edits. -/
def Installation.Complete (i : Installation) : Prop := ∀ p ∈ [wdacXml, configPath], ∃ f ∈ i.bundle.staged, f.1 = p

/-- **Who brings the script to its end**, whatever the files and settings there are. -/
theorem script_passes_iff (hbundle : i.Complete) :
    (i.script edit).Passes (onSite t record) (Command.fails t account) s ↔ s.Admits account := by
  have hrecovery : recovery.Makes (Command.Writes Write.KeepsFolders) := recovery_makes fun _ _ => rfl
  have hfirst : recovery.Passes (onSite t record) (Command.fails t account) s := passes_quietly (recovery_makes fun _ _ => rfl) s
  have htighten : ∀ s, (writes Installation.tighten).Passes (onSite t record) (Command.fails t account) s :=
    passes_quietly (writes_makes (forall_tighten (fun _ _ => rfl) (fun _ _ _ _ => rfl) fun _ _ => rfl))
  -- the site before the copies, and the one after `icacls.exe`
  obtain ⟨u, hu⟩ : ∃ u, u = (recovery.run (onSite t record) s).2 := ⟨_, rfl⟩
  have hfolders : u.folders = s.folders := hu ▸ run_keepsFolders hrecovery s
  have hregistered : u.computer.registrations = s.computer.registrations := by
    rw [hu, run_computer, recovery_run]
  obtain ⟨v, hv⟩ : ∃ v, v = ((writes Installation.tighten).run (onSite t record) ((writes i.copies).run (onSite t record) u).2).2 := ⟨_, rfl⟩
  have htightened : v.folders = fun f => (s.folders f).tightened := by
    rw [hv, run_tighten, run_keepsFolders (copies_keepFolders i), hfolders]
  have hcomputer : v.computer = Installation.phase3 t i u.computer := by
    rw [hv, run_computer, run_writes, run_computer, run_writes, copies_effect]
    rfl
  have hsame : v.computer.registrations "lockguard-svc" = s.computer.registrations "lockguard-svc" := by
    rw [hcomputer, ← hregistered]
    rfl
  have hthere : ∀ p ∈ [wdacXml, configPath], (Disk.find t v.computer.host.disk p).isSome := by
    intro p hp
    rw [hcomputer]
    exact copied_find (hbundle p hp) _
  have hrest : (i.rest edit).Passes (onSite t record) (Command.fails t account) v ↔ _ :=
    rest_passes_iff (hthere wdacXml (by simp)) (hthere configPath (by simp))
  rw [htightened, hsame] at hrest
  simp only [Installation.script, passes_bind, copies_passes_iff]
  rw [← hu, ← hv, hfolders, hrest]
  constructor
  · rintro ⟨-, hlets, -, hlast, hruns⟩
    exact ⟨hlets, hlast, hruns⟩
  · rintro ⟨hlets, hlast, hruns⟩
    exact ⟨hfirst, hlets, htighten _, hlast, hruns⟩

end

end Lockguard
