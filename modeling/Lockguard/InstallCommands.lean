import Lockguard.InstallRoundTrip
import Lockguard.Lib.Cut
/-!
# The install script, command by command (`Install-Lockguard.ps1:72-387`)

The phases of `InstallScripts` as a program of the commands they give, in their order, with the access rules of
the two directories and the edit of the policy.

| here | there |
| --- | --- |
| `Write`               | a command that changes a setting |
| `Command`             | a write, or one of the four questions: `Test-Path` of the recovery key and of the policy, `sc.exe query` |
| `Site`                | a computer with the access rules of its recovery key, which `Set-Acl` sets last, and of the two directories |
| `Account`             | the identities the script runs as |
| `Command.fails`       | an error of PowerShell's, which ends the script (`$ErrorActionPreference`, `:36`) |
| `Installation.script` | phases 2 to 9 and 11 to 13 |

An account may set the rules of the two directories, as their owner may, or who has full access to them; the bundle is
there, Secure Boot is off, and neither driver nor watchdog runs yet. A run in audit mode that comes to its end does what the
phases do, `run_eq_script`; the next modules are about runs that do not come to an end.
-/
namespace Lockguard

open Calls Prog

/-! ## Access rules -/

structure AccessRule where
  identity : String
  rights : List String

/-- The rules of `:143-146`, all those inherited being taken away. -/
def recoveryRules : List AccessRule :=
  [⟨"NT AUTHORITY\\SYSTEM", ["FullControl"]⟩, ⟨"BUILTIN\\Administrators", ["ReadKey", "SetValue", "CreateSubKey", "Delete"]⟩]

/-- `$ProgramData` and `$RestorePath`. -/
inductive Folder where
  | programData
  | restore
deriving DecidableEq

def Folder.path : Folder → List Name
  | .programData => programDataPath
  | .restore => restorePath

/-- The rules of a directory, which are those of what is below it, too. -/
structure FolderRules where
  inherited : List AccessRule
  granted : List AccessRule

/-- `icacls.exe … /inheritance:r`. -/
def FolderRules.cut (r : FolderRules) : FolderRules := { r with inherited := [] }

/-- `icacls.exe … /grant:r`: the rule replaces those its identity has been granted. -/
def FolderRules.grant (r : FolderRules) (rule : AccessRule) : FolderRules :=
  { r with granted := r.granted.filter (fun x => x.identity != rule.identity) ++ [rule] }

/-- What is granted for `(OI)(CI)` (`:178-180`). -/
def tightRules : List AccessRule :=
  [⟨"NT SERVICE\\TrustedInstaller", ["F"]⟩, ⟨"NT AUTHORITY\\SYSTEM", ["RX"]⟩, ⟨"BUILTIN\\Administrators", ["R"]⟩]

def FolderRules.tightened (r : FolderRules) : FolderRules := tightRules.foldl FolderRules.grant r.cut

/-- The identities in a token, an administrator's (`:2`, `:56-59`). So `:180` lets every account read. -/
structure Account where
  identities : List String
  elevated : "BUILTIN\\Administrators" ∈ identities

inductive Access where
  | write
  | run
deriving DecidableEq

/-- The rights of `icacls.exe` with the access in them: full access, modify, write, read and execute. -/
def Access.rights : Access → List String
  | .write => ["F", "M", "W"]
  | .run => ["F", "M", "RX"]

def AccessRule.lets (rule : AccessRule) (access : Access) : Bool := rule.rights.any fun right => right ∈ access.rights

def FolderRules.lets (r : FolderRules) (access : Access) (account : Account) : Bool :=
  (r.inherited ++ r.granted).any fun rule => decide (rule.identity ∈ account.identities) && rule.lets access

/-! ## The commands -/

def wdacXml : List Name := configDir ++ [wide "WDACPolicy.xml"]

inductive Write where
  | registry (step : RegistryStep)
  | copyItem (dst : List Name) (data : Bytes)
  | icaclsInheritance (f : Folder)
  | icaclsGrant (f : Folder) (rule : AccessRule)
  | attrib (f : Folder)
  | editPolicyXml (edit : Bytes → Bytes)
  | copyPolicy
  | importCertificate (cer : Bytes) (store : CertStore)
  | program (cmd : String) (args : List String)
  | scCreate
  | scDescription
  | safeBootKey (mode : SafeMode)
  | safeBootValue (mode : SafeMode)
  | scFailure
  | createService
  | setRecoveryActions
  | setAssociations
  | setConfigJson (json : Bytes)
  | addFilter (f : WlanFilter)
  | registerTask (name : String) (task : ScheduledTask)

inductive Command where
  | write (w : Write)
  | testRecoveryKey
  | scQuery (name : String)
  | testPolicy

@[reducible] def Command.Ret : Command → Type
  | .write _ => Unit
  | _ => Bool

abbrev Script := Prog Command Command.Ret

def command (c : Command) : Script c.Ret := perform c

def writes : List Write → Script Unit
  | [] => return ()
  | w :: ws => do
    let _ ← command (.write w)
    writes ws

/-- The settings of one service. -/
def Computer.onRegistration (m : Computer) (name : String) (f : Option Registration → Option Registration) : Computer :=
  { m with registrations := Function.update m.registrations name (f (m.registrations name)) }

@[simp] theorem onRegistration_self (m : Computer) (name : String) (f : Option Registration → Option Registration) :
    (m.onRegistration name f).registrations name = f (m.registrations name) := Function.update_self ..

/-- `Get-Content`, `-replace` and `Set-Content` on the policy (`:278`), `none` in audit mode. -/
def Disk.edited (t : CaseTables) (edit : Option (Bytes → Bytes)) (disk : Disk) : Disk :=
  match edit, Disk.find t disk wdacXml with
  | some edit, some xml => Disk.put t disk wdacXml (edit xml)
  | _, _ => disk

def Computer.edited (t : CaseTables) (edit : Option (Bytes → Bytes)) (m : Computer) : Computer :=
  { m with host := { m.host with disk := Disk.edited t edit m.host.disk } }

/-- What a write does, `record` being what phase 2 has computed. Attributes of directories are not a setting here. -/
def Write.effect (t : CaseTables) (record : RecoveryKey) (m : Computer) : Write → Computer
  | .registry step => { m with recoveryKey := step.effect record m.recoveryKey }
  | .copyItem dst data => { m with host := { m.host with disk := Disk.put t m.host.disk dst data } }
  | .icaclsInheritance _ | .icaclsGrant _ _ | .attrib _ => m
  | .editPolicyXml edit => m.edited t (some edit)
  | .copyPolicy => match Disk.find t m.host.disk wdacBackup with
    | some cip => { m with host := { m.host with disk := Disk.put t m.host.disk wdacPolicy cip } }
    | none => m
  | .importCertificate cer .trustedPublisher =>
    { m with trusted := fun | .trustedPublisher => imported cer (m.trusted .trustedPublisher) | .root => m.trusted .root }
  | .importCertificate cer .root =>
    { m with trusted := fun | .trustedPublisher => m.trusted .trustedPublisher | .root => imported cer (m.trusted .root) }
  | .program cmd args => m.program cmd args
  | .scCreate => m.onRegistration "lockguard" fun _ => some { driverRegistration with description := "" }
  | .scDescription =>
    m.onRegistration "lockguard" (Option.map fun r => { r with description := driverRegistration.description })
  | .safeBootKey .minimal => { m with safeBoot := fun | .minimal => some none | .network => m.safeBoot .network }
  | .safeBootKey .network => { m with safeBoot := fun | .minimal => m.safeBoot .minimal | .network => some none }
  | .safeBootValue .minimal =>
    { m with safeBoot := fun | .minimal => (m.safeBoot .minimal).map fun _ => some "Driver" | .network => m.safeBoot .network }
  | .safeBootValue .network =>
    { m with safeBoot := fun | .minimal => m.safeBoot .minimal | .network => (m.safeBoot .network).map fun _ => some "Driver" }
  | .scFailure => m.onRegistration "lockguard" (Option.map fun r => { r with restarts := [5000, 5000, 5000] })
  | .createService => m.onRegistration "lockguard-svc" fun _ => some { watchdogRegistration with restarts := [] }
  | .setRecoveryActions =>
    m.onRegistration "lockguard-svc" (Option.map fun r => { r with restarts := watchdogRegistration.restarts })
  | .setAssociations => { m with defaultAssociations := some appAssociations }
  | .setConfigJson json => { m with host := { m.host with disk := Disk.put t m.host.disk configPath json } }
  | .addFilter f => { m with userFilters := Lockguard.addFilter m.userFilters f }
  | .registerTask name task => { m with tasks := Function.update m.tasks name (some task) }

def onComputer (t : CaseTables) (record : RecoveryKey) : Handler Command Command.Ret Computer
  | .write w, m => ((), w.effect t record m)
  | .testRecoveryKey, m => (m.recoveryKey.isSome, m)
  | .scQuery name, m => ((m.registrations name).isSome, m)
  | .testPolicy, m => ((Disk.find t m.host.disk wdacBackup).isSome, m)

/-- The rules of the recovery key are `none` for the inherited ones. -/
structure Site where
  computer : Computer
  keyRules : Option (List AccessRule)
  folders : Folder → FolderRules

/-- `New-Item` makes a key with the rules it inherits. -/
def RegistryStep.keyRules (rules : Option (List AccessRule)) : RegistryStep → Option (List AccessRule)
  | .newItem => none
  | .setAcl => some recoveryRules
  | _ => rules

def Command.keyRules (rules : Option (List AccessRule)) : Command → Option (List AccessRule)
  | .write (.registry step) => step.keyRules rules
  | _ => rules

def Command.folders (rules : Folder → FolderRules) : Command → Folder → FolderRules
  | .write (.icaclsInheritance f) => Function.update rules f (rules f).cut
  | .write (.icaclsGrant f rule) => Function.update rules f ((rules f).grant rule)
  | _ => rules

def onSite (t : CaseTables) (record : RecoveryKey) : Handler Command Command.Ret Site := fun c s =>
  ((onComputer t record c s.computer).1,
    ⟨(onComputer t record c s.computer).2, c.keyRules s.keyRules, c.folders s.folders⟩)

/-! ## Errors -/

/-- The directory whose rules a file has. -/
def folderOf (p : List Name) : Option Folder := [Folder.programData, .restore].find? fun f => f.path.isPrefixOf p

def Site.lets (s : Site) (access : Access) (account : Account) (p : List Name) : Bool :=
  (folderOf p).all fun f => (s.folders f).lets access account

/-- A cmdlet that writes a file fails where the account may not, or where it is to be read first and is not there; and
`--service-install` (`:263`) where the account may not run the watchdog. -/
def Command.fails (t : CaseTables) (account : Account) : Command → Site → Bool
  | .write (.copyItem dst _), s => !s.lets .write account dst
  | .write (.editPolicyXml _), s => !s.lets .write account wdacXml || (Disk.find t s.computer.host.disk wdacXml).isNone
  | .write (.setConfigJson _), s => !s.lets .write account configPath || (Disk.find t s.computer.host.disk configPath).isNone
  | .write .createService, s => !s.lets .run account servicePair.primary
  | _, _ => false

/-- The first command that fails ends the run. -/
def onSession (t : CaseTables) (record : RecoveryKey) (account : Account) : Handler Command Command.Ret (Site × Bool) :=
  stopping (onSite t record) (Command.fails t account)

/-! ## The script -/

/-- Phase 2. -/
def recovery : Script Unit := do
  if ← command .testRecoveryKey then return () else writes (registrySteps.map .registry)

/-- The rest of phase 6, whether the service was there or not. -/
def safeBootWrites : List Write :=
  [.safeBootKey .minimal, .safeBootValue .minimal, .safeBootKey .network, .safeBootValue .network, .scFailure]

/-- Phase 6. -/
def driverService : Script Unit := do
  let there ← command (.scQuery "lockguard")
  writes (if there then [] else [.scCreate, .scDescription])
  writes safeBootWrites

/-- Phase 7. -/
def watchdogService : Script Unit := do
  let there ← command (.scQuery "lockguard-svc")
  writes (if there then [] else [.createService, .setRecoveryActions])

namespace Installation

variable (i : Installation) (edit : Option (Bytes → Bytes))

/-- `:174-183`. -/
def tighten : List Write :=
  ([Folder.programData, .restore].flatMap fun f => .icaclsInheritance f :: tightRules.map (.icaclsGrant f)) ++
  [.attrib .programData, .attrib .restore]

/-- `:168-172`. -/
def copies : List Write := i.bundle.staged.map fun f => .copyItem f.1 f.2

/-- Phases 4 and 5. -/
def trustAndBoot : List Write :=
  (i.bundle.certificate.toList.flatMap fun cer => [.importCertificate cer .trustedPublisher, .importCertificate cer .root]) ++
  [.program "bcdedit.exe" ["/set", "testsigning", "on"], .program "bcdedit.exe" ["/set", "bootmenupolicy", "standard"],
    .program "bcdedit.exe" ["/set", "advancedoptions", "off"], .program "bcdedit.exe" ["/deletevalue", "safeboot"]]

/-- Phase 8. -/
def policy : Script Unit := do
  writes (edit.toList.map .editPolicyXml)
  writes (i.compiled.toList.map fun cip => .copyItem wdacBackup cip)
  let there ← command .testPolicy
  writes (if there then [.copyPolicy] else [])

/-- Phases 9 and 11 to 13. -/
def afterPolicy : List Write :=
  [.setAssociations] ++
  (audioServices.flatMap fun svc => [.program "sc.exe" ["config", svc, "start=", "disabled"], .program "sc.exe" ["stop", svc]]) ++
  [.setConfigJson i.lockguardJson, .addFilter (.allow i.ssid .infrastructure), .addFilter (.denyall .infrastructure),
    .addFilter (.denyall .adhoc), .registerTask "LockguardBoot" ⟨.atStartup, taskAction⟩,
    .registerTask "LockguardLogon" ⟨.atLogOn, taskAction⟩]

/-- Phases 4 to 9 and 11 to 13. -/
def rest : Script Unit := do
  writes i.trustAndBoot
  driverService
  watchdogService
  i.policy edit
  writes i.afterPolicy

def script : Script Unit := do
  recovery
  writes i.copies
  writes tighten
  i.rest edit

/-- What the script makes of a computer. -/
def completed (t : CaseTables) (record : RecoveryKey) (m : Computer) : Computer :=
  phase13 (phase12 t i (phase11 (phase9 (phase8 t i (Computer.edited t edit (phase7 (phase6 (phase5 (phase4 i (phase3 t i
    { m with recoveryKey := some (m.recoveryKey.getD record) }))))))))))

end Installation

section
variable {t : CaseTables} {record : RecoveryKey} {i : Installation} {edit : Option (Bytes → Bytes)}

/-! ## The script and the phases -/

theorem run_writes (ws : List Write) (m : Computer) :
    (writes ws).run (onComputer t record) m = ((), ws.foldl (Write.effect t record) m) := by
  induction ws generalizing m with
  | nil => rfl
  | cons w ws ih => exact ih _

theorem run_computer (x : Script Unit) (s : Site) :
    (x.run (onSite t record) s).2.computer = (x.run (onComputer t record) s.computer).2 :=
  (congrArg Prod.snd (run_forget (h := onSite t record) (g := onComputer t record) (f := Site.computer) (fun _ _ => rfl) x s)).symm

theorem recovery_run (m : Computer) :
    recovery.run (onComputer t record) m = ((), { m with recoveryKey := some (m.recoveryKey.getD record) }) := by
  have hfirst : recovery.run (onComputer t record) m =
      (if m.recoveryKey.isSome then return () else writes (registrySteps.map .registry) : Script Unit).run (onComputer t record) m :=
    rfl
  rw [hfirst]
  cases hkey : m.recoveryKey with
  | some key =>
    have hsame : { m with recoveryKey := some key } = m := by
      rw [← hkey]
    rw [Option.getD_some, hsame]
    rfl
  | none =>
    rw [if_neg (by simp), run_writes]
    rfl

theorem copies_effect (m : Computer) : i.copies.foldl (Write.effect t record) m = Installation.phase3 t i m := by
  have hcopies : ∀ (files : List (List Name × Bytes)) (m : Computer),
      (files.map fun f => Write.copyItem f.1 f.2).foldl (Write.effect t record) m =
        { m with host := { m.host with disk := Disk.copied t m.host.disk files } } := by
    intro files
    induction files with
    | nil => exact fun _ => rfl
    | cons f files ih => exact fun m => ih _
  exact hcopies _ m

theorem trustAndBoot_effect (m : Computer) :
    i.trustAndBoot.foldl (Write.effect t record) m = Installation.phase5 (Installation.phase4 i m) := by
  unfold Installation.trustAndBoot
  rw [List.foldl_append]
  cases hcer : i.bundle.certificate with
  | none =>
    simp only [Installation.phase4, hcer]
    rfl
  | some cer =>
    have htrusted : (fun store => imported cer (m.trusted store)) = fun
        | .trustedPublisher => imported cer (m.trusted .trustedPublisher)
        | .root => imported cer (m.trusted .root) := by
      funext store
      cases store <;> rfl
    simp only [Installation.phase4, hcer, htrusted]
    rfl

/-- Both keys of Safe Mode, made anew. -/
theorem safeBoot_effect (m : Computer) : safeBootWrites.foldl (Write.effect t record) m =
    Write.effect t record { m with safeBoot := fun _ => some (some "Driver") } .scFailure := by
  have hkeys : [Write.safeBootKey .minimal, .safeBootValue .minimal, .safeBootKey .network, .safeBootValue .network].foldl
      (Write.effect t record) m = { m with safeBoot := fun _ => some (some "Driver") } := by
    simp only [List.foldl_cons, List.foldl_nil, Write.effect]
    congr 1
    funext mode
    cases mode <;> rfl
  exact congrArg (fun m => Write.effect t record m .scFailure) hkeys

theorem driverService_run (m : Computer) :
    driverService.run (onComputer t record) m = ((), Installation.phase6 m) := by
  have hfirst : driverService.run (onComputer t record) m = (writes safeBootWrites).run (onComputer t record)
      ((writes (if (m.registrations "lockguard").isSome then [] else [.scCreate, .scDescription])).run (onComputer t record) m).2 := by
    rw [driverService, Prog.run_bind, Prog.run_bind]
    rfl
  rw [hfirst, run_writes, run_writes, safeBoot_effect, Installation.phase6]
  cases hreg : m.registrations "lockguard" with
  | some r => simp [Write.effect, Computer.onRegistration, hreg]
  | none => simp [Write.effect, Computer.onRegistration, driverRegistration]

theorem watchdogService_run (m : Computer) :
    watchdogService.run (onComputer t record) m = ((), Installation.phase7 m) := by
  have hfirst : watchdogService.run (onComputer t record) m =
      (writes (if (m.registrations "lockguard-svc").isSome then [] else [.createService, .setRecoveryActions])).run
        (onComputer t record) m := rfl
  rw [hfirst, run_writes, Installation.phase7]
  cases hreg : m.registrations "lockguard-svc" with
  | some r => rfl
  | none =>
    simp [Write.effect, Computer.onRegistration, watchdogRegistration]

theorem policy_run (m : Computer) :
    (i.policy edit).run (onComputer t record) m = ((), Installation.phase8 t i (m.edited t edit)) := by
  have hdeploy : ∀ m : Computer,
      (do let there ← command .testPolicy; writes (if there then [.copyPolicy] else []) : Script Unit).run (onComputer t record) m =
        ((), Write.effect t record m .copyPolicy) := by
    intro m
    rw [Prog.run_bind, run_writes]
    cases hcip : Disk.find t m.host.disk wdacBackup <;> simp [command, onComputer, Write.effect, hcip]
  have hedit : (edit.toList.map Write.editPolicyXml).foldl (Write.effect t record) m = m.edited t edit := by
    cases edit <;> rfl
  have hcompile : (i.policy edit).run (onComputer t record) m =
      (do let there ← command .testPolicy; writes (if there then [.copyPolicy] else []) : Script Unit).run (onComputer t record)
        ((i.compiled.toList.map fun cip => Write.copyItem wdacBackup cip).foldl (Write.effect t record) (m.edited t edit)) := by
    rw [Installation.policy, Prog.run_bind, Prog.run_bind, run_writes, run_writes, hedit]
  rw [hcompile, hdeploy]
  unfold Installation.phase8
  cases i.compiled with
  | none =>
    cases hcip : Disk.find t (m.edited t edit).host.disk wdacBackup <;> simp [Write.effect, hcip]
  | some cip => simp [Write.effect]

theorem afterPolicy_effect (m : Computer) : i.afterPolicy.foldl (Write.effect t record) m =
    Installation.phase13 (Installation.phase12 t i (Installation.phase11 (Installation.phase9 m))) := rfl

theorem script_run (m : Computer) : (i.script edit).run (onComputer t record) m = ((), i.completed edit t record m) := by
  have htighten : ∀ m : Computer, Installation.tighten.foldl (Write.effect t record) m = m := fun _ => rfl
  simp only [Installation.script, Installation.rest, Prog.run_bind, recovery_run, run_writes, copies_effect, htighten,
    trustAndBoot_effect, driverService_run, watchdogService_run, policy_run, afterPolicy_effect, Installation.completed]

/-- Where a password is accepted and the run is not cut off, the script does in audit mode what the phases do. -/
theorem run_eq_script {ps : PowerShell} {hmac : Hmac} {pbkdf2 : Pbkdf2} {pw : List WCHAR}
    (hpw : ps.readStrongPassword i.password.typed = some pw) (hthrough : i.password.stopsAfter = none) (m : Computer) :
    i.run t ps hmac pbkdf2 m = ((i.script none).run (onComputer t
      (recordOf i.password.salt 1000000 (verifierOf hmac (pbkdf2 (ps.utf8 pw) i.password.salt.toList 1000000)))) m).2 := by
  have hkey : Installation.phase2 ps hmac pbkdf2 i m = { m with recoveryKey := some (m.recoveryKey.getD
      (recordOf i.password.salt 1000000 (verifierOf hmac (pbkdf2 (ps.utf8 pw) i.password.salt.toList 1000000)))) } := by
    unfold Installation.phase2
    congr 1
    cases m.recoveryKey with
    | some key => rfl
    | none =>
      simp only [Lockguard.phase2, hpw, hthrough]
      rfl
  rw [script_run, Installation.run, hkey]
  rfl

/-! ## The writes of the script -/

/-- The command is a question, or a write that `P` holds of. -/
def Command.Writes (P : Write → Prop) : Command → Prop
  | .write w => P w
  | _ => True

section
variable {P : Write → Prop}

theorem writes_makes {ws : List Write} (h : ∀ w ∈ ws, P w) : (writes ws).Makes (Command.Writes P) := by
  induction ws with
  | nil => trivial
  | cons w ws ih => exact ⟨h w (List.mem_cons_self ..), fun _ => ih fun v hv => h v (List.mem_cons_of_mem w hv)⟩

theorem recovery_makes (h : ∀ step, P (.registry step)) : recovery.Makes (Command.Writes P) := by
  refine makes_bind (makes_perform trivial) fun there => ?_
  cases there
  · refine writes_makes fun w hw => ?_
    obtain ⟨step, -, rfl⟩ := List.mem_map.1 hw
    exact h step
  · trivial

theorem driverService_makes (hnew : P .scCreate ∧ P .scDescription) (h : ∀ w ∈ safeBootWrites, P w) :
    driverService.Makes (Command.Writes P) := by
  refine makes_bind (makes_perform trivial) fun there => makes_bind (writes_makes ?_) fun _ => writes_makes h
  cases there
  · simpa using hnew
  · simp

theorem watchdogService_makes (hnew : P .createService ∧ P .setRecoveryActions) : watchdogService.Makes (Command.Writes P) := by
  refine makes_bind (makes_perform trivial) fun there => writes_makes ?_
  cases there
  · simpa using hnew
  · simp

theorem policy_makes (hedit : ∀ e, edit = some e → P (.editPolicyXml e))
    (hcompiled : ∀ cip, i.compiled = some cip → P (.copyItem wdacBackup cip)) (h : P .copyPolicy) :
    (i.policy edit).Makes (Command.Writes P) := by
  refine makes_bind (writes_makes ?_) fun _ => makes_bind (writes_makes ?_) fun _ => makes_bind (makes_perform trivial) fun there =>
    writes_makes ?_
  · intro w hw
    obtain ⟨e, he, rfl⟩ := List.mem_map.1 hw
    exact hedit e (Option.mem_toList.1 he)
  · intro w hw
    obtain ⟨cip, hcip, rfl⟩ := List.mem_map.1 hw
    exact hcompiled cip (Option.mem_toList.1 hcip)
  · cases there
    · simp
    · simpa using h

/-- Each write of phase 3, of phases 4 and 5, and of phases 9 and 11 to 13. -/
theorem forall_copies (h : ∀ f ∈ i.bundle.staged, P (.copyItem f.1 f.2)) : ∀ w ∈ i.copies, P w := by
  intro w hw
  obtain ⟨f, hf, rfl⟩ := List.mem_map.1 hw
  exact h f hf

theorem forall_tighten (hcut : ∀ f, P (.icaclsInheritance f)) (hgrant : ∀ f, ∀ rule ∈ tightRules, P (.icaclsGrant f rule))
    (hattrib : ∀ f, P (.attrib f)) : ∀ w ∈ Installation.tighten, P w := by
  intro w hw
  rcases List.mem_append.1 hw with hw | hw
  · obtain ⟨f, -, hw⟩ := List.mem_flatMap.1 hw
    rcases List.mem_cons.1 hw with rfl | hw
    · exact hcut f
    · obtain ⟨rule, hrule, rfl⟩ := List.mem_map.1 hw
      exact hgrant f rule hrule
  · simp only [List.mem_cons, List.not_mem_nil, or_false] at hw
    rcases hw with rfl | rfl <;> exact hattrib _

theorem forall_trustAndBoot (himport : ∀ cer, i.bundle.certificate = some cer → ∀ store, P (.importCertificate cer store))
    (hboot : ∀ args ∈ [["/set", "testsigning", "on"], ["/set", "bootmenupolicy", "standard"], ["/set", "advancedoptions", "off"],
      ["/deletevalue", "safeboot"]], P (.program "bcdedit.exe" args)) : ∀ w ∈ i.trustAndBoot, P w := by
  intro w hw
  rcases List.mem_append.1 hw with hw | hw
  · obtain ⟨cer, hcer, hw⟩ := List.mem_flatMap.1 hw
    have himport := himport cer (Option.mem_toList.1 hcer)
    simp only [List.mem_cons, List.not_mem_nil, or_false] at hw
    rcases hw with rfl | rfl <;> exact himport _
  · simp only [List.mem_cons, List.not_mem_nil, or_false] at hw
    rcases hw with rfl | rfl | rfl | rfl <;> exact hboot _ (by simp)

theorem forall_afterPolicy (hassoc : P .setAssociations)
    (haudio : ∀ svc ∈ audioServices, P (.program "sc.exe" ["config", svc, "start=", "disabled"]) ∧ P (.program "sc.exe" ["stop", svc]))
    (hconfig : P (.setConfigJson i.lockguardJson))
    (hfilter : ∀ f, f = .allow i.ssid .infrastructure ∨ f = .denyall .infrastructure ∨ f = .denyall .adhoc → P (.addFilter f))
    (htask : ∀ name task, name = "LockguardBoot" ∨ name = "LockguardLogon" → P (.registerTask name task)) :
    ∀ w ∈ i.afterPolicy, P w := by
  intro w hw
  rw [Installation.afterPolicy, List.mem_append, List.mem_append] at hw
  rcases hw with (hw | hw) | hw
  · obtain rfl := List.mem_singleton.1 hw
    exact hassoc
  · obtain ⟨svc, hsvc, hw⟩ := List.mem_flatMap.1 hw
    simp only [List.mem_cons, List.not_mem_nil, or_false] at hw
    rcases hw with rfl | rfl
    · exact (haudio svc hsvc).1
    · exact (haudio svc hsvc).2
  · simp only [List.mem_cons, List.not_mem_nil, or_false] at hw
    rcases hw with rfl | rfl | rfl | rfl | rfl | rfl
    · exact hconfig
    · exact hfilter _ (Or.inl rfl)
    · exact hfilter _ (Or.inr (Or.inl rfl))
    · exact hfilter _ (Or.inr (Or.inr rfl))
    · exact htask _ _ (Or.inl rfl)
    · exact htask _ _ (Or.inr rfl)

/-- Phases 4 to 13, write by write. -/
theorem rest_makes (himport : ∀ cer, i.bundle.certificate = some cer → ∀ store, P (.importCertificate cer store))
    (hboot : ∀ args ∈ [["/set", "testsigning", "on"], ["/set", "bootmenupolicy", "standard"], ["/set", "advancedoptions", "off"],
      ["/deletevalue", "safeboot"]], P (.program "bcdedit.exe" args))
    (hdriver : P .scCreate ∧ P .scDescription) (hsafe : ∀ w ∈ safeBootWrites, P w)
    (hwatchdog : P .createService ∧ P .setRecoveryActions) (hedit : ∀ e, edit = some e → P (.editPolicyXml e))
    (hcompiled : ∀ cip, i.compiled = some cip → P (.copyItem wdacBackup cip)) (hdeploy : P .copyPolicy)
    (hassoc : P .setAssociations)
    (haudio : ∀ svc ∈ audioServices, P (.program "sc.exe" ["config", svc, "start=", "disabled"]) ∧ P (.program "sc.exe" ["stop", svc]))
    (hconfig : P (.setConfigJson i.lockguardJson))
    (hfilter : ∀ f, f = .allow i.ssid .infrastructure ∨ f = .denyall .infrastructure ∨ f = .denyall .adhoc → P (.addFilter f))
    (htask : ∀ name task, name = "LockguardBoot" ∨ name = "LockguardLogon" → P (.registerTask name task)) :
    (i.rest edit).Makes (Command.Writes P) :=
  makes_bind (writes_makes (forall_trustAndBoot himport hboot)) fun _ => makes_bind (driverService_makes hdriver hsafe) fun _ =>
    makes_bind (watchdogService_makes hwatchdog) fun _ => makes_bind (policy_makes hedit hcompiled hdeploy) fun _ =>
    writes_makes (forall_afterPolicy hassoc haudio hconfig hfilter htask)

end

end

end Lockguard
