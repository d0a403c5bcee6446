import Lockguard.Installer
import Lockguard.WlanBuffers
/-!
# The install and uninstall scripts

| here | there |
| --- | --- |
| `Computer`              | the host of the watchdog, and the settings the scripts alone work on |
| `Installation.phase2`, … | the phases of `Install-Lockguard.ps1:72-387` that write a setting |
| `Uninstallation.step2`, … | the steps of `Uninstall-Lockguard.ps1:60-153` |
| `SmoothPass`           | a pass of the watchdog in which no operation fails |

Every command is permitted and succeeds. `netsh` keeps filters of its own, apart from the group-policy
lists the watchdog writes.
-/
namespace Lockguard

open Calls

/-! ## Settings -/

/-- `Control\SafeBoot\Minimal` and `Control\SafeBoot\Network`. -/
inductive SafeMode where
  | minimal
  | network

inductive CertStore where
  | trustedPublisher
  | root

inductive NetworkType where
  | infrastructure
  | adhoc
deriving DecidableEq

/-- A filter of `netsh.exe wlan`. -/
inductive WlanFilter where
  | allow (ssid : String) (networktype : NetworkType)
  | denyall (networktype : NetworkType)
deriving DecidableEq

inductive TaskTrigger where
  | atStartup
  | atLogOn

structure ScheduledTask where
  trigger : TaskTrigger
  action : String

/-- A service in the registry; `restarts` are the delays of its failure actions in milliseconds. -/
structure Registration where
  kernel : Bool
  start : StartType
  displayName : String
  description : String
  restarts : List Nat

/-- The state of a computer. `safeBoot` is the default value of the key `lockguard.sys`, `none` for no key; the task names are
below `\Microsoft\Windows\Lockguard\`. -/
structure Computer where
  host : Host
  advancedoptions : Option String
  registrations : String → Option Registration
  safeBoot : SafeMode → Option (Option String)
  trusted : CertStore → List Bytes
  defaultAssociations : Option String
  userFilters : List WlanFilter
  tasks : String → Option ScheduledTask
  recoveryKey : Option RecoveryKey

/-- What a program of the scripts does when it succeeds. -/
def Computer.program (m : Computer) (cmd : String) (args : List String) : Computer :=
  match cmd, args with
  | "bcdedit.exe", ["/set", "testsigning", "off"] =>
    { m with host := { m.host with bcd := { m.host.bcd with testsigning := some "No" } } }
  | "bcdedit.exe", ["/set", "bootmenupolicy", "legacy"] =>
    { m with host := { m.host with bcd := { m.host.bcd with bootmenupolicy := some "Legacy" } } }
  | "bcdedit.exe", ["/set", "advancedoptions", "off"] => { m with advancedoptions := some "No" }
  | "sc.exe", ["config", name, "start=", "auto"] =>
    { m with host := { m.host with
        services := Function.update m.host.services name { m.host.services name with startType := .auto } } }
  | "sc.exe", ["delete", name] => { m with registrations := Function.update m.registrations name none }
  | _, _ => { m with host := m.host.command cmd args }

def audioServices : List String := ["audiosrv", "AudioEndpointBuilder"]

/-! ## Install-Lockguard.ps1 -/

structure Bundle where
  driver : Bytes
  service : Bytes
  config : List (Name × Bytes)
  certificate : Option Bytes

/-- What one install works with: the bundle, the passwords typed and the salt, what `ConvertFrom-CIPolicy`
makes of the policy if it is there, the SSID typed, and what becomes of `lockguard.json`. -/
structure Installation where
  bundle : Bundle
  password : InstallerRun
  compiled : Option Bytes
  ssid : String
  lockguardJson : Bytes

def configDir : List Name := programDataPath ++ [wide "config"]

/-- `Copy-Item -Force`, file by file. -/
def Disk.copied (t : CaseTables) (disk : Disk) (files : List (List Name × Bytes)) : Disk :=
  files.foldl (fun disk f => Disk.put t disk f.1 f.2) disk

def Bundle.staged (b : Bundle) : List (List Name × Bytes) :=
  [(driverPathPrimary, b.driver), (driverPathBackup, b.driver), (servicePair.primary, b.service),
    (servicePair.backup, b.service)] ++ b.config.map fun f => (configDir ++ [f.1], f.2)

/-- `Import-Certificate`. -/
def imported (cer : Bytes) (store : List Bytes) : List Bytes := if cer ∈ store then store else store ++ [cer]

def driverRegistration : Registration :=
  ⟨true, .boot, "Lockguard Driver", "Lockguard kernel protection driver.", []⟩

/-- What `serviceInstall` registers (`service_windows.go:40-61`). -/
def watchdogRegistration : Registration :=
  ⟨false, .auto, "Lockguard Watchdog Service",
    "Re-enforces Lockguard policy and respawns the kernel driver if it stops.", [5000, 5000, 30000]⟩

def appAssociations : String := "C:\\ProgramData\\Lockguard\\config\\AppAssociations.xml"

def taskAction : String := "powershell.exe -NoProfile -WindowStyle Hidden -Command \"Start-Service lockguard " ++
  "-EA SilentlyContinue; Start-Service lockguard-svc -EA SilentlyContinue\""

/-- `netsh.exe wlan add filter`. -/
def addFilter (filters : List WlanFilter) (f : WlanFilter) : List WlanFilter :=
  if f ∈ filters then filters else filters ++ [f]

namespace Installation

variable (t : CaseTables) (ps : PowerShell) (hmac : Hmac) (pbkdf2 : Pbkdf2) (i : Installation)

/-- Restore point and recovery password (`:72-154`). -/
def phase2 (m : Computer) : Computer :=
  { m with recoveryKey := (Lockguard.phase2 ps hmac pbkdf2 m.recoveryKey i.password).key }

/-- Stage files (`:156-185`). -/
def phase3 (m : Computer) : Computer :=
  { m with host := { m.host with disk := Disk.copied t m.host.disk i.bundle.staged } }

/-- Cert trust (`:187-197`). -/
def phase4 (m : Computer) : Computer :=
  { m with
    trusted := match i.bundle.certificate with
      | some cer => fun store => imported cer (m.trusted store)
      | none => m.trusted }

/-- Test signing and BCD (`:199-235`). -/
def phase5 (m : Computer) : Computer :=
  (((m.program "bcdedit.exe" ["/set", "testsigning", "on"]).program
    "bcdedit.exe" ["/set", "bootmenupolicy", "standard"]).program
    "bcdedit.exe" ["/set", "advancedoptions", "off"]).program
    "bcdedit.exe" ["/deletevalue", "safeboot"]

/-- Driver service (`:237-255`): the failure actions are set whether it was there or not. -/
def phase6 (m : Computer) : Computer :=
  { m with
    registrations := Function.update m.registrations "lockguard" (some
      { (m.registrations "lockguard").getD driverRegistration with restarts := [5000, 5000, 5000] })
    safeBoot := fun _ => some (some "Driver") }

/-- Watchdog service (`:257-265`). -/
def phase7 (m : Computer) : Computer :=
  { m with
    registrations := match m.registrations "lockguard-svc" with
      | some _ => m.registrations
      | none => Function.update m.registrations "lockguard-svc" (some watchdogRegistration) }

/-- WDAC policy (`:267-296`). -/
def phase8 (m : Computer) : Computer :=
  let disk := match i.compiled with
    | some cip => Disk.put t m.host.disk wdacBackup cip
    | none => m.host.disk
  let disk := match Disk.find t disk wdacBackup with
    | some cip => Disk.put t disk wdacPolicy cip
    | none => disk
  { m with host := { m.host with disk := disk } }

/-- File associations (`:298-307`). -/
def phase9 (m : Computer) : Computer := { m with defaultAssociations := some appAssociations }

/-- Mute the system (`:334-341`). -/
def phase11 (m : Computer) : Computer :=
  audioServices.foldl (fun m svc =>
    (m.program "sc.exe" ["config", svc, "start=", "disabled"]).program "sc.exe" ["stop", svc]) m

/-- WiFi printing carve-out (`:343-368`). -/
def phase12 (m : Computer) : Computer :=
  { m with
    host := { m.host with disk := Disk.put t m.host.disk configPath i.lockguardJson }
    userFilters := addFilter (addFilter (addFilter m.userFilters (.allow i.ssid .infrastructure))
      (.denyall .infrastructure)) (.denyall .adhoc) }

/-- Scheduled tasks (`:370-387`). -/
def phase13 (m : Computer) : Computer :=
  { m with
    tasks := Function.update (Function.update m.tasks "LockguardBoot" (some ⟨.atStartup, taskAction⟩))
      "LockguardLogon" (some ⟨.atLogOn, taskAction⟩) }

def run (m : Computer) : Computer :=
  phase13 (phase12 t i (phase11 (phase9 (phase8 t i (phase7 (phase6 (phase5 (phase4 i (phase3 t i
    (phase2 ps hmac pbkdf2 i m))))))))))

end Installation

/-! ## The watchdog in between -/

structure SmoothPass where
  env : Call → Outcome
  succeeds : ∀ c, (env c).fails = false

/-- The machine after passes of the watchdog. -/
def Computer.watched (t : CaseTables) (std : GoStd) (m : Computer) (passes : List SmoothPass) : Computer :=
  { m with host := passes.foldl (fun h p => h.enforced t p.env std) m.host }

/-! ## Uninstall-Lockguard.ps1 -/

/-- The files that are not in a directory or below it. -/
def Disk.removed (t : CaseTables) (disk : Disk) (dir : List Name) : Disk :=
  List.filter (fun f : DiskFile => !(foldPath t dir).isPrefixOf (foldPath t f.path)) disk

/-- The SSIDs that `SSID name\s+:\s+"([^"]+)"` finds in what `netsh.exe wlan show filters` prints. -/
structure Uninstallation where
  listed : List String

namespace Uninstallation

variable (t : CaseTables) (u : Uninstallation)

/-- Remove the watchdog service (`:60-64`). -/
def step2 (m : Computer) : Computer :=
  (m.program "sc.exe" ["stop", "lockguard-svc"]).program "sc.exe" ["delete", "lockguard-svc"]

/-- Remove the WDAC policy (`:66-78`). -/
def step3 (m : Computer) : Computer :=
  { m with host := { m.host with disk := Disk.erase t m.host.disk wdacPolicy } }

/-- Revert BCD (`:80-84`). -/
def step4 (m : Computer) : Computer :=
  (m.program "bcdedit.exe" ["/set", "testsigning", "off"]).program "bcdedit.exe" ["/set", "bootmenupolicy", "legacy"]

/-- Remove the driver service (`:86-95`). -/
def step5 (m : Computer) : Computer :=
  { m.program "sc.exe" ["delete", "lockguard"] with safeBoot := fun _ => none }

/-- Restore file associations (`:97-101`). -/
def step6 (m : Computer) : Computer := { m with defaultAssociations := none }

/-- Restore audio services (`:103-109`). -/
def step7 (m : Computer) : Computer :=
  audioServices.foldl (fun m svc =>
    (m.program "sc.exe" ["config", svc, "start=", "auto"]).program "sc.exe" ["start", svc]) m

/-- The filters step 8 deletes (`:117-126`). -/
def deletedFilters : List WlanFilter :=
  [.denyall .infrastructure, .denyall .adhoc] ++ u.listed.map fun ssid => .allow ssid .infrastructure

def step8 (m : Computer) : Computer :=
  { m with userFilters := m.userFilters.filter fun f => decide (f ∉ u.deletedFilters) }

def taskNames : List String := ["LockguardBoot", "LockguardLogon", "LockguardHeal"]

/-- Remove scheduled tasks (`:128-134`). -/
def step9 (m : Computer) : Computer := { m with tasks := fun name => if name ∈ taskNames then none else m.tasks name }

/-- Delete files (`:136-147`). -/
def step10 (m : Computer) : Computer :=
  { m with
    host := { m.host with
      disk := Disk.erase t (Disk.removed t (Disk.removed t m.host.disk programDataPath) restorePath) driverPathPrimary } }

/-- Remove the recovery registry (`:149-153`). -/
def step11 (m : Computer) : Computer := { m with recoveryKey := none }

def run (m : Computer) : Computer :=
  step11 (step10 t (step9 (step8 u (step7 (step6 (step5 (step4 (step3 t (step2 m)))))))))

end Uninstallation

end Lockguard
