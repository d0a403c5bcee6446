import Mathlib.Data.List.Infix
import Lockguard.Nt
import Lockguard.Lib.Prog
/-!
# The watchdog (`enforce_windows.go`, `wlan_windows.go`, `config_windows.go`)

| here | there |
| --- | --- |
| `Call`                   | what the checks ask of Windows: programs, files, the registry, WlanAPI |
| `Go`                     | a Go function that makes such calls; a last result `error` is an `Except` |
| `GoStd`                  | `crypto/sha256` with `%x`, and `json.Unmarshal` into a `lockguardConfig` |
| paths                    | components below `C:` |

Handles are not kept apart from what they are opened on, and closing one is not a call. Program
output is a text of runes, as `regexp` sees it.
-/
namespace Lockguard

open Calls

/-! ## Types of `wlan_windows.go` and `config_windows.go` -/

structure Dot11SSID where
  ssidLength : UInt32
  ssid : Bytes32
deriving DecidableEq

structure Dot11Network where
  ssid : Dot11SSID
  bssType : UInt32
deriving DecidableEq

abbrev Guid := BitVec 128

def wlanFilterListGroupPolicyPermit : UInt32 := 0
def wlanFilterListGroupPolicyDeny : UInt32 := 1
def dot11BSSTypeInfrastructure : UInt32 := 1
def dot11BSSTypeIndependent : UInt32 := 2

structure LockguardConfig where
  printerSSID : Bytes
  printerMode : Bytes
  enforceInterval : Int

/-- The parts of Go's library the checks rely on. -/
structure GoStd where
  sha256Hex : Bytes → String
  unmarshal : Bytes → Option LockguardConfig

/-! ## Calls -/

/-- Which of the two WLAN functions opens its handle. -/
inductive WlanUser where
  | filtersOK
  | applyFilters
deriving DecidableEq

inductive Call where
  | run (cmd : String) (args : List String)
  | readAll (path : List Name)
  | stat (path : List Name)
  | globCip (dir : List Name)
  | openRead (path : List Name)
  | mkdirAll (dir : List Name)
  | create (path : List Name)
  | copy (src dst : List Name)
  | rename (src dst : List Name)
  | executable
  | createKey (img : String)
  | setStringValue (img : String) (name value : String)
  | wlanOpenHandle (user : WlanUser)
  | wlanEnumInterfaces (user : WlanUser)
  | wlanGetFilterList (iface : Guid) (listType : UInt32)
  | wlanSetFilterList (iface : Guid) (listType : UInt32) (nets : List Dot11Network)
deriving DecidableEq

/-- `CombinedOutput` of a program, and whether it ran and exited with 0. -/
structure CommandResult where
  out : String
  ok : Bool

/-- What a call answers; `none` and `false` stand for a Go error. -/
@[reducible] def Call.Ret : Call → Type
  | .run _ _ => CommandResult
  | .readAll _ => Option Bytes
  | .globCip _ => List Name
  | .executable => Option String
  | .wlanEnumInterfaces _ => Option (List Guid)
  | .wlanGetFilterList _ _ => Option (List Dot11Network)
  | _ => Bool

abbrev Go := Prog Call Call.Ret

def Call.perform (c : Call) : Go c.Ret := Prog.perform c

inductive GoError where
  | failed (c : Call)
  | badConfig
  | noPolicy (backup : List Name)
  | ssidTooLong (s : Bytes)
  | restore (primary : List Name) (e : GoError)
  | repair (primary : List Name) (e : GoError)

/-- `x, err := f(); if err != nil { return err }`. -/
def Go.orReturn {α β : Type} (x : Go (Except GoError α)) (f : α → Go (Except GoError β)) : Go (Except GoError β) := do
  match ← x with
  | .error e => return .error e
  | .ok a => f a

/-- The error of a call that answers with one and nothing else. -/
def orFail (c : Call) (ok : Bool) : Except GoError Unit := if ok then .ok () else .error (.failed c)

def orFailSome {α : Type} (c : Call) : Option α → Except GoError α
  | some a => .ok a
  | none => .error (.failed c)

/-! ## Reading program output -/

def containsText (s sub : String) : Bool := decide (sub.toList <:+: s.toList)

/-- The parts of the three patterns: `\b`, a letter under `(?i)`, `\s+`. -/
inductive ReItem where
  | boundary
  | letter (c : Char)
  | spaces

def isSpaceRune (c : Char) : Bool := c == ' ' || c == '\t' || c == '\n' || c == '\x0c' || c == '\r'

def isWordRune (c : Char) : Bool := c.isAlphanum || c == '_'

/-- `(?i)`: also U+017F folds to `s` and U+212A to `k`. -/
def foldsTo (c : Char) (x : Char) : Bool :=
  x.toLower == c || (c == 's' && x.toNat == 0x017F) || (c == 'k' && x.toNat == 0x212A)

/-- `\s+`, then the rest of the pattern. -/
def matchSpaces (rest : Option Char → List Char → Bool) : List Char → Bool
  | [] => false
  | x :: s => isSpaceRune x && (rest (some x) s || matchSpaces rest s)

/-- A match from here on; `prev` is the rune before. -/
def matchHere : List ReItem → Option Char → List Char → Bool
  | [], _, _ => true
  | .boundary :: items, prev, s =>
    prev.any isWordRune != s.head?.any isWordRune && matchHere items prev s
  | .letter _ :: _, _, [] => false
  | .letter c :: items, _, x :: s => foldsTo c x && matchHere items (some x) s
  | .spaces :: items, _, s => matchSpaces (matchHere items) s

def matchFrom (items : List ReItem) : Option Char → List Char → Bool
  | prev, [] => matchHere items prev []
  | prev, x :: s => matchHere items prev (x :: s) || matchFrom items (some x) s

/-- `MatchString`. -/
def matchString (items : List ReItem) (s : String) : Bool := matchFrom items none s.toList

def letters (s : String) : List ReItem := s.toList.map .letter

def bcdTestSigningRe : List ReItem := [.boundary] ++ letters "testsigning" ++ [.spaces] ++ letters "yes" ++ [.boundary]
def bcdBootMenuStdRe : List ReItem :=
  [.boundary] ++ letters "bootmenupolicy" ++ [.spaces] ++ letters "standard" ++ [.boundary]
def bcdSafeBootPresent : List ReItem := [.boundary] ++ letters "safeboot" ++ [.boundary]

/-! ## Paths -/

def restorePath : List Name := [wide "Windows", wide "Lockguard-Restore"]
def programDataPath : List Name := [wide "ProgramData", wide "Lockguard"]
def driverPathPrimary : List Name := [wide "Windows", wide "System32", wide "drivers", wide "lockguard.sys"]
def driverPathBackup : List Name := restorePath ++ [wide "lockguard.sys"]
def wdacPolicyDir : List Name :=
  [wide "Windows", wide "System32", wide "CodeIntegrity", wide "CiPolicies", wide "Active"]
def configPath : List Name := programDataPath ++ [wide "config", wide "lockguard.json"]

/-! ## Files (`:254-292`) -/

def osStat (path : List Name) : Go Bool := Call.perform (.stat path)

/-- `filepath.Glob` of `*.cip`: it leaves out what it cannot read and has no error of its own. -/
def filepathGlob (dir : List Name) : Go (List Name) := Call.perform (.globCip dir)

def readFile (path : List Name) : Go (Except GoError Bytes) := do
  return orFailSome (.readAll path) (← Call.perform (.readAll path))

def fileHash (std : GoStd) (path : List Name) : Go (Except GoError String) :=
  (readFile path).orReturn fun data => return .ok (std.sha256Hex data)

def osOpen (path : List Name) : Go (Except GoError Unit) := do
  return orFail (.openRead path) (← Call.perform (.openRead path))
def osMkdirAll (dir : List Name) : Go (Except GoError Unit) := do
  return orFail (.mkdirAll dir) (← Call.perform (.mkdirAll dir))
def osCreate (path : List Name) : Go (Except GoError Unit) := do
  return orFail (.create path) (← Call.perform (.create path))
def ioCopy (src dst : List Name) : Go (Except GoError Unit) := do
  return orFail (.copy src dst) (← Call.perform (.copy src dst))
def osRename (src dst : List Name) : Go (Except GoError Unit) := do
  return orFail (.rename src dst) (← Call.perform (.rename src dst))

def copyFile (src dst : List Name) : Go (Except GoError Unit) :=
  (osOpen src).orReturn fun _ =>
  (osMkdirAll dst.dropLast).orReturn fun _ =>
  (osCreate dst).orReturn fun _ =>
  ioCopy src dst

/-- `dst + ".new"`. -/
def stageOf (dst : List Name) : List Name := dst.dropLast ++ [dst.getLastD [] ++ wide ".new"]

def atomicReplace (src dst : List Name) : Go (Except GoError Unit) :=
  (copyFile src (stageOf dst)).orReturn fun _ => osRename (stageOf dst) dst

/-! ## The WLAN functions -/

def ssidFromString (s : Bytes) : Except GoError Dot11SSID :=
  if s.length > 32 then .error (.ssidTooLong s) else .ok ⟨UInt32.ofNat s.length, bytesAt 32 s 0⟩

def ssidEquals (d : Dot11SSID) (s : Bytes) : Bool :=
  if d.ssidLength.toNat != s.length || d.ssidLength > 32 then false
  else d.ssid.toList.take d.ssidLength.toNat == s

def wlanOpen (user : WlanUser) : Go (Except GoError Unit) := do
  return orFail (.wlanOpenHandle user) (← Call.perform (.wlanOpenHandle user))

def wlanEnumInterfaces (user : WlanUser) : Go (Except GoError (List Guid)) := do
  return orFailSome (.wlanEnumInterfaces user) (← Call.perform (.wlanEnumInterfaces user))

def wlanGetFilter (iface : Guid) (listType : UInt32) : Go (Except GoError (List Dot11Network)) := do
  return orFailSome (.wlanGetFilterList iface listType) (← Call.perform (.wlanGetFilterList iface listType))

def wlanSetFilter (iface : Guid) (listType : UInt32) (nets : List Dot11Network) : Go (Except GoError Unit) := do
  return orFail (.wlanSetFilterList iface listType nets) (← Call.perform (.wlanSetFilterList iface listType nets))

/-- The search of the permit list (`wlan_windows.go:235-240`). -/
def permitFound (allowSSID : Bytes) (permit : List Dot11Network) : Bool :=
  permit.any fun n => ssidEquals n.ssid allowSSID && n.bssType == dot11BSSTypeInfrastructure

/-- The loop of `wlanFiltersOK` (`:225-244`). -/
def filtersOKLoop (allowSSID : Bytes) : List Guid → Go (Except GoError Bool)
  | [] => return .ok true
  | g :: ifaces =>
    (wlanGetFilter g wlanFilterListGroupPolicyPermit).orReturn fun permit =>
    (wlanGetFilter g wlanFilterListGroupPolicyDeny).orReturn fun deny =>
    if !permitFound allowSSID permit || deny.length == 0 then return .ok false
    else filtersOKLoop allowSSID ifaces

def wlanFiltersOK (allowSSID : Bytes) : Go (Except GoError Bool) :=
  (wlanOpen .filtersOK).orReturn fun _ =>
  (wlanEnumInterfaces .filtersOK).orReturn fun ifaces =>
  filtersOKLoop allowSSID ifaces

/-- The loop of `applyWLANFilters` (`:279-287`). -/
def applyLoop (permit deny : List Dot11Network) : List Guid → Go (Except GoError Unit)
  | [] => return .ok ()
  | g :: ifaces =>
    (wlanSetFilter g wlanFilterListGroupPolicyPermit permit).orReturn fun _ =>
    (wlanSetFilter g wlanFilterListGroupPolicyDeny deny).orReturn fun _ =>
    applyLoop permit deny ifaces

def permitOnly (ssid : Dot11SSID) : List Dot11Network := [⟨ssid, dot11BSSTypeInfrastructure⟩]

def denyAll : List Dot11Network :=
  [⟨⟨0, zero32⟩, dot11BSSTypeInfrastructure⟩, ⟨⟨0, zero32⟩, dot11BSSTypeIndependent⟩]

def applyWLANFilters (allowSSID : Bytes) : Go (Except GoError Unit) :=
  match ssidFromString allowSSID with
  | .error e => return .error e
  | .ok ssid =>
    (wlanOpen .applyFilters).orReturn fun _ =>
    (wlanEnumInterfaces .applyFilters).orReturn fun ifaces =>
    applyLoop (permitOnly ssid) denyAll ifaces

/-! ## The checks (`:97-250`) -/

def runQuiet (cmd : String) (args : List String) : Go CommandResult := Call.perform (.run cmd args)

def ensureDriverRunning : Go (Except GoError Unit) := do
  let r ← runQuiet "sc.exe" ["query", "lockguard"]
  if containsText r.out "RUNNING" then return .ok ()
  let r ← runQuiet "sc.exe" ["start", "lockguard"]
  return orFail (.run "sc.exe" ["start", "lockguard"]) r.ok

def ensureServiceDisabled (name : String) : Go (Except GoError Unit) := do
  let r ← runQuiet "sc.exe" ["qc", name]
  if containsText r.out "DISABLED" then
    let _ ← runQuiet "sc.exe" ["stop", name]
    return .ok ()
  let r ← runQuiet "sc.exe" ["config", name, "start=", "disabled"]
  if r.ok then
    let _ ← runQuiet "sc.exe" ["stop", name]
    return .ok ()
  return .error (.failed (.run "sc.exe" ["config", name, "start=", "disabled"]))

def ensureAudioDisabled : Go (Except GoError Unit) := ensureServiceDisabled "audiosrv"
def ensureAudioEndpointDisabled : Go (Except GoError Unit) := ensureServiceDisabled "AudioEndpointBuilder"

/-- A remedial command whose outcome is dropped. -/
def runIf (b : Bool) (cmd : String) (args : List String) : Go Unit := do
  if b then let _ ← runQuiet cmd args

def ensureBCDState : Go (Except GoError Unit) := do
  let r ← runQuiet "bcdedit.exe" ["/enum", "\x7bcurrent\x7d"]
  runIf (!matchString bcdTestSigningRe r.out) "bcdedit.exe" ["/set", "testsigning", "on"]
  runIf (!matchString bcdBootMenuStdRe r.out) "bcdedit.exe" ["/set", "bootmenupolicy", "standard"]
  runIf (matchString bcdSafeBootPresent r.out) "bcdedit.exe" ["/deletevalue", "safeboot"]
  return .ok ()

def wdacBackup : List Name := programDataPath ++ [wide "config", wide "WDACPolicy.cip"]
def wdacPolicy : List Name := wdacPolicyDir ++ [wide "lockguard.cip"]

def ensureWDACPolicy : Go (Except GoError Unit) := do
  let found ← filepathGlob wdacPolicyDir
  if found.length > 0 then return .ok ()
  if ← osStat wdacBackup then copyFile wdacBackup wdacPolicy else return .error (.noPolicy wdacBackup)

def loadConfig (std : GoStd) : Go (Except GoError LockguardConfig) :=
  (readFile configPath).orReturn fun data =>
  return match std.unmarshal data with
  | none => .error .badConfig
  | some cfg => .ok cfg

def ensureWLANFilter (std : GoStd) : Go (Except GoError Unit) :=
  (loadConfig std).orReturn fun cfg =>
  if cfg.printerSSID = [] then return .ok ()
  else
    (wlanFiltersOK cfg.printerSSID).orReturn fun ok =>
    if ok then return .ok () else applyWLANFilters cfg.printerSSID

def osExecutable : Go (Option String) := Call.perform .executable

/-- `registry.CreateKey` below `ifeoBase`, and `SetStringValue` on the key. -/
def createKey (img : String) : Go Bool := Call.perform (.createKey img)
def setStringValue (img name value : String) : Go Bool := Call.perform (.setStringValue img name value)

def blockedImages : List String :=
  ["regedit.exe", "taskmgr.exe", "procmon.exe", "procmon64.exe", "procexp.exe", "procexp64.exe",
   "pchunter.exe", "pchunter64.exe", "dbgview.exe", "windbg.exe", "x64dbg.exe", "autoruns.exe",
   "autorunsc.exe", "powershell_ise.exe"]

/-- `fmt.Sprintf("\"%s\" --silent-exit", exe)`. -/
def trampoline (exe : String) : String := "\"" ++ exe ++ "\" --silent-exit"

/-- The loop of `ensureIFEOBlocks` (`:213-222`). -/
def ifeoLoop (debugger : String) : List String → Go Unit
  | [] => return ()
  | img :: imgs => do
    if ← createKey img then
      let _ ← setStringValue img "Debugger" debugger
    ifeoLoop debugger imgs

def ensureIFEOBlocks : Go (Except GoError Unit) := do
  let exe ← osExecutable
  ifeoLoop (trampoline (exe.getD "")) blockedImages
  return .ok ()

structure FilePair where
  primary : List Name
  backup : List Name

def driverPair : FilePair := ⟨driverPathPrimary, driverPathBackup⟩
def servicePair : FilePair :=
  ⟨programDataPath ++ [wide "bin", wide "lockguard-svc.exe"], restorePath ++ [wide "lockguard-svc.exe"]⟩

/-- One round of the loop of `ensureFileIntegrity` (`:233-247`). -/
def ensurePair (std : GoStd) (p : FilePair) : Go (Except GoError Unit) := do
  let ph ← fileHash std p.primary
  let bh ← fileHash std p.backup
  match ph, bh with
  | .error _, .ok _ => return (← copyFile p.backup p.primary).mapError (.restore p.primary)
  | .ok ph, .ok bh =>
    if ph ≠ bh then return (← atomicReplace p.backup p.primary).mapError (.repair p.primary) else return .ok ()
  | _, .error _ => return .ok ()

def ensurePairs (std : GoStd) : List FilePair → Go (Except GoError Unit)
  | [] => return .ok ()
  | p :: ps => (ensurePair std p).orReturn fun _ => ensurePairs std ps

def ensureFileIntegrity (std : GoStd) : Go (Except GoError Unit) := ensurePairs std [driverPair, servicePair]

/-! ## One pass -/

structure Checker where
  name : String
  fn : Go (Except GoError Unit)

def checks (std : GoStd) : List Checker :=
  [⟨"driver-running", ensureDriverRunning⟩,
   ⟨"audio-disabled", ensureAudioDisabled⟩,
   ⟨"audio-endpoint-disabled", ensureAudioEndpointDisabled⟩,
   ⟨"bcd-state", ensureBCDState⟩,
   ⟨"wdac-policy", ensureWDACPolicy⟩,
   ⟨"wlan-filter", ensureWLANFilter std⟩,
   ⟨"ifeo-blocks", ensureIFEOBlocks⟩,
   ⟨"file-integrity", ensureFileIntegrity std⟩]

/-- The loop of `enforceOnce`; its results are the lines it logs. -/
def runChecks : List Checker → Go (List (String × Except GoError Unit))
  | [] => return []
  | c :: cs => do
    let err ← c.fn
    return (c.name, err) :: (← runChecks cs)

def enforceOnce (std : GoStd) : Go (List (String × Except GoError Unit)) := runChecks (checks std)

end Lockguard
