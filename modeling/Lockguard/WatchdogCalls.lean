import Lockguard.WlanLists
import Lockguard.Ioctl
import Lockguard.Lib.Refine
/-!
# What the watchdog holds open (`enforce_windows.go:63-292`, `wlan_windows.go:95-288`, `ioctl_windows.go:44-71`)

The rounds of `enforceLoop` as programs over calls that hand out handles and buffers and take them back.

| here | there |
| --- | --- |
| `Resource`     | an `*os.File`, a registry key, a WLAN handle, a list WlanAPI allocated, the driver's handle |
| `Table`        | what is open, and on what |
| `Call.plain`   | a call of the checks that needs none of them (programs, `os.ReadFile`, `os.Rename`, …) |
| `deferring`    | `defer` |
| `anyOutcome`   | the machine of the checks, any call coming out in any way |

`rounds_leave_nothing` is about handles and buffers, `rounds_refine` about the checks.
-/
namespace Lockguard.Wd

open Calls Prog

/-! ## Calls -/

inductive Resource where
  | file (f : Nat)
  | key (k : Nat)
  | wlan (h : Nat)
  | memory (p : Nat)
  | device (h : Nat)
deriving DecidableEq

/-- What a resource stands for while it is open. -/
inductive Holds where
  | reading (path : List Name)
  | writing (path : List Name)
  | imageKey (img : String)
  | wlanClient
  | interfaces (gs : List Guid)
  | networks (ns : List Dot11Network)
  | driver

inductive Call where
  | plain (c : Lockguard.Call)
  | openRead (path : List Name)
  | create (path : List Name)
  | readAll (f : Nat)
  | copy (out input : Nat)
  | closeFile (f : Nat)
  | createKey (img : String)
  | setStringValue (k : Nat) (name value : String)
  | closeKey (k : Nat)
  | wlanOpenHandle
  | wlanEnumInterfaces (h : Nat)
  | interfaceList (p : Nat)
  | wlanGetFilterList (h : Nat) (iface : Guid) (listType : UInt32)
  | networkList (p : Nat)
  | wlanSetFilterList (h : Nat) (iface : Guid) (listType : UInt32) (nets : List Dot11Network)
  | wlanFreeMemory (p : Nat)
  | wlanCloseHandle (h : Nat)
  | createFile
  | deviceIoControl (h : Nat) (code : ULONG)
  | closeHandle (h : Nat)

/-- `none` and `false` stand for an error; a list WlanAPI hands out may be the null pointer. -/
@[reducible] def Call.Ret : Call → Type
  | .plain c => c.Ret
  | .openRead _ | .create _ | .createKey _ | .wlanOpenHandle | .createFile => Option Nat
  | .readAll _ => Option Bytes
  | .copy _ _ | .setStringValue _ _ _ | .wlanSetFilterList _ _ _ _ | .deviceIoControl _ _ => Bool
  | .wlanEnumInterfaces _ | .wlanGetFilterList _ _ _ => Option (Option Nat)
  | .interfaceList _ => List Guid
  | .networkList _ => List Dot11Network
  | .closeFile _ | .closeKey _ | .wlanFreeMemory _ | .wlanCloseHandle _ | .closeHandle _ => Unit

abbrev Go := Prog Call Call.Ret

def call (c : Call) : Go c.Ret := perform c

/-- A part of the checks that opens nothing. -/
def plainly {α : Type} (x : Lockguard.Go α) : Go α := x.lift Call.plain fun _ r => r

def orReturn {α β : Type} (x : Go (Except GoError α)) (f : α → Go (Except GoError β)) : Go (Except GoError β) := do
  match ← x with
  | .error e => return .error e
  | .ok a => f a

/-- What follows a `defer` of `c`. -/
def deferring {α : Type} (c : Call) (body : Go α) : Go α := do
  let r ← body
  let _ ← call c
  return r

/-! ## Files (`enforce_windows.go:254-292`) -/

def fileHash (std : GoStd) (path : List Name) : Go (Except GoError String) := do
  match ← call (.openRead path) with
  | none => return .error (.failed (.readAll path))
  | some f => deferring (.closeFile f) do
    return (orFailSome (.readAll path) (← call (.readAll f))).map std.sha256Hex

/-- `os.Create` and what follows in `copyFile` (`:276-282`). -/
def copyInto (input : Nat) (src dst : List Name) : Go (Except GoError Unit) := do
  match ← call (.create dst) with
  | none => return .error (.failed (.create dst))
  | some out => deferring (.closeFile out) do return orFail (.copy src dst) (← call (.copy out input))

def copyFile (src dst : List Name) : Go (Except GoError Unit) := do
  match ← call (.openRead src) with
  | none => return .error (.failed (.openRead src))
  | some input => deferring (.closeFile input) do
    orReturn (plainly (osMkdirAll dst.dropLast)) fun _ => copyInto input src dst

def atomicReplace (src dst : List Name) : Go (Except GoError Unit) :=
  orReturn (copyFile src (stageOf dst)) fun _ => plainly (osRename (stageOf dst) dst)

/-! ## The WLAN functions (`wlan_windows.go:95-288`) -/

def wlanEnumInterfaces (user : WlanUser) (h : Nat) : Go (Except GoError (List Guid)) := do
  match ← call (.wlanEnumInterfaces h) with
  | none => return .error (.failed (.wlanEnumInterfaces user))
  | some none => return .ok []
  | some (some listPtr) => deferring (.wlanFreeMemory listPtr) do return .ok (← call (.interfaceList listPtr))

def wlanGetFilter (h : Nat) (iface : Guid) (listType : UInt32) : Go (Except GoError (List Dot11Network)) := do
  match ← call (.wlanGetFilterList h iface listType) with
  | none => return .error (.failed (.wlanGetFilterList iface listType))
  | some none => return .ok []
  | some (some listPtr) => deferring (.wlanFreeMemory listPtr) do return .ok (← call (.networkList listPtr))

def wlanSetFilter (h : Nat) (iface : Guid) (listType : UInt32) (nets : List Dot11Network) : Go (Except GoError Unit) := do
  return orFail (.wlanSetFilterList iface listType nets) (← call (.wlanSetFilterList h iface listType nets))

def filtersOKLoop (h : Nat) (allowSSID : Bytes) : List Guid → Go (Except GoError Bool)
  | [] => return .ok true
  | g :: ifaces =>
    orReturn (wlanGetFilter h g wlanFilterListGroupPolicyPermit) fun permit =>
    orReturn (wlanGetFilter h g wlanFilterListGroupPolicyDeny) fun deny =>
    if !permitFound allowSSID permit || deny.length == 0 then return .ok false
    else filtersOKLoop h allowSSID ifaces

/-- `wlanOpen`, with `defer wlanClose(h)`. -/
def withWlan {α : Type} (user : WlanUser) (body : Nat → Go (Except GoError α)) : Go (Except GoError α) := do
  match ← call .wlanOpenHandle with
  | none => return .error (.failed (.wlanOpenHandle user))
  | some h => deferring (.wlanCloseHandle h) (body h)

def wlanFiltersOK (allowSSID : Bytes) : Go (Except GoError Bool) :=
  withWlan .filtersOK fun h =>
  orReturn (wlanEnumInterfaces .filtersOK h) fun ifaces =>
  filtersOKLoop h allowSSID ifaces

def applyLoop (h : Nat) (permit deny : List Dot11Network) : List Guid → Go (Except GoError Unit)
  | [] => return .ok ()
  | g :: ifaces =>
    orReturn (wlanSetFilter h g wlanFilterListGroupPolicyPermit permit) fun _ =>
    orReturn (wlanSetFilter h g wlanFilterListGroupPolicyDeny deny) fun _ =>
    applyLoop h permit deny ifaces

def applyWLANFilters (allowSSID : Bytes) : Go (Except GoError Unit) :=
  match ssidFromString allowSSID with
  | .error e => return .error e
  | .ok ssid =>
    withWlan .applyFilters fun h =>
    orReturn (wlanEnumInterfaces .applyFilters h) fun ifaces =>
    applyLoop h (permitOnly ssid) denyAll ifaces

/-! ## The checks that open something (`enforce_windows.go:148-250`) -/

def ensureWDACPolicy : Go (Except GoError Unit) := do
  let found ← plainly (filepathGlob wdacPolicyDir)
  if found.length > 0 then return .ok ()
  else if ← plainly (osStat wdacBackup) then copyFile wdacBackup wdacPolicy else return .error (.noPolicy wdacBackup)

def ensureWLANFilter (std : GoStd) : Go (Except GoError Unit) :=
  orReturn (plainly (loadConfig std)) fun cfg =>
  if cfg.printerSSID = [] then return .ok ()
  else
    orReturn (wlanFiltersOK cfg.printerSSID) fun ok =>
    if ok then return .ok () else applyWLANFilters cfg.printerSSID

def ifeoLoop (debugger : String) : List String → Go Unit
  | [] => return ()
  | img :: imgs => do
    match ← call (.createKey img) with
    | none => ifeoLoop debugger imgs
    | some k =>
      let _ ← call (.setStringValue k "Debugger" debugger)
      let _ ← call (.closeKey k)
      ifeoLoop debugger imgs

def ensureIFEOBlocks : Go (Except GoError Unit) := do
  let exe ← plainly osExecutable
  ifeoLoop (trampoline (exe.getD "")) blockedImages
  return .ok ()

def ensurePair (std : GoStd) (p : FilePair) : Go (Except GoError Unit) := do
  let ph ← fileHash std p.primary
  let bh ← fileHash std p.backup
  match ph, bh with
  | .error _, .ok _ => return (← copyFile p.backup p.primary).mapError (.restore p.primary)
  | .ok ph, .ok bh =>
    if ph ≠ bh then return (← atomicReplace p.backup p.primary).mapError (.repair p.primary) else return .ok ()
  | _, .error _ => return .ok ()

def ensurePairs (std : GoStd) : List FilePair → Go (Except GoError Unit)
  | [] => return .ok ()
  | p :: ps => orReturn (ensurePair std p) fun _ => ensurePairs std ps

/-! ## The rounds (`enforce_windows.go:52-93`) -/

structure Checker where
  name : String
  fn : Go (Except GoError Unit)

def checks (std : GoStd) : List Checker :=
  [⟨"driver-running", plainly ensureDriverRunning⟩,
   ⟨"audio-disabled", plainly ensureAudioDisabled⟩,
   ⟨"audio-endpoint-disabled", plainly ensureAudioEndpointDisabled⟩,
   ⟨"bcd-state", plainly ensureBCDState⟩,
   ⟨"wdac-policy", ensureWDACPolicy⟩,
   ⟨"wlan-filter", ensureWLANFilter std⟩,
   ⟨"ifeo-blocks", ensureIFEOBlocks⟩,
   ⟨"file-integrity", ensurePairs std [driverPair, servicePair]⟩]

abbrev Log := List (String × Except GoError Unit)

def runChecks : List Checker → Go Log
  | [] => return []
  | c :: cs => do
    let err ← c.fn
    return (c.name, err) :: (← runChecks cs)

def enforceOnce (std : GoStd) : Go Log := runChecks (checks std)

/-- `openDriver`, with `defer windows.CloseHandle(h)` (`ioctl_windows.go:44-71`). -/
def sendHeartbeat : Go Bool := do
  match ← call .createFile with
  | none => return false
  | some h => deferring (.closeHandle h) (call (.deviceIoControl h lgIoctlHeartbeat))

/-- So many rounds of `enforceLoop`, and what they log of the checks. -/
def rounds (std : GoStd) : Nat → Go (List Log)
  | 0 => return []
  | n + 1 => do
    let log ← enforceOnce std
    let _ ← sendHeartbeat
    return log :: (← rounds std n)

/-! ## The machine and what is open -/

abbrev Table := Resource → Option Holds

structure State where
  host : Host
  table : Table

def State.close (s : State) (x : Resource) : State := { s with table := Function.update s.table x none }

/-- Something that is not open yet is opened on `v`. -/
def State.Opens (s : State) (x : Resource) (v : Holds) (s' : State) : Prop :=
  s.table x = none ∧ s' = { s with table := Function.update s.table x (some v) }

/-- The call of the checks comes out in some way. -/
def Answers (t : CaseTables) (c : Lockguard.Call) (m : Host) (r : c.Ret) (m' : Host) : Prop :=
  ∃ o, m.answer t o c = (r, m')

def anyOutcome (t : CaseTables) : Contract Lockguard.Call Lockguard.Call.Ret Host where
  pre _ _ := True
  post := Answers t

/-- A list in memory of WlanAPI's own, or the null pointer for an empty one. -/
def State.HandsOut (s : State) (v : Holds) (empty : Prop) (r : Option (Option Nat)) (s' : State) : Prop :=
  match r with
  | none => s' = s
  | some none => empty ∧ s' = s
  | some (some p) => s.Opens (.memory p) v s'

def machine (t : CaseTables) : Contract Call Call.Ret State where
  pre
    | .readAll f, s => ∃ path, s.table (.file f) = some (.reading path)
    | .copy out input, s => ∃ src dst, s.table (.file input) = some (.reading src) ∧ s.table (.file out) = some (.writing dst)
    | .setStringValue k _ _, s => ∃ img, s.table (.key k) = some (.imageKey img)
    | .wlanEnumInterfaces h, s | .wlanGetFilterList h _ _, s | .wlanSetFilterList h _ _ _, s =>
      s.table (.wlan h) = some .wlanClient
    | .interfaceList p, s => ∃ gs, s.table (.memory p) = some (.interfaces gs)
    | .networkList p, s => ∃ ns, s.table (.memory p) = some (.networks ns)
    | .deviceIoControl h _, s => s.table (.device h) = some .driver
    | .closeFile f, s => (s.table (.file f)).isSome
    | .closeKey k, s => (s.table (.key k)).isSome
    | .wlanFreeMemory p, s => (s.table (.memory p)).isSome
    | .wlanCloseHandle h, s => (s.table (.wlan h)).isSome
    | .closeHandle h, s => (s.table (.device h)).isSome
    | _, _ => True
  post
    | .plain c, s, r, s' => s'.table = s.table ∧ Answers t c s.host r s'.host
    | .openRead path, s, r, s' => match r with
      | none => s' = s
      | some f => (Disk.find t s.host.disk path).isSome ∧ s.Opens (.file f) (.reading path) s'
    | .create path, s, r, s' => match r with
      | none => s' = s
      | some f => State.Opens { s with host := { s.host with disk := Disk.put t s.host.disk path [] } } (.file f) (.writing path) s'
    | .readAll f, s, r, s' => s' = s ∧ ∀ path, s.table (.file f) = some (.reading path) →
      r = none ∨ r = Disk.find t s.host.disk path
    | .copy out input, s, r, s' => s'.table = s.table ∧ ∀ src dst, s.table (.file input) = some (.reading src) →
      s.table (.file out) = some (.writing dst) → Answers t (.copy src dst) s.host r s'.host
    | .createKey img, s, r, s' => match r with
      | none => s' = s
      | some k => s.Opens (.key k) (.imageKey img) s'
    | .setStringValue k name value, s, r, s' => s'.table = s.table ∧ ∀ img, s.table (.key k) = some (.imageKey img) →
      Answers t (.setStringValue img name value) s.host r s'.host
    | .wlanOpenHandle, s, r, s' => match r with
      | none => s' = s
      | some h => s.Opens (.wlan h) .wlanClient s'
    | .wlanEnumInterfaces _, s, r, s' => s.HandsOut (.interfaces s.host.interfaces) (s.host.interfaces = []) r s'
    | .interfaceList p, s, r, s' => s' = s ∧ ∀ gs, s.table (.memory p) = some (.interfaces gs) → r = gs
    | .wlanGetFilterList _ iface ty, s, r, s' =>
      s.HandsOut (.networks (s.host.filterList iface ty)) (s.host.filterList iface ty = []) r s'
    | .networkList p, s, r, s' => s' = s ∧ ∀ ns, s.table (.memory p) = some (.networks ns) → r = ns
    | .wlanSetFilterList _ iface ty nets, s, r, s' =>
      s'.table = s.table ∧ Answers t (.wlanSetFilterList iface ty nets) s.host r s'.host
    | .createFile, s, r, s' => match r with
      | none => s' = s
      | some h => s.Opens (.device h) .driver s'
    | .deviceIoControl _ _, s, _, s' => s' = s
    | .closeFile f, s, _, s' => s' = s.close (.file f)
    | .closeKey k, s, _, s' => s' = s.close (.key k)
    | .wlanFreeMemory p, s, _, s' => s' = s.close (.memory p)
    | .wlanCloseHandle h, s, _, s' => s' = s.close (.wlan h)
    | .closeHandle h, s, _, s' => s' = s.close (.device h)

/-- The calls of the watchdog over those of the checks. -/
def levels (t : CaseTables) : Levels Call Call.Ret Lockguard.Call Lockguard.Call.Ret State Host Table where
  fine := machine t
  coarse := anyOutcome t
  view := State.host
  own := State.table

/-- With so much open, the program makes each call when it may, leaves open what was, and comes to what
the part of the checks may come to. -/
abbrev Refines (t : CaseTables) {α : Type} (P : Table → Prop) (x : Go α) (y : Lockguard.Go α) : Prop :=
  (levels t).Refines P x y

section
variable {t : CaseTables} {α β : Type} {P : Table → Prop} {Q : α → State → Prop} {s s' : State}

theorem plainly_refines (x : Lockguard.Go α) : Refines t P (plainly x) x :=
  Levels.refines_lift (fun _ _ => trivial) (fun _ _ _ _ h => h) x

theorem orReturn_refines {x : Go (Except GoError α)} {y : Lockguard.Go (Except GoError α)}
    {f : α → Go (Except GoError β)} {g : α → Lockguard.Go (Except GoError β)} (hx : Refines t P x y)
    (hf : ∀ a, Refines t P (f a) (g a)) : Refines t P (orReturn x f) (y.orReturn g) := by
  refine Levels.refines_bind hx ?_
  rintro (e | a)
  · exact Levels.refines_pure _
  · exact hf a

/-! ## Opening and closing -/

/-- `c` closes `x`. -/
structure Closes (t : CaseTables) (c : Call) (x : Resource) : Prop where
  may : ∀ s : State, (s.table x).isSome → (machine t).pre c s
  closed : ∀ s r s', (machine t).post c s r s' → s' = s.close x

theorem closes_file (f : Nat) : Closes t (.closeFile f) (.file f) := ⟨fun _ h => h, fun _ _ _ h => h⟩
theorem closes_key (k : Nat) : Closes t (.closeKey k) (.key k) := ⟨fun _ h => h, fun _ _ _ h => h⟩
theorem closes_memory (p : Nat) : Closes t (.wlanFreeMemory p) (.memory p) := ⟨fun _ h => h, fun _ _ _ h => h⟩
theorem closes_wlan (h : Nat) : Closes t (.wlanCloseHandle h) (.wlan h) := ⟨fun _ h => h, fun _ _ _ h => h⟩
theorem closes_device (h : Nat) : Closes t (.closeHandle h) (.device h) := ⟨fun _ h => h, fun _ _ _ h => h⟩

theorem opens_held {x : Resource} {v : Holds} (h : s.Opens x v s') : s'.table x = some v := by
  obtain ⟨-, rfl⟩ := h
  exact Function.update_self ..

theorem opens_kept {x z : Resource} {v : Holds} (h : s.Opens x v s') (hz : z ≠ x) : s'.table z = s.table z := by
  obtain ⟨-, rfl⟩ := h
  exact Function.update_of_ne hz ..

theorem opens_host {x : Resource} {v : Holds} (h : s.Opens x v s') : s'.host = s.host := by
  obtain ⟨-, rfl⟩ := h
  rfl

/-- **What is opened is closed again**: the table is as it was, and the machine as the body left it. -/
theorem wp_closing {body : Go α} {c : Call} {x : Resource} {v : Holds} {f : α → Go β} {R : β → State → Prop} {A : α → Host → Prop}
    (hc : Closes t c x) (hopens : s.Opens x v s')
    (hbody : body.wp (machine t) (fun a u => u.table = s'.table ∧ A a u.host) s')
    (hf : ∀ a u, u.table = s.table → A a u.host → (f a).wp (machine t) R u) :
    (body >>= fun a => call c >>= fun _ => f a).wp (machine t) R s' := by
  obtain ⟨hnew, rfl⟩ := hopens
  refine wp_seq hbody ?_
  rintro a u ⟨htable, hA⟩
  have htable : u.table = Function.update s.table x (some v) := htable
  refine wp_call.2 ⟨hc.may u ?_, fun r u' hpost => ?_⟩
  · rw [htable, Function.update_self]
    rfl
  · rw [hc.closed u r u' hpost]
    refine hf a _ ?_ hA
    rw [State.close, htable, Function.update_idem, ← hnew, Function.update_eq_self]

/-- `defer` of a call that closes what was just opened. -/
theorem wp_deferring {body : Go α} {y : Lockguard.Go α} {c : Call} {x : Resource} {v : Holds} {m : Host} {T : Table}
    (hc : Closes t c x) (hopens : s.Opens x v s') (hT : s.table = T)
    (hbody : body.wp (machine t) (fun a u => u.table = s'.table ∧ y.Gives (anyOutcome t) m a u.host) s') :
    (deferring c body).wp (machine t) (fun a u => u.table = T ∧ y.Gives (anyOutcome t) m a u.host) s' :=
  wp_closing hc hopens hbody fun _ _ htable hgives => ⟨htable.trans hT, hgives⟩

/-! ## Files -/

theorem fileHash_gives {std : GoStd} {path : List Name} {m : Host} {r : Option Bytes} (h : r = none ∨ r = Disk.find t m.disk path) :
    (Lockguard.fileHash std path).Gives (anyOutcome t) m ((orFailSome (.readAll path) r).map std.sha256Hex) m := by
  have hanswers : Answers t (.readAll path) m r m := by
    rcases h with rfl | rfl
    · exact ⟨⟨true, "", 0⟩, rfl⟩
    · exact ⟨⟨false, "", 0⟩, rfl⟩
  refine ⟨r, m, hanswers, ?_⟩
  cases r <;> exact ⟨rfl, rfl⟩

theorem fileHash_refines (std : GoStd) (path : List Name) : Refines t P (fileHash std path) (Lockguard.fileHash std path) := by
  intro s _
  refine wp_call.2 ⟨trivial, ?_⟩
  rintro (_ | f) s' hpost
  · obtain rfl : s' = s := hpost
    exact ⟨rfl, fileHash_gives (r := none) (Or.inl rfl)⟩
  · have hreading := opens_held hpost.2
    refine wp_deferring (closes_file f) hpost.2 rfl (wp_call.2 ⟨⟨path, hreading⟩, ?_⟩)
    rintro r u ⟨rfl, hread⟩
    have hread := hread path hreading
    refine ⟨rfl, ?_⟩
    show (Lockguard.fileHash std path).Gives (anyOutcome t) s.host _ u.host
    rw [opens_host hpost.2] at hread ⊢
    exact fileHash_gives hread

/-- The copy proper, the files being open. -/
theorem copyInto_refines {input : Nat} {src : List Name} (dst : List Name) :
    Refines t (fun T => T (.file input) = some (.reading src)) (copyInto input src dst)
      ((osCreate dst).orReturn fun _ => ioCopy src dst) := by
  intro s hreading
  refine wp_call.2 ⟨trivial, ?_⟩
  rintro (_ | out) s' hpost
  · obtain rfl : s' = s := hpost
    exact ⟨rfl, false, s'.host, ⟨⟨true, "", 0⟩, rfl⟩, rfl, rfl⟩
  · have hopens : State.Opens { s with host := { s.host with disk := Disk.put t s.host.disk dst [] } } (.file out)
        (.writing dst) s' := hpost
    have hne : Resource.file input ≠ .file out := by
      intro hsame
      have hopen : s.table (.file out) = some (.reading src) := hsame ▸ hreading
      rw [show s.table (.file out) = none from hopens.1] at hopen
      cases hopen
    have hinput : s'.table (.file input) = some (.reading src) := (opens_kept hopens hne).trans hreading
    refine wp_deferring (closes_file out) hopens rfl (wp_call.2 ⟨⟨src, dst, hinput, opens_held hopens⟩, ?_⟩)
    rintro ok u ⟨htable, hcopy⟩
    have hcopy := hcopy src dst hinput (opens_held hopens)
    rw [opens_host hopens] at hcopy
    exact ⟨htable, true, _, ⟨⟨false, "", 0⟩, rfl⟩, ok, u.host, hcopy, rfl, rfl⟩

theorem copyFile_refines (src dst : List Name) : Refines t P (copyFile src dst) (Lockguard.copyFile src dst) := by
  intro s _
  refine wp_call.2 ⟨trivial, ?_⟩
  rintro (_ | input) s' hpost
  · obtain rfl : s' = s := hpost
    exact ⟨rfl, false, s'.host, ⟨⟨true, "", 0⟩, rfl⟩, rfl, rfl⟩
  · have hopen : Answers t (.openRead src) s.host true s.host := by
      refine ⟨⟨false, "", 0⟩, ?_⟩
      simp [Host.answer, hpost.1]
    have hrest : Refines t (fun T => T (.file input) = some (.reading src))
        (orReturn (plainly (osMkdirAll dst.dropLast)) fun _ => copyInto input src dst)
        ((osMkdirAll dst.dropLast).orReturn fun _ => (osCreate dst).orReturn fun _ => ioCopy src dst) :=
      orReturn_refines (plainly_refines _) fun _ => copyInto_refines dst
    refine wp_deferring (closes_file input) hpost.2 rfl (wp_mono (hrest s' (opens_held hpost.2)) ?_)
    rintro r u ⟨htable, hgives⟩
    have hgives : Prog.Gives (anyOutcome t) _ s'.host r u.host := hgives
    rw [opens_host hpost.2] at hgives
    exact ⟨htable, true, s.host, hopen, hgives⟩

theorem atomicReplace_refines (src dst : List Name) :
    Refines t P (atomicReplace src dst) (Lockguard.atomicReplace src dst) :=
  orReturn_refines (copyFile_refines src _) fun _ => plainly_refines _

theorem ensurePair_refines (std : GoStd) (p : FilePair) : Refines t P (ensurePair std p) (Lockguard.ensurePair std p) := by
  refine Levels.refines_bind (fileHash_refines std _) fun ph => Levels.refines_bind (fileHash_refines std _) fun bh => ?_
  rcases ph with _ | ph <;> rcases bh with _ | bh
  · exact Levels.refines_pure _
  · exact Levels.refines_bind (copyFile_refines _ _) fun _ => Levels.refines_pure _
  · exact Levels.refines_pure _
  · exact Levels.refines_ite (Levels.refines_bind (atomicReplace_refines _ _) fun _ => Levels.refines_pure _) (Levels.refines_pure _)

theorem ensurePairs_refines (std : GoStd) (ps : List FilePair) :
    Refines t P (ensurePairs std ps) (Lockguard.ensurePairs std ps) := by
  induction ps with
  | nil => exact Levels.refines_pure _
  | cons p ps ih => exact orReturn_refines (ensurePair_refines std p) fun _ => ih

theorem ensureWDACPolicy_refines : Refines t P ensureWDACPolicy Lockguard.ensureWDACPolicy := by
  refine Levels.refines_bind (plainly_refines _) fun found => Levels.refines_ite (Levels.refines_pure _) ?_
  refine Levels.refines_bind (plainly_refines _) fun there => ?_
  exact Levels.refines_ite (copyFile_refines _ _) (Levels.refines_pure _)

/-! ## The WLAN functions -/

/-- The list has been handed out: it is read, and freed. -/
theorem wp_handed {γ : Type} {v : Holds} {p : Nat} {list : List γ} {y : Lockguard.Go (Except GoError (List γ))} {m : Host}
    {read : Go (List γ)} (hopens : s.Opens (.memory p) v s')
    (hread : ∀ Q : List γ → State → Prop, Q list s' → read.wp (machine t) Q s') (hm : s.host = m)
    (hgives : y.Gives (anyOutcome t) m (.ok list) m) :
    (deferring (.wlanFreeMemory p) (do return .ok (← read))).wp (machine t)
      (fun a u => u.table = s.table ∧ y.Gives (anyOutcome t) m a u.host) s' := by
  refine wp_deferring (closes_memory p) hopens rfl ((wp_bind _ _ _).2 (hread _ ⟨rfl, ?_⟩))
  rw [opens_host hopens, hm]
  exact hgives

theorem wlanEnumInterfaces_refines (user : WlanUser) (h : Nat) :
    Refines t (fun T => T (.wlan h) = some .wlanClient) (wlanEnumInterfaces user h) (Lockguard.wlanEnumInterfaces user) := by
  intro s hclient
  have hgives : (Lockguard.wlanEnumInterfaces user).Gives (anyOutcome t) s.host (.ok s.host.interfaces) s.host :=
    ⟨some s.host.interfaces, s.host, ⟨⟨false, "", 0⟩, rfl⟩, rfl, rfl⟩
  refine wp_call.2 ⟨hclient, ?_⟩
  rintro (_ | _ | listPtr) s' hpost
  · obtain rfl : s' = s := hpost
    exact ⟨rfl, none, s'.host, ⟨⟨true, "", 0⟩, rfl⟩, rfl, rfl⟩
  · obtain ⟨hempty, rfl⟩ : s.host.interfaces = [] ∧ s' = s := hpost
    rw [hempty] at hgives
    exact ⟨rfl, hgives⟩
  · have hheld : s'.table (.memory listPtr) = some (.interfaces s.host.interfaces) := opens_held hpost
    refine wp_handed hpost (fun Q hQ => ⟨⟨_, hheld⟩, ?_⟩) rfl hgives
    rintro list u ⟨rfl, hlist⟩
    rw [hlist _ hheld]
    exact hQ

theorem wlanGetFilter_refines (h : Nat) (iface : Guid) (listType : UInt32) :
    Refines t (fun T => T (.wlan h) = some .wlanClient) (wlanGetFilter h iface listType)
      (Lockguard.wlanGetFilter iface listType) := by
  intro s hclient
  have hgives : (Lockguard.wlanGetFilter iface listType).Gives (anyOutcome t) s.host (.ok (s.host.filterList iface listType)) s.host :=
    ⟨some (s.host.filterList iface listType), s.host, ⟨⟨false, "", 0⟩, rfl⟩, rfl, rfl⟩
  refine wp_call.2 ⟨hclient, ?_⟩
  rintro (_ | _ | listPtr) s' hpost
  · obtain rfl : s' = s := hpost
    exact ⟨rfl, none, s'.host, ⟨⟨true, "", 0⟩, rfl⟩, rfl, rfl⟩
  · obtain ⟨hempty, rfl⟩ : s.host.filterList iface listType = [] ∧ s' = s := hpost
    rw [hempty] at hgives
    exact ⟨rfl, hgives⟩
  · have hheld : s'.table (.memory listPtr) = some (.networks (s.host.filterList iface listType)) := opens_held hpost
    refine wp_handed hpost (fun Q hQ => ⟨⟨_, hheld⟩, ?_⟩) rfl hgives
    rintro list u ⟨rfl, hlist⟩
    rw [hlist _ hheld]
    exact hQ

theorem wlanSetFilter_refines (h : Nat) (iface : Guid) (listType : UInt32) (nets : List Dot11Network) :
    Refines t (fun T => T (.wlan h) = some .wlanClient) (wlanSetFilter h iface listType nets)
      (Lockguard.wlanSetFilter iface listType nets) := by
  intro s hclient
  refine wp_call.2 ⟨hclient, ?_⟩
  rintro ok s' ⟨htable, hanswers⟩
  exact ⟨htable, ok, s'.host, hanswers, rfl, rfl⟩

theorem filtersOKLoop_refines (h : Nat) (allowSSID : Bytes) (ifaces : List Guid) :
    Refines t (fun T => T (.wlan h) = some .wlanClient) (filtersOKLoop h allowSSID ifaces)
      (Lockguard.filtersOKLoop allowSSID ifaces) := by
  induction ifaces with
  | nil => exact Levels.refines_pure _
  | cons g ifaces ih =>
    refine orReturn_refines (wlanGetFilter_refines h g _) fun permit => ?_
    refine orReturn_refines (wlanGetFilter_refines h g _) fun deny => ?_
    exact Levels.refines_ite (Levels.refines_pure _) ih

theorem applyLoop_refines (h : Nat) (permit deny : List Dot11Network) (ifaces : List Guid) :
    Refines t (fun T => T (.wlan h) = some .wlanClient) (applyLoop h permit deny ifaces)
      (Lockguard.applyLoop permit deny ifaces) := by
  induction ifaces with
  | nil => exact Levels.refines_pure _
  | cons g ifaces ih =>
    exact orReturn_refines (wlanSetFilter_refines h g _ permit) fun _ => orReturn_refines (wlanSetFilter_refines h g _ deny) fun _ => ih

theorem withWlan_refines {user : WlanUser} {body : Nat → Go (Except GoError α)} {y : Lockguard.Go (Except GoError α)}
    (hbody : ∀ h, Refines t (fun T => T (.wlan h) = some .wlanClient) (body h) y) :
    Refines t P (withWlan user body) ((Lockguard.wlanOpen user).orReturn fun _ => y) := by
  intro s _
  refine wp_call.2 ⟨trivial, ?_⟩
  rintro (_ | h) s' hpost
  · obtain rfl : s' = s := hpost
    exact ⟨rfl, false, s'.host, ⟨⟨true, "", 0⟩, rfl⟩, rfl, rfl⟩
  · have hopens : s.Opens (.wlan h) .wlanClient s' := hpost
    refine wp_deferring (closes_wlan h) hopens rfl (wp_mono (hbody h s' (opens_held hopens)) ?_)
    rintro r u ⟨htable, hgives⟩
    have hgives : y.Gives (anyOutcome t) s'.host r u.host := hgives
    rw [opens_host hopens] at hgives
    exact ⟨htable, true, s.host, ⟨⟨false, "", 0⟩, rfl⟩, hgives⟩

theorem wlanFiltersOK_refines (allowSSID : Bytes) :
    Refines t P (wlanFiltersOK allowSSID) (Lockguard.wlanFiltersOK allowSSID) :=
  withWlan_refines fun h => orReturn_refines (wlanEnumInterfaces_refines _ h) fun _ => filtersOKLoop_refines h allowSSID _

theorem applyWLANFilters_refines (allowSSID : Bytes) :
    Refines t P (applyWLANFilters allowSSID) (Lockguard.applyWLANFilters allowSSID) := by
  unfold applyWLANFilters Lockguard.applyWLANFilters
  cases ssidFromString allowSSID with
  | error e => exact Levels.refines_pure _
  | ok ssid => exact withWlan_refines fun h => orReturn_refines (wlanEnumInterfaces_refines _ h) fun _ => applyLoop_refines h _ _ _

theorem ensureWLANFilter_refines (std : GoStd) : Refines t P (ensureWLANFilter std) (Lockguard.ensureWLANFilter std) := by
  refine orReturn_refines (plainly_refines _) fun cfg => Levels.refines_ite (Levels.refines_pure _) ?_
  refine orReturn_refines (wlanFiltersOK_refines _) fun ok => ?_
  exact Levels.refines_ite (Levels.refines_pure _) (applyWLANFilters_refines _)

/-! ## The rounds -/

theorem ifeoLoop_refines (debugger : String) (imgs : List String) :
    Refines t P (ifeoLoop debugger imgs) (Lockguard.ifeoLoop debugger imgs) := by
  induction imgs with
  | nil => exact Levels.refines_pure _
  | cons img imgs ih =>
    intro s hs
    refine wp_call.2 ⟨trivial, ?_⟩
    rintro (_ | k) s' hpost
    · obtain rfl : s' = s := hpost
      refine wp_mono (ih s' hs) ?_
      rintro r u ⟨htable, hgives⟩
      exact ⟨htable, false, s'.host, ⟨⟨true, "", 0⟩, rfl⟩, hgives⟩
    · have hopens : s.Opens (.key k) (.imageKey img) s' := hpost
      refine wp_closing (A := fun ok m => Answers t (.setStringValue img "Debugger" debugger) s.host ok m) (closes_key k) hopens
        ⟨⟨img, opens_held hopens⟩, ?_⟩ ?_
      · rintro ok u ⟨htable, hset⟩
        have hset := hset img (opens_held hopens)
        rw [opens_host hopens] at hset
        exact ⟨htable, hset⟩
      · rintro ok u htable hset
        have hown : P u.table := htable ▸ hs
        refine wp_mono (ih u hown) ?_
        rintro r u' ⟨htable', hgives⟩
        exact ⟨htable'.trans htable, true, s.host, ⟨⟨false, "", 0⟩, rfl⟩, ok, u.host, hset, hgives⟩

theorem ensureIFEOBlocks_refines : Refines t P ensureIFEOBlocks Lockguard.ensureIFEOBlocks :=
  Levels.refines_bind (plainly_refines _) fun _ => Levels.refines_bind (ifeoLoop_refines _ _) fun _ => Levels.refines_pure _

theorem runChecks_refines {cs : List Checker} {ds : List Lockguard.Checker}
    (h : List.Forall₂ (fun c d => c.name = d.name ∧ Refines t P c.fn d.fn) cs ds) :
    Refines t P (runChecks cs) (Lockguard.runChecks ds) := by
  induction h with
  | nil => exact Levels.refines_pure _
  | cons hc _ ih =>
    obtain ⟨hname, hfn⟩ := hc
    refine Levels.refines_bind hfn fun err => Levels.refines_bind ih fun log => ?_
    rw [hname]
    exact Levels.refines_pure _

theorem enforceOnce_refines (std : GoStd) : Refines t P (enforceOnce std) (Lockguard.enforceOnce std) :=
  runChecks_refines <|
    .cons ⟨rfl, plainly_refines _⟩ <|
    .cons ⟨rfl, plainly_refines _⟩ <|
    .cons ⟨rfl, plainly_refines _⟩ <|
    .cons ⟨rfl, plainly_refines _⟩ <|
    .cons ⟨rfl, ensureWDACPolicy_refines⟩ <|
    .cons ⟨rfl, ensureWLANFilter_refines std⟩ <|
    .cons ⟨rfl, ensureIFEOBlocks_refines⟩ <|
    .cons ⟨rfl, ensurePairs_refines std _⟩ .nil

/-- A heartbeat does nothing to the machine of the checks. -/
theorem sendHeartbeat_wp {A : State → Prop} (s : State) (hA : A s) : sendHeartbeat.wp (machine t) (fun _ s' => A s') s := by
  refine wp_call.2 ⟨trivial, ?_⟩
  rintro (_ | h) s' hpost
  · obtain rfl : s' = s := hpost
    exact hA
  · have hopens : s.Opens (.device h) .driver s' := hpost
    refine wp_closing (A := fun _ m => m = s.host) (closes_device h) hopens ⟨opens_held hopens, ?_⟩ ?_
    · rintro ok u rfl
      exact ⟨rfl, opens_host hopens⟩
    · rintro ok u htable hhost
      obtain rfl : u = s := by
        cases u
        cases s
        cases htable
        cases hhost
        rfl
      exact hA

end

/-- So many passes, as the model of the checks has them. -/
def passes (std : GoStd) : Nat → Lockguard.Go (List Log)
  | 0 => return []
  | n + 1 => do
    let log ← Lockguard.enforceOnce std
    return log :: (← passes std n)

theorem rounds_refines (t : CaseTables) (std : GoStd) (P : Table → Prop) (n : Nat) :
    Refines t P (rounds std n) (passes std n) := by
  induction n with
  | zero => exact Levels.refines_pure _
  | succ n ih =>
    refine Levels.refines_bind (enforceOnce_refines std) fun log => ?_
    intro s hs
    refine wp_seq (sendHeartbeat_wp (A := fun u => u = s) s rfl) ?_
    rintro ok u rfl
    exact Levels.refines_bind ih (fun _ => Levels.refines_pure _) u hs

/-- **The rounds leave nothing open.** However many there are and whatever comes of each call, a file, key,
handle or list is used, closed and freed only while it is open, and what is open in the end is what was
open in the beginning. -/
theorem rounds_leave_nothing (t : CaseTables) (std : GoStd) (n : Nat) (s : State) :
    (rounds std n).wp (machine t) (fun _ s' => s'.table = s.table) s :=
  wp_mono (rounds_refines t std (fun _ => True) n s trivial) fun _ _ h => h.1

/-- **The rounds refine the passes**: what they log and leave of the machine is what passes of the checks may log
and leave. -/
theorem rounds_refine (t : CaseTables) (std : GoStd) {n : Nat} {s s' : State} {logs : List Log}
    (h : (rounds std n).Gives (machine t) s logs s') :
    (passes std n).Gives (anyOutcome t) s.host logs s'.host :=
  (wp_sound (rounds_refines t std (fun _ => True) n s trivial) h).2

/-! ## A run -/

/-- The lower of two numbers that is free, and the machine `m` with it open on `v`; nothing is done if none is. -/
def State.hands (s : State) (x : Nat → Resource) (v : Holds) (m : Host) : Option Nat × State :=
  match [0, 1].find? fun n => (s.table (x n)).isNone with
  | none => (none, s)
  | some n => (some n, ⟨m, Function.update s.table (x n) (some v)⟩)

theorem hands_cases (s : State) (x : Nat → Resource) (v : Holds) (m : Host) : s.hands x v m = (none, s) ∨
    ∃ n u, s.hands x v m = (some n, u) ∧ State.Opens { s with host := m } (x n) v u := by
  unfold State.hands
  cases hfree : [0, 1].find? fun n => (s.table (x n)).isNone with
  | none => exact Or.inl rfl
  | some n =>
    have hnone : (s.table (x n)).isNone = true := List.find?_some (p := fun n => (s.table (x n)).isNone) hfree
    exact Or.inr ⟨n, _, rfl, Option.isNone_iff_eq_none.1 hnone, rfl⟩

def State.does (t : CaseTables) (s : State) (c : Lockguard.Call) : c.Ret × State :=
  ((onHost t nothingFails c s.host).1, { s with host := (onHost t nothingFails c s.host).2 })

/-- Every call succeeds while there is a number left. -/
def answers (t : CaseTables) : Handler Call Call.Ret State
  | .plain c, s => s.does t c
  | .openRead path, s => if (Disk.find t s.host.disk path).isSome then s.hands .file (.reading path) s.host else (none, s)
  | .create path, s => s.hands .file (.writing path) { s.host with disk := Disk.put t s.host.disk path [] }
  | .readAll f, s => match s.table (.file f) with
    | some (.reading path) => (Disk.find t s.host.disk path, s)
    | _ => (none, s)
  | .copy out input, s => match s.table (.file input), s.table (.file out) with
    | some (.reading src), some (.writing dst) => s.does t (.copy src dst)
    | _, _ => (false, s)
  | .createKey img, s => s.hands .key (.imageKey img) s.host
  | .setStringValue k name value, s => match s.table (.key k) with
    | some (.imageKey img) => s.does t (.setStringValue img name value)
    | _ => (false, s)
  | .wlanOpenHandle, s => s.hands .wlan .wlanClient s.host
  | .wlanEnumInterfaces _, s =>
    let r := s.hands .memory (.interfaces s.host.interfaces) s.host
    (r.1.map some, r.2)
  | .interfaceList p, s => match s.table (.memory p) with
    | some (.interfaces gs) => (gs, s)
    | _ => ([], s)
  | .wlanGetFilterList _ iface ty, s =>
    let r := s.hands .memory (.networks (s.host.filterList iface ty)) s.host
    (r.1.map some, r.2)
  | .networkList p, s => match s.table (.memory p) with
    | some (.networks ns) => (ns, s)
    | _ => ([], s)
  | .wlanSetFilterList _ iface ty nets, s => s.does t (.wlanSetFilterList iface ty nets)
  | .createFile, s => s.hands .device .driver s.host
  | .deviceIoControl _ _, s => (true, s)
  | .closeFile f, s => ((), s.close (.file f))
  | .closeKey k, s => ((), s.close (.key k))
  | .wlanFreeMemory p, s => ((), s.close (.memory p))
  | .wlanCloseHandle h, s => ((), s.close (.wlan h))
  | .closeHandle h, s => ((), s.close (.device h))

theorem handsOut_post (s : State) (v : Holds) (empty : Prop) :
    s.HandsOut v empty ((s.hands .memory v s.host).1.map some) (s.hands .memory v s.host).2 := by
  rcases hands_cases s .memory v s.host with h | ⟨n, u, h, hopens⟩
  · rw [h]
    rfl
  · rw [h]
    exact hopens

theorem answers_post (t : CaseTables) (c : Call) (s : State) : (machine t).post c s (answers t c s).1 (answers t c s).2 := by
  cases c with
  | plain c => exact ⟨rfl, ⟨false, "", 0⟩, rfl⟩
  | openRead path =>
    simp only [answers]
    by_cases hthere : (Disk.find t s.host.disk path).isSome
    · rw [if_pos hthere]
      rcases hands_cases s .file (.reading path) s.host with h | ⟨f, u, h, hopens⟩
      · rw [h]
        rfl
      · rw [h]
        exact ⟨hthere, hopens⟩
    · rw [if_neg hthere]
      rfl
  | create path =>
    simp only [answers]
    rcases hands_cases s .file (.writing path) { s.host with disk := Disk.put t s.host.disk path [] } with h | ⟨f, u, h, hopens⟩
    · rw [h]
      rfl
    · rw [h]
      exact hopens
  | readAll f =>
    simp only [answers, machine]
    split
    · rename_i path hopen
      refine ⟨rfl, fun path' h => Or.inr ?_⟩
      cases hopen.symm.trans h
      rfl
    · exact ⟨rfl, fun _ _ => Or.inl rfl⟩
  | copy out input =>
    simp only [answers, machine]
    split
    · rename_i src dst hsrc hdst
      refine ⟨rfl, fun p q hp hq => ?_⟩
      cases hsrc.symm.trans hp
      cases hdst.symm.trans hq
      exact ⟨⟨false, "", 0⟩, rfl⟩
    · rename_i hnot
      exact ⟨rfl, fun p q hp hq => absurd hq (hnot p q hp)⟩
  | createKey img =>
    simp only [answers]
    rcases hands_cases s .key (.imageKey img) s.host with h | ⟨n, u, h, hopens⟩
    · rw [h]
      rfl
    · rw [h]
      exact hopens
  | setStringValue k name value =>
    simp only [answers, machine]
    split
    · rename_i img hopen
      refine ⟨rfl, fun img' h => ?_⟩
      cases hopen.symm.trans h
      exact ⟨⟨false, "", 0⟩, rfl⟩
    · rename_i hnot
      exact ⟨rfl, fun img h => absurd h (hnot img)⟩
  | wlanOpenHandle =>
    simp only [answers]
    rcases hands_cases s .wlan .wlanClient s.host with h | ⟨n, u, h, hopens⟩
    · rw [h]
      rfl
    · rw [h]
      exact hopens
  | wlanEnumInterfaces h => exact handsOut_post s _ _
  | interfaceList p =>
    simp only [answers, machine]
    split
    · rename_i gs hopen
      refine ⟨rfl, fun gs' h => ?_⟩
      cases hopen.symm.trans h
      rfl
    · rename_i hnot
      exact ⟨rfl, fun gs h => absurd h (hnot gs)⟩
  | wlanGetFilterList h iface ty => exact handsOut_post s _ _
  | networkList p =>
    simp only [answers, machine]
    split
    · rename_i ns hopen
      refine ⟨rfl, fun ns' h => ?_⟩
      cases hopen.symm.trans h
      rfl
    · rename_i hnot
      exact ⟨rfl, fun ns h => absurd h (hnot ns)⟩
  | wlanSetFilterList h iface ty nets => exact ⟨rfl, ⟨false, "", 0⟩, rfl⟩
  | createFile =>
    simp only [answers]
    rcases hands_cases s .device .driver s.host with h | ⟨n, u, h, hopens⟩
    · rw [h]
      rfl
    · rw [h]
      exact hopens
  | deviceIoControl _ _ | closeFile _ | closeKey _ | wlanFreeMemory _ | wlanCloseHandle _ | closeHandle _ => rfl

/-- The machine of one interface whose deny list and driver image are gone, with the backup of the image. -/
def brokenHost : Host := { lanHost [] with disk := ⟨driverPathBackup, [77, 90]⟩ :: (lanHost []).disk }

/-- Two rounds there: the image is copied, the lists are written, and so are the debuggers; after them a
heartbeat still finds the device to be opened. -/
theorem rounds_refine_twice :
    let r := (rounds lanStd 2).run (answers .ascii) ⟨brokenHost, fun _ => none⟩
    (passes lanStd 2).Gives (anyOutcome .ascii) brokenHost r.1 r.2.host ∧
    Disk.find .ascii r.2.host.disk driverPathPrimary = some [77, 90] ∧
    r.2.host.filterList 1 wlanFilterListGroupPolicyDeny = denyAll ∧
    r.2.host.debugger "regedit.exe" = some (trampoline brokenHost.exe) ∧
    (sendHeartbeat.run (answers .ascii) r.2).1 = true := by
  intro r
  have hgives := run_gives (answers_post .ascii) (rounds lanStd 2) ⟨brokenHost, fun _ => none⟩
  exact ⟨rounds_refine .ascii lanStd hgives, by decide +kernel, by decide +kernel, by decide +kernel, by decide +kernel⟩

end Lockguard.Wd
