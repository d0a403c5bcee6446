import Lockguard.EntryPoints
import Lockguard.Lib.Wp
import Lockguard.ServiceControl
/-!
# Registering the watchdog (`service_windows.go:17-85`)

`serviceInstall` and `serviceRemove` as programs over the calls of `svc/mgr`, whatever these answer, and histories
of their runs and of restarts (`administered`).

| here | there |
| --- | --- |
| `Record`      | what the service control manager keeps of a service |
| `Manager`     | its database, and the handles to it and to services that the program holds |
| `contract`    | which handle a call needs, and what may come of it |

`mgr.CreateService` writes the path and the arguments as one command line; a service that is deleted while
it runs stays, marked, until it ends.
-/
namespace Lockguard.Scm

open Calls Prog CommandLine

inductive StartType where
  | automatic
  | manual
  | disabled
deriving DecidableEq

/-- `mgr.Config`, as far as `serviceInstall` sets it. -/
structure Config where
  serviceType : UInt32
  startType : StartType
  errorControl : UInt32
  displayName : String
  description : String
  /-- `CreateService` does not look at it: the command line is made of the path and the arguments. -/
  binaryPathName : List Char
deriving DecidableEq

structure Record where
  commandLine : List Char
  config : Config
  /-- The delays of the restarts after a failure, in milliseconds. -/
  restarts : List Nat
  running : Bool
  marked : Bool
deriving DecidableEq

structure Manager where
  services : String → Option Record
  /-- How many handles to the manager are open, and to which services. -/
  managers : Nat
  handles : List String

inductive Call where
  | executable
  | connect
  | disconnect
  | openService (name : String)
  | createService (name : String) (exe : List Char) (config : Config) (args : List (List Char))
  | setRecoveryActions (name : String) (delays : List Nat)
  | start (name : String)
  | controlStop (name : String)
  | delete (name : String)
  | close (name : String)

/-- The path of the program, and for the other calls whether they succeed. -/
abbrev Call.Ret : Call → Type
  | .executable => Option (List Char)
  | .disconnect | .close _ => Unit
  | _ => Bool

def Manager.put (s : Manager) (name : String) (r : Option Record) : Manager :=
  { s with services := Function.update s.services name r }

/-- What a call does when it succeeds. -/
def Manager.update (s : Manager) (name : String) (f : Record → Record) : Manager :=
  s.put name ((s.services name).map f)

/-- What the service runs when it is started. -/
def Record.starts (r : Record) : Started WatchdogAction := watchdogMain (commandLineToArgv r.commandLine).tail

def contract : Contract Call Call.Ret Manager where
  pre
    | .executable, _ | .connect, _ => True
    | .disconnect, s | .openService _, s | .createService _ _ _ _, s => 0 < s.managers
    | .setRecoveryActions name _, s | .start name, s | .controlStop name, s | .delete name, s | .close name, s =>
      name ∈ s.handles
  post
    | .executable, s, _, s' => s' = s
    | .connect, s, ok, s' => s' = if ok then { s with managers := s.managers + 1 } else s
    | .disconnect, s, _, s' => s' = { s with managers := s.managers - 1 }
    | .openService name, s, ok, s' => (ok = true → (s.services name).isSome = true) ∧
      s' = if ok then { s with handles := name :: s.handles } else s
    | .createService name exe config args, s, ok, s' => (ok = true → s.services name = none) ∧
      s' = if ok then { s.put name (some ⟨makeCmdLine (exe :: args), config, [], false, false⟩) with
        handles := name :: s.handles } else s
    | .setRecoveryActions name delays, s, ok, s' => s' = if ok then s.update name fun r => { r with restarts := delays } else s
    | .start name, s, ok, s' => s' = if ok then s.update name fun r => { r with running := true } else s
    -- a service is asked to stop if it accepts that, and what `Execute` reports says whether the watchdog does
    | .controlStop name, s, ok, s' =>
      (ok = true → ∀ r, s.services name = some r → r.starts = .does .serviceRun → Svc.accepts &&& Svc.acceptStop ≠ 0) ∧
      s' = if ok then s.update name fun r => { r with running := false } else s
    | .delete name, s, ok, s' => s' = if ok then s.update name fun r => { r with marked := true } else s
    -- with the last handle to it a marked service that does not run goes, if no other program holds one
    | .close name, s, _, s' => s' = { s with handles := s.handles.erase name } ∨
      (name ∉ s.handles.erase name ∧ (∃ r, s.services name = some r ∧ r.marked = true ∧ r.running = false) ∧
        s' = { s.put name none with handles := s.handles.erase name })

abbrev Go := Prog Call Call.Ret

def call (c : Call) : Go c.Ret := perform c

def svcName : String := "lockguard-svc"

inductive ServiceError where
  | executable
  | connect
  | alreadyExists
  | create
  | recovery
  | start
  | openService
  | delete
deriving DecidableEq

/-- `s.Close` and `m.Disconnect`, in the order of the `defer` statements. -/
def leave (e : Except ServiceError Unit) : Go (Except ServiceError Unit) := do
  call (.close svcName)
  call .disconnect
  return e

def serviceConfig (exe : List Char) : Config where
  serviceType := 0x10
  startType := .automatic
  errorControl := 1
  displayName := "Lockguard Watchdog Service"
  description := "Re-enforces Lockguard policy and respawns the kernel driver if it stops."
  binaryPathName := "\"".toList ++ exe ++ "\" --service-run".toList

/-- `serviceInstall` (`:23-68`). -/
def serviceInstall : Go (Except ServiceError Unit) := do
  match ← call .executable with
  | none => return .error .executable
  | some exe =>
    if !(← call .connect) then return .error .connect
    else if ← call (.openService svcName) then leave (.error .alreadyExists)
    else if !(← call (.createService svcName exe (serviceConfig exe) ["--service-run".toList])) then
      call .disconnect
      return .error .create
    else if !(← call (.setRecoveryActions svcName [5000, 5000, 30000])) then leave (.error .recovery)
    else if !(← call (.start svcName)) then leave (.error .start)
    else leave (.ok ())

/-- `serviceRemove` (`:70-85`): what comes of the stop does not matter. -/
def serviceRemove : Go (Except ServiceError Unit) := do
  if !(← call .connect) then return .error .connect
  else if !(← call (.openService svcName)) then
    call .disconnect
    return .error .openService
  else
    let _ ← call (.controlStop svcName)
    let ok ← call (.delete svcName)
    leave (if ok then .ok () else .error .delete)

/-! ## One run -/

/-- The program holds no handle. -/
def Manager.Idle (s : Manager) : Prop := s.managers = 0 ∧ s.handles = []

/-- What `serviceInstall` registers. -/
def registered (exe : List Char) (restarts : List Nat) (running : Bool) : Record :=
  ⟨makeCmdLine [exe, "--service-run".toList], serviceConfig exe, restarts, running, false⟩

/-- **The command line that is registered runs the service**, whatever the path of the program. -/
theorem registered_starts (exe : List Char) (restarts : List Nat) (running : Bool) :
    (registered exe restarts running).starts = .does .serviceRun := by
  rw [Record.starts, registered, argv_makeCmdLine, List.tail_cons]
  decide

variable {s : Manager}

/-- The manager with one handle to it and one to the service, and this record. -/
def Manager.working (s : Manager) (r : Option Record) : Manager :=
  ⟨Function.update s.services svcName r, 1, [svcName]⟩

/-- What closing the handles leaves of the record. -/
def Left (r r' : Option Record) : Prop :=
  r' = r ∨ ((∃ x, r = some x ∧ x.marked = true ∧ x.running = false) ∧ r' = none)

theorem leave_wp (e : Except ServiceError Unit) (r : Option Record) : (leave e).wp contract
    (fun e' s' => e' = e ∧ s'.Idle ∧ ∃ r', Left r r' ∧ s'.services = Function.update s.services svcName r') (s.working r) := by
  refine wp_call.2 ⟨List.mem_singleton_self _, ?_⟩
  rintro ⟨⟩ u hclose
  have hnone : [svcName].erase svcName = [] := by simp
  simp only [contract, Manager.working, hnone] at hclose
  have hhandles : u.managers = 1 ∧ u.handles = [] ∧
      ∃ r', Left r r' ∧ u.services = Function.update s.services svcName r' := by
    rcases hclose with rfl | ⟨-, hmarked, rfl⟩
    · exact ⟨rfl, rfl, r, Or.inl rfl, rfl⟩
    · refine ⟨rfl, rfl, none, Or.inr ⟨by simpa using hmarked, rfl⟩, ?_⟩
      simp [Manager.put]
  obtain ⟨hmanagers, hno, hleft⟩ := hhandles
  refine wp_call.2 ⟨by simp [contract, hmanagers], ?_⟩
  rintro ⟨⟩ _ rfl
  rw [wp_pure]
  exact ⟨rfl, ⟨by simp [hmanagers], hno⟩, hleft⟩

theorem left_registered {exe : List Char} {restarts : List Nat} {running : Bool} {r' : Option Record}
    (h : Left (some (registered exe restarts running)) r') : r' = some (registered exe restarts running) := by
  rcases h with rfl | ⟨⟨x, hx, hmarked, -⟩, -⟩
  · rfl
  · cases hx
    cases hmarked

/-- What one run of `serviceInstall` comes to: the service runs, or nothing new is registered, or the run
has failed with the service registered and not started. -/
def InstallOutcome (s : Manager) (s' : Manager) : Except ServiceError Unit → Prop
  | .ok () => s.services svcName = none ∧ ∃ exe, s'.services =
      Function.update s.services svcName (some (registered exe [5000, 5000, 30000] true))
  | .error _ => (∃ r', Left (s.services svcName) r' ∧ s'.services = Function.update s.services svcName r') ∨
    (s.services svcName = none ∧ ∃ exe restarts, s'.services =
      Function.update s.services svcName (some (registered exe restarts false)))

theorem unchanged_outcome (s : Manager) {u : Manager} (h : u.services = s.services) (x : ServiceError) :
    InstallOutcome s u (.error x) := by
  refine Or.inl ⟨s.services svcName, Or.inl rfl, ?_⟩
  rw [h, Function.update_eq_self]

/-- The way out once the service is registered. -/
theorem leave_registered {services : String → Option Record} (hnone : services svcName = none)
    {e : Except ServiceError Unit} {exe : List Char} {restarts : List Nat} {running : Bool}
    (he : e = .ok () → restarts = [5000, 5000, 30000] ∧ running = true) (herror : e ≠ .ok () → running = false) :
    (leave e).wp contract (fun e s' => s'.Idle ∧ InstallOutcome ⟨services, 0, []⟩ s' e)
      (Manager.working ⟨services, 0, []⟩ (some (registered exe restarts running))) := by
  refine wp_mono (leave_wp e _) ?_
  rintro e' s' ⟨he', hidle, r', hleft, hservices⟩
  subst he'
  rw [left_registered hleft] at hservices
  refine ⟨hidle, ?_⟩
  cases e' with
  | ok u =>
    obtain ⟨rfl, rfl⟩ := he rfl
    exact ⟨hnone, exe, hservices⟩
  | error x =>
    obtain rfl := herror nofun
    exact Or.inr ⟨hnone, exe, restarts, hservices⟩

theorem serviceInstall_wp (hidle : s.Idle) :
    serviceInstall.wp contract (fun e s' => s'.Idle ∧ InstallOutcome s s' e) s := by
  obtain ⟨services, managers, handles⟩ := s
  obtain ⟨rfl, rfl⟩ := hidle
  refine wp_call.2 ⟨trivial, ?_⟩
  rintro (_ | exe) s rfl
  · exact ⟨⟨rfl, rfl⟩, unchanged_outcome _ rfl _⟩
  refine wp_call.2 ⟨trivial, ?_⟩
  rintro (_ | _) s rfl
  · exact ⟨⟨rfl, rfl⟩, unchanged_outcome _ rfl _⟩
  refine wp_call.2 ⟨Nat.zero_lt_one, ?_⟩
  rintro (_ | _) s ⟨hopened, rfl⟩
  · refine wp_call.2 ⟨Nat.zero_lt_one, ?_⟩
    rintro (_ | _) s ⟨hnone, rfl⟩
    · refine wp_call.2 ⟨Nat.zero_lt_one, ?_⟩
      rintro ⟨⟩ s rfl
      exact ⟨⟨rfl, rfl⟩, unchanged_outcome _ rfl _⟩
    have hnone : services svcName = none := hnone rfl
    refine wp_call.2 ⟨List.mem_singleton_self _, ?_⟩
    rintro (_ | _) s hset
    · subst hset
      exact leave_registered hnone nofun fun _ => rfl
    have hset : s = Manager.working ⟨services, 0, []⟩ (some (registered exe [5000, 5000, 30000] false)) := by
      rw [hset]
      simp [Manager.update, Manager.put, Manager.working, registered]
    subst hset
    refine wp_call.2 ⟨List.mem_singleton_self _, ?_⟩
    rintro (_ | _) s hstart
    · subst hstart
      exact leave_registered hnone nofun fun _ => rfl
    have hstart : s = Manager.working ⟨services, 0, []⟩ (some (registered exe [5000, 5000, 30000] true)) := by
      rw [hstart]
      simp [Manager.update, Manager.put, Manager.working, registered]
    subst hstart
    exact leave_registered hnone (fun _ => ⟨rfl, rfl⟩) fun h => absurd rfl h
  · have hworking : (⟨services, 1, [svcName]⟩ : Manager) = Manager.working ⟨services, 0, []⟩ (services svcName) := by
      rw [Manager.working, Function.update_eq_self]
    show (leave (.error .alreadyExists)).wp contract _ ⟨services, 1, [svcName]⟩
    rw [hworking]
    refine wp_mono (leave_wp _ _) ?_
    rintro _ s' ⟨rfl, hidle, r', hleft, hservices⟩
    exact ⟨hidle, Or.inl ⟨r', hleft, hservices⟩⟩

/-- What comes of the record when the service is asked to stop: the watchdog is not stopped. -/
def Asked (r x : Record) : Prop := x = r ∨ (r.starts ≠ .does .serviceRun ∧ x = { r with running := false })

/-- What one run of `serviceRemove` comes to: it has not got to the service, or it has asked it to stop and, if
the run succeeds, marked it. -/
def RemoveOutcome (s : Manager) (s' : Manager) (e : Except ServiceError Unit) : Prop :=
  (e.isOk = false ∧ s'.services = s.services) ∨ ∃ r x r', s.services svcName = some r ∧ Asked r x ∧
    Left (some { x with marked := x.marked || e.isOk }) r' ∧ s'.services = Function.update s.services svcName r'

theorem serviceRemove_wp (hidle : s.Idle) :
    serviceRemove.wp contract (fun e s' => s'.Idle ∧ RemoveOutcome s s' e) s := by
  obtain ⟨services, managers, handles⟩ := s
  obtain ⟨rfl, rfl⟩ := hidle
  refine wp_call.2 ⟨trivial, ?_⟩
  rintro (_ | _) s rfl
  · exact ⟨⟨rfl, rfl⟩, Or.inl ⟨rfl, rfl⟩⟩
  refine wp_call.2 ⟨Nat.zero_lt_one, ?_⟩
  rintro (_ | _) s ⟨hopened, rfl⟩
  · refine wp_call.2 ⟨Nat.zero_lt_one, ?_⟩
    rintro ⟨⟩ s rfl
    exact ⟨⟨rfl, rfl⟩, Or.inl ⟨rfl, rfl⟩⟩
  obtain ⟨r, hr⟩ := Option.isSome_iff_exists.1 (hopened rfl)
  have hr : services svcName = some r := hr
  refine wp_call.2 ⟨List.mem_singleton_self _, ?_⟩
  rintro stopped s ⟨hstops, hstop⟩
  obtain ⟨x, hasked, hstop⟩ : ∃ x, Asked r x ∧ s = Manager.working ⟨services, 0, []⟩ (some x) := by
    cases stopped with
    | false =>
      refine ⟨r, Or.inl rfl, ?_⟩
      rw [hstop, Manager.working, ← hr, Function.update_eq_self]
      rfl
    | true =>
      refine ⟨{ r with running := false }, Or.inr ⟨fun hstarts => ?_, rfl⟩, ?_⟩
      · exact hstops rfl r hr hstarts (by decide)
      · rw [hstop]
        simp [Manager.update, Manager.put, Manager.working, hr]
  subst hstop
  refine wp_call.2 ⟨List.mem_singleton_self _, ?_⟩
  rintro deleted s hdelete
  have hdelete : s = Manager.working ⟨services, 0, []⟩ (some { x with marked := x.marked || deleted }) := by
    rw [hdelete]
    cases deleted with
    | false => simp [Manager.working]
    | true => simp [Manager.update, Manager.put, Manager.working]
  subst hdelete
  refine wp_mono (leave_wp _ _) ?_
  rintro e s' ⟨he, hidle, r', hleft, hservices⟩
  have hok : e.isOk = deleted := by
    rw [he]
    cases deleted <;> rfl
  rw [← hok] at hleft
  exact ⟨hidle, Or.inr ⟨r, x, r', hr, hasked, hleft, hservices⟩⟩

/-! ## A history of runs -/

/-- A run of the program, or a restart of the machine. -/
inductive Step where
  | install (e : Except ServiceError Unit)
  | remove (e : Except ServiceError Unit)
  | reboot

/-- Marked services are gone, and the automatic ones are started. -/
def Manager.reboot (s : Manager) : Manager :=
  { s with services := fun name => ((s.services name).filter fun r => !r.marked).map fun r =>
      { r with running := decide (r.config.startType = .automatic) } }

def Step.Takes : Step → Manager → Manager → Prop
  | .install e, s, u => serviceInstall.Gives contract s e u
  | .remove e, s, u => serviceRemove.Gives contract s e u
  | .reboot, s, u => u = s.reboot

def Administers : Manager → List Step → Manager → Prop
  | s, [], s' => s' = s
  | s, x :: steps, s' => ∃ u, x.Takes s u ∧ Administers u steps s'

def Step.isReboot : Step → Bool
  | .reboot => true
  | _ => false

/-- A removal that reports success. -/
def Step.removes : Step → Bool
  | .remove e => e.isOk
  | _ => false

/-- The record is such as `serviceInstall` writes it. -/
def Record.Right (r : Record) : Prop := r.starts = .does .serviceRun ∧ r.config.startType = .automatic

/-- No handle is held, and the service, if there is one, is the watchdog's. -/
def Manager.Right (s : Manager) : Prop := s.Idle ∧ ∀ r, s.services svcName = some r → r.Right

section
variable {u s' : Manager} {x : Step} {steps : List Step} {e : Except ServiceError Unit} {r : Record}

theorem right_left {r r' : Option Record} (h : Left r r') (hr : ∀ x, r = some x → x.Right) : ∀ x, r' = some x → x.Right := by
  rcases h with rfl | ⟨-, rfl⟩
  · exact hr
  · intro x hx
    cases hx

theorem left_running {r' : Option Record} (h : Left (some r) r') (hrunning : r.running = true) : r' = some r := by
  rcases h with rfl | ⟨⟨x, hx, -, hstopped⟩, -⟩
  · rfl
  · cases hx
    rw [hrunning] at hstopped
    cases hstopped

theorem right_update {r' : Option Record} (hidle : u.Idle) (hu : u.services = Function.update s.services svcName r')
    (hr : ∀ x, r' = some x → x.Right) : u.Right := by
  refine ⟨hidle, fun x hx => hr x ?_⟩
  rwa [hu, Function.update_self] at hx

theorem install_right (h : s.Right) (hidle : u.Idle) (houtcome : InstallOutcome s u e) : u.Right := by
  have hregistered : ∀ exe restarts running x, some (registered exe restarts running) = some x → x.Right := by
    intro exe restarts running x hx
    cases hx
    exact ⟨registered_starts exe restarts running, rfl⟩
  cases e with
  | ok a =>
    obtain ⟨-, exe, hu⟩ := houtcome
    exact right_update hidle hu (hregistered _ _ _)
  | error a =>
    rcases houtcome with ⟨r', hleft, hu⟩ | ⟨-, exe, restarts, hu⟩
    · exact right_update hidle hu (right_left hleft h.2)
    · exact right_update hidle hu (hregistered _ _ _)

theorem remove_right (h : s.Right) (hidle : u.Idle) (houtcome : RemoveOutcome s u e) : u.Right := by
  rcases houtcome with ⟨-, hu⟩ | ⟨r, x, r', hr, hasked, hleft, hu⟩
  · exact ⟨hidle, hu ▸ h.2⟩
  refine right_update hidle hu (right_left hleft fun y hy => ?_)
  cases hy
  have hright := h.2 r hr
  rcases hasked with rfl | ⟨-, rfl⟩ <;> exact hright

theorem reboot_right (h : s.Right) : s.reboot.Right := by
  refine ⟨h.1, fun r hr => ?_⟩
  obtain ⟨x, hx, rfl⟩ := Option.map_eq_some_iff.1 hr
  exact h.2 x (Option.filter_eq_some_iff.1 hx).1

/-- Each step leaves what the next can start from. -/
theorem takes_right (h : s.Right) (hx : x.Takes s u) : u.Right := by
  cases x with
  | install e =>
    obtain ⟨hidle, houtcome⟩ := wp_sound (serviceInstall_wp h.1) hx
    exact install_right h hidle houtcome
  | remove e =>
    obtain ⟨hidle, houtcome⟩ := wp_sound (serviceRemove_wp h.1) hx
    exact remove_right h hidle houtcome
  | reboot =>
    obtain rfl : u = s.reboot := hx
    exact reboot_right h

theorem takes_others (h : s.Right) (hx : x.Takes s u) {name : String} (hname : name ≠ svcName) :
    u.services name = if x.isReboot then s.reboot.services name else s.services name := by
  have hother : ∀ {r}, u.services = Function.update s.services svcName r → u.services name = s.services name := by
    intro r hu
    rw [hu, Function.update_of_ne hname]
  cases x with
  | install e =>
    have houtcome := (wp_sound (serviceInstall_wp h.1) hx).2
    cases e with
    | ok a =>
      obtain ⟨-, exe, hu⟩ := houtcome
      exact hother hu
    | error a => rcases houtcome with ⟨r', -, hu⟩ | ⟨-, exe, restarts, hu⟩ <;> exact hother hu
  | remove e =>
    rcases (wp_sound (serviceRemove_wp h.1) hx).2 with ⟨-, hu⟩ | ⟨r, x, r', -, -, -, hu⟩
    · exact congrFun hu name
    · exact hother hu
  | reboot =>
    obtain rfl : u = s.reboot := hx
    rfl

/-- **A watchdog that runs is not stopped** by an installation or a removal, it is only marked. -/
theorem takes_running (h : s.Right) (hx : x.Takes s u) (hreboot : x.isReboot = false) (hr : s.services svcName = some r)
    (hrunning : r.running = true) : u.services svcName = some { r with marked := r.marked || x.removes } := by
  cases x with
  | install e =>
    have hsame : some r = some { r with marked := r.marked || false } := by rw [Bool.or_false]
    have houtcome := (wp_sound (serviceInstall_wp h.1) hx).2
    cases e with
    | ok a => simp [InstallOutcome, hr] at houtcome
    | error a =>
      rcases houtcome with ⟨r', hleft, hu⟩ | ⟨hnone, -⟩
      · rw [hr] at hleft
        rw [hu, Function.update_self, left_running hleft hrunning]
        exact hsame
      · simp [hr] at hnone
  | remove e =>
    rcases (wp_sound (serviceRemove_wp h.1) hx).2 with ⟨he, hu⟩ | ⟨r₀, y, r', hr₀, hasked, hleft, hu⟩
    · rw [hu, hr, Step.removes, he, Bool.or_false]
    obtain rfl : r = r₀ := Option.some.inj (hr.symm.trans hr₀)
    obtain rfl : y = r := hasked.resolve_right fun hstops => hstops.1 (h.2 r hr).1
    rw [hu, Function.update_self, left_running hleft hrunning, Step.removes]
  | reboot => cases hreboot

theorem administers_others (h : s.Right) (hsteps : Administers s steps s') {name : String} (hname : name ≠ svcName) :
    s'.services name = (Manager.reboot^[steps.countP Step.isReboot] s).services name := by
  have hagree : ∀ n {s u : Manager}, s.services name = u.services name →
      (Manager.reboot^[n] s).services name = (Manager.reboot^[n] u).services name := by
    intro n
    induction n with
    | zero => exact id
    | succ n ih => exact fun hsu => ih (by simp only [Manager.reboot, hsu])
  induction steps generalizing s with
  | nil => rw [show s' = s from hsteps]; rfl
  | cons x steps ih =>
    obtain ⟨u, hx, hsteps⟩ := hsteps
    have hu := takes_others h hx hname
    rw [ih (takes_right h hx) hsteps]
    cases hreboot : x.isReboot with
    | true =>
      rw [List.countP_cons_of_pos hreboot, Function.iterate_succ_apply]
      exact hagree _ (by simpa [hreboot] using hu)
    | false =>
      rw [List.countP_cons_of_neg (by simp [hreboot])]
      exact hagree _ (by simpa [hreboot] using hu)

theorem administers_right (h : s.Right) (hsteps : Administers s steps s') : s'.Right := by
  induction steps generalizing s with
  | nil => rwa [show s' = s from hsteps]
  | cons x steps ih =>
    obtain ⟨u, hx, hsteps⟩ := hsteps
    exact ih (takes_right h hx) hsteps

theorem administers_running (h : s.Right) (hsteps : Administers s steps s') (hreboot : steps.any Step.isReboot = false)
    (hr : s.services svcName = some r) (hrunning : r.running = true) :
    s'.services svcName = some { r with marked := r.marked || steps.any Step.removes } := by
  induction steps generalizing s r with
  | nil => rw [show s' = s from hsteps, hr, List.any_nil, Bool.or_false]
  | cons x steps ih =>
    obtain ⟨u, hx, hsteps⟩ := hsteps
    rw [List.any_cons, Bool.or_eq_false_iff] at hreboot
    have hu := takes_running h hx hreboot.1 hr hrunning
    rw [ih (takes_right h hx) hsteps hreboot.2 hu hrunning, List.any_cons, Bool.or_assoc]

end

/-- **Any history of installs and removals**, whatever failed in them, and of restarts: no handle is left open and
the next run makes no call it may not make, whatever is registered is started automatically and runs the
service, from wherever the program was, and the other services have seen nothing but the restarts. A
watchdog that runs goes on until a restart: it is gone then if a removal has succeeded, and runs again if not. -/
theorem administered {s s' : Manager} {steps : List Step} (hright : s.Right) (h : Administers s steps s') :
    (s'.Idle ∧ serviceInstall.Safe contract s' ∧ serviceRemove.Safe contract s') ∧
    (∀ r, s'.services svcName = some r → r.starts = .does .serviceRun ∧ r.config.startType = .automatic) ∧
    (∀ name, name ≠ svcName → s'.services name = (Manager.reboot^[steps.countP Step.isReboot] s).services name) ∧
    ∀ r, s.services svcName = some r → r.running = true → r.marked = false → steps.any Step.isReboot = false →
      s'.services svcName = some { r with marked := steps.any Step.removes } ∧
      s'.reboot.services svcName = if steps.any Step.removes then none else some r := by
  obtain ⟨hidle, hrecord⟩ := administers_right hright h
  refine ⟨⟨hidle, Safe.of_wp (serviceInstall_wp hidle), Safe.of_wp (serviceRemove_wp hidle)⟩, hrecord,
    fun name hname => administers_others hright h hname, fun r hr hrunning hmarked hreboot => ?_⟩
  obtain ⟨commandLine, ⟨serviceType, startType, errorControl, displayName, description, binaryPathName⟩, restarts,
    running, marked⟩ := r
  obtain ⟨-, rfl⟩ := hright.2 _ hr
  obtain rfl : running = true := hrunning
  obtain rfl : marked = false := hmarked
  have hs' := administers_running hright h hreboot hr rfl
  rw [Bool.false_or] at hs'
  refine ⟨hs', ?_⟩
  cases hany : steps.any Step.removes <;> simp [Manager.reboot, hs', hany]

def Worked.watchdog (marked : Bool) : Record :=
  { registered "C:\\lockguard-svc.exe".toList [5000, 5000, 30000] true with marked := marked }

def Worked.manager (marked : Bool) : Manager := ⟨Function.update (fun _ => none) svcName (some (watchdog marked)), 0, []⟩

/-- A removal that reports success while the watchdog runs on, and the restart after it. -/
theorem administered_removal : Administers (Worked.manager false) [.remove (.ok ())] (Worked.manager true) ∧
    (Worked.manager true).reboot.services svcName = none := by
  have hright : (Worked.manager false).Right := by
    refine ⟨⟨rfl, rfl⟩, fun r hr => ?_⟩
    cases hr
    exact ⟨registered_starts _ _ _, rfl⟩
  have hmarks : ((⟨(Worked.manager false).services, 1, [svcName]⟩ : Manager).update svcName fun r =>
      { r with marked := true }) = ⟨(Worked.manager true).services, 1, [svcName]⟩ := by
    simp [Manager.update, Manager.put, Worked.manager, Worked.watchdog]
  have hremoves : Administers (Worked.manager false) [.remove (.ok ())] (Worked.manager true) := by
    refine ⟨Worked.manager true, ?_, rfl⟩
    refine ⟨true, _, rfl, true, _, ⟨fun _ => rfl, rfl⟩, false, _, ⟨nofun, rfl⟩, true, _, hmarks.symm, (), _, Or.inl rfl,
      (), _, rfl, rfl, ?_⟩
    simp [Worked.manager]
  exact ⟨hremoves, ((administered hright hremoves).2.2.2 _ rfl rfl rfl rfl).2⟩

end Lockguard.Scm
