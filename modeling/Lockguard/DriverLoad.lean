import Lockguard.Wfp
import Lockguard.Globals
import Lockguard.Lib.Wp
/-!
# Loading the driver (`lockguard.c:421-495`)

| here | there |
| --- | --- |
| `Call`                | the routines `DriverEntry` and the `Lg*Initialize`, `Lg*Finalize` it calls make use of |
| `Part`                | what the kernel has set up for the driver; `System.parts` has the latest first |
| `Session`             | the driver's session with the filter engine: its open transaction, and what is in force |
| `Statics`             | the handles and flags the modules keep; `NULL` is 0, `gFilterIds` are those in use |
| `driverEntry`         | `DriverEntry`, over any answers of the kernel |

A transaction is a copy of what is in force, put in its place by the commit. What a dynamic session added
goes when it is closed.
-/
namespace Lockguard.Load

open Calls

structure Store where
  subLayer : Bool
  filters : List (Nat × FwpmFilter)

def Store.none : Store := ⟨false, []⟩

structure Session where
  handle : Nat
  dynamic : Bool
  pending : Option Store
  inForce : Store

inductive Part where
  | device (deviceObject : Nat)
  | symbolicLink
  | session (handle : Nat)
  | registryCallback (cookie : Nat)
  | processNotify
  | filter (handle : Nat) (started : Bool)
  | obCallbacks (handle : Nat)
deriving DecidableEq

structure Statics where
  gDeviceObject : Nat
  gEngine : Nat
  gFilterIds : List Nat
  gRegCookie : Nat
  gRegRegistered : Bool
  gProcNotifyRegistered : Bool
  gFilter : Nat
  gObRegHandle : Nat

/-- The static initialisers. -/
def Statics.boot : Statics := ⟨0, 0, [], 0, false, false, 0, 0⟩

structure System where
  dispatchSet : Bool
  parts : List Part
  session : Option Session
  /-- What sessions that were not dynamic have left in force. -/
  persistent : Store
  statics : Statics
  driver : Driver

/-- Nothing is set up, and the driver's variables are as they are initialised. -/
def System.boot : System := ⟨false, [], none, .none, .boot, ⟨.boot, .boot, .boot, 0, 0⟩⟩

inductive Call where
  | setMajorFunctions
  | ioCreateDevice
  | ioDeleteDevice (deviceObject : Nat)
  | ioCreateSymbolicLink
  | ioDeleteSymbolicLink
  | recoveryLoadVerifier
  | fwpmEngineOpen (dynamic : Bool)
  | fwpmEngineClose (engine : Nat)
  | fwpmTransactionBegin (engine : Nat)
  | fwpmTransactionCommit (engine : Nat)
  | fwpmTransactionAbort (engine : Nat)
  | fwpmSubLayerAdd (engine : Nat)
  | fwpmSubLayerDeleteByKey (engine : Nat)
  | fwpmFilterAdd (engine : Nat) (f : FwpmFilter)
  | fwpmFilterDeleteById (engine id : Nat)
  | cmRegisterCallbackEx
  | cmUnRegisterCallback (cookie : Nat)
  | psSetCreateProcessNotifyRoutineEx (remove : Bool)
  | fltRegisterFilter
  | fltStartFiltering (filter : Nat)
  | fltUnregisterFilter (filter : Nat)
  | obRegisterCallbacks
  | obUnRegisterCallbacks (handle : Nat)
  | getStatics
  | putStatics (g : Statics)

abbrev Call.Ret : Call → Type
  | .ioCreateDevice | .fwpmEngineOpen _ | .fwpmFilterAdd _ _ | .cmRegisterCallbackEx | .fltRegisterFilter
  | .obRegisterCallbacks => NTSTATUS × Nat
  | .ioCreateSymbolicLink | .recoveryLoadVerifier | .fwpmTransactionBegin _ | .fwpmTransactionCommit _
  | .fwpmTransactionAbort _ | .fwpmSubLayerAdd _ | .fwpmSubLayerDeleteByKey _ | .fwpmFilterDeleteById _ _
  | .psSetCreateProcessNotifyRoutineEx _ | .fltStartFiltering _ => NTSTATUS
  | .getStatics => Statics
  | _ => Unit

abbrev Routine (α : Type) := Prog Call Call.Ret α

abbrev call (op : Call) : Routine op.Ret := Prog.perform op

/-! ## When a call may be made -/

def System.handle? (s : System) : Option Nat := s.session.map Session.handle

def System.pending? (s : System) : Option Store := s.session.bind Session.pending

/-- The filters that are in force. -/
def System.inForce (s : System) : List FwpmFilter :=
  s.persistent.filters.map Prod.snd ++ (s.session.elim [] fun x => x.inForce.filters.map Prod.snd)

/-- The `FWPM_FILTER` of a call. -/
def filterOf (c : LgAddFilterCall) : FwpmFilter := ⟨c, c.action.toUInt8.toUInt32⟩

/-- All the filters of the driver are in force, or none. -/
def System.AllOrNothing (s : System) : Prop := s.inForce = [] ∨ s.inForce = wfpFilters.map filterOf

/-- What a call needs. A device that is there can be opened, so its requests have to find their handlers;
what is taken down is what was set up last. -/
def Call.needs (s : System) : Call → Prop
  | .ioCreateDevice => s.dispatchSet = true
  | .ioDeleteDevice deviceObject => s.parts.head? = some (.device deviceObject)
  | .ioDeleteSymbolicLink => s.parts.head? = some .symbolicLink
  | .fwpmEngineOpen _ => s.session = none
  | .fwpmEngineClose engine => s.handle? = some engine ∧ s.parts.head? = some (.session engine)
  | .fwpmTransactionBegin engine => s.handle? = some engine ∧ s.pending? = none
  | .fwpmTransactionCommit engine | .fwpmTransactionAbort engine | .fwpmSubLayerAdd engine
  | .fwpmSubLayerDeleteByKey engine | .fwpmFilterAdd engine _ | .fwpmFilterDeleteById engine _ =>
    s.handle? = some engine ∧ s.pending? ≠ none
  | .cmUnRegisterCallback cookie => s.parts.head? = some (.registryCallback cookie)
  | .psSetCreateProcessNotifyRoutineEx remove => remove = true → s.parts.head? = some .processNotify
  | .fltStartFiltering filter => s.parts.head? = some (.filter filter false)
  | .fltUnregisterFilter filter => ∃ started, s.parts.head? = some (.filter filter started)
  | .obUnRegisterCallbacks handle => s.parts.head? = some (.obCallbacks handle)
  | _ => True

/-! ## What may come of a call -/

def System.setsUp (s : System) (p : Part) : System := { s with parts := p :: s.parts }

def System.takesDown (s : System) : System := { s with parts := s.parts.tail }

def System.onSession (s : System) (f : Session → Session) : System := { s with session := s.session.map f }

/-- Changes the open transaction. -/
def System.onPending (s : System) (f : Store → Store) : System :=
  s.onSession fun x => { x with pending := x.pending.map f }

def handsOut (s : System) (p : Nat → Part) (r : NTSTATUS × Nat) (s' : System) : Prop :=
  if ntSuccess r.1 then r.2 ≠ 0 ∧ s' = s.setsUp (p r.2) else r.2 = 0 ∧ s' = s

/-- Done on success, and not at all on failure. -/
def onSuccess (status : NTSTATUS) (s done s' : System) : Prop := s' = if ntSuccess status then done else s

def Call.post (s : System) : (op : Call) → op.Ret → System → Prop
  | .setMajorFunctions, _, s' => s' = { s with dispatchSet := true }
  | .ioCreateDevice, r, s' => handsOut s .device r s'
  | .ioDeleteDevice _, _, s' => s' = s.takesDown
  | .ioCreateSymbolicLink, r, s' => onSuccess r s (s.setsUp .symbolicLink) s'
  | .ioDeleteSymbolicLink, _, s' => s' = s.takesDown
  | .recoveryLoadVerifier, r, s' => ∃ k, r = (lgRecoveryLoadVerifier k s.driver.recovery).1 ∧
      s' = { s with driver := { s.driver with recovery := (lgRecoveryLoadVerifier k s.driver.recovery).2 } }
  | .fwpmEngineOpen dynamic, r, s' =>
    if ntSuccess r.1 then
      r.2 ≠ 0 ∧ s' = { s.setsUp (.session r.2) with session := some ⟨r.2, dynamic, none, .none⟩ }
    else r.2 = 0 ∧ s' = s
  | .fwpmEngineClose _, _, s' => s' = { s.takesDown with
      session := none
      persistent := s.session.elim s.persistent fun x => if x.dynamic then s.persistent else x.inForce }
  | .fwpmTransactionBegin _, r, s' => onSuccess r s (s.onSession fun x => { x with pending := some x.inForce }) s'
  | .fwpmTransactionCommit _, r, s' =>
    onSuccess r s (s.onSession fun x => { x with inForce := x.pending.getD x.inForce, pending := none }) s'
  | .fwpmTransactionAbort _, _, s' => s' = s.onSession fun x => { x with pending := none }
  | .fwpmSubLayerAdd _, r, s' => onSuccess r s (s.onPending fun st => { st with subLayer := true }) s'
  | .fwpmSubLayerDeleteByKey _, r, s' => onSuccess r s (s.onPending fun st => { st with subLayer := false }) s'
  | .fwpmFilterAdd _ f, r, s' =>
    onSuccess r.1 s (s.onPending fun st => { st with filters := st.filters ++ [(r.2, f)] }) s'
  | .fwpmFilterDeleteById _ id, r, s' =>
    onSuccess r s (s.onPending fun st => { st with filters := st.filters.filter fun p => p.1 != id }) s'
  | .cmRegisterCallbackEx, r, s' => handsOut s .registryCallback r s'
  | .cmUnRegisterCallback _, _, s' => s' = s.takesDown
  | .psSetCreateProcessNotifyRoutineEx remove, r, s' =>
    if remove then s' = s.takesDown else onSuccess r s (s.setsUp .processNotify) s'
  | .fltRegisterFilter, r, s' => handsOut s (.filter · false) r s'
  | .fltStartFiltering filter, r, s' => onSuccess r s (s.takesDown.setsUp (.filter filter true)) s'
  | .fltUnregisterFilter _, _, s' => s' = s.takesDown
  | .obRegisterCallbacks, r, s' => handsOut s .obCallbacks r s'
  | .obUnRegisterCallbacks _, _, s' => s' = s.takesDown
  | .getStatics, r, s' => r = s.statics ∧ s' = s
  | .putStatics g, _, s' => s' = { s with statics := g }

/-- The kernel. But for the closing of a session, every call finds all the filters in force, or none. -/
def contract : Contract Call Call.Ret System where
  pre op s := op.needs s ∧ ((∀ engine, op ≠ .fwpmEngineClose engine) → s.AllOrNothing)
  post op s r s' := op.post s r s'

/-! ## The filter engine (`wfp.c`) -/

def updateStatics (f : Statics → Statics) : Routine Unit := do
  let g ← call .getStatics
  call (.putStatics (f g))

/-- `LgAddFilter` (`:33-64`). -/
def lgAddFilter (c : LgAddFilterCall) : Routine NTSTATUS := do
  let g ← call .getStatics
  if lgMaxFilters ≤ g.gFilterIds.length then pure statusInsufficientResources
  else do
    let r ← call (.fwpmFilterAdd g.gEngine (filterOf c))
    if ntSuccess r.1 then do
      let g ← call .getStatics
      if lgMaxFilters ≤ g.gFilterIds.length then do
        let _ ← call (.fwpmFilterDeleteById g.gEngine r.2)
        pure statusInsufficientResources
      else do
        updateStatics fun g => { g with gFilterIds := g.gFilterIds ++ [r.2] }
        pure r.1
    else pure r.1

/-- `if (!NT_SUCCESS(status = step())) goto fail;`, step after step. -/
def inTurn : List (Routine NTSTATUS) → Routine NTSTATUS
  | [] => pure statusSuccess
  | step :: steps => do
    let status ← step
    if !ntSuccess status then pure status else inTurn steps

def lgInstallV4LanPermit (layer : Layer) (weight : UInt64) : Routine NTSTATUS :=
  inTurn ((v4LanPermits layer weight).map lgAddFilter)

def lgInstallV6LanPermit (layer : Layer) (weight : UInt64) : Routine NTSTATUS :=
  inTurn ((v6LanPermits layer weight).map lgAddFilter)

def lgInstallMulticastDiscovery (layer : Layer) (weight : UInt64) : Routine NTSTATUS :=
  inTurn ((multicastPermits layer weight).map lgAddFilter)

def lgInstallDefaultDeny (layer : Layer) : Routine NTSTATUS := lgAddFilter (defaultDeny layer)

/-- `LgWfpInitialize` from the sublayer to the commit (`:186-213`). -/
def inTransaction (engine : Nat) : Routine NTSTATUS :=
  inTurn
    [call (.fwpmSubLayerAdd engine),
      lgInstallV4LanPermit .aleAuthConnectV4 permitW,
      lgInstallV4LanPermit .aleAuthRecvAcceptV4 permitW,
      lgInstallMulticastDiscovery .aleAuthConnectV4 permitW,
      lgInstallV6LanPermit .aleAuthConnectV6 permitW,
      lgInstallV6LanPermit .aleAuthRecvAcceptV6 permitW,
      lgInstallDefaultDeny .aleAuthConnectV4,
      lgInstallDefaultDeny .aleAuthConnectV6,
      lgInstallDefaultDeny .aleAuthRecvAcceptV4,
      lgInstallDefaultDeny .aleAuthRecvAcceptV6,
      lgInstallDefaultDeny .aleResourceAssignmentV4,
      lgInstallDefaultDeny .aleResourceAssignmentV6,
      call (.fwpmTransactionCommit engine)]

/-- `fail:` of `LgWfpInitialize`. -/
def wfpFail (inTx : Bool) (status : NTSTATUS) : Routine NTSTATUS := do
  let g ← call .getStatics
  (if inTx then do let _ ← call (.fwpmTransactionAbort g.gEngine); pure () else pure () : Routine Unit)
  (if g.gEngine ≠ 0 then do
    call (.fwpmEngineClose g.gEngine)
    updateStatics fun g => { g with gEngine := 0 }
  else pure () : Routine Unit)
  pure status

/-- `LgWfpInitialize` (`:169-221`). -/
def lgWfpInitialize : Routine NTSTATUS := do
  let engine ← call (.fwpmEngineOpen true)
  updateStatics fun g => { g with gEngine := engine.2 }
  if !ntSuccess engine.1 then pure engine.1
  else do
    let status ← call (.fwpmTransactionBegin engine.2)
    if !ntSuccess status then wfpFail false status
    else do
      let status ← inTransaction engine.2
      if !ntSuccess status then wfpFail true status else pure statusSuccess

/-- The loop of `LgWfpFinalize`. -/
def deleteFilters (engine : Nat) : List Nat → Routine Unit
  | [] => pure ()
  | id :: ids => do
    let _ ← call (.fwpmFilterDeleteById engine id)
    deleteFilters engine ids

/-- `LgWfpFinalize` (`:223-235`); no status is looked at once the transaction is open. -/
def lgWfpFinalize : Routine Unit := do
  let g ← call .getStatics
  if g.gEngine = 0 then pure ()
  else do
    let status ← call (.fwpmTransactionBegin g.gEngine)
    (if ntSuccess status then do
      deleteFilters g.gEngine g.gFilterIds
      let _ ← call (.fwpmSubLayerDeleteByKey g.gEngine)
      let _ ← call (.fwpmTransactionCommit g.gEngine)
      pure ()
    else pure () : Routine Unit)
    call (.fwpmEngineClose g.gEngine)
    updateStatics fun g => { g with gEngine := 0, gFilterIds := [] }

/-! ## The callbacks (`regcb.c:146-163`, `procnotify.c:93-106`, `minifilter.c:160-177`, `obcallback.c:77-97`) -/

def lgRegCbInitialize : Routine NTSTATUS := do
  let r ← call .cmRegisterCallbackEx
  (if ntSuccess r.1 then updateStatics fun g => { g with gRegCookie := r.2, gRegRegistered := true }
  else pure () : Routine Unit)
  pure r.1

def lgRegCbFinalize : Routine Unit := do
  let g ← call .getStatics
  if g.gRegRegistered then do
    call (.cmUnRegisterCallback g.gRegCookie)
    updateStatics fun g => { g with gRegRegistered := false }
  else pure ()

def lgProcNotifyInitialize : Routine NTSTATUS := do
  let s ← call (.psSetCreateProcessNotifyRoutineEx false)
  (if ntSuccess s then updateStatics fun g => { g with gProcNotifyRegistered := true } else pure () : Routine Unit)
  pure s

def lgProcNotifyFinalize : Routine Unit := do
  let g ← call .getStatics
  if g.gProcNotifyRegistered then do
    let _ ← call (.psSetCreateProcessNotifyRoutineEx true)
    updateStatics fun g => { g with gProcNotifyRegistered := false }
  else pure ()

def lgMiniFilterInitialize : Routine NTSTATUS := do
  let r ← call .fltRegisterFilter
  updateStatics fun g => { g with gFilter := r.2 }
  if !ntSuccess r.1 then pure r.1
  else do
    let s ← call (.fltStartFiltering r.2)
    (if !ntSuccess s then do
      call (.fltUnregisterFilter r.2)
      updateStatics fun g => { g with gFilter := 0 }
    else pure () : Routine Unit)
    pure s

def lgMiniFilterFinalize : Routine Unit := do
  let g ← call .getStatics
  if g.gFilter ≠ 0 then do
    call (.fltUnregisterFilter g.gFilter)
    updateStatics fun g => { g with gFilter := 0 }
  else pure ()

def lgObCallbacksInitialize : Routine NTSTATUS := do
  let r ← call .obRegisterCallbacks
  updateStatics fun g => { g with gObRegHandle := r.2 }
  pure r.1

def lgObCallbacksFinalize : Routine Unit := do
  let g ← call .getStatics
  if g.gObRegHandle ≠ 0 then do
    call (.obUnRegisterCallbacks g.gObRegHandle)
    updateStatics fun g => { g with gObRegHandle := 0 }
  else pure ()

/-! ## `DriverEntry` (`lockguard.c:421-495`) -/

/-- The flags of `DriverEntry`: what is up. -/
structure Up where
  devCreated : Bool
  symCreated : Bool
  wfpUp : Bool
  regUp : Bool
  procUp : Bool
  miniUp : Bool
  obUp : Bool

def Up.nothing : Up := ⟨false, false, false, false, false, false, false⟩

/-- `fail:` -/
def entryFail (up : Up) (status : NTSTATUS) : Routine NTSTATUS := do
  (if up.obUp then lgObCallbacksFinalize else pure () : Routine Unit)
  (if up.miniUp then lgMiniFilterFinalize else pure () : Routine Unit)
  (if up.procUp then lgProcNotifyFinalize else pure () : Routine Unit)
  (if up.regUp then lgRegCbFinalize else pure () : Routine Unit)
  (if up.wfpUp then lgWfpFinalize else pure () : Routine Unit)
  (if up.symCreated then call .ioDeleteSymbolicLink else pure () : Routine Unit)
  (if up.devCreated then do let g ← call .getStatics; call (.ioDeleteDevice g.gDeviceObject) else pure () : Routine Unit)
  pure status

/-- `status = initialize(); if (!NT_SUCCESS(status)) goto fail;`, then the rest. -/
def orFail (up : Up) (start : Routine NTSTATUS) (rest : Routine NTSTATUS) : Routine NTSTATUS := do
  let status ← start
  if !ntSuccess status then entryFail up status else rest

def createDevice : Routine NTSTATUS := do
  let r ← call .ioCreateDevice
  updateStatics fun g => { g with gDeviceObject := r.2 }
  pure r.1

def driverEntry : Routine NTSTATUS := do
  call .setMajorFunctions
  let up := Up.nothing
  orFail up createDevice do
    let up := { up with devCreated := true }
    orFail up (call .ioCreateSymbolicLink) do
      let up := { up with symCreated := true }
      let _ ← call .recoveryLoadVerifier
      orFail up lgWfpInitialize do
        let up := { up with wfpUp := true }
        orFail up lgRegCbInitialize do
          let up := { up with regUp := true }
          orFail up lgProcNotifyInitialize do
            let up := { up with procUp := true }
            orFail up lgMiniFilterInitialize do
              let up := { up with miniUp := true }
              orFail up lgObCallbacksInitialize (pure statusSuccess)

end Lockguard.Load
