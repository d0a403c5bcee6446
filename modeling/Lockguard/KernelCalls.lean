import Lockguard.ObCallback
import Lockguard.RegNames
import Lockguard.Lib.Wp
/-!
# The kernel calls of the driver

| here | there |
| --- | --- |
| `Call`, `Call.Ret`       | the kernel's routines, and the accesses to the driver's own globals |
| `Message`                | what `DbgPrint` is given |
| `Call.maxIrql`           | the highest IRQL each may be called at |
| `Machine.held`           | the spin lock that is held, with the IRQL to go back to |
| `Machine.objects`        | what the driver has been given and has to give back, the latest first |
| `Rules`                  | two rules of the kernel that the driver does not keep everywhere |
| `contract`               | when a call may be made, and what may come of it |

Whatever is handed out by value in the handlers of `Ioctl` is asked for here, and whatever a routine
hands out has to be given back: `NULL` is the handle 0, and only a success hands out another. A program
proved against `contract` makes every call at an IRQL that allows it, takes no second spin lock,
touches the nonce and the window under their own lock only, and uses and gives back what it was given.

`RtlEqualUnicodeString` and the `%ws` of `DbgPrint` are for `PASSIVE_LEVEL` only, and `LgFreeKeyName` releases a name
that nobody handed out (`RegNames`). What is asked of these calls is a parameter of the contract.
-/
namespace Lockguard.Ke

open Calls

def passiveLevel : Nat := 0
def apcLevel : Nat := 1
def dispatchLevel : Nat := 2

inductive SpinLock where
  | gNonceLock
  | gPermissiveLock
deriving DecidableEq

/-- What the kernel hands out. A hash object has its key and what has been hashed. -/
inductive Object where
  | irp
  | algorithm (hAlg : Nat)
  | hash (hHash : Nat) (key data : Bytes)
  | key (handle : Nat)
  | fileName (nameInfo : Nat)
  | keyName (serial : Nat)
  | process (proc : Nat)
  | pool (imgName : Nat)
deriving DecidableEq

structure Machine where
  irql : Nat
  held : Option (SpinLock × Nat)
  objects : List Object
  driver : Driver

inductive Message where
  /-- `could not open recovery key: 0x%x` -/
  | keyNotOpened (status : NTSTATUS)
  /-- `recovery verifier loaded on retry` -/
  | verifierLoaded
  /-- `recovery verifier retry failed: 0x%x` -/
  | retryFailed (status : NTSTATUS)
  /-- `entered permissive window for %d seconds` -/
  | windowEntered (seconds : Int)
  /-- `tamper denied: %ws (count=%d)` -/
  | tamperDenied (reason : List WCHAR) (count : ULONG)

/-- There is a `%ws` in it. -/
def Message.wide : Message → Bool
  | .tamperDenied _ _ => true
  | _ => false

inductive Call where
  | keGetCurrentIrql
  | keQuerySystemTime
  | keAcquireSpinLock (lock : SpinLock)
  | keReleaseSpinLock (lock : SpinLock) (irql : Nat)
  | dbgPrint (m : Message)
  | rtlEqualUnicodeString (a b : UnicodeString)
  | ioCompleteRequest
  | bCryptGenRandom
  | bCryptOpenAlgorithmProvider
  | bCryptCreateHash (hAlg : Nat) (key : Bytes)
  | bCryptHashData (hHash : Nat) (data : Bytes)
  | bCryptFinishHash (hHash : Nat)
  | bCryptDestroyHash (hHash : Nat)
  | bCryptCloseAlgorithmProvider (hAlg : Nat)
  | zwOpenKey
  | zwQueryValueKey (handle : Nat) (name : String)
  | zwClose (handle : Nat)
  | fltGetFileNameInformation
  | fltParseFileNameInformation (nameInfo : Nat)
  | fltReleaseFileNameInformation (nameInfo : Nat)
  | cmCallbackGetKeyObjectIDEx (named : Bool)
  | cmCallbackReleaseKeyObjectIDEx (p : NamePointer)
  | psLookupProcessByProcessId
  | seLocateProcessImageName (proc : Nat)
  | exFreePool (imgName : Nat)
  | obDereferenceObject (proc : Nat)
  | readNonce
  | writeNonce (slot : NonceSlot)
  | readWindow
  | writeWindow (w : Window)
  | readRecovery
  | writeRecovery (r : Recovery)
  | interlockedCompareExchangeLastRetry (value comparand : Int)
  | readCounters
  | interlockedIncrementTamperCount
  | interlockedExchangeHeartbeat (time : Int)

/-- What a call returns and leaves in its out-parameters. -/
abbrev Call.Ret : Call → Type
  | .keGetCurrentIrql | .keAcquireSpinLock _ => Nat
  | .keQuerySystemTime => SysTime
  | .rtlEqualUnicodeString _ _ => Bool
  | .bCryptGenRandom => RandomCall
  | .bCryptOpenAlgorithmProvider | .bCryptCreateHash _ _ | .zwOpenKey | .psLookupProcessByProcessId => NTSTATUS × Nat
  | .bCryptHashData _ _ => NTSTATUS
  | .bCryptFinishHash _ => NTSTATUS × Bytes32
  | .zwQueryValueKey _ _ => RegQuery
  | .fltGetFileNameInformation | .seLocateProcessImageName _ => NTSTATUS × Option (Nat × UnicodeString)
  | .cmCallbackGetKeyObjectIDEx _ => NTSTATUS × Option (Nat × Option UnicodeString)
  | .readNonce => NonceSlot
  | .readWindow => Window
  | .readRecovery => Recovery
  | .interlockedCompareExchangeLastRetry _ _ => Int
  | .readCounters => ULONG × Int
  | _ => Unit

abbrev Routine (α : Type) := Prog Call Call.Ret α

abbrev call (op : Call) : Routine op.Ret := Prog.perform op

/-! ## When a call may be made -/

structure Rules where
  /-- The highest IRQL at which Unicode text is compared and printed. -/
  text : Nat
  /-- A name that nobody has handed out may be released. -/
  stray : Bool

/-- The kernel as it is documented. -/
def Rules.documented : Rules := ⟨passiveLevel, false⟩

def Call.maxIrql (k : Rules) : Call → Nat
  | .dbgPrint m => if m.wide then k.text else dispatchLevel
  | .rtlEqualUnicodeString _ _ => k.text
  | .bCryptOpenAlgorithmProvider | .bCryptCreateHash _ _ | .bCryptHashData _ _ | .bCryptFinishHash _
  | .bCryptDestroyHash _ | .bCryptCloseAlgorithmProvider _ | .zwOpenKey | .zwQueryValueKey _ _ | .zwClose _
  | .seLocateProcessImageName _ => passiveLevel
  | .psLookupProcessByProcessId | .fltGetFileNameInformation | .fltParseFileNameInformation _
  | .fltReleaseFileNameInformation _ | .cmCallbackGetKeyObjectIDEx _ | .cmCallbackReleaseKeyObjectIDEx _ => apcLevel
  | _ => dispatchLevel

/-- What a call needs besides: the lock or the object it is about. -/
def Call.needs (k : Rules) (s : Machine) : Call → Prop
  | .keAcquireSpinLock _ => s.held = none
  | .keReleaseSpinLock lock irql => s.held = some (lock, irql)
  | .ioCompleteRequest => s.objects.head? = some .irp
  | .bCryptCreateHash hAlg _ | .bCryptCloseAlgorithmProvider hAlg => s.objects.head? = some (.algorithm hAlg)
  | .bCryptHashData hHash _ | .bCryptFinishHash hHash | .bCryptDestroyHash hHash =>
    ∃ key data, s.objects.head? = some (.hash hHash key data)
  | .zwQueryValueKey handle _ | .zwClose handle => s.objects.head? = some (.key handle)
  | .fltParseFileNameInformation nameInfo | .fltReleaseFileNameInformation nameInfo =>
    s.objects.head? = some (.fileName nameInfo)
  | .cmCallbackReleaseKeyObjectIDEx (.handedOut serial) => s.objects.head? = some (.keyName serial)
  | .cmCallbackReleaseKeyObjectIDEx .fullName => k.stray = true
  | .seLocateProcessImageName proc | .obDereferenceObject proc => s.objects.head? = some (.process proc)
  | .exFreePool imgName => s.objects.head? = some (.pool imgName)
  | .readNonce | .writeNonce _ => ∃ irql, s.held = some (.gNonceLock, irql)
  | .writeWindow _ => ∃ irql, s.held = some (.gPermissiveLock, irql)
  | _ => True

/-! ## What may come of a call -/

def Machine.gets (s : Machine) (o : Object) : Machine := { s with objects := o :: s.objects }

def Machine.givesBack (s : Machine) : Machine := { s with objects := s.objects.tail }

def Machine.acquires (s : Machine) (lock : SpinLock) : Machine :=
  { s with held := some (lock, s.irql), irql := dispatchLevel }

def Machine.releases (s : Machine) (irql : Nat) : Machine := { s with held := none, irql := irql }

/-- The machine with these globals of the driver's. -/
def Machine.runs (s : Machine) (d : Driver) : Machine := { s with driver := d }

/-- The machine with this copy of the record. -/
@[irreducible] def Machine.keeps (s : Machine) (r : Recovery) : Machine := s.runs { s.driver with recovery := r }

/-- More data for the hash object that was got last. -/
def Machine.hashes (s : Machine) (more : Bytes) : Machine :=
  match s.objects with
  | .hash hHash key data :: rest => { s with objects := .hash hHash key (data ++ more) :: rest }
  | _ => s

/-- A handle, not `NULL`, on success and only then. -/
def handsOut (s : Machine) (o : Nat → Object) (r : NTSTATUS × Nat) (s' : Machine) : Prop :=
  if ntSuccess r.1 then r.2 ≠ 0 ∧ s' = s.gets (o r.2) else r.2 = 0 ∧ s' = s

/-- A name on success only, and perhaps none even so. -/
def handsOutName {α : Type} (s : Machine) (o : Nat → Object) (r : NTSTATUS × Option (Nat × α)) (s' : Machine) : Prop :=
  match r.2 with
  | none => s' = s
  | some (p, _) => ntSuccess r.1 = true ∧ s' = s.gets (o p)

def Call.post (hmac : Hmac) (t : CaseTables) (s : Machine) : (op : Call) → op.Ret → Machine → Prop
  | .keGetCurrentIrql, r, s' => r = s.irql ∧ s' = s
  | .keQuerySystemTime, _, s' => s' = s
  | .keAcquireSpinLock lock, r, s' => r = s.irql ∧ s' = s.acquires lock
  | .keReleaseSpinLock _ irql, _, s' => s' = s.releases irql
  | .dbgPrint _, _, s' => s' = s
  | .rtlEqualUnicodeString a b, r, s' => r = Lockguard.rtlEqualUnicodeString t a b ∧ s' = s
  | .ioCompleteRequest, _, s' => s' = s.givesBack
  | .bCryptGenRandom, _, s' => s' = s
  | .bCryptOpenAlgorithmProvider, r, s' => handsOut s .algorithm r s'
  | .bCryptCreateHash _ key, r, s' => handsOut s (.hash · key []) r s'
  | .bCryptHashData _ data, r, s' => if ntSuccess r then s' = s.hashes data else ∃ some, s' = s.hashes some
  | .bCryptFinishHash _, r, s' => s' = s ∧
      (ntSuccess r.1 = true → ∀ h key data, s.objects.head? = some (.hash h key data) → r.2 = hmac key data)
  | .bCryptDestroyHash _, _, s' => s' = s.givesBack
  | .bCryptCloseAlgorithmProvider _, _, s' => s' = s.givesBack
  | .zwOpenKey, r, s' => handsOut s .key r s'
  | .zwQueryValueKey _ _, _, s' => s' = s
  | .zwClose _, _, s' => s' = s.givesBack
  | .fltGetFileNameInformation, r, s' => handsOutName s .fileName r s'
  | .fltParseFileNameInformation _, _, s' => s' = s
  | .fltReleaseFileNameInformation _, _, s' => s' = s.givesBack
  | .cmCallbackGetKeyObjectIDEx named, r, s' => if named then handsOutName s .keyName r s' else r.2 = none ∧ s' = s
  | .cmCallbackReleaseKeyObjectIDEx p, _, s' => s' = if p = .fullName then s else s.givesBack
  | .psLookupProcessByProcessId, r, s' => handsOut s .process r s'
  | .seLocateProcessImageName _, r, s' => handsOutName s .pool r s'
  | .exFreePool _, _, s' => s' = s.givesBack
  | .obDereferenceObject _, _, s' => s' = s.givesBack
  | .readNonce, r, s' => r = s.driver.nonce ∧ s' = s
  | .writeNonce slot, _, s' => s' = s.runs { s.driver with nonce := slot }
  | .readWindow, r, s' => r = s.driver.window ∧ s' = s
  | .writeWindow w, _, s' => s' = s.runs { s.driver with window := w }
  | .readRecovery, r, s' => r = s.driver.recovery ∧ s' = s
  | .writeRecovery r, _, s' => s' = s.keeps r
  | .interlockedCompareExchangeLastRetry value comparand, r, s' => r = s.driver.recovery.gVerifierLastRetry ∧
      s' = if r = comparand then s.keeps { s.driver.recovery with gVerifierLastRetry := value } else s
  | .readCounters, r, s' => r = (s.driver.gTamperCount, s.driver.gLastHeartbeat) ∧ s' = s
  | .interlockedIncrementTamperCount, _, s' => s' = s.runs (lgRecordTamperEvent s.driver)
  | .interlockedExchangeHeartbeat time, _, s' => s' = s.runs { s.driver with gLastHeartbeat := time }

/-- The kernel under these rules, with its HMAC-SHA256 and its case tables. -/
def contract (hmac : Hmac) (t : CaseTables) (k : Rules) : Contract Call Call.Ret Machine where
  pre op s := s.irql ≤ op.maxIrql k ∧ op.needs k s
  post op s r s' := op.post hmac t s r s'

/-! ## Spin locks and handles -/

/-- A section between `KeAcquireSpinLock` and `KeReleaseSpinLock`. -/
def underLock {α : Type} (lock : SpinLock) (body : Routine α) : Routine α := do
  let irql ← call (.keAcquireSpinLock lock)
  let a ← body
  call (.keReleaseSpinLock lock irql)
  pure a

/-- `if (handle) close(handle);` -/
def ifHandle (handle : Nat) (close : Routine Unit) : Routine Unit := if handle ≠ 0 then close else pure ()

/-! ## Crypto (`lockguard.c:142-166`) -/

/-- From `BCryptHashData` to `done`. -/
def hashAndFinish (hHash : Nat) (data : Bytes) : Routine (Except NTSTATUS Bytes32) := do
  let status ← call (.bCryptHashData hHash data)
  if !ntSuccess status then pure (.error status)
  else do
    let mac ← call (.bCryptFinishHash hHash)
    pure (if ntSuccess mac.1 then .ok mac.2 else .error mac.1)

/-- `LgHmacSha256`. -/
def lgHmacSha256 (key data : Bytes) : Routine (Except NTSTATUS Bytes32) := do
  let alg ← call .bCryptOpenAlgorithmProvider
  if !ntSuccess alg.1 then pure (.error alg.1)
  else do
    let hash ← call (.bCryptCreateHash alg.2 key)
    let r ← (if !ntSuccess hash.1 then pure (.error hash.1) else hashAndFinish hash.2 data)
    ifHandle hash.2 (call (.bCryptDestroyHash hash.2))
    ifHandle alg.2 (call (.bCryptCloseAlgorithmProvider alg.2))
    pure r

/-! ## The recovery verifier (`lockguard.c:47-66`, `:170-270`) -/

def lgReadRegBytes (key : Nat) (name : String) (bufLen : Nat) : Routine (Except NTSTATUS Bytes) := do
  let q ← call (.zwQueryValueKey key name)
  pure (Lockguard.lgReadRegBytes q bufLen)

def lgReadRegDword (key : Nat) (name : String) : Routine (Except NTSTATUS ULONG) := do
  let q ← call (.zwQueryValueKey key name)
  pure (Lockguard.lgReadRegDword q)

def updateRecovery (f : Recovery → Recovery) : Routine Unit := do
  let r ← call .readRecovery
  call (.writeRecovery (f r))

/-- The reads of `LgRecoveryLoadVerifier`, up to `done`. -/
def readRecord (key : Nat) : Routine NTSTATUS := do
  let salt ← lgReadRegBytes key "InstallSalt" lgSaltMaxLen
  match salt with
  | .error s => pure s
  | .ok salt => do
    updateRecovery fun r => { r with gInstallSalt := copyInto r.gInstallSalt salt, gInstallSaltLen := salt.length }
    let iterations ← lgReadRegDword key "Iterations"
    match iterations with
    | .error s => pure s
    | .ok iterations => do
      updateRecovery fun r => { r with gIterations := iterations }
      let verifier ← lgReadRegBytes key "Verifier" lgVerifierLen
      match verifier with
      | .error s => pure s
      | .ok verifier => do
        updateRecovery fun r => { r with gStoredVerifier := copyInto r.gStoredVerifier verifier }
        if verifier.length ≠ lgVerifierLen then pure statusInvalidParameter
        else do
          updateRecovery fun r => { r with gVerifierLoaded := true }
          pure statusSuccess

def lgRecoveryLoadVerifier : Routine NTSTATUS := do
  let key ← call .zwOpenKey
  if !ntSuccess key.1 then do
    call (.dbgPrint (.keyNotOpened key.1))
    pure key.1
  else do
    let status ← readRecord key.2
    ifHandle key.2 (call (.zwClose key.2))
    pure status

def lgRecoveryTryReload : Routine Unit := do
  let r ← call .readRecovery
  if r.gVerifierLoaded then pure ()
  else do
    let irql ← call .keGetCurrentIrql
    if irql > passiveLevel then pure ()
    else do
      let now ← call .keQuerySystemTime
      let r ← call .readRecovery
      let last := r.gVerifierLastRetry
      if last ≠ 0 ∧ long64 (now.quadPart - last) < lgVerifierRetryInterval100ns then pure ()
      else do
        let found ← call (.interlockedCompareExchangeLastRetry now.quadPart last)
        if found ≠ last then pure ()
        else do
          let rvs ← lgRecoveryLoadVerifier
          call (.dbgPrint (if ntSuccess rvs then .verifierLoaded else .retryFailed rvs))

def lgRecoveryCheckKey (derivedKey : Bytes32) : Routine (Except NTSTATUS Unit) := do
  let r ← call .readRecovery
  if !r.gVerifierLoaded then pure (.error statusNotFound)
  else do
    let computed ← lgHmacSha256 derivedKey.toList lgVerifierLabel
    match computed with
    | .error s => pure (.error s)
    | .ok computed => do
      let r ← call .readRecovery
      pure (if !lgConstantTimeEqual computed r.gStoredVerifier then .error statusAccessDenied else .ok ())

/-! ## The permissive window and the counters (`lockguard.c:70-133`) -/

def lgEnterPermissiveWindow : Routine Unit := do
  let now ← call .keQuerySystemTime
  underLock .gPermissiveLock do
    let w ← call .readWindow
    call (.writeWindow (Lockguard.lgEnterPermissiveWindow now w))
  call (.dbgPrint (.windowEntered lgUnlockWindowSeconds))

def lgIsPermissive : Routine Bool := do
  let w ← call .readWindow
  if !w.gPermissive then pure false
  else do
    let now ← call .keQuerySystemTime
    underLock .gPermissiveLock do
      let w ← call .readWindow
      call (.writeWindow (permissiveSection now w).2)
      pure (permissiveSection now w).1

def lgRecordTamperEvent (reason : List WCHAR) : Routine Unit := do
  call .interlockedIncrementTamperCount
  let counters ← call .readCounters
  call (.dbgPrint (.tamperDenied reason counters.1))

def lgRecordHeartbeat : Routine Unit := do
  let now ← call .keQuerySystemTime
  call (.interlockedExchangeHeartbeat now.quadPart)

def unlessPermissive {α : Type} (reason : List WCHAR) (ok denied : α) : Routine α := do
  let permissive ← lgIsPermissive
  if permissive then pure ok
  else do
    lgRecordTamperEvent reason
    pure denied

/-! ## The recovery channel (`lockguard.c:272-417`) -/

def lgHandleGetNonce (irp : Irp) : Routine (NTSTATUS × Irp) :=
  if irp.outputBufferLength < lgNonceLen then pure (statusBufferTooSmall, irp)
  else do
    lgRecoveryTryReload
    let random ← call .bCryptGenRandom
    if !ntSuccess random.status then pure (random.status, irp)
    else do
      let now ← call .keQuerySystemTime
      underLock .gNonceLock do
        let slot ← call .readNonce
        call (.writeNonce (nonceIssue random.bytes now slot))
        pure ()
      pure (statusSuccess, getNonceReply random.bytes irp)

def lgHandleUnlock (irp : Irp) : Routine (NTSTATUS × Irp) :=
  if irp.inputBufferLength < sizeofUnlockRequest then pure (statusBufferTooSmall, irp)
  else do
    let req := irp.unlockRequest
    let taken ← underLock .gNonceLock do
      let slot ← call .readNonce
      call (.writeNonce (nonceTake slot).2)
      pure (nonceTake slot).1
    match taken with
    | none => do
      lgRecordTamperEvent (wide "unlock without nonce")
      pure (statusAccessDenied, irp)
    | some (nonce, issuedAt) => do
      let now ← call .keQuerySystemTime
      if long64 (now.quadPart - issuedAt.quadPart) > ticks lgNonceTtlSeconds then do
        lgRecordTamperEvent (wide "unlock with stale nonce")
        pure (statusTimeout, irp)
      else do
        let status ← lgRecoveryCheckKey req.derivedKey
        match status with
        | .error _ => do
          lgRecordTamperEvent (wide "unlock with wrong key")
          pure (statusAccessDenied, irp.zeroRequest)
        | .ok () => do
          let expected ← lgHmacSha256 req.derivedKey.toList nonce.toList
          match expected with
          | .error s => pure (s, irp.zeroRequest)
          | .ok expected =>
            if !lgConstantTimeEqual req.response expected then do
              lgRecordTamperEvent (wide "unlock challenge mismatch")
              pure (statusAccessDenied, irp.zeroRequest)
            else do
              lgEnterPermissiveWindow
              pure (statusSuccess, { irp.zeroRequest with information := 0 })

def lgHandleHeartbeat (irp : Irp) : Routine (NTSTATUS × Irp) := do
  lgRecordHeartbeat
  pure (statusSuccess, { irp with information := 0 })

def lgHandleStatus (irp : Irp) : Routine (NTSTATUS × Irp) :=
  if irp.outputBufferLength < sizeofStatusReply then pure (statusBufferTooSmall, irp)
  else do
    let permissive ← lgIsPermissive
    let w ← call .readWindow
    let counters ← call .readCounters
    let irp := irp.store 0 (leBytes 4 1)
    let irp := irp.store 4 [if permissive then 1 else 0]
    let irp := irp.store 8 (leBytes 8 w.gPermissiveExpires)
    let irp := irp.store 16 (leBytes 4 counters.1.toNat)
    let irp := irp.store 24 (leBytes 8 counters.2)
    pure (statusSuccess, { irp with information := sizeofStatusReply })

def lgDispatchDeviceControl (code : ULONG) (irp : Irp) : Routine (NTSTATUS × Irp) := do
  let r ← (if code = lgIoctlGetNonce then lgHandleGetNonce irp
    else if code = lgIoctlUnlock then lgHandleUnlock irp
    else if code = lgIoctlHeartbeat then lgHandleHeartbeat irp
    else if code = lgIoctlStatus then lgHandleStatus irp
    else pure (statusInvalidDeviceRequest, irp))
  call .ioCompleteRequest
  pure r

def lgDispatchCreateClose : Routine NTSTATUS := do
  call .ioCompleteRequest
  pure statusSuccess

/-! ## The callbacks -/

/-- The comparison with what stands in the buffer, if that is all of it inside. -/
def windowEquals (window : Option UnicodeString) (needle : UnicodeString) : Routine Bool :=
  match window with
  | none => pure false
  | some window => call (.rtlEqualUnicodeString window needle)

/-- The inner loop of `LgPathMatches` (`minifilter.c:48-56`). -/
def scanWindows (name needle : UnicodeString) (lastStart : UInt16) : Nat → UInt16 → Routine Bool
  | 0, _ => pure false
  | rounds + 1, off =>
    if off ≤ lastStart then do
      let hit ← windowEquals (name.window off needle.length) needle
      if hit then pure true else scanWindows name needle lastStart rounds (off + 1)
    else pure false

def nameContains (name needle : UnicodeString) : Routine Bool :=
  if name.length < needle.length then pure false
  else scanWindows name needle ((name.length - needle.length) / 2) 65536 0

/-- `LgPathMatches` (`minifilter.c:26-63`). -/
def lgPathMatches : Routine Bool := do
  let q ← call .fltGetFileNameInformation
  if !ntSuccess q.1 then pure false
  else match q.2 with
  | none => pure false
  | some (nameInfo, name) => do
    call (.fltParseFileNameInformation nameInfo)
    let hit ← gProtectedSuffixes.anyM fun suffix => nameContains name (rtlInitUnicodeString suffix)
    call (.fltReleaseFileNameInformation nameInfo)
    pure hit

def guardFile (reason : List WCHAR) : Routine PreOp := do
  let hit ← lgPathMatches
  if !hit then pure .successNoCallback
  else unlessPermissive reason .successNoCallback (.complete statusAccessDenied)

def lgPreCreate (p : CreateParameters) : Routine PreOp :=
  if !p.wantsDelete && !p.wantsWrite then pure .successNoCallback else guardFile (wide "file create write/delete")

def lgPreSetInformation (klass : Nat) : Routine PreOp :=
  if !dangerousClass klass then pure .successNoCallback else guardFile (wide "file set-info")

def lgPreWrite : Routine PreOp := guardFile (wide "file write")

def lgUnloadGuard : Routine NTSTATUS :=
  unlessPermissive (wide "minifilter unload attempt") statusSuccess statusFltDoNotDetach

/-- `LgProcessNotifyEx` (`procnotify.c:69-91`); the reason starts at the base name and goes on as the buffer does. -/
def lgProcessNotifyEx (t : CaseTables) (info : Option CreateNotifyInfo) : Routine (Option NTSTATUS) :=
  match info with
  | none => pure none
  | some info =>
    match info.imageFileName with
    | none => pure (some info.creationStatus)
    | some path => do
      let permissive ← lgIsPermissive
      if permissive then pure (some info.creationStatus)
      else match lgBasename path with
      | none => pure (some info.creationStatus)
      | some base =>
        if lgIsBlocked t (path.buffer.drop base) (UInt16.ofNat (path.length.toNat / 2 - base)) then do
          lgRecordTamperEvent (path.buffer.drop base)
          pure (some statusAccessDenied)
        else pure (some info.creationStatus)

/-- `LgPidIsProtected` (`obcallback.c:21-49`): the name is freed before the process is let go. -/
def lgPidIsProtected (t : CaseTables) : Routine Bool := do
  let proc ← call .psLookupProcessByProcessId
  if !ntSuccess proc.1 then pure false
  else do
    let img ← call (.seLocateProcessImageName proc.2)
    let protectedProc ← (if !ntSuccess img.1 then pure false else match img.2 with
      | none => pure false
      | some (imgName, name) => do
        let protectedProc := Lockguard.lgPidIsProtected t ⟨proc.1, img.1, some name⟩
        call (.exFreePool imgName)
        pure protectedProc : Routine Bool)
    call (.obDereferenceObject proc.2)
    pure protectedProc

/-- `LgPreProcessHandle` (`obcallback.c:51-75`); the process is looked up only when it is needed. -/
def lgPreProcessHandle (t : CaseTables) (isProcess kernelHandle : Bool) (operation : ObOperation)
    (desiredAccess : ACCESS_MASK) : Routine ACCESS_MASK :=
  if !isProcess then pure desiredAccess
  else if kernelHandle then pure desiredAccess
  else do
    let permissive ← lgIsPermissive
    if permissive then pure desiredAccess
    else do
      let protectedProc ← lgPidIsProtected t
      if !protectedProc then pure desiredAccess
      else do
        let denied := if operation = .other then 0 else desiredAccess &&& procDeniedMask
        let granted := if operation = .other then desiredAccess else desiredAccess &&& ~~~procDeniedMask
        (if denied ≠ 0 then lgRecordTamperEvent (wide "process handle strip") else pure () : Routine Unit)
        pure granted

/-- One round of the loop of `LgKeyNameMatchesAny`. -/
def keyNameStartsWith (name pfx : UnicodeString) : Routine Bool :=
  if name.length < pfx.length then pure false else windowEquals (name.window 0 pfx.length) pfx

/-- `LgKeyNameMatchesAny` (`regcb.c:35-53`). -/
def lgKeyNameMatchesAny (name : Option UnicodeString) : Routine Bool :=
  match name with
  | none => pure false
  | some name => gProtectedPrefixes.anyM fun pfx => keyNameStartsWith name (rtlInitUnicodeString pfx)

/-- `LgResolveKeyName` (`regcb.c:55-73`): its status and what it leaves in `*Out`. Its first call asks for no name. -/
def lgResolveKeyName : Routine (NTSTATUS × Option UnicodeString) := do
  let _ ← call (.cmCallbackGetKeyObjectIDEx false)
  let key ← call (.cmCallbackGetKeyObjectIDEx true)
  if !ntSuccess key.1 then pure (key.1, none)
  else match key.2 with
  | none => pure (key.1, none)
  | some (_, header) => pure (statusSuccess, header)

/-- `LgFreeKeyName` (`regcb.c:75-80`), of the callback's own copy. -/
def lgFreeKeyName (fullName : Option UnicodeString) : Routine Unit :=
  if fullName.isSome then call (.cmCallbackReleaseKeyObjectIDEx .fullName) else pure ()

/-- The classes of the switch that go on, and the reason each gives (`regcb.c:92-126`). -/
def regReason (klass : Nat) : Option (List WCHAR) :=
  if klass = regNtPreSetValueKey then some (wide "reg set value")
  else if klass = regNtPreDeleteValueKey then some (wide "reg delete value")
  else if klass = regNtPreDeleteKey then some (wide "reg delete key")
  else if klass = regNtPreRenameKey then some (wide "reg rename key")
  else none

/-- `LgRegistryCallback` (`regcb.c:82-144`). Of `Argument2` it looks at `info` and at `info->Object` only. -/
def lgRegistryCallback (argument1 : Nat) (argument2 : Option Bool) : Routine NTSTATUS :=
  if argument1 = 0 then pure statusSuccess
  else match regReason argument1 with
  | none => pure statusSuccess
  | some reason =>
    if argument2 ≠ some true then pure statusSuccess
    else do
      let key ← lgResolveKeyName
      if !ntSuccess key.1 then pure statusSuccess
      else do
        let deny ← lgKeyNameMatchesAny key.2
        lgFreeKeyName key.2
        if !deny then pure statusSuccess
        else unlessPermissive reason statusSuccess statusAccessDenied

end Lockguard.Ke
