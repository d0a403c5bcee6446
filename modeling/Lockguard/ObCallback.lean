import Lockguard.ProcNotify
import Lockguard.MiniFilter
/-!
# The process-handle callback (`obcallback.c`)
-/
namespace Lockguard

def processTerminate : ACCESS_MASK := 0x0001
def processCreateThread : ACCESS_MASK := 0x0002
def processVmOperation : ACCESS_MASK := 0x0008
def processVmWrite : ACCESS_MASK := 0x0020
def processSuspendResume : ACCESS_MASK := 0x0800

def procDeniedMask : ACCESS_MASK :=
  processTerminate ||| processVmWrite ||| processSuspendResume ||| processVmOperation |||
    processCreateThread

/-- What `PsLookupProcessByProcessId` and `SeLocateProcessImageName` return for a process. -/
structure ProcessLookup where
  lookup : NTSTATUS
  locate : NTSTATUS
  imageName : Option UnicodeString

/-- `LgPidIsProtected` (`:21-49`): only the backslash ends a base name here. -/
def lgPidIsProtected (t : CaseTables) (p : ProcessLookup) : Bool :=
  if !ntSuccess p.lookup then false
  else if !ntSuccess p.locate then false
  else match p.imageName with
  | none => false
  | some imgName =>
    let i := afterLast (fun c => c == backslash) imgName.buffer (imgName.length.toNat / 2)
    let base := imgName.buffer.drop i
    let baseLen := UInt16.ofNat (imgName.length.toNat / 2 - i)
    [wide "lockguard-svc.exe", wide "services.exe"].any fun name =>
      baseLen.toNat == name.length && wcsnicmpEq t base name name.length

/-- `OB_OPERATION`. -/
inductive ObOperation where
  | handleCreate
  | handleDuplicate
  | other
deriving DecidableEq

/-- `OB_PRE_OPERATION_INFORMATION`, as far as the callback reads it. -/
structure PreHandleInformation where
  isProcess : Bool
  kernelHandle : Bool
  operation : ObOperation
  target : ProcessLookup
  desiredAccess : ACCESS_MASK

/-- `LgPreProcessHandle` (`:51-75`): the access the handle will carry. -/
def lgPreProcessHandle (t : CaseTables) (info : PreHandleInformation) (now : SysTime) (d : Driver) :
    Reply ACCESS_MASK :=
  if !info.isProcess then ⟨info.desiredAccess, d, []⟩
  else if info.kernelHandle then ⟨info.desiredAccess, d, []⟩
  else
    let (permissive, w) := lgIsPermissive now d.window
    let d := { d with window := w }
    if permissive then ⟨info.desiredAccess, d, [.asked now true]⟩
    else if !lgPidIsProtected t info.target then ⟨info.desiredAccess, d, [.asked now false]⟩
    else
      let denied := if info.operation = .other then 0 else info.desiredAccess &&& procDeniedMask
      let granted :=
        if info.operation = .other then info.desiredAccess else info.desiredAccess &&& ~~~procDeniedMask
      ⟨granted, if denied = 0 then d else lgRecordTamperEvent d, [.asked now false]⟩

end Lockguard
