import Lockguard.Driver
import Lockguard.Watchdog
/-!
# The watchdog's file calls at the minifilter

What the file system is asked for by each call of Go's library, with the parameters the minifilter
reads: disposition and options as in `Parameters.Create.Options`, access as mapped from the generic
rights.

| here | there |
| --- | --- |
| `openToRead`          | `os.Open`: `GENERIC_READ`, `OPEN_EXISTING` |
| `openAttributes`      | `os.Stat` |
| `createDirectory`     | `os.MkdirAll`: `CreateDirectory` of what is missing |
| `createAlways`        | `os.Create`: `GENERIC_READ` and `GENERIC_WRITE`, `CREATE_ALWAYS` |
| `copyChunk`           | the buffer of `io.Copy` |
| `openToRename`        | `os.Rename`: the source, opened with `DELETE` |
| `openTargetDirectory` | the I/O manager opening the directory a file is renamed into |
-/
namespace Lockguard

def openToRead : CreateParameters := ⟨0x01004020, some 0x00120089⟩
def openAttributes : CreateParameters := ⟨0x01200000, some 0x00000080⟩
def createDirectory : CreateParameters := ⟨0x02004021, some 0x00100001⟩
def createAlways : CreateParameters := ⟨0x05000060, some 0x0012019F⟩
def openToRename : CreateParameters := ⟨0x01204020, some 0x00110080⟩
def openTargetDirectory : CreateParameters := ⟨0x01004000, some 0x00100002⟩
def copyChunk : Nat := 32768

/-- A request to the file system that comes to one of the callbacks. -/
inductive FileEvent where
  | create (path : List Name) (parameters : CreateParameters)
  | write (path : List Name) (chunk : Nat)
  | setInformation (path : List Name) (klass : Nat)

def FileEvent.path : FileEvent → List Name
  | .create path _ | .write path _ | .setInformation path _ => path

/-- The writes of `size` bytes. -/
def writeEvents (path : List Name) (size : Nat) : List FileEvent :=
  (List.range ((size + copyChunk - 1) / copyChunk)).map (.write path)

/-- The requests a call consists of; `size` is the size of the file a copy reads. -/
def Call.fileEvents (size : Nat) : Call → List FileEvent
  | .readAll path | .openRead path | .globCip path => [.create path openToRead]
  | .stat path => [.create path openAttributes]
  | .mkdirAll dir => [.create dir openAttributes, .create dir createDirectory]
  | .create path => [.create path createAlways]
  | .copy _ dst => writeEvents dst size
  | .rename src dst =>
    [.create src openToRename, .create dst.dropLast openTargetDirectory, .setInformation src fileRenameInformation]
  | _ => []

/-- The callback asks for the file's name. -/
def FileEvent.asks : FileEvent → Bool
  | .create _ parameters => parameters.wantsDelete || parameters.wantsWrite
  | .write _ _ => true
  | .setInformation _ klass => dangerousClass klass

/-- The event of the driver, with the name the filter manager gives and the reading of the clock. -/
def FileEvent.event (q : FileNameQuery) (now : SysTime) : FileEvent → Event
  | .create _ parameters => .create parameters q now
  | .write _ _ => .write q now
  | .setInformation _ klass => .setInformation klass q now

section
variable {t : CaseTables} {device : List WCHAR} {e : FileEvent} {q : FileNameQuery} {now : SysTime}

@[simp] theorem fileEvent_now : (e.event q now).now = now := by
  cases e <;> rfl

theorem fileEvent_isDeed : (e.event q now).IsDeed := by
  cases e <;> exact trivial

theorem fileEvent_guarded_iff : (e.event q now).Guarded t ↔ e.asks = true ∧ lgPathMatches t q = true := by
  cases e with
  | create path parameters => simp [FileEvent.event, FileEvent.asks, Event.Guarded]
  | write path chunk => simp [FileEvent.event, FileEvent.asks, Event.Guarded]
  | setInformation path klass => simp [FileEvent.event, FileEvent.asks, Event.Guarded]

/-! ## Names -/

/-- A name the filter manager gives is that of the file, on its volume, in whatever case. -/
def FileEvent.Named (t : CaseTables) (device : List WCHAR) (q : FileNameQuery) (e : FileEvent) : Prop :=
  ntSuccess q.status = true → ∃ name, q.name = some name ∧
    name.chars.map t.upcase = (device ++ pathText e.path).map t.upcase

theorem lgPathMatches_named {name : UnicodeString} (hs : ntSuccess q.status = true) (hname : q.name = some name) :
    lgPathMatches t q = lgPathMatches t ⟨statusSuccess, some name⟩ := by
  simp [lgPathMatches, hs, hname]

/-- A file with a protected suffix in its path is judged by whether its name can be had. -/
theorem matches_iff_named (hn : e.Named t device q) {s : List WCHAR} (hs : s ∈ gProtectedSuffixes)
    (hin : s <:+: pathText e.path) : lgPathMatches t q = true ↔ ntSuccess q.status = true := by
  cases hstatus : ntSuccess q.status with
  | false => simp [lgPathMatches, hstatus]
  | true =>
    obtain ⟨name, hname, hchars⟩ := hn hstatus
    rw [lgPathMatches_named hstatus hname, lgPathMatches_iff]
    refine iff_of_true ⟨s, hs, ?_⟩ rfl
    rw [hchars]
    exact (hin.trans (List.suffix_append device _).isInfix).map _

end

end Lockguard
