import Mathlib.Logic.Function.Basic
import Lockguard.Watchdog
/-!
# The machine the watchdog works on

The state the checks read and repair, and what each call does to it. How a call comes out is not the
machine's doing: an `Outcome` says whether it fails, what text a program prints and how far a copy
comes that breaks off. No check makes one call twice, so an environment gives each call an outcome.
-/
namespace Lockguard

open Calls

/-! ## Files -/

/-- A file under the path it was created with. -/
structure DiskFile where
  path : List Name
  data : Bytes

abbrev Disk := List DiskFile

section
variable (t : CaseTables)

def DiskFile.named (f : DiskFile) (p : List Name) : Bool := foldPath t f.path == foldPath t p

def Disk.find : Disk → List Name → Option Bytes
  | [], _ => none
  | f :: disk, p => if f.named t p then some f.data else Disk.find disk p

/-- A file that is there keeps the name it has. -/
def Disk.put : Disk → List Name → Bytes → Disk
  | [], p, data => [⟨p, data⟩]
  | f :: disk, p, data => if f.named t p then { f with data := data } :: disk else f :: Disk.put disk p data

def Disk.erase (disk : Disk) (p : List Name) : Disk := List.filter (fun f => !f.named t p) disk

/-- The names in a directory that match `*.cip`, as `filepath.Match` compares them: by case. -/
def Disk.globCip (disk : Disk) (dir : List Name) : List Name :=
  (List.filter (fun f : DiskFile => foldPath t f.path.dropLast == foldPath t dir &&
    (wide ".cip").isSuffixOf (f.path.getLastD [])) disk).map fun f => f.path.getLastD []

end

section
variable {t : CaseTables} {p q : List Name} {data : Bytes}

@[simp] theorem find_put_self (disk : Disk) : Disk.find t (Disk.put t disk p data) p = some data := by
  induction disk with
  | nil => simp [Disk.put, Disk.find, DiskFile.named]
  | cons f disk ih =>
    unfold Disk.put
    split
    · rename_i hf
      have hf' : DiskFile.named t { f with data := data } p = true := hf
      rw [Disk.find, if_pos hf']
    · rename_i hf
      rw [Disk.find, if_neg hf, ih]

theorem named_of_ne {f : DiskFile} (h : foldPath t q ≠ foldPath t p) (hf : f.named t p = true) :
    f.named t q = false := by
  simp only [DiskFile.named, beq_iff_eq, beq_eq_false_iff_ne] at hf ⊢
  rw [hf]
  exact h.symm

theorem find_put_of_ne (h : foldPath t q ≠ foldPath t p) (disk : Disk) :
    Disk.find t (Disk.put t disk p data) q = Disk.find t disk q := by
  induction disk with
  | nil =>
    have hnew : DiskFile.named t ⟨p, data⟩ q = false := named_of_ne h (by simp [DiskFile.named])
    simp [Disk.put, Disk.find, hnew]
  | cons f disk ih =>
    unfold Disk.put
    split
    · rename_i hf
      have hq : f.named t q = false := named_of_ne h hf
      have hq' : DiskFile.named t { f with data := data } q = false := hq
      simp [Disk.find, hq, hq']
    · rw [Disk.find, Disk.find, ih]

theorem find_erase_of_ne (h : foldPath t q ≠ foldPath t p) (disk : Disk) :
    Disk.find t (Disk.erase t disk p) q = Disk.find t disk q := by
  unfold Disk.erase
  induction disk with
  | nil => rfl
  | cons f disk ih =>
    rw [List.filter_cons]
    split
    · rw [Disk.find, Disk.find, ih]
    · rename_i hf
      have hq : f.named t q = false := named_of_ne h (by simpa using hf)
      rw [ih, Disk.find, hq]
      rfl

end

/-! ## The machine -/

inductive StartType where
  | boot
  | system
  | auto
  | demand
  | disabled
deriving DecidableEq

structure Service where
  startType : StartType
  running : Bool

/-- The settings of the current boot entry, `none` for a value that is not set. -/
structure Bcd where
  testsigning : Option String
  bootmenupolicy : Option String
  safeboot : Option String

/-- `exe` is the watchdog's own image, `debugger` the IFEO `Debugger` value of an image name, and
`filterList` a group-policy list of an interface by its type. -/
structure Host where
  disk : Disk
  services : String → Service
  bcd : Bcd
  exe : String
  debugger : String → Option String
  interfaces : List Guid
  filterList : Guid → UInt32 → List Dot11Network

/-- What a program does to the machine when it succeeds. -/
def Host.command (m : Host) (cmd : String) (args : List String) : Host :=
  match cmd, args with
  | "sc.exe", ["start", name] =>
    { m with services := Function.update m.services name { m.services name with running := true } }
  | "sc.exe", ["stop", name] =>
    { m with services := Function.update m.services name { m.services name with running := false } }
  | "sc.exe", ["config", name, "start=", "disabled"] =>
    { m with services := Function.update m.services name { m.services name with startType := .disabled } }
  | "bcdedit.exe", ["/set", "testsigning", "on"] => { m with bcd := { m.bcd with testsigning := some "Yes" } }
  | "bcdedit.exe", ["/set", "bootmenupolicy", "standard"] =>
    { m with bcd := { m.bcd with bootmenupolicy := some "Standard" } }
  | "bcdedit.exe", ["/deletevalue", "safeboot"] => { m with bcd := { m.bcd with safeboot := none } }
  | _, _ => m

@[simp] theorem command_stop (m : Host) (name : String) : m.command "sc.exe" ["stop", name] =
    { m with services := Function.update m.services name { m.services name with running := false } } := rfl

@[simp] theorem command_config (m : Host) (name : String) : m.command "sc.exe" ["config", name, "start=", "disabled"] =
    { m with services := Function.update m.services name { m.services name with startType := .disabled } } := rfl

@[simp] theorem command_testsigning (m : Host) : m.command "bcdedit.exe" ["/set", "testsigning", "on"] =
    { m with bcd := { m.bcd with testsigning := some "Yes" } } := rfl

@[simp] theorem command_bootmenupolicy (m : Host) : m.command "bcdedit.exe" ["/set", "bootmenupolicy", "standard"] =
    { m with bcd := { m.bcd with bootmenupolicy := some "Standard" } } := rfl

@[simp] theorem command_safeboot (m : Host) : m.command "bcdedit.exe" ["/deletevalue", "safeboot"] =
    { m with bcd := { m.bcd with safeboot := none } } := rfl

/-- How a call comes out: it may fail for reasons of its own; `out` is what a program prints, and
`copied` the bytes written by a copy that breaks off. -/
structure Outcome where
  fails : Bool
  out : String
  copied : Nat

def nothingFails (_ : Call) : Outcome := ⟨false, "", 0⟩

/-- What a call answers, and the machine after it. -/
def Host.answer (t : CaseTables) (o : Outcome) : (c : Call) → Host → c.Ret × Host
  | .run cmd args, m => (⟨o.out, !o.fails⟩, if o.fails then m else m.command cmd args)
  | .readAll path, m => (if o.fails then none else Disk.find t m.disk path, m)
  | .stat path, m => (!o.fails && (Disk.find t m.disk path).isSome, m)
  | .globCip dir, m => (if o.fails then [] else Disk.globCip t m.disk dir, m)
  | .openRead path, m => (!o.fails && (Disk.find t m.disk path).isSome, m)
  | .mkdirAll _, m => (!o.fails, m)
  | .create path, m => (!o.fails, if o.fails then m else { m with disk := Disk.put t m.disk path [] })
  | .copy src dst, m =>
    match Disk.find t m.disk src with
    | none => (false, m)
    | some data =>
      (!o.fails, { m with disk := Disk.put t m.disk dst (if o.fails then data.take o.copied else data) })
  | .rename src dst, m =>
    match Disk.find t m.disk src with
    | none => (false, m)
    | some data => (!o.fails, if o.fails then m else { m with disk := Disk.put t (Disk.erase t m.disk src) dst data })
  | .executable, m => (if o.fails then none else some m.exe, m)
  | .createKey _, m => (!o.fails, m)
  | .setStringValue img name value, m =>
    (!o.fails, if o.fails || name != "Debugger" then m
      else { m with debugger := Function.update m.debugger img (some value) })
  | .wlanOpenHandle _, m => (!o.fails, m)
  | .wlanEnumInterfaces _, m => (if o.fails then none else some m.interfaces, m)
  | .wlanGetFilterList iface listType, m => (if o.fails then none else some (m.filterList iface listType), m)
  | .wlanSetFilterList iface listType nets, m =>
    (!o.fails, if o.fails then m else
      { m with filterList := Function.update m.filterList iface (Function.update (m.filterList iface) listType nets) })

/-- The machine where each call comes out as the environment says. -/
def onHost (t : CaseTables) (env : Call → Outcome) : Handler Call Call.Ret Host :=
  fun c m => m.answer t (env c) c

/-! ## Running what the checks are made of -/

section
variable {σ α β : Type} {h : Handler Call Call.Ret σ}

theorem run_orReturn (x : Go (Except GoError α)) (f : α → Go (Except GoError β)) (s : σ) :
    (x.orReturn f).run h s = match (x.run h s).1 with
      | .error e => (.error e, (x.run h s).2)
      | .ok a => (f a).run h (x.run h s).2 := by
  rw [Go.orReturn, Prog.run_bind]
  cases (x.run h s).1 <;> rfl

theorem run_orReturn_ok {x : Go (Except GoError α)} {f : α → Go (Except GoError β)} {s : σ} {a : α}
    (hx : (x.run h s).1 = .ok a) : (x.orReturn f).run h s = (f a).run h (x.run h s).2 := by
  rw [run_orReturn, hx]

theorem run_orReturn_error {x : Go (Except GoError α)} {f : α → Go (Except GoError β)} {s : σ} {e : GoError}
    (hx : (x.run h s).1 = .error e) : (x.orReturn f).run h s = (.error e, (x.run h s).2) := by
  rw [run_orReturn, hx]

/-- A chain that ends without an error has had none on the way. -/
theorem orReturn_ok {x : Go (Except GoError α)} {f : α → Go (Except GoError β)} {s : σ} {b : β}
    (hok : ((x.orReturn f).run h s).1 = .ok b) :
    ∃ a, (x.run h s).1 = .ok a ∧ (x.orReturn f).run h s = (f a).run h (x.run h s).2 := by
  cases hx : (x.run h s).1 with
  | error e =>
    rw [run_orReturn_error hx] at hok
    cases hok
  | ok a => exact ⟨a, rfl, run_orReturn_ok hx⟩

theorem orFail_ok {c : Call} {b : Bool} {u : Unit} (h : orFail c b = .ok u) : b = true := by
  cases b with
  | true => rfl
  | false => cases h

theorem orFailSome_ok {c : Call} {o : Option α} {a : α} (h : orFailSome c o = .ok a) : o = some a := by
  cases o with
  | none => cases h
  | some a' => exact congrArg some (Except.ok.inj h)

end

section
variable {t : CaseTables} {env : Call → Outcome}

@[simp] theorem run_runQuiet (cmd : String) (args : List String) (m : Host) :
    (runQuiet cmd args).run (onHost t env) m = (⟨(env (.run cmd args)).out, !(env (.run cmd args)).fails⟩,
      if (env (.run cmd args)).fails then m else m.command cmd args) := rfl

theorem run_readFile (p : List Name) (m : Host) : (readFile p).run (onHost t env) m = (orFailSome (.readAll p)
    (if (env (.readAll p)).fails then none else Disk.find t m.disk p), m) := rfl

@[simp] theorem run_osStat (p : List Name) (m : Host) : (osStat p).run (onHost t env) m =
    (!(env (.stat p)).fails && (Disk.find t m.disk p).isSome, m) := rfl

@[simp] theorem run_filepathGlob (dir : List Name) (m : Host) : (filepathGlob dir).run (onHost t env) m =
    (if (env (.globCip dir)).fails then [] else Disk.globCip t m.disk dir, m) := rfl

@[simp] theorem run_osExecutable (m : Host) : osExecutable.run (onHost t env) m =
    (if (env .executable).fails then none else some m.exe, m) := rfl

@[simp] theorem run_createKey (img : String) (m : Host) : (createKey img).run (onHost t env) m =
    (!(env (.createKey img)).fails, m) := rfl

@[simp] theorem run_setStringValue (img value : String) (m : Host) :
    (setStringValue img "Debugger" value).run (onHost t env) m =
      (!(env (.setStringValue img "Debugger" value)).fails,
        if (env (.setStringValue img "Debugger" value)).fails then m
        else { m with debugger := Function.update m.debugger img (some value) }) := by
  simp [setStringValue, Call.perform, onHost, Host.answer]

/-! ## What a call can change -/

/-- The calls that may change the file at `p`. -/
def Call.Writes (t : CaseTables) (p : List Name) : Call → Prop
  | .create q => foldPath t p = foldPath t q
  | .copy _ q => foldPath t p = foldPath t q
  | .rename q r => foldPath t p = foldPath t q ∨ foldPath t p = foldPath t r
  | _ => False

/-- A program changes services and boot settings. -/
theorem command_frame (m : Host) (cmd : String) (args : List String) :
    ∃ services bcd, m.command cmd args = { m with services := services, bcd := bcd } := by
  unfold Host.command
  split <;> exact ⟨_, _, rfl⟩

/-- **What a call changes**: the files it writes, the debugger of an image, one filter list, services
and boot settings. -/
theorem answer_frame (o : Outcome) (c : Call) (m : Host) :
    ∃ disk services bcd debugger filterList, (m.answer t o c).2 =
      { m with disk := disk, services := services, bcd := bcd, debugger := debugger, filterList := filterList } ∧
      (∀ p, ¬ c.Writes t p → Disk.find t disk p = Disk.find t m.disk p) ∧
      ((∀ img name value, c ≠ .setStringValue img name value) → debugger = m.debugger) ∧
      ((∀ iface ty nets, c ≠ .wlanSetFilterList iface ty nets) → filterList = m.filterList) := by
  have hsame : ∃ disk services bcd debugger filterList, m =
      { m with disk := disk, services := services, bcd := bcd, debugger := debugger, filterList := filterList } ∧
      (∀ p, ¬ c.Writes t p → Disk.find t disk p = Disk.find t m.disk p) ∧
      ((∀ img name value, c ≠ .setStringValue img name value) → debugger = m.debugger) ∧
      ((∀ iface ty nets, c ≠ .wlanSetFilterList iface ty nets) → filterList = m.filterList) :=
    ⟨_, _, _, _, _, rfl, fun _ _ => rfl, fun _ => rfl, fun _ => rfl⟩
  cases c with
  | run cmd args =>
    simp only [Host.answer]
    split
    · exact hsame
    · obtain ⟨services, bcd, hm⟩ := command_frame m cmd args
      exact ⟨m.disk, services, bcd, m.debugger, m.filterList, hm, fun _ _ => rfl, fun _ => rfl, fun _ => rfl⟩
  | create q =>
    simp only [Host.answer]
    split
    · exact hsame
    · exact ⟨_, _, _, _, _, rfl, fun p hp => find_put_of_ne hp _, fun _ => rfl, fun _ => rfl⟩
  | copy src q =>
    simp only [Host.answer]
    split
    · exact hsame
    · exact ⟨_, _, _, _, _, rfl, fun p hp => find_put_of_ne hp _, fun _ => rfl, fun _ => rfl⟩
  | rename q r =>
    simp only [Host.answer]
    split
    · exact hsame
    · split
      · exact hsame
      · refine ⟨_, _, _, _, _, rfl, fun p hp => ?_, fun _ => rfl, fun _ => rfl⟩
        exact (find_put_of_ne (fun h => hp (Or.inr h)) _).trans (find_erase_of_ne (fun h => hp (Or.inl h)) _)
  | setStringValue img name value =>
    simp only [Host.answer]
    split
    · exact hsame
    · exact ⟨_, _, _, _, _, rfl, fun _ _ => rfl, fun h => absurd rfl (h img name value), fun _ => rfl⟩
  | wlanSetFilterList iface ty nets =>
    simp only [Host.answer]
    split
    · exact hsame
    · exact ⟨_, _, _, _, _, rfl, fun _ _ => rfl, fun _ => rfl, fun h => absurd rfl (h iface ty nets)⟩
  | _ => exact hsame

theorem answer_find {c : Call} {p : List Name} (o : Outcome) (m : Host) (hc : ¬ c.Writes t p) :
    Disk.find t (m.answer t o c).2.disk p = Disk.find t m.disk p := by
  obtain ⟨disk, _, _, _, _, hm, hfind, -, -⟩ := answer_frame o c m
  rw [hm]
  exact hfind p hc

theorem answer_debugger {c : Call} (o : Outcome) (m : Host)
    (hc : ∀ img name value, c ≠ .setStringValue img name value) : (m.answer t o c).2.debugger = m.debugger := by
  obtain ⟨_, _, _, debugger, _, hm, -, hdebugger, -⟩ := answer_frame o c m
  rw [hm]
  exact hdebugger hc

theorem answer_filterList {c : Call} (o : Outcome) (m : Host)
    (hc : ∀ iface ty nets, c ≠ .wlanSetFilterList iface ty nets) : (m.answer t o c).2.filterList = m.filterList := by
  obtain ⟨_, _, _, _, filterList, hm, -, -, hlist⟩ := answer_frame o c m
  rw [hm]
  exact hlist hc

theorem answer_fixed (o : Outcome) (c : Call) (m : Host) :
    (m.answer t o c).2.exe = m.exe ∧ (m.answer t o c).2.interfaces = m.interfaces := by
  obtain ⟨_, _, _, _, _, hm, -⟩ := answer_frame o c m
  rw [hm]
  exact ⟨rfl, rfl⟩

/-! ## Copies -/

theorem makes_call {c : Call} {P : Call → Prop} (hc : P c) : (Call.perform c).Makes P := Prog.makes_perform hc

theorem makes_orReturn {α β : Type} {P : Call → Prop} {x : Go (Except GoError α)} {f : α → Go (Except GoError β)}
    (hx : x.Makes P) (hf : ∀ a, (f a).Makes P) : (x.orReturn f).Makes P := by
  refine Prog.makes_bind hx fun r => ?_
  cases r with
  | error e => exact Prog.makes_pure _
  | ok a => exact hf a

theorem copyFile_makes (src dst : List Name) : (copyFile src dst).Makes fun c =>
    c = .openRead src ∨ c = .mkdirAll dst.dropLast ∨ c = .create dst ∨ c = .copy src dst := by
  refine makes_orReturn (Prog.makes_bind (makes_call (Or.inl rfl)) fun _ => Prog.makes_pure _) fun _ => ?_
  refine makes_orReturn (Prog.makes_bind (makes_call (Or.inr (Or.inl rfl))) fun _ => Prog.makes_pure _) fun _ => ?_
  refine makes_orReturn (Prog.makes_bind (makes_call (Or.inr (Or.inr (Or.inl rfl)))) fun _ => Prog.makes_pure _)
    fun _ => ?_
  exact Prog.makes_bind (makes_call (Or.inr (Or.inr (Or.inr rfl)))) fun _ => Prog.makes_pure _

/-- None of the four steps of a copy fails. -/
def CopySucceeds (env : Call → Outcome) (src dst : List Name) : Prop :=
  (env (.openRead src)).fails = false ∧ (env (.mkdirAll dst.dropLast)).fails = false ∧
    (env (.create dst)).fails = false ∧ (env (.copy src dst)).fails = false

theorem run_osOpen (p : List Name) (m : Host) : (osOpen p).run (onHost t env) m =
    (orFail (.openRead p) (!(env (.openRead p)).fails && (Disk.find t m.disk p).isSome), m) := rfl

theorem run_osMkdirAll (p : List Name) (m : Host) : (osMkdirAll p).run (onHost t env) m =
    (orFail (.mkdirAll p) !(env (.mkdirAll p)).fails, m) := rfl

theorem run_osCreate (p : List Name) (m : Host) : (osCreate p).run (onHost t env) m =
    (orFail (.create p) !(env (.create p)).fails, ((onHost t env) (.create p) m).2) := rfl

theorem run_ioCopy (src dst : List Name) (m : Host) : (ioCopy src dst).run (onHost t env) m =
    (orFail (.copy src dst) ((onHost t env) (.copy src dst) m).1, ((onHost t env) (.copy src dst) m).2) := rfl

section
variable {src dst : List Name} {data : Bytes} {m : Host}

/-- A copy whose steps do not fail. -/
theorem copyFile_run (hne : foldPath t src ≠ foldPath t dst) (hsrc : Disk.find t m.disk src = some data)
    (hok : CopySucceeds env src dst) : (copyFile src dst).run (onHost t env) m =
      (.ok (), { m with disk := Disk.put t (Disk.put t m.disk dst []) dst data }) := by
  obtain ⟨hopen, hdir, hcreate, hcopy⟩ := hok
  rw [copyFile, run_orReturn, run_osOpen]
  simp only [hopen, hsrc, orFail, Option.isSome_some, Bool.not_false, Bool.and_self, if_true]
  rw [run_orReturn, run_osMkdirAll]
  simp only [hdir, orFail, Bool.not_false, if_true]
  rw [run_orReturn, run_osCreate]
  simp only [hcreate, orFail, Bool.not_false, if_true]
  rw [run_ioCopy]
  simp [onHost, Host.answer, hcreate, hcopy, find_put_of_ne hne, hsrc, orFail]

/-- A copy one of whose steps fails, or that finds nothing to copy. -/
theorem copyFile_error (hbad : ¬ CopySucceeds env src dst ∨ Disk.find t m.disk src = none) :
    ∃ e, ((copyFile src dst).run (onHost t env) m).1 = .error e := by
  unfold CopySucceeds at hbad
  rw [copyFile, run_orReturn, run_osOpen]
  cases hopen : (env (.openRead src)).fails with
  | true => exact ⟨_, rfl⟩
  | false =>
    cases hsrc : Disk.find t m.disk src with
    | none => exact ⟨_, rfl⟩
    | some data =>
      simp only [hopen, hsrc, true_and, reduceCtorEq, or_false] at hbad
      simp only [orFail, Option.isSome_some, Bool.not_false, Bool.and_self, if_true]
      rw [run_orReturn, run_osMkdirAll]
      cases hdir : (env (.mkdirAll dst.dropLast)).fails with
      | true => exact ⟨_, rfl⟩
      | false =>
        simp only [orFail, Bool.not_false, if_true]
        rw [run_orReturn, run_osCreate]
        cases hcreate : (env (.create dst)).fails with
        | true => exact ⟨_, rfl⟩
        | false =>
          simp only [hdir, hcreate, true_and, Bool.not_eq_false] at hbad
          simp only [orFail, Bool.not_false, if_true]
          rw [run_ioCopy]
          simp only [onHost, Host.answer]
          split
          · exact ⟨_, rfl⟩
          · simp [hbad, orFail]

/-- A copy that ends without an error has put the file there. -/
theorem copyFile_puts (hne : foldPath t src ≠ foldPath t dst)
    (hok : ((copyFile src dst).run (onHost t env) m).1 = .ok ()) :
    ∃ data, Disk.find t m.disk src = some data ∧
      Disk.find t ((copyFile src dst).run (onHost t env) m).2.disk dst = some data := by
  by_cases hbad : ¬ CopySucceeds env src dst ∨ Disk.find t m.disk src = none
  · obtain ⟨e, he⟩ := copyFile_error hbad
    rw [he] at hok
    cases hok
  · rw [not_or, Classical.not_not] at hbad
    obtain ⟨data, hsrc⟩ := Option.ne_none_iff_exists'.1 hbad.2
    refine ⟨data, hsrc, ?_⟩
    rw [copyFile_run hne hsrc hbad.1]
    exact find_put_self _

end

end

end Lockguard
