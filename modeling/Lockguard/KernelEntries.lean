import Lockguard.KernelDiscipline
/-!
# The driver as the kernel enters it

| here | there |
| --- | --- |
| `Entry`                   | the requests to the device, and the callbacks the driver has registered |
| `Entry.keptRules`         | the rules of the kernel under which all calls of an entry may be made |
| `Serves`                  | entry after entry, each call answered as the kernel may |

`nothing_left_behind` is what holds of every such run, and `serves_refines` says that it is one of the state machine of
`Driver`. Two calls are made where they may not be (`registry_strays`, `write_compares`): `LgFreeKeyName` releases a
name that nobody handed out, and the paths of files are compared, and refusals printed, at `APC_LEVEL`.
-/
namespace Lockguard.Ke

open Calls Prog

section
variable {hmac : Hmac} {t : CaseTables} {rules : Rules} {s : Machine}

/-! ## Entry points -/

/-- How the driver is entered. Of `Argument2` of a notification, whether there is information, and an object in it. -/
inductive Entry where
  | ioctl (code : ULONG) (irp : Irp)
  | registry (argument1 : Nat) (argument2 : Option Bool)
  | create (p : CreateParameters)
  | setInformation (klass : Nat)
  | write
  | process (info : Option CreateNotifyInfo)
  | processHandle (isProcess kernelHandle : Bool) (operation : ObOperation) (desiredAccess : ACCESS_MASK)
  | filterUnload

/-- The entry an event of `Driver` is an account of. -/
def entryOf : Event → Entry
  | .ioctl code irp _ => .ioctl code irp
  | .registry n _ => .registry n.argument1 (n.argument2.map fun info => info.object.isSome)
  | .create p _ _ => .create p
  | .setInformation klass _ _ => .setInformation klass
  | .write _ _ => .write
  | .process info _ => .process info
  | .processHandle info _ => .processHandle info.isProcess info.kernelHandle info.operation info.desiredAccess
  | .filterUnload _ => .filterUnload

theorem entryOf_notification (argument1 : Nat) (argument2 : Option Bool) (obj : KeyObject) (now : SysTime) :
    entryOf (.registry (notificationOf argument1 argument2 obj) now) = .registry argument1 argument2 := by
  rcases argument2 with _ | _ | _ <;> rfl

def Entry.routine (t : CaseTables) : Entry → Routine Answer
  | .ioctl code irp => do let r ← lgDispatchDeviceControl code irp; pure (.ioctl r)
  | .registry argument1 argument2 => do let r ← lgRegistryCallback argument1 argument2; pure (.registry r)
  | .create p => do let r ← lgPreCreate p; pure (.file r)
  | .setInformation klass => do let r ← lgPreSetInformation klass; pure (.file r)
  | .write => do let r ← lgPreWrite; pure (.file r)
  | .process info => do let r ← lgProcessNotifyEx t info; pure (.process r)
  | .processHandle isProcess kernelHandle operation desiredAccess => do
    let r ← lgPreProcessHandle t isProcess kernelHandle operation desiredAccess
    pure (.processHandle r)
  | .filterUnload => do let r ← lgUnloadGuard; pure (.filterUnload r)

/-- The highest IRQL the kernel enters the driver at. -/
def Entry.maxIrql : Entry → Nat
  | .create _ | .setInformation _ | .write => apcLevel
  | _ => passiveLevel

def Entry.isRegistry : Entry → Bool
  | .registry _ _ => true
  | _ => false

/-- What an entry asks of the kernel at this IRQL: that text may be compared and printed there, and a registry
notification that it may release what nobody has handed out. -/
def Entry.keptRules (e : Entry) (irql : Nat) : Rules := ⟨irql, e.isRegistry⟩

/-- At `PASSIVE_LEVEL` only a registry notification asks for more than is documented. -/
theorem rules_documented {e : Entry} (h : e.isRegistry = false) : e.keptRules passiveLevel = .documented := by
  rw [Entry.keptRules, h]
  rfl

def Machine.atIrql (s : Machine) (irql : Nat) : Machine := { s with irql := irql }

/-- The machine when the driver is entered: a request to the device is there to be completed. -/
def Entry.arrives (irql : Nat) (s : Machine) : Entry → Machine
  | .ioctl _ _ => (s.atIrql irql).gets .irp
  | _ => s.atIrql irql

/-- The entry is served as `handle` serves some event it is an account of; a registry notification may leave a name. -/
def Entry.Served (hmac : Hmac) (t : CaseTables) (s : Machine) (e : Entry) (a : Answer) (s' : Machine) : Prop :=
  ∃ ev names, entryOf ev = e ∧ names.length ≤ (if e.isRegistry then 1 else 0) ∧
    a = (handle hmac t s.driver ev).value ∧ s' = (s.runs (handle hmac t s.driver ev).driver).leaves names

theorem served_of_event (hmac : Hmac) (t : CaseTables) (s : Machine) {e : Entry} (ev : Event) (he : entryOf ev = e) :
    e.Served hmac t s (handle hmac t s.driver ev).value (s.runs (handle hmac t s.driver ev).driver) :=
  ⟨ev, [], he, Nat.zero_le _, rfl, rfl⟩

theorem file_served {e : Entry} {x : Routine PreOp} {f : FileNameQuery → SysTime → Driver → Reply PreOp}
    (v : FileNameQuery → SysTime → Event) (hv : ∀ q now, entryOf (v q now) = e)
    (hf : ∀ q now d, handle hmac t d (v q now) = (f q now d).map .file)
    (hx : x.wp (contract hmac t rules) (fun r s' => ∃ q now, r = (f q now s.driver).value ∧
      s' = s.runs (f q now s.driver).driver) s) :
    (do let r ← x; pure (Answer.file r) : Routine Answer).wp (contract hmac t rules) (e.Served hmac t s) s := by
  refine wp_seq hx ?_
  rintro r _ ⟨q, now, rfl, rfl⟩
  have hserved := served_of_event hmac t s (v q now) (hv q now)
  rw [hf] at hserved
  exact hserved

/-- Those of the file callbacks that look at the name of some requests only. -/
theorem guardedFile_wp (hirql : s.irql ≤ apcLevel) (htext : s.irql ≤ rules.text) (hheld : s.held = none)
    (reason : List WCHAR) (skip : Bool) :
    (if skip then pure .successNoCallback else guardFile reason).wp (contract hmac t rules) (fun r s' => ∃ q now,
      r = ((if skip then ⟨.successNoCallback, s.driver, []⟩ else Lockguard.guardFile t q now s.driver) : Reply PreOp).value ∧
        s' = s.runs ((if skip then ⟨.successNoCallback, s.driver, []⟩
          else Lockguard.guardFile t q now s.driver) : Reply PreOp).driver) s := by
  cases skip with
  | true => exact ⟨⟨statusNotFound, none⟩, .zero, rfl, rfl⟩
  | false => exact guardFile_wp hirql htext hheld reason

/-- **One entry**: every call may be made, and what is done is what `handle` does. -/
theorem entry_wp (hheld : s.held = none) (t : CaseTables) {irql : Nat} {e : Entry} (hirql : irql ≤ e.maxIrql) :
    (e.routine t).wp (contract hmac t (e.keptRules irql)) (e.Served hmac t (s.atIrql irql)) (e.arrives irql s) := by
  have htext : (s.atIrql irql).irql ≤ (e.keptRules irql).text := Nat.le_refl irql
  cases e with
  | ioctl code irp =>
    refine wp_seq (lgDispatchDeviceControl_wp (s := s.atIrql irql) (Nat.le_zero.1 hirql) hheld code irp) ?_
    rintro r _ ⟨k, rfl, rfl⟩
    exact served_of_event hmac t _ (.ioctl code irp k) rfl
  | registry argument1 argument2 =>
    refine wp_seq (lgRegistryCallback_wp (s := s.atIrql irql) (Nat.le_zero.1 hirql) hheld rfl argument1 argument2) ?_
    rintro r _ ⟨names, obj, now, hnames, rfl, rfl⟩
    exact ⟨.registry (notificationOf argument1 argument2 obj) now, names, entryOf_notification .., hnames, rfl, rfl⟩
  | create p =>
    exact file_served (.create p) (fun _ _ => rfl) (fun _ _ _ => rfl) (guardedFile_wp hirql htext hheld _ _)
  | setInformation klass =>
    exact file_served (.setInformation klass) (fun _ _ => rfl) (fun _ _ _ => rfl) (guardedFile_wp hirql htext hheld _ _)
  | write => exact file_served .write (fun _ _ => rfl) (fun _ _ _ => rfl) (guardFile_wp hirql htext hheld _)
  | process info =>
    refine wp_seq (lgProcessNotifyEx_wp (s := s.atIrql irql) (Nat.le_zero.1 hirql) hheld t info) ?_
    rintro r _ ⟨now, rfl, rfl⟩
    exact served_of_event hmac t _ (.process info now) rfl
  | processHandle isProcess kernelHandle operation desiredAccess =>
    refine wp_seq (lgPreProcessHandle_wp (s := s.atIrql irql) (Nat.le_zero.1 hirql) hheld t _ _ _ _) ?_
    rintro r _ ⟨target, now, rfl, rfl⟩
    exact served_of_event hmac t _ (.processHandle ⟨_, _, _, target, _⟩ now) rfl
  | filterUnload =>
    refine wp_seq (unlessPermissive_wp (Nat.le_trans hirql (Nat.zero_le _)) htext hheld _ _ _) ?_
    rintro r _ ⟨now, rfl, rfl⟩
    exact served_of_event hmac t _ (.filterUnload now) rfl

/-! ## Runs -/

/-- Entry after entry, each at an IRQL the driver may be entered at, and answered so. -/
inductive Serves (hmac : Hmac) (t : CaseTables) : Machine → List (Entry × Answer) → Machine → Prop
  | nil (s : Machine) : Serves hmac t s [] s
  | cons {s u s' : Machine} {irql : Nat} {e : Entry} {a : Answer} {rest : List (Entry × Answer)} :
    irql ≤ e.maxIrql → (e.routine t).Gives (contract hmac t .documented) (e.arrives irql s) a u →
      Serves hmac t u rest s' → Serves hmac t s ((e, a) :: rest) s'

/-- What comes of an entry does not depend on the rules. -/
theorem entry_served {t : CaseTables} {s u : Machine} {irql : Nat} {e : Entry} {a : Answer} (hheld : s.held = none)
    (hirql : irql ≤ e.maxIrql) (hgives : (e.routine t).Gives (contract hmac t .documented) (e.arrives irql s) a u) :
    e.Served hmac t (s.atIrql irql) a u := by
  have hkept : (e.routine t).Gives (contract hmac t (e.keptRules irql)) (e.arrives irql s) a u :=
    (gives_congr (by rfl)).1 hgives
  exact wp_sound (entry_wp hheld t hirql) hkept

theorem Serves.quiet {t : CaseTables} {s s' : Machine} {served : List (Entry × Answer)} (h : Serves hmac t s served s')
    (hheld : s.held = none) : s'.held = none ∧ ∃ names : List Nat, s'.objects = names.map .keyName ++ s.objects ∧
      names.length ≤ served.countP fun x => x.1.isRegistry := by
  induction h with
  | nil s => exact ⟨hheld, [], rfl, Nat.le_refl _⟩
  | cons hirql hgives hrest ih =>
    obtain ⟨ev, names, -, hnames, -, rfl⟩ := entry_served hheld hirql hgives
    obtain ⟨hheld', rest, hobjects, hcount⟩ := ih hheld
    refine ⟨hheld', rest ++ names, ?_, ?_⟩
    · rw [hobjects, List.map_append, List.append_assoc]
      rfl
    · simp only [List.length_append, List.countP_cons]
      omega

/-- **Nothing is left behind but names of keys, and nothing is called that may not be.** Whatever the kernel answers,
and whatever the driver is entered for in between, each entry but a registry notification makes every call at
`PASSIVE_LEVEL` as it may be made, with the lock or the object it needs. At a higher IRQL, and in a registry
notification, there are two exceptions: text is compared and printed at the IRQL of the entry, and the notification
releases what nobody handed out. When the run is over no spin lock is held, and all that was handed out
has been given back, but for at most one name for each registry notification. -/
theorem nothing_left_behind (t : CaseTables) {s s' : Machine} {served : List (Entry × Answer)} (hheld : s.held = none)
    (h : Serves hmac t s served s') : s'.held = none ∧
      (∃ names : List Nat, s'.objects = names.map .keyName ++ s.objects ∧
        names.length ≤ served.countP fun x => x.1.isRegistry) ∧
      (∀ e : Entry, e.isRegistry = false → (e.routine t).Safe (contract hmac t .documented) (e.arrives passiveLevel s')) ∧
      (∀ (e : Entry) (irql : Nat), irql ≤ e.maxIrql →
        (e.routine t).Safe (contract hmac t (e.keptRules irql)) (e.arrives irql s')) ∧
      ∀ irql ≤ dispatchLevel, lgDispatchCreateClose.wp (contract hmac t .documented) (fun _ u => u = s'.atIrql irql)
        ((s'.atIrql irql).gets .irp) := by
  obtain ⟨hheld', hobjects⟩ := h.quiet hheld
  refine ⟨hheld', hobjects, fun e he => ?_, fun e irql hirql => Safe.of_wp (entry_wp hheld' t hirql), fun irql hirql => ?_⟩
  · rw [← rules_documented he]
    exact Safe.of_wp (entry_wp hheld' t (Nat.zero_le e.maxIrql))
  · exact wp_mono (lgDispatchCreateClose_wp (s := s'.atIrql irql) hirql) fun _ _ hend => hend.2

/-- **Refinement, over runs.** The answers and the globals of every run are those of a run of `handle` on
events the entries are accounts of. -/
theorem serves_refines (t : CaseTables) {s s' : Machine} {served : List (Entry × Answer)} (hheld : s.held = none)
    (h : Serves hmac t s served s') : ∃ es : List Event, es.map entryOf = served.map Prod.fst ∧
      (Runs.turns (driverStep hmac t) s.driver es).map (fun x => (handle hmac t x.before x.event).value) =
        served.map Prod.snd ∧
      s'.driver = Runs.final (driverStep hmac t) s.driver es := by
  induction h with
  | nil s => exact ⟨[], rfl, rfl, rfl⟩
  | cons hirql hgives hrest ih =>
    obtain ⟨ev, names, hev, -, ha, rfl⟩ := entry_served hheld hirql hgives
    obtain ⟨es, hentries, hanswers, hfinal⟩ := ih hheld
    refine ⟨ev :: es, ?_, ?_, ?_⟩
    · rw [List.map_cons, hev, hentries]
      rfl
    · rw [Runs.turns, List.map_cons, List.map_cons]
      exact List.cons_eq_cons.2 ⟨ha.symm, hanswers⟩
    · rw [Runs.final_cons]
      exact hfinal

/-! ## The two exceptions -/

/-- A name shorter than every prefix is compared with none. -/
theorem keyNameMatches_short {name : UnicodeString} (h : name.length = 0) : lgKeyNameMatchesAny (some name) = pure false := by
  have hlong : (gProtectedPrefixes.all fun p => decide ((0 : UInt16) < (rtlInitUnicodeString p).length)) = true := by
    decide +kernel
  have hnone : ∀ p ∈ gProtectedPrefixes, keyNameStartsWith name (rtlInitUnicodeString p) = pure false := fun p hp =>
    if_pos (h ▸ of_decide_eq_true (List.all_eq_true.1 hlong p hp))
  have hsearch : ∀ l ⊆ gProtectedPrefixes,
      (l.anyM fun pfx => keyNameStartsWith name (rtlInitUnicodeString pfx)) = (pure false : Routine Bool) := by
    intro l hl
    induction l with
    | nil => rfl
    | cons p l ih =>
      rw [List.anyM, hnone p (hl List.mem_cons_self)]
      exact ih fun q hq => hl (List.mem_cons_of_mem p hq)
  exact hsearch _ (List.Subset.refl _)

/-- **A registry notification can make a call that may not be made**: where the kernel hands out a name, `LgFreeKeyName`
releases the callback's own copy. -/
theorem registry_strays (t : CaseTables) (s : Machine) {klass : Nat} (hclass : (regReason klass).isSome = true)
    (hklass : klass ≠ 0) : ¬ ((Entry.registry klass (some true)).routine t).Safe (contract hmac t .documented)
      ((Entry.registry klass (some true)).arrives passiveLevel s) := by
  obtain ⟨reason, hreason⟩ := Option.isSome_iff_exists.1 hclass
  intro hsafe
  obtain ⟨name, hshort⟩ : ∃ name : UnicodeString, name.length = 0 := ⟨rtlInitUnicodeString [], by decide⟩
  have hhanded : handsOutName (s.atIrql passiveLevel) .keyName (statusSuccess, some (0, some name))
      ((s.atIrql passiveLevel).gets (.keyName 0)) := ⟨ntSuccess_success, rfl⟩
  have hpost : (contract hmac t .documented).post (.cmCallbackGetKeyObjectIDEx true) (s.atIrql passiveLevel)
      (statusSuccess, some (0, some name)) ((s.atIrql passiveLevel).gets (.keyName 0)) := hhanded
  simp only [Safe, Entry.routine, lgRegistryCallback, if_neg hklass, hreason, ne_eq, not_true_eq_false, if_false,
    lgResolveKeyName, wp_bind, wp_perform] at hsafe
  obtain ⟨-, hprobed⟩ := hsafe
  have hprobed := hprobed (statusSuccess, none) (s.atIrql passiveLevel) ⟨rfl, rfl⟩
  have hnamed := hprobed.2 _ _ hpost
  simp only [ntSuccess_success, Bool.not_true, Bool.false_eq_true, if_false, wp_pure, keyNameMatches_short hshort,
    lgFreeKeyName, Option.isSome_some, if_true] at hnamed
  rw [wp_bind, wp_pure, wp_call] at hnamed
  exact Bool.false_ne_true hnamed.1.2

/-- **A write can make one at `APC_LEVEL`**: the path is compared there, once it is as long as a protected place. -/
theorem write_compares (t : CaseTables) (s : Machine) :
    ¬ (Entry.write.routine t).Safe (contract hmac t .documented) (Entry.write.arrives apcLevel s) := by
  intro hsafe
  obtain ⟨needle, rest, hsuffixes⟩ : ∃ needle rest, gProtectedSuffixes = needle :: rest := ⟨_, _, rfl⟩
  have hlong : (gProtectedSuffixes.all fun p => ((rtlInitUnicodeString p).window 0 (rtlInitUnicodeString p).length).isSome) = true := by
    decide +kernel
  simp only [Safe, Entry.routine, lgPreWrite, guardFile, lgPathMatches, wp_bind, wp_perform] at hsafe
  have hnamed := hsafe.2 (statusSuccess, some (0, rtlInitUnicodeString needle)) _ ⟨ntSuccess_success, rfl⟩
  simp only [ntSuccess_success, Bool.not_true, Bool.false_eq_true, if_false, wp_bind] at hnamed
  have hparsed := (wp_pure ..).1 (hnamed.2 () _ rfl)
  obtain ⟨window, hwindow⟩ := Option.isSome_iff_exists.1 (List.all_eq_true.1 hlong needle (by simp [hsuffixes]))
  have hlast : (0 : UInt16) ≤ ((rtlInitUnicodeString needle).length - (rtlInitUnicodeString needle).length) / 2 :=
    UInt16.le_iff_toNat_le.2 (Nat.zero_le _)
  simp only [hsuffixes, List.anyM, wp_bind, nameContains, UInt16.lt_irrefl, if_false] at hparsed
  rw [show (65536 : Nat) = 65535 + 1 from rfl, scanWindows, if_pos hlast, hwindow, wp_bind] at hparsed
  have hirql : apcLevel ≤ passiveLevel := hparsed.1.1
  exact absurd hirql (by decide)

end

namespace Worked

open Lockguard.Worked

/-- Every call succeeds. The file is in a protected place, the process is `services.exe`, the key is one of nobody's. -/
def answers : Handler Call Call.Ret Machine
  | .keGetCurrentIrql, s => (s.irql, s)
  | .keQuerySystemTime, s => (time 0, s)
  | .keAcquireSpinLock lock, s => (s.irql, s.acquires lock)
  | .keReleaseSpinLock _ irql, s => ((), s.releases irql)
  | .dbgPrint _, s => ((), s)
  | .rtlEqualUnicodeString a b, s => (rtlEqualUnicodeString .ascii a b, s)
  | .bCryptGenRandom, s => (⟨statusSuccess, nonce⟩, s)
  | .bCryptOpenAlgorithmProvider, s => ((statusSuccess, 1), s.gets (.algorithm 1))
  | .bCryptCreateHash _ key, s => ((statusSuccess, 2), s.gets (.hash 2 key []))
  | .bCryptHashData _ data, s => (statusSuccess, s.hashes data)
  | .bCryptFinishHash _, s =>
    ((statusSuccess, match s.objects.head? with
      | some (.hash _ key data) => hmac key data
      | _ => zero32), s)
  | .zwOpenKey, s => ((statusSuccess, 3), s.gets (.key 3))
  | .zwQueryValueKey _ name, s =>
    (if name = "InstallSalt" then reads.installSalt else if name = "Iterations" then reads.iterations else reads.verifier, s)
  | .fltGetFileNameInformation, s =>
    ((statusSuccess, some (4, rtlInitUnicodeString (wide "\\ProgramData\\Lockguard\\policy"))), s.gets (.fileName 4))
  | .fltParseFileNameInformation _, s => ((), s)
  | .cmCallbackGetKeyObjectIDEx named, s =>
    if named then ((statusSuccess, some (5, some (rtlInitUnicodeString (wide "\\Registry\\Machine")))), s.gets (.keyName 5))
    else ((statusSuccess, none), s)
  | .cmCallbackReleaseKeyObjectIDEx p, s => ((), if p = .fullName then s else s.givesBack)
  | .psLookupProcessByProcessId, s => ((statusSuccess, 6), s.gets (.process 6))
  | .seLocateProcessImageName _, s =>
    ((statusSuccess, some (7, rtlInitUnicodeString (wide "\\Windows\\System32\\services.exe"))), s.gets (.pool 7))
  | .readNonce, s => (s.driver.nonce, s)
  | .writeNonce slot, s => ((), s.runs { s.driver with nonce := slot })
  | .readWindow, s => (s.driver.window, s)
  | .writeWindow w, s => ((), s.runs { s.driver with window := w })
  | .readRecovery, s => (s.driver.recovery, s)
  | .writeRecovery r, s => ((), s.keeps r)
  | .interlockedCompareExchangeLastRetry value comparand, s =>
    (s.driver.recovery.gVerifierLastRetry, if s.driver.recovery.gVerifierLastRetry = comparand then
      s.keeps { s.driver.recovery with gVerifierLastRetry := value } else s)
  | .readCounters, s => ((s.driver.gTamperCount, s.driver.gLastHeartbeat), s)
  | .interlockedIncrementTamperCount, s => ((), s.runs (Lockguard.lgRecordTamperEvent s.driver))
  | .interlockedExchangeHeartbeat time, s => ((), s.runs { s.driver with gLastHeartbeat := time })
  | .ioCompleteRequest, s | .bCryptDestroyHash _, s | .bCryptCloseAlgorithmProvider _, s | .zwClose _, s
  | .fltReleaseFileNameInformation _, s | .exFreePool _, s | .obDereferenceObject _, s => ((), s.givesBack)

theorem answers_post (op : Call) (s : Machine) : (contract hmac .ascii .documented).post op s (answers op s).1 (answers op s).2 := by
  cases op with
  | bCryptFinishHash hHash =>
    refine ⟨rfl, fun _ h key data hhead => ?_⟩
    simp only [answers, hhead]
  | cmCallbackGetKeyObjectIDEx named => cases named <;> exact ⟨rfl, rfl⟩
  | _ => first | rfl | exact ⟨rfl, rfl⟩ | exact ⟨Nat.succ_ne_zero _, rfl⟩

/-- The entries, one after the other at `PASSIVE_LEVEL`. -/
def serve : Machine → List Entry → List (Entry × Answer) × Machine
  | s, [] => ([], s)
  | s, e :: es =>
    let r := (e.routine .ascii).run answers (e.arrives passiveLevel s)
    ((e, r.1) :: (serve r.2 es).1, (serve r.2 es).2)

theorem serve_serves (s : Machine) (es : List Entry) : Serves hmac .ascii s (serve s es).1 (serve s es).2 := by
  induction es generalizing s with
  | nil => exact .nil s
  | cons e es ih => exact .cons (Nat.zero_le _) (run_gives answers_post _ _) (ih _)

/-- The machine once the driver is loaded, without the record. -/
def loaded : Machine := ⟨passiveLevel, none, [], driverEntry quietReads⟩

/-- A handle to a process, a write and a detach, all refused, then an unlock, and a value set with the window open. -/
def session : List Entry :=
  [.processHandle true false .handleCreate 0x1, .write, .filterUnload, .ioctl lgIoctlGetNonce nonceIrp,
    .ioctl lgIoctlUnlock unlockIrp, .registry regNtPreSetValueKey (some true)]

/-- What is answered, for a handle whether its access was stripped. -/
def code : Answer → NTSTATUS
  | .ioctl r => r.1
  | .registry status | .filterUnload status => status
  | .file .successNoCallback => statusSuccess
  | .file (.complete status) => status
  | .process status => status.getD statusSuccess
  | .processHandle access => if access = 0 then statusAccessDenied else statusSuccess

theorem session_served : (serve loaded session).1.map (fun x => code x.2) =
      [statusAccessDenied, statusAccessDenied, statusFltDoNotDetach, statusSuccess, statusSuccess, statusSuccess] ∧
    (serve loaded session).2.objects = [.keyName 5] ∧
    (serve loaded session).2.driver.window.gPermissive = true := by
  decide +kernel

end Worked

theorem nothing_left_behind_session : (Worked.serve Worked.loaded Worked.session).2.held = none ∧
    (∃ names : List Nat, (Worked.serve Worked.loaded Worked.session).2.objects = names.map .keyName ∧ names.length ≤ 1) ∧
    (Entry.write.routine .ascii).Safe (contract Lockguard.Worked.hmac .ascii .documented)
      (Entry.write.arrives passiveLevel (Worked.serve Worked.loaded Worked.session).2) := by
  obtain ⟨hheld, ⟨names, hobjects, hcount⟩, hsafe, -⟩ :=
    nothing_left_behind .ascii (s := Worked.loaded) rfl (Worked.serve_serves Worked.loaded Worked.session)
  refine ⟨hheld, ⟨names, ?_, hcount⟩, hsafe .write rfl⟩
  rw [hobjects]
  exact List.append_nil _

theorem serves_refines_session : ∃ es : List Event, es.map entryOf = Worked.session ∧
    (Runs.turns (driverStep Lockguard.Worked.hmac .ascii) (driverEntry quietReads) es).map
      (fun x => Worked.code (handle Lockguard.Worked.hmac .ascii x.before x.event).value) =
        [statusAccessDenied, statusAccessDenied, statusFltDoNotDetach, statusSuccess, statusSuccess, statusSuccess] ∧
    (Runs.final (driverStep Lockguard.Worked.hmac .ascii) (driverEntry quietReads) es).window.gPermissive = true := by
  obtain ⟨es, hentries, hanswers, hfinal⟩ := serves_refines .ascii (s := Worked.loaded) rfl (Worked.serve_serves Worked.loaded Worked.session)
  obtain ⟨hcodes, -, hopen⟩ := Worked.session_served
  have hcoded := congrArg (List.map Worked.code) hanswers
  simp only [List.map_map] at hcoded
  refine ⟨es, hentries, hcoded.trans hcodes, ?_⟩
  exact (congrArg (fun d : Driver => d.window.gPermissive) hfinal).symm.trans hopen

end Lockguard.Ke
