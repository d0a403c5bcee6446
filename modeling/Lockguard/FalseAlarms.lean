import Lockguard.CheckCalls
import Lockguard.FileCalls
import Lockguard.FileTree
/-!
# Alarms the watchdog raises itself

A run of the driver in which, while the window is closed, only the watchdog acts: passes and
heartbeats in any number and order, and other parties that act inside the window or open it. What a
pass does is what may be seen of `enforceOnce` whatever its calls are answered, so a run covers every
state of the machine and every change of it between two calls.

| here | there |
| --- | --- |
| `Deed`            | what the driver sees of a call: a launch, what the program does, a registry or file request |
| `Call.Shows`      | what a call may show of itself |
| `WatchdogRun`     | the runs |
| `Step.Alarms`     | what the callbacks judge of a step |

`noFalseAlarms_iff`: the driver denies the watchdog nothing and records nothing exactly when no step
alarms. The comparison of the calls with the rules is `deed_guarded_iff`.
-/
namespace Lockguard

open Calls Runs

/-! ## Deeds -/

inductive Deed where
  | launch (cmd : String) (image : Option UnicodeString) (now : SysTime)
  | program (e : Event)
  | createKey (img : String) (info : Option RegKeyInformation) (now : SysTime)
  | setValue (img : String) (key : KeyObject) (now : SysTime)
  | file (e : FileEvent) (q : FileNameQuery) (now : SysTime)

def Deed.event : Deed → Event
  | .launch _ image now => .process (some ⟨image, statusSuccess⟩) now
  | .program e => e
  | .createKey _ info now => .registry ⟨regNtPreCreateKeyEx, info⟩ now
  | .setValue _ key now => .registry ⟨regNtPreSetValueKey, some ⟨some key⟩⟩ now
  | .file e q now => e.event q now

/-- What the kernel tells the driver of the deed is true: the image is one of the command's name, the
key the image's own below the IFEO key, the file the one the call is about. -/
def Deed.Genuine (t : CaseTables) (device : List WCHAR) : Deed → Prop
  | .launch cmd image _ => ∀ path, image = some path → ∃ dir, path.chars = dir ++ backslash :: wide cmd
  | .program e => e.IsDeed
  | .createKey _ _ _ => True
  | .setValue img key _ => ntSuccess key.status = true → ∀ name, key.name = some name →
      name.chars.map t.upcase = (lgIfeoKey ++ backslash :: wide img).map t.upcase
  | .file e q _ => e.Named t device q

def Deed.request : Deed → Option FileEvent
  | .file e _ _ => some e
  | _ => none

/-- The deeds a call may show: those of a program follow its launch, and a file call that breaks off
has made the first of its requests. -/
def Call.Shows (t : CaseTables) (device : List WCHAR) (c : Call) (ds : List Deed) : Prop :=
  (∀ x ∈ ds, x.Genuine t device) ∧ match c with
    | .run cmd _ => ds = [] ∨ ∃ image now deeds, ds = .launch cmd image now :: deeds ∧
        ∀ x ∈ deeds, ∃ e, x = .program e
    | .createKey img => ds = [] ∨ ∃ info now, ds = [.createKey img info now]
    | .setStringValue img _ _ => ds = [] ∨ ∃ key now, ds = [.setValue img key now]
    | c => ∃ size, ds.map Deed.request <+: (c.fileEvents size).map some

/-- What the callbacks judge of a deed: a launch of `bcdedit.exe`, what a program does to something
protected, a `Debugger` value on a key whose name can be had, a file request that asks for a
protected name. -/
def Deed.Trips (t : CaseTables) : Deed → Prop
  | .launch cmd image _ => cmd = "bcdedit.exe" ∧ image.isSome
  | .program e => e.Guarded t
  | .createKey _ _ _ => False
  | .setValue _ key _ => ntSuccess key.status = true ∧ key.name.isSome
  | .file e q _ => e.asks = true ∧ lgPathMatches t q = true

/-- A deed of the watchdog: one that is genuine, of the two programs it runs if it is a launch. -/
def Deed.IsWatchdog (t : CaseTables) (device : List WCHAR) (x : Deed) : Prop :=
  x.Genuine t device ∧ ∀ cmd image now, x = .launch cmd image now → cmd = "sc.exe" ∨ cmd = "bcdedit.exe"

section
variable {t : CaseTables} {device : List WCHAR}

/-- The watchdog runs two programs. -/
theorem isWatchdog_run {cmd : String} {args : List String} (hc : (Call.run cmd args).IsWatchdog) :
    cmd = "sc.exe" ∨ cmd = "bcdedit.exe" := by
  rcases hc with hprogram | hpolicy | hwlan | hifeo | hrepair
  · exact hprogram
  · simp [Call.IsPolicy, Call.IsCopy] at hpolicy
  · exact absurd hwlan id
  · exact absurd hifeo id
  · simp [Call.IsFileRepair, FilePair.Repairs, Call.IsCopy] at hrepair

/-- Every deed a call of the watchdog shows is one. -/
theorem shows_watchdog {c : Call} {ds : List Deed} (hc : c.IsWatchdog) (h : c.Shows t device ds) :
    ∀ x ∈ ds, x.IsWatchdog t device := by
  intro x hx
  refine ⟨h.1 x hx, ?_⟩
  rintro cmd image now rfl
  have hfile : ∀ c : Call, (∃ size, ds.map Deed.request <+: (c.fileEvents size).map some) → False := by
    rintro c ⟨size, hpre⟩
    have hmem := hpre.subset (List.mem_map_of_mem hx)
    simp [Deed.request] at hmem
  cases c with
  | run cmd' args =>
    rcases h.2 with rfl | ⟨image', now', deeds, rfl, hdeeds⟩
    · cases hx
    · rcases List.mem_cons.1 hx with heq | hx
      · cases heq
        exact isWatchdog_run hc
      · obtain ⟨e, he⟩ := hdeeds _ hx
        cases he
  | createKey img =>
    rcases h.2 with rfl | ⟨info, now', rfl⟩
    · cases hx
    · simp at hx
  | setStringValue img name value =>
    rcases h.2 with rfl | ⟨key, now', rfl⟩
    · cases hx
    · simp at hx
  | _ => exact absurd (hfile _ h.2) id

theorem deed_isDeed {x : Deed} (hx : x.Genuine t device) : x.event.IsDeed := by
  cases x with
  | launch cmd image now =>
    rintro i ⟨⟩
    exact (by decide : statusSuccess ≠ statusAccessDenied)
  | program e => exact hx
  | createKey img info now => exact trivial
  | setValue img key now => exact trivial
  | file e q now => exact fileEvent_isDeed

theorem bcdedit_blocked : wide "bcdedit.exe" ∈ gBlocked := by decide

theorem sc_not_blocked : ∀ name ∈ gBlocked, (wide "sc.exe").length ≠ name.length := by decide

/-- **The watchdog's deeds against the rules of the callbacks.** -/
theorem deed_guarded_iff {x : Deed} (hx : x.IsWatchdog t device) : x.event.Guarded t ↔ x.Trips t := by
  obtain ⟨hgenuine, hcommand⟩ := hx
  cases x with
  | launch cmd image now =>
    cases image with
    | none =>
      refine iff_of_false ?_ fun h => by simpa using h.2
      rintro ⟨i, path, ⟨⟩, hp, -⟩
      cases hp
    | some path =>
      obtain ⟨dir, hchars⟩ := hgenuine path rfl
      have hguarded : (Deed.launch cmd (some path) now).event.Guarded t ↔ imageBlocked t path = true := by
        constructor
        · rintro ⟨i, path', ⟨⟩, ⟨⟩, hb⟩
          exact hb
        · exact fun hb => ⟨_, path, rfl, rfl, hb⟩
      rw [hguarded]
      rcases hcommand cmd (some path) now rfl with rfl | rfl
      · rw [imageBlocked_iff hchars (by decide)]
        refine iff_of_false ?_ fun h => absurd h.1 (by decide)
        rintro ⟨name, hname, hlen, -⟩
        exact sc_not_blocked name hname hlen
      · rw [imageBlocked_iff hchars (by decide)]
        exact iff_of_true ⟨_, bcdedit_blocked, rfl, rfl⟩ ⟨rfl, rfl⟩
  | program e => rfl
  | createKey img info now =>
    refine iff_of_false ?_ id
    rintro ⟨hclass, -⟩
    have hno : ¬ (regNtPreCreateKeyEx = regNtPreSetValueKey ∨ regNtPreCreateKeyEx = regNtPreDeleteValueKey ∨
        regNtPreCreateKeyEx = regNtPreRenameKey) := by decide
    exact hno hclass
  | setValue img key now =>
    constructor
    · rintro ⟨-, obj, ⟨⟩, hs, hm⟩
      refine ⟨hs, ?_⟩
      cases hname : key.name with
      | none => rw [hname] at hm; cases hm
      | some name => rfl
    · rintro ⟨hs, hsome⟩
      obtain ⟨name, hname⟩ := Option.isSome_iff_exists.1 hsome
      refine ⟨Or.inl rfl, key, rfl, hs, ?_⟩
      rw [hname, lgKeyNameMatchesAny_iff]
      refine ⟨lgIfeoKey, by simp [gProtectedPrefixes], ?_⟩
      rw [hgenuine hs name hname, List.map_append]
      exact List.prefix_append _ _
  | file e q now => exact fileEvent_guarded_iff

end

/-! ## Runs -/

inductive Step where
  | deed (x : Deed)
  | heartbeat (irp : Irp) (k : Kernel)
  | other (e : Event)

def Step.event : Step → Event
  | .deed x => x.event
  | .heartbeat irp k => .ioctl lgIoctlHeartbeat irp k
  | .other e => e

def Step.isOwn : Step → Bool
  | .deed _ | .heartbeat _ _ => true
  | .other _ => false

/-- What the watchdog does over time: whole passes and heartbeats. -/
inductive OwnSteps (t : CaseTables) (device : List WCHAR) (std : GoStd) : List Step → Prop
  | nil : OwnSteps t device std []
  | pass {ds steps} : (enforceOnce std).Seen (Call.Shows t device) ds → OwnSteps t device std steps →
      OwnSteps t device std (ds.map Step.deed ++ steps)
  | heartbeat {steps} (irp : Irp) (k : Kernel) : OwnSteps t device std steps →
      OwnSteps t device std (.heartbeat irp k :: steps)

def watchedStep (hmac : Hmac) (t : CaseTables) (d : Driver) (s : Step) : Driver := driverStep hmac t d s.event

/-- A run from any state of the driver. It may end in the middle of a pass; the others act inside the
window, which they open by its ioctls. -/
structure WatchdogRun (hmac : Hmac) (t : CaseTables) (device : List WCHAR) (std : GoStd) where
  start : Driver
  steps : List Step
  own : ∃ all, OwnSteps t device std all ∧ steps.filter Step.isOwn <+: all
  inside : ∀ x ∈ turns (watchedStep hmac t) start steps, ∀ e, x.event = .other e →
    (lgIsPermissive e.now x.before.window).1 = true ∨ ∃ code irp k, e = .ioctl code irp k

section
variable {hmac : Hmac} {t : CaseTables} {device : List WCHAR} {std : GoStd}

def WatchdogRun.turns (r : WatchdogRun hmac t device std) : List (Turn Driver Step) :=
  Runs.turns (watchedStep hmac t) r.start r.steps

/-- The driver lets the watchdog's step through. -/
def Allowed (hmac : Hmac) (t : CaseTables) (x : Turn Driver Step) : Prop :=
  match x.event with
  | .deed a => (handle hmac t x.before a.event).value.LetsThrough
  | .heartbeat irp k => (lgDispatchDeviceControl hmac lgIoctlHeartbeat irp k x.before).value.1 = statusSuccess
  | .other _ => True

/-- **No false alarm**: nothing the watchdog does is denied, and in every state reached the count of
tamper events is what it was at the start. -/
def WatchdogRun.Quiet (r : WatchdogRun hmac t device std) : Prop :=
  (∀ x ∈ r.turns, Allowed hmac t x) ∧ ∀ pre, pre <+: r.steps →
    (final (watchedStep hmac t) r.start pre).gTamperCount = r.start.gTamperCount

/-- The step raises an alarm: a deed of the watchdog that is judged while the window is closed, or a
bad unlock of another party. -/
def Alarms (hmac : Hmac) (t : CaseTables) (x : Turn Driver Step) : Prop :=
  match x.event with
  | .deed a => a.Trips t ∧ (lgIsPermissive a.event.now x.before.window).1 = false
  | .heartbeat _ _ => False
  | .other e => e.IsBadUnlock hmac x.before

/-- All of the watchdog's deeds are its own. -/
theorem ownSteps_watchdog {steps : List Step} (h : OwnSteps t device std steps) :
    ∀ x, .deed x ∈ steps → x.IsWatchdog t device := by
  induction h with
  | nil => simp
  | pass hseen _ ih =>
    have hall := Prog.seen_all (Q := fun x => x.IsWatchdog t device)
      (fun _ _ hc hshows => shows_watchdog hc hshows) (enforceOnce_makes std) hseen
    intro x hx
    rcases List.mem_append.1 hx with hx | hx
    · obtain ⟨y, hy, ⟨⟩⟩ := List.mem_map.1 hx
      exact hall _ hy
    · exact ih x hx
  | heartbeat irp k _ ih =>
    intro x hx
    exact ih x (by simpa using hx)

theorem run_watchdog (r : WatchdogRun hmac t device std) {x : Deed} (hx : .deed x ∈ r.steps) :
    x.IsWatchdog t device := by
  obtain ⟨all, hall, hpre⟩ := r.own
  exact ownSteps_watchdog hall x (hpre.subset (List.mem_filter.2 ⟨hx, rfl⟩))

/-- What a turn of a run is: a deed of the watchdog, a heartbeat, or a step of another party that is
not refused. -/
def Turn.Lawful (t : CaseTables) (device : List WCHAR) (x : Turn Driver Step) : Prop :=
  match x.event with
  | .deed a => a.IsWatchdog t device
  | .heartbeat _ _ => True
  | .other e => ¬ e.IsRefused t x.before.window

theorem turns_lawful (r : WatchdogRun hmac t device std) : ∀ x ∈ r.turns, Turn.Lawful t device x := by
  intro x hx
  have hstep : x.event ∈ r.steps := by
    rw [← map_event_turns (watchedStep hmac t) r.start r.steps]
    exact List.mem_map_of_mem hx
  unfold Turn.Lawful
  cases he : x.event with
  | deed a => exact run_watchdog r (he ▸ hstep)
  | heartbeat irp k => trivial
  | other e =>
    rintro ⟨hg, hclosed⟩
    rcases r.inside x hx e he with hopen | ⟨code, irp, k, rfl⟩
    · rw [hclosed] at hopen
      cases hopen
    · exact hg

/-- **One turn**: it is let through and not recorded exactly when it does not alarm. -/
theorem turn_quiet_iff {x : Turn Driver Step} (hx : Turn.Lawful t device x) :
    (Allowed hmac t x ∧ (watchedStep hmac t x.before x.event).gTamperCount = x.before.gTamperCount) ↔
      ¬ Alarms hmac t x := by
  obtain ⟨d, s⟩ := x
  cases s with
  | deed a =>
    have hdeed := deed_isDeed hx.1
    have hrefused : a.event.IsRefused t d.window ↔ Alarms hmac t ⟨d, .deed a⟩ :=
      and_congr_left fun _ => deed_guarded_iff hx
    rw [← hrefused]
    have hthrough := deed_letsThrough_iff (t := t) hmac d hdeed
    exact ⟨fun h => hthrough.1 h.1, fun h => ⟨hthrough.2 h, nothing_recorded h (deed_not_badUnlock hdeed)⟩⟩
  | heartbeat irp k => exact iff_of_true ⟨rfl, rfl⟩ id
  | other e =>
    have hlawful : ¬ e.IsRefused t d.window := hx
    constructor
    · rintro ⟨-, hcount⟩ hbad
      have hrecorded : (watchedStep hmac t d (.other e)).gTamperCount = d.gTamperCount + 1 := badUnlock_recorded hbad
      simp only at hcount
      rw [hrecorded] at hcount
      simp at hcount
    · exact fun hbad => ⟨trivial, nothing_recorded hlawful hbad⟩

/-- In a quiet run no turn alarms. -/
theorem not_alarms_of_quiet {r : WatchdogRun hmac t device std} (h : r.Quiet) : ∀ x ∈ r.turns, ¬ Alarms hmac t x := by
  intro x hx
  obtain ⟨before, after, hsplit⟩ := List.append_of_mem hx
  obtain ⟨pre, post, hsteps, -, hbefore, -⟩ := turns_split (watchedStep hmac t) hsplit
  have hprev := h.2 pre ⟨x.event :: post, hsteps.symm⟩
  have hnext := h.2 (pre ++ [x.event]) ⟨post, by rw [hsteps]; simp⟩
  rw [final_snoc, ← hbefore] at hnext
  rw [← hbefore] at hprev
  exact (turn_quiet_iff (turns_lawful r x hx)).1 ⟨h.1 x hx, hnext.trans hprev.symm⟩

/-- A run in which no turn alarms is quiet. -/
theorem quiet_of_not_alarms {r : WatchdogRun hmac t device std} (h : ∀ x ∈ r.turns, ¬ Alarms hmac t x) : r.Quiet := by
  have hturn : ∀ x ∈ r.turns, Allowed hmac t x ∧
      (watchedStep hmac t x.before x.event).gTamperCount = x.before.gTamperCount :=
    fun x hx => (turn_quiet_iff (turns_lawful r x hx)).2 (h x hx)
  refine ⟨fun x hx => (hturn x hx).1, ?_⟩
  rintro pre ⟨post, hsteps⟩
  -- the turns of the prefix are turns of the run
  have hmem : ∀ x ∈ Runs.turns (watchedStep hmac t) r.start pre, x ∈ r.turns := by
    intro x hx
    rw [WatchdogRun.turns, ← hsteps, turns_append]
    exact List.mem_append_left _ hx
  refine inv_of (watchedStep hmac t) (A := fun _ x =>
      (watchedStep hmac t x.before x.event).gTamperCount = x.before.gTamperCount)
    (I := fun _ d => d.gTamperCount = r.start.gTamperCount) rfl (fun _ _ _ hd hx => hx.trans hd) pre ?_
  intro old x new hold
  exact (hturn x (hmem x (by rw [hold]; simp))).2

end

/-- **When a run has no false alarms.** Over every run, whatever state the checks find the machine in:
the driver denies nothing the watchdog does and the count of tamper events stays where it was in every
state reached, if and only if no step alarms. -/
theorem noFalseAlarms_iff (hmac : Hmac) (t : CaseTables) (device : List WCHAR) (std : GoStd)
    (r : WatchdogRun hmac t device std) : r.Quiet ↔ ∀ x ∈ r.turns, ¬ Alarms hmac t x :=
  ⟨not_alarms_of_quiet, quiet_of_not_alarms⟩

/-! ## A worked pass -/

/-- Every call fails. -/
def failedAnswers : (c : Call) → c.Ret
  | .run _ _ => ⟨"", false⟩
  | .readAll _ => none
  | .globCip _ => []
  | .executable => none
  | .wlanEnumInterfaces _ => none
  | .wlanGetFilterList _ _ => none
  | .stat _ | .openRead _ | .mkdirAll _ | .create _ | .copy _ _ | .rename _ _ | .createKey _
  | .setStringValue _ _ _ | .wlanOpenHandle _ | .wlanSetFilterList _ _ _ => false

def imageOf (cmd : String) : UnicodeString :=
  rtlInitUnicodeString (wide "\\??\\C:\\Windows\\system32" ++ backslash :: wide cmd)

/-- Programs are launched from the system directory; nothing else is seen. -/
def launches : Call → List Deed
  | .run cmd _ => [.launch cmd (some (imageOf cmd)) (Worked.time 0)]
  | _ => []

theorem imageOf_chars {cmd : String} (h : cmd = "sc.exe" ∨ cmd = "bcdedit.exe") :
    (imageOf cmd).chars = wide "\\??\\C:\\Windows\\system32" ++ backslash :: wide cmd := by
  rcases h with rfl | rfl <;> exact rtlInit_chars (by decide)

theorem launches_shows (c : Call) (hc : c.IsWatchdog) : c.Shows .ascii workedDevice (launches c) := by
  cases c with
  | run cmd args =>
    refine ⟨fun x hx => ?_, Or.inr ⟨_, _, [], rfl, by simp⟩⟩
    obtain rfl := List.mem_singleton.1 hx
    rintro path ⟨⟩
    exact ⟨_, imageOf_chars (isWatchdog_run hc)⟩
  | createKey img => exact ⟨by simp [launches], Or.inl rfl⟩
  | setStringValue img name value => exact ⟨by simp [launches], Or.inl rfl⟩
  | _ => exact ⟨by simp [launches], 0, List.nil_prefix⟩

/-- One pass in which every call fails, from the start of the driver. -/
def failedPass (std : GoStd) : WatchdogRun Worked.hmac .ascii workedDevice std where
  start := driverEntry Worked.reads
  steps := ((enforceOnce std).log failedAnswers launches).map .deed
  own := by
    have hseen : (enforceOnce std).Seen (Call.Shows .ascii workedDevice)
        ((enforceOnce std).log failedAnswers launches) :=
      Prog.seen_log launches_shows (enforceOnce_makes std)
    refine ⟨_, .pass hseen .nil, ?_⟩
    rw [List.append_nil, List.filter_eq_self.2 (by simp [Step.isOwn])]
  inside := by
    intro x hx e he
    have hstep := List.mem_map_of_mem (f := Turn.event) hx
    rw [map_event_turns, he] at hstep
    simp at hstep

/-- A deed leaves a window that has not been opened as it is. -/
theorem deeds_window {hmac : Hmac} {t : CaseTables} {d : Driver} (h : d.window.gPermissive = false) {xs : List Deed}
    (hxs : ∀ x ∈ xs, x.event.IsDeed) : (final (watchedStep hmac t) d (xs.map .deed)).window = d.window := by
  induction xs generalizing d with
  | nil => rfl
  | cons x xs ih =>
    have hsame : (watchedStep hmac t d (.deed x)).window = d.window := by
      rcases handle_window hmac t d x.event with (hquiet | hasked) | ⟨irp, k, ⟨hioctl, -⟩, -⟩
      · exact hquiet.2
      · exact hasked.2.trans (by rw [lgIsPermissive_closed h])
      · have hdeed := hxs x (by simp)
        rw [hioctl] at hdeed
        exact absurd hdeed id
    have hrest := ih (d := watchedStep hmac t d (.deed x)) (by rw [hsame]; exact h) fun y hy => hxs y (by simp [hy])
    exact hrest.trans hsame

def launchOf (cmd : String) : Deed := .launch cmd (some (imageOf cmd)) (Worked.time 0)

/-- The pass comes to `bcdedit.exe` after six launches of `sc.exe`. -/
theorem failedPass_log (std : GoStd) : ∃ post, (enforceOnce std).log failedAnswers launches =
    List.replicate 6 (launchOf "sc.exe") ++ launchOf "bcdedit.exe" :: post :=
  ⟨_, rfl⟩

/-- The launch of `bcdedit.exe` raises an alarm, whatever the hash and the configuration format. -/
theorem noFalseAlarms_not : ¬ ∃ std, (failedPass std).Quiet := by
  rintro ⟨std, hquiet⟩
  obtain ⟨post, hlog⟩ := failedPass_log std
  have hsteps : (failedPass std).steps = (List.replicate 6 (launchOf "sc.exe")).map .deed ++
      .deed (launchOf "bcdedit.exe") :: post.map .deed :=
    (congrArg (List.map Step.deed) hlog).trans (List.map_append ..)
  have hboot : (driverEntry Worked.reads).window.gPermissive = false := rfl
  have hwindow : (final (watchedStep Worked.hmac .ascii) (driverEntry Worked.reads)
      ((List.replicate 6 (launchOf "sc.exe")).map .deed)).window = (driverEntry Worked.reads).window := by
    refine deeds_window hboot fun x hx => ?_
    obtain rfl := List.eq_of_mem_replicate hx
    rintro i ⟨⟩
    exact (by decide : statusSuccess ≠ statusAccessDenied)
  refine not_alarms_of_quiet hquiet ⟨final (watchedStep Worked.hmac .ascii) (driverEntry Worked.reads)
    ((List.replicate 6 (launchOf "sc.exe")).map .deed), .deed (launchOf "bcdedit.exe")⟩ ?_ ⟨⟨rfl, rfl⟩, ?_⟩
  · rw [WatchdogRun.turns, hsteps, turns_append]
    exact List.mem_append_right _ List.mem_cons_self
  · show (lgIsPermissive (Worked.time 0) _).1 = false
    rw [hwindow, lgIsPermissive_closed hboot]

end Lockguard
