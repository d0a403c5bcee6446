import Lockguard.InstallRoundTrip
import Lockguard.Lib.CommandLine
import Lockguard.Lib.Flags
/-!
# What the programs do when they are started (`watchdog/main.go`, `cli/main.go:47-77`, `enforce_windows.go:192-224`)

A program gets one command line and splits it into its arguments, its flags decide what it does. So it is
with what Windows starts in place of a blocked image: the `Debugger` value, a blank, and the command line of
the launch. `--silent-exit` is no flag of the watchdog's, and that is all there is to it
(`blocked_launch_iff`).
-/
namespace Lockguard

open CommandLine Flags

/-- What a program comes to: an action, or an exit code with nothing done. -/
inductive Started (α : Type) where
  | does (action : α)
  | exits (code : Nat)
deriving DecidableEq

inductive WatchdogAction where
  | serviceInstall
  | serviceRemove
  | serviceRun
  | enforceOnce
deriving DecidableEq

inductive CliAction where
  | recover
  | setPassword
  | status
deriving DecidableEq

def WatchdogAction.flag : WatchdogAction → Arg
  | .serviceInstall => "service-install".toList
  | .serviceRemove => "service-remove".toList
  | .serviceRun => "service-run".toList
  | .enforceOnce => "once".toList

def CliAction.flag : CliAction → Arg
  | .recover => "recover".toList
  | .setPassword => "set-password".toList
  | .status => "status".toList

/-- `flag.Parse`, and the `switch` over the flags, in the order of its cases. -/
def dispatch {α : Type} (flag : α → Arg) (cases : List α) (args : List Arg) : Started α :=
  match parse (cases.map flag) args (fun _ => false) with
  | .help => .exits 0
  | .bad => .exits 2
  | .ok values _ => match cases.find? fun a => values (flag a) with
    | some a => .does a
    | none => .exits 2

/-- `main` of the watchdog. -/
def watchdogMain : List Arg → Started WatchdogAction :=
  dispatch WatchdogAction.flag [.serviceInstall, .serviceRemove, .serviceRun, .enforceOnce]

/-- `main` of the CLI. -/
def cliMain : List Arg → Started CliAction := dispatch CliAction.flag [.recover, .setPassword, .status]

section
variable {α : Type} {flag : α → Arg} {cases : List α} {args : List Arg}

/-- A program does one of its actions, and one whose flag is among its arguments. -/
theorem dispatch_asked {a : α} (h : dispatch flag cases args = .does a) :
    a ∈ cases ∧ ∃ s ∈ args, parseArg (cases.map flag) s = .set (flag a) true := by
  unfold dispatch at h
  split at h
  · cases h
  · cases h
  rename_i values rest hparse
  split at h
  · rename_i b hfind
    cases h
    have hset := List.find?_some hfind
    refine ⟨List.mem_of_find?_eq_some hfind, ?_⟩
    rcases parse_set hparse hset with hfalse | hasked
    · cases hfalse
    · exact hasked
  · cases h

end

/-! ## The launch of a blocked image -/

/-- What comes of the launch of an image: it runs, or the program named by its `Debugger` value. -/
inductive Launch where
  | image
  | watchdog (r : Started WatchdogAction)
  | program (exe : List Char)

/-- Nothing is run but the watchdog, which exits with nothing done; a debugger with no name starts nothing. -/
def Launch.Inert : Launch → Prop
  | .image => False
  | .watchdog (.exits _) => True
  | .watchdog (.does _) => False
  | .program exe => exe = []

/-- How Windows launches an image with the command line `line` (Image File Execution Options). The debugger is the
watchdog when it is named by its own path, letter for letter. An empty value, which Windows ignores and no pass
writes, is not told apart here: the program is then what the line begins with. -/
def Host.launch (m : Host) (img : String) (line : List Char) : Launch :=
  match m.debugger img with
  | none => .image
  | some debugger => match commandLineToArgv (debugger.toList ++ ' ' :: line) with
    | [] => .program []
    | exe :: args => if exe = m.exe.toList then .watchdog (watchdogMain args) else .program exe

theorem argv_trampoline {exe : String} (h : Quotable exe.toList) (line : List Char) :
    commandLineToArgv ((trampoline exe).toList ++ ' ' :: line) =
      exe.toList :: "--silent-exit".toList :: commandLineToArgv line := by
  have hargs : commandLineToArgv ("--silent-exit".toList ++ ' ' :: line) = "--silent-exit".toList :: commandLineToArgv line :=
    argv_escapeArg "--silent-exit".toList (Or.inr rfl)
  rw [← hargs, ← argv_quoted h (Or.inr rfl)]
  simp [trampoline]

theorem silentExit_exits (args : List Arg) : watchdogMain ("--silent-exit".toList :: args) = .exits 2 := by
  unfold watchdogMain dispatch
  rw [parse_bad (by decide)]

/-- What a pass writes for an image, with the path of the watchdog in it or none. -/
theorem launch_written {m : Host} (env : Call → Outcome) (h : Quotable m.exe.toList) {img : String}
    (hdebugger : m.debugger img = some (debuggerValue env m)) (line : List Char) : (m.launch img line).Inert := by
  have hempty : Quotable "".toList := ⟨by simp, by simp⟩
  rw [Host.launch, hdebugger]
  simp only [debuggerValue]
  cases (env .executable).fails with
  | false =>
    simp only [Bool.false_eq_true, if_false, argv_trampoline h, if_true, silentExit_exits]
    trivial
  | true =>
    simp only [if_true, argv_trampoline hempty, silentExit_exits]
    split
    · trivial
    · exact String.toList_empty

/-- **What a pass does to the debuggers**, whatever fails in it. -/
theorem enforced_written (t : CaseTables) (std : GoStd) (env : Call → Outcome) (m : Host) : (m.enforced t env std).debugger = fun img =>
    if img ∈ blockedImages ∧ DebuggerWritten env (debuggerValue env m) img then some (debuggerValue env m)
    else m.debugger img := by
  have hbefore : (m.beforeIfeo t env std).debugger = m.debugger := by
    have hwlan := check_keeps t env (ensureWLANFilter_makes std) (fun _ hc => keeps_debugger (wlanCall (t := t) hc).2)
      (m.beforeWlan t env)
    have hfirst : (m.beforeWlan t env).debugger = m.debugger := runChecks_keeps
      (fun c hc => (firstChecks_makes c hc).mono fun _ hcall => keeps_debugger (firstCall (t := t) hcall).2.1) m
    exact hwlan.trans hfirst
  have hvalue : debuggerValue env (m.beforeIfeo t env std) = debuggerValue env m := by
    rw [debuggerValue, beforeIfeo_exe]
    rfl
  rw [enforced_debugger, Host.beforeFiles, ensureIFEOBlocks_run, hvalue, hbefore]

/-- **A blocked image stays blocked.** After any passes of the watchdog, whatever fails in them, the launch of
a blocked image with any arguments starts nothing but a watchdog that exits at once, if and only if one
of the passes could write its entry, or it was so before. -/
theorem blocked_launch_iff (t : CaseTables) (std : GoStd) {m : Host} (hexe : Quotable m.exe.toList)
    (envs : List (Call → Outcome)) {img : String} (himg : img ∈ blockedImages) (line : List Char) :
    ((m.watched t std envs).launch img line).Inert ↔
      (∃ env ∈ envs, DebuggerWritten env (debuggerValue env m) img) ∨ (m.launch img line).Inert := by
  induction envs generalizing m with
  | nil => simp [Host.watched]
  | cons env envs ih =>
    have hfixed := (enforced_fixed t std env m).1
    have hvalue : ∀ env', debuggerValue env' (m.enforced t env std) = debuggerValue env' m := by
      intro env'
      rw [debuggerValue, hfixed]
      rfl
    have hdebugger := congrFun (enforced_written t std env m) img
    rw [Host.watched, List.foldl_cons, ← Host.watched, ih (by rwa [hfixed])]
    simp only [hvalue, List.mem_cons, exists_eq_or_imp]
    by_cases hwritten : DebuggerWritten env (debuggerValue env m) img
    · have hinert : ((m.enforced t env std).launch img line).Inert := by
        refine launch_written env (by rwa [hfixed]) ?_ line
        rw [hdebugger, if_pos ⟨himg, hwritten⟩, hvalue]
      exact iff_of_true (Or.inr hinert) (Or.inl (Or.inl hwritten))
    · rw [if_neg fun h => hwritten h.2] at hdebugger
      have hsame : (m.enforced t env std).launch img line = m.launch img line := by
        rw [Host.launch, Host.launch, hdebugger, hfixed]
      rw [hsame, or_iff_right hwritten]

/-- A pass that fails everywhere but at the entry of the registry editor. -/
def registryEnv (c : Call) : Outcome :=
  ⟨c != .executable && c != .createKey "regedit.exe" &&
    c != .setStringValue "regedit.exe" "Debugger" (trampoline driftedHost.exe), "", 0⟩

/-- No configuration can be read. -/
def unconfiguredStd : GoStd where
  sha256Hex := fun _ => ""
  unmarshal := fun _ => none

theorem blocked_launch_regedit : ((driftedHost.watched .ascii unconfiguredStd [registryEnv, failingEnv]).launch
    "regedit.exe" "regedit /s".toList).Inert := by
  have hwritten : DebuggerWritten registryEnv (debuggerValue registryEnv driftedHost) "regedit.exe" := by decide
  rw [blocked_launch_iff .ascii unconfiguredStd ⟨by decide, by decide⟩ [registryEnv, failingEnv] (by decide)]
  exact Or.inl ⟨registryEnv, by simp, hwritten⟩

end Lockguard
