import Lockguard.Host
/-!
# What a check that returns nil leaves

`checks_hold_iff`: for four of the checks, when a nil result comes with the state the check is there
for. Each condition is about the machine before the check and the outcome of each operation.
-/
namespace Lockguard

open Calls

section
variable {t : CaseTables} {env : Call → Outcome}

/-- If the check ends without an error, the machine it leaves is as `post` says. -/
def Host.OkMeans (t : CaseTables) (env : Call → Outcome) (m : Host) (check : Go (Except GoError Unit))
    (post : Host → Prop) : Prop :=
  (check.run (onHost t env) m).1 = .ok () → post (check.run (onHost t env) m).2

/-! ## The boot settings -/

/-- Test signing yes, boot menu policy standard, no safe boot. -/
def Bcd.Right (b : Bcd) : Prop :=
  b.testsigning = some "Yes" ∧ b.bootmenupolicy = some "Standard" ∧ b.safeboot = none

/-- The text `bcdedit.exe /enum {current}` printed. -/
def bcdText (env : Call → Outcome) : String := (env (.run "bcdedit.exe" ["/enum", "\x7bcurrent\x7d"])).out

/-- Each setting is right before, or the text does not show it right and the command that mends it
succeeds. -/
def BcdMended (env : Call → Outcome) (b : Bcd) : Prop :=
  (b.testsigning = some "Yes" ∨ matchString bcdTestSigningRe (bcdText env) = false ∧
    (env (.run "bcdedit.exe" ["/set", "testsigning", "on"])).fails = false) ∧
  (b.bootmenupolicy = some "Standard" ∨ matchString bcdBootMenuStdRe (bcdText env) = false ∧
    (env (.run "bcdedit.exe" ["/set", "bootmenupolicy", "standard"])).fails = false) ∧
  (b.safeboot = none ∨ matchString bcdSafeBootPresent (bcdText env) = true ∧
    (env (.run "bcdedit.exe" ["/deletevalue", "safeboot"])).fails = false)

/-- A remedial command changes the settings as it does when it is run and succeeds. -/
theorem runIf_bcd {cmd : String} {args : List String} {f : Bcd → Bcd}
    (hf : ∀ m : Host, (m.command cmd args).bcd = f m.bcd) (b : Bool) (m : Host) :
    ((runIf b cmd args).run (onHost t env) m).2.bcd =
      if b = true ∧ (env (.run cmd args)).fails = false then f m.bcd else m.bcd := by
  cases b with
  | false => rfl
  | true => cases hfails : (env (.run cmd args)).fails <;> simp [runIf, hfails, hf]

theorem ensureBCDState_ok (m : Host) : (ensureBCDState.run (onHost t env) m).1 = .ok () := by
  simp [ensureBCDState]

/-- The commands are issued one after another, each on the text's word. -/
theorem ensureBCDState_bcd (m : Host) : (ensureBCDState.run (onHost t env) m).2.bcd =
    ⟨if matchString bcdTestSigningRe (bcdText env) = false ∧
        (env (.run "bcdedit.exe" ["/set", "testsigning", "on"])).fails = false then some "Yes"
      else m.bcd.testsigning,
    if matchString bcdBootMenuStdRe (bcdText env) = false ∧
        (env (.run "bcdedit.exe" ["/set", "bootmenupolicy", "standard"])).fails = false then some "Standard"
      else m.bcd.bootmenupolicy,
    if matchString bcdSafeBootPresent (bcdText env) = true ∧
        (env (.run "bcdedit.exe" ["/deletevalue", "safeboot"])).fails = false then none
      else m.bcd.safeboot⟩ := by
  have henum : ∀ m : Host, m.command "bcdedit.exe" ["/enum", "\x7bcurrent\x7d"] = m := fun _ => rfl
  have htext : (env (.run "bcdedit.exe" ["/enum", "\x7bcurrent\x7d"])).out = bcdText env := rfl
  simp only [ensureBCDState, Prog.run_bind, run_runQuiet, henum, htext, ite_self, Prog.run_pure]
  rw [runIf_bcd (f := fun b => { b with safeboot := none }) fun _ => rfl,
    runIf_bcd (f := fun b => { b with bootmenupolicy := some "Standard" }) fun _ => rfl,
    runIf_bcd (f := fun b => { b with testsigning := some "Yes" }) fun _ => rfl]
  simp only [Bool.not_eq_true']
  by_cases h₁ : matchString bcdTestSigningRe (bcdText env) = false ∧
      (env (.run "bcdedit.exe" ["/set", "testsigning", "on"])).fails = false
  all_goals by_cases h₂ : matchString bcdBootMenuStdRe (bcdText env) = false ∧
      (env (.run "bcdedit.exe" ["/set", "bootmenupolicy", "standard"])).fails = false
  all_goals by_cases h₃ : matchString bcdSafeBootPresent (bcdText env) = true ∧
      (env (.run "bcdedit.exe" ["/deletevalue", "safeboot"])).fails = false
  all_goals simp only [h₁, h₂, h₃, and_self, if_true, if_false]

theorem mended_iff {α : Type} {p : Prop} [Decidable p] {right before : α} :
    (if p then right else before) = right ↔ before = right ∨ p := by
  split
  · rename_i h; simp [h]
  · rename_i h; simp [h]

theorem ensureBCDState_right_iff (m : Host) :
    (ensureBCDState.run (onHost t env) m).2.bcd.Right ↔ BcdMended env m.bcd := by
  rw [ensureBCDState_bcd]
  exact and_congr mended_iff (and_congr mended_iff mended_iff)

/-! ## The code integrity policy -/

def PolicyPresent (t : CaseTables) (m : Host) : Prop := (Disk.find t m.disk wdacPolicy).isSome

/-- What `filepath.Glob` gives the check. -/
def policiesFound (t : CaseTables) (env : Call → Outcome) (m : Host) : List Name :=
  if (env (.globCip wdacPolicyDir)).fails then [] else Disk.globCip t m.disk wdacPolicyDir

theorem wdacBackup_ne_policy (t : CaseTables) : foldPath t wdacBackup ≠ foldPath t wdacPolicy :=
  foldPath_ne (by decide) t

theorem ensureWDACPolicy_iff (m : Host) :
    m.OkMeans t env ensureWDACPolicy (PolicyPresent t) ↔ PolicyPresent t m ∨ policiesFound t env m = [] := by
  have hglob : (filepathGlob wdacPolicyDir).run (onHost t env) m = (policiesFound t env m, m) := rfl
  obtain ⟨backed, hstat⟩ : ∃ b, (osStat wdacBackup).run (onHost t env) m = (b, m) := ⟨_, rfl⟩
  unfold Host.OkMeans
  simp only [ensureWDACPolicy, Prog.run_bind, hglob]
  cases policiesFound t env m with
  | cons name names => simp
  | nil =>
    refine iff_of_true ?_ (Or.inr rfl)
    simp only [List.length_nil, gt_iff_lt, lt_self_iff_false, if_false, Prog.run_bind]
    rw [hstat]
    cases backed with
    | true =>
      intro hok
      obtain ⟨data, -, hput⟩ := copyFile_puts (wdacBackup_ne_policy t) hok
      exact Option.isSome_iff_exists.2 ⟨data, hput⟩
    | false =>
      intro hok
      cases hok

/-! ## The audio service -/

theorem ensureServiceDisabled_iff (name : String) (m : Host) :
    m.OkMeans t env (ensureServiceDisabled name) (fun m' => (m'.services name).startType = .disabled) ↔
      (containsText (env (.run "sc.exe" ["qc", name])).out "DISABLED" = true →
        (m.services name).startType = .disabled) := by
  have hqc : ∀ m : Host, m.command "sc.exe" ["qc", name] = m := fun _ => rfl
  have hstop : ∀ m : Host, ((m.command "sc.exe" ["stop", name]).services name).startType =
      (m.services name).startType := by
    intro m
    simp
  unfold Host.OkMeans
  simp only [ensureServiceDisabled, Prog.run_bind, run_runQuiet, hqc, ite_self]
  cases hshown : containsText (env (.run "sc.exe" ["qc", name])).out "DISABLED" with
  | true =>
    simp only [if_true, Prog.run_bind, run_runQuiet, Prog.run_pure, forall_const]
    rw [apply_ite (fun m' : Host => (m'.services name).startType = .disabled), hstop, ite_self]
  | false =>
    simp only [Bool.false_eq_true, if_false, false_imp_iff, iff_true, Prog.run_bind, run_runQuiet]
    by_cases hconf : (env (.run "sc.exe" ["config", name, "start=", "disabled"])).fails = true
    · simp [hconf]
    · intro _
      simp only [hconf, Bool.not_false, if_true, Bool.false_eq_true, if_false, Prog.run_bind, run_runQuiet,
        Prog.run_pure]
      rw [apply_ite (fun m' : Host => (m'.services name).startType = .disabled), hstop, ite_self]
      simp

/-! ## The IFEO entries -/

/-- Both registry calls for the image succeed. -/
def DebuggerWritten (env : Call → Outcome) (debugger img : String) : Prop :=
  (env (.createKey img)).fails = false ∧ (env (.setStringValue img "Debugger" debugger)).fails = false

instance (debugger img : String) : Decidable (DebuggerWritten env debugger img) :=
  inferInstanceAs (Decidable (_ ∧ _))

/-- The loop writes the value where both calls succeed, and goes on where they do not. -/
theorem ifeoLoop_run (debugger : String) (imgs : List String) (m : Host) :
    (ifeoLoop debugger imgs).run (onHost t env) m = ((), { m with
      debugger := fun img =>
        if img ∈ imgs ∧ DebuggerWritten env debugger img then some debugger else m.debugger img }) := by
  induction imgs generalizing m with
  | nil => simp [ifeoLoop]
  | cons img imgs ih =>
    have hrest : ∀ m' : Host, m' = { m with debugger := m'.debugger } →
        (∀ i, m'.debugger i = if i = img ∧ DebuggerWritten env debugger img then some debugger else m.debugger i) →
        (ifeoLoop debugger imgs).run (onHost t env) m' = ((), { m with
          debugger := fun i =>
            if i ∈ img :: imgs ∧ DebuggerWritten env debugger i then some debugger else m.debugger i }) := by
      intro m' hm' hdebugger
      rw [ih, hm']
      refine congrArg (Prod.mk ()) (congrArg (fun d => ({ m with debugger := d } : Host)) (funext fun i => ?_))
      simp only [hdebugger, List.mem_cons]
      by_cases hi : i = img
      · subst hi
        by_cases hw : DebuggerWritten env debugger i <;> simp [hw]
      · simp [hi]
    simp only [ifeoLoop, Prog.run_bind]
    rw [run_createKey]
    cases hcreate : (env (.createKey img)).fails with
    | true => exact hrest m rfl fun i => by simp [DebuggerWritten, hcreate]
    | false =>
      simp only [Bool.not_false, if_true, Prog.run_bind, run_setStringValue]
      cases hset : (env (.setStringValue img "Debugger" debugger)).fails with
      | true => exact hrest m rfl fun i => by simp [DebuggerWritten, hset]
      | false =>
        refine hrest _ rfl fun i => ?_
        simp [DebuggerWritten, hcreate, hset, Function.update_apply]

theorem trampoline_inj {a b : String} (h : trampoline a = trampoline b) : a = b := by
  unfold trampoline at h
  exact (String.append_right_inj _).1 ((String.append_left_inj _).1 h)

/-- Every blocked image has the watchdog's trampoline as its debugger. -/
def ImagesBlocked (m : Host) : Prop := ∀ img ∈ blockedImages, m.debugger img = some (trampoline m.exe)

/-- The value `ensureIFEOBlocks` writes: `os.Executable` that fails leaves an empty path in it. -/
def debuggerValue (env : Call → Outcome) (m : Host) : String :=
  trampoline (if (env .executable).fails then "" else m.exe)

/-- Each image gets the value with the right path in it, or keeps the right one it has. -/
def ImagesMended (env : Call → Outcome) (m : Host) : Prop :=
  ∀ img ∈ blockedImages, if DebuggerWritten env (debuggerValue env m) img then
    (env .executable).fails = false ∨ m.exe = "" else m.debugger img = some (trampoline m.exe)

theorem ensureIFEOBlocks_run (m : Host) : ensureIFEOBlocks.run (onHost t env) m = (.ok (), { m with
    debugger := fun img => if img ∈ blockedImages ∧ DebuggerWritten env (debuggerValue env m) img then
      some (debuggerValue env m) else m.debugger img }) := by
  have hexe : trampoline ((if (env .executable).fails then none else some m.exe).getD "") = debuggerValue env m := by
    unfold debuggerValue
    split <;> rfl
  simp only [ensureIFEOBlocks, Prog.run_bind, run_osExecutable, hexe, ifeoLoop_run, Prog.run_pure]

theorem debuggerValue_iff (m : Host) :
    debuggerValue env m = trampoline m.exe ↔ (env .executable).fails = false ∨ m.exe = "" := by
  unfold debuggerValue
  cases (env .executable).fails with
  | false => simp
  | true =>
    simp only [if_true, Bool.true_eq_false, false_or]
    exact ⟨fun h => (trampoline_inj h).symm, fun h => by rw [h]⟩

theorem ensureIFEOBlocks_iff (m : Host) : m.OkMeans t env ensureIFEOBlocks ImagesBlocked ↔ ImagesMended env m := by
  unfold Host.OkMeans ImagesBlocked ImagesMended
  simp only [ensureIFEOBlocks_run, forall_const]
  refine forall₂_congr fun img himg => ?_
  simp only [himg, true_and]
  split
  · rw [Option.some.injEq, debuggerValue_iff]
  · rfl

end

/-! ## All four -/

/-- **When nil means what it says.** From every state of the machine and whatever comes of each
operation: `ensureBCDState` never returns an error, so its settings have to be right anyway; a
policy file of another name satisfies `ensureWDACPolicy`; the word `DISABLED` in the output satisfies
`ensureAudioDisabled`; and `ensureIFEOBlocks` drops the errors of each image. -/
theorem checks_hold_iff (t : CaseTables) (env : Call → Outcome) (m : Host) :
    (m.OkMeans t env ensureBCDState (fun m' => m'.bcd.Right) ↔ BcdMended env m.bcd) ∧
    (m.OkMeans t env ensureWDACPolicy (PolicyPresent t) ↔ PolicyPresent t m ∨ policiesFound t env m = []) ∧
    (m.OkMeans t env ensureAudioDisabled (fun m' => (m'.services "audiosrv").startType = .disabled) ↔
      (containsText (env (.run "sc.exe" ["qc", "audiosrv"])).out "DISABLED" = true →
        (m.services "audiosrv").startType = .disabled)) ∧
    (m.OkMeans t env ensureIFEOBlocks ImagesBlocked ↔ ImagesMended env m) := by
  refine ⟨?_, ensureWDACPolicy_iff m, ensureServiceDisabled_iff "audiosrv" m, ensureIFEOBlocks_iff m⟩
  refine Iff.trans ?_ (ensureBCDState_right_iff (t := t) m)
  exact ⟨fun h => h (ensureBCDState_ok m), fun h _ => h⟩

/-- A machine with no setting right, and with a policy file of another name. -/
def driftedHost : Host where
  disk := [⟨wdacPolicyDir ++ [wide "other.cip"], []⟩]
  services := fun _ => ⟨.demand, true⟩
  bcd := ⟨none, none, none⟩
  exe := "C:\\ProgramData\\Lockguard\\bin\\lockguard-svc.exe"
  debugger := fun _ => none
  interfaces := []
  filterList := fun _ _ => []

/-- Every operation fails but the reading of the directory, and every program prints `DISABLED`. -/
def failingEnv (c : Call) : Outcome := ⟨c != .globCip wdacPolicyDir, "DISABLED", 0⟩

/-- All four checks return nil there, and nothing is as it should be. -/
theorem checks_not_hold :
    ¬ driftedHost.OkMeans .ascii failingEnv ensureBCDState (fun m' => m'.bcd.Right) ∧
    ¬ driftedHost.OkMeans .ascii failingEnv ensureWDACPolicy (PolicyPresent .ascii) ∧
    ¬ driftedHost.OkMeans .ascii failingEnv ensureAudioDisabled
      (fun m' => (m'.services "audiosrv").startType = .disabled) ∧
    ¬ driftedHost.OkMeans .ascii failingEnv ensureIFEOBlocks ImagesBlocked := by
  refine ⟨fun h => ?_, fun h => ?_, fun h => ?_, fun h => ?_⟩
  · obtain ⟨hsigning, -⟩ := (ensureBCDState_right_iff driftedHost).1 (h (ensureBCDState_ok driftedHost))
    revert hsigning
    decide
  · rcases (ensureWDACPolicy_iff driftedHost).1 h with hpresent | hnone
    · revert hpresent
      unfold PolicyPresent
      decide
    · revert hnone
      decide
  · have hdisabled := (ensureServiceDisabled_iff "audiosrv" driftedHost).1 h (by decide)
    cases hdisabled
  · have hregedit := (ensureIFEOBlocks_iff driftedHost).1 h "regedit.exe" (by decide)
    revert hregedit
    decide

end Lockguard
