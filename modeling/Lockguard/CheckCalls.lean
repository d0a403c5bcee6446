import Lockguard.Host
/-!
# The calls of each check

What calls a check can make, whatever comes of them, and so which parts of the machine it leaves
alone.
-/
namespace Lockguard

open Calls

/-! ## Calls by check -/

/-- The programs the first four checks run. -/
def Call.IsProgram : Call → Prop
  | .run cmd _ => cmd = "sc.exe" ∨ cmd = "bcdedit.exe"
  | _ => False

def Call.IsCopy (src dst : List Name) (c : Call) : Prop :=
  c = .openRead src ∨ c = .mkdirAll dst.dropLast ∨ c = .create dst ∨ c = .copy src dst

def Call.IsPolicy (c : Call) : Prop :=
  c = .globCip wdacPolicyDir ∨ c = .stat wdacBackup ∨ c.IsCopy wdacBackup wdacPolicy

def Call.IsWlan : Call → Prop
  | .readAll path => path = configPath
  | .wlanOpenHandle _ | .wlanEnumInterfaces _ | .wlanGetFilterList _ _ | .wlanSetFilterList _ _ _ => True
  | _ => False

def Call.IsIfeo : Call → Prop
  | .executable => True
  | .createKey img => img ∈ blockedImages
  | .setStringValue img name _ => img ∈ blockedImages ∧ name = "Debugger"
  | _ => False

/-- The calls of the repair of one file. -/
def FilePair.Repairs (p : FilePair) (c : Call) : Prop :=
  c = .readAll p.primary ∨ c = .readAll p.backup ∨ c.IsCopy p.backup p.primary ∨
    c.IsCopy p.backup (stageOf p.primary) ∨ c = .rename (stageOf p.primary) p.primary

def Call.IsFileRepair (c : Call) : Prop := driverPair.Repairs c ∨ servicePair.Repairs c

section
variable {α β : Type} {P : Call → Prop}

theorem makes_ite {x y : Go α} {p : Prop} [Decidable p] (hx : x.Makes P) (hy : y.Makes P) :
    (if p then x else y : Go α).Makes P := by
  split
  · exact hx
  · exact hy

theorem runQuiet_makes {cmd : String} (args : List String) (hcmd : cmd = "sc.exe" ∨ cmd = "bcdedit.exe") :
    (runQuiet cmd args).Makes Call.IsProgram :=
  Prog.makes_perform hcmd

theorem ensureDriverRunning_makes : ensureDriverRunning.Makes Call.IsProgram := by
  refine Prog.makes_bind (runQuiet_makes _ (Or.inl rfl)) fun r => makes_ite (Prog.makes_pure _) ?_
  exact Prog.makes_bind (runQuiet_makes _ (Or.inl rfl)) fun _ => Prog.makes_pure _

theorem ensureServiceDisabled_makes (name : String) : (ensureServiceDisabled name).Makes Call.IsProgram := by
  have hstop : (do let _ ← runQuiet "sc.exe" ["stop", name]; return .ok () : Go (Except GoError Unit)).Makes
      Call.IsProgram := Prog.makes_bind (runQuiet_makes _ (Or.inl rfl)) fun _ => Prog.makes_pure _
  refine Prog.makes_bind (runQuiet_makes _ (Or.inl rfl)) fun r => makes_ite hstop ?_
  exact Prog.makes_bind (runQuiet_makes _ (Or.inl rfl)) fun _ => makes_ite hstop (Prog.makes_pure _)

theorem runIf_makes (b : Bool) (args : List String) : (runIf b "bcdedit.exe" args).Makes Call.IsProgram := by
  refine makes_ite ?_ (Prog.makes_pure _)
  exact Prog.makes_bind (runQuiet_makes _ (Or.inr rfl)) fun _ => Prog.makes_pure _

theorem ensureBCDState_makes : ensureBCDState.Makes Call.IsProgram := by
  refine Prog.makes_bind (runQuiet_makes _ (Or.inr rfl)) fun r => ?_
  refine Prog.makes_bind (runIf_makes _ _) fun _ => Prog.makes_bind (runIf_makes _ _) fun _ => ?_
  exact Prog.makes_bind (runIf_makes _ _) fun _ => Prog.makes_pure _

theorem ensureWDACPolicy_makes : ensureWDACPolicy.Makes Call.IsPolicy := by
  refine Prog.makes_bind (makes_call (Or.inl rfl)) fun found => makes_ite (Prog.makes_pure _) ?_
  refine Prog.makes_bind (makes_call (Or.inr (Or.inl rfl))) fun backed => makes_ite ?_ (Prog.makes_pure _)
  exact (copyFile_makes _ _).mono fun c hc => Or.inr (Or.inr hc)

theorem readFile_makes {path : List Name} (h : P (.readAll path)) : (readFile path).Makes P :=
  Prog.makes_bind (makes_call h) fun _ => Prog.makes_pure _

theorem filtersOKLoop_makes (ssid : Bytes) (ifaces : List Guid) :
    (filtersOKLoop ssid ifaces).Makes Call.IsWlan := by
  induction ifaces with
  | nil => exact Prog.makes_pure _
  | cons g ifaces ih =>
    have hget : ∀ ty, (wlanGetFilter g ty).Makes Call.IsWlan := fun ty =>
      Prog.makes_bind (makes_call trivial) fun _ => Prog.makes_pure _
    exact makes_orReturn (hget _) fun _ => makes_orReturn (hget _) fun _ => makes_ite (Prog.makes_pure _) ih

/-- The loop writes the two lists it is given, and nothing else. -/
theorem applyLoop_makes (permit deny : List Dot11Network) (ifaces : List Guid) :
    (applyLoop permit deny ifaces).Makes fun c => ∃ g,
      c = .wlanSetFilterList g wlanFilterListGroupPolicyPermit permit ∨
        c = .wlanSetFilterList g wlanFilterListGroupPolicyDeny deny := by
  induction ifaces with
  | nil => exact Prog.makes_pure _
  | cons g ifaces ih =>
    refine makes_orReturn (Prog.makes_bind (makes_call ⟨g, Or.inl rfl⟩) fun _ => Prog.makes_pure _) fun _ => ?_
    refine makes_orReturn (Prog.makes_bind (makes_call ⟨g, Or.inr rfl⟩) fun _ => Prog.makes_pure _) fun _ => ih

theorem ensureWLANFilter_makes (std : GoStd) : (ensureWLANFilter std).Makes Call.IsWlan := by
  have hopen : ∀ user, (wlanOpen user).Makes Call.IsWlan := fun user =>
    Prog.makes_bind (makes_call trivial) fun _ => Prog.makes_pure _
  have henum : ∀ user, (wlanEnumInterfaces user).Makes Call.IsWlan := fun user =>
    Prog.makes_bind (makes_call trivial) fun _ => Prog.makes_pure _
  refine makes_orReturn (makes_orReturn (readFile_makes rfl) fun _ => Prog.makes_pure _) fun cfg => ?_
  refine makes_ite (Prog.makes_pure _) (makes_orReturn ?_ fun ok => makes_ite (Prog.makes_pure _) ?_)
  · exact makes_orReturn (hopen _) fun _ => makes_orReturn (henum _) fun _ => filtersOKLoop_makes _ _
  · unfold applyWLANFilters
    split
    · exact Prog.makes_pure _
    · refine makes_orReturn (hopen _) fun _ => makes_orReturn (henum _) fun _ => ?_
      refine (applyLoop_makes _ _ _).mono ?_
      rintro c ⟨g, rfl | rfl⟩ <;> trivial

theorem ifeoLoop_makes (debugger : String) {imgs : List String} (himgs : ∀ img ∈ imgs, img ∈ blockedImages) :
    (ifeoLoop debugger imgs).Makes Call.IsIfeo := by
  induction imgs with
  | nil => exact Prog.makes_pure _
  | cons img imgs ih =>
    have himg := himgs img (by simp)
    refine Prog.makes_bind (makes_call himg) fun created => ?_
    have hrest := ih fun i hi => himgs i (by simp [hi])
    split
    · exact Prog.makes_bind (makes_call ⟨himg, rfl⟩) fun _ => hrest
    · exact hrest

theorem ensureIFEOBlocks_makes : ensureIFEOBlocks.Makes Call.IsIfeo := by
  refine Prog.makes_bind (makes_call trivial) fun exe => ?_
  exact Prog.makes_bind (ifeoLoop_makes _ fun _ h => h) fun _ => Prog.makes_pure _

theorem ensurePair_makes (std : GoStd) (p : FilePair) : (ensurePair std p).Makes p.Repairs := by
  have hhash : ∀ path, p.Repairs (.readAll path) → (fileHash std path).Makes p.Repairs := fun path h =>
    makes_orReturn (readFile_makes h) fun _ => Prog.makes_pure _
  refine Prog.makes_bind (hhash _ (Or.inl rfl)) fun ph => Prog.makes_bind (hhash _ (Or.inr (Or.inl rfl))) fun bh => ?_
  split
  · refine Prog.makes_bind ((copyFile_makes _ _).mono fun c hc => ?_) fun _ => Prog.makes_pure _
    exact Or.inr (Or.inr (Or.inl hc))
  · refine makes_ite (Prog.makes_bind ?_ fun _ => Prog.makes_pure _) (Prog.makes_pure _)
    refine makes_orReturn ((copyFile_makes _ _).mono fun c hc => Or.inr (Or.inr (Or.inr (Or.inl hc)))) fun _ => ?_
    exact Prog.makes_bind (makes_call (Or.inr (Or.inr (Or.inr (Or.inr rfl))))) fun _ => Prog.makes_pure _
  · exact Prog.makes_pure _

theorem ensureFileIntegrity_makes (std : GoStd) : (ensureFileIntegrity std).Makes Call.IsFileRepair := by
  refine makes_orReturn ((ensurePair_makes std driverPair).mono fun c hc => Or.inl hc) fun _ => ?_
  exact makes_orReturn ((ensurePair_makes std servicePair).mono fun c hc => Or.inr hc) fun _ => Prog.makes_pure _

/-! ## A pass -/

/-- The calls of a pass. -/
def Call.IsWatchdog (c : Call) : Prop := c.IsProgram ∨ c.IsPolicy ∨ c.IsWlan ∨ c.IsIfeo ∨ c.IsFileRepair

theorem runChecks_makes {cs : List Checker} (h : ∀ c ∈ cs, c.fn.Makes P) : (runChecks cs).Makes P := by
  induction cs with
  | nil => exact Prog.makes_pure _
  | cons c cs ih =>
    refine Prog.makes_bind (h c (by simp)) fun err => ?_
    exact Prog.makes_bind (ih fun c' hc' => h c' (by simp [hc'])) fun _ => Prog.makes_pure _

theorem enforceOnce_makes (std : GoStd) : (enforceOnce std).Makes Call.IsWatchdog := by
  refine runChecks_makes fun c hc => ?_
  simp only [checks, List.mem_cons, List.not_mem_nil, or_false] at hc
  rcases hc with rfl | rfl | rfl | rfl | rfl | rfl | rfl | rfl
  · exact ensureDriverRunning_makes.mono fun _ => Or.inl
  · exact (ensureServiceDisabled_makes _).mono fun _ => Or.inl
  · exact (ensureServiceDisabled_makes _).mono fun _ => Or.inl
  · exact ensureBCDState_makes.mono fun _ => Or.inl
  · exact ensureWDACPolicy_makes.mono fun _ h => Or.inr (Or.inl h)
  · exact (ensureWLANFilter_makes std).mono fun _ h => Or.inr (Or.inr (Or.inl h))
  · exact ensureIFEOBlocks_makes.mono fun _ h => Or.inr (Or.inr (Or.inr (Or.inl h)))
  · exact (ensureFileIntegrity_makes std).mono fun _ h => Or.inr (Or.inr (Or.inr (Or.inr h)))

/-- The state a pass leaves: each check starts from what the one before it left. -/
theorem runChecks_state {σ : Type} {h : Handler Call Call.Ret σ} (cs : List Checker) (s : σ) :
    ((runChecks cs).run h s).2 = cs.foldl (fun s c => (c.fn.run h s).2) s := by
  induction cs generalizing s with
  | nil => rfl
  | cons c cs ih =>
    simp only [runChecks, Prog.run_bind, Prog.run_pure, List.foldl_cons]
    exact ih _

end

end Lockguard
