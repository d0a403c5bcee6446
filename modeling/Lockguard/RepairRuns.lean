import Mathlib.Logic.Relation
import Lockguard.SelfHeal
/-!
# Repairs that are cut off

A pass of `ensureFileIntegrity` restores a missing primary with `copyFile`, in place, and a changed one
with `atomicReplace`, through a `.new` file (`enforce_windows.go:237-246`). Either can break off: a
call fails, or the machine goes down during one. What is left then (a primary that is empty or cut
short, a stale `.new` file) is what the next pass starts from.

| Event of a run of passes           | Here            |
|------------------------------------|-----------------|
| a pass ends, with or without error | `Pass.ends`     |
| the machine goes down in a call    | `Pass.crashes`  |

`repairs_converge`: no sequence of passes changes a backup, and from any state it leaves, a pass that
returns nil has made each primary its backup; one in which no call fails does return nil.
-/
namespace Lockguard

open Calls

/-- One pass, from the machine before it to the machine after it. -/
inductive Pass (std : GoStd) (t : CaseTables) (m : Host) : Host → Prop where
  /-- It comes to its end, whatever fails on the way. -/
  | ends (env : Call → Outcome) : Pass std t m ((ensureFileIntegrity std).run (onHost t env) m).2
  /-- The machine goes down in its `n`-th call. What the calls so far write may hold anything then, or
  be gone; the other files are as they were. -/
  | crashes (env : Call → Outcome) (n : Nat) (m' : Host)
      (left : ∀ path, (∀ c ∈ ((ensureFileIntegrity std).calls (onHost t env) m).take n, ¬ c.Writes t path) →
        Disk.find t m'.disk path = Disk.find t m.disk path) : Pass std t m m'

/-- SHA-256 does not collide on the contents of the pair. -/
def FilePair.NoCollision (std : GoStd) (t : CaseTables) (m : Host) (p : FilePair) : Prop :=
  ∀ d b, Disk.find t m.disk p.primary = some d → Disk.find t m.disk p.backup = some b →
    std.sha256Hex d = std.sha256Hex b → d = b

/-- Each primary is the backup `m₀` has for it, and that backup is still there. -/
def RestoredFrom (t : CaseTables) (m₀ m : Host) : Prop :=
  ∀ p ∈ filePairs, Disk.find t m.disk p.primary = Disk.find t m₀.disk p.backup ∧
    Disk.find t m.disk p.backup = Disk.find t m₀.disk p.backup

section
variable {std : GoStd} {t : CaseTables} {env : Call → Outcome} {m m' : Host} {p : FilePair}

/-! ## The backups -/

/-- The state between two calls is one a crash can leave. -/
theorem Pass.between (env : Call → Outcome) (n : Nat) :
    Pass std t m ((ensureFileIntegrity std).after (onHost t env) n m) := by
  refine .crashes env n _ fun path hpath => ?_
  refine Prog.after_frame (f := fun m : Host => Disk.find t m.disk path) ?_
  intro c hc m'
  exact answer_find (env c) m' (hpath c hc)

theorem pass_backup (h : Pass std t m m') (hp : p ∈ filePairs) :
    Disk.find t m'.disk p.backup = Disk.find t m.disk p.backup := by
  cases h with
  | ends env =>
    exact check_keeps t env (f := fun m : Host => Disk.find t m.disk p.backup) (ensureFileIntegrity_makes std)
      (fun _ hc => keeps_find (repair_backup hc p hp)) m
  | crashes env n m' left =>
    refine left p.backup ?_
    intro c hc
    exact repair_backup ((ensureFileIntegrity_makes std).calls m c (List.mem_of_mem_take hc)) p hp

theorem passes_backup (h : Relation.ReflTransGen (Pass std t) m m') (hp : p ∈ filePairs) :
    Disk.find t m'.disk p.backup = Disk.find t m.disk p.backup := by
  induction h with
  | refl => rfl
  | tail _ hpass ih => exact (pass_backup hpass hp).trans ih

/-! ## A pass that returns nil -/

/-- The round of a pair whose backup is read ends without an error only with the primary restored. -/
theorem ensurePair_restores {b : Bytes} (hp : p.Distinct t) (hb : m.readOf t env p.backup = some b)
    (hsha : p.NoCollision std t m) (hok : ((ensurePair std p).run (onHost t env) m).1 = .ok ()) :
    Disk.find t ((ensurePair std p).run (onHost t env) m).2.disk p.primary = some b := by
  by_cases hneeded : ∀ d, m.readOf t env p.primary = some d → std.sha256Hex d ≠ std.sha256Hex b
  · refine ensurePair_mends hp hb hneeded fun hfails => ?_
    obtain ⟨e, he⟩ := (ensurePair_error_iff hp).2 hfails
    rw [hok] at he
    cases he
  · push Not at hneeded
    obtain ⟨d, hd, hsame⟩ := hneeded
    have hprimary := readOf_find hd
    have heq : d = b := hsha d b hprimary (readOf_find hb) hsame
    rw [ensurePair_quiet (Or.inr ⟨d, b, hd, hb, hsame⟩)]
    rw [← heq]
    exact hprimary

theorem readOf_backup (hread : (env (.readAll p.backup)).fails = false)
    (hbackup : (Disk.find t m.disk p.backup).isSome) :
    ∃ b, m.readOf t env p.backup = some b ∧ Disk.find t m.disk p.backup = some b := by
  obtain ⟨b, hb⟩ := Option.isSome_iff_exists.1 hbackup
  refine ⟨b, ?_, hb⟩
  rw [Host.readOf, hread, hb]
  rfl

/-- The rounds of a pass that returns nil. -/
theorem ensureFileIntegrity_ok (hok : ((ensureFileIntegrity std).run (onHost t env) m).1 = .ok ()) :
    ((ensurePair std driverPair).run (onHost t env) m).1 = .ok () ∧
    ((ensurePair std servicePair).run (onHost t env) ((ensurePair std driverPair).run (onHost t env) m).2).1 =
      .ok () ∧
    ((ensureFileIntegrity std).run (onHost t env) m).2 = ((ensurePair std servicePair).run (onHost t env)
      ((ensurePair std driverPair).run (onHost t env) m).2).2 := by
  rw [ensureFileIntegrity, ensurePairs] at hok ⊢
  obtain ⟨_, hdriver, hrun⟩ := orReturn_ok hok
  rw [hrun, ensurePairs] at hok ⊢
  obtain ⟨_, hservice, hrest⟩ := orReturn_ok hok
  rw [hrest]
  exact ⟨hdriver, hservice, rfl⟩

/-- **A pass that returns nil** has restored both primaries, whatever it started from. -/
theorem ensureFileIntegrity_restores (hbackups : ∀ p ∈ filePairs, (Disk.find t m.disk p.backup).isSome)
    (hread : ∀ p ∈ filePairs, (env (.readAll p.backup)).fails = false)
    (hsha : ∀ p ∈ filePairs, p.NoCollision std t m)
    (hok : ((ensureFileIntegrity std).run (onHost t env) m).1 = .ok ()) :
    ∀ p ∈ filePairs, Disk.find t ((ensureFileIntegrity std).run (onHost t env) m).2.disk p.primary =
      Disk.find t m.disk p.backup := by
  have hd : driverPair ∈ filePairs := mem_filePairs.2 (Or.inl rfl)
  have hs : servicePair ∈ filePairs := mem_filePairs.2 (Or.inr rfl)
  obtain ⟨hdriver, hservice, hstate⟩ := ensureFileIntegrity_ok hok
  -- the first round leaves the second pair alone, and the second the first primary
  obtain ⟨hprimary, hbackup⟩ := driverRepair_keeps t env std m
  obtain ⟨b₁, hb₁, hfound₁⟩ := readOf_backup (hread driverPair hd) (hbackups driverPair hd)
  obtain ⟨b₂, hb₂, hfound₂⟩ := readOf_backup (hread servicePair hs) (hbackups servicePair hs)
  have hsha' : servicePair.NoCollision std t ((ensurePair std driverPair).run (onHost t env) m).2 := by
    intro d b hd' hb'
    exact hsha servicePair hs d b (hprimary ▸ hd') (hbackup ▸ hb')
  have hfirst := ensurePair_restores (driverPair_distinct t) hb₁ (hsha driverPair hd) hdriver
  have hsecond := ensurePair_restores (servicePair_distinct t) ((readOf_congr hbackup).trans hb₂) hsha' hservice
  intro p hp
  rw [hstate]
  rcases mem_filePairs.1 hp with rfl | rfl
  · rw [serviceRepair_keeps, hfirst, hfound₁]
  · rw [hsecond, hfound₂]

/-- One in which no call fails does. -/
theorem ensureFileIntegrity_returns (hnone : ∀ c, (env c).fails = false) :
    ((ensureFileIntegrity std).run (onHost t env) m).1 = .ok () := by
  have hpair : ∀ (p : FilePair) (m : Host), p.Distinct t →
      ((ensurePair std p).run (onHost t env) m).1 = .ok () := by
    intro p m hp
    cases hr : ((ensurePair std p).run (onHost t env) m).1 with
    | ok u => rfl
    | error e =>
      have hops : p.OpsSucceed env := by
        simp [FilePair.OpsSucceed, CopySucceeds, hnone]
      exact absurd ((ensurePair_error_iff hp).1 ⟨e, hr⟩) (not_repairFails hops)
  rw [ensureFileIntegrity, ensurePairs, run_orReturn_ok (hpair driverPair m (driverPair_distinct t)), ensurePairs,
    run_orReturn_ok (hpair servicePair _ (servicePair_distinct t))]
  rfl

end

/-! ## Every sequence of passes -/

/-- **Repair converges.** Whatever the primaries hold, and however the passes so far ended or were
cut off: the backups are as they were; a pass that reads them and returns nil has made each primary its
backup; and a pass in which no call fails returns nil. -/
theorem repairs_converge (std : GoStd) (t : CaseTables) (m₀ m : Host)
    (hbackups : ∀ p ∈ filePairs, (Disk.find t m₀.disk p.backup).isSome)
    (hpasses : Relation.ReflTransGen (Pass std t) m₀ m) :
    (∀ p ∈ filePairs, Disk.find t m.disk p.backup = Disk.find t m₀.disk p.backup) ∧
    (∀ env : Call → Outcome, (∀ p ∈ filePairs, (env (.readAll p.backup)).fails = false) →
      (∀ p ∈ filePairs, p.NoCollision std t m) → ((ensureFileIntegrity std).run (onHost t env) m).1 = .ok () →
        RestoredFrom t m₀ ((ensureFileIntegrity std).run (onHost t env) m).2) ∧
    ∀ env : Call → Outcome, (∀ c, (env c).fails = false) →
      ((ensureFileIntegrity std).run (onHost t env) m).1 = .ok () := by
  have hsame : ∀ p ∈ filePairs, Disk.find t m.disk p.backup = Disk.find t m₀.disk p.backup :=
    fun p hp => passes_backup hpasses hp
  refine ⟨hsame, ?_, fun env hnone => ensureFileIntegrity_returns hnone⟩
  intro env hread hsha hok p hp
  have hthere : ∀ p ∈ filePairs, (Disk.find t m.disk p.backup).isSome := by
    intro p hp
    rw [hsame p hp]
    exact hbackups p hp
  constructor
  · rw [ensureFileIntegrity_restores hthere hread hsha hok p hp, hsame p hp]
  · exact passes_backup (hpasses.tail (.ends env)) hp

/-! ## A pass after a crash -/

/-- SHA-256 of the two backups of `strippedHost` and of the first byte of one. -/
def tornStd : GoStd where
  sha256Hex := fun data =>
    if data = [77] then "08f271887ce94707da822d5263bae19d5519cb3614e0daedc4c7ce5dab7473f1"
    else workedStd.sha256Hex data
  unmarshal := fun _ => none

/-- The copy of the driver's image comes one byte far. -/
def copyBreaks (c : Call) : Outcome := ⟨c == .copy driverPathBackup driverPathPrimary, "", 1⟩

/-- The machine goes down in it. -/
def tornHost : Host := (ensureFileIntegrity tornStd).after (onHost .ascii copyBreaks) 6 strippedHost

/-- The next pass restores both images. -/
theorem repairs_torn : Disk.find .ascii tornHost.disk driverPathPrimary = some [77] ∧ RestoredFrom .ascii strippedHost
    ((ensureFileIntegrity tornStd).run (onHost .ascii nothingFails) tornHost).2 := by
  have hdisk : tornHost.disk = strippedHost.disk ++ [⟨driverPathPrimary, [77]⟩] := by rfl
  have hconverge := repairs_converge tornStd .ascii strippedHost tornHost worked_backups
    (.single (Pass.between copyBreaks 6))
  refine ⟨?_, hconverge.2.1 nothingFails (fun _ _ => rfl) ?_ (hconverge.2.2 nothingFails fun _ => rfl)⟩
  · rw [hdisk]
    decide
  · intro p hp d b hd hb
    rw [hdisk] at hd hb
    rcases mem_filePairs.1 hp with rfl | rfl
    · obtain rfl : [77] = d := Option.some.inj ((by decide : Disk.find .ascii _ _ = some [77]).symm.trans hd)
      obtain rfl : [77, 90, 1] = b := Option.some.inj ((by decide : Disk.find .ascii _ _ = some _).symm.trans hb)
      decide
    · rw [show Disk.find .ascii _ servicePair.primary = none from by decide] at hd
      cases hd

end Lockguard
