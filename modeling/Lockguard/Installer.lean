import Lockguard.Recover
/-!
# The installer's recovery record (`Install-Lockguard.ps1:95-154`)

| here | there |
| --- | --- |
| `InstallerRun`             | one run: what is typed, the salt drawn, where it stops |
| `RegistryStep`             | the registry commands of phase 2, `New-Item` to `Set-Acl` |
| `phase2`                   | phase 2: skipped when the key is there, whatever is in it |

`New-Item` makes the key before the record is in it, and the next run asks for the key only. So a
run that stops in between leaves a key without a verifier that no later run completes:
`installer_complete_iff`.
-/
namespace Lockguard

/-! ## Phase 2 -/

inductive RegistryStep where
  | newItem
  | installSalt
  | iterations
  | verifier
  | setAcl
deriving DecidableEq

def registrySteps : List RegistryStep := [.newItem, .installSalt, .iterations, .verifier, .setAcl]

/-- What a step makes of the recovery key, `none` for no key. -/
def RegistryStep.effect (record : RecoveryKey) (key : Option RecoveryKey) : RegistryStep → Option RecoveryKey
  | .newItem => some ⟨none, none, none⟩
  | .installSalt => key.map fun k => { k with installSalt := record.installSalt }
  | .iterations => key.map fun k => { k with iterations := record.iterations }
  | .verifier => key.map fun k => { k with verifier := record.verifier }
  | .setAcl => key

/-- A run stops after so many of the steps, or comes through phase 2. -/
structure InstallerRun where
  typed : List (List WCHAR × List WCHAR)
  salt : Bytes32
  stopsAfter : Option Nat

structure Phase2 where
  through : Bool
  key : Option RecoveryKey

/-- `Read-StrongPassword` (`:95-106`). -/
def PowerShell.readStrongPassword (ps : PowerShell) : List (List WCHAR × List WCHAR) → Option (List WCHAR) :=
  firstAccepted ps.strongPassword

section
variable (ps : PowerShell) (hmac : Hmac) (pbkdf2 : Pbkdf2)

def phase2 (key : Option RecoveryKey) (r : InstallerRun) : Phase2 :=
  match key with
  | some key => ⟨r.stopsAfter.isNone, some key⟩
  | none =>
    match ps.readStrongPassword r.typed with
    | none => ⟨false, none⟩
    | some pw =>
      let iterations := 1000000
      let derivedKey := pbkdf2 (ps.utf8 pw) r.salt.toList iterations
      let record := recordOf r.salt iterations (verifierOf hmac derivedKey)
      match r.stopsAfter with
      | none => ⟨true, registrySteps.foldl (RegistryStep.effect record) none⟩
      | some n => ⟨false, (registrySteps.take n).foldl (RegistryStep.effect record) none⟩

/-- The key after runs on a registry without one. -/
def installerRuns (rs : List InstallerRun) : Option RecoveryKey :=
  rs.foldl (fun key r => (phase2 ps hmac pbkdf2 key r).key) none

/-- The key holds a record of a password entered in one of the runs, and the driver accepts it. -/
def HoldsRecord (rs : List InstallerRun) (key : Option RecoveryKey) : Prop :=
  ∃ r ∈ rs, ∃ pw, ps.readStrongPassword r.typed = some pw ∧ ∃ salt iter, iter < 2 ^ 32 ∧
    let record := recordOf salt iter (verifierOf hmac (pbkdf2 (ps.utf8 pw) salt.toList iter))
    key = some record ∧ ∀ before : Recovery, ntSuccess (lgRecoveryLoadVerifier record.reads before).1 = true

/-- On a registry without the key, the run creates it. -/
def InstallerRun.creates (r : InstallerRun) : Bool :=
  (ps.readStrongPassword r.typed).isSome && r.stopsAfter != some 0

end

/-- The run does not stop before the fourth step, the write of `Verifier`, is done. -/
def InstallerRun.Finishes (r : InstallerRun) : Prop := ∀ n, r.stopsAfter = some n → 4 ≤ n

section
variable {ps : PowerShell} {hmac : Hmac} {pbkdf2 : Pbkdf2}

/-! ## What one run does -/

/-- The key as it is after so many steps. -/
def keyAfter (record : RecoveryKey) (n : Nat) : Option RecoveryKey :=
  (registrySteps.take n).foldl (RegistryStep.effect record) none

theorem keyAfter_finished {record : RecoveryKey} {n : Nat} (hn : 4 ≤ n) : keyAfter record n = some record := by
  have hcases : n = 4 ∨ registrySteps.take n = registrySteps := by
    rcases Nat.lt_or_ge n 5 with hlt | hge
    · exact Or.inl (by omega)
    · exact Or.inr (List.take_of_length_le hge)
  rcases hcases with rfl | hall
  · rfl
  · rw [keyAfter, hall]
    rfl

/-- Stopped after `New-Item` and before the last write, the key has no verifier. -/
theorem keyAfter_unfinished (record : RecoveryKey) {n : Nat} (hpos : 0 < n) (hn : n < 4) :
    ∃ key, keyAfter record n = some key ∧ key.verifier = none := by
  have hcases : n = 1 ∨ n = 2 ∨ n = 3 := by omega
  rcases hcases with rfl | rfl | rfl <;> exact ⟨_, rfl, rfl⟩

theorem keyAfter_some (record : RecoveryKey) {n : Nat} (hpos : 0 < n) : ∃ key, keyAfter record n = some key := by
  by_cases hn : 4 ≤ n
  · exact ⟨record, keyAfter_finished hn⟩
  · obtain ⟨key, hkey, -⟩ := keyAfter_unfinished record hpos (by omega)
    exact ⟨key, hkey⟩

/-- What a run that creates the key leaves in it. -/
theorem phase2_creates (hmac : Hmac) (pbkdf2 : Pbkdf2) {r : InstallerRun} (h : r.creates ps = true) : ∃ pw n,
    ps.readStrongPassword r.typed = some pw ∧ 0 < n ∧ (r.Finishes ↔ 4 ≤ n) ∧
    (phase2 ps hmac pbkdf2 none r).key =
      keyAfter (recordOf r.salt 1000000 (verifierOf hmac (pbkdf2 (ps.utf8 pw) r.salt.toList 1000000))) n := by
  obtain ⟨hpw, hstop⟩ := Bool.and_eq_true_iff.1 h
  obtain ⟨pw, hpw⟩ := Option.isSome_iff_exists.1 hpw
  cases hs : r.stopsAfter with
  | none =>
    refine ⟨pw, 5, hpw, by omega, iff_of_true ?_ (by omega), ?_⟩
    · intro n hn
      rw [hs] at hn
      cases hn
    · simp only [phase2, hpw, hs]
      rfl
  | some n =>
    rw [hs] at hstop
    have hpos : 0 < n := by
      have hne : n ≠ 0 := by simpa using hstop
      omega
    refine ⟨pw, n, hpw, hpos, ?_, ?_⟩
    · simp [InstallerRun.Finishes, hs]
    · simp only [phase2, hpw, hs]
      rfl

/-- A run that does not create the key neither leaves one nor comes through. -/
theorem phase2_not_creates {r : InstallerRun} (h : r.creates ps = false) :
    (phase2 ps hmac pbkdf2 none r).key = none ∧ (phase2 ps hmac pbkdf2 none r).through = false := by
  unfold phase2
  simp only
  cases hpw : ps.readStrongPassword r.typed with
  | none => exact ⟨rfl, rfl⟩
  | some pw =>
    have hstop : r.stopsAfter = some 0 := by simpa [InstallerRun.creates, hpw] using h
    simp only [hstop]
    exact ⟨rfl, trivial⟩

/-! ## Runs -/

theorem runs_present (key : RecoveryKey) (rs : List InstallerRun) :
    rs.foldl (fun key r => (phase2 ps hmac pbkdf2 key r).key) (some key) = some key := by
  induction rs with
  | nil => rfl
  | cons r rs ih => exact ih

/-- **The first run that creates the key decides** what is in it. -/
theorem installerRuns_eq (rs : List InstallerRun) :
    installerRuns ps hmac pbkdf2 rs = (rs.find? (InstallerRun.creates ps)).bind fun r =>
      (phase2 ps hmac pbkdf2 none r).key := by
  induction rs with
  | nil => rfl
  | cons r rs ih =>
    unfold installerRuns at ih ⊢
    rw [List.foldl_cons, List.find?_cons]
    cases hc : r.creates ps with
    | false =>
      rw [(phase2_not_creates hc).1]
      exact ih
    | true =>
      obtain ⟨pw, n, -, hpos, -, hkey⟩ := phase2_creates hmac pbkdf2 hc
      obtain ⟨key, hsome⟩ := keyAfter_some
        (recordOf r.salt 1000000 (verifierOf hmac (pbkdf2 (ps.utf8 pw) r.salt.toList 1000000))) hpos
      rw [hkey, hsome, runs_present, Option.bind_some, hkey, hsome]

/-- A run that comes through phase 2 has left a key, its own or an earlier one. -/
theorem creator_of_through {rs : List InstallerRun} {last : InstallerRun}
    (h : (phase2 ps hmac pbkdf2 (installerRuns ps hmac pbkdf2 rs) last).through = true) :
    ∃ r, (rs ++ [last]).find? (InstallerRun.creates ps) = some r := by
  rw [← Option.isSome_iff_exists]
  by_contra hno
  have hnone : ∀ r ∈ rs ++ [last], ¬ r.creates ps = true := by
    rw [← List.find?_eq_none]
    simpa using hno
  have hbefore : installerRuns ps hmac pbkdf2 rs = none := by
    rw [installerRuns_eq, List.find?_eq_none.2 fun r hr => hnone r (by simp [hr])]
    rfl
  have hlast : last.creates ps = false := by simpa using hnone last (by simp)
  rw [hbefore, (phase2_not_creates hlast).2] at h
  cases h

theorem recordOf_loads (salt v : Bytes32) (iter : Nat) (r : Recovery) :
    ntSuccess (lgRecoveryLoadVerifier (recordOf salt iter v).reads r).1 = true := by
  simp [lgRecoveryLoadVerifier, RecoveryKey.reads, recordOf, zwQueryValueKey, lgReadRegBytes, lgReadRegDword,
    checked, bind, Except.bind, lgSaltMaxLen, lgVerifierLen]

/-- **When the installer leaves a usable record.** After runs that stopped anywhere and a last one
that comes through phase 2, the key holds a record of a password typed in one of them exactly when
the first run that created it did not stop before it had written `Verifier`. -/
theorem installer_complete_iff (ps : PowerShell) (hmac : Hmac) (pbkdf2 : Pbkdf2) (rs : List InstallerRun)
    (last : InstallerRun) (h : (phase2 ps hmac pbkdf2 (installerRuns ps hmac pbkdf2 rs) last).through = true) :
    HoldsRecord ps hmac pbkdf2 (rs ++ [last]) (installerRuns ps hmac pbkdf2 (rs ++ [last])) ↔
      ∀ r, (rs ++ [last]).find? (InstallerRun.creates ps) = some r → r.Finishes := by
  obtain ⟨r, hr⟩ := creator_of_through h
  have hmem : r ∈ rs ++ [last] := List.mem_of_find?_eq_some hr
  obtain ⟨pw, n, hpw, hpos, hfin, hkey⟩ :=
    phase2_creates hmac pbkdf2 (List.find?_some hr)
  rw [installerRuns_eq, hr, Option.bind_some, hkey]
  simp only [Option.some.injEq, forall_eq', hfin]
  constructor
  · rintro ⟨_, -, _, -, salt, iter, -, hrecord, -⟩
    by_contra hn
    obtain ⟨key, hafter, hverifier⟩ := keyAfter_unfinished
      (recordOf r.salt 1000000 (verifierOf hmac (pbkdf2 (ps.utf8 pw) r.salt.toList 1000000))) hpos
      (by omega : n < 4)
    rw [hafter] at hrecord
    rw [Option.some.inj hrecord] at hverifier
    cases hverifier
  · intro hn
    exact ⟨r, hmem, pw, hpw, r.salt, 1000000, by decide, keyAfter_finished hn, recordOf_loads _ _ _⟩

end

/-! ## Worked runs -/

namespace Worked

def installerRun (stopsAfter : Option Nat) : InstallerRun where
  typed := [(wide "Correct-Horse-1", wide "Correct-Horse-1")]
  salt := Vector.replicate 32 5
  stopsAfter := stopsAfter

end Worked

open Worked in
/-- A prompt closed, then a run cut off while it sets the permissions, then one that comes through. -/
theorem installer_complete_late :
    HoldsRecord ps hmacTable pbkdf2Table [⟨[], zero32, some 0⟩, installerRun (some 4), installerRun none]
      (installerRuns ps hmacTable pbkdf2Table [⟨[], zero32, some 0⟩, installerRun (some 4), installerRun none]) := by
  refine (installer_complete_iff ps hmacTable pbkdf2Table [⟨[], zero32, some 0⟩, installerRun (some 4)]
    (installerRun none) (by decide +kernel)).2 ?_
  intro r hr
  have hfirst : [⟨[], zero32, some 0⟩, installerRun (some 4), installerRun none].find? (InstallerRun.creates ps) =
      some (installerRun (some 4)) := by rfl
  cases hfirst.symm.trans hr
  intro n hn
  cases hn
  decide

open Worked in
/-- A run cut off after `New-Item`, then one that comes through: the key is left empty. -/
theorem installer_incomplete :
    (phase2 ps hmacTable pbkdf2Table (installerRuns ps hmacTable pbkdf2Table [installerRun (some 1)])
      (installerRun none)).through = true ∧
    ¬ HoldsRecord ps hmacTable pbkdf2Table [installerRun (some 1), installerRun none]
      (installerRuns ps hmacTable pbkdf2Table [installerRun (some 1), installerRun none]) := by
  have hempty : installerRuns ps hmacTable pbkdf2Table [installerRun (some 1), installerRun none] =
      some ⟨none, none, none⟩ := by decide +kernel
  refine ⟨by decide +kernel, ?_⟩
  rintro ⟨_, -, _, -, salt, iter, -, hrecord, -⟩
  rw [hempty] at hrecord
  cases hrecord

end Lockguard
