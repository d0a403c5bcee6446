import Lockguard.InstallAccess
/-!
# An install cut off and run again (`Install-Lockguard.ps1:72-387`)

Any number of attempts that are cut off or end with an error, and one more.

| here | there |
| --- | --- |
| `Attempt`          | the account an attempt is made by, the password typed and the salt drawn |
| `Site.Completable` | what the attempts must not have left half done |

What is created only where it is missing is not looked into again: the recovery key, the service `lockguard`
and the service `lockguard-svc`. `install_resumes_iff` is what follows, for accounts the access rules let come to
the end.
-/
namespace Lockguard

open Calls Prog

section
variable {t : CaseTables} {record : RecoveryKey} {i : Installation} {edit : Option (Bytes → Bytes)}

/-! ## What is not looked into again -/

/-- The write leaves the two services alone. -/
def Write.Apart (t : CaseTables) (w : Write) : Prop := ∀ record m, (w.effect t record m).registrations = m.registrations

theorem staging_apart (t : CaseTables) (i : Installation) : ∀ w ∈ i.copies ++ Installation.tighten, w.Apart t := by
  intro w hw
  rcases List.mem_append.1 hw with hw | hw
  · exact forall_copies (P := Write.Apart t) (fun _ _ _ _ => rfl) w hw
  · exact forall_tighten (P := Write.Apart t) (fun _ _ _ => rfl) (fun _ _ _ _ _ => rfl) (fun _ _ _ => rfl) w hw

theorem trustAndBoot_apart (t : CaseTables) (i : Installation) : ∀ w ∈ i.trustAndBoot, w.Apart t := by
  refine forall_trustAndBoot ?_ ?_
  · intro cer _ store record m
    cases store <;> rfl
  · intro args hargs record m
    simp only [List.mem_cons, List.not_mem_nil, or_false] at hargs
    rcases hargs with rfl | rfl | rfl | rfl <;> rfl

theorem copyPolicy_apart (t : CaseTables) : Write.copyPolicy.Apart t := by
  intro record m
  rw [Write.effect]
  split <;> rfl

theorem afterPolicy_apart (t : CaseTables) (i : Installation) : ∀ w ∈ i.afterPolicy, w.Apart t := by
  refine forall_afterPolicy (fun _ _ => rfl) ?_ (fun _ _ => rfl) (fun _ _ _ _ => rfl) fun _ _ _ _ _ => rfl
  intro svc _
  refine ⟨fun record m => ?_, fun record m => ?_⟩ <;> simp [Write.effect, Computer.program]

/-- A part of the script that keeps `I`. -/
theorem always_keeps {I : Computer → Prop} {P : Write → Prop} (hP : ∀ w m, P w → I m → I (w.effect t record m))
    {x : Script Unit} (hx : x.Makes (Command.Writes P)) {m : Computer} (hm : I m) : x.Always (onComputer t record) I m := by
  refine always_of_makes ?_ hx hm
  intro c m hc hI
  cases c with
  | write w => exact hP w m hc hI
  | _ => exact hI

/-- An invariant of the services alone is one of the script, if it is one of the phases that register them. -/
theorem script_always {I : Computer → Prop} (hI : ∀ m m' : Computer, m'.registrations = m.registrations → I m → I m')
    (hdriver : ∀ m, I m → driverService.Always (onComputer t record) I m)
    (hwatchdog : ∀ m, I m → watchdogService.Always (onComputer t record) I m) {m : Computer} (hm : I m) :
    (i.script edit).Always (onComputer t record) I m := by
  have hkeeps : ∀ {x : Script Unit} {m : Computer}, x.Makes (Command.Writes (Write.Apart t)) → I m →
      x.Always (onComputer t record) I m := fun hx hm => always_keeps (fun _ m hw => hI m _ (hw record m)) hx hm
  have hpolicy : (i.policy edit).Makes (Command.Writes (Write.Apart t)) := policy_makes (fun _ _ _ _ => rfl) (fun _ _ _ _ => rfl) (copyPolicy_apart t)
  have hfirst := hkeeps (recovery_makes fun _ _ _ => rfl) hm
  have hcopies := hkeeps (writes_makes fun w hw => staging_apart t i w (List.mem_append_left _ hw)) hfirst.run
  have htighten := hkeeps (writes_makes fun w hw => staging_apart t i w (List.mem_append_right _ hw)) hcopies.run
  have htrust := hkeeps (writes_makes (trustAndBoot_apart t i)) htighten.run
  have hservice := hdriver _ htrust.run
  have hsvc := hwatchdog _ hservice.run
  have hdeployed := hkeeps hpolicy hsvc.run
  have hlast := hkeeps (writes_makes (afterPolicy_apart t i)) hdeployed.run
  have hrest : (i.rest edit).Always (onComputer t record) I _ :=
    always_bind htrust (always_bind hservice (always_bind hsvc (always_bind hdeployed hlast)))
  exact always_bind hfirst (always_bind hcopies (always_bind htighten hrest))

/-! ## The recovery key and the two services, at every command -/

/-- The recovery key, if it was not there, is the record of an attempt once it has the rules of `Set-Acl`. -/
def KeyFrom (records : List RecoveryKey) (s₀ s : Site) : Prop :=
  match s₀.computer.recoveryKey with
  | some key => s.computer.recoveryKey = some key ∧ s.keyRules = s₀.keyRules
  | none => s.keyRules = some recoveryRules → ∀ key, s.computer.recoveryKey = some key → key ∈ records

/-- Registered as it was, or as phase 6 does it, but for the failure actions. -/
def DriverFrom : Option Registration → Option Registration → Prop
  | some r, now => ∃ restarts, now = some { r with restarts := restarts }
  | none, now => ∀ r, now = some r → ∃ restarts, r = { driverRegistration with restarts := restarts } ∨
      r = { driverRegistration with description := "", restarts := restarts }

/-- Registered as it was, or as `serviceInstall` does it. -/
def WatchdogFrom : Option Registration → Option Registration → Prop
  | some r, now => now = some r
  | none, now => ∀ r, now = some r → r = watchdogRegistration ∨ r = { watchdogRegistration with restarts := [] }

theorem always_registry {I : Site → Prop} {steps : List RegistryStep} {s : Site}
    (h : ∀ (n : Nat) (u : Site), u.computer.recoveryKey = (steps.take n).foldl (RegistryStep.effect record) s.computer.recoveryKey →
      u.keyRules = (steps.take n).foldl RegistryStep.keyRules s.keyRules → I u) :
    (writes (steps.map .registry)).Always (onSite t record) I s := by
  induction steps generalizing s with
  | nil => exact h 0 s rfl rfl
  | cons step steps ih => exact ⟨h 0 s rfl rfl, ih fun n u hkey hrules => h (n + 1) u hkey hrules⟩

theorem recovery_key {records : List RecoveryKey} (hrecord : record ∈ records) {s₀ s : Site} (hs : KeyFrom records s₀ s) :
    recovery.Always (onSite t record) (KeyFrom records s₀) s := by
  refine always_call hs ?_
  show Always (onSite t record) _
    (if s.computer.recoveryKey.isSome then return () else writes (registrySteps.map .registry) : Script Unit) s
  cases hkey : s.computer.recoveryKey with
  | some key =>
    rw [Option.isSome_some, if_pos rfl]
    exact hs
  | none =>
    rw [if_neg (by simp)]
    refine always_registry fun n u hnow hrules => ?_
    rw [hkey] at hnow
    cases hkey₀ : s₀.computer.recoveryKey with
    | some key =>
      rw [KeyFrom, hkey₀] at hs
      rw [hs.1] at hkey
      cases hkey
    | none =>
      rw [KeyFrom, hkey₀]
      intro hset key hthere
      rw [hthere] at hnow
      by_cases hn : 5 ≤ n
      · have hfinished : some key = keyAfter record n := hnow
        rw [keyAfter_finished (by omega)] at hfinished
        cases hfinished
        exact hrecord
      · -- `Set-Acl` is still to come
        rw [hset] at hrules
        have hcases : n = 0 ∨ n = 1 ∨ n = 2 ∨ n = 3 ∨ n = 4 := by omega
        rcases hcases with rfl | rfl | rfl | rfl | rfl
        · cases hnow
        all_goals cases hrules

/-- The script after phase 2 leaves the recovery key alone. -/
theorem later_makes (i : Installation) (edit : Option (Bytes → Bytes)) : Makes (Command.Writes fun w => ∀ step, w ≠ .registry step)
    (do writes i.copies; writes Installation.tighten; i.rest edit : Script Unit) := by
  refine makes_bind (writes_makes (forall_copies ?_)) fun _ => makes_bind (writes_makes (forall_tighten ?_ ?_ ?_)) fun _ =>
    rest_makes ?_ ?_ ?_ ?_ ?_ ?_ ?_ ?_ ?_ ?_ ?_ ?_ ?_
  all_goals simp [safeBootWrites]

theorem program_recoveryKey (m : Computer) (cmd : String) (args : List String) :
    (m.program cmd args).recoveryKey = m.recoveryKey := by
  unfold Computer.program
  split <;> rfl

theorem later_key {c : Command} (hc : c.Writes fun w => ∀ step, w ≠ .registry step) (s : Site) :
    (onSite t record c s).2.computer.recoveryKey = s.computer.recoveryKey ∧ (onSite t record c s).2.keyRules = s.keyRules := by
  cases c with
  | write w =>
    cases w with
    | registry step => exact absurd rfl (hc step)
    | copyPolicy =>
      refine ⟨?_, rfl⟩
      show (Write.effect t record s.computer .copyPolicy).recoveryKey = _
      rw [Write.effect]
      split <;> rfl
    | importCertificate cer store => cases store <;> exact ⟨rfl, rfl⟩
    | program cmd args => exact ⟨program_recoveryKey s.computer cmd args, rfl⟩
    | safeBootKey mode => cases mode <;> exact ⟨rfl, rfl⟩
    | safeBootValue mode => cases mode <;> exact ⟨rfl, rfl⟩
    | _ => exact ⟨rfl, rfl⟩
  | _ => exact ⟨rfl, rfl⟩

/-- Wherever an attempt is cut off, the recovery key is as `KeyFrom` says. -/
theorem script_key {records : List RecoveryKey} (hrecord : record ∈ records) {s₀ s : Site} (hs : KeyFrom records s₀ s) :
    (i.script edit).Always (onSite t record) (KeyFrom records s₀) s := by
  have hrecovery := recovery_key (t := t) hrecord hs
  refine always_bind hrecovery (always_of_makes ?_ (later_makes i edit) hrecovery.run)
  intro c u hc hu
  have hkept : (onSite t record c u).2.computer.recoveryKey = u.computer.recoveryKey ∧ (onSite t record c u).2.keyRules = u.keyRules :=
    later_key hc u
  obtain ⟨hkey, hrules⟩ := hkept
  unfold KeyFrom at hu ⊢
  rw [hkey, hrules]
  exact hu

/-- A service registered where it is missing, in two commands. -/
theorem always_registers {J : Option Registration → Prop} {name : String} {w w' : Write} {r u : Registration}
    (hmade : ∀ m : Computer, (w.effect t record m).registrations name = some r)
    (hset : ∀ m : Computer, (w'.effect t record (w.effect t record m)).registrations name = some u) {m : Computer}
    (hm : J (m.registrations name)) (hmissing : J none → J (some r) ∧ J (some u)) :
    (writes (if (m.registrations name).isSome then [] else [w, w'])).Always (onComputer t record) (fun m => J (m.registrations name)) m := by
  cases hreg : m.registrations name with
  | some _ => exact hm
  | none =>
    obtain ⟨hfirst, hsecond⟩ := hmissing (hreg ▸ hm)
    rw [← hmade m] at hfirst
    rw [← hset m] at hsecond
    exact ⟨hm, hfirst, hsecond⟩

/-- A part of the script that leaves the service `name` alone. -/
theorem always_service {J : Option Registration → Prop} {name : String} {x : Script Unit}
    (hx : x.Makes (Command.Writes fun w => ∀ m, (w.effect t record m).registrations name = m.registrations name)) {m : Computer}
    (hm : J (m.registrations name)) : x.Always (onComputer t record) (fun m => J (m.registrations name)) m :=
  always_keeps (fun _ m hw h => (hw m).symm ▸ h) hx hm

theorem DriverFrom.restarted {reg₀ reg : Option Registration} (h : DriverFrom reg₀ reg) (restarts : List Nat) :
    DriverFrom reg₀ (reg.map fun r => { r with restarts := restarts }) := by
  cases reg₀ with
  | some r =>
    obtain ⟨_, rfl⟩ := h
    exact ⟨restarts, rfl⟩
  | none =>
    intro r' hr'
    obtain ⟨r, hr, rfl⟩ := Option.map_eq_some_iff.1 hr'
    obtain ⟨_, rfl | rfl⟩ := h r hr
    · exact ⟨restarts, Or.inl rfl⟩
    · exact ⟨restarts, Or.inr rfl⟩

theorem script_driver {reg₀ : Option Registration} {m : Computer} (hm : DriverFrom reg₀ (m.registrations "lockguard")) :
    (i.script edit).Always (onComputer t record) (fun m => DriverFrom reg₀ (m.registrations "lockguard")) m := by
  refine script_always (fun m m' hregs h => hregs ▸ h) ?_ ?_ hm
  · intro m hm
    have hsafe : ∀ m : Computer, DriverFrom reg₀ (m.registrations "lockguard") →
        (writes safeBootWrites).Always (onComputer t record) (fun m => DriverFrom reg₀ (m.registrations "lockguard")) m := by
      intro m hm
      refine always_keeps (P := fun w => w ∈ safeBootWrites) ?_ (writes_makes fun w hw => hw) hm
      intro w m hw h
      simp only [safeBootWrites, List.mem_cons, List.not_mem_nil, or_false] at hw
      rcases hw with rfl | rfl | rfl | rfl | rfl
      · exact h
      · exact h
      · exact h
      · exact h
      · have hnow : (Write.effect t record m .scFailure).registrations "lockguard" =
            (m.registrations "lockguard").map fun r => { r with restarts := [5000, 5000, 5000] } := onRegistration_self ..
        rw [hnow]
        exact h.restarted _
    have hnew : (writes (if (m.registrations "lockguard").isSome then [] else [.scCreate, .scDescription])).Always
        (onComputer t record) (fun m => DriverFrom reg₀ (m.registrations "lockguard")) m := by
      refine always_registers (r := { driverRegistration with description := "" }) (u := driverRegistration) ?_ ?_ hm ?_
      · exact fun m => by simp [Write.effect]
      · exact fun m => by simp [Write.effect]
      · intro hmissing
        cases reg₀ with
        | some r =>
          obtain ⟨_, hthere⟩ := hmissing
          cases hthere
        | none =>
          refine ⟨?_, ?_⟩
          · rintro r ⟨⟩
            exact ⟨_, Or.inr rfl⟩
          · rintro r ⟨⟩
            exact ⟨_, Or.inl rfl⟩
    exact always_call hm (always_bind hnew (hsafe _ hnew.run))
  · intro m hm
    exact always_service (watchdogService_makes ⟨fun _ => rfl, fun _ => rfl⟩) hm

theorem script_watchdog {reg₀ : Option Registration} {m : Computer} (hm : WatchdogFrom reg₀ (m.registrations "lockguard-svc")) :
    (i.script edit).Always (onComputer t record) (fun m => WatchdogFrom reg₀ (m.registrations "lockguard-svc")) m := by
  refine script_always (fun m m' hregs h => hregs ▸ h) ?_ ?_ hm
  · intro m hm
    refine always_service (driverService_makes ⟨fun _ => rfl, fun _ => rfl⟩ ?_) hm
    intro w hw m
    simp only [safeBootWrites, List.mem_cons, List.not_mem_nil, or_false] at hw
    rcases hw with rfl | rfl | rfl | rfl | rfl <;> rfl
  · intro m hm
    refine always_call hm (always_registers (r := { watchdogRegistration with restarts := [] }) (u := watchdogRegistration) ?_ ?_ hm ?_)
    · exact fun m => by simp [Write.effect]
    · exact fun m => by simp [Write.effect]
    · intro hmissing
      cases reg₀ with
      | some r => cases hmissing
      | none =>
        refine ⟨?_, ?_⟩
        · rintro r ⟨⟩
          exact Or.inr rfl
        · rintro r ⟨⟩
          exact Or.inl rfl

/-! ## What the script leaves of them -/

theorem after_computer (n : Nat) (s : Site) :
    ((i.script edit).after (onSite t record) n s).computer = (i.script edit).after (onComputer t record) n s.computer :=
  (after_forget (f := Site.computer) (fun _ _ => rfl) (i.script edit) n s).symm

theorem completed_computer (s : Site) :
    ((i.script edit).run (onSite t record) s).2.computer = i.completed edit t record s.computer := by
  rw [run_computer, script_run]

theorem completed_rules (s : Site) : ((i.script edit).run (onSite t record) s).2.keyRules =
    if s.computer.recoveryKey.isSome then s.keyRules else some recoveryRules := by
  have hrest : ((i.script edit).run (onSite t record) s).2.keyRules = (recovery.run (onSite t record) s).2.keyRules := by
    rw [Installation.script, Prog.run_bind]
    exact run_frame (f := Site.keyRules) (fun c u hc => (later_key hc u).2) (later_makes i edit) _
  have hfirst : recovery.run (onSite t record) s =
      (if s.computer.recoveryKey.isSome then return () else writes (registrySteps.map .registry) : Script Unit).run (onSite t record) s :=
    rfl
  rw [hrest, hfirst]
  split <;> rfl

theorem completed_driver (m : Computer) : (i.completed edit t record m).registrations "lockguard" =
    some { (m.registrations "lockguard").getD driverRegistration with restarts := [5000, 5000, 5000] } := by
  have hinstalled : (i.completed edit t record m).registrations = (Installation.phase7 (Installation.phase6 m)).registrations := rfl
  rw [hinstalled, Installation.phase7]
  split <;> simp [Installation.phase6]

theorem completed_watchdog (m : Computer) : (i.completed edit t record m).registrations "lockguard-svc" =
    some ((m.registrations "lockguard-svc").getD watchdogRegistration) := by
  have hinstalled : (i.completed edit t record m).registrations = (Installation.phase7 (Installation.phase6 m)).registrations := rfl
  have hkept : (Installation.phase6 m).registrations "lockguard-svc" = m.registrations "lockguard-svc" := by
    simp [Installation.phase6]
  rw [hinstalled, Installation.phase7, ← hkept]
  cases hreg : (Installation.phase6 m).registrations "lockguard-svc" with
  | some r => exact hreg
  | none => simp

end

/-! ## Attempts -/

structure Attempt where
  account : Account
  password : List WCHAR
  salt : Bytes32

/-- Nothing tells the two apart. -/
structure Site.Alike (t : CaseTables) (s s' : Site) : Prop where
  view : s.computer.view t = s'.computer.view t
  key : s.computer.recoveryKey = s'.computer.recoveryKey
  rules : s.keyRules = s'.keyRules
  folders : s.folders = s'.folders
  services : ∀ name ∈ serviceNames, s.computer.registrations name = s'.computer.registrations name

/-- Where `s` was, nothing has been left half done: what is created only where it is missing is not there, or as
it should be. -/
structure Site.Completable (s now : Site) : Prop where
  key : s.computer.recoveryKey = none → now.computer.recoveryKey ≠ none → now.keyRules = some recoveryRules
  driver : s.computer.registrations "lockguard" = none →
    ∀ r, now.computer.registrations "lockguard" = some r → r.description ≠ ""
  watchdog : s.computer.registrations "lockguard-svc" = none →
    ∀ r, now.computer.registrations "lockguard-svc" = some r → r.restarts ≠ []

section
variable (ps : PowerShell) (hmac : Hmac) (pbkdf2 : Pbkdf2)

/-- The record phase 2 computes. -/
def Attempt.record (a : Attempt) : RecoveryKey :=
  recordOf a.salt 1000000 (verifierOf hmac (pbkdf2 (ps.utf8 a.password) a.salt.toList 1000000))

/-- What attempts come to that are each cut off after so many commands, or end with an error before. -/
def Installation.attempted (t : CaseTables) (i : Installation) (edit : Option (Bytes → Bytes)) (s : Site)
    (attempts : List (Attempt × Nat)) : Site :=
  attempts.foldl (fun s a => ((i.script edit).after (onSession t (a.1.record ps hmac pbkdf2) a.1.account) a.2 (s, false)).1) s

variable {ps hmac pbkdf2} {t : CaseTables} {i : Installation} {edit : Option (Bytes → Bytes)} {attempts : List (Attempt × Nat)} {s₀ s now : Site}

/-- An attempt is a run without errors, cut off somewhere. -/
theorem attempted_cons (t : CaseTables) (ps : PowerShell) (hmac : Hmac) (pbkdf2 : Pbkdf2) (i : Installation)
    (edit : Option (Bytes → Bytes)) (s : Site) (a : Attempt × Nat) (attempts : List (Attempt × Nat)) :
    ∃ k, i.attempted ps hmac pbkdf2 t edit s (a :: attempts) =
      i.attempted ps hmac pbkdf2 t edit ((i.script edit).after (onSite t (a.1.record ps hmac pbkdf2)) k s) attempts := by
  obtain ⟨k, hk⟩ := after_stopping (h := onSite t (a.1.record ps hmac pbkdf2)) (i.script edit) a.2 s
  exact ⟨k, congrArg (fun s => i.attempted ps hmac pbkdf2 t edit s attempts) hk⟩

theorem attempted_view (hxml : ∃ f ∈ i.bundle.staged, f.1 = wdacXml) (record : RecoveryKey) (s : Site) (attempts : List (Attempt × Nat)) :
    (i.completed edit t record (i.attempted ps hmac pbkdf2 t edit s attempts).computer).view t =
      (i.completed edit t record s.computer).view t := by
  induction attempts generalizing s with
  | nil => rfl
  | cons a attempts ih =>
    obtain ⟨k, hk⟩ := attempted_cons t ps hmac pbkdf2 i edit s a attempts
    rw [hk, ih, after_computer]
    exact after_completed hxml _ _ _

theorem attempted_tightened (s : Site) (attempts : List (Attempt × Nat)) :
    (fun f => ((i.attempted ps hmac pbkdf2 t edit s attempts).folders f).tightened) = fun f => (s.folders f).tightened := by
  induction attempts generalizing s with
  | nil => rfl
  | cons a attempts ih =>
    obtain ⟨k, hk⟩ := attempted_cons t ps hmac pbkdf2 i edit s a attempts
    rw [hk, ih]
    exact after_tightened k s

/-- How the recovery key and the services come out of attempts. -/
structure AttemptedFrom (records : List RecoveryKey) (s₀ s : Site) : Prop where
  key : KeyFrom records s₀ s
  driver : DriverFrom (s₀.computer.registrations "lockguard") (s.computer.registrations "lockguard")
  watchdog : WatchdogFrom (s₀.computer.registrations "lockguard-svc") (s.computer.registrations "lockguard-svc")

theorem attempted_from {records : List RecoveryKey} (hrecords : ∀ a ∈ attempts, a.1.record ps hmac pbkdf2 ∈ records)
    (hs : AttemptedFrom records s₀ s) : AttemptedFrom records s₀ (i.attempted ps hmac pbkdf2 t edit s attempts) := by
  induction attempts generalizing s with
  | nil => exact hs
  | cons a attempts ih =>
    obtain ⟨k, hk⟩ := attempted_cons t ps hmac pbkdf2 i edit s a attempts
    rw [hk]
    refine ih (fun b hb => hrecords b (List.mem_cons_of_mem a hb)) ?_
    refine ⟨(script_key (hrecords a (List.mem_cons_self ..)) hs.key).after k, ?_, ?_⟩
    · rw [after_computer]
      exact (script_driver hs.driver).after k
    · rw [after_computer]
      exact (script_watchdog hs.watchdog).after k

/-- The same, of attempts on `s` itself. -/
theorem attempted_start (t : CaseTables) (ps : PowerShell) (hmac : Hmac) (pbkdf2 : Pbkdf2) (i : Installation)
    (edit : Option (Bytes → Bytes)) (s : Site) (attempts : List (Attempt × Nat)) :
    AttemptedFrom (attempts.map fun a => a.1.record ps hmac pbkdf2) s (i.attempted ps hmac pbkdf2 t edit s attempts) := by
  refine attempted_from (fun a ha => List.mem_map_of_mem (f := fun a => a.1.record ps hmac pbkdf2) ha) ⟨?_, ?_, ?_⟩
  · unfold KeyFrom
    cases hkey : s.computer.recoveryKey with
    | none => exact fun _ _ h => by cases h
    | some key => exact ⟨rfl, rfl⟩
  · cases s.computer.registrations "lockguard" with
    | none => exact fun _ h => by cases h
    | some r => exact ⟨r.restarts, rfl⟩
  · cases s.computer.registrations "lockguard-svc" with
    | none => exact fun _ h => by cases h
    | some r => rfl

/-! ## Completing an install -/

theorem completable_of_alike {record record' : RecoveryKey}
    (h : ((i.script edit).run (onSite t record) now).2.Alike t ((i.script edit).run (onSite t record') s).2) : s.Completable now := by
  refine ⟨?_, ?_, ?_⟩
  · intro hnone hthere
    have hrules := h.rules
    rw [completed_rules, completed_rules, hnone, if_pos (Option.isSome_iff_ne_none.2 hthere)] at hrules
    exact hrules
  · intro hnone r hthere hempty
    have hservice := h.services "lockguard" (by simp [serviceNames])
    rw [completed_computer, completed_computer, completed_driver, completed_driver, hnone, hthere] at hservice
    have hdescription : some r.description = some driverRegistration.description :=
      congrArg (Option.map Registration.description) hservice
    rw [hempty] at hdescription
    exact absurd hdescription (by decide)
  · intro hnone r hthere hempty
    have hservice := h.services "lockguard-svc" (by simp [serviceNames])
    rw [completed_computer, completed_computer, completed_watchdog, completed_watchdog, hnone, hthere] at hservice
    have hrestarts : some r.restarts = some watchdogRegistration.restarts := congrArg (Option.map Registration.restarts) hservice
    rw [hempty] at hrestarts
    exact absurd hrestarts (by decide)

theorem rules_of_completable {records : List RecoveryKey} {record record' : RecoveryKey} (hkey : KeyFrom records s now)
    (h : s.Completable now) :
    ((i.script edit).run (onSite t record) now).2.keyRules = ((i.script edit).run (onSite t record') s).2.keyRules := by
  rw [completed_rules, completed_rules]
  cases hkey₀ : s.computer.recoveryKey with
  | some key =>
    rw [KeyFrom, hkey₀] at hkey
    rw [hkey.1, hkey.2]
  | none =>
    cases hnow : now.computer.recoveryKey with
    | none => rfl
    | some key =>
      have hset := h.key hkey₀ (by simp [hnow])
      rw [hset]
      rfl

theorem services_of_completable {record record' : RecoveryKey} {m m' : Computer}
    (hdriver : DriverFrom (m.registrations "lockguard") (m'.registrations "lockguard"))
    (hwatchdog : WatchdogFrom (m.registrations "lockguard-svc") (m'.registrations "lockguard-svc"))
    (hdescribed : m.registrations "lockguard" = none → ∀ r, m'.registrations "lockguard" = some r → r.description ≠ "")
    (hset : m.registrations "lockguard-svc" = none → ∀ r, m'.registrations "lockguard-svc" = some r → r.restarts ≠ []) :
    ∀ name ∈ serviceNames, (i.completed edit t record m').registrations name = (i.completed edit t record' m).registrations name := by
  intro name hname
  simp only [serviceNames, List.mem_cons, List.not_mem_nil, or_false] at hname
  rcases hname with rfl | rfl
  · rw [completed_driver, completed_driver]
    cases hreg₀ : m.registrations "lockguard" with
    | some r =>
      rw [hreg₀] at hdriver
      obtain ⟨restarts, hreg⟩ := hdriver
      rw [hreg]
      rfl
    | none =>
      rw [hreg₀] at hdriver
      cases hreg : m'.registrations "lockguard" with
      | none => rfl
      | some r =>
        obtain ⟨restarts, rfl | rfl⟩ := hdriver r hreg
        · rfl
        · exact absurd rfl (hdescribed hreg₀ _ hreg)
  · rw [completed_watchdog, completed_watchdog]
    cases hreg₀ : m.registrations "lockguard-svc" with
    | some r =>
      rw [hreg₀] at hwatchdog
      have hreg : m'.registrations "lockguard-svc" = some r := hwatchdog
      rw [hreg]
    | none =>
      rw [hreg₀] at hwatchdog
      cases hreg : m'.registrations "lockguard-svc" with
      | none => rfl
      | some r =>
        rcases hwatchdog r hreg with rfl | rfl
        · rfl
        · exact absurd rfl (hset hreg₀ _ hreg)

/-- Completed without errors, the attempts come to what one of them would have come to. -/
theorem resumes_of_completable (hbundle : i.Complete) (last : Attempt)
    (h : s.Completable (i.attempted ps hmac pbkdf2 t edit s attempts)) : ∃ a ∈ attempts.map Prod.fst ++ [last],
      ((i.script edit).run (onSite t (last.record ps hmac pbkdf2)) (i.attempted ps hmac pbkdf2 t edit s attempts)).2.Alike t
        ((i.script edit).run (onSite t (a.record ps hmac pbkdf2)) s).2 := by
  obtain ⟨hkey, hdriver, hwatchdog⟩ := attempted_start t ps hmac pbkdf2 i edit s attempts
  -- the attempt whose record is there in the end
  have hcreator : ∃ a ∈ attempts.map Prod.fst ++ [last],
      (i.attempted ps hmac pbkdf2 t edit s attempts).computer.recoveryKey.getD (last.record ps hmac pbkdf2) =
        s.computer.recoveryKey.getD (a.record ps hmac pbkdf2) := by
    cases hkey₀ : s.computer.recoveryKey with
    | some key =>
      rw [KeyFrom, hkey₀] at hkey
      refine ⟨last, by simp, ?_⟩
      rw [hkey.1, Option.getD_some]
    | none =>
      rw [KeyFrom, hkey₀] at hkey
      cases hnow : (i.attempted ps hmac pbkdf2 t edit s attempts).computer.recoveryKey with
      | none => exact ⟨last, by simp, rfl⟩
      | some key =>
        have hmem := hkey (h.key hkey₀ (by simp [hnow])) key hnow
        obtain ⟨a, ha, rfl⟩ := List.mem_map.1 hmem
        exact ⟨a.1, List.mem_append_left _ (List.mem_map_of_mem ha), rfl⟩
  obtain ⟨a, ha, hrecord⟩ := hcreator
  refine ⟨a, ha, ?_, ?_, rules_of_completable hkey h, ?_, ?_⟩
  · rw [completed_computer, completed_computer, attempted_view (hbundle wdacXml (by simp)), view_completed, view_completed]
  · rw [completed_computer, completed_computer]
    exact congrArg some hrecord
  · rw [completed_folders, completed_folders, attempted_tightened]
  · rw [completed_computer, completed_computer]
    exact services_of_completable hdriver hwatchdog h.driver h.watchdog

end

/-- The bundle with the two files in it. -/
def shippedInstallation : Installation :=
  { workedInstallation with bundle := { workedInstallation.bundle with
      config := [(wide "WDACPolicy.xml", [60, 63]), (wide "lockguard.json", [123, 125])] } }

/-- An edit of the policy. -/
def enforceMode : Option (Bytes → Bytes) := some (List.drop 1)

/-- A computer without Lockguard, where administrators may do anything below `C:\ProgramData` and `C:\Windows`. -/
def freshSite : Site := ⟨freshComputer, none, fun _ => ⟨[⟨"BUILTIN\\Administrators", ["F"]⟩], []⟩⟩

def administrator : Account := ⟨["BUILTIN\\Administrators"], by decide⟩

def trustedInstaller : Account := ⟨["BUILTIN\\Administrators", "NT SERVICE\\TrustedInstaller"], by decide⟩

def attemptBy (account : Account) : Attempt := ⟨account, wide "Correct-Horse-1", zero32⟩

/-- What an administrator comes to: the watchdog may not be run. -/
def stoppedSite : Site :=
  shippedInstallation.attempted Worked.ps Worked.hmacTable Worked.pbkdf2Table .ascii enforceMode freshSite [(attemptBy administrator, 60)]

theorem stoppedSite_watchdog : stoppedSite.computer.registrations "lockguard-svc" = none := by rfl

theorem stoppedSite_completable : freshSite.Completable stoppedSite := by
  have hrules : stoppedSite.keyRules = some recoveryRules := by rfl
  have hdriver : stoppedSite.computer.registrations "lockguard" =
      some { driverRegistration with restarts := [5000, 5000, 5000] } := by rfl
  refine ⟨fun _ _ => hrules, fun _ r hr => ?_, fun _ r hr => ?_⟩
  · rw [hdriver] at hr
    cases hr
    decide
  · rw [stoppedSite_watchdog] at hr
    cases hr

theorem stoppedSite_admits : stoppedSite.Admits trustedInstaller := by
  refine ⟨?_, by decide +kernel, fun _ => by decide +kernel⟩
  rintro (_ | _) <;> decide +kernel

end Lockguard
