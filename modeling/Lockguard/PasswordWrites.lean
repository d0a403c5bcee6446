import Lockguard.Recover
/-!
# Changes of the password that fail

| here | there |
| --- | --- |
| `Interruption`             | where the program dies, which registry calls fail for a reason of their own |
| `PasswordTool.changeUntil` | `PasswordTool.change` under an interruption; a program that died has no result |
| `RecordReader`             | how a tool's check reads the three values, one by one |

The record is written salt first, each value in its own call. A change that fails before its first
write leaves the record as it was; one that fails later leaves new values beside old ones, which no
password fits but by coincidence (`failed_change_iff`).
-/
namespace Lockguard

/-! ## Interruptions -/

/-- How a registry call ends once the callback has let it through, or that the program dies before it. -/
inductive CallEnd where
  | done
  | fails
  | dies
deriving DecidableEq

/-- A point before the writes: the password not yet checked, the nonce not yet answered, or the new
password not yet taken. -/
inductive Stage where
  | check
  | unlock
  | newPassword
deriving DecidableEq

/-- `calls n` is how the `n`-th registry call ends; after the last of them the program may still die
before it reports. -/
structure Interruption where
  diesAt : Option Stage
  calls : Nat → CallEnd

def Interruption.none : Interruption := ⟨.none, fun _ => .done⟩

/-- What a run that may be cut off leaves. -/
structure CutRun where
  result : Option (Except ClientError Unit)
  machine : Machine

/-- `registryCalls` from the `n`-th call on. -/
def cutCalls (t : CaseTables) (calls : Nat → CallEnd) : Nat → List RegCall → Machine → CutRun
  | n, [], m => if calls n = .dies then ⟨none, m⟩ else ⟨some (.ok ()), m⟩
  | n, c :: cs, m =>
    if calls n = .dies then ⟨none, m⟩
    else
      let r := lgRegistryCallback t c.notification c.now m.driver
      if !ntSuccess r.value ∨ calls n = .fails then ⟨some (.error c.failure), { m with driver := r.driver }⟩
      else cutCalls t calls (n + 1) cs ⟨r.driver, c.effect m.key⟩

section
variable {hmac : Hmac} {pbkdf2 : Pbkdf2} {α : Type}

def PasswordTool.writeRecordUntil (t : CaseTables) (tool : PasswordTool hmac pbkdf2 α) (i : Interruption)
    (c : PasswordChange α) (m : Machine) : CutRun :=
  match tool.readNewPassword c.typed with
  | none => ⟨some (.error .newPassword), m⟩
  | some pw =>
    match c.salt with
    | none => ⟨some (.error .random), m⟩
    | some salt => cutCalls t i.calls 0 (tool.recordCalls c salt (tool.newVerifier salt pw)) m

def PasswordTool.changeUntil (t : CaseTables) (tool : PasswordTool hmac pbkdf2 α) (i : Interruption)
    (c : PasswordChange α) (m : Machine) : CutRun :=
  if i.diesAt = some .check then ⟨none, m⟩
  else match tool.check m.key c.current with
  | .error e => ⟨some (.error e), m⟩
  | .ok derived =>
    if i.diesAt = some .unlock then ⟨none, (ioctlGetNonceCall hmac c.kernel.getNonce m).2⟩
    else
      let u := unlockDriver hmac derived c.kernel m
      if i.diesAt = some .newPassword then ⟨none, u.machine⟩
      else match u.result with
      | .error e => ⟨some (.error e), u.machine⟩
      | .ok () => tool.writeRecordUntil t i c u.machine

/-! ## A change that nothing interrupts -/

theorem cutCalls_none (t : CaseTables) (n : Nat) (cs : List RegCall) (m : Machine) :
    cutCalls t Interruption.none.calls n cs m =
      ⟨some (registryCalls t cs m).result, (registryCalls t cs m).machine⟩ := by
  induction cs generalizing n m with
  | nil => rfl
  | cons c cs ih =>
    have hlive : ¬ Interruption.none.calls n = .dies := by simp [Interruption.none]
    have hdone : ¬ Interruption.none.calls n = .fails := by simp [Interruption.none]
    simp only [cutCalls, registryCalls, if_neg hlive, hdone, or_false]
    split
    · rfl
    · exact ih _ _

/-- **Nothing interrupting it, the change is the one of `PasswordTool.change`.** -/
theorem changeUntil_none (t : CaseTables) (tool : PasswordTool hmac pbkdf2 α) (c : PasswordChange α) (m : Machine) :
    tool.changeUntil t .none c m = ⟨some (tool.change t c m).result, (tool.change t c m).machine⟩ := by
  have hlive : ∀ s, ¬ Interruption.none.diesAt = some s := by simp [Interruption.none]
  unfold PasswordTool.changeUntil PasswordTool.change
  cases hc : tool.check m.key c.current with
  | error e => simp only [if_neg (hlive _)]
  | ok derived =>
    cases hu : (unlockDriver hmac derived c.kernel m).result with
    | error e => simp only [if_neg (hlive _), hu]
    | ok _ =>
      simp only [if_neg (hlive _), hu, PasswordTool.writeRecordUntil, PasswordTool.writeRecord]
      cases tool.readNewPassword c.typed with
      | none => rfl
      | some pw =>
        cases c.salt with
        | none => rfl
        | some salt => exact cutCalls_none t 0 _ _

end

/-! ## Reading the values one by one -/

/-- The tool's check reads the salt, the count and the verifier each for itself, and takes the values
it writes for what they are. -/
structure RecordReader {hmac : Hmac} {pbkdf2 : Pbkdf2} {α : Type} (tool : PasswordTool hmac pbkdf2 α) where
  salt : Option RegValue → Option Bytes
  iterations : Option RegValue → Option Nat
  verifier : Option RegValue → Option Bytes
  check_iff : ∀ key pw derived, tool.check key pw = .ok derived ↔ ∃ s n v, salt key.installSalt = some s ∧
    iterations key.iterations = some n ∧ verifier key.verifier = some v ∧
    derived = pbkdf2 (tool.bytes pw) s n ∧ (verifierOf hmac derived).toList = v
  salt_new : ∀ s : Bytes32, salt (some ⟨regBinary, s.toList⟩) = some s.toList
  iterations_new : iterations (some ⟨regDword, leBytes 4 newIter⟩) = some newIter
  verifier_new : ∀ v : Bytes32, verifier (some ⟨regBinary, v.toList⟩) = some v.toList

theorem compared_iff {hmac : Hmac} {d derived : Bytes32} {v : Bytes} :
    (if (verifierOf hmac d).toList ≠ v then Except.error ClientError.wrongPassword else .ok d) = .ok derived ↔
      derived = d ∧ (verifierOf hmac derived).toList = v := by
  constructor
  · intro h
    split at h
    · cases h
    · rename_i hv
      cases h
      exact ⟨rfl, not_not.1 hv⟩
  · rintro ⟨rfl, hv⟩
    rw [if_neg (not_not.2 hv)]

def goReader (hmac : Hmac) (pbkdf2 : Pbkdf2) : RecordReader (goTool hmac pbkdf2) where
  salt := getBinaryValue
  iterations v := (getIntegerValue v).map fun n => (UInt32.ofNat n).toNat
  verifier v := (getBinaryValue v).bind fun bs => if bs.length = lgVerifierLen then some bs else none
  check_iff key pw derived := by
    show checkPassword hmac pbkdf2 key pw = .ok derived ↔ _
    unfold checkPassword readRecoveryRegistry
    cases getBinaryValue key.installSalt with
    | none => simp
    | some s =>
      cases getIntegerValue key.iterations with
      | none => simp
      | some n =>
        cases getBinaryValue key.verifier with
        | none => simp
        | some v =>
          by_cases hlen : v.length = lgVerifierLen
          · simp only [if_neg (not_not.2 hlen), compared_iff]
            simp only [hlen, goTool, id, Option.map_some, Option.bind_some, if_true, Option.some.injEq]
            refine ⟨fun h => ⟨_, _, _, rfl, rfl, rfl, h⟩, ?_⟩
            rintro ⟨_, _, _, rfl, rfl, rfl, h⟩
            exact h
          · simp [hlen]
  salt_new s := rfl
  iterations_new := by decide
  verifier_new v := by simp [getBinaryValue, lgVerifierLen]

def psReader {ps : PowerShell} (hps : ps.ReadsRegistry) (hmac : Hmac) (pbkdf2 : Pbkdf2) :
    RecordReader (psTool ps hmac pbkdf2) where
  salt v := (v.bind ps.toBytes).bind fun bs => if 8 ≤ bs.length then some bs else none
  iterations v := (v.bind ps.toInt).bind fun n => if 1 ≤ n then some n.toNat else none
  verifier v := (v.bind ps.toBytes).map (List.take lgVerifierLen)
  check_iff key pw derived := by
    show ps.checkPassword hmac pbkdf2 key pw = .ok derived ↔ _
    unfold PowerShell.checkPassword
    cases key.installSalt.bind ps.toBytes with
    | none => simp
    | some s =>
      cases key.iterations.bind ps.toInt with
      | none => simp
      | some n =>
        cases key.verifier.bind ps.toBytes with
        | none => simp
        | some v =>
          by_cases hs : 8 ≤ s.length
          · by_cases hn : 1 ≤ n
            · have hok : ¬ (s.length < 8 ∨ n < 1) := by omega
              simp only [if_neg hok, compared_iff]
              simp only [hs, hn, psTool, Option.map_some, Option.bind_some, if_true, Option.some.injEq]
              refine ⟨fun h => ⟨_, _, _, rfl, rfl, rfl, h⟩, ?_⟩
              rintro ⟨_, _, _, rfl, rfl, rfl, h⟩
              exact h
            · have hbad : n < 1 := by omega
              simp [hn, hbad]
          · have hbad : s.length < 8 := by omega
            simp [hs, hbad]
  salt_new s := by simp [hps.binary]
  iterations_new := by
    rw [Option.bind_some, hps.dword newIter (by decide)]
    decide
  verifier_new v := by
    rw [Option.bind_some, hps.binary, Option.map_some]
    exact congrArg some (List.take_of_length_le (by simp [lgVerifierLen]))

/-! ## Which writes take effect -/

section
variable {t : CaseTables} {calls : Nat → CallEnd} {now now' now'' : SysTime} {d : Driver} {m : Machine} {n : Nat}

/-- A write to the recovery key at `now`, the `n`-th call, takes effect. -/
def Lands (calls : Nat → CallEnd) (n : Nat) (now : SysTime) (d : Driver) : Prop :=
  calls n = .done ∧ (lgIsPermissive now d.window).1 = true

/-- Of the three writes from the `n`-th call on, the first takes effect, the first two, all three. -/
def SaltLands (calls : Nat → CallEnd) (n : Nat) (now : SysTime) (d : Driver) : Prop := Lands calls n now d

def IterationsLand (calls : Nat → CallEnd) (n : Nat) (now now' : SysTime) (d : Driver) : Prop :=
  SaltLands calls n now d ∧ Lands calls (n + 1) now' (Driver.asked now d)

def VerifierLands (calls : Nat → CallEnd) (n : Nat) (now now' now'' : SysTime) (d : Driver) : Prop :=
  IterationsLand calls n now now' d ∧ Lands calls (n + 2) now'' (Driver.asked now' (Driver.asked now d))

theorem setValue_open (h : (lgIsPermissive now d.window).1 = true) :
    ntSuccess (lgRegistryCallback t recoverySetValue now d).value = true ∧
      (lgRegistryCallback t recoverySetValue now d).driver = Driver.asked now d := by
  rw [registryCallback_guarded (recoverySetValue_guarded t)]
  simp [unlessPermissive, h, Driver.asked]

/-- A write that takes effect is followed by the rest. -/
theorem cutCalls_lands {failure : ClientError} {effect : RecoveryKey → RecoveryKey} {cs : List RegCall}
    (h : Lands calls n now m.driver) :
    cutCalls t calls n (⟨failure, recoverySetValue, now, effect⟩ :: cs) m =
      cutCalls t calls (n + 1) cs ⟨Driver.asked now m.driver, effect m.key⟩ := by
  obtain ⟨hdone, hopen⟩ := h
  obtain ⟨hok, hdriver⟩ := setValue_open (t := t) hopen
  have hlive : ¬ calls n = .dies := by simp [hdone]
  have hnofail : ¬ (!ntSuccess (lgRegistryCallback t recoverySetValue now m.driver).value) = true ∧
      ¬ calls n = .fails := by simp [hok, hdone]
  simp only [cutCalls, if_neg hlive]
  rw [if_neg (not_or.2 hnofail), hdriver]

/-- One that does not is the last, and leaves the key. -/
theorem cutCalls_not_lands {failure : ClientError} {effect : RecoveryKey → RecoveryKey} {cs : List RegCall}
    (h : ¬ Lands calls n now m.driver) :
    (cutCalls t calls n (⟨failure, recoverySetValue, now, effect⟩ :: cs) m).machine.key = m.key ∧
      (cutCalls t calls n (⟨failure, recoverySetValue, now, effect⟩ :: cs) m).result ≠ some (.ok ()) := by
  simp only [cutCalls]
  by_cases hdies : calls n = .dies
  · rw [if_pos hdies]
    exact ⟨rfl, by simp⟩
  · rw [if_neg hdies]
    have hstop : (!ntSuccess (lgRegistryCallback t recoverySetValue now m.driver).value) = true ∨ calls n = .fails := by
      by_contra hgo
      obtain ⟨hok, hnofail⟩ := not_or.1 hgo
      refine h ⟨?_, ?_⟩
      · cases hc : calls n with
        | done => rfl
        | fails => exact absurd hc hnofail
        | dies => exact absurd hc hdies
      · rw [registryCallback_guarded (recoverySetValue_guarded t)] at hok
        by_contra hclosed
        simp [unlessPermissive, hclosed] at hok
    rw [if_pos hstop]
    exact ⟨rfl, by simp⟩

end

/-! ## How far a change comes -/

section
variable {hmac : Hmac} {pbkdf2 : Pbkdf2} {t : CaseTables} {α : Type} {tool : PasswordTool hmac pbkdf2 α}
  {i : Interruption} {c : PasswordChange α} {m : Machine} {derived salt v : Bytes32} {new : α}

/-- The change comes to its writes, for the record of `new` under `salt`. -/
structure PasswordTool.Writing (tool : PasswordTool hmac pbkdf2 α) (i : Interruption) (c : PasswordChange α)
    (m : Machine) (derived : Bytes32) (new : α) (salt : Bytes32) : Prop where
  alive : i.diesAt = none
  checked : tool.check m.key c.current = .ok derived
  unlocked : (unlockDriver hmac derived c.kernel m).result = .ok ()
  typed : tool.readNewPassword c.typed = some new
  drawn : c.salt = some salt
  created : tool.createsKey = true → i.calls 0 = .done

/-- The number of the first write among the registry calls. -/
def PasswordTool.firstWrite (tool : PasswordTool hmac pbkdf2 α) : Nat := if tool.createsKey then 1 else 0

/-- The three writes among `PasswordTool.recordCalls`. -/
def valueCalls (c : PasswordChange α) (salt verifier : Bytes32) : List RegCall :=
  [⟨.write "InstallSalt", recoverySetValue, c.saltTime,
      fun key => { key with installSalt := (newRecord salt verifier).installSalt }⟩,
    ⟨.write "Iterations", recoverySetValue, c.iterationsTime,
      fun key => { key with iterations := (newRecord salt verifier).iterations }⟩,
    ⟨.write "Verifier", recoverySetValue, c.verifierTime,
      fun key => { key with verifier := (newRecord salt verifier).verifier }⟩]

theorem createKey_unguarded (t : CaseTables) : ¬ (⟨regNtPreCreateKeyEx, some ⟨none⟩⟩ : RegNotification).Guarded t := by
  rintro ⟨-, obj, hobj, -⟩
  cases hobj

theorem recordCalls_eq (tool : PasswordTool hmac pbkdf2 α) (c : PasswordChange α) (salt v : Bytes32) :
    tool.recordCalls c salt v =
      (if tool.createsKey then [⟨.openRegistry, ⟨regNtPreCreateKeyEx, some ⟨none⟩⟩, c.openTime, id⟩] else []) ++
        valueCalls c salt v := rfl

/-- The recovery key opened for writing, the calls after it come. -/
theorem cutCalls_created (now : SysTime) (cs : List RegCall) (m : Machine) (hdone : i.calls 0 = .done) :
    cutCalls t i.calls 0 (⟨.openRegistry, ⟨regNtPreCreateKeyEx, some ⟨none⟩⟩, now, id⟩ :: cs) m =
      cutCalls t i.calls 1 cs m := by
  have hlive : ¬ i.calls 0 = .dies := by simp [hdone]
  have hgo : ¬ ((!ntSuccess statusSuccess) = true ∨ i.calls 0 = .fails) := by simp [hdone]
  rw [cutCalls, if_neg hlive, registryCallback_unguarded (createKey_unguarded t)]
  simp only [if_neg hgo, id]

theorem recordCalls_created (hcreated : tool.createsKey = true → i.calls 0 = .done) (m : Machine) :
    cutCalls t i.calls 0 (tool.recordCalls c salt v) m =
      cutCalls t i.calls tool.firstWrite (valueCalls c salt v) m := by
  rw [recordCalls_eq, PasswordTool.firstWrite]
  cases hk : tool.createsKey with
  | false => simp only [Bool.false_eq_true, if_false, List.nil_append]
  | true =>
    simp only [if_true, List.cons_append, List.nil_append]
    exact cutCalls_created _ _ m (hcreated hk)

theorem recordCalls_not_created (salt v : Bytes32) (hcreated : ¬ (tool.createsKey = true → i.calls 0 = .done))
    (m : Machine) :
    (cutCalls t i.calls 0 (tool.recordCalls c salt v) m).machine.key = m.key ∧
      (cutCalls t i.calls 0 (tool.recordCalls c salt v) m).result ≠ some (.ok ()) := by
  rw [Classical.not_imp] at hcreated
  obtain ⟨hk, hnot⟩ := hcreated
  rw [recordCalls_eq, if_pos hk]
  simp only [List.cons_append, List.nil_append, cutCalls]
  cases hc : i.calls 0 with
  | done => exact absurd hc hnot
  | fails => simp
  | dies => simp

theorem changeUntil_of_writing (h : tool.Writing i c m derived new salt) :
    tool.changeUntil t i c m = cutCalls t i.calls tool.firstWrite (valueCalls c salt (tool.newVerifier salt new))
      (unlockDriver hmac derived c.kernel m).machine := by
  have hlive : ∀ s, ¬ i.diesAt = some s := by simp [h.alive]
  simp only [PasswordTool.changeUntil, if_neg (hlive _), h.checked, h.unlocked, PasswordTool.writeRecordUntil, h.typed,
    h.drawn]
  exact recordCalls_created h.created _

theorem getNonceCall_key (k : Kernel) : (ioctlGetNonceCall hmac k m).2.key = m.key := by
  unfold ioctlGetNonceCall
  simp only
  split
  · rfl
  · split <;> rfl

/-- A change that does not come to its writes leaves the record, and does not report success. -/
theorem changeUntil_of_not_writing (h : ∀ derived new salt, ¬ tool.Writing i c m derived new salt) :
    (tool.changeUntil t i c m).machine.key = m.key ∧ (tool.changeUntil t i c m).result ≠ some (.ok ()) := by
  unfold PasswordTool.changeUntil
  split
  · exact ⟨rfl, by simp⟩
  rename_i hcheckAlive
  split
  · exact ⟨rfl, by simp⟩
  rename_i derived hchecked
  split
  · exact ⟨getNonceCall_key _, by simp⟩
  rename_i hunlockAlive
  simp only
  split
  · exact ⟨unlockDriver_machine.2, by simp⟩
  rename_i hnewAlive
  split
  · exact ⟨unlockDriver_machine.2, by simp⟩
  rename_i hunlocked
  unfold PasswordTool.writeRecordUntil
  split
  · exact ⟨unlockDriver_machine.2, by simp⟩
  rename_i new htyped
  split
  · exact ⟨unlockDriver_machine.2, by simp⟩
  rename_i salt hdrawn
  have halive : i.diesAt = none := by
    cases hd : i.diesAt with
    | none => rfl
    | some s => cases s <;> simp_all
  have hnot : ¬ (tool.createsKey = true → i.calls 0 = .done) := fun hcreated =>
    h derived new salt ⟨halive, hchecked, hunlocked, htyped, hdrawn, hcreated⟩
  obtain ⟨hkey, hres⟩ := recordCalls_not_created (t := t) (c := c) salt (tool.newVerifier salt new) hnot
    (unlockDriver hmac derived c.kernel m).machine
  exact ⟨hkey.trans unlockDriver_machine.2, hres⟩

/-- What the three writes leave of the record, and when they are reported. -/
theorem valueCalls_spec (salt v : Bytes32) (n : Nat) (m : Machine) :
    let r := cutCalls t i.calls n (valueCalls c salt v) m
    (¬ SaltLands i.calls n c.saltTime m.driver → r.machine.key = m.key ∧ r.result ≠ some (.ok ())) ∧
    (SaltLands i.calls n c.saltTime m.driver → ¬ IterationsLand i.calls n c.saltTime c.iterationsTime m.driver →
      r.machine.key = { m.key with installSalt := (newRecord salt v).installSalt } ∧ r.result ≠ some (.ok ())) ∧
    (IterationsLand i.calls n c.saltTime c.iterationsTime m.driver →
      ¬ VerifierLands i.calls n c.saltTime c.iterationsTime c.verifierTime m.driver →
      r.machine.key = { newRecord salt v with verifier := m.key.verifier } ∧ r.result ≠ some (.ok ())) ∧
    (VerifierLands i.calls n c.saltTime c.iterationsTime c.verifierTime m.driver →
      r.machine.key = newRecord salt v ∧ (r.result = some (.ok ()) ↔ i.calls (n + 3) ≠ .dies)) := by
  intro r
  refine ⟨?_, ?_, ?_, ?_⟩
  · intro hs
    exact cutCalls_not_lands hs
  · intro hs hi
    have hi' : ¬ Lands i.calls (n + 1) c.iterationsTime (Driver.asked c.saltTime m.driver) := fun hl => hi ⟨hs, hl⟩
    have hr : r = cutCalls t i.calls n (valueCalls c salt v) m := rfl
    rw [hr, valueCalls, cutCalls_lands hs]
    exact cutCalls_not_lands hi'
  · rintro ⟨hs, hi⟩ hv
    have hv' : ¬ Lands i.calls (n + 1 + 1) c.verifierTime (Driver.asked c.iterationsTime (Driver.asked c.saltTime m.driver)) :=
      fun hl => hv ⟨⟨hs, hi⟩, hl⟩
    have hr : r = cutCalls t i.calls n (valueCalls c salt v) m := rfl
    rw [hr, valueCalls, cutCalls_lands hs, cutCalls_lands hi]
    exact cutCalls_not_lands hv'
  · rintro ⟨⟨hs, hi⟩, hv⟩
    have hr : r = cutCalls t i.calls n (valueCalls c salt v) m := rfl
    rw [hr, valueCalls, cutCalls_lands hs, cutCalls_lands hi, cutCalls_lands hv]
    simp only [cutCalls]
    split
    · rename_i hdies
      exact ⟨rfl, by simp [hdies]⟩
    · rename_i hlive
      exact ⟨rfl, by simp [hlive]⟩

end

/-! ## What a failed change leaves -/

section
variable {hmac : Hmac} {pbkdf2 : Pbkdf2} {t : CaseTables} {α : Type} {tool : PasswordTool hmac pbkdf2 α}
  {i : Interruption} {c : PasswordChange α} {m : Machine} {s : Bytes} {n : Nat}

/-- The record is one of `p` under the salt `s` and `n` iterations. -/
def RecordReader.Valid (rd : RecordReader tool) (key : RecoveryKey) (p : Password) (s : Bytes) (n : Nat) : Prop :=
  rd.salt key.installSalt = some s ∧ rd.iterations key.iterations = some n ∧
    rd.verifier key.verifier = some (verifierOf hmac (pbkdf2 p s n)).toList

/-- Different passwords or salts of these have different verifiers, whichever of the counts they go with. -/
def DistinctVerifiers (hmac : Hmac) (pbkdf2 : Pbkdf2) (pws : List Password) (salts : List Bytes)
    (iters : List Nat) : Prop :=
  ∀ p ∈ pws, ∀ p' ∈ pws, ∀ s ∈ salts, ∀ s' ∈ salts, ∀ n ∈ iters, ∀ n' ∈ iters,
    verifierOf hmac (pbkdf2 p s n) = verifierOf hmac (pbkdf2 p' s' n') → p = p' ∧ s = s'

/-- The first write does not take effect. Or the last does, and the change lives to report it or has
written the same password anew. Or, the salt drawn being the old one, what was written makes no
difference to the verifier. `d` is the driver when the writes begin. -/
def PasswordTool.Unharmed (tool : PasswordTool hmac pbkdf2 α) (i : Interruption) (c : PasswordChange α) (s : Bytes)
    (n : Nat) (new : α) (salt : Bytes32) (d : Driver) : Prop :=
  let first := tool.firstWrite
  ¬ SaltLands i.calls first c.saltTime d ∨
  (VerifierLands i.calls first c.saltTime c.iterationsTime c.verifierTime d ∧
    (i.calls (first + 3) ≠ .dies ∨ tool.bytes new = tool.bytes c.current)) ∨
  (¬ VerifierLands i.calls first c.saltTime c.iterationsTime c.verifierTime d ∧ salt.toList = s ∧
    (IterationsLand i.calls first c.saltTime c.iterationsTime d →
      verifierOf hmac (pbkdf2 (tool.bytes c.current) s newIter) = verifierOf hmac (pbkdf2 (tool.bytes c.current) s n)))

/-- A record is one of a password when its verifier is that password's under its salt and count. -/
theorem RecordReader.check_ok_iff (rd : RecordReader tool) {key : RecoveryKey} {pw : α} {s : Bytes} {n : Nat}
    {v : Bytes32} (hs : rd.salt key.installSalt = some s) (hn : rd.iterations key.iterations = some n)
    (hv : rd.verifier key.verifier = some v.toList) :
    (∃ derived, tool.check key pw = .ok derived) ↔ verifierOf hmac (pbkdf2 (tool.bytes pw) s n) = v := by
  simp only [rd.check_iff, hs, hn, hv, Option.some.injEq]
  constructor
  · rintro ⟨_, _, _, _, rfl, rfl, rfl, rfl, hver⟩
    exact Vector.toList_inj.1 hver
  · intro hver
    exact ⟨_, _, _, _, rfl, rfl, rfl, rfl, by rw [hver]⟩

theorem PasswordTool.Writing.unique {derived derived' salt salt' : Bytes32} {new new' : α}
    (h : tool.Writing i c m derived new salt) (h' : tool.Writing i c m derived' new' salt') :
    derived' = derived ∧ new' = new ∧ salt' = salt := by
  have hchecked := h.checked.symm.trans h'.checked
  have htyped := h.typed.symm.trans h'.typed
  have hdrawn := h.drawn.symm.trans h'.drawn
  exact ⟨(Except.ok.inj hchecked).symm, (Option.some.inj htyped).symm, (Option.some.inj hdrawn).symm⟩

section
variable {rd : RecordReader tool} {key : RecoveryKey} {pw new : α} {salt : Bytes32}

/-- The whole new record fits the new password alone. -/
theorem RecordReader.fits_new (rd : RecordReader tool)
    (hdiff : DistinctVerifiers hmac pbkdf2 [tool.bytes pw, tool.bytes new] [s, salt.toList] [n, newIter]) :
    (∃ derived, tool.check (newRecord salt (tool.newVerifier salt new)) pw = .ok derived) ↔
      tool.bytes new = tool.bytes pw := by
  rw [rd.check_ok_iff (rd.salt_new salt) rd.iterations_new (rd.verifier_new _)]
  constructor
  · intro heq
    exact (hdiff _ (by simp) _ (by simp) _ (by simp) _ (by simp) _ (by simp) _ (by simp) heq).1.symm
  · intro heq
    rw [PasswordTool.newVerifier, heq]

/-- The old verifier under the new salt and some count `n'`. -/
theorem distinct_salted {n' : Nat} (hn' : n' ∈ [n, newIter])
    (hdiff : DistinctVerifiers hmac pbkdf2 [tool.bytes pw, tool.bytes new] [s, salt.toList] [n, newIter]) :
    verifierOf hmac (pbkdf2 (tool.bytes pw) salt.toList n') = verifierOf hmac (pbkdf2 (tool.bytes pw) s n) ↔
      salt.toList = s ∧
        verifierOf hmac (pbkdf2 (tool.bytes pw) s n') = verifierOf hmac (pbkdf2 (tool.bytes pw) s n) := by
  constructor
  · intro heq
    have hsame : salt.toList = s :=
      (hdiff _ (by simp) _ (by simp) _ (by simp) _ (by simp) _ hn' _ (by simp) heq).2
    rw [hsame] at heq
    exact ⟨hsame, heq⟩
  · rintro ⟨hsame, heq⟩
    rw [hsame]
    exact heq

/-- The new salt and count over the old verifier. -/
theorem RecordReader.fits_mixed (hvalid : rd.Valid key (tool.bytes pw) s n) (v : Bytes32)
    (hdiff : DistinctVerifiers hmac pbkdf2 [tool.bytes pw, tool.bytes new] [s, salt.toList] [n, newIter]) :
    (∃ derived, tool.check { newRecord salt v with verifier := key.verifier } pw = .ok derived) ↔
      salt.toList = s ∧
        verifierOf hmac (pbkdf2 (tool.bytes pw) s newIter) = verifierOf hmac (pbkdf2 (tool.bytes pw) s n) := by
  refine Iff.trans ?_ (distinct_salted (by simp) hdiff)
  exact rd.check_ok_iff (rd.salt_new salt) rd.iterations_new hvalid.2.2

/-- The new salt alone. -/
theorem RecordReader.fits_salted (hvalid : rd.Valid key (tool.bytes pw) s n) (v : Bytes32)
    (hdiff : DistinctVerifiers hmac pbkdf2 [tool.bytes pw, tool.bytes new] [s, salt.toList] [n, newIter]) :
    (∃ derived, tool.check { key with installSalt := (newRecord salt v).installSalt } pw = .ok derived) ↔
      salt.toList = s := by
  refine Iff.trans ?_ ((distinct_salted (by simp) hdiff).trans (and_iff_left rfl))
  exact rd.check_ok_iff (rd.salt_new salt) hvalid.2.1 hvalid.2.2

end

/-- The writes alone: what they leave is reported or fits the current password exactly when the
change is unharmed. -/
theorem valueCalls_unharmed_iff {rd : RecordReader tool} (hvalid : rd.Valid m.key (tool.bytes c.current) s n)
    {new : α} {salt : Bytes32}
    (hdiff : DistinctVerifiers hmac pbkdf2 [tool.bytes c.current, tool.bytes new] [s, salt.toList] [n, newIter]) :
    let r := cutCalls t i.calls tool.firstWrite (valueCalls c salt (tool.newVerifier salt new)) m
    (r.result ≠ some (.ok ()) → ∃ derived, tool.check r.machine.key c.current = .ok derived) ↔
      tool.Unharmed i c s n new salt m.driver := by
  intro r
  obtain ⟨hnone, hsalt, hiter, hall⟩ :=
    valueCalls_spec (t := t) (i := i) (c := c) salt (tool.newVerifier salt new) tool.firstWrite m
  by_cases hsl : SaltLands i.calls tool.firstWrite c.saltTime m.driver
  · by_cases hil : IterationsLand i.calls tool.firstWrite c.saltTime c.iterationsTime m.driver
    · by_cases hvl : VerifierLands i.calls tool.firstWrite c.saltTime c.iterationsTime c.verifierTime m.driver
      · -- all three: the record is the new one
        obtain ⟨hkey, hreported⟩ := hall hvl
        rw [hkey, rd.fits_new hdiff, Ne, hreported]
        simp only [PasswordTool.Unharmed, hsl, hvl, not_true, false_or, false_and, or_false, true_and]
        by_cases hdies : i.calls (tool.firstWrite + 3) = .dies <;> simp [hdies]
      · -- the old verifier under the new salt and count
        obtain ⟨hkey, hunreported⟩ := hiter hil hvl
        rw [hkey, RecordReader.fits_mixed hvalid _ hdiff]
        simp only [PasswordTool.Unharmed, hsl, hil, hvl, not_true, not_false_eq_true, false_or, false_and, true_and,
          true_implies]
        exact forall_prop_of_true hunreported
    · -- the new salt alone
      have hvl : ¬ VerifierLands i.calls tool.firstWrite c.saltTime c.iterationsTime c.verifierTime m.driver :=
        fun h => hil h.1
      obtain ⟨hkey, hunreported⟩ := hsalt hsl hil
      rw [hkey, RecordReader.fits_salted hvalid _ hdiff]
      simp only [PasswordTool.Unharmed, hsl, hil, hvl, not_true, not_false_eq_true, false_or, false_and, true_and,
        false_implies, and_true]
      exact forall_prop_of_true hunreported
  · -- nothing written
    obtain ⟨hkey, -⟩ := hnone hsl
    refine iff_of_true (fun _ => ?_) (Or.inl hsl)
    rw [hkey]
    exact (rd.check_ok_iff hvalid.1 hvalid.2.1 hvalid.2.2).2 rfl

/-- **What a failed change leaves.** A change of the password either reports success or leaves a
record the current password fits, exactly when it is unharmed if it comes to its writes. -/
theorem failed_change_iff (t : CaseTables) {rd : RecordReader tool} (hvalid : rd.Valid m.key (tool.bytes c.current) s n)
    (hdiff : ∀ new salt, tool.readNewPassword c.typed = some new → c.salt = some salt →
      DistinctVerifiers hmac pbkdf2 [tool.bytes c.current, tool.bytes new] [s, salt.toList] [n, newIter]) :
    let r := tool.changeUntil t i c m
    (r.result ≠ some (.ok ()) → ∃ derived, tool.check r.machine.key c.current = .ok derived) ↔
    ∀ derived new salt, tool.Writing i c m derived new salt →
      tool.Unharmed i c s n new salt (unlockDriver hmac derived c.kernel m).machine.driver := by
  intro r
  obtain ⟨hs, hn, hv⟩ := hvalid
  by_cases hw : ∃ derived new salt, tool.Writing i c m derived new salt
  · obtain ⟨derived, new, salt, hw⟩ := hw
    have hkey : (unlockDriver hmac derived c.kernel m).machine.key = m.key := unlockDriver_machine.2
    have hvalid : rd.Valid (unlockDriver hmac derived c.kernel m).machine.key (tool.bytes c.current) s n := by
      rw [hkey]
      exact ⟨hs, hn, hv⟩
    have hr : r = _ := changeUntil_of_writing (t := t) hw
    have hiff : (r.result ≠ some (.ok ()) → ∃ derived, tool.check r.machine.key c.current = .ok derived) ↔
        tool.Unharmed i c s n new salt (unlockDriver hmac derived c.kernel m).machine.driver := by
      rw [hr]
      exact valueCalls_unharmed_iff hvalid (hdiff new salt hw.typed hw.drawn)
    rw [hiff]
    constructor
    · rintro hun derived' new' salt' hw'
      obtain ⟨rfl, rfl, rfl⟩ := hw.unique hw'
      exact hun
    · intro hun
      exact hun derived new salt hw
  · have hnone : ∀ derived new salt, ¬ tool.Writing i c m derived new salt :=
      fun derived new salt h => hw ⟨derived, new, salt, h⟩
    obtain ⟨hkey, -⟩ := changeUntil_of_not_writing (t := t) hnone
    refine iff_of_true ?_ fun derived new salt h => absurd h (hnone derived new salt)
    intro _
    have hfits : ∃ derived, tool.check m.key c.current = .ok derived := (rd.check_ok_iff hs hn hv).2 rfl
    obtain ⟨derived, hd⟩ := hfits
    exact ⟨derived, by rw [hkey]; exact hd⟩

end

/-! ## A worked failure

PBKDF2 and HMAC tabulated for two passwords under two salts, each with 1,000,000 iterations. -/

namespace Worked

def installedSalt : Bytes32 := Vector.replicate 32 5
def drawnSalt : Bytes32 := Vector.replicate 32 6

def installedKey : Bytes32 :=
  #v[86, 176, 198, 119, 220, 5, 30, 60, 34, 14, 215, 53, 104, 228, 111, 250,
    218, 248, 4, 227, 4, 159, 137, 178, 25, 42, 131, 236, 61, 34, 62, 135]

def installedVerifier : Bytes32 :=
  #v[101, 194, 231, 84, 19, 97, 186, 152, 201, 20, 169, 7, 250, 34, 27, 96,
    32, 81, 68, 209, 154, 137, 16, 108, 192, 250, 30, 209, 47, 184, 80, 77]

def installedResponse : Bytes32 :=
  #v[9, 96, 218, 128, 36, 220, 71, 168, 198, 45, 57, 253, 223, 37, 65, 211,
    254, 12, 159, 235, 197, 204, 149, 0, 95, 125, 244, 193, 33, 208, 96, 88]

def newKeyOldSalt : Bytes32 :=
  #v[141, 38, 227, 168, 201, 88, 173, 29, 121, 251, 88, 206, 207, 153, 15, 176,
    116, 207, 128, 6, 240, 2, 107, 45, 145, 31, 119, 219, 71, 127, 175, 30]

def newVerifierOldSalt : Bytes32 :=
  #v[231, 98, 162, 53, 77, 113, 5, 151, 168, 42, 172, 212, 185, 15, 54, 170,
    120, 203, 185, 149, 93, 181, 86, 28, 252, 140, 85, 221, 34, 12, 248, 150]

def pbkdf2Salted : Pbkdf2 := fun pw s _ =>
  if s = installedSalt.toList then (if pw = newPassword then newKeyOldSalt else installedKey)
  else if pw = newPassword then newKey
  else oldKeyResalted

def hmacSalted : Hmac := fun k data =>
  if data = lgVerifierLabel then
    if k = installedKey.toList then installedVerifier
    else if k = newKeyOldSalt.toList then newVerifierOldSalt
    else if k = newKey.toList then newVerifier
    else oldVerifierResalted
  else installedResponse

def installed : Machine := .boot (recordOf installedSalt newIter installedVerifier) statusSuccess

/-- The change of `change` on a machine as it was installed. -/
def installedChange : PasswordChange Password := { change with salt := some drawnSalt }

def installedScriptChange : PasswordChange (List WCHAR) where
  current := wide "Correct-Horse-1"
  typed := [(wide "Battery-Staple-2", wide "Battery-Staple-2")]
  salt := some drawnSalt
  kernel := clientKernel (time 0)
  openTime := time 300
  saltTime := time 301
  iterationsTime := time 302
  verifierTime := time 303

/-- The `n`-th registry call ends as `e`, the others take effect. -/
def interruptAt (n : Nat) (e : CallEnd) : Interruption := ⟨none, fun j => if j = n then e else .done⟩

def saltedTool : PasswordTool hmacSalted pbkdf2Salted Password := goTool hmacSalted pbkdf2Salted

def saltedScript : PasswordTool hmacSalted pbkdf2Salted (List WCHAR) := psTool ps hmacSalted pbkdf2Salted

theorem distinct : DistinctVerifiers hmacSalted pbkdf2Salted [oldPassword, newPassword]
    [installedSalt.toList, drawnSalt.toList] [newIter, newIter] := by
  unfold DistinctVerifiers
  decide +kernel

theorem installed_valid :
    (goReader hmacSalted pbkdf2Salted).Valid installed.key oldPassword installedSalt.toList newIter :=
  ⟨rfl, by decide +kernel, by decide +kernel⟩

theorem installed_script_valid : (psReader ps_readsRegistry hmacSalted pbkdf2Salted).Valid installed.key
    (ps.utf8 (wide "Correct-Horse-1")) installedSalt.toList newIter :=
  ⟨by decide +kernel, by decide +kernel, by decide +kernel⟩

end Worked

open Worked in
/-- A change whose write of `InstallSalt` fails leaves a record the current password fits, by either tool. -/
theorem failed_change_early :
    (∃ derived, saltedTool.check
      (saltedTool.changeUntil .ascii (interruptAt 1 .fails) installedChange installed).machine.key
      oldPassword = .ok derived) ∧
    (∃ derived, saltedScript.check
      (saltedScript.changeUntil .ascii (interruptAt 0 .fails) installedScriptChange installed).machine.key
      (wide "Correct-Horse-1") = .ok derived) := by
  constructor
  · refine (failed_change_iff .ascii installed_valid ?_).2 ?_ (by decide +kernel)
    · intro new salt hnew hsalt
      have hn : readStrongPasswordTwice installedChange.typed = some newPassword := by decide +kernel
      cases hn.symm.trans hnew
      cases hsalt
      exact distinct
    · intro derived new salt _
      exact Or.inl fun hlands => absurd hlands.1 (by decide)
  · refine (failed_change_iff .ascii installed_script_valid ?_).2 ?_ (by decide +kernel)
    · intro new salt hnew hsalt
      have hn : ps.readStrongNewPassword installedScriptChange.typed = some (wide "Battery-Staple-2") := by
        decide +kernel
      cases hn.symm.trans hnew
      cases hsalt
      exact distinct
    · intro derived new salt _
      exact Or.inl fun hlands => absurd hlands.1 (by decide)

open Worked in
/-- The program dies after `InstallSalt`: neither the current password nor the new one fits what is left. -/
theorem change_cut_short :
    let r := saltedTool.changeUntil .ascii (interruptAt 2 .dies) installedChange installed
    r.result = none ∧ (¬ ∃ derived, saltedTool.check r.machine.key oldPassword = .ok derived) ∧
      ¬ ∃ derived, saltedTool.check r.machine.key newPassword = .ok derived := by
  intro r
  have hold : saltedTool.check r.machine.key oldPassword = .error .wrongPassword := by decide +kernel
  have hnew : saltedTool.check r.machine.key newPassword = .error .wrongPassword := by decide +kernel
  refine ⟨by decide +kernel, ?_, ?_⟩
  · rintro ⟨derived, hok⟩
    rw [hold] at hok
    cases hok
  · rintro ⟨derived, hok⟩
    rw [hnew] at hok
    cases hok

end Lockguard
