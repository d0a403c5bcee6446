import Lockguard.Client
/-!
# Changing the password (`main.go:163-292`, `Set-LockguardPassword.ps1`)

| here | there |
| --- | --- |
| `PasswordTool.change`      | both tools: check the current password, unlock, ask for a new one, write the record |
| `doSetPassword`            | `doSetPassword` (`main.go:163-248`) |
| `setLockguardPassword`     | `Set-LockguardPassword.ps1` |
| `recoverLockguard`         | `Recover-Lockguard.ps1`, which checks the password as that script does |
| `readStrongPasswordTwice`  | `readStrongPasswordTwice` (`main.go:250-297`), what is typed given in order |

The tools differ in how they read the record and in which new passwords they take. The three values
are written one by one, each through the registry callback; a write that is refused leaves those
before it in place. The driver's copy of the verifier is written by neither tool
(`change_reported`).
-/
namespace Lockguard

/-! ## The record written -/

def newIter : Nat := 1000000

def newRecord (salt verifier : Bytes32) : RecoveryKey where
  installSalt := some ⟨regBinary, salt.toList⟩
  iterations := some ⟨regDword, leBytes 4 newIter⟩
  verifier := some ⟨regBinary, verifier.toList⟩

/-- A registry call of a tool, with the error it ends the tool with. -/
structure RegCall where
  failure : ClientError
  notification : RegNotification
  now : SysTime
  effect : RecoveryKey → RecoveryKey

/-- A set-value notification for the recovery key, its name resolved. -/
def recoverySetValue : RegNotification :=
  ⟨regNtPreSetValueKey, some ⟨some ⟨statusSuccess, some (rtlInitUnicodeString lgRecoveryKey)⟩⟩⟩

/-- The calls in order, up to the first that the callback refuses. -/
def registryCalls (t : CaseTables) : List RegCall → Machine → ClientRun
  | [], m => ⟨.ok (), m, []⟩
  | c :: cs, m =>
    let r := lgRegistryCallback t c.notification c.now m.driver
    if !ntSuccess r.value then ⟨.error c.failure, { m with driver := r.driver }, r.calls⟩
    else
      let rest := registryCalls t cs ⟨r.driver, c.effect m.key⟩
      { rest with calls := r.calls ++ rest.calls }

/-! ## The tools -/

/-- What one change of the password is given: what is typed, what the random source and the kernel
answer, and the times of the registry calls. -/
structure PasswordChange (α : Type) where
  current : α
  typed : List (α × α)
  salt : Option Bytes32
  kernel : ClientKernel
  openTime : SysTime
  saltTime : SysTime
  iterationsTime : SysTime
  verifierTime : SysTime

/-- The loop over what is typed twice: the first that is accepted. -/
def firstAccepted {α : Type} (accepts : α → α → Bool) (typed : List (α × α)) : Option α :=
  (typed.find? fun p => accepts p.1 p.2).map Prod.fst

/-- A tool that changes the password, passwords being typed as `α`. -/
structure PasswordTool (hmac : Hmac) (pbkdf2 : Pbkdf2) (α : Type) where
  bytes : α → Password
  check : RecoveryKey → α → Except ClientError Bytes32
  readNewPassword : List (α × α) → Option α
  createsKey : Bool
  derives : ∀ {key pw derived}, check key pw = .ok derived → ∃ salt iter, derived = pbkdf2 (bytes pw) salt iter

section
variable {hmac : Hmac} {pbkdf2 : Pbkdf2} {α : Type}

/-- The verifier that is written for a new password. -/
def PasswordTool.newVerifier (tool : PasswordTool hmac pbkdf2 α) (salt : Bytes32) (pw : α) : Bytes32 :=
  verifierOf hmac (pbkdf2 (tool.bytes pw) salt.toList newIter)

def PasswordTool.recordCalls (tool : PasswordTool hmac pbkdf2 α) (c : PasswordChange α)
    (salt verifier : Bytes32) : List RegCall :=
  (if tool.createsKey then [⟨.openRegistry, ⟨regNtPreCreateKeyEx, some ⟨none⟩⟩, c.openTime, id⟩] else []) ++
  [⟨.write "InstallSalt", recoverySetValue, c.saltTime,
      fun key => { key with installSalt := (newRecord salt verifier).installSalt }⟩,
    ⟨.write "Iterations", recoverySetValue, c.iterationsTime,
      fun key => { key with iterations := (newRecord salt verifier).iterations }⟩,
    ⟨.write "Verifier", recoverySetValue, c.verifierTime,
      fun key => { key with verifier := (newRecord salt verifier).verifier }⟩]

/-- From the new password on. -/
def PasswordTool.writeRecord (t : CaseTables) (tool : PasswordTool hmac pbkdf2 α) (c : PasswordChange α)
    (m : Machine) : ClientRun :=
  match tool.readNewPassword c.typed with
  | none => ⟨.error .newPassword, m, []⟩
  | some pw =>
    match c.salt with
    | none => ⟨.error .random, m, []⟩
    | some salt => registryCalls t (tool.recordCalls c salt (tool.newVerifier salt pw)) m

def PasswordTool.change (t : CaseTables) (tool : PasswordTool hmac pbkdf2 α) (c : PasswordChange α)
    (m : Machine) : ClientRun :=
  match tool.check m.key c.current with
  | .error e => ⟨.error e, m, []⟩
  | .ok derived =>
    let u := unlockDriver hmac derived c.kernel m
    match u.result with
    | .error _ => u
    | .ok () =>
      let w := tool.writeRecord t c u.machine
      { w with calls := u.calls ++ w.calls }

end

/-! ## The Go client -/

def strongPassword (a b : Password) : Bool :=
  a == b && decide (12 ≤ a.length) && a.any (fun c => 65 ≤ c && c ≤ 90) &&
    a.any (fun c => 97 ≤ c && c ≤ 122) && a.any fun c => 48 ≤ c && c ≤ 57

def readStrongPasswordTwice : List (Password × Password) → Option Password := firstAccepted strongPassword

theorem checkPassword_derives {hmac : Hmac} {pbkdf2 : Pbkdf2} {key : RecoveryKey} {pw : Password}
    {derived : Bytes32} (h : checkPassword hmac pbkdf2 key pw = .ok derived) :
    ∃ salt iter, derived = pbkdf2 pw salt iter := by
  unfold checkPassword at h
  split at h
  · cases h
  · simp only at h
    split at h
    · cases h
    · cases h
      exact ⟨_, _, rfl⟩

def goTool (hmac : Hmac) (pbkdf2 : Pbkdf2) : PasswordTool hmac pbkdf2 Password where
  bytes := id
  check := checkPassword hmac pbkdf2
  readNewPassword := readStrongPasswordTwice
  createsKey := true
  derives := checkPassword_derives

def doSetPassword (hmac : Hmac) (pbkdf2 : Pbkdf2) (t : CaseTables) : PasswordChange Password → Machine → ClientRun :=
  (goTool hmac pbkdf2).change t

/-! ## The PowerShell scripts -/

/-- What the scripts use of PowerShell and .NET: the comparison of strings, the match with a pattern,
the bytes of a password, and a registry value where a byte array or an `[int]` is asked for. -/
structure PowerShell where
  ne : List WCHAR → List WCHAR → Bool
  notmatch : List WCHAR → String → Bool
  utf8 : List WCHAR → Bytes
  toBytes : RegValue → Option Bytes
  toInt : RegValue → Option Int

def PowerShell.strongPassword (ps : PowerShell) (a b : List WCHAR) : Bool :=
  !ps.ne a b && decide (12 ≤ a.length) && !ps.notmatch a "[A-Z]" && !ps.notmatch a "[a-z]" &&
    !ps.notmatch a "[0-9]"

/-- `Read-StrongNewPassword`. -/
def PowerShell.readStrongNewPassword (ps : PowerShell) : List (List WCHAR × List WCHAR) → Option (List WCHAR) :=
  firstAccepted ps.strongPassword

/-- The scripts' check: `Rfc2898DeriveBytes` wants a salt of 8 bytes and one iteration at least, and
only the first 32 bytes of the verifier are compared. -/
def PowerShell.checkPassword (ps : PowerShell) (hmac : Hmac) (pbkdf2 : Pbkdf2) (key : RecoveryKey)
    (pw : List WCHAR) : Except ClientError Bytes32 :=
  match key.installSalt.bind ps.toBytes, key.iterations.bind ps.toInt, key.verifier.bind ps.toBytes with
  | some salt, some iterations, some verifier =>
    if salt.length < 8 ∨ iterations < 1 then .error .readRegistry
    else
      let derived := pbkdf2 (ps.utf8 pw) salt iterations.toNat
      if (verifierOf hmac derived).toList ≠ verifier.take lgVerifierLen then .error .wrongPassword
      else .ok derived
  | _, _, _ => .error .readRegistry

/-- How the scripts see the values: a `REG_BINARY` as its bytes, a `REG_DWORD` of 31 bits as that number. -/
structure PowerShell.ReadsRegistry (ps : PowerShell) : Prop where
  binary : ∀ bs, ps.toBytes ⟨regBinary, bs⟩ = some bs
  dword : ∀ n : Nat, n < 2 ^ 31 → ps.toInt ⟨regDword, leBytes 4 n⟩ = some (n : Int)

theorem PowerShell.checkPassword_recordOf {ps : PowerShell} (hps : ps.ReadsRegistry) {hmac : Hmac}
    {pbkdf2 : Pbkdf2} {salt v : Bytes32} {iter : Nat} (hpos : 0 < iter) (hiter : iter < 2 ^ 31) (pw : List WCHAR) :
    ps.checkPassword hmac pbkdf2 (recordOf salt iter v) pw =
      if verifierOf hmac (pbkdf2 (ps.utf8 pw) salt.toList iter) = v then
        .ok (pbkdf2 (ps.utf8 pw) salt.toList iter)
      else .error .wrongPassword := by
  have hnone : ¬ (salt.toList.length < 8 ∨ (iter : Int) < 1) := by
    rw [Vector.length_toList]
    omega
  have htake : v.toList.take lgVerifierLen = v.toList := List.take_of_length_le (by simp [lgVerifierLen])
  simp only [PowerShell.checkPassword, recordOf, Option.bind_some, hps.binary, hps.dword iter hiter, if_neg hnone,
    Int.toNat_natCast, htake, ne_eq, Vector.toList_inj]
  split <;> simp_all

theorem PowerShell.checkPassword_derives {ps : PowerShell} {hmac : Hmac} {pbkdf2 : Pbkdf2} {key : RecoveryKey}
    {pw : List WCHAR} {derived : Bytes32} (h : ps.checkPassword hmac pbkdf2 key pw = .ok derived) :
    ∃ salt iter, derived = pbkdf2 (ps.utf8 pw) salt iter := by
  unfold PowerShell.checkPassword at h
  split at h
  · split at h
    · cases h
    · simp only at h
      split at h
      · cases h
      · cases h
        exact ⟨_, _, rfl⟩
  · cases h

def psTool (ps : PowerShell) (hmac : Hmac) (pbkdf2 : Pbkdf2) : PasswordTool hmac pbkdf2 (List WCHAR) where
  bytes := ps.utf8
  check := ps.checkPassword hmac pbkdf2
  readNewPassword := ps.readStrongNewPassword
  createsKey := false
  derives := PowerShell.checkPassword_derives

def setLockguardPassword (ps : PowerShell) (hmac : Hmac) (pbkdf2 : Pbkdf2) (t : CaseTables) :
    PasswordChange (List WCHAR) → Machine → ClientRun :=
  (psTool ps hmac pbkdf2).change t

def recoverLockguard (ps : PowerShell) (hmac : Hmac) (pbkdf2 : Pbkdf2) (pw : List WCHAR) (k : ClientKernel)
    (m : Machine) : ClientRun :=
  recoverWith hmac (ps.checkPassword hmac pbkdf2 m.key pw) k m

/-! ## What a tool's run does -/

section
variable {t : CaseTables}

/-- Nothing that only asks opens the window. -/
theorem onlyAsks_opens {α : Type} {now : SysTime} {w : Window} {r : Reply α} (hr : r.OnlyAsks now w)
    (h : r.driver.window.gPermissive = true) : w.gPermissive = true := by
  by_contra hclosed
  have hfalse : w.gPermissive = false := by simpa using hclosed
  rcases hr with ⟨-, hw⟩ | ⟨-, hw⟩
  · rw [hw] at h
    exact hclosed h
  · rw [hw, lgIsPermissive_closed hfalse] at h
    exact hclosed h

theorem recoverySetValue_guarded (t : CaseTables) : recoverySetValue.Guarded t := by
  have hlen : 2 * lgRecoveryKey.length ≤ 65532 := by decide
  refine ⟨Or.inl rfl, _, rfl, ntSuccess_success, ?_⟩
  rw [lgKeyNameMatchesAny_iff]
  refine ⟨lgRecoveryKey, by decide, ?_⟩
  simp only [rtlInit_chars hlen, List.prefix_refl]

/-- The recovery key is written only with the window open. -/
theorem setValue_allowed {now : SysTime} {d : Driver}
    (h : ntSuccess (lgRegistryCallback t recoverySetValue now d).value = true) : d.window.gPermissive = true := by
  by_contra hclosed
  have hfalse : (lgIsPermissive now d.window).1 = false := by
    rw [lgIsPermissive_closed (by simpa using hclosed)]
  rw [registryCallback_guarded (recoverySetValue_guarded t)] at h
  simp [unlessPermissive, hfalse] at h

theorem registryCalls_keeps (cs : List RegCall) (m : Machine) :
    (registryCalls t cs m).machine.driver.recovery = m.driver.recovery := by
  induction cs generalizing m with
  | nil => rfl
  | cons c cs ih =>
    have hc := (registryCallback_judged t c.notification c.now m.driver).keeps.2
    simp only [registryCalls]
    split
    · exact hc
    · exact (ih _).trans hc

/-- Calls that all went through have had their effects, the window being open where one of them
writes a value. -/
theorem registryCalls_ok {cs : List RegCall} {m : Machine} (h : (registryCalls t cs m).result = .ok ()) :
    (registryCalls t cs m).machine.key = cs.foldl (fun key c => c.effect key) m.key ∧
      (recoverySetValue ∈ cs.map RegCall.notification → m.driver.window.gPermissive = true) := by
  induction cs generalizing m with
  | nil => exact ⟨rfl, fun hmem => absurd hmem (by simp)⟩
  | cons c cs ih =>
    simp only [registryCalls] at h ⊢
    split at h
    · cases h
    · rename_i hok
      obtain ⟨hkey, hopen⟩ := ih h
      rw [if_neg hok]
      refine ⟨hkey, ?_⟩
      intro hmem
      rcases List.mem_cons.1 hmem with hhead | htail
      · rw [← hhead] at hok
        exact setValue_allowed (by simpa using hok)
      · exact onlyAsks_opens (registryCallback_judged t c.notification c.now m.driver).asks (hopen htail)

end

section
variable {hmac : Hmac} {pbkdf2 : Pbkdf2} {t : CaseTables} {α : Type} {tool : PasswordTool hmac pbkdf2 α}
  {c : PasswordChange α} {m : Machine} {new : α} {salt : Bytes32}

/-- **A change that reports success** has derived a key from the current password, been told that
its unlock succeeded, and written the record of the new password with the window open. -/
theorem change_reported (hnew : tool.readNewPassword c.typed = some new) (hsalt : c.salt = some salt)
    (h : (tool.change t c m).result = .ok ()) :
    ∃ s i, tool.check m.key c.current = .ok (pbkdf2 (tool.bytes c.current) s i) ∧
      let u := unlockDriver hmac (pbkdf2 (tool.bytes c.current) s i) c.kernel m
      u.result = .ok () ∧ u.machine.driver.window.gPermissive = true ∧
      (tool.change t c m).machine.key = newRecord salt (tool.newVerifier salt new) ∧
      (tool.change t c m).machine.driver.recovery = c.kernel.reloaded m := by
  unfold PasswordTool.change at h ⊢
  cases hc : tool.check m.key c.current with
  | error e => rw [hc] at h; cases h
  | ok derived =>
    obtain ⟨s, i, rfl⟩ := tool.derives hc
    rw [hc] at h
    simp only at h ⊢
    cases hu : (unlockDriver hmac (pbkdf2 (tool.bytes c.current) s i) c.kernel m).result with
    | error e => simp only [hu] at h; cases h
    | ok _ =>
      simp only [hu, PasswordTool.writeRecord, hnew, hsalt] at h ⊢
      obtain ⟨hkey, hopen⟩ := registryCalls_ok h
      refine ⟨s, i, rfl, hu, hopen ?_, ?_, ?_⟩
      · simp [PasswordTool.recordCalls]
      · rw [hkey]
        simp only [PasswordTool.recordCalls, List.foldl_append, List.foldl_cons, List.foldl_nil]
      · rw [registryCalls_keeps]
        exact unlockDriver_machine.1

end

end Lockguard
