import Lockguard.SetPassword
/-!
# Boots, recoveries and password changes

The registry's verifier is what the clients check a password against, the driver's own what an
`UNLOCK` is judged by. A boot copies the first to the second (or leaves the copying to the first
`GET_NONCE`), a password change writes the first only. So the new password opens nothing until the
next boot: `password_change_effective_iff` says exactly when it does.
-/
namespace Lockguard

open Runs

/-! ## The machine's runs -/

inductive ClientEvent where
  | boot (openKey : NTSTATUS)
  | recover (pw : Password) (k : ClientKernel)
  | recoverScript (pw : List WCHAR) (k : ClientKernel)
  | setPassword (c : PasswordChange Password)
  | setPasswordScript (c : PasswordChange (List WCHAR))

def ClientEvent.IsBoot : ClientEvent → Prop
  | .boot _ => True
  | _ => False

def ClientEvent.ChangesPassword : ClientEvent → Prop
  | .setPassword _ => True
  | .setPasswordScript _ => True
  | _ => False

/-- The machine with the driver just loaded; `openKey` is what opening the recovery key returned. -/
def Machine.boot (key : RecoveryKey) (openKey : NTSTATUS) : Machine :=
  ⟨driverEntry { key.reads with openKey := openKey }, key⟩

section
variable (hmac : Hmac) (pbkdf2 : Pbkdf2) (t : CaseTables) (ps : PowerShell)

def clientStep (m : Machine) : ClientEvent → Machine
  | .boot openKey => .boot m.key openKey
  | .recover pw k => (doRecover hmac pbkdf2 pw k m).machine
  | .recoverScript pw k => (recoverLockguard ps hmac pbkdf2 pw k m).machine
  | .setPassword c => (doSetPassword hmac pbkdf2 t c m).machine
  | .setPasswordScript c => (setLockguardPassword ps hmac pbkdf2 t c m).machine

abbrev clientRun (m : Machine) (es : List ClientEvent) : Machine := final (clientStep hmac pbkdf2 t ps) m es

/-! ## Clients act on the driver through its requests and callbacks -/

/-- The driver goes from `m` to `m'` by a run of its own. -/
def Drives (m m' : Machine) : Prop := ∃ es, m'.driver = final (driverStep hmac t) m.driver es

end

section
variable {hmac : Hmac} {pbkdf2 : Pbkdf2} {t : CaseTables} {ps : PowerShell} {m m' m'' : Machine}

theorem Drives.refl (m : Machine) : Drives hmac t m m := ⟨[], rfl⟩

theorem Drives.trans (h : Drives hmac t m m') (h' : Drives hmac t m' m'') : Drives hmac t m m'' := by
  obtain ⟨es, hes⟩ := h
  obtain ⟨es', hes'⟩ := h'
  exact ⟨es ++ es', by rw [final_append, ← hes, hes']⟩

theorem ioctl_drives (code : ULONG) (irp : Irp) (k : Kernel) :
    Drives hmac t m (m.ioctl hmac code irp k).machine :=
  ⟨[.ioctl code irp (k.reading m.key)], rfl⟩

theorem getNonceCall_drives (k : Kernel) : Drives hmac t m (ioctlGetNonceCall hmac k m).2 := by
  unfold ioctlGetNonceCall
  simp only
  split
  · exact ioctl_drives _ _ _
  · split <;> exact ioctl_drives _ _ _

theorem unlockDriver_drives (derived : Bytes32) (k : ClientKernel) :
    Drives hmac t m (unlockDriver hmac derived k m).machine := by
  have hnonce : Drives hmac t m (ioctlGetNonceCall hmac k.getNonce m).2 := getNonceCall_drives _
  unfold unlockDriver
  simp only
  split
  · exact hnonce
  · exact hnonce.trans (ioctl_drives _ _ _)

theorem recoverWith_drives (checked : Except ClientError Bytes32) (k : ClientKernel) :
    Drives hmac t m (recoverWith hmac checked k m).machine := by
  cases checked with
  | error e => exact .refl m
  | ok derived => exact unlockDriver_drives derived k

theorem registryCalls_drives (cs : List RegCall) : Drives hmac t m (registryCalls t cs m).machine := by
  induction cs generalizing m with
  | nil => exact .refl m
  | cons c cs ih =>
    have hcall : ∀ key, Drives hmac t m ⟨(lgRegistryCallback t c.notification c.now m.driver).driver, key⟩ :=
      fun key => ⟨[.registry c.notification c.now], rfl⟩
    simp only [registryCalls]
    split
    · exact hcall _
    · exact (hcall _).trans ih

theorem change_drives {α : Type} (tool : PasswordTool hmac pbkdf2 α) (c : PasswordChange α) :
    Drives hmac t m (tool.change t c m).machine := by
  unfold PasswordTool.change
  split
  · exact .refl m
  · rename_i derived _
    have hunlock : Drives hmac t m (unlockDriver hmac derived c.kernel m).machine := unlockDriver_drives _ _
    simp only
    split
    · exact hunlock
    · refine hunlock.trans ?_
      unfold PasswordTool.writeRecord
      split
      · exact .refl _
      · split
        · exact .refl _
        · exact registryCalls_drives _

theorem clientStep_drives {e : ClientEvent} (he : ¬ e.IsBoot) :
    Drives hmac t m (clientStep hmac pbkdf2 t ps m e) := by
  cases e with
  | boot openKey => exact absurd trivial he
  | recover pw k => exact recoverWith_drives _ _
  | recoverScript pw k => exact recoverWith_drives _ _
  | setPassword c => exact change_drives _ _
  | setPasswordScript c => exact change_drives _ _

/-! ## The window is open only over a loaded verifier -/

def OpenIsLoaded (d : Driver) : Prop :=
  d.window.gPermissive = true → ∃ v, d.recovery.loadedVerifier = some v

theorem handle_openIsLoaded {d : Driver} (h : OpenIsLoaded d) (e : Event) :
    OpenIsLoaded (handle hmac t d e).driver := by
  intro hopen
  have hv : ∃ v, d.recovery.loadedVerifier = some v := by
    rcases handle_window hmac t d e with hasks | ⟨irp, k, ⟨-, -, hexit⟩, -⟩
    · exact h (onlyAsks_opens hasks hopen)
    · obtain ⟨_, _, _, _, hloaded, _⟩ := unlockExit_granted hexit
      exact ⟨_, hloaded⟩
  obtain ⟨v, hv⟩ := hv
  exact ⟨v, handle_verifier hmac t hv e⟩

theorem Drives.openIsLoaded (h : Drives hmac t m m') (hm : OpenIsLoaded m.driver) : OpenIsLoaded m'.driver := by
  obtain ⟨es, hes⟩ := h
  rw [hes]
  exact inv (driverStep hmac t) (I := fun _ d => OpenIsLoaded d) hm (fun _ _ e h => handle_openIsLoaded h e) es

theorem boot_openIsLoaded (key : RecoveryKey) (openKey : NTSTATUS) :
    OpenIsLoaded (Machine.boot key openKey).driver := by
  intro h
  cases h

theorem run_openIsLoaded (hm : OpenIsLoaded m.driver) (es : List ClientEvent) :
    OpenIsLoaded (clientRun hmac pbkdf2 t ps m es).driver := by
  refine inv (clientStep hmac pbkdf2 t ps) (I := fun _ m => OpenIsLoaded m.driver) hm (fun _ m e h => ?_) es
  by_cases he : e.IsBoot
  · cases e with
    | boot openKey => exact boot_openIsLoaded _ _
    | _ => exact absurd he id
  · exact (clientStep_drives he).openIsLoaded h

end

/-! ## The record written and the driver's copy -/

section
variable {salt v l : Bytes32} {r : Recovery}

/-- What a `GET_NONCE` after a boot finds: the new verifier, or none and no try made to load it. -/
def Fresh (v : Bytes32) (r : Recovery) : Prop :=
  r.loadedVerifier = some v ∨ (r.gVerifierLoaded = false ∧ r.gVerifierLastRetry = 0)

theorem newRecord_reads (r : Recovery) :
    (lgRecoveryLoadVerifier (newRecord salt v).reads r).2.loadedVerifier = some v :=
  recordOf_reads salt v newIter r

theorem Fresh.boot (openKey : NTSTATUS) : Fresh v (Machine.boot (newRecord salt v) openKey).driver.recovery := by
  simp only [Machine.boot, driverEntry]
  cases ho : ntSuccess openKey with
  | false =>
    refine Or.inr ?_
    simp [lgRecoveryLoadVerifier, ho, Recovery.boot]
  | true =>
    refine Or.inl ?_
    have hsame : lgRecoveryLoadVerifier { (newRecord salt v).reads with openKey := openKey } .boot =
        lgRecoveryLoadVerifier (newRecord salt v).reads .boot := by
      simp [lgRecoveryLoadVerifier, ho, RecoveryKey.reads]
    rw [hsame]
    exact newRecord_reads _

theorem Fresh.reload_passive (h : Fresh v r) (now : SysTime) :
    (lgRecoveryTryReload 0 now (newRecord salt v).reads r).loadedVerifier = some v := by
  rcases h with hv | ⟨hl, ht⟩
  · exact tryReload_keeps hv _ _ _
  · simp only [lgRecoveryTryReload, hl, ht]
    exact newRecord_reads _

theorem Fresh.reload (h : Fresh v r) (irql : Nat) (now : SysTime) :
    Fresh v (lgRecoveryTryReload irql now (newRecord salt v).reads r) := by
  by_cases hirql : irql = 0
  · subst hirql
    exact Or.inl (h.reload_passive now)
  · rcases h with hv | ⟨hl, ht⟩
    · exact Or.inl (tryReload_keeps hv _ _ _)
    · refine Or.inr ?_
      have hpos : 0 < irql := by omega
      simp [lgRecoveryTryReload, hl, ht, hpos]

/-- After a change and then `es`: the driver holds what it held, or what a boot among `es` gave it. -/
structure AfterChange (salt v l : Bytes32) (es : List ClientEvent) (m : Machine) : Prop where
  key : m.key = newRecord salt v
  held : ((∀ e ∈ es, ¬ e.IsBoot) ∧ m.driver.recovery.loadedVerifier = some l) ∨
    ((∃ e ∈ es, e.IsBoot) ∧ Fresh v m.driver.recovery)

variable {hmac : Hmac} {pbkdf2 : Pbkdf2} {t : CaseTables} {ps : PowerShell} {m : Machine} {es : List ClientEvent}

theorem recoverWith_machine (hmac : Hmac) (checked : Except ClientError Bytes32) (k : ClientKernel) (m : Machine) :
    (recoverWith hmac checked k m).machine.key = m.key ∧
      ((recoverWith hmac checked k m).machine.driver.recovery = m.driver.recovery ∨
        (recoverWith hmac checked k m).machine.driver.recovery = k.reloaded m) := by
  cases checked with
  | error e => exact ⟨rfl, Or.inl rfl⟩
  | ok derived => exact ⟨unlockDriver_machine.2, Or.inr unlockDriver_machine.1⟩

theorem AfterChange.recoverWith (h : AfterChange salt v l es m) {e : ClientEvent} (he : ¬ e.IsBoot)
    (checked : Except ClientError Bytes32) (k : ClientKernel) :
    AfterChange salt v l (es ++ [e]) (recoverWith hmac checked k m).machine := by
  obtain ⟨hkey, hrec⟩ := recoverWith_machine hmac checked k m
  refine ⟨hkey.trans h.key, ?_⟩
  rcases h.held with ⟨hno, hl⟩ | ⟨⟨b, hb, hboot⟩, hf⟩
  · refine Or.inl ⟨?_, ?_⟩
    · intro x hx
      rcases List.mem_append.1 hx with hx | hx
      · exact hno x hx
      · rw [List.mem_singleton.1 hx]
        exact he
    · rcases hrec with hsame | hreload
      · rw [hsame]; exact hl
      · rw [hreload]; exact tryReload_keeps hl _ _ _
  · refine Or.inr ⟨⟨b, List.mem_append_left _ hb, hboot⟩, ?_⟩
    rcases hrec with hsame | hreload
    · rw [hsame]; exact hf
    · rw [hreload, ClientKernel.reloaded, h.key]
      exact hf.reload _ _

theorem AfterChange.step (h : AfterChange salt v l es m) {e : ClientEvent} (he : ¬ e.ChangesPassword) :
    AfterChange salt v l (es ++ [e]) (clientStep hmac pbkdf2 t ps m e) := by
  cases e with
  | boot openKey =>
    refine ⟨h.key, Or.inr ⟨⟨.boot openKey, by simp, trivial⟩, ?_⟩⟩
    simp only [clientStep, h.key]
    exact Fresh.boot openKey
  | recover pw k => exact h.recoverWith id _ _
  | recoverScript pw k => exact h.recoverWith id _ _
  | setPassword c => exact absurd trivial he
  | setPasswordScript c => exact absurd trivial he

theorem AfterChange.run (h : AfterChange salt v l [] m) (es : List ClientEvent)
    (hes : ∀ e ∈ es, ¬ e.ChangesPassword) : AfterChange salt v l es (clientRun hmac pbkdf2 t ps m es) := by
  have hrun := inv_of (clientStep hmac pbkdf2 t ps) (A := fun _ x => ¬ x.event.ChangesPassword)
    (I := fun tr m => AfterChange salt v l (tr.map Turn.event) m) h (fun tr m e h he => ?_) es
    (fun pre x post hx => ?_)
  · rwa [map_event_turns] at hrun
  · rw [List.map_append]
    exact h.step he
  · obtain ⟨es₁, es₂, rfl, -⟩ := turns_split _ hx
    exact hes _ (by simp)

end

/-! ## Recovering under the new record -/

/-- The two requests of a client that nothing disturbs: they are handled at passive level, BCrypt
works, and the nonce is not stale by the time of the `UNLOCK`. -/
structure ClientKernel.Undisturbed (k : ClientKernel) : Prop where
  passive : k.getNonce.irql = 0
  bcrypt : k.getNonce.BcryptSucceeds ∧ k.unlock.BcryptSucceeds
  prompt : k.unlock.now.quadPart - k.getNonce.now.quadPart ≤ ticks lgNonceTtlSeconds

section
variable {hmac : Hmac} {pbkdf2 : Pbkdf2} {m : Machine} {salt v : Bytes32} {pw : Password} {k : ClientKernel}

theorem checkPassword_newRecord : checkPassword hmac pbkdf2 (newRecord salt v) pw =
    if verifierOf hmac (pbkdf2 pw salt.toList newIter) = v then .ok (pbkdf2 pw salt.toList newIter)
    else .error .wrongPassword :=
  checkPassword_recordOf (by decide) pw

theorem unlockDriver_opens_iff (hk : k.Undisturbed) (derived : Bytes32) :
    (unlockDriver hmac derived k m).OpensWindow ↔
      (k.reloaded m).loadedVerifier = some (verifierOf hmac derived) := by
  have hunlock : (k.unlock.reading m.key).BcryptSucceeds := hk.bcrypt.2
  rw [(unlockDriver_spec hk.bcrypt.1.1).1, ClientKernel.exit, unlockExit_granted_iff hunlock]
  constructor
  · rintro ⟨_, _, -, -, hv, -⟩
    exact hv
  · intro hv
    exact ⟨_, _, rfl, hk.prompt, hv, rfl⟩

theorem recover_opens_iff (hm : m.key = newRecord salt v) (hk : k.Undisturbed)
    (hpw : verifierOf hmac (pbkdf2 pw salt.toList newIter) = v) :
    (doRecover hmac pbkdf2 pw k m).OpensWindow ↔ (k.reloaded m).loadedVerifier = some v := by
  rw [doRecover, hm, checkPassword_newRecord, if_pos hpw, ← hpw]
  exact unlockDriver_opens_iff hk _

theorem recover_wrong (hm : m.key = newRecord salt v)
    (hpw : verifierOf hmac (pbkdf2 pw salt.toList newIter) ≠ v) :
    ¬ (doRecover hmac pbkdf2 pw k m).OpensWindow := by
  rw [doRecover, hm, checkPassword_newRecord, if_neg hpw]
  rintro ⟨now, hnow⟩
  cases hnow

end

/-! ## When a change takes effect -/

section
variable {hmac : Hmac} {pbkdf2 : Pbkdf2} {t : CaseTables} {ps : PowerShell} {α : Type}
  {tool : PasswordTool hmac pbkdf2 α} {c : PasswordChange α} {m : Machine} {new : α} {salt : Bytes32}

/-- The current password's verifier is not the one written for the new password, neither under the record the tool has
checked it against nor under the new one. -/
structure DifferentVerifiers (tool : PasswordTool hmac pbkdf2 α) (c : PasswordChange α) (m : Machine) (salt : Bytes32)
    (new : α) : Prop where
  before : ∀ derived, tool.check m.key c.current = .ok derived → verifierOf hmac derived ≠ tool.newVerifier salt new
  after : verifierOf hmac (pbkdf2 (tool.bytes c.current) salt.toList newIter) ≠ tool.newVerifier salt new

theorem unlockDriver_opened {derived : Bytes32} {k : ClientKernel}
    (h : (unlockDriver hmac derived k m).machine.driver.window.gPermissive = true) :
    m.driver.window.gPermissive = true ∨
      (k.reloaded m).loadedVerifier = some (verifierOf hmac derived) := by
  cases hr : ntSuccess k.getNonce.random.status with
  | false =>
    rw [unlockDriver_of_error (getNonceCall_failed hr)] at h
    exact Or.inl h
  | true =>
    by_cases hexit : k.exit hmac derived m = .granted
    · obtain ⟨_, _, _, _, hv, _⟩ := unlockExit_granted hexit
      exact Or.inr hv
    · refine Or.inl ?_
      rw [unlockDriver_of_nonce (getNonceCall_ok hr), unlockCall_eq] at h
      simp only [nonceTake_issue] at h
      rw [ClientKernel.exit] at hexit
      rwa [unlockFinish_window hexit] at h

/-- A change whose own unlock opened the window leaves the driver the verifier of the old password. -/
theorem granted_change_holds_old {derived : Bytes32} (hdiff : verifierOf hmac derived ≠ tool.newVerifier salt new)
    (hv : (c.kernel.reloaded m).loadedVerifier = some (verifierOf hmac derived)) :
    m.driver.recovery.loadedVerifier ≠ some (tool.newVerifier salt new) := by
  intro hl
  rw [ClientKernel.reloaded, tryReload_keeps hl] at hv
  exact hdiff (Option.some.inj hv).symm

/-- What the driver holds after a change that reports success. -/
theorem afterChange_of_reported (hm : OpenIsLoaded m.driver) (hnew : tool.readNewPassword c.typed = some new)
    (hsalt : c.salt = some salt)
    (hdiff : DifferentVerifiers tool c m salt new) (h : (tool.change t c m).result = .ok ()) :
    ∃ l, AfterChange salt (tool.newVerifier salt new) l [] (tool.change t c m).machine ∧
      (l = tool.newVerifier salt new ↔ m.driver.recovery.loadedVerifier = some (tool.newVerifier salt new)) := by
  obtain ⟨s, i, hchecked, -, hopen, hkey, hrec⟩ := change_reported hnew hsalt h
  have hafter : ∀ l, (c.kernel.reloaded m).loadedVerifier = some l →
      AfterChange salt (tool.newVerifier salt new) l [] (tool.change t c m).machine :=
    fun l hl => ⟨hkey, Or.inl ⟨by simp, by rw [hrec, hl]⟩⟩
  rcases unlockDriver_opened hopen with hwas | hgranted
  · obtain ⟨l, hl⟩ := hm hwas
    refine ⟨l, hafter l (tryReload_keeps hl _ _ _), ?_⟩
    rw [hl, Option.some.injEq]
  · have hother := hdiff.before _ hchecked
    exact ⟨_, hafter _ hgranted, iff_of_false hother (granted_change_holds_old hother hgranted)⟩

/-- **When a password change takes effect.** In every run from a boot: after a change from one
password to another that reports success, and boots and recoveries `es₂` after it, an undisturbed
`--recover` with the new password opens the window and one with the old does not exactly when the
machine was rebooted in between, or the driver held the verifier now written before the change
began. -/
theorem password_change_effective_iff (key : RecoveryKey) (openKey : NTSTATUS) (es₁ es₂ : List ClientEvent)
    (hm : m = clientRun hmac pbkdf2 t ps (.boot key openKey) es₁)
    (hnew : tool.readNewPassword c.typed = some new) (hsalt : c.salt = some salt)
    (hdiff : DifferentVerifiers tool c m salt new) (hok : (tool.change t c m).result = .ok ())
    (hes₂ : ∀ e ∈ es₂, ¬ e.ChangesPassword) {k : ClientKernel} (hk : k.Undisturbed) (k' : ClientKernel) :
    let m' := clientRun hmac pbkdf2 t ps (tool.change t c m).machine es₂
    ((doRecover hmac pbkdf2 (tool.bytes new) k m').OpensWindow ∧
      ¬ (doRecover hmac pbkdf2 (tool.bytes c.current) k' m').OpensWindow) ↔
    (∃ e ∈ es₂, e.IsBoot) ∨ m.driver.recovery.loadedVerifier = some (tool.newVerifier salt new) := by
  intro m'
  have hloaded : OpenIsLoaded m.driver := by
    rw [hm]
    exact run_openIsLoaded (boot_openIsLoaded key openKey) es₁
  obtain ⟨l, hafter, hl⟩ := afterChange_of_reported hloaded hnew hsalt hdiff hok
  obtain ⟨hkey, hheld⟩ : AfterChange salt (tool.newVerifier salt new) l es₂ m' := hafter.run es₂ hes₂
  have hold : ¬ (doRecover hmac pbkdf2 (tool.bytes c.current) k' m').OpensWindow :=
    recover_wrong hkey hdiff.after
  rw [and_iff_left hold, recover_opens_iff hkey hk rfl, ← hl]
  rcases hheld with ⟨hno, hv⟩ | ⟨hboot, hfresh⟩
  · have hno' : ¬ ∃ e ∈ es₂, e.IsBoot := fun ⟨e, he, hb⟩ => hno e he hb
    have hreload : (k.reloaded m').loadedVerifier = some l := tryReload_keeps hv _ _ _
    rw [hreload, Option.some.injEq]
    simp only [hno', false_or]
  · refine iff_of_true ?_ (Or.inl hboot)
    rw [ClientKernel.reloaded, hkey, hk.passive]
    exact hfresh.reload_passive _

end

/-! ## A worked change

PBKDF2 and HMAC tabulated for two passwords, and the change from the first to the second. -/

namespace Worked

def oldPassword : Password := asciiBytes "Correct-Horse-1"
def newPassword : Password := asciiBytes "Battery-Staple-2"

def oldKey : Bytes32 :=
  #v[218, 52, 21, 189, 231, 90, 152, 128, 32, 124, 225, 144, 50, 161, 117, 124,
    253, 44, 243, 172, 14, 214, 211, 236, 121, 10, 99, 235, 168, 168, 45, 238]

def oldKeyResalted : Bytes32 :=
  #v[186, 25, 71, 97, 6, 201, 94, 85, 131, 217, 190, 27, 27, 238, 107, 215,
    238, 156, 243, 102, 188, 194, 184, 51, 219, 73, 4, 44, 216, 180, 10, 59]

def newKey : Bytes32 :=
  #v[59, 227, 37, 125, 184, 77, 67, 126, 13, 167, 98, 188, 191, 238, 208, 203,
    87, 55, 111, 45, 208, 136, 103, 185, 72, 122, 241, 125, 185, 6, 129, 137]

def oldVerifier : Bytes32 :=
  #v[132, 97, 207, 26, 55, 203, 41, 102, 178, 41, 236, 185, 165, 58, 222, 113,
    96, 169, 139, 173, 204, 76, 22, 139, 230, 152, 81, 189, 73, 133, 32, 112]

def oldVerifierResalted : Bytes32 :=
  #v[78, 183, 169, 181, 215, 115, 54, 110, 104, 162, 165, 75, 152, 70, 210, 68,
    88, 102, 5, 169, 231, 149, 53, 236, 219, 94, 186, 17, 174, 236, 47, 63]

def newVerifier : Bytes32 :=
  #v[148, 95, 141, 18, 156, 203, 148, 43, 174, 85, 247, 227, 160, 79, 76, 143,
    226, 95, 36, 92, 8, 24, 168, 227, 109, 205, 225, 92, 49, 223, 118, 143]

def oldResponse : Bytes32 :=
  #v[151, 146, 31, 133, 250, 119, 94, 33, 193, 97, 184, 221, 254, 59, 43, 225,
    243, 115, 199, 188, 213, 47, 79, 254, 88, 82, 235, 64, 222, 57, 48, 211]

def newResponse : Bytes32 :=
  #v[176, 171, 170, 148, 151, 18, 164, 8, 216, 100, 52, 106, 230, 193, 91, 74,
    152, 177, 137, 47, 85, 209, 19, 151, 161, 102, 3, 18, 80, 184, 5, 122]

def pbkdf2Table : Pbkdf2 := fun pw _ iter =>
  if pw = newPassword then newKey else if iter = newIter then oldKeyResalted else oldKey

def hmacTable : Hmac := fun k data =>
  if data = lgVerifierLabel then
    if k = newKey.toList then newVerifier
    else if k = oldKeyResalted.toList then oldVerifierResalted
    else oldVerifier
  else if k = newKey.toList then newResponse
  else oldResponse

def oldRecord : RecoveryKey where
  installSalt := some ⟨regBinary, List.replicate 16 5⟩
  iterations := some ⟨regDword, leBytes 4 600000⟩
  verifier := some ⟨regBinary, oldVerifier.toList⟩

/-- Both requests at one time. -/
def clientKernel (now : SysTime) : ClientKernel := ⟨kernel now, kernel now⟩

theorem clientKernel_undisturbed (now : SysTime) : (clientKernel now).Undisturbed where
  passive := rfl
  bcrypt := by
    have hk : (kernel SysTime.zero).BcryptSucceeds := by decide
    exact ⟨hk, hk⟩
  prompt := by
    show now.quadPart - now.quadPart ≤ ticks lgNonceTtlSeconds
    have hticks : 0 ≤ ticks lgNonceTtlSeconds := by decide
    omega

def change : PasswordChange Password where
  current := oldPassword
  typed := [(asciiBytes "battery-staple", asciiBytes "battery-staple"), (newPassword, newPassword)]
  salt := some (Vector.replicate 32 6)
  kernel := clientKernel (time 0)
  openTime := time 300
  saltTime := time 301
  iterationsTime := time 302
  verifierTime := time 303

/-- PowerShell as it treats ASCII. -/
def ps : PowerShell where
  ne a b := a.map asciiUpcase != b.map asciiUpcase
  notmatch a pattern :=
    if pattern = "[0-9]" then !a.any fun c => 48 ≤ c && c ≤ 57
    else !a.any fun c => 65 ≤ asciiUpcase c && asciiUpcase c ≤ 90
  utf8 a := a.map UInt16.toUInt8
  toBytes v := if v.type = regBinary then some v.data else none
  toInt v := if v.type = regDword then some (leNat v.data) else none

def tool : PasswordTool hmacTable pbkdf2Table Password := goTool hmacTable pbkdf2Table

theorem different (salt : Bytes) (iter : Nat) (salt' : Bytes) (iter' : Nat) : verifierOf hmacTable
    (pbkdf2Table oldPassword salt iter) ≠ verifierOf hmacTable (pbkdf2Table newPassword salt' iter') := by
  have hne : oldPassword ≠ newPassword := by decide
  by_cases hiter : iter = newIter
  · simp only [pbkdf2Table, if_neg hne, if_pos hiter, if_true]
    decide +kernel
  · simp only [pbkdf2Table, if_neg hne, if_neg hiter, if_true]
    decide +kernel

theorem change_different : DifferentVerifiers tool change (.boot oldRecord statusSuccess) (Vector.replicate 32 6)
    newPassword where
  before derived hcheck := by
    obtain ⟨salt, iter, rfl⟩ := tool.derives hcheck
    exact different salt iter _ _
  after := different _ _ _ _

theorem change_ok : (tool.change .ascii change (.boot oldRecord statusSuccess)).result = .ok () := by
  decide +kernel

end Worked

open Worked in
/-- With a reboot after the change, the new password opens the window. -/
theorem password_change_effective_reboot :
    let m := clientRun hmacTable pbkdf2Table .ascii ps
      (tool.change .ascii change (.boot oldRecord statusSuccess)).machine [.boot statusSuccess]
    (doRecover hmacTable pbkdf2Table newPassword (clientKernel (time 600)) m).OpensWindow ∧
      ¬ (doRecover hmacTable pbkdf2Table oldPassword (clientKernel (time 600)) m).OpensWindow :=
  (password_change_effective_iff oldRecord statusSuccess [] [.boot statusSuccess] rfl (by decide) rfl
    change_different change_ok (by simp [ClientEvent.ChangesPassword]) (clientKernel_undisturbed (time 600)) _).2
    (Or.inl ⟨.boot statusSuccess, by simp, trivial⟩)

open Worked in
/-- Without one, half a minute after the change was reported: the new password is right by the
registry, and the driver refuses it. -/
theorem password_change_not_effective :
    let r := doSetPassword hmacTable pbkdf2Table .ascii change (.boot oldRecord statusSuccess)
    r.result = .ok () ∧ (clientKernel (time 600)).Undisturbed ∧
      ¬ (doRecover hmacTable pbkdf2Table newPassword (clientKernel (time 600)) r.machine).OpensWindow := by
  refine ⟨change_ok, clientKernel_undisturbed _, ?_⟩
  rintro ⟨now, hnow⟩
  have hcalls : (doRecover hmacTable pbkdf2Table newPassword (clientKernel (time 600))
      (doSetPassword hmacTable pbkdf2Table .ascii change (.boot oldRecord statusSuccess)).machine).calls = [] := by
    decide +kernel
  rw [hcalls] at hnow
  cases hnow

end Lockguard
