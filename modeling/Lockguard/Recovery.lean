import Lockguard.Nt
/-!
# Crypto helpers and the recovery verifier (`lockguard.c:34-66`, `:135-270`)

HMAC-SHA256 itself is BCrypt's: `Hmac` is an arbitrary function of a key and the data, and the
statuses the BCrypt and registry calls return are inputs (`HmacCalls`, `RandomCall`,
`RecoveryReads`). `LgRecoveryLoadVerifier` writes its globals one by one and leaves what it has
written when a later read fails, as the source does; `gVerifierLoaded` is set last.
-/
namespace Lockguard

abbrev ULONG := UInt32

/-- HMAC-SHA256 of a key and the data. -/
abbrev Hmac := Bytes → Bytes → Bytes32

def asciiBytes (s : String) : Bytes := s.toList.map fun c => c.toNat.toUInt8

def lgVerifierLabel : Bytes := asciiBytes "LOCKGUARD-VERIFIER-V1"
def lgVerifierLen : Nat := 32
def lgNonceLen : Nat := 32
def lgSaltMaxLen : Nat := 64

/-! ## BCrypt -/

/-- What the four BCrypt calls of one `LgHmacSha256` return. -/
structure HmacCalls where
  openAlgorithmProvider : NTSTATUS
  createHash : NTSTATUS
  hashData : NTSTATUS
  finishHash : NTSTATUS
deriving DecidableEq

def HmacCalls.Succeed (c : HmacCalls) : Prop :=
  ntSuccess c.openAlgorithmProvider = true ∧ ntSuccess c.createHash = true ∧
    ntSuccess c.hashData = true ∧ ntSuccess c.finishHash = true

instance (c : HmacCalls) : Decidable c.Succeed := inferInstanceAs (Decidable (_ ∧ _))

/-- `LgHmacSha256` (`:142-166`). -/
def lgHmacSha256 (hmac : Hmac) (c : HmacCalls) (key data : Bytes) : Except NTSTATUS Bytes32 := do
  checked c.openAlgorithmProvider
  checked c.createHash
  checked c.hashData
  checked c.finishHash
  return hmac key data

/-- What `BCryptGenRandom` returns and leaves in the buffer. -/
structure RandomCall where
  status : NTSTATUS
  bytes : Bytes32

/-- `LgGenerateRandom` (`:137-140`), as `LgHandleGetNonce` tests it. -/
def lgGenerateRandom (c : RandomCall) : Except NTSTATUS Bytes32 := do
  checked c.status
  return c.bytes

theorem lgHmacSha256_ok {hmac : Hmac} {c : HmacCalls} (h : c.Succeed) (key data : Bytes) :
    lgHmacSha256 hmac c key data = .ok (hmac key data) := by
  obtain ⟨h1, h2, h3, h4⟩ := h
  simp only [lgHmacSha256, checked_of_success h1, checked_of_success h2, checked_of_success h3,
    checked_of_success h4]
  rfl

/-- A finished `LgHmacSha256` gives the HMAC; an unfinished one carries a failing status. -/
theorem lgHmacSha256_cases (hmac : Hmac) (c : HmacCalls) (key data : Bytes) :
    lgHmacSha256 hmac c key data = .ok (hmac key data) ∨
      ∃ s, lgHmacSha256 hmac c key data = .error s ∧ ntSuccess s = false := by
  unfold lgHmacSha256 checked
  cases h1 : ntSuccess c.openAlgorithmProvider
  · exact Or.inr ⟨_, rfl, h1⟩
  cases h2 : ntSuccess c.createHash
  · exact Or.inr ⟨_, rfl, h2⟩
  cases h3 : ntSuccess c.hashData
  · exact Or.inr ⟨_, rfl, h3⟩
  cases h4 : ntSuccess c.finishHash
  · exact Or.inr ⟨_, rfl, h4⟩
  exact Or.inl rfl

/-! ## Registry reads -/

def regBinary : ULONG := 3
def regDword : ULONG := 4
def regQword : ULONG := 11

structure RegValue where
  type : ULONG
  data : Bytes
deriving DecidableEq

/-- What one `ZwQueryValueKey` hands back; `info` counts only under a success status. -/
structure RegQuery where
  status : NTSTATUS
  info : RegValue

/-- What the registry answers to one `LgRecoveryLoadVerifier`. -/
structure RecoveryReads where
  openKey : NTSTATUS
  installSalt : RegQuery
  iterations : RegQuery
  verifier : RegQuery

def leNat : Bytes → Nat
  | [] => 0
  | b :: bs => b.toNat + 256 * leNat bs

/-- `LgReadRegBytes` (`:170-189`). -/
def lgReadRegBytes (q : RegQuery) (bufLen : Nat) : Except NTSTATUS Bytes := do
  checked q.status
  if bufLen < q.info.data.length then .error statusBufferTooSmall
  else .ok q.info.data

/-- `LgReadRegDword` (`:191-208`). -/
def lgReadRegDword (q : RegQuery) : Except NTSTATUS ULONG := do
  checked q.status
  if q.info.type ≠ regDword ∨ q.info.data.length ≠ 4 then .error statusObjectTypeMismatch
  else .ok (UInt32.ofNat (leNat q.info.data))

/-! ## The verifier -/

structure Recovery where
  gInstallSalt : Vector UInt8 64
  gInstallSaltLen : Nat
  gIterations : ULONG
  gStoredVerifier : Bytes32
  gVerifierLoaded : Bool
  gVerifierLastRetry : Int

/-- The static initialisers. -/
def Recovery.boot : Recovery := ⟨Vector.replicate 64 0, 0, 0, zero32, false, 0⟩

/-- `RtlCopyMemory(dst, src, sizeof src)` into a fixed array. -/
def copyInto {n : Nat} (dst : Vector UInt8 n) (src : Bytes) : Vector UInt8 n :=
  Vector.ofFn fun i => src.getD i dst[i]

/-- `LgRecoveryLoadVerifier` (`:210-253`): its status and the globals it leaves. -/
def lgRecoveryLoadVerifier (k : RecoveryReads) (r : Recovery) : NTSTATUS × Recovery :=
  if !ntSuccess k.openKey then (k.openKey, r)
  else match lgReadRegBytes k.installSalt lgSaltMaxLen with
  | .error s => (s, r)
  | .ok salt =>
    let r := { r with gInstallSalt := copyInto r.gInstallSalt salt, gInstallSaltLen := salt.length }
    match lgReadRegDword k.iterations with
    | .error s => (s, r)
    | .ok iterations =>
      let r := { r with gIterations := iterations }
      match lgReadRegBytes k.verifier lgVerifierLen with
      | .error s => (s, r)
      | .ok verifier =>
        let r := { r with gStoredVerifier := copyInto r.gStoredVerifier verifier }
        if verifier.length ≠ lgVerifierLen then (statusInvalidParameter, r)
        else (statusSuccess, { r with gVerifierLoaded := true })

def lgVerifierRetryInterval100ns : Int := ticks 10

/-- `LgRecoveryTryReload` (`:47-66`), run by one thread: its compare-exchange never loses. -/
def lgRecoveryTryReload (irql : Nat) (now : SysTime) (k : RecoveryReads) (r : Recovery) : Recovery :=
  if r.gVerifierLoaded then r
  else if irql > 0 then r
  else
    let last := r.gVerifierLastRetry
    if last ≠ 0 ∧ long64 (now.quadPart - last) < lgVerifierRetryInterval100ns then r
    else (lgRecoveryLoadVerifier k { r with gVerifierLastRetry := now.quadPart }).2

/-- `LgRecoveryCheckKey` (`:255-270`). -/
def lgRecoveryCheckKey (hmac : Hmac) (r : Recovery) (c : HmacCalls) (derivedKey : Bytes32) :
    Except NTSTATUS Unit :=
  if !r.gVerifierLoaded then .error statusNotFound
  else do
    let computed ← lgHmacSha256 hmac c derivedKey.toList lgVerifierLabel
    if !lgConstantTimeEqual computed r.gStoredVerifier then .error statusAccessDenied
    else .ok ()

/-- The verifier a key is checked against. -/
def Recovery.loadedVerifier (r : Recovery) : Option Bytes32 :=
  if r.gVerifierLoaded then some r.gStoredVerifier else none

theorem tryReload_loaded {r : Recovery} (h : r.gVerifierLoaded = true) (irql : Nat) (now : SysTime)
    (k : RecoveryReads) : lgRecoveryTryReload irql now k r = r := by
  simp [lgRecoveryTryReload, h]

/-- **A loaded verifier never changes.** -/
theorem tryReload_keeps {r : Recovery} {v : Bytes32} (h : r.loadedVerifier = some v) (irql : Nat)
    (now : SysTime) (k : RecoveryReads) :
    (lgRecoveryTryReload irql now k r).loadedVerifier = some v := by
  cases hl : r.gVerifierLoaded with
  | false => simp [Recovery.loadedVerifier, hl] at h
  | true => rw [tryReload_loaded hl]; exact h

theorem loadedVerifier_eq_some {r : Recovery} {v : Bytes32} :
    r.loadedVerifier = some v ↔ r.gVerifierLoaded = true ∧ r.gStoredVerifier = v := by
  unfold Recovery.loadedVerifier
  split <;> simp_all

/-- An accepted key is one whose label MAC is the loaded verifier. -/
theorem checkKey_ok {hmac : Hmac} {r : Recovery} {c : HmacCalls} {key : Bytes32}
    (h : lgRecoveryCheckKey hmac r c key = .ok ()) :
    r.loadedVerifier = some (hmac key.toList lgVerifierLabel) := by
  unfold lgRecoveryCheckKey at h
  split at h
  · cases h
  · rename_i hl
    rw [loadedVerifier_eq_some]
    refine ⟨by simpa using hl, ?_⟩
    rcases lgHmacSha256_cases hmac c key.toList lgVerifierLabel with hm | ⟨s, hm, -⟩
    · rw [hm] at h
      by_cases he : hmac key.toList lgVerifierLabel = r.gStoredVerifier
      · exact he.symm
      · simp [bind, Except.bind, lgConstantTimeEqual_ne he] at h
    · rw [hm] at h; cases h

theorem checkKey_iff {hmac : Hmac} {r : Recovery} {c : HmacCalls} {key : Bytes32} (hc : c.Succeed) :
    lgRecoveryCheckKey hmac r c key = .ok () ↔
      r.loadedVerifier = some (hmac key.toList lgVerifierLabel) := by
  refine ⟨checkKey_ok, ?_⟩
  intro h
  obtain ⟨hl, hv⟩ := loadedVerifier_eq_some.1 h
  simp [lgRecoveryCheckKey, hl, lgHmacSha256_ok hc, hv, bind, Except.bind]

end Lockguard
