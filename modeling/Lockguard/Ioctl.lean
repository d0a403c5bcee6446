import Lockguard.Globals
/-!
# The recovery channel (`lockguard.c:272-417`)

Each handler is a function of the request, of the driver's globals and of what the kernel answers
to the calls it makes (`Kernel`). Besides the status and the request buffer it returns the calls
it made to the permissive window (`Reply.calls`), so that a run can be read back.

`LgHandleGetNonce` and `LgHandleUnlock` are put together from what they do before, in and after
their section under `gNonceLock`; `LgHandleUnlock` leaves through one of `UnlockExit`.
-/
namespace Lockguard

def lgNonceTtlSeconds : Int := 60

/-! ## Requests -/

/-- A `METHOD_BUFFERED` request: the system buffer holds the longer of the two lengths. -/
structure Irp where
  inputBufferLength : Nat
  outputBufferLength : Nat
  systemBuffer : Bytes
  information : Nat
  buffered : max inputBufferLength outputBufferLength ≤ systemBuffer.length

def Irp.store (irp : Irp) (off : Nat) (bs : Bytes) : Irp :=
  { irp with systemBuffer := overlay irp.systemBuffer off bs, buffered := by simpa using irp.buffered }

/-- The request for a nonce, as every client sends it. -/
def nonceIrp : Irp := ⟨0, 32, List.replicate 32 0, 0, by decide⟩

structure UnlockRequest where
  response : Bytes32
  derivedKey : Bytes32

def sizeofUnlockRequest : Nat := 64

def Irp.unlockRequest (irp : Irp) : UnlockRequest :=
  ⟨bytesAt 32 irp.systemBuffer 0, bytesAt 32 irp.systemBuffer 32⟩

/-- `RtlSecureZeroMemory(req, sizeof(*req))`. -/
def Irp.zeroRequest (irp : Irp) : Irp := irp.store 0 (List.replicate sizeofUnlockRequest 0)

/-- What the kernel answers while one request is handled: `now` is the handler's own clock
reading, `retryTime` that of `LgRecoveryTryReload`, `windowTime` that of
`LgEnterPermissiveWindow`. -/
structure Kernel where
  irql : Nat
  retryTime : SysTime
  reads : RecoveryReads
  random : RandomCall
  now : SysTime
  checkHmac : HmacCalls
  responseHmac : HmacCalls
  windowTime : SysTime

/-- Every BCrypt call succeeds. -/
def Kernel.BcryptSucceeds (k : Kernel) : Prop :=
  ntSuccess k.random.status = true ∧ k.checkHmac.Succeed ∧ k.responseHmac.Succeed

instance (k : Kernel) : Decidable k.BcryptSucceeds := inferInstanceAs (Decidable (_ ∧ _))

/-! ## `LgHandleGetNonce` (`:274-301`) -/

/-- Up to the lock: the nonce to issue and its time. -/
def getNoncePrepare (irp : Irp) (k : Kernel) (d : Driver) :
    Except NTSTATUS (Bytes32 × SysTime) × Driver :=
  if irp.outputBufferLength < lgNonceLen then (.error statusBufferTooSmall, d)
  else
    let d := { d with recovery := lgRecoveryTryReload k.irql k.retryTime k.reads d.recovery }
    match lgGenerateRandom k.random with
    | .error s => (.error s, d)
    | .ok nonce => (.ok (nonce, k.now), d)

/-- Under the lock (`:291-295`). -/
def nonceIssue (nonce : Bytes32) (now : SysTime) (s : NonceSlot) : NonceSlot :=
  { s with gPendingNonce := nonce, gNonceValid := true, gNonceIssuedAt := now }

def getNonceReply (nonce : Bytes32) (irp : Irp) : Irp :=
  { irp.store 0 nonce.toList with information := lgNonceLen }

def lgHandleGetNonce (irp : Irp) (k : Kernel) (d : Driver) : Reply (NTSTATUS × Irp) :=
  match getNoncePrepare irp k d with
  | (.error s, d) => ⟨(s, irp), d, []⟩
  | (.ok (nonce, now), d) =>
    ⟨(statusSuccess, getNonceReply nonce irp), { d with nonce := nonceIssue nonce now d.nonce }, []⟩

/-! ## `LgHandleUnlock` (`:303-363`) -/

/-- Under the lock (`:315-323`): a pending nonce is taken, and with it its validity. -/
def nonceTake (s : NonceSlot) : Option (Bytes32 × SysTime) × NonceSlot :=
  if s.gNonceValid then
    (some (s.gPendingNonce, s.gNonceIssuedAt), { s with gNonceValid := false, gPendingNonce := zero32 })
  else (none, s)

/-- Where the handler leaves, once past its length check. -/
inductive UnlockExit where
  | noNonce
  | staleNonce
  | wrongKey
  | hmacFailed (s : NTSTATUS)
  | mismatch
  | granted
deriving DecidableEq

/-- The judgement on what was taken under the lock (`:325-357`). -/
def unlockExit (hmac : Hmac) (taken : Option (Bytes32 × SysTime)) (r : Recovery) (req : UnlockRequest)
    (k : Kernel) : UnlockExit :=
  match taken with
  | none => .noNonce
  | some (nonce, issuedAt) =>
    let age100ns := long64 (k.now.quadPart - issuedAt.quadPart)
    if age100ns > ticks lgNonceTtlSeconds then .staleNonce
    else match lgRecoveryCheckKey hmac r k.checkHmac req.derivedKey with
      | .error _ => .wrongKey
      | .ok () =>
        match lgHmacSha256 hmac k.responseHmac req.derivedKey.toList nonce.toList with
        | .error s => .hmacFailed s
        | .ok expected => if !lgConstantTimeEqual req.response expected then .mismatch else .granted

/-- What the handler does on its way out. -/
def unlockFinish (irp : Irp) (k : Kernel) (d : Driver) : UnlockExit → Reply (NTSTATUS × Irp)
  | .noNonce => ⟨(statusAccessDenied, irp), lgRecordTamperEvent d, []⟩
  | .staleNonce => ⟨(statusTimeout, irp), lgRecordTamperEvent d, []⟩
  | .wrongKey => ⟨(statusAccessDenied, irp.zeroRequest), lgRecordTamperEvent d, []⟩
  | .hmacFailed s => ⟨(s, irp.zeroRequest), d, []⟩
  | .mismatch => ⟨(statusAccessDenied, irp.zeroRequest), lgRecordTamperEvent d, []⟩
  | .granted =>
    ⟨(statusSuccess, { irp.zeroRequest with information := 0 }),
      { d with window := lgEnterPermissiveWindow k.windowTime d.window }, [.entered k.windowTime]⟩

def lgHandleUnlock (hmac : Hmac) (irp : Irp) (k : Kernel) (d : Driver) : Reply (NTSTATUS × Irp) :=
  if irp.inputBufferLength < sizeofUnlockRequest then ⟨(statusBufferTooSmall, irp), d, []⟩
  else
    let (taken, slot) := nonceTake d.nonce
    let d := { d with nonce := slot }
    unlockFinish irp k d (unlockExit hmac taken d.recovery irp.unlockRequest k)

/-! ## Heartbeat, status, dispatch -/

/-- `LgHandleHeartbeat` (`:365-371`). -/
def lgHandleHeartbeat (irp : Irp) (k : Kernel) (d : Driver) : Reply (NTSTATUS × Irp) :=
  ⟨(statusSuccess, { irp with information := 0 }), { d with gLastHeartbeat := k.now.quadPart }, []⟩

/-- The `n` bytes of an integer field, little-endian. -/
def leBytes (n : Nat) (x : Int) : Bytes := (List.range n).map fun i => UInt8.ofNat (x / 256 ^ i % 256).toNat

@[simp] theorem length_leBytes (n : Nat) (x : Int) : (leBytes n x).length = n := by
  simp [leBytes]

theorem leBytes_succ (n : Nat) (x : Int) :
    leBytes (n + 1) x = UInt8.ofNat (x % 256).toNat :: leBytes n (x / 256) := by
  simp only [leBytes, List.range_succ_eq_map, List.map_cons, List.map_map, Int.pow_zero, Int.ediv_one]
  congr 1
  apply List.map_congr_left
  intro i _
  rw [Function.comp_apply, Nat.succ_eq_add_one, Int.pow_succ', Int.ediv_ediv_of_nonneg (by decide)]

/-- The lowest digit of a remainder, and the others. -/
theorem emod_256_mul (x : Int) {p : Int} (hp : 0 < p) : x % (256 * p) = x % 256 + 256 * (x / 256 % p) := by
  have hx := Int.emod_add_mul_ediv x 256
  have hq := Int.emod_add_mul_ediv (x / 256) p
  have hr := Int.emod_nonneg (x / 256) (by omega : p ≠ 0)
  have hlt := Int.emod_lt_of_pos (x / 256) hp
  have hsplit : x = (x % 256 + 256 * (x / 256 % p)) + 256 * p * (x / 256 / p) := by
    rw [Int.mul_assoc]
    omega
  have hmod : x % (256 * p) = ((x % 256 + 256 * (x / 256 % p)) + 256 * p * (x / 256 / p)) % (256 * p) := by
    rw [← hsplit]
  rw [hmod, Int.add_mul_emod_self_left, Int.emod_eq_of_lt (by omega) (by omega)]

/-- **What a field of `n` bytes keeps of an integer.** -/
theorem leNat_leBytes_emod (n : Nat) (x : Int) : (leNat (leBytes n x) : Int) = x % 256 ^ n := by
  induction n generalizing x with
  | zero => simp [leBytes, leNat]
  | succ n ih =>
    have hbyte : (UInt8.ofNat (x % 256).toNat).toNat = (x % 256).toNat := by
      rw [UInt8.toNat_ofNat', Nat.mod_eq_of_lt (by omega)]
    rw [leBytes_succ, leNat, hbyte, Int.natCast_add, Int.natCast_mul, ih, Int.pow_succ',
      emod_256_mul x (Int.pow_pos (by decide))]
    omega

theorem leNat_leBytes {n : Nat} (h : n < 2 ^ 32) : leNat (leBytes 4 n) = n := by
  have hemod := leNat_leBytes_emod 4 n
  omega

def sizeofStatusReply : Nat := 32

/-- `LgHandleStatus` (`:373-387`): the fields of `LG_STATUS_REPLY` at their x64 offsets. -/
def lgHandleStatus (irp : Irp) (k : Kernel) (d : Driver) : Reply (NTSTATUS × Irp) :=
  if irp.outputBufferLength < sizeofStatusReply then ⟨(statusBufferTooSmall, irp), d, []⟩
  else
    let irp := irp.store 0 (leBytes 4 1)
    let (permissive, w) := lgIsPermissive k.now d.window
    let d := { d with window := w }
    let irp := irp.store 4 [if permissive then 1 else 0]
    let irp := irp.store 8 (leBytes 8 d.window.gPermissiveExpires)
    let irp := irp.store 16 (leBytes 4 d.gTamperCount.toNat)
    let irp := irp.store 24 (leBytes 8 d.gLastHeartbeat)
    ⟨(statusSuccess, { irp with information := sizeofStatusReply }), d, [.asked k.now permissive]⟩

/-- `CTL_CODE`. -/
def ctlCode (deviceType function method access : ULONG) : ULONG :=
  deviceType <<< 16 ||| access <<< 14 ||| function <<< 2 ||| method

def lgIoctlGetNonce : ULONG := ctlCode 0x22 0x801 0 0
def lgIoctlUnlock : ULONG := ctlCode 0x22 0x802 0 0
def lgIoctlHeartbeat : ULONG := ctlCode 0x22 0x803 0 2
def lgIoctlStatus : ULONG := ctlCode 0x22 0x804 0 0

/-- `LgDispatchDeviceControl` (`:400-417`): the status is also the request's `IoStatus.Status`. -/
def lgDispatchDeviceControl (hmac : Hmac) (code : ULONG) (irp : Irp) (k : Kernel) (d : Driver) :
    Reply (NTSTATUS × Irp) :=
  if code = lgIoctlGetNonce then lgHandleGetNonce irp k d
  else if code = lgIoctlUnlock then lgHandleUnlock hmac irp k d
  else if code = lgIoctlHeartbeat then lgHandleHeartbeat irp k d
  else if code = lgIoctlStatus then lgHandleStatus irp k d
  else ⟨(statusInvalidDeviceRequest, irp), d, []⟩

@[simp] theorem dispatch_getNonce (hmac : Hmac) (irp : Irp) (k : Kernel) (d : Driver) :
    lgDispatchDeviceControl hmac lgIoctlGetNonce irp k d = lgHandleGetNonce irp k d := by
  simp [lgDispatchDeviceControl]

@[simp] theorem dispatch_unlock (hmac : Hmac) (irp : Irp) (k : Kernel) (d : Driver) :
    lgDispatchDeviceControl hmac lgIoctlUnlock irp k d = lgHandleUnlock hmac irp k d := by
  have h : lgIoctlUnlock ≠ lgIoctlGetNonce := by decide
  simp [lgDispatchDeviceControl, h]

@[simp] theorem dispatch_status (hmac : Hmac) (irp : Irp) (k : Kernel) (d : Driver) :
    lgDispatchDeviceControl hmac lgIoctlStatus irp k d = lgHandleStatus irp k d := by
  have hg : lgIoctlStatus ≠ lgIoctlGetNonce := by decide
  have hu : lgIoctlStatus ≠ lgIoctlUnlock := by decide
  have hh : lgIoctlStatus ≠ lgIoctlHeartbeat := by decide
  simp [lgDispatchDeviceControl, hg, hu, hh]

/-- Past its length check the handler is its section, its judgement and its way out. -/
theorem lgHandleUnlock_long {irp : Irp} (h : sizeofUnlockRequest ≤ irp.inputBufferLength) (hmac : Hmac)
    (k : Kernel) (d : Driver) : lgHandleUnlock hmac irp k d =
      unlockFinish irp k { d with nonce := (nonceTake d.nonce).2 }
        (unlockExit hmac (nonceTake d.nonce).1 d.recovery irp.unlockRequest k) := by
  rw [lgHandleUnlock, if_neg (by omega)]

/-! ## What an unlock needs -/

/-- What the judgement demands of the nonce taken, the loaded verifier and the request. -/
def UnlockJustified (hmac : Hmac) (taken : Option (Bytes32 × SysTime)) (r : Recovery)
    (req : UnlockRequest) (now : SysTime) : Prop :=
  ∃ nonce issuedAt, taken = some (nonce, issuedAt) ∧
    now.quadPart - issuedAt.quadPart ≤ ticks lgNonceTtlSeconds ∧
    r.loadedVerifier = some (hmac req.derivedKey.toList lgVerifierLabel) ∧
    req.response = hmac req.derivedKey.toList nonce.toList

theorem unlockExit_granted {hmac : Hmac} {taken : Option (Bytes32 × SysTime)} {r : Recovery}
    {req : UnlockRequest} {k : Kernel} (h : unlockExit hmac taken r req k = .granted) :
    UnlockJustified hmac taken r req k.now := by
  unfold unlockExit at h
  cases taken with
  | none => cases h
  | some p =>
    obtain ⟨nonce, issuedAt⟩ := p
    simp only [long64_sub] at h
    split at h
    · cases h
    · rename_i hage
      split at h
      · cases h
      · rename_i hkey
        rcases lgHmacSha256_cases hmac k.responseHmac req.derivedKey.toList nonce.toList with hm | ⟨s, hm, -⟩
        · simp only [hm] at h
          split at h
          · cases h
          · rename_i heq
            have he : req.response = hmac req.derivedKey.toList nonce.toList := by simpa using heq
            exact ⟨nonce, issuedAt, rfl, by omega, checkKey_ok hkey, he⟩
        · rw [hm] at h; cases h

theorem unlockExit_granted_iff {hmac : Hmac} {taken : Option (Bytes32 × SysTime)} {r : Recovery}
    {req : UnlockRequest} {k : Kernel} (hk : k.BcryptSucceeds) :
    unlockExit hmac taken r req k = .granted ↔ UnlockJustified hmac taken r req k.now := by
  refine ⟨unlockExit_granted, ?_⟩
  rintro ⟨nonce, issuedAt, rfl, hage, hv, hr⟩
  have hage' : ¬ (k.now.quadPart - issuedAt.quadPart > ticks lgNonceTtlSeconds) := by omega
  simp only [unlockExit, long64_sub, if_neg hage', (checkKey_iff hk.2.1).2 hv, lgHmacSha256_ok hk.2.2]
  simp [hr]

/-- A failed HMAC hands on the failing status of the BCrypt call. -/
theorem unlockExit_hmacFailed {hmac : Hmac} {taken : Option (Bytes32 × SysTime)} {r : Recovery}
    {req : UnlockRequest} {k : Kernel} {s : NTSTATUS} (h : unlockExit hmac taken r req k = .hmacFailed s) :
    ntSuccess s = false := by
  unfold unlockExit at h
  split at h
  · cases h
  · rename_i nonce issuedAt
    simp only at h
    split at h
    · cases h
    · split at h
      · cases h
      · rcases lgHmacSha256_cases hmac k.responseHmac req.derivedKey.toList nonce.toList with hm | ⟨s', hm, hs'⟩
        · simp only [hm] at h
          split at h <;> cases h
        · simp only [hm] at h
          cases h
          exact hs'

/-- The exits that carry a success status are the grant and, its status being `STATUS_TIMEOUT`,
the refusal of a stale nonce. -/
theorem unlockFinish_success {hmac : Hmac} {taken : Option (Bytes32 × SysTime)} {r : Recovery}
    {req : UnlockRequest} (irp : Irp) (k : Kernel) (d : Driver) :
    ntSuccess (unlockFinish irp k d (unlockExit hmac taken r req k)).value.1 = true ↔
      unlockExit hmac taken r req k = .granted ∨ unlockExit hmac taken r req k = .staleNonce := by
  cases he : unlockExit hmac taken r req k with
  | hmacFailed s =>
    have hs := unlockExit_hmacFailed he
    simp [unlockFinish, hs]
  | _ => simp [unlockFinish]

theorem unlockExit_stale_iff {hmac : Hmac} {taken : Option (Bytes32 × SysTime)} {r : Recovery}
    {req : UnlockRequest} {k : Kernel} :
    unlockExit hmac taken r req k = .staleNonce ↔ ∃ nonce issuedAt, taken = some (nonce, issuedAt) ∧
      ticks lgNonceTtlSeconds < k.now.quadPart - issuedAt.quadPart := by
  cases taken with
  | none => simp [unlockExit]
  | some p =>
    obtain ⟨nonce, issuedAt⟩ := p
    simp only [unlockExit, long64_sub, Option.some.injEq, Prod.mk.injEq]
    constructor
    · intro h
      split at h
      · rename_i hage; exact ⟨_, _, ⟨rfl, rfl⟩, hage⟩
      · split at h
        · cases h
        · split at h
          · cases h
          · split at h <;> cases h
    · rintro ⟨_, _, ⟨rfl, rfl⟩, hage⟩
      rw [if_pos hage]

/-! ## A worked exchange

HMAC-SHA256 tabulated at one key, and the requests of an exchange that uses it. -/

namespace Worked

def key : Bytes32 := Vector.replicate 32 1
def nonce : Bytes32 := Vector.replicate 32 2

def verifier : Bytes32 :=
  #v[10, 245, 112, 163, 211, 228, 211, 11, 228, 182, 230, 243, 60, 244, 181, 144,
    43, 42, 114, 11, 26, 211, 91, 131, 114, 138, 149, 26, 115, 227, 66, 16]

def response : Bytes32 :=
  #v[115, 33, 64, 110, 12, 136, 15, 217, 37, 151, 137, 139, 235, 57, 58, 242,
    174, 190, 213, 26, 181, 205, 241, 213, 46, 89, 145, 249, 175, 173, 210, 222]

def otherNonce : Bytes32 := Vector.replicate 32 3

def otherResponse : Bytes32 :=
  #v[118, 213, 83, 192, 172, 40, 48, 182, 138, 190, 182, 22, 178, 3, 2, 92,
    50, 70, 61, 118, 23, 130, 223, 156, 112, 249, 148, 179, 103, 26, 150, 127]

def hmac : Hmac := fun k data =>
  if k = key.toList ∧ data = lgVerifierLabel then verifier
  else if k = key.toList ∧ data = nonce.toList then response
  else if k = key.toList ∧ data = otherNonce.toList then otherResponse
  else zero32

/-- Tenths of a second after some moment of 2024. -/
def time (tenths : UInt16) : SysTime where
  quadPart := 133500000000000000 + 1000000 * tenths.toNat
  nonneg := by omega
  lt := by have := tenths.toNat_lt; omega

def hmacCalls : HmacCalls := ⟨statusSuccess, statusSuccess, statusSuccess, statusSuccess⟩

def reads : RecoveryReads where
  openKey := statusSuccess
  installSalt := ⟨statusSuccess, regBinary, List.replicate 16 5⟩
  iterations := ⟨statusSuccess, regDword, [0xC0, 0x27, 0x09, 0x00]⟩
  verifier := ⟨statusSuccess, regBinary, verifier.toList⟩

/-- Every call succeeds, and every clock reads `now`. -/
def kernel (now : SysTime) : Kernel where
  irql := 0
  retryTime := now
  reads := reads
  random := ⟨statusSuccess, nonce⟩
  now := now
  checkHmac := hmacCalls
  responseHmac := hmacCalls
  windowTime := now

def unlockIrp : Irp := ⟨64, 0, response.toList ++ key.toList, 0, by decide⟩

end Worked

end Lockguard
