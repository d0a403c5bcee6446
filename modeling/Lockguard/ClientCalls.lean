import Lockguard.Lib.Wp
import Lockguard.SetPassword
/-!
# What the CLI leaves of its secrets (`cli/main.go:79-324, 366-404`)

`doRecover` and `doSetPassword` as programs over the calls they make, whatever these answer.

| here | there |
| --- | --- |
| `Slice`               | a `[]byte` that holds a password, a derived key or a copy of one |
| `Call.make`           | `pbkdf2.Key`, and `make` with `copy` in `ioctlUnlockCall` |
| `Process`             | the registry keys and device handles that are open, and what each slice holds |
| `History`             | what the console and the registry have answered, and what has been requested of the driver |
| `rounds`              | how often the user goes through the two prompts before the console is closed |

`client_leaves` is what is left when a command returns.
-/
namespace Lockguard.Cli

open Calls Prog

structure Slice where
  ref : Nat
  bytes : Bytes

inductive Error where
  | readRegistry
  | readPassword
  | wrongPassword
  | openDriver
  | getNonce
  | unlock
  | newPassword
  | random
  | openRegistry
  | write (value : String)
deriving DecidableEq

inductive Call where
  | openKey
  | createKey
  | getBinaryValue (name : String)
  | getIntegerValue (name : String)
  | setBinaryValue (name : String) (data : Bytes)
  | setDWordValue (name : String) (v : ULONG)
  | closeKey
  | readPassword
  | randRead
  | make (b : Bytes)
  | zero (p : Slice)
  | createFile
  | getNonce
  | unlock (request : Slice)
  | closeHandle

/-- `none` and `false` stand for a Go error. `ReadPassword` returns the bytes it has read with its error too; a
nonce comes with the number of bytes returned. -/
@[reducible] def Call.Ret : Call → Type
  | .getBinaryValue _ => Option Bytes
  | .getIntegerValue _ => Option Nat
  | .readPassword => Bool × Slice
  | .randRead => Option Bytes32
  | .make _ => Slice
  | .getNonce => Option (Bytes32 × Nat)
  | .closeKey | .zero _ | .closeHandle => Unit
  | _ => Bool

abbrev Go := Prog Call Call.Ret

def call (c : Call) : Go c.Ret := perform c

/-! ## The commands -/

/-- The values of the record (`:308-323`). -/
def recoveryValues : Go (Except Error ClientRecord) := do
  match ← call (.getBinaryValue "InstallSalt") with
  | none => return .error .readRegistry
  | some salt =>
    match ← call (.getIntegerValue "Iterations") with
    | none => return .error .readRegistry
    | some v =>
      match ← call (.getBinaryValue "Verifier") with
      | none => return .error .readRegistry
      | some verifier =>
        if verifier.length ≠ lgVerifierLen then return .error .readRegistry
        else return .ok ⟨salt, UInt32.ofNat v, verifier⟩

def readRecoveryRegistry : Go (Except Error ClientRecord) := do
  if !(← call .openKey) then return .error .readRegistry
  else
    let r ← recoveryValues
    call .closeKey
    return r

section
variable (hmac : Hmac) (pbkdf2 : Pbkdf2)

/-- The password and its check, then the rest (`:80-102`, `:164-183`). -/
def withPassword (body : Slice → Go (Except Error Unit)) : Go (Except Error Unit) := do
  match ← readRecoveryRegistry with
  | .error e => return .error e
  | .ok rec =>
    let (ok, pw) ← call .readPassword
    if !ok then return .error .readPassword
    else
      let derived ← call (.make (pbkdf2 pw.bytes rec.salt rec.iter.toNat).toList)
      call (.zero pw)
      if (hmac derived.bytes lgVerifierLabel).toList ≠ rec.verifier then
        call (.zero derived)
        return .error .wrongPassword
      else body derived

/-- `ioctlGetNonceCall`, `ioctlUnlockCall`, then the rest (`:110-128`, `:193-209`, `:381-404`). -/
def exchange (derived : Slice) (body : Go (Except Error Unit)) : Go (Except Error Unit) := do
  match ← call .getNonce with
  | none =>
    call (.zero derived)
    return .error .getNonce
  | some (nonce, returned) =>
    if returned ≠ lgNonceLen then
      call (.zero derived)
      return .error .getNonce
    else
      let request ← call (.make ((hmac derived.bytes nonce.toList).toList ++ derived.bytes))
      let ok ← call (.unlock request)
      call (.zero derived)
      if !ok then return .error .unlock else body

/-- `openDriver`, with `defer windows.CloseHandle(h)`. -/
def withDriver (derived : Slice) (body : Go (Except Error Unit)) : Go (Except Error Unit) := do
  if !(← call .createFile) then
    call (.zero derived)
    return .error .openDriver
  else
    let r ← exchange hmac derived body
    call .closeHandle
    return r

/-- `doRecover` (`:79-131`). -/
def doRecover : Go (Except Error Unit) :=
  withPassword hmac pbkdf2 fun derived => withDriver hmac derived (return .ok ())

/-- `readStrongPasswordTwice` (`:250-297`). -/
def readStrongPasswordTwice : Nat → Go (Except Error Slice)
  | 0 => return .error .newPassword
  | rounds + 1 => do
    let (ok, a) ← call .readPassword
    if !ok then return .error .newPassword
    else
      let (ok, b) ← call .readPassword
      if !ok then
        call (.zero a)
        return .error .newPassword
      else
        call (.zero b)
        if strongPassword a.bytes b.bytes then return .ok a
        else
          call (.zero a)
          readStrongPasswordTwice rounds

/-- The three values (`:232-241`). -/
def writeValues (salt verifier : Bytes32) : Go (Except Error Unit) := do
  if !(← call (.setBinaryValue "InstallSalt" salt.toList)) then return .error (.write "InstallSalt")
  else if !(← call (.setDWordValue "Iterations" (UInt32.ofNat newIter))) then return .error (.write "Iterations")
  else if !(← call (.setBinaryValue "Verifier" verifier.toList)) then return .error (.write "Verifier")
  else return .ok ()

/-- From the new password on (`:210-248`). -/
def setNewPassword (rounds : Nat) : Go (Except Error Unit) := do
  match ← readStrongPasswordTwice rounds with
  | .error e => return .error e
  | .ok newPw =>
    match ← call .randRead with
    | none =>
      call (.zero newPw)
      return .error .random
    | some salt =>
      let newDerived ← call (.make (pbkdf2 newPw.bytes salt.toList newIter).toList)
      call (.zero newPw)
      let verifier := hmac newDerived.bytes lgVerifierLabel
      call (.zero newDerived)
      if !(← call .createKey) then return .error .openRegistry
      else
        let r ← writeValues salt verifier
        call .closeKey
        return r

/-- `doSetPassword` (`:163-248`). -/
def doSetPassword (rounds : Nat) : Go (Except Error Unit) :=
  withPassword hmac pbkdf2 fun derived => withDriver hmac derived (setNewPassword hmac pbkdf2 rounds)

end

/-! ## What is open and what is held -/

/-- What the calls have come to so far: the passwords read, the slices that came with an error, the latest
answer for each value of the record, and the requests `ioctlUnlockCall` has made. -/
structure History where
  passwords : List Bytes
  failed : List Slice
  binary : String → Option Bytes
  integer : String → Option Nat
  requests : List Slice

def History.start : History := ⟨[], [], fun _ => none, fun _ => none, []⟩

/-- The key of the current password, which is read first, under the record that was read. -/
def History.currentKey (pbkdf2 : Pbkdf2) (h : History) : Option Bytes32 := do
  let pw ← h.passwords.head?
  let salt ← h.binary "InstallSalt"
  let v ← h.integer "Iterations"
  return pbkdf2 pw salt (UInt32.ofNat v).toNat

structure Process where
  keys : Nat
  devices : Nat
  /-- The slices made so far are those with a smaller number. -/
  next : Nat
  heap : Nat → Bytes
  history : History

def Process.records (s : Process) (f : History → History) : Process := { s with history := f s.history }

def Process.put (s : Process) (ref : Nat) (b : Bytes) : Process := { s with heap := Function.update s.heap ref b }

/-- A new slice. -/
def Process.Makes (s : Process) (p : Slice) (s' : Process) : Prop :=
  p.ref = s.next ∧ s' = { s.put p.ref p.bytes with next := s.next + 1 }

def contract : Contract Call Call.Ret Process where
  pre
    | .getBinaryValue _, s | .getIntegerValue _, s | .setBinaryValue _ _, s | .setDWordValue _ _, s | .closeKey, s => 0 < s.keys
    | .zero p, s => p.ref < s.next
    | .getNonce, s | .closeHandle, s => 0 < s.devices
    | .unlock request, s => 0 < s.devices ∧ s.heap request.ref = request.bytes
    | _, _ => True
  post
    | .openKey, s, ok, s' | .createKey, s, ok, s' => s' = if ok then { s with keys := s.keys + 1 } else s
    | .closeKey, s, _, s' => s' = { s with keys := s.keys - 1 }
    | .createFile, s, ok, s' => s' = if ok then { s with devices := s.devices + 1 } else s
    | .closeHandle, s, _, s' => s' = { s with devices := s.devices - 1 }
    | .getBinaryValue name, s, r, s' => s' = s.records fun h => { h with binary := Function.update h.binary name r }
    | .getIntegerValue name, s, r, s' => s' = s.records fun h => { h with integer := Function.update h.integer name r }
    | .readPassword, s, (ok, p), s' => ∃ u, s.Makes p u ∧ s' = u.records fun h =>
        if ok then { h with passwords := h.passwords ++ [p.bytes] } else { h with failed := p :: h.failed }
    | .unlock request, s, _, s' => s' = s.records fun h => { h with requests := request :: h.requests }
    | .make b, s, p, s' => p.bytes = b ∧ s.Makes p s'
    | .zero p, s, _, s' => s' = s.put p.ref (List.replicate p.bytes.length 0)
    | _, s, _, s' => s' = s

/-- So many keys and devices are open, and all slices but these are zero. -/
structure Process.At (s : Process) (hist : History) (keys devices : Nat) (live : List Slice) : Prop where
  history : s.history = hist
  keys : s.keys = keys
  devices : s.devices = devices
  holds : ∀ p ∈ live, p.ref < s.next ∧ s.heap p.ref = p.bytes
  distinct : (live.map Slice.ref).Nodup
  blank : ∀ i < s.next, i ∉ live.map Slice.ref → ∀ x ∈ s.heap i, x = 0

section
variable {α : Type} {Q : α → Process → Prop} {s s' : Process} {hist : History} {k d : Nat} {live : List Slice} {p : Slice}

theorem at_makes (h : s.At hist k d live) (hmakes : s.Makes p s') : s'.At hist k d (p :: live) := by
  obtain ⟨href, rfl⟩ := hmakes
  have hfresh : ∀ q ∈ live, q.ref ≠ p.ref := fun q hq hne => absurd (h.holds q hq).1 (by omega)
  refine ⟨h.history, h.keys, h.devices, ?_, ?_, ?_⟩
  · intro q hq
    rcases List.mem_cons.1 hq with rfl | hq
    · exact ⟨by simp [href], by simp [Process.put]⟩
    · obtain ⟨hlt, hheap⟩ := h.holds q hq
      exact ⟨Nat.lt_succ_of_lt hlt, by simp [Process.put, hfresh q hq, hheap]⟩
  · refine List.nodup_cons.2 ⟨fun hmem => ?_, h.distinct⟩
    obtain ⟨q, hq, hne⟩ := List.mem_map.1 hmem
    exact hfresh q hq hne
  · intro i hi hmem x hx
    rw [List.map_cons, List.mem_cons, not_or] at hmem
    have hlt : i < s.next := by
      have hle : i < s.next + 1 := hi
      omega
    refine h.blank i hlt hmem.2 x ?_
    simpa [Process.put, hmem.1] using hx

theorem at_zero (h : s.At hist k d (p :: live)) : (s.put p.ref (List.replicate p.bytes.length 0)).At hist k d live := by
  have hdistinct := List.nodup_cons.1 h.distinct
  refine ⟨h.history, h.keys, h.devices, ?_, hdistinct.2, ?_⟩
  · intro q hq
    obtain ⟨hlt, hheap⟩ := h.holds q (List.mem_cons_of_mem p hq)
    have hne : q.ref ≠ p.ref := fun hne => hdistinct.1 (hne ▸ List.mem_map_of_mem hq)
    exact ⟨hlt, by simp [Process.put, hne, hheap]⟩
  · intro i hi hmem x hx
    by_cases hne : i = p.ref
    · subst hne
      simp only [Process.put, Function.update_self] at hx
      exact List.eq_of_mem_replicate hx
    · refine h.blank i hi (by simp [hne, hmem]) x ?_
      simpa [Process.put, hne] using hx

theorem at_swap {q : Slice} (h : s.At hist k d (p :: q :: live)) : s.At hist k d (q :: p :: live) := by
  have hperm : (q :: p :: live).Perm (p :: q :: live) := List.Perm.swap p q live
  exact ⟨h.history, h.keys, h.devices, fun x hx => h.holds x (hperm.mem_iff.1 hx), (hperm.map _).nodup_iff.2 h.distinct,
    fun i hi hmem => h.blank i hi fun hmem' => hmem ((hperm.map _).mem_iff.2 hmem')⟩

theorem at_records (h : s.At hist k d live) (f : History → History) : (s.records f).At (f hist) k d live :=
  { h with history := congrArg f h.history }

/-! ## One call -/

theorem wp_make {b : Bytes} {f : Slice → Go α} (h : s.At hist k d live)
    (hf : ∀ p s', p.bytes = b → s'.At hist k d (p :: live) → (f p).wp contract Q s') :
    (call (.make b) >>= f).wp contract Q s :=
  wp_call.2 ⟨trivial, fun p s' hpost => hf p s' hpost.1 (at_makes h hpost.2)⟩

theorem wp_readPassword {f : Bool × Slice → Go α} (h : s.At hist k d live)
    (hfail : ∀ p s', s'.At { hist with failed := p :: hist.failed } k d (p :: live) → (f (false, p)).wp contract Q s')
    (hread : ∀ p s', s'.At { hist with passwords := hist.passwords ++ [p.bytes] } k d (p :: live) →
      (f (true, p)).wp contract Q s') :
    (call .readPassword >>= f).wp contract Q s := by
  refine wp_call.2 ⟨trivial, ?_⟩
  rintro ⟨_ | _, p⟩ s' ⟨u, hmakes, rfl⟩
  · exact hfail p _ (at_records (at_makes h hmakes) _)
  · exact hread p _ (at_records (at_makes h hmakes) _)

theorem wp_zero {f : Unit → Go α} (h : s.At hist k d (p :: live)) (hf : ∀ s', s'.At hist k d live → (f ()).wp contract Q s') :
    (call (.zero p) >>= f).wp contract Q s := by
  refine wp_call.2 ⟨(h.holds p (List.mem_cons_self ..)).1, ?_⟩
  rintro ⟨⟩ s' rfl
  exact hf _ (at_zero h)

theorem at_keys (h : s.At hist k d live) (n : Nat) : { s with keys := n }.At hist n d live :=
  { h with keys := rfl }

theorem at_devices (h : s.At hist k d live) (n : Nat) : { s with devices := n }.At hist k n live :=
  { h with devices := rfl }

theorem wp_closeKey {f : Unit → Go α} (h : s.At hist (k + 1) d live)
    (hf : ∀ s', s'.At hist k d live → (f ()).wp contract Q s') : (call .closeKey >>= f).wp contract Q s := by
  refine wp_call.2 ⟨?_, ?_⟩
  · show 0 < s.keys
    rw [h.keys]
    exact Nat.succ_pos k
  rintro ⟨⟩ s' rfl
  refine hf _ ?_
  rw [h.keys]
  exact at_keys h k

theorem wp_closeHandle {f : Unit → Go α} (h : s.At hist k (d + 1) live)
    (hf : ∀ s', s'.At hist k d live → (f ()).wp contract Q s') : (call .closeHandle >>= f).wp contract Q s := by
  refine wp_call.2 ⟨?_, ?_⟩
  · show 0 < s.devices
    rw [h.devices]
    exact Nat.succ_pos d
  rintro ⟨⟩ s' rfl
  refine hf _ ?_
  rw [h.devices]
  exact at_devices h d

/-- A call that leaves everything as it is. -/
theorem wp_same {c : Call} {f : c.Ret → Go α} (hpre : contract.pre c s) (hsame : ∀ r s', contract.post c s r s' → s' = s)
    (hf : ∀ r, (f r).wp contract Q s) : (call c >>= f).wp contract Q s := by
  refine wp_call.2 ⟨hpre, fun r s' hpost => ?_⟩
  rw [hsame r s' hpost]
  exact hf r

/-! ## The record and the password -/

/-- The command has ended before it made its UNLOCK request. -/
def Error.early : Error → Bool
  | .readRegistry | .readPassword | .wrongPassword | .openDriver | .getNonce => true
  | _ => false

/-- The record is the one that was read. -/
structure History.Recorded (hist : History) (rec : ClientRecord) : Prop where
  salt : hist.binary "InstallSalt" = some rec.salt
  iter : ∃ v, hist.integer "Iterations" = some v ∧ UInt32.ofNat v = rec.iter
  verifier : hist.binary "Verifier" = some rec.verifier

/-- Nothing but values of the record has been read since. -/
def History.ReadsOn (hist hist' : History) : Prop := ∃ b i, hist' = { hist with binary := b, integer := i }

theorem recoveryValues_wp (h : s.At hist (k + 1) d live) : recoveryValues.wp contract (fun r s' => ∃ hist', hist.ReadsOn hist' ∧
    s'.At hist' (k + 1) d live ∧ (∀ e, r = .error e → e = .readRegistry) ∧ ∀ rec, r = .ok rec → hist'.Recorded rec) s := by
  have herror : ∀ {hist' : History} {s' : Process}, hist.ReadsOn hist' → s'.At hist' (k + 1) d live →
      ∃ hist', hist.ReadsOn hist' ∧ s'.At hist' (k + 1) d live ∧
        (∀ e, (.error .readRegistry : Except Error ClientRecord) = .error e → e = .readRegistry) ∧
        ∀ rec, (.error .readRegistry : Except Error ClientRecord) = .ok rec → hist'.Recorded rec :=
    fun hreads h => ⟨_, hreads, h, fun e he => (Except.error.inj he).symm, fun rec hrec => (by cases hrec)⟩
  have hkeys : ∀ {hist' : History} {s' : Process}, s'.At hist' (k + 1) d live → 0 < s'.keys :=
    fun h => h.keys ▸ Nat.succ_pos k
  refine wp_call.2 ⟨hkeys h, ?_⟩
  rintro salt _ rfl
  have h₁ := at_records h fun h => { h with binary := Function.update h.binary "InstallSalt" salt }
  cases salt with
  | none => exact herror ⟨_, _, rfl⟩ h₁
  | some salt =>
    refine wp_call.2 ⟨hkeys h₁, ?_⟩
    rintro v _ rfl
    have h₂ := at_records h₁ fun h => { h with integer := Function.update h.integer "Iterations" v }
    cases v with
    | none => exact herror ⟨_, _, rfl⟩ h₂
    | some v =>
      refine wp_call.2 ⟨hkeys h₂, ?_⟩
      rintro verifier _ rfl
      have h₃ := at_records h₂ fun h => { h with binary := Function.update h.binary "Verifier" verifier }
      cases verifier with
      | none => exact herror ⟨_, _, rfl⟩ h₃
      | some verifier =>
        refine wp_ite (fun _ => herror ⟨_, _, rfl⟩ h₃) fun _ => ⟨_, ⟨_, _, rfl⟩, h₃, fun e he => (by cases he), ?_⟩
        rintro rec hrec
        obtain rfl := Except.ok.inj hrec
        exact ⟨by simp, ⟨v, by simp, rfl⟩, by simp⟩

theorem readRecoveryRegistry_wp (h : s.At hist k d live) : readRecoveryRegistry.wp contract (fun r s' => ∃ hist',
    hist.ReadsOn hist' ∧ s'.At hist' k d live ∧ (∀ e, r = .error e → e = .readRegistry) ∧
      ∀ rec, r = .ok rec → hist'.Recorded rec) s := by
  refine wp_call.2 ⟨trivial, ?_⟩
  rintro (_ | _) s' rfl
  · exact ⟨hist, ⟨_, _, rfl⟩, h, fun e he => (Except.error.inj he).symm, fun rec hrec => (by cases hrec)⟩
  refine wp_seq (recoveryValues_wp (at_keys h _)) ?_
  rintro r s' ⟨hist', hreads, h', hr⟩
  rw [h.keys] at h'
  exact wp_closeKey h' fun s' h' => ⟨hist', hreads, h', hr⟩

/-- The key of the password read first, under the record that was read, whose verifier it has. -/
structure History.Verified (hmac : Hmac) (pbkdf2 : Pbkdf2) (hist : History) (key : Bytes32) : Prop where
  current : hist.currentKey pbkdf2 = some key
  verifier : hist.binary "Verifier" = some (hmac key.toList lgVerifierLabel).toList

/-- `request` is the one request that has been made, and the key in it is the current password's. -/
structure History.Requested (hmac : Hmac) (pbkdf2 : Pbkdf2) (hist : History) (request : Slice) : Prop where
  only : hist.requests = [request]
  key : ∃ (nonce : Bytes) (key : Bytes32), request.bytes = (hmac key.toList nonce).toList ++ key.toList ∧
    hist.Verified hmac pbkdf2 key

/-- **What a command leaves**: what a read of the console returned with its error, and the request, once that has been
made; there is no more than one of either. -/
structure Leaves (hmac : Hmac) (pbkdf2 : Pbkdf2) (k d : Nat) (r : Except Error Unit) (s : Process) : Prop where
  left : s.At s.history k d (s.history.failed ++ s.history.requests)
  request : (s.history.requests = [] ∧ ∃ e, r = .error e ∧ e.early = true) ∨
    (∀ e, r = .error e → e.early = false) ∧ ∃ request, s.history.Requested hmac pbkdf2 request
  failed : s.history.failed = [] ∨ (∃ p, s.history.failed = [p]) ∧ (r = .error .readPassword ∨ r = .error .newPassword)

variable {hmac : Hmac} {pbkdf2 : Pbkdf2} {request : Slice} {key : Bytes32}

/-- A password more does not change which was the first. -/
theorem verified_password (h : hist.Verified hmac pbkdf2 key) (pw : Bytes) :
    { hist with passwords := hist.passwords ++ [pw] }.Verified hmac pbkdf2 key := by
  obtain ⟨first, hfirst, hkey⟩ := Option.bind_eq_some_iff.1 h.current
  have hfirst : (hist.passwords ++ [pw]).head? = some first := by simp [List.head?_append, hfirst]
  exact ⟨Option.bind_eq_some_iff.2 ⟨first, hfirst, hkey⟩, h.verifier⟩

theorem requested_password (h : hist.Requested hmac pbkdf2 request) (pw : Bytes) :
    { hist with passwords := hist.passwords ++ [pw] }.Requested hmac pbkdf2 request := by
  obtain ⟨honly, nonce, key, hbytes, hverified⟩ := h
  exact ⟨honly, nonce, key, hbytes, verified_password hverified pw⟩

theorem requested_failed (h : hist.Requested hmac pbkdf2 request) (failed : List Slice) :
    { hist with failed := failed }.Requested hmac pbkdf2 request := by
  obtain ⟨honly, nonce, key, hbytes, hverified⟩ := h
  exact ⟨honly, nonce, key, hbytes, hverified.current, hverified.verifier⟩

theorem leaves_early {e : Error} (h : s.At hist k d []) (hfailed : hist.failed = []) (hrequests : hist.requests = [])
    (he : e.early = true) : Leaves hmac pbkdf2 k d (.error e) s := by
  obtain rfl := h.history
  refine ⟨?_, Or.inl ⟨hrequests, e, rfl, he⟩, Or.inl hfailed⟩
  rw [hfailed, hrequests]
  exact h

/-- What is left past the request, and of which results. -/
def Late (hmac : Hmac) (pbkdf2 : Pbkdf2) (request : Slice) (k d : Nat) (r : Except Error Unit) (s : Process) : Prop :=
  (∀ e, r = .error e → e.early = false) ∧ ∃ hist, s.At hist k d (hist.failed ++ [request]) ∧
    hist.Requested hmac pbkdf2 request ∧ (hist.failed = [] ∨ (∃ p, hist.failed = [p]) ∧ r = .error .newPassword)

theorem leaves_late {r : Except Error Unit} (h : Late hmac pbkdf2 request k d r s) : Leaves hmac pbkdf2 k d r s := by
  obtain ⟨hlate, hist, h, hrequested, hfailed⟩ := h
  obtain rfl := h.history
  refine ⟨?_, Or.inr ⟨hlate, request, hrequested⟩, hfailed.imp_right fun hfailed => ⟨hfailed.1, Or.inr hfailed.2⟩⟩
  rw [hrequested.only]
  exact h

theorem late_error {e : Error} (he : e.early = false) (h : s.At hist k d [request]) (hfailed : hist.failed = [])
    (hrequested : hist.Requested hmac pbkdf2 request) : Late hmac pbkdf2 request k d (.error e) s := by
  refine ⟨fun e' he' => ?_, hist, ?_, hrequested, Or.inl hfailed⟩
  · obtain rfl := Except.error.inj he'
    exact he
  · rw [hfailed]
    exact h

theorem late_ok (h : s.At hist k d [request]) (hfailed : hist.failed = []) (hrequested : hist.Requested hmac pbkdf2 request) :
    Late hmac pbkdf2 request k d (.ok ()) s := by
  refine ⟨fun e he => (by cases he), hist, ?_, hrequested, Or.inl hfailed⟩
  rw [hfailed]
  exact h

/-! ## The commands -/

theorem withPassword_wp {body : Slice → Go (Except Error Unit)} (h : s.At .start 0 0 [])
    (hbody : ∀ derived key hist s, s.At hist 0 0 [derived] → hist.failed = [] → hist.requests = [] →
      derived.bytes = key.toList → hist.Verified hmac pbkdf2 key → (body derived).wp contract (Leaves hmac pbkdf2 0 0) s) :
    (withPassword hmac pbkdf2 body).wp contract (Leaves hmac pbkdf2 0 0) s := by
  refine wp_seq (readRecoveryRegistry_wp h) ?_
  rintro (e | rec) s ⟨_, ⟨b, i, rfl⟩, h, herror, hrec⟩
  · obtain rfl := herror e rfl
    exact leaves_early h rfl rfl rfl
  refine wp_readPassword h (fun p s h => ?_) fun pw s h => ?_
  · refine ⟨?_, Or.inl ⟨?_, _, rfl, rfl⟩, Or.inr ⟨⟨p, ?_⟩, Or.inl rfl⟩⟩
    · rw [h.history]
      exact h
    · rw [h.history]
      rfl
    · rw [h.history]
      rfl
  refine wp_make h fun derived s hderived h => ?_
  refine wp_zero (at_swap h) fun s h => ?_
  refine wp_ite (fun _ => wp_zero h fun s h => leaves_early h rfl rfl rfl) fun hright => ?_
  obtain ⟨hsalt, ⟨v, hv, hiter⟩, hverifier⟩ := hrec rec rfl
  refine hbody derived _ _ s h rfl rfl hderived ⟨?_, ?_⟩
  · have hsalt : b "InstallSalt" = some rec.salt := hsalt
    have hv : i "Iterations" = some v := hv
    rw [← hiter]
    simp [History.currentKey, History.start, hsalt, hv]
  · rw [← hderived]
    exact hverifier.trans (congrArg some (not_not.1 hright).symm)

theorem exchange_wp {derived : Slice} {body : Go (Except Error Unit)} (h : s.At hist k (d + 1) [derived])
    (hfailed : hist.failed = []) (hrequests : hist.requests = []) (hderived : derived.bytes = key.toList)
    (hverified : hist.Verified hmac pbkdf2 key)
    (hbody : ∀ request hist s, s.At hist k (d + 1) [request] → hist.failed = [] → hist.Requested hmac pbkdf2 request →
      body.wp contract (Late hmac pbkdf2 request k (d + 1)) s) :
    (exchange hmac derived body).wp contract (Leaves hmac pbkdf2 k (d + 1)) s := by
  have hdevices : 0 < s.devices := h.devices ▸ Nat.succ_pos d
  refine wp_same hdevices (fun _ _ => id) ?_
  rintro (_ | ⟨nonce, returned⟩)
  · exact wp_zero h fun s h => leaves_early h hfailed hrequests rfl
  refine wp_ite (fun _ => wp_zero h fun s h => leaves_early h hfailed hrequests rfl) fun _ => ?_
  refine wp_make h fun request s hrequest h => ?_
  refine wp_call.2 ⟨⟨h.devices ▸ Nat.succ_pos d, (h.holds request (List.mem_cons_self ..)).2⟩, ?_⟩
  rintro ok _ rfl
  have hasked := at_records h fun h => { h with requests := request :: h.requests }
  have hrequested : { hist with requests := request :: hist.requests }.Requested hmac pbkdf2 request := by
    refine ⟨by rw [hrequests], nonce.toList, key, ?_, hverified.current, hverified.verifier⟩
    rw [hrequest, hderived]
  refine wp_zero (at_swap hasked) fun s h => ?_
  cases ok with
  | false => exact leaves_late (late_error rfl h hfailed hrequested)
  | true => exact wp_mono (hbody request _ s h hfailed hrequested) fun r s' => leaves_late

theorem withDriver_wp {derived : Slice} {body : Go (Except Error Unit)} (h : s.At hist k d [derived])
    (hfailed : hist.failed = []) (hrequests : hist.requests = []) (hderived : derived.bytes = key.toList)
    (hverified : hist.Verified hmac pbkdf2 key)
    (hbody : ∀ request hist s, s.At hist k (d + 1) [request] → hist.failed = [] → hist.Requested hmac pbkdf2 request →
      body.wp contract (Late hmac pbkdf2 request k (d + 1)) s) :
    (withDriver hmac derived body).wp contract (Leaves hmac pbkdf2 k d) s := by
  refine wp_call.2 ⟨trivial, ?_⟩
  rintro (_ | _) s' rfl
  · exact wp_zero h fun s h => leaves_early h hfailed hrequests rfl
  have hopen := at_devices h (s.devices + 1)
  rw [h.devices] at hopen ⊢
  refine wp_seq (exchange_wp hopen hfailed hrequests hderived hverified hbody) ?_
  rintro r s ⟨hleft, hrequest, hfailed⟩
  refine wp_closeHandle hleft fun s' hleft' => ?_
  obtain hsame := hleft'.history
  rw [← hsame] at hleft' hrequest hfailed
  exact ⟨hleft', hrequest, hfailed⟩

theorem readStrongPasswordTwice_wp (rounds : Nat) (h : s.At hist k d [request]) (hfailed : hist.failed = [])
    (hrequested : hist.Requested hmac pbkdf2 request) :
    (readStrongPasswordTwice rounds).wp contract (fun r s' => match r with
      | .error e => e = .newPassword ∧ Late hmac pbkdf2 request k d (.error e) s'
      | .ok a => ∃ hist', s'.At hist' k d [a, request] ∧ hist'.failed = [] ∧ hist'.Requested hmac pbkdf2 request) s := by
  have hcut : ∀ {hist : History} {p : Slice} {s : Process}, hist.Requested hmac pbkdf2 request → hist.failed = [] →
      s.At { hist with failed := p :: hist.failed } k d [p, request] →
      Late hmac pbkdf2 request k d (.error .newPassword) s := by
    intro hist p s hrequested hfailed h
    refine ⟨fun e he => ?_, _, ?_, requested_failed hrequested (p :: hist.failed), Or.inr ⟨⟨p, by rw [hfailed]⟩, rfl⟩⟩
    · obtain rfl := Except.error.inj he
      rfl
    · rw [hfailed] at h ⊢
      exact h
  induction rounds generalizing s hist with
  | zero => exact ⟨rfl, late_error rfl h hfailed hrequested⟩
  | succ rounds ih =>
    refine wp_readPassword h (fun p s h => ⟨rfl, hcut hrequested hfailed h⟩) fun a s h => ?_
    have hrequested := requested_password hrequested a.bytes
    refine wp_readPassword h (fun p s h => wp_zero (at_swap h) fun s h => ⟨rfl, hcut hrequested hfailed h⟩) fun b s h => ?_
    have hrequested := requested_password hrequested b.bytes
    refine wp_zero h fun s h => ?_
    exact wp_ite (fun _ => ⟨_, h, hfailed, hrequested⟩) fun _ => wp_zero h fun s h => ih h hfailed hrequested

theorem writeValues_wp {salt verifier : Bytes32} (h : s.At hist (k + 1) d [request]) (hfailed : hist.failed = [])
    (hrequested : hist.Requested hmac pbkdf2 request) :
    (writeValues salt verifier).wp contract (Late hmac pbkdf2 request (k + 1) d) s := by
  have hkeys : 0 < s.keys := h.keys ▸ Nat.succ_pos k
  have hwrite : ∀ value, Late hmac pbkdf2 request (k + 1) d (.error (.write value)) s :=
    fun value => late_error rfl h hfailed hrequested
  refine wp_same hkeys (fun _ _ => id) ?_
  rintro (_ | _)
  · exact hwrite _
  refine wp_same hkeys (fun _ _ => id) ?_
  rintro (_ | _)
  · exact hwrite _
  refine wp_same hkeys (fun _ _ => id) ?_
  rintro (_ | _)
  · exact hwrite _
  · exact late_ok h hfailed hrequested

theorem setNewPassword_wp (rounds : Nat) (h : s.At hist k d [request]) (hfailed : hist.failed = [])
    (hrequested : hist.Requested hmac pbkdf2 request) :
    (setNewPassword hmac pbkdf2 rounds).wp contract (Late hmac pbkdf2 request k d) s := by
  refine wp_seq (readStrongPasswordTwice_wp rounds h hfailed hrequested) ?_
  rintro (e | newPw) s hread
  · exact hread.2
  obtain ⟨hist, h, hfailed, hrequested⟩ := hread
  refine wp_same trivial (fun _ _ => id) ?_
  rintro (_ | salt)
  · exact wp_zero h fun s h => late_error rfl h hfailed hrequested
  refine wp_make h fun newDerived s _ h => ?_
  refine wp_zero (at_swap h) fun s h => ?_
  refine wp_zero h fun s h => ?_
  refine wp_call.2 ⟨trivial, ?_⟩
  rintro (_ | _) s' rfl
  · exact late_error rfl h hfailed hrequested
  have hopen := at_keys h (s.keys + 1)
  rw [h.keys] at hopen ⊢
  refine wp_seq (writeValues_wp hopen hfailed hrequested) ?_
  rintro r s ⟨hlate, hist, h, hrest⟩
  exact wp_closeKey h fun s h => ⟨hlate, hist, h, hrest⟩

theorem doRecover_wp (h : s.At .start 0 0 []) : (doRecover hmac pbkdf2).wp contract (Leaves hmac pbkdf2 0 0) s :=
  withPassword_wp h fun _ _ _ _ h hfailed hrequests hderived hverified =>
    withDriver_wp h hfailed hrequests hderived hverified fun _ _ _ h hfailed hrequested => late_ok h hfailed hrequested

theorem doSetPassword_wp (rounds : Nat) (h : s.At .start 0 0 []) :
    (doSetPassword hmac pbkdf2 rounds).wp contract (Leaves hmac pbkdf2 0 0) s :=
  withPassword_wp h fun _ _ _ _ h hfailed hrequests hderived hverified =>
    withDriver_wp h hfailed hrequests hderived hverified fun _ _ _ h hfailed hrequested =>
      setNewPassword_wp rounds h hfailed hrequested

end

/-- **What the commands leave**, whatever is typed and whatever their calls come to: no registry key and no device handle
is open, and every password and every derived key is zeroed, but for what the console returned with an error
and the copy of the current password's key in the UNLOCK request, which is there once that has been made. On the
way every call is made on what is open. -/
theorem client_leaves (hmac : Hmac) (pbkdf2 : Pbkdf2) (rounds : Nat) {s : Process} (h : s.At .start 0 0 []) :
    ((doRecover hmac pbkdf2).Safe contract s ∧ (doSetPassword hmac pbkdf2 rounds).Safe contract s) ∧
    ∀ r s', (doRecover hmac pbkdf2).Gives contract s r s' ∨ (doSetPassword hmac pbkdf2 rounds).Gives contract s r s' →
      Leaves hmac pbkdf2 0 0 r s' := by
  refine ⟨⟨Safe.of_wp (doRecover_wp h), Safe.of_wp (doSetPassword_wp rounds h)⟩, ?_⟩
  rintro r s' (hgives | hgives)
  · exact wp_sound (doRecover_wp h) hgives
  · exact wp_sound (doSetPassword_wp rounds h) hgives

/-- Every call succeeds, on a record whose verifier is zero. -/
def Worked.answers : Handler Call Call.Ret Process
  | .openKey, s | .createKey, s => (true, { s with keys := s.keys + 1 })
  | .closeKey, s => ((), { s with keys := s.keys - 1 })
  | .getBinaryValue name, s =>
    (some (List.replicate 32 0), s.records fun h => { h with binary := Function.update h.binary name (some (List.replicate 32 0)) })
  | .getIntegerValue name, s => (some 1, s.records fun h => { h with integer := Function.update h.integer name (some 1) })
  | .setBinaryValue _ _, s | .setDWordValue _ _, s => (true, s)
  | .unlock request, s => (true, s.records fun h => { h with requests := request :: h.requests })
  | .readPassword, s => ((true, ⟨s.next, [112, 119]⟩), { s.put s.next [112, 119] with next := s.next + 1 }.records fun h =>
      { h with passwords := h.passwords ++ [[112, 119]] })
  | .randRead, s => (some zero32, s)
  | .make b, s => (⟨s.next, b⟩, { s.put s.next b with next := s.next + 1 })
  | .zero p, s => ((), s.put p.ref (List.replicate p.bytes.length 0))
  | .createFile, s => (true, { s with devices := s.devices + 1 })
  | .getNonce, s => (some (zero32, 32), s)
  | .closeHandle, s => ((), { s with devices := s.devices - 1 })

def Worked.idle : Process := ⟨0, 0, 0, fun _ => [], .start⟩

theorem client_leaves_recovered : ∃ s',
    (doRecover (fun _ _ => zero32) fun _ _ _ => zero32).Gives contract Worked.idle (.ok ()) s' ∧
    Leaves (fun _ _ => zero32) (fun _ _ _ => zero32) 0 0 (.ok ()) s' := by
  have hanswers : ∀ op s, contract.post op s (Worked.answers op s).1 (Worked.answers op s).2 := by
    intro op s
    cases op with
    | readPassword => exact ⟨_, ⟨rfl, rfl⟩, rfl⟩
    | make b => exact ⟨rfl, rfl, rfl⟩
    | _ => rfl
  have hidle : Worked.idle.At .start 0 0 [] := ⟨rfl, rfl, rfl, by simp, by simp, by simp [Worked.idle]⟩
  have hgives := run_gives hanswers (doRecover (fun _ _ => zero32) fun _ _ _ => zero32) Worked.idle
  exact ⟨_, hgives, (client_leaves (fun _ _ => zero32) (fun _ _ _ => zero32) 0 hidle).2 _ _ (Or.inl hgives)⟩

/-! ## The commands on the machine -/

def valueOf (key : RecoveryKey) : String → Option RegValue
  | "InstallSalt" => key.installSalt
  | "Iterations" => key.iterations
  | "Verifier" => key.verifier
  | _ => none

def setValue (key : RecoveryKey) (v : RegValue) : String → RecoveryKey
  | "InstallSalt" => { key with installSalt := some v }
  | "Iterations" => { key with iterations := some v }
  | "Verifier" => { key with verifier := some v }
  | _ => key

def setTime (c : PasswordChange Password) : String → SysTime
  | "InstallSalt" => c.saltTime
  | "Iterations" => c.iterationsTime
  | _ => c.verifierTime

/-- The machine, and what is still to be typed. -/
structure Session where
  machine : Machine
  typed : List Password

/-- A registry write, as the callback lets it through. -/
def Session.write (t : CaseTables) (s : Session) (n : RegNotification) (now : SysTime) (effect : RecoveryKey → RecoveryKey) :
    Bool × Session :=
  let r := lgRegistryCallback t n now s.machine.driver
  (ntSuccess r.value,
    { s with machine := ⟨r.driver, if ntSuccess r.value then effect s.machine.key else s.machine.key⟩ })

def Session.ioctl (hmac : Hmac) (s : Session) (code : ULONG) (irp : Irp) (k : Kernel) : IoctlRun × Session :=
  let r := s.machine.ioctl hmac code irp k
  (r, { s with machine := r.machine })

/-- Here `OpenKey` and `CreateFile` always succeed, and there is always memory. What is still to be typed is the current
password and then whole pairs, so the console is closed only between two pairs of prompts. -/
def onMachine (hmac : Hmac) (t : CaseTables) (c : PasswordChange Password) : Handler Call Call.Ret Session
  | .getBinaryValue name, s => (getBinaryValue (valueOf s.machine.key name), s)
  | .getIntegerValue name, s => (getIntegerValue (valueOf s.machine.key name), s)
  | .setBinaryValue name data, s =>
    s.write t recoverySetValue (setTime c name) fun key => setValue key ⟨regBinary, data⟩ name
  | .setDWordValue name v, s =>
    s.write t recoverySetValue (setTime c name) fun key => setValue key ⟨regDword, leBytes 4 v.toNat⟩ name
  | .createKey, s => s.write t ⟨regNtPreCreateKeyEx, some ⟨none⟩⟩ c.openTime id
  | .openKey, s | .createFile, s => (true, s)
  | .closeKey, s | .closeHandle, s | .zero _, s => ((), s)
  | .readPassword, s => match s.typed with
    | [] => ((false, ⟨0, []⟩), s)
    | pw :: typed => ((true, ⟨0, pw⟩), { s with typed := typed })
  | .randRead, s => (c.salt, s)
  | .make b, s => (⟨0, b⟩, s)
  | .getNonce, s =>
    let r := s.ioctl hmac lgIoctlGetNonce nonceIrp c.kernel.getNonce
    (if deviceIoControl r.1.status then some (bytesAt 32 r.1.irp.systemBuffer 0, r.1.irp.information) else none, r.2)
  | .unlock request, s =>
    let r := s.ioctl hmac lgIoctlUnlock ⟨request.bytes.length, 0, request.bytes, 0, by simp⟩ c.kernel.unlock
    (deviceIoControl r.1.status, r.2)

def Error.of : ClientError → Error
  | .readRegistry => .readRegistry
  | .wrongPassword => .wrongPassword
  | .getNonce => .getNonce
  | .unlock => .unlock
  | .newPassword => .newPassword
  | .random => .random
  | .openRegistry => .openRegistry
  | .write value => .write value

section
variable {hmac : Hmac} {pbkdf2 : Pbkdf2} {t : CaseTables} {c : PasswordChange Password}

theorem readRecoveryRegistry_reads (s : Session) : readRecoveryRegistry.wp (ofHandler (onMachine hmac t c))
    (fun r s' => r = (Lockguard.readRecoveryRegistry s.machine.key).mapError Error.of ∧ s' = s) s := by
  have hvalues : recoveryValues.wp (ofHandler (onMachine hmac t c))
      (fun r s' => r = (Lockguard.readRecoveryRegistry s.machine.key).mapError Error.of ∧ s' = s) s := by
    unfold Lockguard.readRecoveryRegistry
    refine wp_handle ?_
    simp only [onMachine, valueOf]
    cases getBinaryValue s.machine.key.installSalt with
    | none => exact ⟨rfl, rfl⟩
    | some salt =>
      refine wp_handle ?_
      simp only [onMachine, valueOf]
      cases getIntegerValue s.machine.key.iterations with
      | none => exact ⟨rfl, rfl⟩
      | some v =>
        refine wp_handle ?_
        simp only [onMachine, valueOf]
        cases getBinaryValue s.machine.key.verifier with
        | none => exact ⟨rfl, rfl⟩
        | some verifier =>
          simp only
          split <;> exact ⟨rfl, rfl⟩
  refine wp_handle (wp_seq hvalues ?_)
  rintro r s' ⟨rfl, rfl⟩
  exact wp_handle ⟨rfl, rfl⟩

theorem withPassword_checks {body : Slice → Go (Except Error Unit)} {Q : Except Error Unit → Session → Prop} {m : Machine}
    {pw : Password} {typed : List Password}
    (hok : ∀ derived, checkPassword hmac pbkdf2 m.key pw = .ok derived →
      (body ⟨0, derived.toList⟩).wp (ofHandler (onMachine hmac t c)) Q ⟨m, typed⟩)
    (herror : ∀ e s, checkPassword hmac pbkdf2 m.key pw = .error e → s.machine = m → Q (.error (.of e)) s) :
    (withPassword hmac pbkdf2 body).wp (ofHandler (onMachine hmac t c)) Q ⟨m, pw :: typed⟩ := by
  refine wp_seq (readRecoveryRegistry_reads _) ?_
  rintro r s ⟨rfl, rfl⟩
  unfold checkPassword at hok herror
  cases hrecord : Lockguard.readRecoveryRegistry m.key with
  | error e =>
    simp only [hrecord] at herror
    exact herror e _ rfl rfl
  | ok rec =>
    simp only [hrecord] at hok herror
    refine wp_handle (wp_handle (wp_handle ?_))
    simp only [onMachine]
    refine wp_ite (fun hwrong => ?_) fun hright => ?_
    · have hwrong : (verifierOf hmac (pbkdf2 pw rec.salt rec.iter.toNat)).toList ≠ rec.verifier := hwrong
      rw [if_pos hwrong] at herror
      exact wp_handle (herror _ _ rfl rfl)
    · have hright : ¬ (verifierOf hmac (pbkdf2 pw rec.salt rec.iter.toNat)).toList ≠ rec.verifier := hright
      rw [if_neg hright] at hok
      exact hok _ rfl

/-- The request as the slice holds it. -/
theorem requestIrp_eq (response derived : Bytes32)
    (h : max (response.toList ++ derived.toList).length 0 ≤ (response.toList ++ derived.toList).length) :
    (⟨(response.toList ++ derived.toList).length, 0, response.toList ++ derived.toList, 0, h⟩ : Irp) =
      unlockRequestIrp response derived := by
  simp [unlockRequestIrp]

theorem withDriver_unlocks {body : Go (Except Error Unit)} {Q : Except Error Unit → Session → Prop} {m : Machine}
    {derived : Bytes32} {typed : List Password}
    (hok : (unlockDriver hmac derived c.kernel m).result = .ok () →
      body.wp (ofHandler (onMachine hmac t c)) Q ⟨(unlockDriver hmac derived c.kernel m).machine, typed⟩)
    (herror : ∀ e s, (unlockDriver hmac derived c.kernel m).result = .error e →
      s.machine = (unlockDriver hmac derived c.kernel m).machine → Q (.error (.of e)) s) :
    (withDriver hmac ⟨0, derived.toList⟩ body).wp (ofHandler (onMachine hmac t c)) Q ⟨m, typed⟩ := by
  have hclose : ∀ r s, Q r s → (do call .closeHandle; return r : Go (Except Error Unit)).wp (ofHandler (onMachine hmac t c)) Q s :=
    fun r s hQ => wp_handle hQ
  unfold unlockDriver ioctlGetNonceCall at hok herror
  refine wp_handle (wp_seq (Q := Q) ?_ hclose)
  refine wp_call.2 ⟨trivial, ?_⟩
  rintro answer s ⟨hanswer, rfl⟩
  have hanswer : answer = if deviceIoControl (m.ioctl hmac lgIoctlGetNonce nonceIrp c.kernel.getNonce).status then
      some (bytesAt 32 (m.ioctl hmac lgIoctlGetNonce nonceIrp c.kernel.getNonce).irp.systemBuffer 0,
        (m.ioctl hmac lgIoctlGetNonce nonceIrp c.kernel.getNonce).irp.information) else none := hanswer
  cases hstatus : deviceIoControl (m.ioctl hmac lgIoctlGetNonce nonceIrp c.kernel.getNonce).status with
  | false =>
    simp only [hstatus, Bool.not_false, if_true, Bool.false_eq_true, if_false] at herror hanswer
    subst hanswer
    exact wp_handle (herror _ _ rfl rfl)
  | true =>
    simp only [hstatus, Bool.not_true, Bool.false_eq_true, if_false, if_true] at hok herror hanswer
    subst hanswer
    refine wp_ite (fun hshort => ?_) fun hfull => ?_
    · rw [if_pos hshort] at herror
      exact wp_handle (herror _ _ rfl rfl)
    · rw [if_neg hfull] at hok herror
      refine wp_handle (wp_call.2 ⟨trivial, ?_⟩)
      rintro ok s ⟨hunlock, rfl⟩
      simp only [onMachine, Session.ioctl, requestIrp_eq] at hunlock ⊢
      simp only [ioctlUnlockCall, ← hunlock] at hok herror
      cases ok with
      | false => exact wp_handle (herror _ _ rfl rfl)
      | true => exact wp_handle (hok rfl)

theorem readStrongPasswordTwice_takes (pairs : List (Password × Password)) (m : Machine) :
    (readStrongPasswordTwice pairs.length).wp (ofHandler (onMachine hmac t c)) (fun r s' => s'.machine = m ∧
      r = match firstAccepted strongPassword pairs with
        | none => .error .newPassword
        | some a => .ok ⟨0, a⟩) ⟨m, pairs.flatMap fun p => [p.1, p.2]⟩ := by
  induction pairs with
  | nil => exact ⟨rfl, rfl⟩
  | cons p pairs ih =>
    obtain ⟨a, b⟩ := p
    refine wp_handle (wp_handle (wp_handle ?_))
    simp only [onMachine, List.flatMap_cons, List.cons_append, List.nil_append]
    cases hstrong : strongPassword a b with
    | true =>
      refine wp_ite (fun _ => ?_) fun hweak => absurd rfl hweak
      refine ⟨rfl, ?_⟩
      simp [firstAccepted, hstrong]
    | false =>
      have hskip : firstAccepted strongPassword ((a, b) :: pairs) = firstAccepted strongPassword pairs := by
        simp [firstAccepted, hstrong]
      rw [hskip]
      exact wp_ite (fun h => by cases h) fun _ => wp_handle ih

/-- The run has come to what the model of the tools comes to. -/
def Same (model : ClientRun) (r : Except Error Unit) (s : Session) : Prop :=
  r = model.result.mapError Error.of ∧ s.machine = model.machine

/-- One registry write, then the rest. -/
theorem wp_write {x : Go Bool} {f : Bool → Go (Except Error Unit)} {rc : RegCall} {calls : List RegCall} {m : Machine}
    {typed : List Password}
    (hx : ∀ (Q : Bool → Session → Prop) s, Q (s.write t rc.notification rc.now rc.effect).1
      (s.write t rc.notification rc.now rc.effect).2 → x.wp (ofHandler (onMachine hmac t c)) Q s)
    (hrefused : f false = return .error (.of rc.failure))
    (hgranted : ∀ m, (f true).wp (ofHandler (onMachine hmac t c)) (Same (registryCalls t calls m)) ⟨m, typed⟩) :
    (x >>= f).wp (ofHandler (onMachine hmac t c)) (Same (registryCalls t (rc :: calls) m)) ⟨m, typed⟩ := by
  rw [wp_bind]
  apply hx
  simp only [Session.write]
  cases hstatus : ntSuccess (lgRegistryCallback t rc.notification rc.now m.driver).value with
  | false =>
    rw [hrefused]
    simp [Same, registryCalls, hstatus, Except.mapError]
  | true =>
    refine wp_mono (hgranted _) ?_
    rintro r s' hsame
    simpa [Same, registryCalls, hstatus] using hsame

theorem writeValues_same (pbkdf2 : Pbkdf2) (salt verifier : Bytes32) (m : Machine) (typed : List Password) :
    (writeValues salt verifier).wp (ofHandler (onMachine hmac t c))
      (Same (registryCalls t ((goTool hmac pbkdf2).recordCalls c salt verifier).tail m)) ⟨m, typed⟩ :=
  wp_write (fun _ _ => wp_performed) rfl fun _ =>
    wp_write (fun _ _ => wp_performed) rfl fun _ => wp_write (fun _ _ => wp_performed) rfl fun _ => ⟨rfl, rfl⟩

theorem setNewPassword_same (m : Machine) : (setNewPassword hmac pbkdf2 c.typed.length).wp (ofHandler (onMachine hmac t c))
    (Same ((goTool hmac pbkdf2).writeRecord t c m)) ⟨m, c.typed.flatMap fun p => [p.1, p.2]⟩ := by
  have htyped : (goTool hmac pbkdf2).readNewPassword c.typed = firstAccepted strongPassword c.typed := rfl
  refine wp_seq (readStrongPasswordTwice_takes c.typed m) ?_
  rintro r ⟨m', typed⟩ ⟨rfl, rfl⟩
  simp only [PasswordTool.writeRecord, htyped]
  cases firstAccepted strongPassword c.typed with
  | none => exact ⟨rfl, rfl⟩
  | some pw =>
    refine wp_call.2 ⟨trivial, ?_⟩
    rintro salt s ⟨hsalt, rfl⟩
    obtain rfl : salt = c.salt := hsalt
    cases c.salt with
    | none => exact wp_handle ⟨rfl, rfl⟩
    | some salt =>
      refine wp_handle (wp_handle (wp_handle ?_))
      refine wp_write (fun _ _ => wp_performed) rfl fun m => wp_seq (writeValues_same pbkdf2 salt _ m typed) ?_
      rintro r s hsame
      exact wp_handle hsame

theorem doRecover_same (m : Machine) (typed : List Password) : (doRecover hmac pbkdf2).wp (ofHandler (onMachine hmac t c))
    (Same (Lockguard.doRecover hmac pbkdf2 c.current c.kernel m)) ⟨m, c.current :: typed⟩ := by
  refine withPassword_checks (fun derived hcheck => ?_) fun e s hcheck hs => ?_
  · rw [Lockguard.doRecover, hcheck, recoverWith]
    refine withDriver_unlocks (fun hok => ⟨?_, rfl⟩) fun e s herror hs => ⟨?_, hs⟩
    · rw [hok]
      rfl
    · rw [herror]
      rfl
  · rw [Lockguard.doRecover, hcheck]
    exact ⟨rfl, hs⟩

theorem doSetPassword_same (m : Machine) : (doSetPassword hmac pbkdf2 c.typed.length).wp (ofHandler (onMachine hmac t c))
    (Same (Lockguard.doSetPassword hmac pbkdf2 t c m)) ⟨m, c.current :: c.typed.flatMap fun p => [p.1, p.2]⟩ := by
  have hcheck : (goTool hmac pbkdf2).check = checkPassword hmac pbkdf2 := rfl
  refine withPassword_checks (fun derived hright => ?_) fun e s hwrong hs => ?_
  · simp only [Lockguard.doSetPassword, PasswordTool.change, hcheck, hright]
    refine withDriver_unlocks (fun hok => ?_) fun e s herror hs => ?_
    · simp only [hok]
      exact setNewPassword_same _
    · simp only [herror]
      exact ⟨by rw [herror]; rfl, hs⟩
  · simp only [Lockguard.doSetPassword, PasswordTool.change, hcheck, hwrong]
    exact ⟨rfl, hs⟩

/-- On the machine the command ends with the model's result, and leaves the model's driver and registry. -/
def ComesTo (hmac : Hmac) (t : CaseTables) (c : PasswordChange Password) (command : Go (Except Error Unit)) (s : Session)
    (model : ClientRun) : Prop :=
  Same model (command.run (onMachine hmac t c) s).1 (command.run (onMachine hmac t c) s).2

/-- **The commands refine the model of the tools**, call by call, on a machine where the key and the device can be opened,
for every current password, every list of pairs after it, and every answer of the kernel to the requests and the
registry writes. -/
theorem commands_refine (hmac : Hmac) (pbkdf2 : Pbkdf2) (t : CaseTables) (c : PasswordChange Password) (m : Machine) :
    ComesTo hmac t c (doRecover hmac pbkdf2) ⟨m, [c.current]⟩ (Lockguard.doRecover hmac pbkdf2 c.current c.kernel m) ∧
    ComesTo hmac t c (doSetPassword hmac pbkdf2 c.typed.length) ⟨m, c.current :: c.typed.flatMap fun p => [p.1, p.2]⟩
      (Lockguard.doSetPassword hmac pbkdf2 t c m) :=
  ⟨run_of_wp (doRecover_same m []), run_of_wp (doSetPassword_same m)⟩

end

end Lockguard.Cli
