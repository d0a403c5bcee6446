import Lockguard.Client
/-!
# The two readers of the recovery record (`main.go:301-335`, `lockguard.c:170-253`)

| here | there |
| --- | --- |
| `RecoveryKey.clientReads`   | what `GetBinaryValue`, `GetIntegerValue` and the length check ask for |
| `RecoveryKey.driverReads`   | what `LgReadRegBytes`, `LgReadRegDword` and the length check ask for |

`LgReadRegDword` checks the value's type and `LgReadRegBytes` does not; the driver keeps the salt in
a fixed array and the client takes a count of either width. On a record of the common shape they
agree when both or neither of these come into play (`readers_agree_iff`).
-/
namespace Lockguard

namespace RecoveryKey

/-- Salt, count and verifier are there, the verifier of 32 bytes, the count a DWORD or a QWORD. -/
structure Shaped (key : RecoveryKey) (salt iterations verifier : RegValue) : Prop where
  hasSalt : key.installSalt = some salt
  hasCount : key.iterations = some iterations
  count : iterations.type = regDword ∧ iterations.data.length = 4 ∨
    iterations.type = regQword ∧ iterations.data.length = 8
  hasVerifier : key.verifier = some verifier
  verifierLen : verifier.data.length = lgVerifierLen

/-- What the client demands besides. -/
def Binary (salt verifier : RegValue) : Prop := salt.type = regBinary ∧ verifier.type = regBinary

/-- What the driver demands besides. -/
def Narrow (salt iterations : RegValue) : Prop := salt.data.length ≤ lgSaltMaxLen ∧ iterations.type = regDword

instance (salt verifier : RegValue) : Decidable (Binary salt verifier) := inferInstanceAs (Decidable (_ ∧ _))
instance (salt iterations : RegValue) : Decidable (Narrow salt iterations) := inferInstanceAs (Decidable (_ ∧ _))

end RecoveryKey

/-! ## The client -/

theorem getBinaryValue_eq_some {v : Option RegValue} {data : Bytes} :
    getBinaryValue v = some data ↔ ∃ x, v = some x ∧ x.type = regBinary ∧ x.data = data := by
  cases v with
  | none => simp [getBinaryValue]
  | some x => simp [getBinaryValue]

theorem getIntegerValue_eq_some {v : Option RegValue} {n : Nat} :
    getIntegerValue v = some n ↔ ∃ x, v = some x ∧
      (x.type = regDword ∧ x.data.length = 4 ∨ x.type = regQword ∧ x.data.length = 8) ∧ leNat x.data = n := by
  cases v with
  | none => simp [getIntegerValue]
  | some x => simp [getIntegerValue]

theorem readRecoveryRegistry_ok {key : RecoveryKey} {rec : ClientRecord}
    (h : readRecoveryRegistry key = .ok rec) :
    ∃ salt iterations verifier, key.Shaped salt iterations verifier ∧ RecoveryKey.Binary salt verifier ∧
      rec = ⟨salt.data, UInt32.ofNat (leNat iterations.data), verifier.data⟩ := by
  unfold readRecoveryRegistry at h
  split at h
  · rename_i salt n verifier hsalt hcount hverifier
    split at h
    · cases h
    · rename_i hlen
      cases h
      obtain ⟨s, hs, hsbin, rfl⟩ := getBinaryValue_eq_some.1 hsalt
      obtain ⟨i, hi, hwidth, rfl⟩ := getIntegerValue_eq_some.1 hcount
      obtain ⟨v, hv, hvbin, rfl⟩ := getBinaryValue_eq_some.1 hverifier
      exact ⟨s, i, v, ⟨hs, hi, hwidth, hv, by simpa using hlen⟩, ⟨hsbin, hvbin⟩, rfl⟩
  · cases h

section
variable {key : RecoveryKey} {salt iterations verifier : RegValue}

theorem readRecoveryRegistry_shaped (h : key.Shaped salt iterations verifier)
    (hbin : RecoveryKey.Binary salt verifier) : readRecoveryRegistry key =
      .ok ⟨salt.data, UInt32.ofNat (leNat iterations.data), verifier.data⟩ := by
  have hsalt := getBinaryValue_eq_some.2 ⟨salt, h.hasSalt, hbin.1, rfl⟩
  have hcount := getIntegerValue_eq_some.2 ⟨iterations, h.hasCount, h.count, rfl⟩
  have hverifier := getBinaryValue_eq_some.2 ⟨verifier, h.hasVerifier, hbin.2, rfl⟩
  simp [readRecoveryRegistry, hsalt, hcount, hverifier, h.verifierLen]

/-- The values of a record of the common shape are determined. -/
theorem RecoveryKey.Shaped.unique {salt' iterations' verifier' : RegValue} (h : key.Shaped salt iterations verifier)
    (h' : key.Shaped salt' iterations' verifier') :
    salt' = salt ∧ iterations' = iterations ∧ verifier' = verifier :=
  ⟨Option.some.inj (h'.hasSalt.symm.trans h.hasSalt), Option.some.inj (h'.hasCount.symm.trans h.hasCount),
    Option.some.inj (h'.hasVerifier.symm.trans h.hasVerifier)⟩

theorem client_ok_iff (h : key.Shaped salt iterations verifier) :
    (∃ rec, readRecoveryRegistry key = .ok rec) ↔ RecoveryKey.Binary salt verifier := by
  constructor
  · rintro ⟨rec, hrec⟩
    obtain ⟨s, i, v, hshaped, hbin, -⟩ := readRecoveryRegistry_ok hrec
    obtain ⟨rfl, -, rfl⟩ := h.unique hshaped
    exact hbin
  · intro hbin
    exact ⟨_, readRecoveryRegistry_shaped h hbin⟩

end

/-! ## The driver -/

/-- A read with room for what it takes: the value is there and fits, whatever its type. -/
theorem lgReadRegBytes_ok {v : Option RegValue} {room bufLen : Nat} (hroom : bufLen ≤ room) {data : Bytes} :
    lgReadRegBytes (zwQueryValueKey v room) bufLen = .ok data ↔
      ∃ x, v = some x ∧ x.data.length ≤ bufLen ∧ x.data = data := by
  cases v with
  | none => simp [lgReadRegBytes, zwQueryValueKey, checked, bind, Except.bind, ntSuccess, statusObjectNameNotFound]
  | some x =>
    unfold zwQueryValueKey
    by_cases hfit : room < x.data.length
    · have hlong : ¬ x.data.length ≤ bufLen := by omega
      have hover : ntSuccess statusBufferOverflow = false := by decide
      simp [hfit, lgReadRegBytes, checked, hover, bind, Except.bind, hlong]
    · by_cases hlong : bufLen < x.data.length
      · have hno : ¬ x.data.length ≤ bufLen := by omega
        simp [hfit, lgReadRegBytes, checked, bind, Except.bind, hlong, hno]
      · have hyes : x.data.length ≤ bufLen := by omega
        simp [hfit, lgReadRegBytes, checked, bind, Except.bind, hlong, hyes]

theorem lgReadRegDword_ok {v : Option RegValue} {room : Nat} (hroom : 4 ≤ room) {n : ULONG} :
    lgReadRegDword (zwQueryValueKey v room) = .ok n ↔
      ∃ x, v = some x ∧ x.type = regDword ∧ x.data.length = 4 ∧ UInt32.ofNat (leNat x.data) = n := by
  cases v with
  | none => simp [lgReadRegDword, zwQueryValueKey, checked, bind, Except.bind, ntSuccess, statusObjectNameNotFound]
  | some x =>
    unfold zwQueryValueKey
    by_cases hfit : room < x.data.length
    · have hlong : ¬ x.data.length = 4 := by omega
      have hover : ntSuccess statusBufferOverflow = false := by decide
      simp [hfit, lgReadRegDword, checked, hover, bind, Except.bind, hlong]
    · by_cases htype : x.type = regDword
      · by_cases hlen : x.data.length = 4
        · have hroom' : ¬ room < 4 := by omega
          simp [hroom', lgReadRegDword, checked, bind, Except.bind, htype, hlen]
        · simp [hfit, lgReadRegDword, checked, bind, Except.bind, htype, hlen]
      · simp [hfit, lgReadRegDword, checked, bind, Except.bind, htype]

/-- A failed read fails with an error status. -/
theorem lgReadRegBytes_error {q : RegQuery} {bufLen : Nat} {s : NTSTATUS} (h : lgReadRegBytes q bufLen = .error s) :
    ntSuccess s = false := by
  unfold lgReadRegBytes checked at h
  cases hs : ntSuccess q.status with
  | false =>
    simp only [hs, bind, Except.bind] at h
    cases h
    exact hs
  | true =>
    simp only [hs, if_true, bind, Except.bind] at h
    split at h
    · cases h
      rfl
    · cases h

theorem lgReadRegDword_error {q : RegQuery} {s : NTSTATUS} (h : lgReadRegDword q = .error s) :
    ntSuccess s = false := by
  unfold lgReadRegDword checked at h
  cases hs : ntSuccess q.status with
  | false =>
    simp only [hs, bind, Except.bind] at h
    cases h
    exact hs
  | true =>
    simp only [hs, if_true, bind, Except.bind] at h
    split at h
    · cases h
      decide
    · cases h

/-- A load that succeeds has read all three values, and has loaded the verifier it read. -/
theorem lgRecoveryLoadVerifier_ok {key : RecoveryKey} {r : Recovery}
    (h : ntSuccess (lgRecoveryLoadVerifier key.reads r).1 = true) :
    ∃ salt iterations verifier, key.Shaped salt iterations verifier ∧ RecoveryKey.Narrow salt iterations ∧
      (lgRecoveryLoadVerifier key.reads r).2.gVerifierLoaded = true ∧
      (lgRecoveryLoadVerifier key.reads r).2.gStoredVerifier.toList = verifier.data := by
  unfold lgRecoveryLoadVerifier at h ⊢
  have hopen : (!ntSuccess key.reads.openKey) = false := rfl
  simp only [hopen, Bool.false_eq_true, if_false] at h ⊢
  cases hsalt : lgReadRegBytes key.reads.installSalt lgSaltMaxLen with
  | error s => simp [hsalt, lgReadRegBytes_error hsalt] at h
  | ok salt =>
    cases hcount : lgReadRegDword key.reads.iterations with
    | error s => simp [hsalt, hcount, lgReadRegDword_error hcount] at h
    | ok iterations =>
      cases hverifier : lgReadRegBytes key.reads.verifier lgVerifierLen with
      | error s => simp [hsalt, hcount, hverifier, lgReadRegBytes_error hverifier] at h
      | ok verifier =>
        simp only [hsalt, hcount, hverifier] at h ⊢
        split at h
        · cases h
        · rename_i hlen
          rw [if_neg hlen]
          obtain ⟨s, hs, hshort, rfl⟩ := (lgReadRegBytes_ok (by decide)).1 hsalt
          obtain ⟨i, hi, htype, hwidth, rfl⟩ := (lgReadRegDword_ok (by decide)).1 hcount
          obtain ⟨v, hv, -, rfl⟩ := (lgReadRegBytes_ok (by decide)).1 hverifier
          have hvlen : v.data.length = lgVerifierLen := by simpa using hlen
          refine ⟨s, i, v, ⟨hs, hi, Or.inl ⟨htype, hwidth⟩, hv, hvlen⟩, ⟨hshort, htype⟩, rfl, ?_⟩
          apply List.ext_getElem
          · simpa [lgVerifierLen] using hvlen.symm
          · intro n h₁ h₂
            simp [copyInto, h₂]

section
variable {key : RecoveryKey} {salt iterations verifier : RegValue}

theorem driver_ok_iff (h : key.Shaped salt iterations verifier) (r : Recovery) :
    ntSuccess (lgRecoveryLoadVerifier key.reads r).1 = true ↔ RecoveryKey.Narrow salt iterations := by
  constructor
  · intro hok
    obtain ⟨s, i, v, hshaped, hnarrow, -⟩ := lgRecoveryLoadVerifier_ok hok
    obtain ⟨rfl, rfl, -⟩ := h.unique hshaped
    exact hnarrow
  · rintro ⟨hshort, htype⟩
    have hwidth : iterations.data.length = 4 := by
      rcases h.count with ⟨-, hlen⟩ | ⟨hqword, -⟩
      · exact hlen
      · rw [htype] at hqword
        cases hqword
    have hsalt : lgReadRegBytes key.reads.installSalt lgSaltMaxLen = .ok salt.data :=
      (lgReadRegBytes_ok (by decide)).2 ⟨salt, h.hasSalt, hshort, rfl⟩
    have hcount : lgReadRegDword key.reads.iterations = .ok (UInt32.ofNat (leNat iterations.data)) :=
      (lgReadRegDword_ok (by decide)).2 ⟨iterations, h.hasCount, htype, hwidth, rfl⟩
    have hverifier : lgReadRegBytes key.reads.verifier lgVerifierLen = .ok verifier.data :=
      (lgReadRegBytes_ok (by decide)).2 ⟨verifier, h.hasVerifier, Nat.le_of_eq h.verifierLen, rfl⟩
    have hopen : (!ntSuccess key.reads.openKey) = false := rfl
    simp [lgRecoveryLoadVerifier, hopen, hsalt, hcount, hverifier, h.verifierLen]

end

/-! ## One meaning -/

/-- What the two sides are to have in common: they take the same records, then hold the same
verifier, and the key of a password the client lets through passes the driver's check, the BCrypt
calls succeeding. -/
def OneMeaning (hmac : Hmac) (pbkdf2 : Pbkdf2) (key : RecoveryKey) (r : Recovery) : Prop :=
  ((∃ rec, readRecoveryRegistry key = .ok rec) ↔ ntSuccess (lgRecoveryLoadVerifier key.reads r).1 = true) ∧
  (∀ rec, readRecoveryRegistry key = .ok rec →
    (lgRecoveryLoadVerifier key.reads r).2.loadedVerifier.map Vector.toList = some rec.verifier) ∧
  ∀ pw derived c, c.Succeed → checkPassword hmac pbkdf2 key pw = .ok derived →
    lgRecoveryCheckKey hmac (lgRecoveryLoadVerifier key.reads r).2 c derived = .ok ()

theorem same_verifier {key : RecoveryKey} {r : Recovery} {rec : ClientRecord}
    (hclient : readRecoveryRegistry key = .ok rec) (hdriver : ntSuccess (lgRecoveryLoadVerifier key.reads r).1 = true) :
    (lgRecoveryLoadVerifier key.reads r).2.loadedVerifier.map Vector.toList = some rec.verifier := by
  obtain ⟨s, i, v, hshaped, -, rfl⟩ := readRecoveryRegistry_ok hclient
  obtain ⟨s', i', v', hshaped', -, hloaded, hstored⟩ := lgRecoveryLoadVerifier_ok hdriver
  obtain ⟨-, -, rfl⟩ := hshaped'.unique hshaped
  simp [Recovery.loadedVerifier, hloaded, hstored]

/-- The driver's check compares with the verifier the client's check has compared with. -/
theorem checkPassword_checkKey {hmac : Hmac} {pbkdf2 : Pbkdf2} {key : RecoveryKey} {pw : Password}
    {derived : Bytes32} {r : Recovery} {c : HmacCalls} (hc : c.Succeed)
    (hpw : checkPassword hmac pbkdf2 key pw = .ok derived)
    (hsame : ∀ rec, readRecoveryRegistry key = .ok rec → r.loadedVerifier.map Vector.toList = some rec.verifier) :
    lgRecoveryCheckKey hmac r c derived = .ok () := by
  unfold checkPassword at hpw
  cases hread : readRecoveryRegistry key with
  | error e => simp [hread] at hpw
  | ok rec =>
    simp only [hread] at hpw
    split at hpw
    · cases hpw
    · rename_i hmatch
      cases hpw
      rw [checkKey_iff hc]
      obtain ⟨v, hv, hlist⟩ := Option.map_eq_some_iff.1 (hsame rec hread)
      have hverifier : v = verifierOf hmac (pbkdf2 pw rec.salt rec.iter.toNat) :=
        Vector.toList_inj.1 (hlist.trans (not_not.1 hmatch).symm)
      rw [hv, hverifier]
      rfl

/-- **When the record has one meaning**: of the records with a salt, a count of either width and 32
bytes of verifier, those whose salt and verifier are binary exactly if the salt fits the driver's
array and the count is a DWORD. -/
theorem readers_agree_iff (hmac : Hmac) (pbkdf2 : Pbkdf2) (key : RecoveryKey) (r : Recovery) :
    OneMeaning hmac pbkdf2 key r ↔ ∀ salt iterations verifier, key.Shaped salt iterations verifier →
      (RecoveryKey.Binary salt verifier ↔ RecoveryKey.Narrow salt iterations) := by
  constructor
  · rintro ⟨htake, -⟩ salt iterations verifier hshaped
    rw [← client_ok_iff hshaped, htake, driver_ok_iff hshaped]
  · intro hcond
    have htake : (∃ rec, readRecoveryRegistry key = .ok rec) ↔
        ntSuccess (lgRecoveryLoadVerifier key.reads r).1 = true := by
      constructor
      · rintro ⟨rec, hrec⟩
        obtain ⟨s, i, v, hshaped, hbin, -⟩ := readRecoveryRegistry_ok hrec
        exact (driver_ok_iff hshaped r).2 ((hcond s i v hshaped).1 hbin)
      · intro hok
        obtain ⟨s, i, v, hshaped, hnarrow, -⟩ := lgRecoveryLoadVerifier_ok hok
        exact (client_ok_iff hshaped).2 ((hcond s i v hshaped).2 hnarrow)
    have hsame : ∀ rec, readRecoveryRegistry key = .ok rec →
        (lgRecoveryLoadVerifier key.reads r).2.loadedVerifier.map Vector.toList = some rec.verifier :=
      fun rec hrec => same_verifier hrec (htake.1 ⟨rec, hrec⟩)
    exact ⟨htake, hsame, fun pw derived c hc hpw => checkPassword_checkKey hc hpw hsame⟩

namespace Worked

/-- The worked verifier under a salt of 65 bytes. -/
def longSaltKey : RecoveryKey where
  installSalt := some ⟨regBinary, List.replicate 65 5⟩
  iterations := some ⟨regDword, [0xC0, 0x27, 0x09, 0x00]⟩
  verifier := some ⟨regBinary, verifier.toList⟩

/-- The worked verifier as a string value (`REG_SZ`). -/
def stringKey : RecoveryKey where
  installSalt := some ⟨regBinary, List.replicate 16 5⟩
  iterations := some ⟨regDword, [0xC0, 0x27, 0x09, 0x00]⟩
  verifier := some ⟨1, verifier.toList⟩

/-- Every password derives the worked key. -/
def pbkdf2 : Pbkdf2 := fun _ _ _ => key

end Worked

/-- The client takes the first record, and its password check lets a password through, while the
driver does not load it and refuses the key; with the second it is the other way round. -/
theorem readers_disagree :
    (checkPassword Worked.hmac Worked.pbkdf2 Worked.longSaltKey (asciiBytes "secret") = .ok Worked.key ∧
      lgRecoveryCheckKey Worked.hmac (lgRecoveryLoadVerifier Worked.longSaltKey.reads .boot).2 Worked.hmacCalls
        Worked.key = .error statusNotFound) ∧
    ¬ OneMeaning Worked.hmac Worked.pbkdf2 Worked.longSaltKey .boot ∧
    ntSuccess (lgRecoveryLoadVerifier Worked.stringKey.reads .boot).1 = true ∧
    ¬ OneMeaning Worked.hmac Worked.pbkdf2 Worked.stringKey .boot := by
  have hlong : checkPassword Worked.hmac Worked.pbkdf2 Worked.longSaltKey (asciiBytes "secret") = .ok Worked.key := by
    decide +kernel
  have hrefused : lgRecoveryCheckKey Worked.hmac (lgRecoveryLoadVerifier Worked.longSaltKey.reads .boot).2
      Worked.hmacCalls Worked.key = .error statusNotFound := by
    decide +kernel
  have hloads : ntSuccess (lgRecoveryLoadVerifier Worked.stringKey.reads .boot).1 = true := by decide +kernel
  refine ⟨⟨hlong, hrefused⟩, ?_, hloads, ?_⟩
  · rintro ⟨-, -, hnever⟩
    have hpassed := hnever (asciiBytes "secret") Worked.key Worked.hmacCalls (by decide) hlong
    rw [hrefused] at hpassed
    cases hpassed
  · rintro ⟨htake, -⟩
    obtain ⟨rec, hrec⟩ := htake.2 hloads
    cases hrec

end Lockguard
