import Lockguard.Installer
/-!
# One password policy in three places

| here | there |
| --- | --- |
| `StrongPair`        | the policy: one string of 12 characters, with upper case, lower case and a digit |
| `utf8`, `utf16`     | what `term.ReadPassword` and `Read-SecurePlain` make of the string entered |
| `goAccepts`         | `readStrongPasswordTwice` (`main.go:250-297`) on one pair |
| `setAccepts`        | `Read-StrongNewPassword` (`Set-LockguardPassword.ps1:81-92`) |
| `installAccepts`    | `Read-StrongPassword` (`Install-Lockguard.ps1:95-106`) |

The Go client counts bytes. The scripts count UTF-16 units, and their `-ne` and `-notmatch` ignore
case, so `[A-Z]` and `[a-z]` are one test there (`likeOneOf_upper_iff`) and the confirmation may
differ from the password in case.
-/
namespace Lockguard

/-! ## The policy -/

def HasIn (lo hi : Nat) (a : List Char) : Prop := ∃ c ∈ a, lo ≤ c.toNat ∧ c.toNat ≤ hi

/-- One of A-Z, one of a-z, one of 0-9. -/
def Mixed (a : List Char) : Prop := HasIn 65 90 a ∧ HasIn 97 122 a ∧ HasIn 48 57 a

def StrongPair (a b : List Char) : Prop := a = b ∧ 12 ≤ a.length ∧ Mixed a

instance (lo hi : Nat) (a : List Char) : Decidable (HasIn lo hi a) :=
  decidable_of_iff (a.any (fun c => decide (lo ≤ c.toNat ∧ c.toNat ≤ hi)) = true) (by simp [HasIn])
instance (a : List Char) : Decidable (Mixed a) := inferInstanceAs (Decidable (_ ∧ _))
instance (a b : List Char) : Decidable (StrongPair a b) := inferInstanceAs (Decidable (_ ∧ _))

/-! ## Encodings -/

def utf8 (a : List Char) : Bytes := a.flatMap String.utf8EncodeChar

def utf16EncodeChar (c : Char) : List WCHAR :=
  if c.toNat < 0x10000 then [UInt16.ofNat c.toNat]
  else
    let v := c.toNat - 0x10000
    [UInt16.ofNat (0xD800 + v / 0x400), UInt16.ofNat (0xDC00 + v % 0x400)]

def utf16 (a : List Char) : List WCHAR := a.flatMap utf16EncodeChar

theorem utf8_inj {a b : List Char} : utf8 a = utf8 b ↔ a = b := by
  rw [← String.ofList_inj, ← String.toByteArray_inj, String.toByteArray_ofList, String.toByteArray_ofList,
    List.utf8Encode, List.utf8Encode, List.toByteArray_inj]
  rfl

theorem length_le_flatMap {α β : Type} {f : α → List β} (hf : ∀ x, f x ≠ []) (l : List α) :
    l.length ≤ (l.flatMap f).length := by
  induction l with
  | nil => exact Nat.zero_le _
  | cons x l ih =>
    have hpos := List.length_pos_iff.2 (hf x)
    rw [List.flatMap_cons, List.length_append, List.length_cons]
    omega

theorem length_le_utf8 (a : List Char) : a.length ≤ (utf8 a).length :=
  length_le_flatMap (fun _ => String.utf8EncodeChar_ne_nil) a

theorem length_le_utf16 (a : List Char) : a.length ≤ (utf16 a).length := by
  apply length_le_flatMap
  intro c
  unfold utf16EncodeChar
  split <;> simp

/-- An ASCII byte of an encoding is its character; the other characters have none. -/
theorem mem_utf8EncodeChar_ascii {c : Char} {b : UInt8} (hb : b < 128) :
    b ∈ String.utf8EncodeChar c ↔ c.toNat = b.toNat := by
  have hlt : b.toNat < 128 := hb
  have hv : c.val.toNat = c.toNat := rfl
  unfold String.utf8EncodeChar
  simp only [hv]
  split
  · rw [List.mem_singleton, ← UInt8.toNat_inj, UInt8.toNat_ofNat']
    omega
  split
  · simp only [List.mem_cons, List.not_mem_nil, or_false, ← UInt8.toNat_inj, UInt8.toNat_ofNat']
    omega
  split
  · simp only [List.mem_cons, List.not_mem_nil, or_false, ← UInt8.toNat_inj, UInt8.toNat_ofNat']
    omega
  · simp only [List.mem_cons, List.not_mem_nil, or_false, ← UInt8.toNat_inj, UInt8.toNat_ofNat']
    omega

theorem any_utf8_iff (lo : UInt8) {hi : UInt8} (hhi : hi < 128) (a : List Char) :
    ((utf8 a).any fun b => lo ≤ b && b ≤ hi) = true ↔ HasIn lo.toNat hi.toNat a := by
  simp only [List.any_eq_true, Bool.and_eq_true, decide_eq_true_eq, utf8, List.mem_flatMap, HasIn]
  constructor
  · rintro ⟨b, ⟨c, hc, hb⟩, hle, hge⟩
    have hcb := (mem_utf8EncodeChar_ascii (UInt8.lt_of_le_of_lt hge hhi)).1 hb
    exact ⟨c, hc, by rw [hcb]; exact hle, by rw [hcb]; exact hge⟩
  · rintro ⟨c, hc, hle, hge⟩
    have hhi' : hi.toNat < 128 := hhi
    have hbyte : (UInt8.ofNat c.toNat).toNat = c.toNat := by
      rw [UInt8.toNat_ofNat']
      omega
    have hascii : UInt8.ofNat c.toNat < 128 := by
      rw [UInt8.lt_iff_toNat_lt, hbyte]
      exact Nat.lt_of_le_of_lt hge hhi'
    refine ⟨UInt8.ofNat c.toNat, ⟨c, hc, (mem_utf8EncodeChar_ascii hascii).2 hbyte.symm⟩, ?_, ?_⟩
    · rw [UInt8.le_iff_toNat_le, hbyte]
      exact hle
    · rw [UInt8.le_iff_toNat_le, hbyte]
      exact hge

/-- An ASCII character is one unit, of its own value. -/
theorem mem_utf16_of_ascii {a : List Char} {c : Char} (hc : c ∈ a) (hascii : c.toNat < 128) :
    UInt16.ofNat c.toNat ∈ utf16 a := by
  have hlow : c.toNat < 0x10000 := by omega
  refine List.mem_flatMap.2 ⟨c, hc, ?_⟩
  simp [utf16EncodeChar, hlow]

/-! ## The Go client -/

def goAccepts (a b : List Char) : Prop := (readStrongPasswordTwice [(utf8 a, utf8 b)]).isSome

theorem firstAccepted_pair {α : Type} (accepts : α → α → Bool) (a b : α) :
    (firstAccepted accepts [(a, b)]).isSome = accepts a b := by
  cases h : accepts a b <;> simp [firstAccepted, h]

/-- **The client** asks for 12 bytes. -/
theorem goAccepts_iff (a b : List Char) : goAccepts a b ↔ a = b ∧ 12 ≤ (utf8 a).length ∧ Mixed a := by
  have hupper := any_utf8_iff 65 (by decide : (90 : UInt8) < 128) a
  have hlower := any_utf8_iff 97 (by decide : (122 : UInt8) < 128) a
  have hdigit := any_utf8_iff 48 (by decide : (57 : UInt8) < 128) a
  rw [goAccepts, readStrongPasswordTwice, firstAccepted_pair]
  simp only [strongPassword, Bool.and_eq_true, beq_iff_eq, decide_eq_true_eq, utf8_inj, hupper, hlower, hdigit]
  simp only [Mixed, and_assoc]
  rfl

/-! ## The scripts -/

def upperClass : List WCHAR := (List.range' 65 26).map UInt16.ofNat
def lowerClass : List WCHAR := (List.range' 97 26).map UInt16.ofNat
def digitClass : List WCHAR := (List.range' 48 10).map UInt16.ofNat

/-- Some character is, up to case, one of the class. -/
def LikeOneOf (t : CaseTables) (cls s : List WCHAR) : Prop := ∃ x ∈ s, ∃ d ∈ cls, t.downcase x = t.downcase d

instance (t : CaseTables) (cls s : List WCHAR) : Decidable (LikeOneOf t cls s) :=
  inferInstanceAs (Decidable (∃ x ∈ s, _))

def AlikeUpToCase (t : CaseTables) (a b : List WCHAR) : Prop := a.map t.downcase = b.map t.downcase

instance (t : CaseTables) (a b : List WCHAR) : Decidable (AlikeUpToCase t a b) := inferInstanceAs (Decidable (_ = _))

/-- PowerShell's `-ne` and `-notmatch` as documented: both ignore case. -/
structure PowerShell.IgnoresCase (ps : PowerShell) (t : CaseTables) : Prop where
  ne : ∀ a b, ps.ne a b = false ↔ AlikeUpToCase t a b
  upper : ∀ s, ps.notmatch s "[A-Z]" = false ↔ LikeOneOf t upperClass s
  lower : ∀ s, ps.notmatch s "[a-z]" = false ↔ LikeOneOf t lowerClass s
  digit : ∀ s, ps.notmatch s "[0-9]" = false ↔ LikeOneOf t digitClass s

def setAccepts (ps : PowerShell) (a b : List Char) : Prop := (ps.readStrongNewPassword [(utf16 a, utf16 b)]).isSome

def installAccepts (ps : PowerShell) (a b : List Char) : Prop := (ps.readStrongPassword [(utf16 a, utf16 b)]).isSome

theorem likeOneOf_iff {t : CaseTables} {cls s : List WCHAR} :
    LikeOneOf t cls s ↔ ∃ x ∈ s, t.downcase x ∈ cls.map t.downcase := by
  simp only [LikeOneOf, List.mem_map, eq_comm]

/-- **The two letter classes are one** where case is ignored. -/
theorem likeOneOf_upper_iff (t : CaseTables) (s : List WCHAR) :
    LikeOneOf t upperClass s ↔ LikeOneOf t lowerClass s := by
  have hascii : ∀ cls : List WCHAR, (cls.all fun d => decide (d < 128)) = true →
      cls.map t.downcase = cls.map asciiDowncase := by
    intro cls h
    apply List.map_congr_left
    intro d hd
    exact t.downcase_ascii d (of_decide_eq_true (List.all_eq_true.1 h d hd))
  have hsame : upperClass.map t.downcase = lowerClass.map t.downcase := by
    rw [hascii upperClass (by decide), hascii lowerClass (by decide)]
    decide
  rw [likeOneOf_iff, likeOneOf_iff, hsame]

/-- **The scripts** ask for 12 units, a letter and a digit. -/
theorem psAccepts_iff {ps : PowerShell} {t : CaseTables} (hps : ps.IgnoresCase t) (a b : List WCHAR) :
    ps.strongPassword a b = true ↔
      AlikeUpToCase t a b ∧ 12 ≤ a.length ∧ LikeOneOf t lowerClass a ∧ LikeOneOf t digitClass a := by
  simp only [PowerShell.strongPassword, Bool.and_eq_true, Bool.not_eq_true', decide_eq_true_eq, hps.ne, hps.upper,
    hps.lower, hps.digit, likeOneOf_upper_iff]
  tauto

theorem setAccepts_eq {ps : PowerShell} (a b : List Char) :
    setAccepts ps a b ↔ ps.strongPassword (utf16 a) (utf16 b) = true := by
  rw [setAccepts, PowerShell.readStrongNewPassword, firstAccepted_pair]

theorem installAccepts_eq {ps : PowerShell} (a b : List Char) :
    installAccepts ps a b ↔ ps.strongPassword (utf16 a) (utf16 b) = true := by
  rw [installAccepts, PowerShell.readStrongPassword, firstAccepted_pair]

/-- A character of the class is like one of it. -/
theorem likeOneOf_of_hasIn (t : CaseTables) {lo hi : Nat} {cls : List WCHAR} (hhi : hi < 128)
    (hcls : ∀ n, lo ≤ n → n ≤ hi → UInt16.ofNat n ∈ cls) {a : List Char} (h : HasIn lo hi a) :
    LikeOneOf t cls (utf16 a) := by
  obtain ⟨c, hc, hle, hge⟩ := h
  exact ⟨_, mem_utf16_of_ascii hc (by omega), _, hcls c.toNat hle hge, rfl⟩

theorem mem_class {lo n len : Nat} (hle : lo ≤ n) (hlt : n < lo + len) :
    UInt16.ofNat n ∈ (List.range' lo len).map UInt16.ofNat :=
  List.mem_map_of_mem (List.mem_range'_1.2 ⟨hle, hlt⟩)

/-! ## When the three agree with the policy -/

/-- Short of 12 characters, but not of 12 bytes. -/
def LongInBytes (a b : List Char) : Prop := a = b ∧ Mixed a ∧ a.length < 12 ∧ 12 ≤ (utf8 a).length

/-- Alike up to case, 12 units, a letter and a digit, but the two differ, or upper case, lower case or a
digit is missing, or the units are fewer than 12 characters. -/
def LooseMatch (t : CaseTables) (a b : List Char) : Prop :=
  AlikeUpToCase t (utf16 a) (utf16 b) ∧ 12 ≤ (utf16 a).length ∧ LikeOneOf t lowerClass (utf16 a) ∧
    LikeOneOf t digitClass (utf16 a) ∧
    (a ≠ b ∨ ¬ HasIn 65 90 a ∨ ¬ HasIn 97 122 a ∨ ¬ HasIn 48 57 a ∨ a.length < 12)

instance (a b : List Char) : Decidable (LongInBytes a b) := inferInstanceAs (Decidable (_ ∧ _))
instance (t : CaseTables) (a b : List Char) : Decidable (LooseMatch t a b) := inferInstanceAs (Decidable (_ ∧ _))

theorem goAccepts_strong_iff (a b : List Char) : (goAccepts a b ↔ StrongPair a b) ↔ ¬ LongInBytes a b := by
  have hlen := length_le_utf8 a
  rw [goAccepts_iff, StrongPair, LongInBytes]
  by_cases heq : a = b
  · subst heq
    by_cases hmixed : Mixed a
    · simp only [hmixed, true_and, and_true]
      omega
    · simp [hmixed]
  · simp [heq]

/-- A strong pair passes the scripts' tests. -/
theorem strong_accepted (t : CaseTables) {a b : List Char} (h : StrongPair a b) :
    AlikeUpToCase t (utf16 a) (utf16 b) ∧ 12 ≤ (utf16 a).length ∧ LikeOneOf t lowerClass (utf16 a) ∧
      LikeOneOf t digitClass (utf16 a) := by
  obtain ⟨rfl, hlen, -, hlower, hdigit⟩ := h
  refine ⟨rfl, Nat.le_trans hlen (length_le_utf16 a), ?_, ?_⟩
  · exact likeOneOf_of_hasIn t (by decide) (fun n hle hge => mem_class hle (by omega)) hlower
  · exact likeOneOf_of_hasIn t (by decide) (fun n hle hge => mem_class hle (by omega)) hdigit

theorem not_strong_iff (a b : List Char) : ¬ StrongPair a b ↔
    a ≠ b ∨ ¬ HasIn 65 90 a ∨ ¬ HasIn 97 122 a ∨ ¬ HasIn 48 57 a ∨ a.length < 12 := by
  rw [StrongPair, Mixed, ← Nat.not_le]
  tauto

theorem psAccepts_strong_iff {ps : PowerShell} {t : CaseTables} (hps : ps.IgnoresCase t) (a b : List Char) :
    (ps.strongPassword (utf16 a) (utf16 b) = true ↔ StrongPair a b) ↔ ¬ LooseMatch t a b := by
  have hstrong : StrongPair a b → _ := strong_accepted t
  rw [psAccepts_iff hps, LooseMatch, ← not_strong_iff]
  tauto

/-- **When the three take a pair exactly if the policy does**: it is not one of 12 bytes but fewer
characters, and not one that the scripts' tests pass without its being strong. -/
theorem one_policy_iff {ps : PowerShell} {t : CaseTables} (hps : ps.IgnoresCase t) (a b : List Char) :
    (goAccepts a b ↔ StrongPair a b) ∧ (setAccepts ps a b ↔ StrongPair a b) ∧
        (installAccepts ps a b ↔ StrongPair a b) ↔
      ¬ LongInBytes a b ∧ ¬ LooseMatch t a b := by
  rw [setAccepts_eq, installAccepts_eq, and_self, goAccepts_strong_iff, psAccepts_strong_iff hps]

namespace Worked

/-- The three patterns of the scripts. -/
def classOf (pattern : String) : List WCHAR :=
  if pattern = "[A-Z]" then upperClass else if pattern = "[a-z]" then lowerClass else digitClass

/-- A PowerShell that knows the case of ASCII. -/
def scripts : PowerShell where
  ne := fun a b => !decide (AlikeUpToCase .ascii a b)
  notmatch := fun s pattern => !decide (LikeOneOf .ascii (classOf pattern) s)
  utf8 := fun s => s.map UInt16.toUInt8
  toBytes := fun v => some v.data
  toInt := fun v => some (leNat v.data)

theorem scripts_ignoresCase : scripts.IgnoresCase .ascii := by
  constructor <;> simp [scripts, classOf]

end Worked

/-- 15 ASCII characters in mixed case with a digit, typed twice. -/
theorem one_policy_strong :
    (goAccepts "Correct-Horse-1".toList "Correct-Horse-1".toList ↔
        StrongPair "Correct-Horse-1".toList "Correct-Horse-1".toList) ∧
      (setAccepts Worked.scripts "Correct-Horse-1".toList "Correct-Horse-1".toList ↔
        StrongPair "Correct-Horse-1".toList "Correct-Horse-1".toList) ∧
      (installAccepts Worked.scripts "Correct-Horse-1".toList "Correct-Horse-1".toList ↔
        StrongPair "Correct-Horse-1".toList "Correct-Horse-1".toList) :=
  (one_policy_iff Worked.scripts_ignoresCase _ _).2 ⟨by decide +kernel, by decide +kernel⟩

/-- The client takes eleven characters with two umlauts; the scripts take fifteen without upper case,
and a confirmation that differs in case. None of the pairs is strong. -/
theorem policies_differ :
    (goAccepts "Pässwörter1".toList "Pässwörter1".toList ∧ ¬ StrongPair "Pässwörter1".toList "Pässwörter1".toList) ∧
    (setAccepts Worked.scripts "correct-horse-1".toList "correct-horse-1".toList ∧
      installAccepts Worked.scripts "correct-horse-1".toList "correct-horse-1".toList ∧
      ¬ StrongPair "correct-horse-1".toList "correct-horse-1".toList) ∧
    setAccepts Worked.scripts "Correct-Horse-1".toList "correct-horse-1".toList ∧
    installAccepts Worked.scripts "Correct-Horse-1".toList "correct-horse-1".toList ∧
    ¬ StrongPair "Correct-Horse-1".toList "correct-horse-1".toList := by
  unfold goAccepts setAccepts installAccepts
  decide +kernel

end Lockguard
