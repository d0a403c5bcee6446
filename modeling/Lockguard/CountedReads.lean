import Lockguard.Lib.Loops
import Lockguard.MiniFilter
import Lockguard.ProcNotify
/-!
# What the name tests read (`minifilter.c:26-63`, `procnotify.c:45-87`)

| here | there |
| --- | --- |
| `UnicodeString.inside`   | the window of `LgPathMatches`, a fault where it leaves the bytes of the name |
| `UnicodeString.charAt`   | `path->Buffer[i]`, a fault at and past `Length` |
| `narrow`                 | a cast to `USHORT`, a fault where it loses something |
| `lgPathMatchesChecked`   | `LgPathMatches` |
| `imageBlockedChecked`    | `LgBasename`, the length and `LgIsBlocked`, as `LgProcessNotifyEx` calls them |

A counted string says nothing of what its buffer holds past the count, and need not end in a NUL
there. The two tests are run again with everything they read and narrow looked at on the way, loop by
loop; they fault on no string, and their answers are those of `lgPathMatches` and `imageBlocked`.
-/
namespace Lockguard

open Loops

def narrow (n : Nat) : Option UInt16 := if n < 65536 then some (UInt16.ofNat n) else none

theorem narrow_eq {n : Nat} (h : n < 65536) : narrow n = some (UInt16.ofNat n) := if_pos h

def UnicodeString.inside (s : UnicodeString) (off len : UInt16) : Option UnicodeString :=
  if 2 * off.toNat + len.toNat ≤ s.length.toNat then s.window off len else none

def UnicodeString.charAt (s : UnicodeString) (i : Nat) : Option WCHAR :=
  if 2 * i + 2 ≤ s.length.toNat then s.buffer[i]? else none

/-- Read with the fault, a counted string is its characters. -/
theorem charAt_eq (s : UnicodeString) (i : Nat) : s.charAt i = s.chars[i]? := by
  rw [UnicodeString.charAt, UnicodeString.chars, List.getElem?_take]
  have hcount : 2 * i + 2 ≤ s.length.toNat ↔ i < s.length.toNat / 2 := by omega
  simp only [hcount]

/-! ## `LgPathMatches` -/

/-- One round of the inner loop: `off` stays a `USHORT`. -/
def scanRound (t : CaseTables) (name needle : UnicodeString) (lastStart off : UInt16) : Option (UInt16 ⊕ Bool) :=
  if off ≤ lastStart then do
    let window ← name.inside off needle.length
    if rtlEqualUnicodeString t window needle then return .inr true
    let next ← narrow (off.toNat + 1)
    return .inl next
  else some (.inr false)

def nameContainsChecked (t : CaseTables) (name needle : UnicodeString) : Option Bool :=
  if name.length < needle.length then some false
  else do
    let lastStart ← narrow ((name.length.toNat - needle.length.toNat) / 2)
    iterate (scanRound t name needle lastStart) 65536 0

def lgPathMatchesChecked (t : CaseTables) (q : FileNameQuery) : Option Bool :=
  if !ntSuccess q.status then some false
  else match q.name with
  | none => some false
  | some name => gProtectedSuffixes.anyM fun suffix => nameContainsChecked t name (rtlInitUnicodeString suffix)

theorem inside_eq {name : UnicodeString} {off len : UInt16} (h : 2 * off.toNat + len.toNat ≤ name.length.toNat) :
    name.inside off len = name.window off len := if_pos h

section
variable {t : CaseTables} {name needle : UnicodeString} {lastStart off : UInt16}

/-- A window that starts no later than the last start lies inside the name, and the offset after it is no
less than one more. -/
theorem scanRound_eq (hlast : 2 * lastStart.toNat + needle.length.toNat ≤ name.length.toNat)
    (hroom : lastStart.toNat < 65535) (hle : off ≤ lastStart) :
    scanRound t name needle lastStart off =
      if (name.window off needle.length).any fun window => rtlEqualUnicodeString t window needle then some (.inr true)
      else some (.inl (off + 1)) := by
  have hoff := UInt16.le_iff_toNat_le.1 hle
  have hfits := name.fits
  have hnext : UInt16.ofNat (off.toNat + 1) = off + 1 := by simp
  rw [scanRound, if_pos hle, inside_eq (by omega), UnicodeString.window_eq (by omega), narrow_eq (by omega), hnext]
  simp only [Option.any_some, Option.bind_eq_bind, Option.bind_some]
  split <;> rfl

end

/-- **The scan reads inside the name.** It ends, no window it compares leaves the bytes of the name, and its
offset does not wrap. -/
theorem nameContainsChecked_eq (t : CaseTables) (name needle : UnicodeString) :
    nameContainsChecked t name needle = some (nameContains t name needle) := by
  have hname := name.length.toNat_lt
  by_cases hlong : needle.length.toNat ≤ name.length.toNat
  · have hnot : ¬ name.length < needle.length := by
      rw [UInt16.lt_iff_toNat_lt]
      omega
    have hstart := lastStart_toNat hlong
    have hlast : UInt16.ofNat ((name.length.toNat - needle.length.toNat) / 2) = (name.length - needle.length) / 2 := by
      rw [← hstart, UInt16.ofNat_toNat]
    rw [nameContainsChecked, if_neg hnot, narrow_eq (by omega), hlast]
    simp only [Option.bind_eq_bind, Option.bind_some]
    -- nothing stands at the offsets before the one the scan has come to
    refine iterate_eq (I := fun off => off.toNat ≤ ((name.length - needle.length) / 2).toNat + 1 ∧
        ∀ k : UInt16, k < off →
          (name.window k needle.length).any (fun window => rtlEqualUnicodeString t window needle) = false)
      (m := fun off => ((name.length - needle.length) / 2).toNat + 1 - off.toNat) ?_ 65536 ⟨by simp, by simp⟩
      (by simp only [UInt16.toNat_zero]; omega)
    rintro off ⟨hoff, hbefore⟩
    by_cases hle : off ≤ (name.length - needle.length) / 2
    · have hle' := UInt16.le_iff_toNat_le.1 hle
      rw [scanRound_eq (by omega) (by omega) hle]
      split
      · rename_i hwin
        right
        rw [(nameContains_iff_window hlong).2 ⟨off, hle, hwin⟩]
      · rename_i hwin
        left
        have hnext := toNat_next off (by omega)
        refine ⟨off + 1, rfl, ⟨by omega, ?_⟩, by omega⟩
        intro k hk
        rw [UInt16.lt_iff_toNat_lt, hnext] at hk
        by_cases hsame : k = off
        · rw [hsame]
          exact Bool.eq_false_iff.2 hwin
        · have hne := mt UInt16.toNat_inj.1 hsame
          exact hbefore k (UInt16.lt_iff_toNat_lt.2 (by omega))
    · right
      have hnone : nameContains t name needle = false := by
        rw [← Bool.not_eq_true, nameContains_iff_window hlong]
        rintro ⟨k, hk, hwin⟩
        rw [UInt16.le_iff_toNat_le] at hle hk
        rw [hbefore k (UInt16.lt_iff_toNat_lt.2 (by omega))] at hwin
        cases hwin
      rw [scanRound, if_neg hle, hnone]
  · have hshort : name.length < needle.length := by
      rw [UInt16.lt_iff_toNat_lt]
      omega
    rw [nameContainsChecked, if_pos hshort, nameContains, if_pos hshort]

theorem lgPathMatchesChecked_eq (t : CaseTables) (q : FileNameQuery) :
    lgPathMatchesChecked t q = some (lgPathMatches t q) := by
  obtain ⟨status, name⟩ := q
  unfold lgPathMatchesChecked lgPathMatches
  split
  · rfl
  · cases name with
    | none => rfl
    | some name => exact anyM_eq fun suffix _ => nameContainsChecked_eq t name (rtlInitUnicodeString suffix)

/-- **`LgPathMatches`**: a protected string stands somewhere in the name, without regard to case, and no step
on the way to the answer leaves the name or wraps. -/
theorem pathMatches_exact (t : CaseTables) {status : NTSTATUS} (h : ntSuccess status = true) (name : UnicodeString) :
    (lgPathMatches t ⟨status, some name⟩ = true ↔
      ∃ s ∈ gProtectedSuffixes, s.map t.upcase <:+: name.chars.map t.upcase) ∧
    lgPathMatchesChecked t ⟨status, some name⟩ = some (lgPathMatches t ⟨status, some name⟩) := by
  have hsame : lgPathMatches t ⟨status, some name⟩ = lgPathMatches t ⟨statusSuccess, some name⟩ := by
    simp only [lgPathMatches, h, ntSuccess_success]
  refine ⟨?_, lgPathMatchesChecked_eq t _⟩
  rw [hsame]
  exact lgPathMatches_iff

namespace Worked

def driverImage : UnicodeString :=
  rtlInitUnicodeString (wide "\\Device\\HarddiskVolume3\\Windows\\System32\\DRIVERS\\LOCKGUARD.SYS")

end Worked

theorem pathMatches_exact_driverImage :
    lgPathMatchesChecked .ascii ⟨statusSuccess, some Worked.driverImage⟩ = some true := by
  obtain ⟨hiff, hchecked⟩ := pathMatches_exact .ascii ntSuccess_success Worked.driverImage
  rw [hchecked, hiff.2]
  refine ⟨wide "\\Windows\\System32\\drivers\\lockguard.sys", by simp [gProtectedSuffixes], ?_⟩
  exact ⟨wide "\\DEVICE\\HARDDISKVOLUME3", [], by decide +kernel⟩

/-! ## `LgBasename` and `LgIsBlocked` -/

/-- `if (path->Buffer[i - 1] is a separator) break; --i;` -/
def basenameRound (path : UnicodeString) (i : Nat) : Option (Nat ⊕ Nat) :=
  if i > 0 then do
    let c ← path.charAt (i - 1)
    if c == backslash || c == slash then return .inr i
    return .inl (i - 1)
  else some (.inr i)

/-- `LgBasename` of a path that is not empty. -/
def lgBasenameChecked (path : UnicodeString) : Option Nat := do
  let chars ← narrow (path.length.toNat / 2)
  iterate (basenameRound path) 65536 chars.toNat

/-- One round of `_wcsnicmp(base, name, wcslen(name))`: the first difference ends it, and so does a NUL. -/
def wcsnicmpRound (t : CaseTables) (path : UnicodeString) (base : Nat) (name : List WCHAR) (i : Nat) :
    Option (Nat ⊕ Bool) :=
  if i < name.length then do
    let c ← path.charAt (base + i)
    if t.downcase c ≠ t.downcase (name.getD i 0) then return .inr false
    if t.downcase c = 0 then return .inr true
    return .inl (i + 1)
  else some (.inr true)

def wcsnicmpChecked (t : CaseTables) (path : UnicodeString) (base : Nat) (name : List WCHAR) : Option Bool :=
  iterate (wcsnicmpRound t path base name) (name.length + 1) 0

def lgIsBlockedChecked (t : CaseTables) (path : UnicodeString) (base : Nat) (lenChars : UInt16) : Option Bool :=
  gBlocked.anyM fun name =>
    if lenChars.toNat ≠ name.length then some false else wcsnicmpChecked t path base name

/-- `(USHORT)(Length / sizeof(WCHAR) - (base - Buffer))`; a base behind the end would make it negative. -/
def baseCharsChecked (path : UnicodeString) (base : Nat) : Option UInt16 :=
  if base ≤ path.length.toNat / 2 then narrow (path.length.toNat / 2 - base) else none

def imageBlockedChecked (t : CaseTables) (path : UnicodeString) : Option Bool :=
  if path.length = 0 then some false
  else do
    let base ← lgBasenameChecked path
    let baseChars ← baseCharsChecked path base
    lgIsBlockedChecked t path base baseChars

/-- A round inside the path reads the character before the position. -/
theorem basenameRound_succ {path : UnicodeString} {i : Nat} (h : i < path.length.toNat / 2)
    (hlt : i < path.buffer.length) : basenameRound path (i + 1) =
      some (if path.buffer[i] == backslash || path.buffer[i] == slash then .inr (i + 1) else .inl i) := by
  have hread : path.charAt i = some path.buffer[i] := by
    rw [charAt_eq, UnicodeString.chars, List.getElem?_take_of_lt h, List.getElem?_eq_getElem hlt]
  rw [basenameRound, if_pos (Nat.succ_pos i), Nat.add_sub_cancel, hread]
  simp only [Option.bind_eq_bind, Option.bind_some]
  split <;> rfl

theorem lgBasenameChecked_eq {path : UnicodeString} (h : path.length ≠ 0) :
    lgBasenameChecked path = lgBasename path := by
  have hbytes := path.length.toNat_lt
  have hfits := path.fits
  have hchars : (UInt16.ofNat (path.length.toNat / 2)).toNat = path.length.toNat / 2 :=
    UInt16.toNat_ofNat_of_lt' (by rw [UInt16.size]; omega)
  rw [lgBasenameChecked, narrow_eq (by omega), lgBasename, if_neg h]
  simp only [Option.bind_eq_bind, Option.bind_some, hchars]
  -- what is left of the scan gives the same from every position the loop stands at
  refine iterate_eq (I := fun i => i ≤ path.length.toNat / 2 ∧
      afterLast (fun c => c == backslash || c == slash) path.buffer i =
        afterLast (fun c => c == backslash || c == slash) path.buffer (path.length.toNat / 2))
    (m := id) ?_ 65536 ⟨Nat.le_refl _, rfl⟩ (by simp only [id]; omega)
  rintro i ⟨hi, hsame⟩
  rw [← hsame]
  cases i with
  | zero => exact Or.inr rfl
  | succ i =>
    have hlt : i < path.buffer.length := by omega
    rw [basenameRound_succ hi hlt, afterLast_succ hlt]
    split
    · exact Or.inr rfl
    · exact Or.inl ⟨i, rfl, ⟨by omega, rfl⟩, Nat.lt_succ_self i⟩

theorem gBlocked_chars : ∀ name ∈ gBlocked, (name.all fun c => c != 0 && decide (c < 128)) = true := by decide

theorem downcase_ne_zero {t : CaseTables} {c : WCHAR} (hc : c < 128) (hne : c ≠ 0) : t.downcase c ≠ 0 := by
  rw [t.downcase_ascii c hc, asciiDowncase]
  split
  · rename_i hupper
    intro hzero
    have hsum : (c + 32).toNat = 0 := by rw [hzero]; rfl
    rw [UInt16.toNat_add] at hsum
    rw [UInt16.le_iff_toNat_le, UInt16.le_iff_toNat_le] at hupper
    have h65 : (65 : UInt16).toNat = 65 := rfl
    have h90 : (90 : UInt16).toNat = 90 := rfl
    have h32 : (32 : UInt16).toNat = 32 := rfl
    omega
  · exact hne

/-- The comparison looks at the characters one by one. -/
theorem wcsnicmpEq_iff {t : CaseTables} {a b : List WCHAR} (h : b.length ≤ a.length) :
    wcsnicmpEq t a b b.length = true ↔ ∀ i < b.length, t.downcase (a.getD i 0) = t.downcase (b.getD i 0) := by
  rw [wcsnicmpEq, beq_iff_eq, List.take_length]
  constructor
  · intro heq i hi
    have hia : i < a.length := by omega
    have hat := congrArg (fun l => l[i]?) heq
    simpa [hi, hia] using hat
  · intro hall
    apply List.ext_getElem
    · simpa using h
    · intro i hia hib
      rw [List.length_map] at hib
      have hia' : i < a.length := by omega
      simpa [hib, hia'] using hall i hib

theorem charAt_drop {path : UnicodeString} {base i : Nat} (h : base + i < path.length.toNat / 2) :
    path.charAt (base + i) = some ((path.buffer.drop base).getD i 0) := by
  have hfits := path.fits
  have hlt : base + i < path.buffer.length := by omega
  rw [charAt_eq, UnicodeString.chars, List.getElem?_take_of_lt h, List.getD_eq_getElem?_getD, List.getElem?_drop,
    List.getElem?_eq_getElem hlt, Option.getD_some]

section
variable {t : CaseTables} {path : UnicodeString} {base : Nat} {name : List WCHAR}

/-- A round inside the path goes on where the characters are alike: a name holds no NUL that could end it. -/
theorem wcsnicmpRound_eq (hname : (name.all fun c => c != 0 && decide (c < 128)) = true)
    (hinside : base + name.length ≤ path.length.toNat / 2) {i : Nat} (hi : i < name.length) :
    wcsnicmpRound t path base name i =
      some (if t.downcase ((path.buffer.drop base).getD i 0) = t.downcase (name.getD i 0) then .inl (i + 1)
        else .inr false) := by
  have hmem : name.getD i 0 ∈ name := by simp [hi]
  have hc := List.all_eq_true.1 hname _ hmem
  simp only [Bool.and_eq_true, bne_iff_ne, decide_eq_true_eq] at hc
  have hzero : t.downcase (name.getD i 0) ≠ 0 := downcase_ne_zero hc.2 hc.1
  rw [wcsnicmpRound, if_pos hi, charAt_drop (by omega)]
  simp only [Option.bind_eq_bind, Option.bind_some]
  by_cases hsame : t.downcase ((path.buffer.drop base).getD i 0) = t.downcase (name.getD i 0)
  · rw [if_neg (not_not_intro hsame), hsame, if_neg hzero, if_pos rfl]
    rfl
  · rw [if_pos hsame, if_neg hsame]
    rfl

/-- A comparison that stays inside the path is the one of `wcsnicmpEq`. -/
theorem wcsnicmpChecked_eq (hname : (name.all fun c => c != 0 && decide (c < 128)) = true)
    (hinside : base + name.length ≤ path.length.toNat / 2) :
    wcsnicmpChecked t path base name = some (wcsnicmpEq t (path.buffer.drop base) name name.length) := by
  have hfits := path.fits
  have hiff : wcsnicmpEq t (path.buffer.drop base) name name.length = true ↔
      ∀ i < name.length, t.downcase ((path.buffer.drop base).getD i 0) = t.downcase (name.getD i 0) := by
    refine wcsnicmpEq_iff ?_
    rw [List.length_drop]
    omega
  -- the characters before the one the loop has come to are alike
  refine iterate_eq (I := fun i => i ≤ name.length ∧
      ∀ k < i, t.downcase ((path.buffer.drop base).getD k 0) = t.downcase (name.getD k 0))
    (m := fun i => name.length - i) ?_ (name.length + 1) ⟨Nat.zero_le _, by omega⟩ (by omega)
  rintro i ⟨hi, hbefore⟩
  by_cases hlt : i < name.length
  · rw [wcsnicmpRound_eq hname hinside hlt]
    split
    · rename_i hsame
      left
      refine ⟨i + 1, rfl, ⟨hlt, ?_⟩, by omega⟩
      intro k hk
      by_cases hki : k = i
      · rw [hki, hsame]
      · exact hbefore k (by omega)
    · rename_i hdiffer
      right
      have hnot : wcsnicmpEq t (path.buffer.drop base) name name.length = false := by
        rw [← Bool.not_eq_true, hiff]
        exact fun hall => hdiffer (hall i hlt)
      rw [hnot]
  · right
    rw [wcsnicmpRound, if_neg hlt, hiff.2 fun k hk => hbefore k (by omega)]

end

/-- **No read leaves the path.** `LgBasename` and `LgIsBlocked` look at characters inside the counted length
only, and the length handed on is the exact one. -/
theorem imageBlockedChecked_eq (t : CaseTables) (path : UnicodeString) :
    imageBlockedChecked t path = some (imageBlocked t path) := by
  have hbytes := path.length.toNat_lt
  have hlen := length_chars path
  by_cases hzero : path.length = 0
  · rw [imageBlockedChecked, if_pos hzero, imageBlocked, lgBasename, if_pos hzero]
  have hbase := length_baseName_le path.chars
  rw [imageBlockedChecked, if_neg hzero, lgBasenameChecked_eq hzero, imageBlocked, lgBasename_eq hzero]
  generalize hb : path.chars.length - (baseName path.chars).length = base
  have hchars : (UInt16.ofNat (path.length.toNat / 2 - base)).toNat = path.length.toNat / 2 - base :=
    UInt16.toNat_ofNat_of_lt' (by rw [UInt16.size]; omega)
  have hexact : baseCharsChecked path base = some (UInt16.ofNat (path.length.toNat / 2 - base)) := by
    rw [baseCharsChecked, if_pos (by omega), narrow_eq (by omega)]
  simp only [Option.bind_eq_bind, Option.bind_some, hexact, lgIsBlockedChecked, lgIsBlocked]
  refine anyM_eq fun name hname => ?_
  rw [hchars]
  by_cases hsame : path.length.toNat / 2 - base = name.length
  · rw [if_neg (not_not_intro hsame), wcsnicmpChecked_eq (gBlocked_chars name hname) (by omega)]
    simp [hsame]
  · rw [if_pos hsame]
    simp [hsame]

/-- **`LgProcessNotifyEx`** denies a launch exactly when the window is closed and what stands after the last
separator is a blocked name, and otherwise leaves its status alone; it reads inside the path. -/
theorem processNotify_exact (t : CaseTables) (path : UnicodeString) (now : SysTime) (d : Driver) :
    (DeniesLaunch t path now d ↔ ¬ d.window.OpenAt now ∧
      ∃ name ∈ gBlocked, (baseName path.chars).map t.downcase = name.map t.downcase) ∧
    (DeniesLaunch t path now d ∨
      ∀ status, (lgProcessNotifyEx t (some ⟨some path, status⟩) now d).value = some status) ∧
    imageBlockedChecked t path = some (imageBlocked t path) :=
  ⟨deniesLaunch_iff, deniesLaunch_or t path now d, imageBlockedChecked_eq t path⟩

end Lockguard
