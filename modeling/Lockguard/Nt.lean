import Mathlib.Algebra.Group.Int.Defs
import Mathlib.Algebra.Group.Nat.Defs
import Mathlib.Data.List.Basic
/-!
# The NT vocabulary the driver is written in

| here | there |
| --- | --- |
| `NTSTATUS`, `ntSuccess`     | `NTSTATUS` and the `NT_SUCCESS` test, values of `ntstatus.h` |
| `SysTime`                   | a `KeQuerySystemTime` reading (`LARGE_INTEGER`, 100 ns ticks since 1601) |
| `long64`                    | the `LONG64` a 64-bit sum or difference is stored in |
| `Bytes32`                   | `UCHAR x[32]`: nonces, derived keys, MACs, verifiers |
| `UnicodeString`             | `UNICODE_STRING`: a counted string, its `Length` in bytes |
| `CaseTables`                | the kernel's case tables, outside the repository |
-/
namespace Lockguard

/-! ## Statuses -/

abbrev NTSTATUS := BitVec 32

/-- `NT_SUCCESS`: nonnegative as a signed 32-bit value. -/
def ntSuccess (s : NTSTATUS) : Bool := decide (0 ≤ s.toInt)

def statusSuccess : NTSTATUS := 0x00000000#32
def statusTimeout : NTSTATUS := 0x00000102#32
def statusBufferOverflow : NTSTATUS := 0x80000005#32
def statusInvalidParameter : NTSTATUS := 0xC000000D#32
def statusInvalidDeviceRequest : NTSTATUS := 0xC0000010#32
def statusAccessDenied : NTSTATUS := 0xC0000022#32
def statusBufferTooSmall : NTSTATUS := 0xC0000023#32
def statusObjectTypeMismatch : NTSTATUS := 0xC0000024#32
def statusObjectNameNotFound : NTSTATUS := 0xC0000034#32
def statusNotFound : NTSTATUS := 0xC0000225#32
def statusFltDoNotDetach : NTSTATUS := 0xC01C0010#32

@[simp] theorem ntSuccess_success : ntSuccess statusSuccess = true := by decide
@[simp] theorem ntSuccess_timeout : ntSuccess statusTimeout = true := by decide
@[simp] theorem ntSuccess_accessDenied : ntSuccess statusAccessDenied = false := by decide
@[simp] theorem ntSuccess_bufferTooSmall : ntSuccess statusBufferTooSmall = false := by decide

/-- `if (!NT_SUCCESS(status)) return status;` -/
def checked (s : NTSTATUS) : Except NTSTATUS Unit := if ntSuccess s then .ok () else .error s

@[simp] theorem checked_of_success {s : NTSTATUS} (h : ntSuccess s = true) : checked s = .ok () := by
  simp [checked, h]

/-! ## Clock readings -/

/-- A system time: a nonnegative `LONG64`. -/
structure SysTime where
  quadPart : Int
  nonneg : 0 ≤ quadPart
  lt : quadPart < 2 ^ 63
deriving DecidableEq

def SysTime.zero : SysTime := ⟨0, by decide, by decide⟩

/-- Two's complement: what a `LONG64` holds after a sum or difference. -/
def long64 (x : Int) : Int := (x + 2 ^ 63) % 2 ^ 64 - 2 ^ 63

theorem long64_eq {x : Int} (h : -2 ^ 63 ≤ x) (h' : x < 2 ^ 63) : long64 x = x := by
  unfold long64; omega

theorem long64_le {x : Int} (h : -2 ^ 63 ≤ x) : long64 x ≤ x := by
  unfold long64; omega

/-- The difference of two readings never overflows. -/
theorem long64_sub (a b : SysTime) : long64 (a.quadPart - b.quadPart) = a.quadPart - b.quadPart := by
  have := a.nonneg; have := a.lt; have := b.nonneg; have := b.lt
  exact long64_eq (by omega) (by omega)

/-- `(LONG64)SECONDS * 10000000LL`. -/
def ticks (seconds : Int) : Int := seconds * 10000000

/-- Some seconds after a reading: exact below the 64-bit limit, and never later than that. -/
theorem long64_later {now : SysTime} {s : Int} (hs : 0 ≤ s) (h : now.quadPart + ticks s < 2 ^ 63) :
    long64 (now.quadPart + ticks s) = now.quadPart + ticks s := by
  have := now.nonneg
  simp only [ticks] at *
  exact long64_eq (by omega) h

theorem long64_later_le (now : SysTime) {s : Int} (hs : 0 ≤ s) :
    long64 (now.quadPart + ticks s) ≤ now.quadPart + ticks s := by
  have := now.nonneg
  simp only [ticks]
  exact long64_le (by omega)

/-! ## Fixed-size byte arrays -/

abbrev Bytes := List UInt8
abbrev Bytes32 := Vector UInt8 32

def zero32 : Bytes32 := Vector.replicate 32 0

/-- `n` bytes of a buffer from an offset on (`0` past its end). -/
def bytesAt (n : Nat) (buf : Bytes) (off : Nat) : Vector UInt8 n := Vector.ofFn fun i => buf.getD (off + i) 0

/-- `RtlCopyMemory(buf + off, bs, sizeof bs)`: the bytes of `bs` overwrite those from `off` on. -/
def overlay (buf : Bytes) (off : Nat) (bs : Bytes) : Bytes :=
  buf.mapIdx fun i b => if off ≤ i then bs.getD (i - off) b else b

@[simp] theorem length_overlay (buf : Bytes) (off : Nat) (bs : Bytes) :
    (overlay buf off bs).length = buf.length := by
  simp [overlay]

/-- The loop of `LgConstantTimeEqual` (`lockguard.h:132-139`). -/
def diffOf {n : Nat} (a b : Vector UInt8 n) : UInt8 :=
  (a.toList.zip b.toList).foldl (fun diff p => diff ||| (p.1 ^^^ p.2)) 0

def lgConstantTimeEqual {n : Nat} (a b : Vector UInt8 n) : Bool := diffOf a b == 0

theorem or_xor_eq_zero (d x y : UInt8) : d ||| (x ^^^ y) = 0 ↔ d = 0 ∧ x = y := by
  rw [UInt8.or_eq_zero_iff, UInt8.xor_eq_zero_iff]

theorem foldl_diff_eq_zero : ∀ (l m : Bytes) (d : UInt8), l.length = m.length →
    ((l.zip m).foldl (fun diff p => diff ||| (p.1 ^^^ p.2)) d = 0 ↔ d = 0 ∧ l = m)
  | [], [], d, _ => by simp
  | x :: l, y :: m, d, h => by
    rw [List.zip_cons_cons, List.foldl_cons, foldl_diff_eq_zero l m _ (by simpa using h),
      or_xor_eq_zero]
    simp [and_assoc]
  | [], _ :: _, _, h => by simp at h
  | _ :: _, [], _, h => by simp at h

/-- **`LgConstantTimeEqual` is equality.** -/
@[simp] theorem lgConstantTimeEqual_iff {n : Nat} {a b : Vector UInt8 n} :
    lgConstantTimeEqual a b = true ↔ a = b := by
  simp only [lgConstantTimeEqual, diffOf, beq_iff_eq]
  rw [foldl_diff_eq_zero _ _ _ (by simp)]
  simp [Vector.toList_inj]

theorem lgConstantTimeEqual_ne {n : Nat} {a b : Vector UInt8 n} (h : a ≠ b) :
    lgConstantTimeEqual a b = false := by
  rw [← Bool.not_eq_true, lgConstantTimeEqual_iff]; exact h

/-! ## Counted strings -/

abbrev WCHAR := UInt16

/-- A wide string literal, without its terminator. -/
def wide (s : String) : List WCHAR := s.toList.map fun c => c.toNat.toUInt16

def backslash : WCHAR := 92
def slash : WCHAR := 47

def asciiUpcase (c : WCHAR) : WCHAR := if 97 ≤ c ∧ c ≤ 122 then c - 32 else c
def asciiDowncase (c : WCHAR) : WCHAR := if 65 ≤ c ∧ c ≤ 90 then c + 32 else c

/-- The tables behind `RtlUpcaseUnicodeChar` and `_wcsnicmp`. They belong to the kernel; all the
model knows of them is what they do to ASCII. -/
structure CaseTables where
  upcase : WCHAR → WCHAR
  downcase : WCHAR → WCHAR
  upcase_ascii : ∀ c, c < 128 → upcase c = asciiUpcase c
  downcase_ascii : ∀ c, c < 128 → downcase c = asciiDowncase c

/-- Tables that know ASCII only. -/
def CaseTables.ascii : CaseTables := ⟨asciiUpcase, asciiDowncase, fun _ _ => rfl, fun _ _ => rfl⟩

/-- All case tables do the same to ASCII. -/
theorem map_upcase_ascii (t : CaseTables) {s : List WCHAR} (h : (s.all fun c => c < 128) = true) :
    s.map t.upcase = s.map asciiUpcase :=
  List.map_congr_left fun c hc => t.upcase_ascii c (of_decide_eq_true (List.all_eq_true.1 h c hc))

theorem map_downcase_ascii (t : CaseTables) {s : List WCHAR} (h : (s.all fun c => c < 128) = true) :
    s.map t.downcase = s.map asciiDowncase :=
  List.map_congr_left fun c hc => t.downcase_ascii c (of_decide_eq_true (List.all_eq_true.1 h c hc))

/-- `UNICODE_STRING`: `length` counts bytes and lies inside the buffer. -/
structure UnicodeString where
  buffer : List WCHAR
  length : UInt16
  fits : length.toNat ≤ 2 * buffer.length

/-- The characters counted. -/
def UnicodeString.chars (s : UnicodeString) : List WCHAR := s.buffer.take (s.length.toNat / 2)

/-- The counted string of `len` bytes at `&s->Buffer[off]`, if the buffer reaches that far. -/
def UnicodeString.window (s : UnicodeString) (off len : UInt16) : Option UnicodeString :=
  if h : len.toNat ≤ 2 * (s.buffer.length - off.toNat) then
    some ⟨s.buffer.drop off.toNat, len, by simpa using h⟩
  else none

theorem UnicodeString.window_eq {s : UnicodeString} {off len : UInt16}
    (h : len.toNat ≤ 2 * (s.buffer.length - off.toNat)) :
    s.window off len = some ⟨s.buffer.drop off.toNat, len, by simpa using h⟩ := by
  rw [UnicodeString.window, dif_pos h]

/-- `RtlInitUnicodeString`, which counts at most 65532 bytes. -/
def rtlInitUnicodeString (s : List WCHAR) : UnicodeString where
  buffer := s
  length := UInt16.ofNat (min (2 * s.length) 65532)
  fits := by
    rw [UInt16.toNat_ofNat_of_lt' (Nat.lt_of_le_of_lt (Nat.min_le_right _ _) (by decide))]
    exact Nat.min_le_left _ _

theorem rtlInit_length {s : List WCHAR} (h : 2 * s.length ≤ 65532) :
    (rtlInitUnicodeString s).length.toNat = 2 * s.length := by
  simp only [rtlInitUnicodeString, Nat.min_eq_left h]
  exact UInt16.toNat_ofNat_of_lt' (Nat.lt_of_le_of_lt h (by decide))

theorem rtlInit_chars {s : List WCHAR} (h : 2 * s.length ≤ 65532) :
    (rtlInitUnicodeString s).chars = s := by
  rw [UnicodeString.chars, rtlInit_length h, Nat.mul_div_cancel_left _ (by decide)]
  exact List.take_length

theorem length_chars (s : UnicodeString) : s.chars.length = s.length.toNat / 2 := by
  have := s.fits
  simp only [UnicodeString.chars, List.length_take]; omega

/-- `RtlEqualUnicodeString(a, b, TRUE)`. -/
def rtlEqualUnicodeString (t : CaseTables) (a b : UnicodeString) : Bool :=
  a.length == b.length && a.chars.map t.upcase == b.chars.map t.upcase

theorem rtlEqual_iff {t : CaseTables} {a b : UnicodeString} (h : a.length = b.length) :
    rtlEqualUnicodeString t a b = true ↔ a.chars.map t.upcase = b.chars.map t.upcase := by
  simp [rtlEqualUnicodeString, h]

/-! ## Paths -/

/-- A component of a path. -/
abbrev Name := List WCHAR

/-- `\a\b\c`. -/
def pathText (p : List Name) : List WCHAR := p.flatMap fun c => backslash :: c

def foldName (t : CaseTables) (n : Name) : Name := n.map t.upcase

def foldPath (t : CaseTables) (p : List Name) : List Name := p.map (foldName t)

theorem pathText_append (p q : List Name) : pathText (p ++ q) = pathText p ++ pathText q := by
  simp [pathText]

/-- Paths alike up to case are spelled alike up to case. -/
theorem map_pathText_congr {t : CaseTables} {p q : List Name} (h : foldPath t p = foldPath t q) :
    (pathText p).map t.upcase = (pathText q).map t.upcase := by
  have hmap : ∀ r : List Name, (pathText r).map t.upcase =
      (foldPath t r).flatMap fun c => t.upcase backslash :: c := by
    intro r
    simp only [pathText, foldPath, List.map_flatMap, List.flatMap_map, List.map_cons, foldName]
  rw [hmap, hmap, h]

def asciiPath (p : List Name) : Bool := p.all fun n => n.all fun c => decide (c < 128)

/-- All case tables fold an ASCII path alike. -/
theorem foldPath_ascii {p : List Name} (hp : asciiPath p = true) (t : CaseTables) :
    foldPath t p = foldPath .ascii p := by
  refine List.map_congr_left fun n hn => ?_
  exact map_upcase_ascii t (List.all_eq_true.1 hp n hn)

/-- ASCII paths that differ other than by case are different under all case tables. -/
theorem foldPath_ne {p q : List Name}
    (h : (asciiPath p && asciiPath q && foldPath .ascii p != foldPath .ascii q) = true) (t : CaseTables) :
    foldPath t p ≠ foldPath t q := by
  simp only [Bool.and_eq_true, bne_iff_ne] at h
  rw [foldPath_ascii h.1.1 t, foldPath_ascii h.1.2 t]
  exact h.2

end Lockguard
