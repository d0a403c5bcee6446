import Lockguard.Globals
/-!
# The minifilter (`minifilter.c`)

The pre-operation callbacks decide by the name `FltGetFileNameInformation` gives for the file
(`FileNameQuery`) and by the part of `Iopb->Parameters` they read. Access rights, options and
information classes carry the values of the WDK headers.
-/
namespace Lockguard

def gProtectedSuffixes : List (List WCHAR) :=
  [wide "\\ProgramData\\Lockguard\\",
   wide "\\Windows\\System32\\drivers\\lockguard.sys",
   wide "\\Windows\\Lockguard-Restore\\",
   wide "\\EFI\\Microsoft\\Boot\\BCD"]

/-- What `FltGetFileNameInformation` returns: a status and the name information's `Name`. -/
structure FileNameQuery where
  status : NTSTATUS
  name : Option UnicodeString

/-- The inner loop of `LgPathMatches` (`:48-56`), with a 16-bit offset; `none` if it has not
ended within the rounds allowed. -/
def scanWindows (t : CaseTables) (name needle : UnicodeString) (lastStart : UInt16) :
    Nat → UInt16 → Option Bool
  | 0, _ => none
  | rounds + 1, off =>
    if off ≤ lastStart then
      if (name.window off needle.length).any fun window => rtlEqualUnicodeString t window needle then
        some true
      else scanWindows t name needle lastStart rounds (off + 1)
    else some false

/-- One round of the outer loop: the offset has 65536 values, so the scan is given as many rounds. -/
def nameContains (t : CaseTables) (name needle : UnicodeString) : Bool :=
  if name.length < needle.length then false
  else
    let lastStart := (name.length - needle.length) / 2
    scanWindows t name needle lastStart 65536 0 == some true

/-- `LgPathMatches` (`:26-63`). -/
def lgPathMatches (t : CaseTables) (q : FileNameQuery) : Bool :=
  if !ntSuccess q.status then false
  else match q.name with
  | none => false
  | some name => gProtectedSuffixes.any fun suffix => nameContains t name (rtlInitUnicodeString suffix)

/-- The next offset, below the 16-bit limit. -/
theorem toNat_next (off : UInt16) (h : off.toNat < 65535) : (off + 1).toNat = off.toNat + 1 := by
  rw [UInt16.toNat_add, UInt16.toNat_one, Nat.mod_eq_of_lt (by omega)]

/-- The offset stops below the 16-bit limit, so the scan ends within its rounds, and it has found the
needle when this stands at some offset from `off` on. -/
theorem scanWindows_spec (t : CaseTables) (name needle : UnicodeString) {lastStart : UInt16}
    (hlast : lastStart.toNat < 65535) : ∀ (rounds : Nat) (off : UInt16),
    off.toNat ≤ lastStart.toNat + 1 → lastStart.toNat + 2 ≤ off.toNat + rounds →
    ∃ found, scanWindows t name needle lastStart rounds off = some found ∧
      (found = true ↔ ∃ k : UInt16, off ≤ k ∧ k ≤ lastStart ∧
        (name.window k needle.length).any (fun window => rtlEqualUnicodeString t window needle) = true)
  | 0, off, h1, h2 => by omega
  | rounds + 1, off, h1, h2 => by
    unfold scanWindows
    split
    · rename_i hle
      split
      · rename_i hwin
        exact ⟨true, rfl, iff_of_true rfl ⟨off, UInt16.le_refl off, hle, hwin⟩⟩
      · rename_i hwin
        have hle' := UInt16.le_iff_toNat_le.1 hle
        have hoff := toNat_next off (by omega)
        obtain ⟨found, hscan, hfound⟩ := scanWindows_spec t name needle hlast rounds (off + 1) (by omega) (by omega)
        refine ⟨found, hscan, hfound.trans (exists_congr fun k => and_congr_left fun hk => ?_)⟩
        -- nothing stands at `off` itself
        simp only [UInt16.le_iff_toNat_le, hoff]
        constructor
        · intro h; omega
        · intro h
          by_contra hlt
          have heq : k = off := UInt16.toNat_inj.1 (by omega)
          exact hwin (heq ▸ hk.2)
    · rename_i hle
      refine ⟨false, rfl, iff_of_false (by simp) ?_⟩
      rintro ⟨k, hk, hk', -⟩
      exact hle (UInt16.le_trans hk hk')

/-- The scan `LgPathMatches` starts, from the offset 0 on. -/
theorem nameScan_spec (t : CaseTables) (name needle : UnicodeString) :
    ∃ found, scanWindows t name needle ((name.length - needle.length) / 2) 65536 0 = some found ∧
      (found = true ↔ ∃ k : UInt16, k ≤ (name.length - needle.length) / 2 ∧
        (name.window k needle.length).any (fun window => rtlEqualUnicodeString t window needle) = true) := by
  have hdiv : ((name.length - needle.length) / 2).toNat = (name.length - needle.length).toNat / 2 := by
    rw [UInt16.toNat_div]; rfl
  have hlt := (name.length - needle.length).toNat_lt
  have hzero : (0 : UInt16).toNat = 0 := rfl
  have hlast : ((name.length - needle.length) / 2).toNat < 65535 := by omega
  obtain ⟨found, hscan, hfound⟩ := scanWindows_spec t name needle hlast 65536 0 (by omega) (by omega)
  refine ⟨found, hscan, hfound.trans (exists_congr fun k => and_iff_right ?_)⟩
  rw [UInt16.le_iff_toNat_le]
  omega

/-- **The scan of `LgPathMatches` ends** for every name and needle. -/
theorem nameScan_ends (t : CaseTables) (name needle : UnicodeString) :
    scanWindows t name needle ((name.length - needle.length) / 2) 65536 0 ≠ none := by
  obtain ⟨found, hscan, -⟩ := nameScan_spec t name needle
  simp [hscan]

/-! ## What matches -/

/-- The last start counts the characters by which the name is longer. -/
theorem lastStart_toNat {length needed : UInt16} (h : needed.toNat ≤ length.toNat) :
    ((length - needed) / 2).toNat = (length.toNat - needed.toNat) / 2 := by
  rw [UInt16.toNat_div, UInt16.toNat_sub_of_le _ _ (UInt16.le_iff_toNat_le.2 h)]
  rfl

/-- A name that is long enough contains the needle where the window at some offset is it. -/
theorem nameContains_iff_window {t : CaseTables} {name needle : UnicodeString}
    (h : needle.length.toNat ≤ name.length.toNat) :
    nameContains t name needle = true ↔ ∃ k : UInt16, k ≤ (name.length - needle.length) / 2 ∧
      (name.window k needle.length).any (fun window => rtlEqualUnicodeString t window needle) = true := by
  have hlong : ¬ name.length < needle.length := by
    rw [UInt16.lt_iff_toNat_lt]
    omega
  obtain ⟨found, hscan, hfound⟩ := nameScan_spec t name needle
  rw [nameContains, if_neg hlong]
  simpa only [hscan, beq_iff_eq, Option.some.injEq] using hfound

/-- The window at an offset no later than the last start holds the characters there. -/
theorem window_matches {t : CaseTables} {name : UnicodeString} {needle : List WCHAR} {off : UInt16}
    (hn : 2 * needle.length ≤ 65532) (hoff : 2 * off.toNat + 2 * needle.length ≤ name.length.toNat) :
    ((name.window off (rtlInitUnicodeString needle).length).any
        fun window => rtlEqualUnicodeString t window (rtlInitUnicodeString needle)) = true ↔
      needle.map t.upcase <+: (name.chars.map t.upcase).drop off.toNat := by
  have hf := name.fits
  have hl := rtlInit_length hn
  rw [UnicodeString.window_eq (by omega), Option.any_some, rtlEqual_iff (by rfl), rtlInit_chars hn]
  simp only [UnicodeString.chars, hl, Nat.mul_div_cancel_left _ (by decide : 0 < 2)]
  rw [List.prefix_iff_eq_take, List.length_map, ← List.map_drop, ← List.map_take, List.drop_take, List.take_take,
    Nat.min_eq_left (by omega), eq_comm]

/-- **One needle is looked for anywhere in the name**, without regard to case. -/
theorem nameContains_iff {t : CaseTables} {name : UnicodeString} {needle : List WCHAR}
    (hn : 2 * needle.length ≤ 65532) :
    nameContains t name (rtlInitUnicodeString needle) = true ↔
      needle.map t.upcase <:+: name.chars.map t.upcase := by
  have hl := rtlInit_length hn
  have hc := length_chars name
  have hlen := name.length.toNat_lt
  by_cases hlong : (rtlInitUnicodeString needle).length.toNat ≤ name.length.toNat
  · have hstart := lastStart_toNat hlong
    rw [hl] at hstart
    rw [nameContains_iff_window hlong]
    constructor
    · rintro ⟨k, hk, hwin⟩
      rw [UInt16.le_iff_toNat_le, hstart] at hk
      exact ((window_matches hn (by omega)).1 hwin).isInfix.trans (List.drop_suffix _ _).isInfix
    · rintro ⟨pre, post, hsplit⟩
      have hpre : pre.length + needle.length ≤ name.length.toNat / 2 := by
        have := congrArg List.length hsplit
        simp only [List.length_append, List.length_map] at this
        omega
      have hk : (UInt16.ofNat pre.length).toNat = pre.length :=
        UInt16.toNat_ofNat_of_lt' (by rw [UInt16.size]; omega)
      refine ⟨UInt16.ofNat pre.length, UInt16.le_iff_toNat_le.2 (by rw [hk, hstart]; omega),
        (window_matches hn (by omega)).2 ?_⟩
      rw [hk, ← hsplit, List.append_assoc, List.drop_left]
      exact List.prefix_append _ _
  · have hshort : name.length < (rtlInitUnicodeString needle).length := by
      rw [UInt16.lt_iff_toNat_lt]
      omega
    rw [nameContains, if_pos hshort]
    refine iff_of_false (by simp) fun h => ?_
    have := h.length_le
    simp only [List.length_map] at this
    omega

theorem length_suffixes : ∀ s ∈ gProtectedSuffixes, 2 * s.length ≤ 65532 := by decide +kernel

/-- **`LgPathMatches` is a case-insensitive substring test.** -/
theorem lgPathMatches_iff {t : CaseTables} {name : UnicodeString} :
    lgPathMatches t ⟨statusSuccess, some name⟩ = true ↔
      ∃ s ∈ gProtectedSuffixes, s.map t.upcase <:+: name.chars.map t.upcase := by
  simp only [lgPathMatches, ntSuccess_success, Bool.not_true, Bool.false_eq_true, if_false, List.any_eq_true]
  exact exists_congr fun s => and_congr_right fun hs => nameContains_iff (length_suffixes s hs)

/-! ## The callbacks -/

abbrev ACCESS_MASK := UInt32

/-- `FLT_PREOP_CALLBACK_STATUS`: let through, or completed with a status. -/
inductive PreOp where
  | successNoCallback
  | complete (status : NTSTATUS)
deriving DecidableEq

def fileDeleteOnClose : ULONG := 0x00001000
def deleteAccess : ACCESS_MASK := 0x00010000
def fileWriteData : ACCESS_MASK := 0x00000002
def fileAppendData : ACCESS_MASK := 0x00000004
def writeDac : ACCESS_MASK := 0x00040000
def writeOwner : ACCESS_MASK := 0x00080000

/-- `Parameters.Create`: the options and, behind `SecurityContext`, the desired access. -/
structure CreateParameters where
  options : ULONG
  desiredAccess : Option ACCESS_MASK

def CreateParameters.wantsDelete (p : CreateParameters) : Bool := p.options &&& fileDeleteOnClose != 0

def CreateParameters.wantsWrite (p : CreateParameters) : Bool :=
  p.desiredAccess.any fun a =>
    a &&& (deleteAccess ||| fileWriteData ||| fileAppendData ||| writeDac ||| writeOwner) != 0

/-- `if (!LgPathMatches(..)) let through; if (LgIsPermissive()) let through; deny.` -/
def guardFile (t : CaseTables) (q : FileNameQuery) (now : SysTime) (d : Driver) : Reply PreOp :=
  if !lgPathMatches t q then ⟨.successNoCallback, d, []⟩
  else unlessPermissive now .successNoCallback (.complete statusAccessDenied) d

/-- `LgPreCreate` (`:65-87`). -/
def lgPreCreate (t : CaseTables) (p : CreateParameters) (q : FileNameQuery) (now : SysTime)
    (d : Driver) : Reply PreOp :=
  if !p.wantsDelete && !p.wantsWrite then ⟨.successNoCallback, d, []⟩ else guardFile t q now d

def fileRenameInformation : Nat := 10
def fileDispositionInformation : Nat := 13
def fileAllocationInformation : Nat := 19
def fileEndOfFileInformation : Nat := 20
def fileDispositionInformationEx : Nat := 64
def fileRenameInformationEx : Nat := 65

/-- The information classes `LgPreSetInformation` judges (`:97-102`). -/
def dangerousClass (klass : Nat) : Bool :=
  klass == fileDispositionInformation || klass == fileDispositionInformationEx ||
    klass == fileRenameInformation || klass == fileRenameInformationEx ||
    klass == fileEndOfFileInformation || klass == fileAllocationInformation

/-- `LgPreSetInformation` (`:89-112`). -/
def lgPreSetInformation (t : CaseTables) (klass : Nat) (q : FileNameQuery) (now : SysTime)
    (d : Driver) : Reply PreOp :=
  if !dangerousClass klass then ⟨.successNoCallback, d, []⟩ else guardFile t q now d

/-- `LgPreWrite` (`:114-128`). -/
def lgPreWrite (t : CaseTables) (q : FileNameQuery) (now : SysTime) (d : Driver) : Reply PreOp :=
  guardFile t q now d

/-- `LgUnloadGuard` (`:137-146`). -/
def lgUnloadGuard (now : SysTime) (d : Driver) : Reply NTSTATUS :=
  unlessPermissive now statusSuccess statusFltDoNotDetach d

end Lockguard
