import Lockguard.Globals
import Mathlib.Data.List.DropRight
/-!
# The process-creation callback (`procnotify.c`)

A pointer into the image name is its offset in the buffer.
-/
namespace Lockguard

def gBlocked : List (List WCHAR) :=
  [wide "regedit.exe", wide "taskmgr.exe", wide "bcdedit.exe", wide "procmon.exe",
   wide "procmon64.exe", wide "procexp.exe", wide "procexp64.exe", wide "pchunter.exe",
   wide "pchunter64.exe", wide "dbgview.exe", wide "kdbgctrl.exe", wide "windbg.exe",
   wide "x64dbg.exe", wide "ollydbg.exe", wide "autoruns.exe", wide "autorunsc.exe",
   wide "powershell_ise.exe", wide "cmd.exe", wide "mmc.exe", wide "wmic.exe",
   wide "tasklist.exe", wide "runas.exe", wide "sdbinst.exe", wide "mavinject.exe",
   wide "installutil.exe", wide "regsvr32.exe", wide "schtasks.exe", wide "dnscmd.exe"]

/-- `while (i > 0) { if (sep(Buffer[i - 1])) break; --i; }` -/
def afterLast (sep : WCHAR → Bool) (buffer : List WCHAR) : Nat → Nat
  | 0 => 0
  | i + 1 => if sep (buffer.getD i 0) then i + 1 else afterLast sep buffer i

/-- `_wcsnicmp(a, b, n) == 0` for a `b` of `n` characters, none of them NUL. -/
def wcsnicmpEq (t : CaseTables) (a b : List WCHAR) (n : Nat) : Bool :=
  (a.take n).map t.downcase == (b.take n).map t.downcase

/-- `LgBasename` (`:45-55`): the offset of the base name, `none` for NULL. -/
def lgBasename (path : UnicodeString) : Option Nat :=
  if path.length = 0 then none
  else some (afterLast (fun c => c == backslash || c == slash) path.buffer (path.length.toNat / 2))

/-- `LgIsBlocked` (`:57-67`). -/
def lgIsBlocked (t : CaseTables) (basename : List WCHAR) (lenChars : UInt16) : Bool :=
  gBlocked.any fun name => lenChars.toNat == name.length && wcsnicmpEq t basename name name.length

/-- `PS_CREATE_NOTIFY_INFO`: the image name and the status the launch will have. -/
structure CreateNotifyInfo where
  imageFileName : Option UnicodeString
  creationStatus : NTSTATUS

/-- The base name of the image is one of the blocked names (`:81-87`). -/
def imageBlocked (t : CaseTables) (path : UnicodeString) : Bool :=
  match lgBasename path with
  | none => false
  | some base =>
    let baseChars := UInt16.ofNat (path.length.toNat / 2 - base)
    lgIsBlocked t (path.buffer.drop base) baseChars

/-- `LgProcessNotifyEx` (`:69-91`): the `CreationStatus` it leaves, `none` when there is no
`Info` (the process exits). -/
def lgProcessNotifyEx (t : CaseTables) (info : Option CreateNotifyInfo) (now : SysTime) (d : Driver) :
    Reply (Option NTSTATUS) :=
  match info with
  | none => ⟨none, d, []⟩
  | some info =>
    match info.imageFileName with
    | none => ⟨some info.creationStatus, d, []⟩
    | some path =>
      let (permissive, w) := lgIsPermissive now d.window
      let d := { d with window := w }
      if permissive then ⟨some info.creationStatus, d, [.asked now true]⟩
      else if imageBlocked t path then
        ⟨some statusAccessDenied, lgRecordTamperEvent d, [.asked now false]⟩
      else ⟨some info.creationStatus, d, [.asked now false]⟩

/-! ## What is blocked -/

/-- What stands after the last separator, all of it where there is none. -/
def baseName (cs : List WCHAR) : List WCHAR := cs.rtakeWhile fun c => !(c == backslash || c == slash)

/-- A round of the scan, with the character it reads inside the buffer. -/
theorem afterLast_succ {sep : WCHAR → Bool} {buffer : List WCHAR} {i : Nat} (h : i < buffer.length) :
    afterLast sep buffer (i + 1) = if sep buffer[i] then i + 1 else afterLast sep buffer i := by
  have hget : buffer.getD i 0 = buffer[i] := by simp [List.getD_eq_getElem?_getD, h]
  rw [afterLast, hget]

/-- The scan stops behind the last separator. -/
theorem afterLast_eq {sep : WCHAR → Bool} {buffer : List WCHAR} {n : Nat} (h : n ≤ buffer.length) :
    afterLast sep buffer n = ((buffer.take n).rdropWhile fun c => !sep c).length := by
  induction n with
  | zero => simp [afterLast]
  | succ n ih =>
    have hlt : n < buffer.length := h
    rw [afterLast_succ hlt, List.take_succ_eq_append_getElem hlt, List.rdropWhile_concat]
    cases hsep : sep buffer[n] with
    | true =>
      simp
      omega
    | false => simpa using ih (by omega)

theorem lgBasename_eq {path : UnicodeString} (h : path.length ≠ 0) :
    lgBasename path = some (path.chars.length - (baseName path.chars).length) := by
  have hfits := path.fits
  have hsplit := congrArg List.length
    (List.rdropWhile_append_rtakeWhile (p := fun c => !(c == backslash || c == slash)) (l := path.chars))
  rw [List.length_append] at hsplit
  rw [lgBasename, if_neg h, afterLast_eq (by omega)]
  exact congrArg some (Nat.eq_sub_of_add_eq hsplit)

/-- The characters from the base name's offset on are the base name. -/
theorem drop_baseName (cs : List WCHAR) : cs.drop (cs.length - (baseName cs).length) = baseName cs := by
  obtain ⟨dir, hdir⟩ : baseName cs <:+ cs := List.rtakeWhile_suffix _ _
  have hlen := congrArg List.length hdir
  rw [List.length_append] at hlen
  rw [show cs.length - (baseName cs).length = dir.length by omega]
  nth_rewrite 1 [← hdir]
  exact List.drop_left

theorem length_baseName_le (cs : List WCHAR) : (baseName cs).length ≤ cs.length :=
  (List.rtakeWhile_suffix _ _).length_le

theorem gBlocked_ne_nil : ∀ name ∈ gBlocked, name ≠ [] := by decide

/-- **An image is blocked by its base name**, without regard to case. -/
theorem imageBlocked_iff_baseName {t : CaseTables} {path : UnicodeString} :
    imageBlocked t path = true ↔
      ∃ name ∈ gBlocked, (baseName path.chars).map t.downcase = name.map t.downcase := by
  have hlen := length_chars path
  by_cases hzero : path.length = 0
  · have hnil : path.chars = [] := List.length_eq_zero_iff.1 (by rw [hlen, hzero]; rfl)
    have hnone : imageBlocked t path = false := by rw [imageBlocked, lgBasename, if_pos hzero]
    rw [hnone, hnil]
    refine iff_of_false Bool.false_ne_true ?_
    rintro ⟨name, hname, heq⟩
    exact gBlocked_ne_nil name hname (List.map_eq_nil_iff.1 heq.symm)
  have hbase := length_baseName_le path.chars
  have hchars : (UInt16.ofNat (path.length.toNat / 2 - (path.chars.length - (baseName path.chars).length))).toNat =
      (baseName path.chars).length := by
    have hbytes := path.length.toNat_lt
    rw [UInt16.toNat_ofNat_of_lt' (by rw [UInt16.size]; omega)]
    omega
  have hdrop : (path.buffer.drop (path.chars.length - (baseName path.chars).length)).take (baseName path.chars).length =
      baseName path.chars := by
    have htake : ∀ k, path.chars.drop k = (path.buffer.drop k).take (path.chars.length - k) := by
      intro k
      rw [hlen, UnicodeString.chars, List.drop_take]
    have hcut := htake (path.chars.length - (baseName path.chars).length)
    rw [drop_baseName, Nat.sub_sub_self hbase] at hcut
    exact hcut.symm
  simp only [imageBlocked, lgBasename_eq hzero, lgIsBlocked, List.any_eq_true, Bool.and_eq_true, beq_iff_eq, hchars,
    wcsnicmpEq]
  refine exists_congr fun name => and_congr_right fun _ => ?_
  constructor
  · rintro ⟨hsame, heq⟩
    rwa [← hsame, hdrop, hsame, List.take_length] at heq
  · intro heq
    have hsame : (baseName path.chars).length = name.length := by simpa using congrArg List.length heq
    refine ⟨hsame, ?_⟩
    rw [← hsame, hdrop, hsame, List.take_length]
    exact heq

theorem baseName_append {dir base : List WCHAR} (hbase : (base.all fun c => c != backslash && c != slash) = true) :
    baseName (dir ++ backslash :: base) = base := by
  induction base using List.reverseRecOn with
  | nil =>
    rw [baseName, List.rtakeWhile_concat_neg]
    simp
  | append_singleton base c ih =>
    rw [List.all_append, Bool.and_eq_true] at hbase
    obtain ⟨hinit, hlast⟩ := hbase
    rw [baseName, ← List.cons_append, ← List.append_assoc, List.rtakeWhile_concat_pos]
    · exact congrArg (· ++ [c]) (ih hinit)
    · simpa using hlast

theorem imageBlocked_iff {t : CaseTables} {path : UnicodeString} {dir base : List WCHAR}
    (hchars : path.chars = dir ++ backslash :: base) (hbase : (base.all fun c => c != backslash && c != slash) = true) :
    imageBlocked t path = true ↔
      ∃ name ∈ gBlocked, base.length = name.length ∧ base.map t.downcase = name.map t.downcase := by
  rw [imageBlocked_iff_baseName, hchars, baseName_append hbase]
  refine exists_congr fun name => and_congr_right fun _ => (and_iff_right_of_imp ?_).symm
  intro heq
  simpa using congrArg List.length heq

/-! ## What is denied -/

/-- The window is open at `now`. -/
def Window.OpenAt (now : SysTime) (w : Window) : Prop := w.gPermissive = true ∧ now.quadPart < w.gPermissiveExpires

instance (now : SysTime) (w : Window) : Decidable (w.OpenAt now) := inferInstanceAs (Decidable (_ ∧ _))

/-- Whatever status the launch had, the callback leaves it denied. -/
def DeniesLaunch (t : CaseTables) (path : UnicodeString) (now : SysTime) (d : Driver) : Prop :=
  ∀ status, (lgProcessNotifyEx t (some ⟨some path, status⟩) now d).value = some statusAccessDenied

section
variable {t : CaseTables} {path : UnicodeString} {now : SysTime} {d : Driver}

theorem processNotify_value (status : NTSTATUS) :
    (lgProcessNotifyEx t (some ⟨some path, status⟩) now d).value =
      if (lgIsPermissive now d.window).1 = false ∧ imageBlocked t path = true then some statusAccessDenied
      else some status := by
  simp only [lgProcessNotifyEx]
  cases (lgIsPermissive now d.window).1 <;> cases imageBlocked t path <;> rfl

theorem deniesLaunch_iff_imageBlocked :
    DeniesLaunch t path now d ↔ (lgIsPermissive now d.window).1 = false ∧ imageBlocked t path = true := by
  constructor
  · intro h
    by_contra hnot
    have hvalue := h statusSuccess
    rw [processNotify_value, if_neg hnot] at hvalue
    exact absurd (Option.some.inj hvalue) (by decide)
  · intro h status
    rw [processNotify_value, if_pos h]

/-- **The launches denied** are those of blocked names while the window is closed. -/
theorem deniesLaunch_iff : DeniesLaunch t path now d ↔ ¬ d.window.OpenAt now ∧
    ∃ name ∈ gBlocked, (baseName path.chars).map t.downcase = name.map t.downcase := by
  rw [deniesLaunch_iff_imageBlocked, imageBlocked_iff_baseName, Window.OpenAt, ← lgIsPermissive_iff, Bool.not_eq_true]

variable (t path now d) in
theorem deniesLaunch_or : DeniesLaunch t path now d ∨
    ∀ status, (lgProcessNotifyEx t (some ⟨some path, status⟩) now d).value = some status := by
  by_cases hdenies : DeniesLaunch t path now d
  · exact Or.inl hdenies
  · right
    intro status
    rw [deniesLaunch_iff_imageBlocked] at hdenies
    rw [processNotify_value, if_neg hdenies]

end

end Lockguard
