import Lockguard.ProcNotify
import Lockguard.Ioctl
/-!
# The blocked names and the patterns they stand for (`procnotify.c:1-67`)

The comments speak of patterns, `procexp*.exe` among them, and of an explicit prefix match that takes
care of them. `LgIsBlocked` compares whole names, and of each pattern the list has two: the plain name
and the one for 64 bits. Every other name of the pattern goes through (`wildcard_denied_iff`).
-/
namespace Lockguard

/-- The patterns `stem*.exe` of the comments and of the plan. -/
def wildcardStems : List (List WCHAR) := [wide "procexp", wide "pchunter"]

def exe : List WCHAR := wide ".exe"

def sixtyFour : List WCHAR := wide "64"

/-- The names of a pattern that the list has. -/
theorem wildcard_names : (wildcardStems.all fun stem =>
    gBlocked.contains (stem ++ exe) && gBlocked.contains (stem ++ sixtyFour ++ exe) && gBlocked.all fun name =>
      !(stem.map asciiDowncase).isPrefixOf (name.map asciiDowncase) || name == stem ++ exe ||
        name == stem ++ sixtyFour ++ exe) = true := by decide +kernel

theorem wildcardStems_ascii : (wildcardStems.all fun stem => stem.all fun c => decide (c < 128)) = true := by decide

section
variable {t : CaseTables}

theorem gBlocked_ascii {name : List WCHAR} (h : name ∈ gBlocked) : (name.all fun c => decide (c < 128)) = true := by
  have hall : (gBlocked.all fun name => name.all fun c => decide (c < 128)) = true := by decide
  exact List.all_eq_true.1 hall name h

/-- **What the list has of a pattern** is, without regard to case, the plain name and the one for 64 bits. -/
theorem wildcard_blocked_iff {stem : List WCHAR} (hstem : stem ∈ wildcardStems) (s : List WCHAR) :
    (∃ name ∈ gBlocked, (stem ++ s ++ exe).map t.downcase = name.map t.downcase) ↔
      s = [] ∨ s.map t.downcase = sixtyFour.map t.downcase := by
  have hnames := List.all_eq_true.1 wildcard_names stem hstem
  simp only [Bool.and_eq_true, List.contains_iff_mem] at hnames
  obtain ⟨⟨hplain, hsixtyFour⟩, honly⟩ := hnames
  constructor
  · rintro ⟨name, hname, heq⟩
    have hstarts : (stem.map asciiDowncase).isPrefixOf (name.map asciiDowncase) = true := by
      rw [List.isPrefixOf_iff_prefix, ← map_downcase_ascii t (gBlocked_ascii hname),
        ← map_downcase_ascii t (List.all_eq_true.1 wildcardStems_ascii stem hstem), ← heq]
      simp
    have hlisted := List.all_eq_true.1 honly name hname
    simp only [hstarts, Bool.not_true, Bool.false_or, Bool.or_eq_true, beq_iff_eq] at hlisted
    rcases hlisted with rfl | rfl
    · left
      simpa using congrArg List.length heq
    · right
      simpa using heq
  · rintro (rfl | hs)
    · exact ⟨stem ++ exe, hplain, by simp⟩
    · exact ⟨stem ++ sixtyFour ++ exe, hsixtyFour, by simp [hs]⟩

variable {path : UnicodeString} {now : SysTime} {d : Driver}

/-- **Of the names of a pattern two are denied.** While the window is closed, an image called `stem`, `s` and
`.exe` one after the other, in whatever directory and case, is denied exactly when `s` is nothing or `64`. -/
theorem wildcard_denied_iff {stem : List WCHAR} (hstem : stem ∈ wildcardStems) (s : List WCHAR)
    (hbase : (baseName path.chars).map t.downcase = (stem ++ s ++ exe).map t.downcase)
    (hclosed : ¬ d.window.OpenAt now) :
    DeniesLaunch t path now d ↔ s = [] ∨ s.map t.downcase = sixtyFour.map t.downcase := by
  rw [deniesLaunch_iff, hbase, wildcard_blocked_iff hstem, and_iff_right hclosed]

end

namespace Worked

def procexp64 : UnicodeString := rtlInitUnicodeString (wide "\\Device\\HarddiskVolume3\\Tools\\PROCEXP64.EXE")

/-- The build of the same tool for ARM64. -/
def procexp64a : UnicodeString := rtlInitUnicodeString (wide "\\Device\\HarddiskVolume3\\Tools\\procexp64a.exe")

end Worked

theorem wildcard_denied_procexp64 : DeniesLaunch .ascii Worked.procexp64 (Worked.time 0) (driverEntry Worked.reads) :=
  have hstem : wide "procexp" ∈ wildcardStems := by simp [wildcardStems]
  (wildcard_denied_iff hstem sixtyFour (by decide +kernel) (by decide)).2 (Or.inr rfl)

/-- `procexp64a.exe` is let through. -/
theorem wildcard_not_denied : ¬ ∀ stem ∈ wildcardStems, ∀ (t : CaseTables) (s : List WCHAR) (path : UnicodeString)
    (now : SysTime) (d : Driver), (s.all fun c => c != backslash && c != slash) = true →
    (baseName path.chars).map t.downcase = (stem ++ s ++ exe).map t.downcase → ¬ d.window.OpenAt now →
    DeniesLaunch t path now d := by
  intro h
  have hdenied := h (wide "procexp") (by simp [wildcardStems]) .ascii (wide "64a") Worked.procexp64a (Worked.time 0)
    (driverEntry Worked.reads) (by decide) (by decide +kernel) (by decide)
  have hbase : baseName Worked.procexp64a.chars = wide "procexp" ++ wide "64a" ++ exe := by decide +kernel
  rw [deniesLaunch_iff, hbase, wildcard_blocked_iff (by simp [wildcardStems])] at hdenied
  exact absurd hdenied.2 (by decide)

end Lockguard
