import Lockguard.RegCb
/-!
# Textual prefixes and keys below (`regcb.c:1-53`)

The head of the file lists what is protected as patterns: `Services\Lockguard*`, any name that goes on
from there, and otherwise `key\*`, the keys below a key. The table at `:23` is matched by starts-with
alone, so that a name may also go on inside the last component of a protected key. `Overruns` are these
names: they match (`keyNameMatches_iff`) and are none of the patterns (`overruns_not_documented`).
-/
namespace Lockguard

def StartsWith (t : CaseTables) (p name : List WCHAR) : Prop := p.map t.upcase <+: name.map t.upcase

/-- What follows a protected name ends it, or leads to a key below. -/
def AtBoundary (rest : List WCHAR) : Prop := rest = [] ∨ ∃ more, more ≠ [] ∧ rest = backslash :: more

/-- A protected key, a key below one, or a name that starts like the keys of the own services. -/
def DocumentedKey (t : CaseTables) (name : List WCHAR) : Prop :=
  (∃ p ∈ gProtectedPrefixes, StartsWith t p name ∧ AtBoundary (name.drop p.length)) ∨ StartsWith t lgServiceKey name

/-- The name goes on from a protected one inside its last component, or with nothing but a backslash. -/
def Overruns (t : CaseTables) (name : List WCHAR) : Prop :=
  (∃ p ∈ gProtectedPrefixes, StartsWith t p name ∧ ¬ AtBoundary (name.drop p.length)) ∧ ¬ StartsWith t lgServiceKey name

theorem lgServiceKey_mem : lgServiceKey ∈ gProtectedPrefixes := List.mem_cons_self

/-- Of two protected names of which one starts with the other, both are keys of the own services. -/
theorem prefixes_apart : (gProtectedPrefixes.all fun p => gProtectedPrefixes.all fun q =>
    !(p.map asciiUpcase).isPrefixOf (q.map asciiUpcase) || p == q ||
      (lgServiceKey.map asciiUpcase).isPrefixOf (p.map asciiUpcase)) = true := by decide +kernel

section
variable {t : CaseTables} {name : List WCHAR}

/-- A name that starts with two protected names starts like the own services, or they are one. -/
theorem startsWith_unique {p q : List WCHAR} (hp : p ∈ gProtectedPrefixes) (hq : q ∈ gProtectedPrefixes)
    (hpre : StartsWith t p q) (hname : StartsWith t p name) : p = q ∨ StartsWith t lgServiceKey name := by
  have hapart := List.all_eq_true.1 (List.all_eq_true.1 prefixes_apart p hp) q hq
  unfold StartsWith at hpre hname ⊢
  rw [map_upcase_protected hp, map_upcase_protected hq] at hpre
  simp only [Bool.or_eq_true, Bool.not_eq_true', beq_iff_eq, List.isPrefixOf_iff_prefix] at hapart
  rcases hapart with (hnot | heq) | hown
  · rw [List.isPrefixOf_iff_prefix.2 hpre] at hnot
    cases hnot
  · exact Or.inl heq
  · right
    rw [map_upcase_protected lgServiceKey_mem]
    rw [map_upcase_protected hp] at hname
    exact hown.trans hname

/-- **Names that overrun a protected key are none of the patterns.** -/
theorem overruns_not_documented (h : Overruns t name) : ¬ DocumentedKey t name := by
  obtain ⟨⟨p, hp, hstart, hrest⟩, hown⟩ := h
  rintro (⟨q, hq, hstart', hrest'⟩ | hown')
  · rcases List.prefix_or_prefix_of_prefix hstart hstart' with hpre | hpre
    · rcases startsWith_unique hp hq hpre hstart with rfl | hown'
      · exact hrest hrest'
      · exact hown hown'
    · rcases startsWith_unique hq hp hpre hstart' with rfl | hown'
      · exact hrest hrest'
      · exact hown hown'
  · exact hown hown'

/-- A name that starts with a protected one is one of the patterns or goes on in another way. -/
theorem startsWith_cases : (∃ p ∈ gProtectedPrefixes, StartsWith t p name) ↔ DocumentedKey t name ∨ Overruns t name := by
  constructor
  · rintro ⟨p, hp, hstart⟩
    by_cases hown : StartsWith t lgServiceKey name
    · exact Or.inl (Or.inr hown)
    by_cases hrest : AtBoundary (name.drop p.length)
    · exact Or.inl (Or.inl ⟨p, hp, hstart, hrest⟩)
    · exact Or.inr ⟨⟨p, hp, hstart, hrest⟩, hown⟩
  · rintro ((⟨p, hp, hstart, -⟩ | hown) | ⟨⟨p, hp, hstart, -⟩, -⟩)
    · exact ⟨p, hp, hstart⟩
    · exact ⟨lgServiceKey, lgServiceKey_mem, hown⟩
    · exact ⟨p, hp, hstart⟩

end

/-- **`LgKeyNameMatchesAny`** takes the documented names and those that overrun a protected one, which are apart
from them, and no others. -/
theorem keyNameMatches_iff (t : CaseTables) (name : UnicodeString) :
    (lgKeyNameMatchesAny t (some name) = true ↔ DocumentedKey t name.chars ∨ Overruns t name.chars) ∧
      ¬ (DocumentedKey t name.chars ∧ Overruns t name.chars) := by
  constructor
  · rw [← startsWith_cases]
    exact lgKeyNameMatchesAny_iff
  · rintro ⟨hdocumented, hoverruns⟩
    exact overruns_not_documented hoverruns hdocumented

namespace Worked

/-- A service of another name beside `Wlansvc`. -/
def wlansvcSibling : UnicodeString :=
  rtlInitUnicodeString (wide "\\Registry\\Machine\\SYSTEM\\CurrentControlSet\\Services\\WlansvcMonitor")

end Worked

/-- The sibling is matched. -/
theorem keyNameMatches_sibling : ¬ ∀ (t : CaseTables) (name : UnicodeString),
    lgKeyNameMatchesAny t (some name) = true ↔ DocumentedKey t name.chars := by
  intro h
  have hmatch : lgKeyNameMatchesAny .ascii (some Worked.wlansvcSibling) = true := by decide +kernel
  have hstart : StartsWith .ascii lgWlansvcKey Worked.wlansvcSibling.chars := by
    refine List.isPrefixOf_iff_prefix.1 ?_
    decide +kernel
  have hother : ¬ StartsWith .ascii lgServiceKey Worked.wlansvcSibling.chars := by
    intro hown
    have hstarts := List.isPrefixOf_iff_prefix.2 hown
    revert hstarts
    decide +kernel
  have hrest : ¬ AtBoundary (Worked.wlansvcSibling.chars.drop lgWlansvcKey.length) := by
    have htail : Worked.wlansvcSibling.chars.drop lgWlansvcKey.length = wide "Monitor" := by decide +kernel
    rw [htail]
    rintro (hnil | ⟨more, -, heq⟩)
    · exact absurd hnil (by decide)
    · exact absurd (List.cons.inj heq).1 (by decide)
  exact overruns_not_documented ⟨⟨lgWlansvcKey, by simp [gProtectedPrefixes], hstart, hrest⟩, hother⟩
    ((h .ascii Worked.wlansvcSibling).1 hmatch)

end Lockguard
