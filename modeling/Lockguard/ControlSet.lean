import Lockguard.Ioctl
import Lockguard.RegCb
/-!
# Two spellings of a control set

`CurrentControlSet` is a link to one of the keys `ControlSet001`, `ControlSet002`, ... The four
protected keys below it are listed by their spelling through the link only, and the matcher compares
text, so it knows none of them by the spelling through the target, which is the one the kernel
reports for a key (`controlSet_decisions`).
-/
namespace Lockguard

/-- The write-class operations, as `LgRegistryCallback` switches over them. -/
def writeClasses : List Nat := [regNtPreSetValueKey, regNtPreDeleteValueKey, regNtPreDeleteKey, regNtPreRenameKey]

def systemKey : List WCHAR := wide "\\Registry\\Machine\\SYSTEM\\"

def currentControlSet : List WCHAR := systemKey ++ wide "CurrentControlSet"

/-- `ControlSet001` for 1, and so on. -/
def controlSet (n : Nat) : List WCHAR :=
  systemKey ++ wide "ControlSet" ++ ((Nat.toDigits 10 n).leftpad 3 '0').map fun c => c.toNat.toUInt16

/-- The protected Services and Class keys, from their control set on. -/
def controlSetKeys : List (List WCHAR) :=
  [wide "\\Services\\Lockguard", wide "\\Services\\lockguard-svc", wide "\\Services\\Wlansvc",
    wide "\\Control\\Class\\\x7b4d36e972-e325-11ce-bfc1-08002be10318\x7d"]

theorem linked_protected : ∀ key ∈ controlSetKeys, currentControlSet ++ key ∈ gProtectedPrefixes := by
  decide +kernel

/-- Every protected name leaves the path of the numbered control sets within its first 27 characters. -/
theorem prefixes_leave : ∀ p ∈ gProtectedPrefixes, 27 ≤ p.length ∧
    (p.take 27).map asciiUpcase ≠ (systemKey ++ wide "Co").map asciiUpcase := by
  decide +kernel

/-- Spelled through the link, a key below a protected one is matched. -/
theorem linked_matches {t : CaseTables} {key suffix : List WCHAR} (hk : key ∈ controlSetKeys)
    {name : UnicodeString}
    (hn : name.chars.map t.upcase = (currentControlSet ++ key ++ suffix).map t.upcase) :
    lgKeyNameMatchesAny t (some name) = true := by
  rw [lgKeyNameMatchesAny_iff]
  refine ⟨currentControlSet ++ key, linked_protected key hk, suffix.map t.upcase, ?_⟩
  rw [hn, ← List.map_append]

/-- Spelled through a numbered control set, no name is matched. -/
theorem numbered_unmatched {t : CaseTables} {n : Nat} {rest : List WCHAR} {name : UnicodeString}
    (hn : name.chars.map t.upcase = (controlSet n ++ rest).map t.upcase) :
    lgKeyNameMatchesAny t (some name) = false := by
  rw [← Bool.not_eq_true, lgKeyNameMatchesAny_iff]
  rintro ⟨p, hp, hpre⟩
  obtain ⟨hlen, hne⟩ := prefixes_leave p hp
  have hco : ((systemKey ++ wide "Co").all fun c => c < 128) = true := by decide +kernel
  have hcolen : ((systemKey ++ wide "Co").map t.upcase).length = 27 := by
    rw [List.length_map]; decide +kernel
  -- both names start with `\Registry\Machine\SYSTEM\Co`
  have hsplit : controlSet n ++ rest = (systemKey ++ wide "Co") ++ (wide "ntrolSet" ++
      ((Nat.toDigits 10 n).leftpad 3 '0').map (fun c => c.toNat.toUInt16) ++ rest) := by
    have hword : wide "ControlSet" = wide "Co" ++ wide "ntrolSet" := by decide
    simp only [controlSet, hword, List.append_assoc]
  have htake : (p.map t.upcase).take 27 = (systemKey ++ wide "Co").map t.upcase := by
    have h27 := (List.prefix_iff_eq_take.1 hpre)
    rw [h27, List.take_take, Nat.min_eq_left (by simpa using hlen), hn, hsplit, List.map_append,
      List.take_append_of_le_length (by omega), List.take_of_length_le (by omega)]
  refine hne ?_
  rw [← map_upcase_ascii t hco, ← htake, map_upcase_protected hp, List.map_take]

/-- The callback's answer for a key that is reported by the name `name`. -/
def decision (t : CaseTables) (klass : Nat) (name : UnicodeString) (now : SysTime) (d : Driver) : NTSTATUS :=
  (lgRegistryCallback t ⟨klass, some ⟨some ⟨statusSuccess, some name⟩⟩⟩ now d).value

section
variable {t : CaseTables} {now : SysTime} {d : Driver}

/-- Through the target every operation is let through. -/
theorem decision_numbered {n : Nat} {rest : List WCHAR} {name : UnicodeString}
    (hn : name.chars.map t.upcase = (controlSet n ++ rest).map t.upcase) (klass : Nat) :
    decision t klass name now d = statusSuccess := by
  have hm := numbered_unmatched hn
  have hu : ¬ RegNotification.Guarded t ⟨klass, some ⟨some ⟨statusSuccess, some name⟩⟩⟩ := by
    rintro ⟨-, obj, hobj, -, hmatch⟩
    cases hobj
    rw [hm] at hmatch
    cases hmatch
  rw [decision, registryCallback_unguarded hu]

/-- Through the link every write-class operation but a key deletion is refused. -/
theorem decision_linked {key suffix : List WCHAR} (hk : key ∈ controlSetKeys) {name : UnicodeString}
    (hn : name.chars.map t.upcase = (currentControlSet ++ key ++ suffix).map t.upcase)
    (hw : (lgIsPermissive now d.window).1 = false) {klass : Nat} (hc : klass ∈ writeClasses) :
    decision t klass name now d = if klass = regNtPreDeleteKey then statusSuccess else statusAccessDenied := by
  by_cases hdel : klass = regNtPreDeleteKey
  · rw [if_pos hdel, hdel, decision, registryCallback_deleteKey]
  · have hg : RegNotification.Guarded t ⟨klass, some ⟨some ⟨statusSuccess, some name⟩⟩⟩ := by
      refine ⟨?_, _, rfl, ntSuccess_success, linked_matches hk hn⟩
      simp only [writeClasses, List.mem_cons, List.not_mem_nil, or_false] at hc
      tauto
    rw [if_neg hdel, decision, registryCallback_guarded hg]
    simp [unlessPermissive, hw]

end

/-- **The two spellings are never both refused.** Outside the window, for every control set, every
key below a protected one and every write-class operation: through the link the operation is refused
(a key deletion excepted), through the target it is let through. -/
theorem controlSet_decisions (t : CaseTables) (n : Nat) (key suffix : List WCHAR)
    (hk : key ∈ controlSetKeys) {link target : UnicodeString}
    (hlink : link.chars.map t.upcase = (currentControlSet ++ key ++ suffix).map t.upcase)
    (htarget : target.chars.map t.upcase = (controlSet n ++ key ++ suffix).map t.upcase)
    {now : SysTime} {d : Driver} (hw : (lgIsPermissive now d.window).1 = false) {klass : Nat}
    (hc : klass ∈ writeClasses) :
    decision t klass target now d = statusSuccess ∧
      decision t klass link now d = (if klass = regNtPreDeleteKey then statusSuccess else statusAccessDenied) ∧
      ¬ (decision t klass link now d = decision t klass target now d ∧
        decision t klass link now d = statusAccessDenied ∧
        decision t klass target now d = statusAccessDenied) := by
  have hne : statusSuccess ≠ statusAccessDenied := by decide
  have htgt : decision t klass target now d = statusSuccess := by
    rw [List.append_assoc] at htarget
    exact decision_numbered htarget klass
  refine ⟨htgt, decision_linked hk hlink hw hc, ?_⟩
  rintro ⟨-, -, hdenied⟩
  exact hne (htgt.symm.trans hdenied)

/-- The name of a key under the driver's own service, `set` being its control set. -/
def ownServiceName (set : List WCHAR) : UnicodeString :=
  rtlInitUnicodeString (set ++ wide "\\Services\\Lockguard" ++ wide "\\Parameters")

theorem ownServiceName_chars {set : List WCHAR}
    (h : 2 * (set ++ wide "\\Services\\Lockguard" ++ wide "\\Parameters").length ≤ 65532) (t : CaseTables) :
    (ownServiceName set).chars.map t.upcase =
      (set ++ wide "\\Services\\Lockguard" ++ wide "\\Parameters").map t.upcase := by
  rw [ownServiceName, rtlInit_chars h]

theorem controlSet_decisions_service :
    decision .ascii regNtPreSetValueKey (ownServiceName (controlSet 1)) .zero (driverEntry Worked.reads) =
        statusSuccess ∧
      decision .ascii regNtPreSetValueKey (ownServiceName currentControlSet) .zero
        (driverEntry Worked.reads) = statusAccessDenied := by
  obtain ⟨htarget, hlink, -⟩ := controlSet_decisions .ascii 1 (wide "\\Services\\Lockguard") (wide "\\Parameters")
    (by decide) (ownServiceName_chars (by decide +kernel) _) (ownServiceName_chars (by decide +kernel) _)
    (by decide +kernel : (lgIsPermissive .zero (driverEntry Worked.reads).window).1 = false)
    (by decide : regNtPreSetValueKey ∈ writeClasses)
  exact ⟨htarget, hlink⟩

/-- Setting a value below the driver's own service key: refused by one spelling, let through by the
other. -/
theorem controlSet_spellings_differ :
    decision .ascii regNtPreSetValueKey (ownServiceName currentControlSet) .zero (driverEntry Worked.reads) ≠
      decision .ascii regNtPreSetValueKey (ownServiceName (controlSet 1)) .zero (driverEntry Worked.reads) := by
  have hlen : 2 * (controlSet 1 ++ wide "\\Services\\Lockguard" ++ wide "\\Parameters").length ≤ 65532 := by
    decide +kernel
  have hchars := ownServiceName_chars hlen .ascii
  rw [List.append_assoc] at hchars
  rw [decision_numbered hchars, decision_linked (by decide) (ownServiceName_chars (by decide +kernel) _)
    (by decide +kernel) (by decide)]
  decide

end Lockguard
