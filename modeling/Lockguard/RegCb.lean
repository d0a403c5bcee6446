import Lockguard.Globals
/-!
# The registry callback (`regcb.c`)

| here | there |
| --- | --- |
| `gProtectedPrefixes`     | `gProtectedPrefixes` (`regcb.c:24-33`) over the names of `lockguard.h:24-31` |
| `KeyObject`              | a key object, as `CmCallbackGetKeyObjectIDEx` answers for it |
| `RegNotification`        | `Argument1` (the `REG_NOTIFY_CLASS` as a pointer) and the information behind `Argument2` |
| `lgRegistryCallback`     | `LgRegistryCallback` (`regcb.c:82-144`) |

The classes carry the values of `wdm.h`. `RegNtPreDeleteKey` is the first of them, 0, so the
notification of a key deletion has a NULL `Argument1`, and the guard at `:87` answers it before
the switch is reached (`registryCallback_deleteKey`).
-/
namespace Lockguard

/-! ## Names -/

def lgRecoveryKey : List WCHAR := wide "\\Registry\\Machine\\SYSTEM\\Lockguard\\Recovery"
def lgServiceKey : List WCHAR :=
  wide "\\Registry\\Machine\\SYSTEM\\CurrentControlSet\\Services\\Lockguard"
def lgServiceKeySvc : List WCHAR :=
  wide "\\Registry\\Machine\\SYSTEM\\CurrentControlSet\\Services\\lockguard-svc"
def lgBcdKey : List WCHAR := wide "\\Registry\\Machine\\BCD00000000"
def lgWlansvcKey : List WCHAR :=
  wide "\\Registry\\Machine\\SYSTEM\\CurrentControlSet\\Services\\Wlansvc"
def lgNetclassKey : List WCHAR :=
  wide "\\Registry\\Machine\\SYSTEM\\CurrentControlSet\\Control\\Class\\\x7b4d36e972-e325-11ce-bfc1-08002be10318\x7d"
def lgIfeoKey : List WCHAR :=
  wide "\\Registry\\Machine\\Software\\Microsoft\\Windows NT\\CurrentVersion\\Image File Execution Options"
def lgSchedTaskKey : List WCHAR :=
  wide "\\Registry\\Machine\\SOFTWARE\\Microsoft\\Windows NT\\CurrentVersion\\Schedule\\TaskCache\\Tree\\Microsoft\\Windows\\Lockguard"

def gProtectedPrefixes : List (List WCHAR) :=
  [lgServiceKey, lgServiceKeySvc, lgBcdKey, lgWlansvcKey, lgRecoveryKey, lgNetclassKey, lgIfeoKey,
    lgSchedTaskKey]

/-- One round of the loop of `LgKeyNameMatchesAny`. -/
def keyNameStartsWith (t : CaseTables) (name pfx : UnicodeString) : Bool :=
  if name.length < pfx.length then false
  else (name.window 0 pfx.length).any fun head => rtlEqualUnicodeString t head pfx

/-- `LgKeyNameMatchesAny` (`:35-53`). -/
def lgKeyNameMatchesAny (t : CaseTables) (name : Option UnicodeString) : Bool :=
  match name with
  | none => false
  | some name => gProtectedPrefixes.any fun pfx => keyNameStartsWith t name (rtlInitUnicodeString pfx)

/-! ## Notifications -/

/-- The answer of `CmCallbackGetKeyObjectIDEx` for a key object: a status and a name pointer. -/
structure KeyObject where
  status : NTSTATUS
  name : Option UnicodeString

structure RegKeyInformation where
  object : Option KeyObject

structure RegNotification where
  argument1 : Nat
  argument2 : Option RegKeyInformation

def regNtPreDeleteKey : Nat := 0
def regNtPreSetValueKey : Nat := 1
def regNtPreDeleteValueKey : Nat := 2
def regNtPreRenameKey : Nat := 4
def regNtPreCreateKeyEx : Nat := 26

/-- `LgResolveKeyName` (`:55-73`): its status and the name it leaves in `Out`. -/
def lgResolveKeyName (obj : KeyObject) : NTSTATUS × Option UnicodeString :=
  if !ntSuccess obj.status || obj.name.isNone then (obj.status, none)
  else (statusSuccess, obj.name)

/-- `LgRegistryCallback` (`:82-144`). The switch takes the object of the four write classes;
`RegNtPreCreateKeyEx` and every other class return before it is looked at. -/
def lgRegistryCallback (t : CaseTables) (n : RegNotification) (now : SysTime) (d : Driver) :
    Reply NTSTATUS :=
  if n.argument1 = 0 then ⟨statusSuccess, d, []⟩
  else if n.argument1 = regNtPreSetValueKey ∨ n.argument1 = regNtPreDeleteValueKey ∨
      n.argument1 = regNtPreDeleteKey ∨ n.argument1 = regNtPreRenameKey then
    match n.argument2.bind RegKeyInformation.object with
    | none => ⟨statusSuccess, d, []⟩
    | some obj =>
      let (s, fullName) := lgResolveKeyName obj
      if !ntSuccess s then ⟨statusSuccess, d, []⟩
      else if !lgKeyNameMatchesAny t fullName then ⟨statusSuccess, d, []⟩
      else unlessPermissive now statusSuccess statusAccessDenied d
  else ⟨statusSuccess, d, []⟩

/-! ## What matches -/

/-- The names fit a counted string and are ASCII. -/
theorem prefixes_wellFormed : (gProtectedPrefixes.all fun p =>
    decide (2 * p.length ≤ 65532) && p.all fun c => decide (c < 128)) = true := by decide +kernel

theorem length_prefixes : ∀ p ∈ gProtectedPrefixes, 2 * p.length ≤ 65532 := by
  intro p hp
  have hboth := List.all_eq_true.1 prefixes_wellFormed p hp
  rw [Bool.and_eq_true, decide_eq_true_eq] at hboth
  exact hboth.1

theorem map_upcase_protected {t : CaseTables} {p : List WCHAR} (hp : p ∈ gProtectedPrefixes) :
    p.map t.upcase = p.map asciiUpcase := by
  have hboth := List.all_eq_true.1 prefixes_wellFormed p hp
  rw [Bool.and_eq_true] at hboth
  exact map_upcase_ascii t hboth.2

theorem keyNameStartsWith_iff {t : CaseTables} {name : UnicodeString} {p : List WCHAR}
    (hp : 2 * p.length ≤ 65532) :
    keyNameStartsWith t name (rtlInitUnicodeString p) = true ↔
      p.map t.upcase <+: name.chars.map t.upcase := by
  have hl := rtlInit_length hp
  have hn := length_chars name
  have hf := name.fits
  unfold keyNameStartsWith
  split
  · rename_i h
    rw [UInt16.lt_iff_toNat_lt, hl] at h
    constructor
    · intro h'; cases h'
    · intro h'
      have := h'.length_le
      simp only [List.length_map] at this
      omega
  · rename_i h
    rw [UInt16.lt_iff_toNat_lt, hl] at h
    have hw : (rtlInitUnicodeString p).length.toNat ≤ 2 * (name.buffer.length - (0 : UInt16).toNat) := by
      rw [hl]; simp; omega
    have hchars : name.buffer.take p.length = name.chars.take p.length := by
      rw [UnicodeString.chars, List.take_take, Nat.min_eq_left (by omega)]
    rw [UnicodeString.window_eq hw, Option.any_some, rtlEqual_iff (by rfl), rtlInit_chars hp]
    simp only [UnicodeString.chars, hl, Nat.mul_div_cancel_left _ (by decide : 0 < 2)]
    rw [List.prefix_iff_eq_take, List.length_map, ← List.map_take]
    simp only [UInt16.toNat_zero, List.drop_zero, hchars]
    exact eq_comm

/-- **`LgKeyNameMatchesAny` is a case-insensitive prefix test.** -/
theorem lgKeyNameMatchesAny_iff {t : CaseTables} {name : UnicodeString} :
    lgKeyNameMatchesAny t (some name) = true ↔
      ∃ p ∈ gProtectedPrefixes, p.map t.upcase <+: name.chars.map t.upcase := by
  simp only [lgKeyNameMatchesAny, List.any_eq_true]
  constructor
  · rintro ⟨p, hp, h⟩; exact ⟨p, hp, (keyNameStartsWith_iff (length_prefixes p hp)).1 h⟩
  · rintro ⟨p, hp, h⟩; exact ⟨p, hp, (keyNameStartsWith_iff (length_prefixes p hp)).2 h⟩

/-! ## What the callback decides -/

/-- The notifications the callback judges by the window. -/
def RegNotification.Guarded (t : CaseTables) (n : RegNotification) : Prop :=
  (n.argument1 = regNtPreSetValueKey ∨ n.argument1 = regNtPreDeleteValueKey ∨
    n.argument1 = regNtPreRenameKey) ∧
  ∃ obj, n.argument2.bind RegKeyInformation.object = some obj ∧ ntSuccess obj.status = true ∧
    lgKeyNameMatchesAny t obj.name = true

theorem registryCallback_guarded {t : CaseTables} {n : RegNotification} (h : n.Guarded t)
    (now : SysTime) (d : Driver) :
    lgRegistryCallback t n now d = unlessPermissive now statusSuccess statusAccessDenied d := by
  obtain ⟨hc, obj, ho, hs, hm⟩ := h
  have hn : obj.name.isNone = false := by
    cases hname : obj.name with
    | none => simp [hname, lgKeyNameMatchesAny] at hm
    | some _ => rfl
  have h0 : n.argument1 ≠ 0 := by
    rcases hc with h | h | h <;> rw [h] <;> decide
  have hc' : n.argument1 = regNtPreSetValueKey ∨ n.argument1 = regNtPreDeleteValueKey ∨
      n.argument1 = regNtPreDeleteKey ∨ n.argument1 = regNtPreRenameKey := by tauto
  simp [lgRegistryCallback, h0, hc', ho, lgResolveKeyName, hs, hn, hm]

theorem registryCallback_unguarded {t : CaseTables} {n : RegNotification} (h : ¬ n.Guarded t)
    (now : SysTime) (d : Driver) : lgRegistryCallback t n now d = ⟨statusSuccess, d, []⟩ := by
  unfold lgRegistryCallback
  split
  · rfl
  rename_i h0
  split
  · rename_i hc
    cases ho : n.argument2.bind RegKeyInformation.object with
    | none => rfl
    | some obj =>
      by_cases hs : ntSuccess obj.status = true
      · by_cases hm : lgKeyNameMatchesAny t obj.name = true
        · refine absurd ⟨?_, obj, ho, hs, hm⟩ h
          rcases hc with h | h | h | h
          · exact Or.inl h
          · exact Or.inr (Or.inl h)
          · exact absurd h h0
          · exact Or.inr (Or.inr h)
        · have hnone : lgKeyNameMatchesAny t none = false := rfl
          simp only [lgResolveKeyName]
          split <;> simp [hm, hnone]
      · simp [lgResolveKeyName, hs]
  · rfl

/-- No key deletion is judged: its class is the NULL `Argument1`. -/
theorem registryCallback_deleteKey (t : CaseTables) (info : Option RegKeyInformation) (now : SysTime)
    (d : Driver) :
    lgRegistryCallback t ⟨regNtPreDeleteKey, info⟩ now d = ⟨statusSuccess, d, []⟩ := by
  simp [lgRegistryCallback, regNtPreDeleteKey]

end Lockguard
