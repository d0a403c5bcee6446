import Lockguard.Ioctl
import Lockguard.RegCb
/-!
# The name buffers of the registry callback (`regcb.c:55-144`)

| here | there |
| --- | --- |
| `LookedUpKey`               | a key object, with the pointer `CmCallbackGetKeyObjectIDEx` answers for it |
| `NamePointer`               | a name the registry manager handed out, or the local `fullName` of the callback |
| `NameLog`                   | the registry manager's account of what it handed out and took back |
| `resolveKeyName`, `freeKeyName` | `LgResolveKeyName`, `LgFreeKeyName`, with the calls they make |
| `registryCallback`          | `LgRegistryCallback`, the same (`registryCallback_reply`) |

`LgResolveKeyName` copies the header behind the pointer and drops the pointer, so the address the
callback gives back is that of its copy.
-/
namespace Lockguard

/-! ## The registry manager -/

inductive NamePointer where
  | handedOut (serial : Nat)
  | fullName
deriving DecidableEq

inductive NameEvent where
  | handed (p : NamePointer)
  | released (p : NamePointer)
deriving DecidableEq

/-- Every name handed out is a new pointer. -/
structure NameLog where
  next : Nat
  events : List NameEvent

def NameLog.start : NameLog := ⟨0, []⟩

/-- The name is a pointer, NULL or to a header, and the header's `Buffer` may be NULL. -/
structure LookedUpKey where
  status : NTSTATUS
  name : Option (Option UnicodeString)

/-- A name looked up: the pointer, and the header behind it. -/
structure KeyName where
  pointer : NamePointer
  header : Option UnicodeString

/-- `CmCallbackGetKeyObjectIDEx` asked for a name. -/
def cmCallbackGetKeyObjectID (obj : LookedUpKey) (names : NameLog) : NTSTATUS × Option KeyName × NameLog :=
  if !ntSuccess obj.status then (obj.status, none, names)
  else match obj.name with
    | none => (obj.status, none, names)
    | some header =>
      (obj.status, some ⟨.handedOut names.next, header⟩,
        ⟨names.next + 1, names.events ++ [.handed (.handedOut names.next)]⟩)

def cmCallbackReleaseKeyObjectID (p : NamePointer) (names : NameLog) : NameLog :=
  { names with events := names.events ++ [.released p] }

/-! ## The callback -/

/-- `LgResolveKeyName` (`:55-73`): its status and what it leaves in `*Out`. Its first call asks for
no name. -/
def resolveKeyName (obj : LookedUpKey) (names : NameLog) : NTSTATUS × Option UnicodeString × NameLog :=
  let (s, name, names) := cmCallbackGetKeyObjectID obj names
  match name with
  | none => (s, none, names)
  | some name => (statusSuccess, name.header, names)

/-- `LgFreeKeyName` (`:75-80`), of the name at an address. -/
def freeKeyName (address : NamePointer) (name : Option UnicodeString) (names : NameLog) : NameLog :=
  if name.isSome then cmCallbackReleaseKeyObjectID address names else names

structure NameInformation where
  object : Option LookedUpKey

structure NameNotification where
  argument1 : Nat
  argument2 : Option NameInformation

/-- `LgRegistryCallback` (`:82-144`), as `lgRegistryCallback` with the registry manager beside it. -/
def registryCallback (t : CaseTables) (n : NameNotification) (now : SysTime) (d : Driver) (names : NameLog) :
    Reply NTSTATUS × NameLog :=
  if n.argument1 = 0 then (⟨statusSuccess, d, []⟩, names)
  else if n.argument1 = regNtPreSetValueKey ∨ n.argument1 = regNtPreDeleteValueKey ∨
      n.argument1 = regNtPreDeleteKey ∨ n.argument1 = regNtPreRenameKey then
    match n.argument2.bind NameInformation.object with
    | none => (⟨statusSuccess, d, []⟩, names)
    | some obj =>
      let (s, fullName, names) := resolveKeyName obj names
      if !ntSuccess s then (⟨statusSuccess, d, []⟩, names)
      else
        let deny := lgKeyNameMatchesAny t fullName
        let names := freeKeyName .fullName fullName names
        if !deny then (⟨statusSuccess, d, []⟩, names)
        else (unlessPermissive now statusSuccess statusAccessDenied d, names)
  else (⟨statusSuccess, d, []⟩, names)

/-! ## The same answers -/

/-- The object as the decision sees it: a header without a buffer is no name. -/
def LookedUpKey.keyObject (obj : LookedUpKey) : KeyObject := ⟨obj.status, obj.name.join⟩

def NameNotification.regNotification (n : NameNotification) : RegNotification :=
  ⟨n.argument1, n.argument2.map fun info => ⟨info.object.map LookedUpKey.keyObject⟩⟩

/-- The lookup decides alike with and without its pointer. -/
theorem resolveKeyName_decides (t : CaseTables) (obj : LookedUpKey) (names : NameLog) :
    ntSuccess (resolveKeyName obj names).1 = ntSuccess (lgResolveKeyName obj.keyObject).1 ∧
      lgKeyNameMatchesAny t (resolveKeyName obj names).2.1 =
        lgKeyNameMatchesAny t (lgResolveKeyName obj.keyObject).2 := by
  obtain ⟨status, name⟩ := obj
  unfold resolveKeyName cmCallbackGetKeyObjectID lgResolveKeyName LookedUpKey.keyObject
  cases hs : ntSuccess status with
  | false => simp [hs]
  | true =>
    rcases name with _ | _ | name <;> simp [hs]

/-- **The account changes no answer.** -/
theorem registryCallback_reply (t : CaseTables) (n : NameNotification) (now : SysTime) (d : Driver)
    (names : NameLog) : (registryCallback t n now d names).1 = lgRegistryCallback t n.regNotification now d := by
  have hobject : n.regNotification.argument2.bind RegKeyInformation.object =
      (n.argument2.bind NameInformation.object).map LookedUpKey.keyObject := by
    cases h : n.argument2 <;> simp [NameNotification.regNotification, h]
  have hclass : n.regNotification.argument1 = n.argument1 := rfl
  unfold registryCallback lgRegistryCallback
  rw [hobject]
  simp only [hclass]
  by_cases hzero : n.argument1 = 0
  · simp only [if_pos hzero]
  by_cases hswitch : n.argument1 = regNtPreSetValueKey ∨ n.argument1 = regNtPreDeleteValueKey ∨
      n.argument1 = regNtPreDeleteKey ∨ n.argument1 = regNtPreRenameKey
  · simp only [if_neg hzero, if_pos hswitch]
    cases n.argument2.bind NameInformation.object with
    | none => rfl
    | some obj =>
      obtain ⟨hstatus, hmatch⟩ := resolveKeyName_decides t obj names
      simp only [Option.map_some, hstatus, hmatch]
      by_cases hs : ntSuccess (lgResolveKeyName obj.keyObject).1 = true
      · by_cases hdeny : lgKeyNameMatchesAny t (lgResolveKeyName obj.keyObject).2 = true <;> simp [hs, hdeny]
      · simp [hs]
  · simp only [if_neg hzero, if_neg hswitch]

/-! ## What one notification adds to the account -/

/-- The notification makes the callback look a name up, and it gets one. -/
def NameNotification.ResolvesName (n : NameNotification) : Prop :=
  (n.argument1 = regNtPreSetValueKey ∨ n.argument1 = regNtPreDeleteValueKey ∨ n.argument1 = regNtPreRenameKey) ∧
  ∃ obj, n.argument2.bind NameInformation.object = some obj ∧ ntSuccess obj.status = true ∧ obj.name.isSome

/-- A resolved name is handed out, and never given back: what is given back, if anything, is the
address of the copy. -/
theorem registryCallback_resolves {n : NameNotification} (h : n.ResolvesName) (t : CaseTables) (now : SysTime)
    (d : Driver) (names : NameLog) :
    ∃ given, (given = [] ∨ given = [NameEvent.released .fullName]) ∧
      (registryCallback t n now d names).2 =
        ⟨names.next + 1, names.events ++ .handed (.handedOut names.next) :: given⟩ := by
  obtain ⟨hclass, obj, hobj, hs, hname⟩ := h
  obtain ⟨header, hheader⟩ := Option.isSome_iff_exists.1 hname
  have hzero : n.argument1 ≠ 0 := by
    rcases hclass with h | h | h <;> rw [h] <;> decide
  have hswitch : n.argument1 = regNtPreSetValueKey ∨ n.argument1 = regNtPreDeleteValueKey ∨
      n.argument1 = regNtPreDeleteKey ∨ n.argument1 = regNtPreRenameKey := by
    tauto
  have hresolve : resolveKeyName obj names = (statusSuccess, header,
      ⟨names.next + 1, names.events ++ [.handed (.handedOut names.next)]⟩) := by
    simp [resolveKeyName, cmCallbackGetKeyObjectID, hs, hheader]
  simp only [registryCallback, if_neg hzero, if_pos hswitch, hobj, hresolve, ntSuccess_success, Bool.not_true,
    Bool.false_eq_true, if_false]
  cases header with
  | none => exact ⟨[], Or.inl rfl, by split <;> rfl⟩
  | some name =>
    refine ⟨[.released .fullName], Or.inr rfl, ?_⟩
    split <;> simp [freeKeyName, cmCallbackReleaseKeyObjectID]

theorem registryCallback_resolves_none {n : NameNotification} (h : ¬ n.ResolvesName) (t : CaseTables)
    (now : SysTime) (d : Driver) (names : NameLog) : (registryCallback t n now d names).2 = names := by
  unfold registryCallback
  split
  · rfl
  rename_i hzero
  split
  · rename_i hclass
    cases hobj : n.argument2.bind NameInformation.object with
    | none => rfl
    | some obj =>
      by_cases hs : ntSuccess obj.status = true
      · cases hname : obj.name with
        | none => simp [resolveKeyName, cmCallbackGetKeyObjectID, hs, hname, lgKeyNameMatchesAny, freeKeyName]
        | some header =>
          refine absurd ⟨?_, obj, hobj, hs, by simp [hname]⟩ h
          rcases hclass with h | h | h | h
          · exact Or.inl h
          · exact Or.inr (Or.inl h)
          · exact absurd h hzero
          · exact Or.inr (Or.inr h)
      · simp [resolveKeyName, cmCallbackGetKeyObjectID, hs]
  · rfl

/-! ## A sequence of notifications -/

/-- A notification, with the clock reading and the driver's state it meets. -/
structure RegTurn where
  notification : NameNotification
  now : SysTime
  driver : Driver

def namesAfter (t : CaseTables) (turns : List RegTurn) (names : NameLog) : NameLog :=
  turns.foldl (fun names turn => (registryCallback t turn.notification turn.now turn.driver names).2) names

theorem namesAfter_cons (t : CaseTables) (turn : RegTurn) (turns : List RegTurn) (names : NameLog) :
    namesAfter t (turn :: turns) names =
      namesAfter t turns (registryCallback t turn.notification turn.now turn.driver names).2 := rfl

theorem namesAfter_append (t : CaseTables) (turns turns' : List RegTurn) (names : NameLog) :
    namesAfter t (turns ++ turns') names = namesAfter t turns' (namesAfter t turns names) := by
  simp [namesAfter]

/-- Every pointer is given back as often as it was handed out. -/
def NameLog.Balanced (names : NameLog) : Prop :=
  ∀ p, names.events.count (.released p) = names.events.count (.handed p)

/-- The account of every run: what was handed out was so once, and none of it was given back. -/
structure NameLog.Kept (names : NameLog) : Prop where
  once : ∀ i, names.events.count (.handed (.handedOut i)) = if i < names.next then 1 else 0
  never : ∀ i, names.events.count (.released (.handedOut i)) = 0

theorem kept_start : NameLog.start.Kept := ⟨fun _ => rfl, fun _ => rfl⟩

theorem kept_turn {names : NameLog} (h : names.Kept) (t : CaseTables) (turn : RegTurn) :
    (registryCallback t turn.notification turn.now turn.driver names).2.Kept := by
  by_cases hr : turn.notification.ResolvesName
  · obtain ⟨given, hgiven, heq⟩ := registryCallback_resolves hr t turn.now turn.driver names
    have hhanded : ∀ i, given.count (.handed (.handedOut i)) = 0 := by
      intro i
      rcases hgiven with rfl | rfl <;> rfl
    have hreleased : ∀ i, given.count (.released (.handedOut i)) = 0 := by
      intro i
      rcases hgiven with rfl | rfl <;> rfl
    rw [heq]
    constructor
    · intro i
      rw [List.count_append, List.count_cons, h.once i, hhanded i]
      by_cases hi : i = names.next
      · simp [hi]
      · have hne : ((NameEvent.handed (.handedOut names.next)) == .handed (.handedOut i)) = false := by
          simp [Ne.symm hi]
        rw [hne]
        simp only [Bool.false_eq_true, if_false]
        split <;> split <;> omega
    · intro i
      rw [List.count_append, List.count_cons, h.never i, hreleased i]
      rfl
  · rw [registryCallback_resolves_none hr]
    exact h

theorem kept_after (t : CaseTables) (turns : List RegTurn) {names : NameLog} (h : names.Kept) :
    (namesAfter t turns names).Kept := by
  induction turns generalizing names with
  | nil => exact h
  | cons turn turns ih =>
    rw [namesAfter_cons]
    exact ih (kept_turn h t turn)

theorem next_mono (t : CaseTables) (turns : List RegTurn) (names : NameLog) :
    names.next ≤ (namesAfter t turns names).next := by
  induction turns generalizing names with
  | nil => exact Nat.le_refl _
  | cons turn turns ih =>
    rw [namesAfter_cons]
    refine Nat.le_trans ?_ (ih _)
    by_cases hr : turn.notification.ResolvesName
    · obtain ⟨_, -, heq⟩ := registryCallback_resolves hr t turn.now turn.driver names
      simp [heq]
    · rw [registryCallback_resolves_none hr]

/-- A run that resolves no name leaves the account as it was. -/
theorem namesAfter_none {t : CaseTables} {turns : List RegTurn}
    (h : ∀ turn ∈ turns, ¬ turn.notification.ResolvesName) (names : NameLog) : namesAfter t turns names = names := by
  induction turns generalizing names with
  | nil => rfl
  | cons turn turns ih =>
    have hfirst := registryCallback_resolves_none (h turn List.mem_cons_self) t turn.now turn.driver names
    have hrest := ih (fun turn' hmem => h turn' (List.mem_cons_of_mem _ hmem)) names
    rw [namesAfter_cons, hfirst, hrest]

/-- A run that resolves a name has handed one out. -/
theorem next_pos_of_resolves {t : CaseTables} {turns : List RegTurn} {turn : RegTurn} (hmem : turn ∈ turns)
    (h : turn.notification.ResolvesName) (names : NameLog) : 0 < (namesAfter t turns names).next := by
  obtain ⟨before, after, rfl⟩ := List.append_of_mem hmem
  rw [namesAfter_append]
  obtain ⟨_, -, heq⟩ := registryCallback_resolves h t turn.now turn.driver (namesAfter t before names)
  have hmono := next_mono t after (registryCallback t turn.notification turn.now turn.driver (namesAfter t before names)).2
  rw [namesAfter_cons]
  rw [heq] at hmono ⊢
  exact Nat.lt_of_lt_of_le (Nat.succ_pos _) hmono

/-- **When the account is balanced** after each notification of a run: when none of them resolves a
name. -/
theorem names_balanced_iff (t : CaseTables) (turns : List RegTurn) :
    (∀ before, before <+: turns → (namesAfter t before .start).Balanced) ↔
      ∀ turn ∈ turns, ¬ turn.notification.ResolvesName := by
  constructor
  · intro hbalanced turn hmem hr
    have hkept := kept_after t turns kept_start
    have hpos := next_pos_of_resolves (t := t) hmem hr .start
    have hfirst := hbalanced turns (List.prefix_refl _) (.handedOut 0)
    rw [hkept.never 0, hkept.once 0, if_pos hpos] at hfirst
    cases hfirst
  · rintro hnone before ⟨after, rfl⟩
    have hbefore : ∀ turn ∈ before, ¬ turn.notification.ResolvesName :=
      fun turn hmem => hnone turn (List.mem_append_left _ hmem)
    rw [namesAfter_none hbefore]
    exact fun _ => rfl

namespace Worked

/-- A value is set under the key `\Registry\Machine\SOFTWARE`, which nothing protects. -/
def setValue : NameNotification where
  argument1 := regNtPreSetValueKey
  argument2 := some ⟨some ⟨statusSuccess, some (some (rtlInitUnicodeString (wide "\\Registry\\Machine\\SOFTWARE")))⟩⟩

def setValueTurn : RegTurn := ⟨setValue, time 0, driverEntry reads⟩

end Worked

/-- One write of a value leaves the name outstanding, and gives back a pointer never handed out. -/
theorem names_not_balanced :
    (namesAfter .ascii [Worked.setValueTurn] .start).events =
      [.handed (.handedOut 0), .released .fullName] ∧
    ¬ (namesAfter .ascii [Worked.setValueTurn] .start).Balanced := by
  have hevents : (namesAfter .ascii [Worked.setValueTurn] .start).events =
      [.handed (.handedOut 0), .released .fullName] := by decide +kernel
  refine ⟨hevents, ?_⟩
  intro hbalanced
  have hfirst := hbalanced (.handedOut 0)
  rw [hevents] at hfirst
  revert hfirst
  decide

end Lockguard
