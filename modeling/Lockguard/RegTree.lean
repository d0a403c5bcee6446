import Lockguard.Ioctl
import Lockguard.RegCb
import Lockguard.Lib.PathTree
import Lockguard.Lib.Runs
/-!
# The registry under the callback

The registry as a tree of keys with their values, names compared without regard to case. An
operation takes effect when `LgRegistryCallback` returns success for it, and the callback sees the
current full path of the key. With the window closed that keeps the values under the recovery key
from being set or deleted one by one, but not from being deleted with their key, nor from being
renamed away or in with a key above them: `Harms` names these operations, `regRun_keeps` says that
without them the values stay, and `regStep_keeps_iff` that each of them is let through and changes
the values.
-/
namespace Lockguard

open PathTree Runs

/-- A key's values, by their folded names. -/
abbrev KeyValues := Name → Option RegValue

/-- Keys by their folded paths. -/
abbrev RegTree := Tree Name KeyValues

/-- A key by its current path, in its own spelling, with the name the kernel reports for it. -/
structure KeyRef where
  path : List Name
  name : UnicodeString
  spelled : name.chars = pathText path

inductive RegOp where
  | createKey (parent : KeyRef) (name : Name)
  | setValue (key : KeyRef) (name : Name) (value : RegValue)
  | deleteValue (key : KeyRef) (name : Name)
  | deleteKey (key : KeyRef)
  | renameKey (key : KeyRef) (name : Name)

/-- What the callback is told of a key: every lookup succeeds. -/
def KeyRef.info (key : KeyRef) : Option RegKeyInformation := some ⟨some ⟨statusSuccess, some key.name⟩⟩

def RegOp.notification : RegOp → RegNotification
  | .createKey _ _ => ⟨regNtPreCreateKeyEx, some ⟨none⟩⟩
  | .setValue key _ _ => ⟨regNtPreSetValueKey, key.info⟩
  | .deleteValue key _ => ⟨regNtPreDeleteValueKey, key.info⟩
  | .deleteKey key => ⟨regNtPreDeleteKey, key.info⟩
  | .renameKey key _ => ⟨regNtPreRenameKey, key.info⟩

/-- What the operation does to the registry once the callback has let it through. -/
noncomputable def RegOp.effect (t : CaseTables) (tree : RegTree) : RegOp → RegTree
  | .createKey parent name => create tree (foldPath t parent.path) (foldName t name) fun _ => none
  | .setValue key name value =>
    modify tree (foldPath t key.path) fun vs => Function.update vs (foldName t name) (some value)
  | .deleteValue key name => modify tree (foldPath t key.path) fun vs => Function.update vs (foldName t name) none
  | .deleteKey key => remove tree (foldPath t key.path)
  | .renameKey key name => rename tree (foldPath t key.path) (foldName t name)

/-- An operation issued while the window is closed: the callback's own question is answered FALSE. -/
structure RegIssue where
  op : RegOp
  now : SysTime
  driver : Driver
  closed : (lgIsPermissive now driver.window).1 = false

def RegIssue.letThrough (t : CaseTables) (x : RegIssue) : Bool :=
  ntSuccess (lgRegistryCallback t x.op.notification x.now x.driver).value

noncomputable def regStep (t : CaseTables) (tree : RegTree) (x : RegIssue) : RegTree :=
  if x.letThrough t then x.op.effect t tree else tree

noncomputable abbrev regRun (t : CaseTables) (tree : RegTree) (xs : List RegIssue) : RegTree :=
  final (regStep t) tree xs

/-! ## The recovery key -/

def recoveryComponents : List Name :=
  [wide "Registry", wide "Machine", wide "SYSTEM", wide "Lockguard", wide "Recovery"]

def recoveryPath (t : CaseTables) : List Name := foldPath t recoveryComponents

/-- The value `n` of the key at `p`, if there is one. -/
def valueAt (tree : RegTree) (p : List Name) (n : Name) : Option RegValue := (tree p).bind fun vs => vs n

/-- The values stored at and below the recovery key are the same. -/
def SameRecovery (t : CaseTables) (tree tree' : RegTree) : Prop :=
  ∀ r, recoveryPath t <+: r → ∀ n, valueAt tree' r n = valueAt tree r n

/-- The operation deletes a key at or below the recovery key, with a value of its own, or renames a
key that no protected name covers, so that a value below the recovery key is carried away or one is
carried in. -/
def Harms (t : CaseTables) (tree : RegTree) : RegOp → Prop
  | .createKey _ _ => False
  | .setValue _ _ _ => False
  | .deleteValue _ _ => False
  | .deleteKey key => recoveryPath t <+: foldPath t key.path ∧ Childless tree (foldPath t key.path) ∧
      ∃ n, valueAt tree (foldPath t key.path) n ≠ none
  | .renameKey key name => lgKeyNameMatchesAny t (some key.name) = false ∧
      CanRename tree (foldPath t key.path) (foldName t name) ∧
      ((∃ r n, recoveryPath t <+: r ∧ foldPath t key.path <+: r ∧ valueAt tree r n ≠ none) ∨
        ∃ s n, recoveryPath t <+: sibling (foldPath t key.path) (foldName t name) ++ s ∧
          valueAt tree (foldPath t key.path ++ s) n ≠ none)

/-! ## What the callback lets through -/

theorem recovery_text : pathText recoveryComponents = lgRecoveryKey := by decide

/-- **A key at or below the recovery key has a protected name.** -/
theorem recovery_matches {t : CaseTables} {key : KeyRef} (h : recoveryPath t <+: foldPath t key.path) :
    lgKeyNameMatchesAny t (some key.name) = true := by
  rw [lgKeyNameMatchesAny_iff]
  refine ⟨lgRecoveryKey, by decide, ?_⟩
  obtain ⟨rest, hrest⟩ := h
  obtain ⟨p, q, hpath, hp, -⟩ := List.map_eq_append_iff.1 hrest.symm
  rw [key.spelled, hpath, pathText_append, List.map_append, ← recovery_text]
  have hcongr : (pathText recoveryComponents).map t.upcase = (pathText p).map t.upcase :=
    map_pathText_congr hp.symm
  rw [hcongr]
  exact List.prefix_append _ _

section
variable {t : CaseTables} {x : RegIssue}

/-- Of the operations on an existing key, all but its deletion are judged by its name. -/
theorem letThrough_guarded {key : KeyRef} (hn : x.op.notification.argument2 = key.info)
    (hc : x.op.notification.argument1 = regNtPreSetValueKey ∨
      x.op.notification.argument1 = regNtPreDeleteValueKey ∨
      x.op.notification.argument1 = regNtPreRenameKey) :
    x.letThrough t = true ↔ lgKeyNameMatchesAny t (some key.name) = false := by
  cases hm : lgKeyNameMatchesAny t (some key.name) with
  | true =>
    have hg : x.op.notification.Guarded t := ⟨hc, _, by rw [hn]; rfl, ntSuccess_success, hm⟩
    simp [RegIssue.letThrough, registryCallback_guarded hg, unlessPermissive, x.closed]
  | false =>
    have hu : ¬ x.op.notification.Guarded t := by
      rintro ⟨-, obj, hobj, -, hmatch⟩
      rw [hn] at hobj
      cases hobj
      rw [hm] at hmatch
      cases hmatch
    simp [RegIssue.letThrough, registryCallback_unguarded hu]

theorem letThrough_deleteKey {key : KeyRef} (hx : x.op = .deleteKey key) : x.letThrough t = true := by
  simp only [RegIssue.letThrough, hx, RegOp.notification, registryCallback_deleteKey, ntSuccess_success]

end

/-! ## What one operation does -/

section
variable {t : CaseTables} {tree tree' : RegTree}

theorem SameRecovery.refl (t : CaseTables) (tree : RegTree) : SameRecovery t tree tree := fun _ _ _ => rfl

theorem SameRecovery.trans {tree'' : RegTree} (h : SameRecovery t tree tree') (h' : SameRecovery t tree' tree'') :
    SameRecovery t tree tree'' :=
  fun r hr n => (h' r hr n).trans (h r hr n)

theorem sameRecovery_of_outside {p : List Name} (hp : ¬ recoveryPath t <+: p)
    (h : ∀ r, r ≠ p → tree' r = tree r) : SameRecovery t tree tree' := by
  intro r hr n
  have hne : r ≠ p := fun he => hp (he ▸ hr)
  rw [valueAt, h r hne, valueAt]

/-- A new key has no values. -/
theorem create_same (p : List Name) (c : Name) :
    SameRecovery t tree (create tree p c fun _ => none) := by
  intro r _ n
  by_cases hr : r = p ++ [c]
  · subst hr
    unfold create
    split
    · rename_i hcan
      rw [valueAt, Function.update_self, valueAt, Option.isNone_iff_eq_none.1 hcan.2]
      rfl
    · rfl
  · rw [valueAt, create_of_ne _ hr, valueAt]

theorem remove_same_iff {p : List Name} :
    SameRecovery t tree (remove tree p) ↔
      ¬ (recoveryPath t <+: p ∧ Childless tree p ∧ ∃ n, valueAt tree p n ≠ none) := by
  constructor
  · rintro h ⟨hp, hchild, n, hn⟩
    have hsame := h p hp n
    rw [valueAt, remove_self hchild] at hsame
    exact hn hsame.symm
  · intro h
    by_cases hchild : Childless tree p
    · by_cases hp : recoveryPath t <+: p
      · intro r _ n
        by_cases hr : r = p
        · subst hr
          have hnone : valueAt tree r n = none := by
            by_contra hn
            exact h ⟨hp, hchild, n, hn⟩
          rw [hnone, valueAt, remove_self hchild]
          rfl
        · rw [valueAt, remove_of_ne hr, valueAt]
      · exact sameRecovery_of_outside hp fun r hr => remove_of_ne hr
    · rw [remove_of_children hchild]
      exact .refl t tree

/-- A rename changes the values below the recovery key by those it takes away and those it brings. -/
theorem rename_same_iff (hroot : Rooted tree) {p : List Name} {c : Name} (hcan : CanRename tree p c) :
    SameRecovery t tree (rename tree p c) ↔
      ¬ ((∃ r n, recoveryPath t <+: r ∧ p <+: r ∧ valueAt tree r n ≠ none) ∨
        ∃ s n, recoveryPath t <+: sibling p c ++ s ∧ valueAt tree (p ++ s) n ≠ none) := by
  have hfree : ∀ s n, valueAt tree (sibling p c ++ s) n = none := by
    intro s n
    rw [valueAt, hroot.none_below (Option.isNone_iff_eq_none.1 hcan.2.2)]
    rfl
  rw [rename_eq hcan]
  constructor
  · rintro h (⟨r, n, hr, hp, hn⟩ | ⟨s, n, hr, hn⟩)
    · have hsame := h r hr n
      rw [valueAt, move_source (not_prefix_of_sibling hcan hp) hp] at hsame
      exact hn hsame.symm
    · have hsame := h _ hr n
      rw [hfree, valueAt, move_target] at hsame
      exact hn hsame
  · intro h r hr n
    by_cases hq : sibling p c <+: r
    · obtain ⟨s, rfl⟩ := hq
      have hnone : valueAt tree (p ++ s) n = none := by
        by_contra hn
        exact h (Or.inr ⟨s, n, hr, hn⟩)
      rw [hfree, valueAt, move_target]
      exact hnone
    · by_cases hp : p <+: r
      · have hnone : valueAt tree r n = none := by
          by_contra hn
          exact h (Or.inl ⟨r, n, hr, hp, hn⟩)
        rw [hnone, valueAt, move_source hq hp]
        rfl
      · rw [valueAt, move_outside hq hp, valueAt]

theorem regStep_rooted (h : Rooted tree) (x : RegIssue) : Rooted (regStep t tree x) := by
  unfold regStep
  split
  · cases x.op with
    | createKey parent name => exact h.create _ _ _
    | setValue key name value => exact h.modify _ _
    | deleteValue key name => exact h.modify _ _
    | deleteKey key => exact h.remove _
    | renameKey key name => exact h.rename _ _
  · exact h

/-- Values are set and deleted only under a name the callback does not match. -/
theorem modify_same {x : RegIssue} (key : KeyRef) (hn : x.op.notification.argument2 = key.info)
    (hc : x.op.notification.argument1 = regNtPreSetValueKey ∨
      x.op.notification.argument1 = regNtPreDeleteValueKey)
    {f : KeyValues → KeyValues} (he : x.op.effect t tree = modify tree (foldPath t key.path) f) :
    SameRecovery t tree (regStep t tree x) := by
  unfold regStep
  split
  · rename_i hlet
    have hname := (letThrough_guarded hn (hc.imp_right Or.inl)).1 hlet
    have hout : ¬ recoveryPath t <+: foldPath t key.path := by
      intro hp
      rw [recovery_matches hp] at hname
      cases hname
    rw [he]
    exact sameRecovery_of_outside hout fun r hr => modify_of_ne f hr
  · exact .refl t tree

/-- **What one operation does to the recovery values**: it changes them exactly when it is one of
`Harms`. -/
theorem regStep_keeps_iff (hroot : Rooted tree) (x : RegIssue) :
    SameRecovery t tree (regStep t tree x) ↔ ¬ Harms t tree x.op := by
  cases hx : x.op with
  | createKey parent name =>
    refine ⟨fun _ h => h, ?_⟩
    intro _
    unfold regStep
    split
    · rw [hx]; exact create_same _ _
    · exact .refl t tree
  | setValue key name value =>
    exact ⟨fun _ h => h, fun _ => modify_same key (by rw [hx]; rfl) (by rw [hx]; exact Or.inl rfl)
      (by rw [hx]; rfl)⟩
  | deleteValue key name =>
    exact ⟨fun _ h => h, fun _ => modify_same key (by rw [hx]; rfl) (by rw [hx]; exact Or.inr rfl)
      (by rw [hx]; rfl)⟩
  | deleteKey key =>
    rw [regStep, if_pos (letThrough_deleteKey hx), hx]
    exact remove_same_iff
  | renameKey key name =>
    have hlet : x.letThrough t = true ↔ lgKeyNameMatchesAny t (some key.name) = false :=
      letThrough_guarded (by rw [hx]; rfl) (by rw [hx]; exact Or.inr (Or.inr rfl))
    unfold regStep
    split
    · rename_i hl
      rw [hx]
      by_cases hcan : CanRename tree (foldPath t key.path) (foldName t name)
      · refine (rename_same_iff hroot hcan).trans (not_congr ⟨fun h => ⟨hlet.1 hl, hcan, h⟩, fun h => h.2.2⟩)
      · refine iff_of_true ?_ fun h => hcan h.2.1
        simp only [RegOp.effect, rename_of_not hcan]
        exact .refl t tree
    · rename_i hl
      exact iff_of_true (.refl t tree) fun h => hl (hlet.2 h.1)

/-! ## Runs -/

/-- **The recovery values over a run** with the window closed: as long as no operation is one of
`Harms`, they are at the end what they were at the start. -/
theorem regRun_keeps (hroot : Rooted tree) (xs : List RegIssue)
    (hxs : ∀ pre x post, turns (regStep t) tree xs = pre ++ x :: post → ¬ Harms t x.before x.event.op) :
    SameRecovery t tree (regRun t tree xs) := by
  have hinv := inv_of (regStep t) (A := fun _ x => ¬ Harms t x.before x.event.op)
    (I := fun _ now => Rooted now ∧ SameRecovery t tree now) ⟨hroot, .refl t tree⟩
    (fun _ now x h hx => ⟨regStep_rooted h.1 x, h.2.trans ((regStep_keeps_iff h.1 x).2 hx)⟩) xs hxs
  exact hinv.2

end

/-! ## A worked registry -/

/-- The recovery key with a verifier, and the keys above it. -/
def workedTree : RegTree := fun p =>
  if p = recoveryPath .ascii then
    some fun n => if n = foldName .ascii (wide "Verifier") then some ⟨regBinary, Worked.verifier.toList⟩ else none
  else if p <+: recoveryPath .ascii then some fun _ => none
  else none

theorem workedTree_isSome {p : List Name} : (workedTree p).isSome ↔ p <+: recoveryPath .ascii := by
  unfold workedTree
  split
  · rename_i h; simp [h]
  · split <;> simp_all

theorem workedTree_rooted : Rooted workedTree := by
  intro p c h
  rw [workedTree_isSome] at h ⊢
  exact (List.prefix_append p [c]).trans h

theorem workedTree_verifier :
    valueAt workedTree (recoveryPath .ascii) (foldName .ascii (wide "Verifier")) ≠ none := by
  simp [valueAt, workedTree]

/-- A key whose name fits a counted string. -/
def keyRef (path : List Name) (h : 2 * (pathText path).length ≤ 65532) : KeyRef :=
  ⟨path, rtlInitUnicodeString (pathText path), rtlInit_chars h⟩

def recoveryKeyRef : KeyRef := keyRef recoveryComponents (by decide +kernel)

/-- `\Registry\Machine\SYSTEM\Lockguard`. -/
def lockguardKeyRef : KeyRef := keyRef (recoveryComponents.take 4) (by decide +kernel)

/-- An operation just after the driver has started. -/
def workedIssue (op : RegOp) : RegIssue := ⟨op, Worked.time 0, driverEntry Worked.reads, by decide +kernel⟩

/-- The recovery key's verifier written over, and then the key above it deleted, in vain. -/
theorem regRun_keeps_refused : SameRecovery .ascii workedTree (regRun .ascii workedTree
    [workedIssue (.setValue recoveryKeyRef (wide "Verifier") ⟨regBinary, []⟩),
      workedIssue (.deleteKey lockguardKeyRef)]) := by
  apply regRun_keeps workedTree_rooted
  intro pre x post h
  obtain ⟨before, after, hxs, -⟩ := turns_split (regStep .ascii) h
  have hmem : x.event ∈ [workedIssue (.setValue recoveryKeyRef (wide "Verifier") ⟨regBinary, []⟩),
      workedIssue (.deleteKey lockguardKeyRef)] := by
    rw [hxs]; simp
  rcases List.mem_cons.1 hmem with hx | hx
  · rw [hx]
    exact id
  · rw [List.mem_singleton.1 hx]
    rintro ⟨hpre, -⟩
    have hlen := hpre.length_le
    revert hlen
    decide

/-- The recovery key deleted, or the key above it renamed: either takes the verifier away. -/
theorem regRun_not_keeps :
    ¬ SameRecovery .ascii workedTree (regRun .ascii workedTree [workedIssue (.deleteKey recoveryKeyRef)]) ∧
    ¬ SameRecovery .ascii workedTree
      (regRun .ascii workedTree [workedIssue (.renameKey lockguardKeyRef (wide "Aside"))]) := by
  have hharm : ∀ x, Harms .ascii workedTree x.op → ¬ SameRecovery .ascii workedTree (regRun .ascii workedTree [x]) :=
    fun x hx hsame => (regStep_keeps_iff workedTree_rooted x).1 hsame hx
  constructor
  · refine hharm _ ⟨List.prefix_refl _, ?_, _, workedTree_verifier⟩
    intro c
    rw [← Option.not_isSome_iff_eq_none, workedTree_isSome]
    intro hpre
    have hlen := hpre.length_le
    simp only [recoveryKeyRef, keyRef, recoveryPath, List.length_append, List.length_singleton] at hlen
    omega
  · refine hharm _ ⟨by decide +kernel, ⟨by decide, ?_, ?_⟩, Or.inl ⟨_, _, List.prefix_refl _, ?_, workedTree_verifier⟩⟩
    · rw [workedTree_isSome]
      decide +kernel
    · rw [Option.isNone_iff_eq_none, ← Option.not_isSome_iff_eq_none, workedTree_isSome]
      decide +kernel
    · decide +kernel

end Lockguard
