import Lockguard.CheckResults
import Lockguard.CheckCalls
/-!
# What one failure keeps a pass from mending

The items a pass mends are the two files, the filter lists of the WLAN interfaces and the IFEO
entries. `isolation_iff`: an item that has drifted and whose own operations succeed is mended unless
it is `Starved`, which an IFEO entry and the driver's image never are.
-/
namespace Lockguard

open Calls

section
variable {t : CaseTables} {env : Call → Outcome} {ssid : Bytes}

/-! ## The WLAN lists -/

/-- What `wlanFiltersOK` asks of one interface. -/
def ListsRight (m : Host) (ssid : Bytes) (g : Guid) : Prop :=
  permitFound ssid (m.filterList g wlanFilterListGroupPolicyPermit) = true ∧
    m.filterList g wlanFilterListGroupPolicyDeny ≠ []

instance (m : Host) (ssid : Bytes) (g : Guid) : Decidable (ListsRight m ssid g) :=
  inferInstanceAs (Decidable (_ ∧ _))

def GetsSucceed (env : Call → Outcome) (g : Guid) : Prop :=
  (env (.wlanGetFilterList g wlanFilterListGroupPolicyPermit)).fails = false ∧
    (env (.wlanGetFilterList g wlanFilterListGroupPolicyDeny)).fails = false

def SetsSucceed (env : Call → Outcome) (permit deny : List Dot11Network) (g : Guid) : Prop :=
  (env (.wlanSetFilterList g wlanFilterListGroupPolicyPermit permit)).fails = false ∧
    (env (.wlanSetFilterList g wlanFilterListGroupPolicyDeny deny)).fails = false

/-- A list of an interface cannot be read, and no interface before it has drifted. -/
def ReadFailsFirst (env : Call → Outcome) (m : Host) (ssid : Bytes) (ifaces : List Guid) : Prop :=
  ∃ pre k post, ifaces = pre ++ k :: post ∧ (∀ j ∈ pre, ListsRight m ssid j) ∧ ¬ GetsSucceed env k

/-- The lists of all interfaces before some place of `g` can be written. -/
def WritesReach (env : Call → Outcome) (permit deny : List Dot11Network) (ifaces : List Guid) (g : Guid) : Prop :=
  ∃ pre post, ifaces = pre ++ g :: post ∧ ∀ k ∈ pre, SetsSucceed env permit deny k

theorem run_wlanGetFilter (g : Guid) (ty : UInt32) (m : Host) : (wlanGetFilter g ty).run (onHost t env) m =
    (orFailSome (.wlanGetFilterList g ty)
      (if (env (.wlanGetFilterList g ty)).fails then none else some (m.filterList g ty)), m) := rfl

theorem run_wlanSetFilter (g : Guid) (ty : UInt32) (nets : List Dot11Network) (m : Host) :
    (wlanSetFilter g ty nets).run (onHost t env) m =
      (orFail (.wlanSetFilterList g ty nets) !(env (.wlanSetFilterList g ty nets)).fails,
        if (env (.wlanSetFilterList g ty nets)).fails then m else
          { m with filterList := Function.update m.filterList g (Function.update (m.filterList g) ty nets) }) := rfl

theorem run_wlanOpen (user : WlanUser) (m : Host) : (wlanOpen user).run (onHost t env) m =
    (orFail (.wlanOpenHandle user) !(env (.wlanOpenHandle user)).fails, m) := rfl

theorem run_wlanEnumInterfaces (user : WlanUser) (m : Host) : (wlanEnumInterfaces user).run (onHost t env) m =
    (orFailSome (.wlanEnumInterfaces user)
      (if (env (.wlanEnumInterfaces user)).fails then none else some m.interfaces), m) := rfl

/-- One round of `wlanFiltersOK`, where both lists can be read. -/
theorem filtersOKLoop_cons {g : Guid} {ifaces : List Guid} {m : Host} (hg : GetsSucceed env g) :
    (filtersOKLoop ssid (g :: ifaces)).run (onHost t env) m =
      if ListsRight m ssid g then (filtersOKLoop ssid ifaces).run (onHost t env) m else (.ok false, m) := by
  obtain ⟨hpermit, hdeny⟩ := hg
  rw [filtersOKLoop, run_orReturn, run_wlanGetFilter]
  simp only [hpermit, Bool.false_eq_true, if_false, orFailSome]
  rw [run_orReturn, run_wlanGetFilter]
  simp only [hdeny, Bool.false_eq_true, if_false, orFailSome]
  have hright : (!permitFound ssid (m.filterList g wlanFilterListGroupPolicyPermit) ||
      (m.filterList g wlanFilterListGroupPolicyDeny).length == 0) = true ↔ ¬ ListsRight m ssid g := by
    simp [ListsRight, imp_iff_not_or]
  by_cases h : ListsRight m ssid g
  · rw [if_neg (fun hb => hright.1 hb h), if_pos h]
  · rw [if_pos (hright.2 h), if_neg h]
    rfl

theorem filtersOKLoop_cons_error {g : Guid} {ifaces : List Guid} {m : Host} (hg : ¬ GetsSucceed env g) :
    ∃ e, (filtersOKLoop ssid (g :: ifaces)).run (onHost t env) m = (.error e, m) := by
  rw [filtersOKLoop, run_orReturn, run_wlanGetFilter]
  cases hpermit : (env (.wlanGetFilterList g wlanFilterListGroupPolicyPermit)).fails with
  | true => exact ⟨_, rfl⟩
  | false =>
    simp only [Bool.false_eq_true, if_false, orFailSome]
    rw [run_orReturn, run_wlanGetFilter]
    cases hdeny : (env (.wlanGetFilterList g wlanFilterListGroupPolicyDeny)).fails with
    | true => exact ⟨_, rfl⟩
    | false => exact absurd ⟨hpermit, hdeny⟩ hg

/-- A read that fails before any drift ends the check with an error. -/
theorem filtersOKLoop_error {ifaces : List Guid} {m : Host} (h : ReadFailsFirst env m ssid ifaces) :
    ∃ e, (filtersOKLoop ssid ifaces).run (onHost t env) m = (.error e, m) := by
  obtain ⟨pre, k, post, rfl, hpre, hk⟩ := h
  induction pre with
  | nil => exact filtersOKLoop_cons_error hk
  | cons j pre ih =>
    by_cases hj : GetsSucceed env j
    · rw [List.cons_append, filtersOKLoop_cons hj, if_pos (hpre j (by simp))]
      exact ih fun i hi => hpre i (by simp [hi])
    · exact filtersOKLoop_cons_error hj

/-- Without one, drift is seen. -/
theorem filtersOKLoop_false {ifaces : List Guid} {m : Host} (h : ¬ ReadFailsFirst env m ssid ifaces) {g : Guid}
    (hg : g ∈ ifaces) (hdrift : ¬ ListsRight m ssid g) :
    (filtersOKLoop ssid ifaces).run (onHost t env) m = (.ok false, m) := by
  induction ifaces with
  | nil => cases hg
  | cons j ifaces ih =>
    have hj : GetsSucceed env j := by
      by_contra hj
      exact h ⟨[], j, ifaces, rfl, by simp, hj⟩
    rw [filtersOKLoop_cons hj]
    by_cases hright : ListsRight m ssid j
    · rw [if_pos hright]
      have hrest : ¬ ReadFailsFirst env m ssid ifaces := by
        rintro ⟨pre, k, post, rfl, hpre, hk⟩
        refine h ⟨j :: pre, k, post, rfl, ?_, hk⟩
        intro i hi
        rcases List.mem_cons.1 hi with rfl | hi
        · exact hright
        · exact hpre i hi
      refine ih hrest ((List.mem_cons.1 hg).resolve_left ?_)
      rintro rfl
      exact hdrift hright
    · rw [if_neg hright]

/-! ## Writing the lists -/

variable {permit deny : List Dot11Network}

/-- The machine with both lists of an interface written. -/
def Host.withLists (m : Host) (permit deny : List Dot11Network) (g : Guid) : Host :=
  { m with
    filterList := Function.update m.filterList g (Function.update (Function.update (m.filterList g)
      wlanFilterListGroupPolicyPermit permit) wlanFilterListGroupPolicyDeny deny) }

theorem applyLoop_cons {g : Guid} {ifaces : List Guid} {m : Host} (hg : SetsSucceed env permit deny g) :
    (applyLoop permit deny (g :: ifaces)).run (onHost t env) m =
      (applyLoop permit deny ifaces).run (onHost t env) (m.withLists permit deny g) := by
  obtain ⟨hpermit, hdeny⟩ := hg
  rw [applyLoop, run_orReturn, run_wlanSetFilter]
  simp only [hpermit, Bool.not_false, Bool.false_eq_true, if_false, if_true, orFail]
  rw [run_orReturn, run_wlanSetFilter]
  simp only [hdeny, Bool.not_false, Bool.false_eq_true, if_false, if_true, orFail]
  simp [Host.withLists]

/-- A write that fails ends the loop; no other interface is touched. -/
theorem applyLoop_cons_error (ifaces : List Guid) (m : Host) {g : Guid} (hg : ¬ SetsSucceed env permit deny g) :
    ∃ lists, ((applyLoop permit deny (g :: ifaces)).run (onHost t env) m).2 = { m with filterList := lists } ∧
      ∀ i, i ≠ g → lists i = m.filterList i := by
  rw [applyLoop, run_orReturn, run_wlanSetFilter]
  cases hpermit : (env (.wlanSetFilterList g wlanFilterListGroupPolicyPermit permit)).fails with
  | true => exact ⟨m.filterList, rfl, fun _ _ => rfl⟩
  | false =>
    simp only [Bool.not_false, Bool.false_eq_true, if_false, if_true, orFail]
    rw [run_orReturn, run_wlanSetFilter]
    cases hdeny : (env (.wlanSetFilterList g wlanFilterListGroupPolicyDeny deny)).fails with
    | true => exact ⟨_, rfl, fun i hi => Function.update_of_ne hi _ _⟩
    | false => exact absurd ⟨hpermit, hdeny⟩ hg

/-- Both lists of the interface are those the loop writes. -/
def HasLists (permit deny : List Dot11Network) (m : Host) (g : Guid) : Prop :=
  m.filterList g wlanFilterListGroupPolicyPermit = permit ∧ m.filterList g wlanFilterListGroupPolicyDeny = deny

theorem withLists_hasLists (m : Host) (g : Guid) : HasLists permit deny (m.withLists permit deny g) g := by
  simp [HasLists, Host.withLists, wlanFilterListGroupPolicyPermit, wlanFilterListGroupPolicyDeny]

theorem withLists_of_ne (m : Host) {g i : Guid} (hi : i ≠ g) :
    (m.withLists permit deny g).filterList i = m.filterList i :=
  Function.update_of_ne hi _ _

/-- Lists once written stay. -/
theorem applyLoop_keeps {ifaces : List Guid} {m : Host} {g : Guid} (h : HasLists permit deny m g) :
    HasLists permit deny ((applyLoop permit deny ifaces).run (onHost t env) m).2 g := by
  refine Prog.run_rel (R := fun m m' => HasLists permit deny m g → HasLists permit deny m' g) (fun _ => id)
    (fun _ _ _ h₁ h₂ => h₂ ∘ h₁) ?_ (applyLoop_makes permit deny ifaces) m h
  rintro c m' ⟨k, rfl | rfl⟩ ⟨hpermit, hdeny⟩
  all_goals
    simp only [onHost, Host.answer]
    split
    · exact ⟨hpermit, hdeny⟩
    · by_cases hk : g = k
      · subst hk
        simp_all [HasLists, wlanFilterListGroupPolicyPermit, wlanFilterListGroupPolicyDeny]
      · simp [HasLists, hk, hpermit, hdeny]

/-- An interface the loop comes to, whose writes succeed, has its lists written. -/
theorem applyLoop_reached {ifaces : List Guid} {m : Host} {g : Guid} (hg : SetsSucceed env permit deny g)
    (hreach : WritesReach env permit deny ifaces g) :
    HasLists permit deny ((applyLoop permit deny ifaces).run (onHost t env) m).2 g := by
  obtain ⟨pre, post, rfl, hpre⟩ := hreach
  induction pre generalizing m with
  | nil =>
    rw [List.nil_append, applyLoop_cons hg]
    exact applyLoop_keeps (withLists_hasLists m g)
  | cons k pre ih =>
    rw [List.cons_append, applyLoop_cons (hpre k (by simp))]
    exact ih fun i hi => hpre i (by simp [hi])

/-- One it does not come to keeps its lists. -/
theorem applyLoop_unreached {ifaces : List Guid} {m : Host} {g : Guid}
    (hreach : ¬ WritesReach env permit deny ifaces g) :
    ((applyLoop permit deny ifaces).run (onHost t env) m).2.filterList g = m.filterList g := by
  induction ifaces generalizing m with
  | nil => rfl
  | cons k ifaces ih =>
    have hne : g ≠ k := by
      rintro rfl
      exact hreach ⟨[], ifaces, rfl, by simp⟩
    by_cases hk : SetsSucceed env permit deny k
    · rw [applyLoop_cons hk, ih, withLists_of_ne m hne]
      rintro ⟨pre, post, rfl, hpre⟩
      refine hreach ⟨k :: pre, post, rfl, fun i hi => ?_⟩
      rcases List.mem_cons.1 hi with rfl | hi
      · exact hk
      · exact hpre i hi
    · obtain ⟨lists, hm, hlists⟩ := applyLoop_cons_error (t := t) ifaces m hk
      rw [hm]
      exact hlists g hne

/-! ## The WLAN check -/

/-- The SSID of the configuration file, if it names one. -/
def configuredSSID (std : GoStd) (t : CaseTables) (m : Host) : Option Bytes :=
  (((Disk.find t m.disk configPath).bind std.unmarshal).map LockguardConfig.printerSSID).filter (· ≠ [])

/-- What the check needs before it comes to an interface. -/
def WlanStarts (env : Call → Outcome) : Prop :=
  (env (.readAll configPath)).fails = false ∧ ∀ user, (env (.wlanOpenHandle user)).fails = false ∧
    (env (.wlanEnumInterfaces user)).fails = false

/-- The value `ssidFromString` makes of an SSID that is not too long. -/
def ssidOf (ssid : Bytes) : Dot11SSID := ⟨UInt32.ofNat ssid.length, bytesAt 32 ssid 0⟩

theorem toList_bytesAt_take {n : Nat} {bs : Bytes} (h : bs.length ≤ n) :
    (bytesAt n bs 0).toList.take bs.length = bs := by
  refine List.ext_getElem ?_ fun i hi hi' => ?_
  · simp [h]
  · simp only [List.getElem_take, bytesAt, Vector.getElem_toList, Vector.getElem_ofFn, Nat.zero_add]
    rw [List.getD_eq_getElem?_getD, List.getElem?_eq_getElem hi', Option.getD_some]

theorem ssidEquals_ssidOf (h : ssid.length ≤ 32) : ssidEquals (ssidOf ssid) ssid = true := by
  have hlen : (UInt32.ofNat ssid.length).toNat = ssid.length :=
    UInt32.toNat_ofNat_of_lt' (Nat.lt_of_le_of_lt h (by decide))
  have hle : ¬ UInt32.ofNat ssid.length > 32 := by
    rw [gt_iff_lt, UInt32.lt_iff_toNat_lt, hlen]
    exact Nat.not_lt.2 h
  simp [ssidEquals, ssidOf, hlen, hle, toList_bytesAt_take h]

/-- The lists the check writes are lists it is satisfied with. -/
theorem listsRight_of_hasLists (h : ssid.length ≤ 32) {m : Host} {g : Guid}
    (hg : HasLists (permitOnly (ssidOf ssid)) denyAll m g) : ListsRight m ssid g := by
  refine ⟨?_, ?_⟩
  · rw [hg.1]
    simp [permitFound, permitOnly, ssidEquals_ssidOf h]
  · rw [hg.2]
    simp [denyAll]

variable {std : GoStd} {m : Host}

/-- The check past the configuration file. -/
theorem ensureWLANFilter_run (hstart : WlanStarts env) (hssid : configuredSSID std t m = some ssid) :
    (ensureWLANFilter std).run (onHost t env) m =
      ((wlanFiltersOK ssid).orReturn fun ok => if ok then return .ok () else applyWLANFilters ssid).run
        (onHost t env) m := by
  obtain ⟨hmap, hne⟩ := Option.filter_eq_some_iff.1 hssid
  obtain ⟨cfg, hbind, rfl⟩ := Option.map_eq_some_iff.1 hmap
  obtain ⟨data, hdata, hcfg⟩ := Option.bind_eq_some_iff.1 hbind
  have hload : (loadConfig std).run (onHost t env) m = (.ok cfg, m) := by
    rw [loadConfig, run_orReturn]
    have hread : (readFile configPath).run (onHost t env) m = (.ok data, m) := by
      rw [run_readFile, hstart.1, hdata]
      rfl
    rw [hread]
    simp only [hcfg]
    rfl
  rw [ensureWLANFilter, run_orReturn, hload]
  simp only
  rw [if_neg (by simpa using hne)]

/-- What both WLAN functions begin with. -/
theorem run_enumerated {α : Type} (user : WlanUser) (f : List Guid → Go (Except GoError α)) (m : Host) :
    ((wlanOpen user).orReturn fun _ => (wlanEnumInterfaces user).orReturn f).run (onHost t env) m =
      if (env (.wlanOpenHandle user)).fails then (.error (.failed (.wlanOpenHandle user)), m)
      else if (env (.wlanEnumInterfaces user)).fails then (.error (.failed (.wlanEnumInterfaces user)), m)
      else (f m.interfaces).run (onHost t env) m := by
  rw [run_orReturn, run_wlanOpen]
  cases (env (.wlanOpenHandle user)).fails with
  | true => rfl
  | false =>
    simp only [orFail, Bool.not_false, if_true, Bool.false_eq_true, if_false]
    rw [run_orReturn, run_wlanEnumInterfaces]
    cases (env (.wlanEnumInterfaces user)).fails <;> rfl

/-- Up to the loop of `wlanFiltersOK`. -/
theorem wlanFiltersOK_run (hstart : WlanStarts env) :
    (wlanFiltersOK ssid).run (onHost t env) m = (filtersOKLoop ssid m.interfaces).run (onHost t env) m := by
  obtain ⟨hopen, henum⟩ := hstart.2 .filtersOK
  rw [wlanFiltersOK, run_enumerated, hopen, henum]
  rfl

theorem applyWLANFilters_run (hstart : WlanStarts env) (h : ssid.length ≤ 32) :
    (applyWLANFilters ssid).run (onHost t env) m =
      (applyLoop (permitOnly (ssidOf ssid)) denyAll m.interfaces).run (onHost t env) m := by
  obtain ⟨hopen, henum⟩ := hstart.2 .applyFilters
  have hfrom : ssidFromString ssid = .ok (ssidOf ssid) := if_neg (Nat.not_lt.2 h)
  rw [applyWLANFilters, hfrom]
  simp only
  rw [run_enumerated, hopen, henum]
  rfl

/-- **When the check mends a drifted interface** whose own lists can be written. -/
theorem ensureWLANFilter_mends_iff (hstart : WlanStarts env) (hssid : configuredSSID std t m = some ssid)
    (hlen : ssid.length ≤ 32) {g : Guid} (hg : g ∈ m.interfaces) (hdrift : ¬ ListsRight m ssid g)
    (hsets : SetsSucceed env (permitOnly (ssidOf ssid)) denyAll g) :
    ListsRight ((ensureWLANFilter std).run (onHost t env) m).2 ssid g ↔
      ¬ (ReadFailsFirst env m ssid m.interfaces ∨
        ¬ WritesReach env (permitOnly (ssidOf ssid)) denyAll m.interfaces g) := by
  rw [ensureWLANFilter_run hstart hssid, run_orReturn, wlanFiltersOK_run hstart]
  by_cases hread : ReadFailsFirst env m ssid m.interfaces
  · obtain ⟨e, he⟩ := filtersOKLoop_error (t := t) hread
    rw [he]
    exact iff_of_false hdrift fun h => h (Or.inl hread)
  · rw [filtersOKLoop_false hread hg hdrift]
    simp only [Bool.false_eq_true, if_false, hread, false_or, Classical.not_not]
    rw [applyWLANFilters_run hstart hlen]
    constructor
    · intro hright
      by_contra hreach
      have hsame := applyLoop_unreached (t := t) (m := m) hreach
      unfold ListsRight at hright hdrift
      rw [hsame] at hright
      exact hdrift hright
    · exact fun hreach => listsRight_of_hasLists hlen (applyLoop_reached hsets hreach)

/-! ## The files -/

/-- What reading a file gives the check. -/
def Host.readOf (t : CaseTables) (env : Call → Outcome) (m : Host) (path : List Name) : Option Bytes :=
  if (env (.readAll path)).fails then none else Disk.find t m.disk path

/-- The three names a repair works with are names of different files. -/
structure FilePair.Distinct (t : CaseTables) (p : FilePair) : Prop where
  backup_primary : foldPath t p.backup ≠ foldPath t p.primary
  backup_stage : foldPath t p.backup ≠ foldPath t (stageOf p.primary)
  stage_primary : foldPath t (stageOf p.primary) ≠ foldPath t p.primary

/-- The repair of a pair is called for and one of its operations fails. -/
def RepairFails (t : CaseTables) (env : Call → Outcome) (std : GoStd) (m : Host) (p : FilePair) : Prop :=
  ∃ b, m.readOf t env p.backup = some b ∧
    ((m.readOf t env p.primary = none ∧ ¬ CopySucceeds env p.backup p.primary) ∨
      ∃ d, m.readOf t env p.primary = some d ∧ std.sha256Hex d ≠ std.sha256Hex b ∧
        ¬ (CopySucceeds env p.backup (stageOf p.primary) ∧
          (env (.rename (stageOf p.primary) p.primary)).fails = false))

theorem fileHash_run (path : List Name) : (fileHash std path).run (onHost t env) m =
    (match m.readOf t env path with
      | none => .error (.failed (.readAll path))
      | some data => .ok (std.sha256Hex data), m) := by
  rw [fileHash, run_orReturn, run_readFile, ← Host.readOf]
  cases m.readOf t env path <;> rfl

theorem readOf_find {path : List Name} {data : Bytes} (h : m.readOf t env path = some data) :
    Disk.find t m.disk path = some data := by
  unfold Host.readOf at h
  split at h
  · cases h
  · exact h

variable {p : FilePair} {b : Bytes}

theorem run_osRename (src dst : List Name) (m : Host) : (osRename src dst).run (onHost t env) m =
    (orFail (.rename src dst) (onHost t env (.rename src dst) m).1, (onHost t env (.rename src dst) m).2) := rfl

theorem atomicReplace_run (hp : p.Distinct t) (hb : Disk.find t m.disk p.backup = some b)
    (hcopy : CopySucceeds env p.backup (stageOf p.primary)) :
    ((env (.rename (stageOf p.primary) p.primary)).fails = false →
      ((atomicReplace p.backup p.primary).run (onHost t env) m).1 = .ok () ∧
      Disk.find t ((atomicReplace p.backup p.primary).run (onHost t env) m).2.disk p.primary = some b) ∧
    ((env (.rename (stageOf p.primary) p.primary)).fails = true →
      ∃ e, ((atomicReplace p.backup p.primary).run (onHost t env) m).1 = .error e) := by
  rw [atomicReplace, run_orReturn, copyFile_run hp.backup_stage hb hcopy]
  simp only
  rw [run_osRename]
  constructor
  · intro hrename
    simp [onHost, Host.answer, hrename, orFail]
  · intro hrename
    simp [onHost, Host.answer, hrename, orFail]

theorem atomicReplace_error (hbad : ¬ CopySucceeds env p.backup (stageOf p.primary)) :
    ∃ e, ((atomicReplace p.backup p.primary).run (onHost t env) m).1 = .error e := by
  obtain ⟨e, he⟩ := copyFile_error (t := t) (m := m) (Or.inl hbad)
  exact ⟨e, by rw [atomicReplace, run_orReturn_error he]⟩

theorem mapError_error_iff {f : GoError → GoError} {r : Except GoError Unit} :
    (∃ e, r.mapError f = .error e) ↔ ∃ e, r = .error e := by
  cases r <;> simp [Except.mapError]

/-- The three ways through a round. -/
theorem ensurePair_missing (hnone : m.readOf t env p.primary = none) (hb : m.readOf t env p.backup = some b) :
    (ensurePair std p).run (onHost t env) m =
      (((copyFile p.backup p.primary).run (onHost t env) m).1.mapError (.restore p.primary),
        ((copyFile p.backup p.primary).run (onHost t env) m).2) := by
  simp only [ensurePair, Prog.run_bind, fileHash_run, hnone, hb]
  rfl

theorem ensurePair_differs {d : Bytes} (hd : m.readOf t env p.primary = some d) (hb : m.readOf t env p.backup = some b)
    (hne : std.sha256Hex d ≠ std.sha256Hex b) : (ensurePair std p).run (onHost t env) m =
      (((atomicReplace p.backup p.primary).run (onHost t env) m).1.mapError (.repair p.primary),
        ((atomicReplace p.backup p.primary).run (onHost t env) m).2) := by
  simp only [ensurePair, Prog.run_bind, fileHash_run, hd, hb]
  rw [if_pos hne, Prog.run_bind, Prog.run_pure]

theorem ensurePair_quiet (h : m.readOf t env p.backup = none ∨ ∃ d b, m.readOf t env p.primary = some d ∧
    m.readOf t env p.backup = some b ∧ std.sha256Hex d = std.sha256Hex b) :
    (ensurePair std p).run (onHost t env) m = (.ok (), m) := by
  rcases h with hb | ⟨d, b, hd, hb, heq⟩
  · simp only [ensurePair, Prog.run_bind, fileHash_run, hb]
    cases m.readOf t env p.primary <;> rfl
  · simp only [ensurePair, Prog.run_bind, fileHash_run, hd, hb]
    rw [if_neg (not_not_intro heq)]
    rfl

/-- **A repair that is called for and does not fail** puts the backup in the primary's place. -/
theorem ensurePair_mends (hp : p.Distinct t) (hb : m.readOf t env p.backup = some b)
    (hneeded : ∀ d, m.readOf t env p.primary = some d → std.sha256Hex d ≠ std.sha256Hex b)
    (hok : ¬ RepairFails t env std m p) :
    Disk.find t ((ensurePair std p).run (onHost t env) m).2.disk p.primary = some b := by
  cases hd : m.readOf t env p.primary with
  | none =>
    have hcopy : CopySucceeds env p.backup p.primary := by
      by_contra hbad
      exact hok ⟨b, hb, Or.inl ⟨hd, hbad⟩⟩
    rw [ensurePair_missing hd hb, copyFile_run hp.backup_primary (readOf_find hb) hcopy]
    exact find_put_self _
  | some d =>
    have hne := hneeded d hd
    have hsteps : CopySucceeds env p.backup (stageOf p.primary) ∧
        (env (.rename (stageOf p.primary) p.primary)).fails = false := by
      by_contra hbad
      exact hok ⟨b, hb, Or.inr ⟨d, hd, hne, hbad⟩⟩
    rw [ensurePair_differs hd hb hne]
    exact ((atomicReplace_run hp (readOf_find hb) hsteps.1).1 hsteps.2).2

/-- A round ends with an error exactly when its repair fails. -/
theorem ensurePair_error_iff (hp : p.Distinct t) :
    (∃ e, ((ensurePair std p).run (onHost t env) m).1 = .error e) ↔ RepairFails t env std m p := by
  constructor
  · rintro ⟨e, he⟩
    cases hb : m.readOf t env p.backup with
    | none =>
      rw [ensurePair_quiet (Or.inl hb)] at he
      cases he
    | some b =>
      refine ⟨b, hb, ?_⟩
      cases hd : m.readOf t env p.primary with
      | none =>
        refine Or.inl ⟨rfl, fun hcopy => ?_⟩
        rw [ensurePair_missing hd hb, copyFile_run hp.backup_primary (readOf_find hb) hcopy] at he
        cases he
      | some d =>
        by_cases hne : std.sha256Hex d = std.sha256Hex b
        · rw [ensurePair_quiet (Or.inr ⟨d, b, hd, hb, hne⟩)] at he
          cases he
        · refine Or.inr ⟨d, rfl, hne, ?_⟩
          rintro ⟨hcopy, hrename⟩
          rw [ensurePair_differs hd hb hne, ((atomicReplace_run hp (readOf_find hb) hcopy).1 hrename).1] at he
          cases he
  · rintro ⟨b, hb, ⟨hd, hcopy⟩ | ⟨d, hd, hne, hsteps⟩⟩
    · rw [ensurePair_missing hd hb, mapError_error_iff]
      exact copyFile_error (Or.inl hcopy)
    · rw [ensurePair_differs hd hb hne, mapError_error_iff]
      by_cases hcopy : CopySucceeds env p.backup (stageOf p.primary)
      · exact (atomicReplace_run hp (readOf_find hb) hcopy).2 (by simpa [hcopy] using hsteps)
      · exact atomicReplace_error hcopy

/-! ## What the other checks leave alone -/

/-- A call leaves a part of the machine as it is. -/
def Call.Keeps {γ : Type} (t : CaseTables) (env : Call → Outcome) (f : Host → γ) (c : Call) : Prop :=
  ∀ m, f (onHost t env c m).2 = f m

theorem check_keeps (t : CaseTables) (env : Call → Outcome) {α γ : Type} {check : Go α} {P : Call → Prop}
    {f : Host → γ} (hmakes : check.Makes P) (hkeeps : ∀ c, P c → c.Keeps t env f) (m : Host) :
    f (check.run (onHost t env) m).2 = f m :=
  Prog.run_frame (fun c m hc => hkeeps c hc m) hmakes m

theorem runChecks_keeps {γ : Type} {f : Host → γ} {cs : List Checker} (h : ∀ c ∈ cs, c.fn.Makes (Call.Keeps t env f))
    (m : Host) : f ((runChecks cs).run (onHost t env) m).2 = f m :=
  check_keeps t env (runChecks_makes h) (fun _ => id) m

theorem keeps_find {c : Call} {path : List Name} (h : ¬ c.Writes t path) :
    c.Keeps t env fun m => Disk.find t m.disk path :=
  fun m => answer_find _ m h

theorem keeps_debugger {c : Call} (h : ∀ img name value, c ≠ .setStringValue img name value) :
    c.Keeps t env Host.debugger :=
  fun m => answer_debugger _ m h

theorem keeps_filterList {c : Call} (h : ∀ iface ty nets, c ≠ .wlanSetFilterList iface ty nets) :
    c.Keeps t env Host.filterList :=
  fun m => answer_filterList _ m h

/-- The checks before the WLAN check, which run programs or copy the policy file. -/
def firstChecks : List Checker :=
  [⟨"driver-running", ensureDriverRunning⟩, ⟨"audio-disabled", ensureAudioDisabled⟩,
   ⟨"audio-endpoint-disabled", ensureAudioEndpointDisabled⟩, ⟨"bcd-state", ensureBCDState⟩,
   ⟨"wdac-policy", ensureWDACPolicy⟩]

theorem firstChecks_makes : ∀ c ∈ firstChecks, c.fn.Makes fun c => c.IsProgram ∨ c.IsPolicy := by
  intro c hc
  simp only [firstChecks, List.mem_cons, List.not_mem_nil, or_false] at hc
  rcases hc with rfl | rfl | rfl | rfl | rfl
  · exact ensureDriverRunning_makes.mono fun _ => Or.inl
  · exact (ensureServiceDisabled_makes _).mono fun _ => Or.inl
  · exact (ensureServiceDisabled_makes _).mono fun _ => Or.inl
  · exact ensureBCDState_makes.mono fun _ => Or.inl
  · exact ensureWDACPolicy_makes.mono fun _ => Or.inr

/-- The first checks write one file, and neither debuggers nor filter lists. -/
theorem firstCall {c : Call} (h : c.IsProgram ∨ c.IsPolicy) :
    (∀ path, foldPath t path ≠ foldPath t wdacPolicy → ¬ c.Writes t path) ∧
    (∀ img name value, c ≠ .setStringValue img name value) ∧ ∀ iface ty nets, c ≠ .wlanSetFilterList iface ty nets := by
  rcases h with h | rfl | rfl | rfl | rfl | rfl | rfl
  · cases c <;> simp [Call.IsProgram, Call.Writes] at h ⊢
  all_goals simp [Call.Writes]

theorem wlanCall {c : Call} (h : c.IsWlan) :
    (∀ path, ¬ c.Writes t path) ∧ ∀ img name value, c ≠ .setStringValue img name value := by
  cases c <;> simp [Call.IsWlan, Call.Writes] at h ⊢

theorem ifeoCall {c : Call} (h : c.IsIfeo) :
    (∀ path, ¬ c.Writes t path) ∧ ∀ iface ty nets, c ≠ .wlanSetFilterList iface ty nets := by
  cases c <;> simp [Call.IsIfeo, Call.Writes] at h ⊢

/-- A repair writes its primary and the staging file beside it. -/
theorem repairCall {c : Call} {p : FilePair} (h : p.Repairs c) :
    (∀ path, foldPath t path ≠ foldPath t p.primary → foldPath t path ≠ foldPath t (stageOf p.primary) →
      ¬ c.Writes t path) ∧
    (∀ img name value, c ≠ .setStringValue img name value) ∧ ∀ iface ty nets, c ≠ .wlanSetFilterList iface ty nets := by
  rcases h with rfl | rfl | (rfl | rfl | rfl | rfl) | (rfl | rfl | rfl | rfl) | rfl
  all_goals simp +contextual [Call.Writes]

/-! ## One pass -/

/-- The states between the checks of a pass. -/
def Host.beforeWlan (t : CaseTables) (env : Call → Outcome) (m : Host) : Host :=
  ((runChecks firstChecks).run (onHost t env) m).2

def Host.beforeIfeo (t : CaseTables) (env : Call → Outcome) (std : GoStd) (m : Host) : Host :=
  ((ensureWLANFilter std).run (onHost t env) (m.beforeWlan t env)).2

def Host.beforeFiles (t : CaseTables) (env : Call → Outcome) (std : GoStd) (m : Host) : Host :=
  (ensureIFEOBlocks.run (onHost t env) (m.beforeIfeo t env std)).2

/-- The machine after a pass. -/
def Host.enforced (t : CaseTables) (env : Call → Outcome) (std : GoStd) (m : Host) : Host :=
  ((enforceOnce std).run (onHost t env) m).2

/-- The machine after some passes, in each of which any calls may fail. -/
def Host.watched (t : CaseTables) (std : GoStd) (m : Host) (envs : List (Call → Outcome)) : Host :=
  envs.foldl (fun m env => m.enforced t env std) m

theorem enforced_eq (m : Host) : m.enforced t env std =
    ((ensureFileIntegrity std).run (onHost t env) (m.beforeFiles t env std)).2 := by
  rw [Host.enforced, enforceOnce, runChecks_state, Host.beforeFiles, Host.beforeIfeo, Host.beforeWlan, runChecks_state]
  rfl

theorem beforeWlan_find {path : List Name} (h : foldPath t path ≠ foldPath t wdacPolicy) :
    Disk.find t (m.beforeWlan t env).disk path = Disk.find t m.disk path :=
  runChecks_keeps (f := fun m => Disk.find t m.disk path)
    (fun c hc => (firstChecks_makes c hc).mono fun _ hcall => keeps_find ((firstCall hcall).1 path h)) m

theorem beforeWlan_filterList : (m.beforeWlan t env).filterList = m.filterList :=
  runChecks_keeps (fun c hc => (firstChecks_makes c hc).mono fun _ hcall =>
    keeps_filterList (firstCall (t := t) hcall).2.2) m

theorem beforeWlan_fixed (t : CaseTables) (env : Call → Outcome) (m : Host) :
    (m.beforeWlan t env).exe = m.exe ∧ (m.beforeWlan t env).interfaces = m.interfaces := by
  have hkeeps : ∀ c ∈ firstChecks, c.fn.Makes (Call.Keeps t env fun m : Host => (m.exe, m.interfaces)) :=
    fun c hc => (firstChecks_makes c hc).mono fun call _ m' => Prod.ext_iff.2 (answer_fixed _ call m')
  exact Prod.ext_iff.1 (runChecks_keeps hkeeps m)

/-- The files the last check is about are as they were at the start. -/
theorem beforeFiles_find (env : Call → Outcome) (std : GoStd) (m : Host) {path : List Name}
    (h : foldPath t path ≠ foldPath t wdacPolicy) :
    Disk.find t (m.beforeFiles t env std).disk path = Disk.find t m.disk path := by
  have hifeo := check_keeps t env (f := fun m => Disk.find t m.disk path) ensureIFEOBlocks_makes
    (fun _ hc => keeps_find ((ifeoCall hc).1 path)) (m.beforeIfeo t env std)
  have hwlan := check_keeps t env (f := fun m => Disk.find t m.disk path) (ensureWLANFilter_makes std)
    (fun _ hc => keeps_find ((wlanCall hc).1 path)) (m.beforeWlan t env)
  exact hifeo.trans (hwlan.trans (beforeWlan_find h))

theorem enforced_filterList : (m.enforced t env std).filterList = (m.beforeIfeo t env std).filterList := by
  have hfiles := check_keeps t env (ensureFileIntegrity_makes std)
    (fun _ hc => keeps_filterList (hc.elim (fun h => (repairCall (t := t) h).2.2) fun h => (repairCall (t := t) h).2.2))
    (m.beforeFiles t env std)
  have hifeo := check_keeps t env ensureIFEOBlocks_makes
    (fun _ hc => keeps_filterList (ifeoCall (t := t) hc).2) (m.beforeIfeo t env std)
  rw [enforced_eq]
  exact hfiles.trans hifeo

theorem enforced_debugger : (m.enforced t env std).debugger = (m.beforeFiles t env std).debugger := by
  rw [enforced_eq]
  exact check_keeps t env (ensureFileIntegrity_makes std)
    (fun _ hc => keeps_debugger (hc.elim (fun h => (repairCall (t := t) h).2.1) fun h => (repairCall (t := t) h).2.1)) _

theorem beforeIfeo_exe : (m.beforeIfeo t env std).exe = m.exe :=
  (check_keeps t env (ensureWLANFilter_makes std) (fun c _ m => (answer_fixed _ c m).1) _).trans
    (beforeWlan_fixed t env m).1

/-! ## Items -/

inductive Item where
  | driverImage
  | serviceImage
  | wlan (iface : Guid)
  | ifeo (img : String)

/-- The backup is there, and the primary is missing or differs from it. -/
def FilePair.Drifted (std : GoStd) (t : CaseTables) (m : Host) (p : FilePair) : Prop :=
  ∃ b, Disk.find t m.disk p.backup = some b ∧
    ∀ d, Disk.find t m.disk p.primary = some d → std.sha256Hex d ≠ std.sha256Hex b

/-- The item is not as the check for it wants it. -/
def Item.Drifted (std : GoStd) (t : CaseTables) (m : Host) : Item → Prop
  | .driverImage => driverPair.Drifted std t m
  | .serviceImage => servicePair.Drifted std t m
  | .wlan g => g ∈ m.interfaces ∧ ∃ ssid, configuredSSID std t m = some ssid ∧ ¬ ListsRight m ssid g
  | .ifeo img => img ∈ blockedImages ∧ m.debugger img ≠ some (trampoline m.exe)

def FilePair.OpsSucceed (env : Call → Outcome) (p : FilePair) : Prop :=
  (env (.readAll p.primary)).fails = false ∧ (env (.readAll p.backup)).fails = false ∧
    CopySucceeds env p.backup p.primary ∧ CopySucceeds env p.backup (stageOf p.primary) ∧
    (env (.rename (stageOf p.primary) p.primary)).fails = false

/-- None of the operations that mend the item fails; an SSID of more than 32 bytes fails for all. -/
def Item.OpsSucceed (std : GoStd) (t : CaseTables) (env : Call → Outcome) (m : Host) : Item → Prop
  | .driverImage => driverPair.OpsSucceed env
  | .serviceImage => servicePair.OpsSucceed env
  | .wlan g => WlanStarts env ∧ GetsSucceed env g ∧ ∀ ssid, configuredSSID std t m = some ssid →
      ssid.length ≤ 32 ∧ SetsSucceed env (permitOnly (ssidOf ssid)) denyAll g
  | .ifeo img => (env .executable).fails = false ∧ DebuggerWritten env (trampoline m.exe) img

/-- The failure of another item ends the check before it comes to this one. -/
def Item.Starved (std : GoStd) (t : CaseTables) (env : Call → Outcome) (m : Host) : Item → Prop
  | .driverImage => False
  | .serviceImage => RepairFails t env std m driverPair
  | .wlan g => ∃ ssid, configuredSSID std t m = some ssid ∧ (ReadFailsFirst env m ssid m.interfaces ∨
      ¬ WritesReach env (permitOnly (ssidOf ssid)) denyAll m.interfaces g)
  | .ifeo _ => False

/-- The item is as the check wants it: a file is its backup, as it was before the pass. -/
def Item.Mended (std : GoStd) (t : CaseTables) (m m' : Host) : Item → Prop
  | .driverImage => Disk.find t m'.disk driverPair.primary = Disk.find t m.disk driverPair.backup
  | .serviceImage => Disk.find t m'.disk servicePair.primary = Disk.find t m.disk servicePair.backup
  | .wlan g => ∀ ssid, configuredSSID std t m = some ssid → ListsRight m' ssid g
  | .ifeo img => m'.debugger img = some (trampoline m.exe)

/-! ## Each kind of item -/

theorem ifeo_mended {img : String} (hdrift : (Item.ifeo img).Drifted std t m)
    (hops : (Item.ifeo img).OpsSucceed std t env m) : (Item.ifeo img).Mended std t m (m.enforced t env std) := by
  have hvalue : debuggerValue env (m.beforeIfeo t env std) = trampoline m.exe := by
    rw [debuggerValue, hops.1, beforeIfeo_exe]
    rfl
  rw [Item.Mended, enforced_debugger, Host.beforeFiles, ensureIFEOBlocks_run, hvalue]
  exact if_pos ⟨hdrift.1, hops.2⟩

theorem beforeWlan_wlan (std : GoStd) (t : CaseTables) (env : Call → Outcome) (m : Host) :
    configuredSSID std t (m.beforeWlan t env) = configuredSSID std t m ∧
    ∀ ssid g, ListsRight (m.beforeWlan t env) ssid g ↔ ListsRight m ssid g := by
  have hconfig : foldPath t configPath ≠ foldPath t wdacPolicy := foldPath_ne (by decide) t
  constructor
  · rw [configuredSSID, beforeWlan_find hconfig]
    rfl
  · intro ssid g
    rw [ListsRight, beforeWlan_filterList]
    rfl

theorem wlan_mended_iff {g : Guid} (hdrift : (Item.wlan g).Drifted std t m)
    (hops : (Item.wlan g).OpsSucceed std t env m) :
    (Item.wlan g).Mended std t m (m.enforced t env std) ↔ ¬ (Item.wlan g).Starved std t env m := by
  obtain ⟨hg, ssid, hssid, hwrong⟩ := hdrift
  obtain ⟨hstart, -, hown⟩ := hops
  obtain ⟨hlen, hsets⟩ := hown ssid hssid
  obtain ⟨hconfig, hlists⟩ := beforeWlan_wlan std t env m
  have hinterfaces := (beforeWlan_fixed t env m).2
  have hmends := ensureWLANFilter_mends_iff (t := t) hstart (hconfig.trans hssid) hlen (hinterfaces.symm ▸ hg)
    (fun h => hwrong ((hlists ssid g).1 h)) hsets
  have hafter : ListsRight (m.enforced t env std) ssid g ↔ ListsRight (m.beforeIfeo t env std) ssid g := by
    rw [ListsRight, enforced_filterList]
    rfl
  simp only [Item.Mended, Item.Starved, hssid, Option.some.injEq, forall_eq', exists_eq_left', hafter]
  refine hmends.trans ?_
  rw [hinterfaces]
  simp only [ReadFailsFirst, hlists]

/-! ## The files of a pass -/

theorem driverPair_distinct (t : CaseTables) : driverPair.Distinct t where
  backup_primary := foldPath_ne (by decide) t
  backup_stage := foldPath_ne (by decide) t
  stage_primary := foldPath_ne (by decide) t

theorem servicePair_distinct (t : CaseTables) : servicePair.Distinct t where
  backup_primary := foldPath_ne (by decide) t
  backup_stage := foldPath_ne (by decide) t
  stage_primary := foldPath_ne (by decide) t

theorem pairs_ne_policy (t : CaseTables) : ∀ p ∈ [driverPair, servicePair],
    foldPath t p.primary ≠ foldPath t wdacPolicy ∧ foldPath t p.backup ≠ foldPath t wdacPolicy := by
  intro p hp
  simp only [List.mem_cons, List.not_mem_nil, or_false] at hp
  rcases hp with rfl | rfl
  · exact ⟨foldPath_ne (by decide) t, foldPath_ne (by decide) t⟩
  · exact ⟨foldPath_ne (by decide) t, foldPath_ne (by decide) t⟩

theorem readOf_congr {m m' : Host} {path : List Name} (h : Disk.find t m'.disk path = Disk.find t m.disk path) :
    m'.readOf t env path = m.readOf t env path := by
  rw [Host.readOf, h]
  rfl

theorem repairFails_congr {m m' : Host} (hprimary : m'.readOf t env p.primary = m.readOf t env p.primary)
    (hbackup : m'.readOf t env p.backup = m.readOf t env p.backup) :
    RepairFails t env std m' p ↔ RepairFails t env std m p := by
  simp only [RepairFails, hprimary, hbackup]

theorem repair_keeps {path : List Name} (hprimary : foldPath t path ≠ foldPath t p.primary)
    (hstage : foldPath t path ≠ foldPath t (stageOf p.primary)) (m : Host) :
    Disk.find t ((ensurePair std p).run (onHost t env) m).2.disk path = Disk.find t m.disk path :=
  check_keeps t env (f := fun m => Disk.find t m.disk path) (ensurePair_makes std p)
    (fun _ hc => keeps_find ((repairCall hc).1 path hprimary hstage)) m

/-- The repair of one pair leaves the files of the other alone. -/
theorem driverRepair_keeps (t : CaseTables) (env : Call → Outcome) (std : GoStd) (m : Host) :
    Disk.find t ((ensurePair std driverPair).run (onHost t env) m).2.disk servicePair.primary =
      Disk.find t m.disk servicePair.primary ∧
    Disk.find t ((ensurePair std driverPair).run (onHost t env) m).2.disk servicePair.backup =
      Disk.find t m.disk servicePair.backup :=
  ⟨repair_keeps (foldPath_ne (by decide) t) (foldPath_ne (by decide) t) m,
    repair_keeps (foldPath_ne (by decide) t) (foldPath_ne (by decide) t) m⟩

theorem serviceRepair_keeps (m : Host) :
    Disk.find t ((ensurePair std servicePair).run (onHost t env) m).2.disk driverPair.primary =
      Disk.find t m.disk driverPair.primary :=
  repair_keeps (foldPath_ne (by decide) t) (foldPath_ne (by decide) t) m

/-- A pair whose operations succeed does not fail, wherever its repair starts from. -/
theorem not_repairFails (hops : p.OpsSucceed env) : ¬ RepairFails t env std m p := by
  obtain ⟨hread, -, hcopy, hstage, hrename⟩ := hops
  rintro ⟨b', -, ⟨-, hbad⟩ | ⟨d, -, -, hbad⟩⟩
  · exact hbad hcopy
  · exact hbad ⟨hstage, hrename⟩

/-- A drifted pair whose operations succeed is mended by its round. -/
theorem ensurePair_mends_drifted (hp : p.Distinct t) (hdrift : p.Drifted std t m) (hops : p.OpsSucceed env) :
    Disk.find t ((ensurePair std p).run (onHost t env) m).2.disk p.primary = Disk.find t m.disk p.backup := by
  obtain ⟨b, hb, hneeded⟩ := hdrift
  have hread : m.readOf t env p.backup = some b := by
    rw [Host.readOf, hops.2.1, hb]
    rfl
  rw [hb]
  exact ensurePair_mends hp hread (fun d hd => hneeded d (readOf_find hd)) (not_repairFails hops)

/-- How a pass ends: with the repair of the second pair, if that of the first does not fail. -/
theorem ensureFileIntegrity_state (m : Host) :
    (RepairFails t env std m driverPair → ((ensureFileIntegrity std).run (onHost t env) m).2 =
      ((ensurePair std driverPair).run (onHost t env) m).2) ∧
    (¬ RepairFails t env std m driverPair → ((ensureFileIntegrity std).run (onHost t env) m).2 =
      ((ensurePair std servicePair).run (onHost t env) ((ensurePair std driverPair).run (onHost t env) m).2).2) := by
  have herror : (∃ e, ((ensurePair std driverPair).run (onHost t env) m).1 = .error e) ↔ _ :=
    ensurePair_error_iff (driverPair_distinct t)
  constructor
  · intro hfails
    obtain ⟨e, he⟩ := herror.2 hfails
    rw [ensureFileIntegrity, ensurePairs, run_orReturn_error he]
  · intro hok
    obtain ⟨u, hu⟩ : ∃ u, ((ensurePair std driverPair).run (onHost t env) m).1 = .ok u := by
      cases hr : ((ensurePair std driverPair).run (onHost t env) m).1 with
      | error e => exact absurd (herror.1 ⟨e, hr⟩) hok
      | ok u => exact ⟨u, rfl⟩
    rw [ensureFileIntegrity, ensurePairs, run_orReturn_ok hu, ensurePairs, run_orReturn]
    split <;> rfl

theorem drifted_congr {m m' : Host} (hprimary : Disk.find t m'.disk p.primary = Disk.find t m.disk p.primary)
    (hbackup : Disk.find t m'.disk p.backup = Disk.find t m.disk p.backup) (h : p.Drifted std t m) :
    p.Drifted std t m' := by
  unfold FilePair.Drifted
  rwa [hprimary, hbackup]

theorem driverImage_mended (hdrift : Item.driverImage.Drifted std t m)
    (hops : Item.driverImage.OpsSucceed std t env m) :
    Item.driverImage.Mended std t m (m.enforced t env std) := by
  have hpaths := pairs_ne_policy t driverPair (by simp)
  have hprimary := beforeFiles_find env std m hpaths.1
  have hbackup := beforeFiles_find env std m hpaths.2
  have hmends := ensurePair_mends_drifted (driverPair_distinct t) (drifted_congr hprimary hbackup hdrift) hops
  rw [Item.Mended, enforced_eq, (ensureFileIntegrity_state _).2 (not_repairFails hops)]
  rw [serviceRepair_keeps, hmends, hbackup]

theorem serviceImage_mended_iff (hdrift : Item.serviceImage.Drifted std t m)
    (hops : Item.serviceImage.OpsSucceed std t env m) :
    Item.serviceImage.Mended std t m (m.enforced t env std) ↔ ¬ Item.serviceImage.Starved std t env m := by
  have hdriver := pairs_ne_policy t driverPair (by simp)
  have hservice := pairs_ne_policy t servicePair (by simp)
  have hprimary := beforeFiles_find env std m hservice.1
  have hbackup := beforeFiles_find env std m hservice.2
  obtain ⟨hkept, hkept'⟩ := driverRepair_keeps t env std (m.beforeFiles t env std)
  have hstarved : RepairFails t env std (m.beforeFiles t env std) driverPair ↔ RepairFails t env std m driverPair :=
    repairFails_congr (readOf_congr (beforeFiles_find env std m hdriver.1))
      (readOf_congr (beforeFiles_find env std m hdriver.2))
  rw [Item.Mended, Item.Starved, enforced_eq, ← hstarved]
  by_cases hfails : RepairFails t env std (m.beforeFiles t env std) driverPair
  · rw [(ensureFileIntegrity_state _).1 hfails, hkept, hprimary]
    obtain ⟨b, hb, hneeded⟩ := hdrift
    refine iff_of_false (fun hsame => ?_) (not_not_intro hfails)
    exact hneeded b (hsame.trans hb) rfl
  · rw [(ensureFileIntegrity_state _).2 hfails]
    refine iff_of_true ?_ hfails
    have hdrift' : servicePair.Drifted std t
        ((ensurePair std driverPair).run (onHost t env) (m.beforeFiles t env std)).2 :=
      drifted_congr (hkept.trans hprimary) (hkept'.trans hbackup) hdrift
    rw [ensurePair_mends_drifted (servicePair_distinct t) hdrift' hops, hkept', hbackup]

end

/-! ## All items -/

/-- **What one failure starves.** In one pass from any state of the machine, every drifted item whose
operations succeed is mended if and only if none of them is starved: the service image by a failing
repair of the driver's image; an interface's lists by a list that cannot be read with no drift before
it, or by lists that cannot be written on an interface before it. -/
theorem isolation_iff (std : GoStd) (t : CaseTables) (env : Call → Outcome) (m : Host) :
    (∀ it : Item, it.Drifted std t m → it.OpsSucceed std t env m → it.Mended std t m (m.enforced t env std)) ↔
      ∀ it : Item, it.Drifted std t m → it.OpsSucceed std t env m → ¬ it.Starved std t env m := by
  refine forall_congr' fun it => forall₂_congr fun hdrift hops => ?_
  cases it with
  | driverImage => exact iff_of_true (driverImage_mended hdrift hops) id
  | serviceImage => exact serviceImage_mended_iff hdrift hops
  | wlan g => exact wlan_mended_iff hdrift hops
  | ifeo img => exact iff_of_true (ifeo_mended hdrift hops) id

/-- A machine without either image, with both backups. -/
def strippedHost : Host where
  disk := [⟨driverPathBackup, [77, 90, 1]⟩, ⟨servicePair.backup, [77, 90, 2]⟩]
  services := fun _ => ⟨.disabled, false⟩
  bcd := ⟨some "Yes", some "Standard", none⟩
  exe := "C:\\ProgramData\\Lockguard\\bin\\lockguard-svc.exe"
  debugger := fun _ => none
  interfaces := []
  filterList := fun _ _ => []

/-- Nothing fails but the creation of the driver's image. -/
def driverLocked (c : Call) : Outcome := ⟨c == .create driverPathPrimary, "", 0⟩

/-- The service image is not restored there, although nothing it takes fails. -/
theorem isolation_not : ¬ ∃ std : GoStd, ∀ it : Item, it.Drifted std .ascii strippedHost →
    it.OpsSucceed std .ascii driverLocked strippedHost →
      it.Mended std .ascii strippedHost (strippedHost.enforced .ascii driverLocked std) := by
  rintro ⟨std, hall⟩
  have hbackup : Disk.find .ascii strippedHost.disk servicePair.backup = some [77, 90, 2] := by decide
  have hmissing : Disk.find .ascii strippedHost.disk servicePair.primary = none := by decide
  have hdrift : Item.serviceImage.Drifted std .ascii strippedHost :=
    ⟨_, hbackup, fun d hd => absurd (hmissing.symm.trans hd) (by simp)⟩
  have hops : Item.serviceImage.OpsSucceed std .ascii driverLocked strippedHost := by
    refine ⟨?_, ?_, ⟨?_, ?_, ?_, ?_⟩, ⟨?_, ?_, ?_, ?_⟩, ?_⟩ <;> decide
  refine (serviceImage_mended_iff hdrift hops).1 (hall .serviceImage hdrift hops) ?_
  refine ⟨[77, 90, 1], by decide, Or.inl ⟨by decide, ?_⟩⟩
  rintro ⟨-, -, hcreate, -⟩
  revert hcreate
  decide

end Lockguard
