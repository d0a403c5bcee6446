import Lockguard.Isolation
/-!
# What the WLAN check leaves behind

`wlanFiltersOK` answers whether every interface has "a permit entry for ssid AND a deny-all entry"
(`wlan_windows.go:12-13`), and `applyWLANFilters` installs just these. But the test (`:235-243`) is that
the permit list has the entry among others, and that the deny list has an entry, whatever it denies.
Where all interfaces pass it nothing is written (`enforce_windows.go:186-188`).

* `ensureWLANFilter_ok`: the two ways the check ends without an error,
* `wlanFilter_wanted_iff`: it leaves the lists as they are wanted unless it overlooks a drift,
* `wlanFilter_overlooked`: a deny list with one named network is overlooked.
-/
namespace Lockguard

open Calls

/-- The lists of an interface that allow one network in infrastructure mode and no other. -/
structure AllowsOnly (ssid : Bytes) (permit deny : List Dot11Network) : Prop where
  only : ∀ n ∈ permit, ssidEquals n.ssid ssid = true ∧ n.bssType = dot11BSSTypeInfrastructure
  named : ∃ n ∈ permit, ssidEquals n.ssid ssid = true ∧ n.bssType = dot11BSSTypeInfrastructure
  infrastructure : ∃ n ∈ deny, n.ssid.ssidLength = 0 ∧ n.bssType = dot11BSSTypeInfrastructure
  independent : ∃ n ∈ deny, n.ssid.ssidLength = 0 ∧ n.bssType = dot11BSSTypeIndependent

def Wanted (m : Host) (ssid : Bytes) (g : Guid) : Prop :=
  AllowsOnly ssid (m.filterList g wlanFilterListGroupPolicyPermit) (m.filterList g wlanFilterListGroupPolicyDeny)

/-- What `applyWLANFilters` writes is wanted. -/
theorem allowsOnly_applied {ssid : Bytes} (h : ssid.length ≤ 32) : AllowsOnly ssid (permitOnly (ssidOf ssid)) denyAll where
  only n hn := by
    rw [permitOnly, List.mem_singleton] at hn
    subst hn
    exact ⟨ssidEquals_ssidOf h, rfl⟩
  named := ⟨_, List.mem_singleton_self _, ssidEquals_ssidOf h, rfl⟩
  infrastructure := ⟨_, List.mem_cons_self, rfl, rfl⟩
  independent := ⟨_, List.mem_cons_of_mem _ (List.mem_singleton_self _), rfl, rfl⟩

section
variable {t : CaseTables} {env : Call → Outcome} {ssid : Bytes} {std : GoStd} {m : Host}

/-! ## The two loops, where they end without an error -/

theorem filtersOKLoop_ok {ifaces : List Guid} {ok : Bool}
    (hok : ((filtersOKLoop ssid ifaces).run (onHost t env) m).1 = .ok ok) :
    ((filtersOKLoop ssid ifaces).run (onHost t env) m).2 = m ∧ (ok = true ↔ ∀ g ∈ ifaces, ListsRight m ssid g) := by
  induction ifaces with
  | nil =>
    cases hok
    exact ⟨rfl, by simp⟩
  | cons g ifaces ih =>
    by_cases hg : GetsSucceed env g
    · rw [filtersOKLoop_cons hg] at hok ⊢
      by_cases hright : ListsRight m ssid g
      · rw [if_pos hright] at hok ⊢
        obtain ⟨hstate, hall⟩ := ih hok
        refine ⟨hstate, hall.trans ?_⟩
        rw [List.forall_mem_cons]
        exact (and_iff_right hright).symm
      · rw [if_neg hright] at hok ⊢
        cases hok
        refine ⟨rfl, iff_of_false (by simp) ?_⟩
        intro hall
        exact hright (hall g List.mem_cons_self)
    · have hfails : ∃ e, (filtersOKLoop ssid (g :: ifaces)).run (onHost t env) m = (.error e, m) :=
        filtersOKLoop_cons_error hg
      obtain ⟨e, he⟩ := hfails
      rw [he] at hok
      cases hok

theorem setsSucceed_of_ok {permit deny : List Dot11Network} {g : Guid} {ifaces : List Guid}
    (hok : ((applyLoop permit deny (g :: ifaces)).run (onHost t env) m).1 = .ok ()) :
    SetsSucceed env permit deny g := by
  rw [applyLoop] at hok
  obtain ⟨_, hpermit, hrun⟩ := orReturn_ok hok
  rw [hrun] at hok
  obtain ⟨_, hdeny, -⟩ := orReturn_ok hok
  rw [run_wlanSetFilter] at hpermit hdeny
  exact ⟨by simpa using orFail_ok hpermit, by simpa using orFail_ok hdeny⟩

theorem applyLoop_ok {permit deny : List Dot11Network} {ifaces : List Guid}
    (hok : ((applyLoop permit deny ifaces).run (onHost t env) m).1 = .ok ()) :
    ∀ g ∈ ifaces, HasLists permit deny ((applyLoop permit deny ifaces).run (onHost t env) m).2 g := by
  induction ifaces generalizing m with
  | nil => simp
  | cons g ifaces ih =>
    have hsets := setsSucceed_of_ok hok
    rw [applyLoop_cons hsets] at hok ⊢
    intro k hk
    rcases List.mem_cons.1 hk with rfl | hk
    · exact applyLoop_keeps (withLists_hasLists m k)
    · exact ih hok k hk

/-! ## The check -/

/-- A WLAN function that ends without an error has come to its loop. -/
theorem enumerated_ok {α : Type} {user : WlanUser} {f : List Guid → Go (Except GoError α)} {a : α}
    (hok : (((wlanOpen user).orReturn fun _ => (wlanEnumInterfaces user).orReturn f).run (onHost t env) m).1 = .ok a) :
    ((wlanOpen user).orReturn fun _ => (wlanEnumInterfaces user).orReturn f).run (onHost t env) m =
      (f m.interfaces).run (onHost t env) m := by
  rw [run_enumerated] at hok ⊢
  split at hok
  · cases hok
  · rename_i hopen
    split at hok
    · cases hok
    · rename_i henum
      rw [if_neg hopen, if_neg henum]

theorem wlanFiltersOK_ok {ok : Bool} (hok : ((wlanFiltersOK ssid).run (onHost t env) m).1 = .ok ok) :
    ((wlanFiltersOK ssid).run (onHost t env) m).2 = m ∧ (ok = true ↔ ∀ g ∈ m.interfaces, ListsRight m ssid g) := by
  rw [wlanFiltersOK] at hok ⊢
  have hrun := enumerated_ok hok
  rw [hrun] at hok ⊢
  exact filtersOKLoop_ok hok

theorem applyWLANFilters_ok (hok : ((applyWLANFilters ssid).run (onHost t env) m).1 = .ok ()) :
    ssid.length ≤ 32 ∧ ∀ g ∈ m.interfaces,
      HasLists (permitOnly (ssidOf ssid)) denyAll ((applyWLANFilters ssid).run (onHost t env) m).2 g := by
  have hlen : ssid.length ≤ 32 := by
    by_contra hlong
    have hfrom : ssidFromString ssid = .error (.ssidTooLong ssid) := if_pos (Nat.not_le.1 hlong)
    rw [applyWLANFilters, hfrom] at hok
    cases hok
  have hfrom : ssidFromString ssid = .ok (ssidOf ssid) := if_neg (Nat.not_lt.2 hlen)
  refine ⟨hlen, ?_⟩
  rw [applyWLANFilters, hfrom] at hok ⊢
  simp only at hok ⊢
  have hrun := enumerated_ok hok
  rw [hrun] at hok ⊢
  exact applyLoop_ok hok

theorem loadConfig_ok {cfg : LockguardConfig} (hok : ((loadConfig std).run (onHost t env) m).1 = .ok cfg) :
    ((loadConfig std).run (onHost t env) m).2 = m ∧
      configuredSSID std t m = (some cfg.printerSSID).filter (· ≠ []) := by
  rw [loadConfig] at hok ⊢
  obtain ⟨data, hdata, hrun⟩ := orReturn_ok hok
  rw [hrun, run_readFile] at hok ⊢
  rw [run_readFile, ← Host.readOf] at hdata
  have hfind : Disk.find t m.disk configPath = some data := readOf_find (orFailSome_ok hdata)
  cases hcfg : std.unmarshal data with
  | none =>
    simp only [hcfg] at hok
    cases hok
  | some cfg' =>
    simp only [hcfg] at hok ⊢
    cases hok
    refine ⟨rfl, ?_⟩
    rw [configuredSSID, hfind, Option.bind_some, hcfg, Option.map_some]

/-- The check ends without an error in one of two ways: the test passes everywhere and nothing is
written, or it fails somewhere and the lists of every interface are. -/
theorem ensureWLANFilter_ok (hssid : configuredSSID std t m = some ssid)
    (hok : ((ensureWLANFilter std).run (onHost t env) m).1 = .ok ()) :
    ((∀ g ∈ m.interfaces, ListsRight m ssid g) ∧ ((ensureWLANFilter std).run (onHost t env) m).2 = m) ∨
    ((∃ g ∈ m.interfaces, ¬ ListsRight m ssid g) ∧ ssid.length ≤ 32 ∧ ∀ g ∈ m.interfaces,
      HasLists (permitOnly (ssidOf ssid)) denyAll ((ensureWLANFilter std).run (onHost t env) m).2 g) := by
  rw [ensureWLANFilter] at hok ⊢
  obtain ⟨cfg, hcfg, hload⟩ := orReturn_ok hok
  rw [hload] at hok ⊢
  obtain ⟨hstate, hconfigured⟩ := loadConfig_ok hcfg
  rw [hssid] at hconfigured
  obtain ⟨hsome, hne⟩ := Option.filter_eq_some_iff.1 hconfigured.symm
  have hcfgssid : cfg.printerSSID = ssid := Option.some.inj hsome
  have hne' : ¬ ssid = [] := by simpa using hne
  rw [hstate, hcfgssid, if_neg hne'] at hok ⊢
  obtain ⟨ok, htest, hrun⟩ := orReturn_ok hok
  rw [hrun] at hok ⊢
  obtain ⟨hstate', hall⟩ := wlanFiltersOK_ok htest
  rw [hstate'] at hok ⊢
  cases ok with
  | true =>
    left
    exact ⟨hall.1 rfl, rfl⟩
  | false =>
    right
    have hdrift : ∃ g ∈ m.interfaces, ¬ ListsRight m ssid g := by
      by_contra hnone
      push Not at hnone
      exact absurd (hall.2 hnone) (by simp)
    exact ⟨hdrift, applyWLANFilters_ok hok⟩

theorem ensureWLANFilter_interfaces :
    ((ensureWLANFilter std).run (onHost t env) m).2.interfaces = m.interfaces :=
  check_keeps t env (ensureWLANFilter_makes std) (fun c _ m => (answer_fixed _ c m).2) m

theorem wanted_of_hasLists (h : ssid.length ≤ 32) {g : Guid}
    (hg : HasLists (permitOnly (ssidOf ssid)) denyAll m g) : Wanted m ssid g := by
  unfold Wanted
  rw [hg.1, hg.2]
  exact allowsOnly_applied h

end

/-- **Which drifts the check repairs.** Where it ends without an error, the lists of every interface
are as wanted if and only if it has seen a drift on one of them or there was none. -/
theorem wlanFilter_wanted_iff (std : GoStd) (t : CaseTables) (env : Call → Outcome) (m : Host) (ssid : Bytes)
    (hssid : configuredSSID std t m = some ssid) (hok : ((ensureWLANFilter std).run (onHost t env) m).1 = .ok ()) :
    (∀ g ∈ ((ensureWLANFilter std).run (onHost t env) m).2.interfaces,
      Wanted ((ensureWLANFilter std).run (onHost t env) m).2 ssid g) ↔
    (∃ g ∈ m.interfaces, ¬ ListsRight m ssid g) ∨ ∀ g ∈ m.interfaces, Wanted m ssid g := by
  rw [ensureWLANFilter_interfaces]
  rcases ensureWLANFilter_ok hssid hok with ⟨hpass, hsame⟩ | ⟨hdrift, hlen, hwritten⟩
  · rw [hsame]
    constructor
    · exact Or.inr
    · rintro (⟨g, hg, hdrift⟩ | hall)
      · exact absurd (hpass g hg) hdrift
      · exact hall
  · refine iff_of_true ?_ (Or.inl hdrift)
    intro g hg
    exact wanted_of_hasLists hlen (hwritten g hg)

/-! ## Two machines -/

/-- `{"printer_ssid":"LAN"}` -/
def lanConfig : Bytes :=
  [123, 34, 112, 114, 105, 110, 116, 101, 114, 95, 115, 115, 105, 100, 34, 58, 34, 76, 65, 78, 34, 125]

def lanStd : GoStd where
  sha256Hex := fun data =>
    if data = lanConfig then "446083da85aad1beaae5383e4e97378434f87edbbf6d1ae503602a215b5e65b0" else ""
  unmarshal := fun data => if data = lanConfig then some ⟨[76, 65, 78], [], 0⟩ else none

/-- One interface that permits `LAN` alone. -/
def lanHost (deny : List Dot11Network) : Host where
  disk := [⟨configPath, lanConfig⟩]
  services := fun _ => ⟨.disabled, false⟩
  bcd := ⟨some "Yes", some "Standard", none⟩
  exe := "C:\\ProgramData\\Lockguard\\bin\\lockguard-svc.exe"
  debugger := fun _ => none
  interfaces := [1]
  filterList := fun _ listType =>
    if listType = wlanFilterListGroupPolicyPermit then permitOnly (ssidOf [76, 65, 78]) else deny

/-- A deny list that is gone is seen, and written again. -/
theorem wlanFilter_emptied :
    Wanted ((ensureWLANFilter lanStd).run (onHost .ascii nothingFails) (lanHost [])).2 [76, 65, 78] 1 :=
  (wlanFilter_wanted_iff lanStd .ascii nothingFails (lanHost []) [76, 65, 78] (by decide) (by rfl)).2
    (Or.inl ⟨1, by decide, by decide⟩) 1 (by decide)

/-- Denies the network `EvilNet`, and no other. -/
def evilDenied : List Dot11Network := [⟨ssidOf [69, 118, 105, 108, 78, 101, 116], dot11BSSTypeInfrastructure⟩]

/-- Where it names one network in place of all, the check ends without an error and leaves it. -/
theorem wlanFilter_overlooked : ¬ ∀ (std : GoStd) (t : CaseTables) (env : Call → Outcome) (m : Host) (ssid : Bytes),
    configuredSSID std t m = some ssid → ((ensureWLANFilter std).run (onHost t env) m).1 = .ok () →
      ∀ g ∈ ((ensureWLANFilter std).run (onHost t env) m).2.interfaces,
        Wanted ((ensureWLANFilter std).run (onHost t env) m).2 ssid g := by
  intro hall
  have hsame : ((ensureWLANFilter lanStd).run (onHost .ascii nothingFails) (lanHost evilDenied)).2 =
      lanHost evilDenied := by rfl
  have hwanted := hall lanStd .ascii nothingFails (lanHost evilDenied) [76, 65, 78] (by decide) (by rfl) 1 (by decide)
  rw [hsame] at hwanted
  obtain ⟨n, hn, hempty, -⟩ := hwanted.infrastructure
  have hdeny : (lanHost evilDenied).filterList 1 wlanFilterListGroupPolicyDeny = evilDenied := by rfl
  rw [hdeny, evilDenied, List.mem_singleton] at hn
  subst hn
  exact absurd hempty (by decide)

end Lockguard
