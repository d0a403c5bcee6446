import Lockguard.Wfp
/-!
# The action types the engine is handed (`wfp.c:33-64`, `:162-221`)

| here | there |
| --- | --- |
| `handedFilter`     | the `FWPM_FILTER` one `LgAddFilter` hands to `FwpmFilterAdd` |
| `addAll`, `handed` | any sequence of `LgAddFilter` calls: the engine it leaves, the filters it hands over |
| `callsMade`        | the calls of an install that ends with the first failure |

The action passes through a `UINT8` parameter, and `FWP_ACTION_BLOCK` and `FWP_ACTION_PERMIT` keep
`0x01` and `0x02` of themselves.
-/
namespace Lockguard

/-! ## One call -/

/-- None once the array of ids is full. -/
def handedFilter (call : LgAddFilterCall) (e : WfpEngine) : Option FwpmFilter :=
  if lgMaxFilters ≤ e.gFilterCount then none else some ⟨call, call.action.toUInt8.toUInt32⟩

theorem lgAddFilter_eq (k : WfpCalls) (call : LgAddFilterCall) (e : WfpEngine) :
    lgAddFilter k call e = match handedFilter call e with
      | none => (statusInsufficientResources, e)
      | some f =>
        if ntSuccess (k.filterAdd e.gFilterCount) then
          (k.filterAdd e.gFilterCount, ⟨e.filters ++ [f], e.gFilterCount + 1⟩)
        else (k.filterAdd e.gFilterCount, e) := by
  unfold lgAddFilter handedFilter
  split <;> rfl

theorem handedFilter_eq_some {call : LgAddFilterCall} {e : WfpEngine} {f : FwpmFilter} :
    handedFilter call e = some f ↔ e.gFilterCount < lgMaxFilters ∧ f = ⟨call, call.action.toUInt8.toUInt32⟩ := by
  unfold handedFilter
  split
  · simp; omega
  · simp [eq_comm]; omega

/-- A `UINT8` keeps an action type below 256. -/
theorem narrowed_iff (a : UInt32) : a.toUInt8.toUInt32 = a ↔ a < 256 := by
  have h256 : (256 : UInt32).toNat = 256 := rfl
  rw [UInt32.toUInt32_toUInt8, ← UInt32.toNat_inj, UInt32.lt_iff_toNat_lt, UInt32.toNat_mod, h256]
  omega

/-! ## A sequence of calls -/

/-- Each call with what the engine answers to it. -/
abbrev FilterAdds := List (WfpCalls × LgAddFilterCall)

def addAll : FilterAdds → WfpEngine → WfpEngine
  | [], e => e
  | (k, call) :: adds, e => addAll adds (lgAddFilter k call e).2

def handed : FilterAdds → WfpEngine → List FwpmFilter
  | [], _ => []
  | (k, call) :: adds, e => (handedFilter call e).toList ++ handed adds (lgAddFilter k call e).2

/-- What a sequence hands over, each of its calls hands over from what those before it left. -/
theorem mem_handed {adds : FilterAdds} {e : WfpEngine} {f : FwpmFilter} :
    f ∈ handed adds e ↔
      ∃ before k call after, adds = before ++ (k, call) :: after ∧ handedFilter call (addAll before e) = some f := by
  induction adds generalizing e with
  | nil => simp [handed]
  | cons add adds ih =>
    obtain ⟨k, call⟩ := add
    simp only [handed, List.mem_append, Option.mem_toList, ih]
    constructor
    · rintro (hfirst | ⟨before, k', call', after, rfl, hlater⟩)
      · exact ⟨[], k, call, adds, rfl, hfirst⟩
      · exact ⟨(k, call) :: before, k', call', after, rfl, hlater⟩
    · rintro ⟨before, k', call', after, heq, hf⟩
      cases before with
      | nil =>
        simp only [List.nil_append, List.cons.injEq, Prod.mk.injEq] at heq
        obtain ⟨⟨-, rfl⟩, -⟩ := heq
        exact Or.inl hf
      | cons add' before =>
        simp only [List.cons_append, List.cons.injEq] at heq
        obtain ⟨rfl, rfl⟩ := heq
        exact Or.inr ⟨before, k', call', after, rfl, hf⟩

/-- The ids held after the sequence, when `n` are before it: one more for each call answered with success. -/
def idsHeld : FilterAdds → Nat → Nat
  | [], n => n
  | (k, _) :: adds, n => idsHeld adds (if n < lgMaxFilters ∧ ntSuccess (k.filterAdd n) = true then n + 1 else n)

theorem addAll_gFilterCount (adds : FilterAdds) (e : WfpEngine) :
    (addAll adds e).gFilterCount = idsHeld adds e.gFilterCount := by
  induction adds generalizing e with
  | nil => rfl
  | cons add adds ih =>
    obtain ⟨k, call⟩ := add
    have hcount : (lgAddFilter k call e).2.gFilterCount =
        if e.gFilterCount < lgMaxFilters ∧ ntSuccess (k.filterAdd e.gFilterCount) = true then e.gFilterCount + 1
        else e.gFilterCount := by
      rw [lgAddFilter_eq, handedFilter]
      by_cases hroom : e.gFilterCount < lgMaxFilters
      · rw [if_neg (by omega)]
        simp only [hroom, true_and]
        split <;> rfl
      · rw [if_pos (by omega), if_neg (by simp [hroom])]
    rw [addAll, idsHeld, ih, hcount]

/-- Whenever fewer than 64 ids are held before a call of the sequence, the action it names fits in a byte. -/
def ActionsFit (adds : FilterAdds) (e : WfpEngine) : Prop :=
  ∀ before k call after, adds = before ++ (k, call) :: after →
    idsHeld before e.gFilterCount < lgMaxFilters → call.action < 256

theorem handed_carry_iff (adds : FilterAdds) (e : WfpEngine) :
    (∀ f ∈ handed adds e, f.actionType = f.call.action) ↔ ActionsFit adds e := by
  constructor
  · intro hcarry before k call after hadds hroom
    have hmem : (⟨call, call.action.toUInt8.toUInt32⟩ : FwpmFilter) ∈ handed adds e :=
      mem_handed.2 ⟨before, k, call, after, hadds, handedFilter_eq_some.2 ⟨addAll_gFilterCount before e ▸ hroom, rfl⟩⟩
    exact (narrowed_iff call.action).1 (hcarry _ hmem)
  · intro hfit f hf
    obtain ⟨before, k, call, after, hadds, hhanded⟩ := mem_handed.1 hf
    obtain ⟨hroom, rfl⟩ := handedFilter_eq_some.1 hhanded
    rw [addAll_gFilterCount] at hroom
    exact (narrowed_iff call.action).2 (hfit before k call after hadds hroom)

/-- A filter of the engine has been there before, or was handed over. -/
theorem mem_addAll_filters {adds : FilterAdds} {e : WfpEngine} {f : FwpmFilter} (h : f ∈ (addAll adds e).filters) :
    f ∈ e.filters ∨ f ∈ handed adds e := by
  induction adds generalizing e with
  | nil => exact Or.inl h
  | cons add adds ih =>
    obtain ⟨k, call⟩ := add
    rw [handed, List.mem_append, Option.mem_toList]
    rcases ih h with hbefore | hlater
    · rw [lgAddFilter_eq] at hbefore
      cases hh : handedFilter call e with
      | none =>
        simp only [hh] at hbefore
        exact Or.inl hbefore
      | some f' =>
        simp only [hh] at hbefore
        split at hbefore
        · rcases List.mem_append.1 hbefore with hold | hnew
          · exact Or.inl hold
          · rw [List.mem_singleton.1 hnew]
            exact Or.inr (Or.inl rfl)
        · exact Or.inl hbefore
    · exact Or.inr (Or.inr hlater)

/-! ## The calls of `LgWfpInitialize` -/

/-- `if (!NT_SUCCESS(s = i)) goto fail;`, and then `j`. -/
def Install.andThen (i j : Install) : Install := fun e =>
  if !ntSuccess (i e).1 then i e else j (i e).2

theorem inOrder_cons (i : Install) (is : List Install) : inOrder (i :: is) = i.andThen (inOrder is) := rfl

theorem andThen_assoc (i j l : Install) : (i.andThen j).andThen l = i.andThen (j.andThen l) := by
  funext e
  unfold Install.andThen
  by_cases hi : ntSuccess (i e).1 = true <;> simp [hi]

theorem nil_andThen (i : Install) : (inOrder []).andThen i = i := by
  funext e
  simp [Install.andThen, inOrder]

/-- The install functions together make one list of calls, up to the first that fails. -/
theorem inOrder_installs (k : WfpCalls) : inOrder (installs k) = inOrder (wfpFilters.map (lgAddFilter k)) := by
  simp only [installs, lgInstallV4LanPermit, lgInstallV6LanPermit, lgInstallMulticastDiscovery,
    lgInstallDefaultDeny, wfpFilters, v4LanPermits, v4Ranges, v6LanPermits, v6Ranges, multicastPermits,
    discoveryTargets, List.map_cons, List.map_nil, List.flatten_cons, List.flatten_nil, List.cons_append,
    List.nil_append, inOrder_cons, andThen_assoc, nil_andThen]

/-- The calls that are made of a list whose first failure ends it. -/
def callsMade (k : WfpCalls) : List LgAddFilterCall → WfpEngine → FilterAdds
  | [], _ => []
  | call :: calls, e =>
    let r := lgAddFilter k call e
    if !ntSuccess r.1 then [(k, call)] else (k, call) :: callsMade k calls r.2

theorem inOrder_engine (k : WfpCalls) (calls : List LgAddFilterCall) (e : WfpEngine) :
    (inOrder (calls.map (lgAddFilter k)) e).2 = addAll (callsMade k calls e) e := by
  induction calls generalizing e with
  | nil => rfl
  | cons call calls ih =>
    rw [List.map_cons, inOrder, callsMade]
    by_cases hs : ntSuccess (lgAddFilter k call e).1 = true
    · simp only [hs, Bool.not_true, Bool.false_eq_true, if_false]
      rw [ih, addAll]
    · simp only [hs, Bool.not_false, if_true]
      rfl

theorem callsMade_sub {k : WfpCalls} {calls : List LgAddFilterCall} {e : WfpEngine} {add : WfpCalls × LgAddFilterCall}
    (h : add ∈ callsMade k calls e) : add.2 ∈ calls := by
  induction calls generalizing e with
  | nil => cases h
  | cons call calls ih =>
    rw [callsMade] at h
    split at h
    · simp only [List.mem_singleton] at h
      simp [h]
    · rcases List.mem_cons.1 h with rfl | hlater
      · simp
      · exact List.mem_cons_of_mem _ (ih hlater)

/-- The filters `LgWfpInitialize` hands over, in force afterwards or not. -/
def wfpHanded (k : WfpCalls) : List FwpmFilter :=
  if ntSuccess k.engineOpen && ntSuccess k.transactionBegin && ntSuccess k.subLayerAdd then
    handed (callsMade k wfpFilters .boot) .boot
  else []

theorem lgWfpInitialize_handed {k : WfpCalls} {f : FwpmFilter} (h : f ∈ (lgWfpInitialize k).2) : f ∈ wfpHanded k := by
  unfold lgWfpInitialize at h
  split at h
  · cases h
  rename_i hopen
  split at h
  · cases h
  rename_i hbegin
  split at h
  · cases h
  rename_i hsub
  simp only [inOrder_installs, inOrder_engine] at h
  split at h
  · cases h
  split at h
  · cases h
  simp only [Bool.not_eq_true', Bool.not_eq_false] at hopen hbegin hsub
  rw [wfpHanded, hopen, hbegin, hsub]
  rcases mem_addAll_filters h with hboot | hh
  · cases hboot
  · exact hh

theorem mem_wfpHanded {k : WfpCalls} {f : FwpmFilter} (h : f ∈ wfpHanded k) :
    f.call ∈ wfpFilters ∧ f.actionType = f.call.action.toUInt8.toUInt32 := by
  unfold wfpHanded at h
  split at h
  · obtain ⟨before, k', call, after, hmade, hhanded⟩ := mem_handed.1 h
    obtain ⟨-, rfl⟩ := handedFilter_eq_some.1 hhanded
    have hcall : (k', call) ∈ callsMade k wfpFilters .boot := by
      rw [hmade]
      simp
    exact ⟨callsMade_sub hcall, rfl⟩
  · cases h

/-- What the engine is handed for the two actions is neither of them. -/
theorem wfpHanded_action {k : WfpCalls} {f : FwpmFilter} (h : f ∈ wfpHanded k) :
    f.call.action = fwpActionPermit ∧ f.actionType = 0x02 ∨ f.call.action = fwpActionBlock ∧ f.actionType = 0x01 := by
  obtain ⟨hcall, haction⟩ := mem_wfpHanded h
  rcases wfpFilters_kinds f.call hcall with ⟨hpermit, -⟩ | hdeny
  · refine Or.inl ⟨hpermit, ?_⟩
    rw [haction, hpermit]
    rfl
  · have hblock : f.call.action = fwpActionBlock := by
      rw [hdeny]
      rfl
    refine Or.inr ⟨hblock, ?_⟩
    rw [haction, hblock]
    rfl

/-! ## When an action arrives -/

/-- **A filter carries the action its caller named when that fits in a byte**, in every sequence of
calls and whatever the engine answers. No filter of `LgWfpInitialize` does, and none in force is one
the engine reads as block, for any flow at any layer. -/
theorem actions_carried_iff (adds : FilterAdds) (e : WfpEngine) (k : WfpCalls) (layer : Layer) (flow : Flow) :
    ((∀ f ∈ handed adds e, f.actionType = f.call.action) ↔ ActionsFit adds e) ∧
    (∀ f ∈ wfpHanded k, f.actionType ≠ f.call.action) ∧
    ¬ ∃ f ∈ (lgWfpInitialize k).2, f.call.hits layer flow = true ∧ f.actionType = fwpActionBlock := by
  refine ⟨handed_carry_iff adds e, ?_, ?_⟩
  · intro f hf
    rcases wfpHanded_action hf with ⟨hcall, haction⟩ | ⟨hcall, haction⟩
    all_goals
      rw [hcall, haction]
      decide
  · rintro ⟨f, hf, -, hblock⟩
    rcases wfpHanded_action (lgWfpInitialize_handed hf) with ⟨-, haction⟩ | ⟨-, haction⟩
    all_goals
      rw [haction] at hblock
      revert hblock
      decide

/-- Every call to the engine succeeds: the deny that a connection to 8.8.8.8 meets is handed over
with `0x01`. -/
theorem deny_not_block :
    (∃ f ∈ wfpHanded Worked.wfpCalls, f.call = defaultDeny .aleAuthConnectV4 ∧ f.call.action = fwpActionBlock ∧
      f.actionType = 0x01) ∧
    ¬ (∀ f ∈ wfpHanded Worked.wfpCalls, f.actionType = f.call.action) ∧
    ¬ ∃ f ∈ (lgWfpInitialize Worked.wfpCalls).2,
      f.call.hits .aleAuthConnectV4 ⟨.outbound, .v4 0x08080808, 443⟩ = true ∧ f.actionType = fwpActionBlock := by
  decide +kernel

end Lockguard
