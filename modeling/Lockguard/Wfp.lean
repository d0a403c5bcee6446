import Lockguard.Nt
import Lockguard.Lib.Cidr
import Mathlib.Data.List.Forall2
import Mathlib.Data.List.MinMax
/-!
# The LAN-only packet filter (`wfp.c`)

| here | there |
| --- | --- |
| `Condition`                | `FWPM_FILTER_CONDITION`, all of them `FWP_MATCH_EQUAL` |
| `LgAddFilterCall`          | the arguments of one `LgAddFilter` call |
| `FwpmFilter`               | the `FWPM_FILTER` handed to `FwpmFilterAdd` |
| `WfpCalls`                 | what the engine answers to `LgWfpInitialize` |
| `lgWfpInitialize`          | `LgWfpInitialize` (`wfp.c:169-221`) |
| `arbitrate`                | the verdict inside one sublayer: the heaviest matching filter decides |

The filters are read with the action their caller named. `LgAddFilter` hands it on through a
`UINT8`, and what that leaves of it is kept apart (`FwpmFilter.actionType`).
-/
namespace Lockguard

def statusInsufficientResources : NTSTATUS := 0xC000009A#32

/-! ## Filters -/

inductive Layer where
  | aleAuthConnectV4
  | aleAuthRecvAcceptV4
  | aleAuthConnectV6
  | aleAuthRecvAcceptV6
  | aleResourceAssignmentV4
  | aleResourceAssignmentV6
deriving DecidableEq

def fwpActionBlock : UInt32 := 0x00001001
def fwpActionPermit : UInt32 := 0x00001002

abbrev V6Address := Vector UInt8 16

/-- The first byte is the most significant. -/
def V6Address.bits (a : V6Address) : BitVec 128 := BitVec.ofNat 128 (a.toList.foldl (fun n b => 256 * n + b.toNat) 0)

inductive Condition where
  | remoteAddressV4 (addr mask : UInt32)
  | remoteAddressV6 (addr : V6Address) (prefixLength : UInt8)
  | remotePort (port : UInt16)
deriving DecidableEq

structure LgAddFilterCall where
  layer : Layer
  action : UInt32
  conditions : List Condition
  weight : UInt64
deriving DecidableEq

structure FwpmFilter where
  call : LgAddFilterCall
  actionType : UInt32

/-- The filters of the open transaction, and the static count. -/
structure WfpEngine where
  filters : List FwpmFilter
  gFilterCount : Nat

def WfpEngine.boot : WfpEngine := ⟨[], 0⟩

structure WfpCalls where
  engineOpen : NTSTATUS
  transactionBegin : NTSTATUS
  subLayerAdd : NTSTATUS
  filterAdd : Nat → NTSTATUS
  transactionCommit : NTSTATUS

def lgMaxFilters : Nat := 64

/-- What adds filters: its status and the engine it leaves. -/
abbrev Install := WfpEngine → NTSTATUS × WfpEngine

/-- `LgAddFilter` (`:33-64`); its second look at the count finds what the first one found. -/
def lgAddFilter (k : WfpCalls) (call : LgAddFilterCall) : Install := fun e =>
  if lgMaxFilters ≤ e.gFilterCount then (statusInsufficientResources, e)
  else
    let s := k.filterAdd e.gFilterCount
    if ntSuccess s then
      (s, ⟨e.filters ++ [⟨call, call.action.toUInt8.toUInt32⟩], e.gFilterCount + 1⟩)
    else (s, e)

/-- One after another, up to the first that fails. -/
def inOrder : List Install → Install
  | [], e => (statusSuccess, e)
  | i :: is, e =>
    let r := i e
    if !ntSuccess r.1 then r else inOrder is r.2

/-! ## The installs -/

def v4Ranges : List (UInt32 × UInt32) :=
  [(0x0A000000, 0xFF000000), (0xAC100000, 0xFFF00000), (0xC0A80000, 0xFFFF0000), (0xA9FE0000, 0xFFFF0000)]

def v4LanPermits (layer : Layer) (weight : UInt64) : List LgAddFilterCall :=
  v4Ranges.map fun r => ⟨layer, fwpActionPermit, [.remoteAddressV4 r.1 r.2], weight⟩

/-- `LgInstallV4LanPermit` (`:67-91`). -/
def lgInstallV4LanPermit (k : WfpCalls) (layer : Layer) (weight : UInt64) : Install :=
  inOrder ((v4LanPermits layer weight).map (lgAddFilter k))

/-- `while (v & 0x80) { ++prefix; v <<= 1; }`, for as many rounds: what is left of `v`, and `prefix`. -/
def countOnes : Nat → UInt8 → UInt8 → UInt8 × UInt8
  | 0, v, pfx => (v, pfx)
  | rounds + 1, v, pfx => if v &&& 0x80 ≠ 0 then countOnes rounds (v <<< 1) (pfx + 1) else (v, pfx)

/-- The loop over the bytes of the mask (`:110-114`). -/
def prefixOfMask : List UInt8 → UInt8 → UInt8
  | [], pfx => pfx
  | m :: ms, pfx =>
    let r := countOnes 8 m pfx
    if m ≠ 0xFF then r.2 else prefixOfMask ms r.2

def v6Ranges : List (V6Address × V6Address) :=
  [(#v[0xFE, 0x80, 0, 0, 0, 0, 0, 0, 0, 0, 0, 0, 0, 0, 0, 0], #v[0xFF, 0xC0, 0, 0, 0, 0, 0, 0, 0, 0, 0, 0, 0, 0, 0, 0]),
    (#v[0xFC, 0, 0, 0, 0, 0, 0, 0, 0, 0, 0, 0, 0, 0, 0, 0], #v[0xFE, 0, 0, 0, 0, 0, 0, 0, 0, 0, 0, 0, 0, 0, 0, 0])]

def v6LanPermits (layer : Layer) (weight : UInt64) : List LgAddFilterCall :=
  v6Ranges.map fun r => ⟨layer, fwpActionPermit, [.remoteAddressV6 r.1 (prefixOfMask r.2.toList 0)], weight⟩

/-- `LgInstallV6LanPermit` (`:95-129`). -/
def lgInstallV6LanPermit (k : WfpCalls) (layer : Layer) (weight : UInt64) : Install :=
  inOrder ((v6LanPermits layer weight).map (lgAddFilter k))

def discoveryTargets : List (UInt32 × UInt16) := [(0xE00000FB, 5353), (0xEFFFFFFA, 1900)]

def multicastPermits (layer : Layer) (weight : UInt64) : List LgAddFilterCall :=
  discoveryTargets.map fun r =>
    ⟨layer, fwpActionPermit, [.remoteAddressV4 r.1 0xFFFFFFFF, .remotePort r.2], weight⟩

/-- `LgInstallMulticastDiscovery` (`:133-160`). -/
def lgInstallMulticastDiscovery (k : WfpCalls) (layer : Layer) (weight : UInt64) : Install :=
  inOrder ((multicastPermits layer weight).map (lgAddFilter k))

def defaultDeny (layer : Layer) : LgAddFilterCall := ⟨layer, fwpActionBlock, [], 0x100⟩

/-- `LgInstallDefaultDeny` (`:163-167`). -/
def lgInstallDefaultDeny (k : WfpCalls) (layer : Layer) : Install := lgAddFilter k (defaultDeny layer)

def permitW : UInt64 := 0xF000

/-- The installs of `LgWfpInitialize` (`:194-210`). -/
def installs (k : WfpCalls) : List Install :=
  [lgInstallV4LanPermit k .aleAuthConnectV4 permitW,
    lgInstallV4LanPermit k .aleAuthRecvAcceptV4 permitW,
    lgInstallMulticastDiscovery k .aleAuthConnectV4 permitW,
    lgInstallV6LanPermit k .aleAuthConnectV6 permitW,
    lgInstallV6LanPermit k .aleAuthRecvAcceptV6 permitW,
    lgInstallDefaultDeny k .aleAuthConnectV4,
    lgInstallDefaultDeny k .aleAuthConnectV6,
    lgInstallDefaultDeny k .aleAuthRecvAcceptV4,
    lgInstallDefaultDeny k .aleAuthRecvAcceptV6,
    lgInstallDefaultDeny k .aleResourceAssignmentV4,
    lgInstallDefaultDeny k .aleResourceAssignmentV6]

/-- `LgWfpInitialize` (`:169-221`): its status and the filters that are in force then. A failure
aborts the transaction, and with it every filter added. -/
def lgWfpInitialize (k : WfpCalls) : NTSTATUS × List FwpmFilter :=
  if !ntSuccess k.engineOpen then (k.engineOpen, [])
  else if !ntSuccess k.transactionBegin then (k.transactionBegin, [])
  else if !ntSuccess k.subLayerAdd then (k.subLayerAdd, [])
  else
    let r := inOrder (installs k) .boot
    if !ntSuccess r.1 then (r.1, [])
    else if !ntSuccess k.transactionCommit then (k.transactionCommit, [])
    else (statusSuccess, r.2.filters)

/-! ## The filters it adds -/

/-- An install that succeeds has added these. -/
def Adds (i : Install) (calls : List LgAddFilterCall) : Prop :=
  ∀ e, ntSuccess (i e).1 = true → (i e).2.filters.map FwpmFilter.call = e.filters.map FwpmFilter.call ++ calls

theorem addFilter_adds (k : WfpCalls) (call : LgAddFilterCall) : Adds (lgAddFilter k call) [call] := by
  intro e h
  unfold lgAddFilter at h ⊢
  split at h
  · cases h
  · rename_i hroom
    rw [if_neg hroom]
    simp only at h ⊢
    split
    · simp
    · rename_i hs
      rw [if_neg hs] at h
      exact absurd h hs

theorem inOrder_adds {is : List Install} {calls : List (List LgAddFilterCall)}
    (h : List.Forall₂ Adds is calls) : Adds (inOrder is) calls.flatten := by
  induction h with
  | nil =>
    intro e _
    simp [inOrder]
  | cons hi _ ih =>
    rename_i i cs is css _
    intro e hok
    unfold inOrder at hok ⊢
    simp only at hok ⊢
    split at hok
    · rename_i hs
      simp [hok] at hs
    · rename_i hs
      rw [if_neg hs, ih _ hok, hi e (by simpa using hs), List.flatten_cons, List.append_assoc]

theorem addAll_adds (k : WfpCalls) (calls : List LgAddFilterCall) :
    Adds (inOrder (calls.map (lgAddFilter k))) calls := by
  have hall : List.Forall₂ Adds (calls.map (lgAddFilter k)) (calls.map fun c => [c]) := by
    rw [List.forall₂_map_left_iff, List.forall₂_map_right_iff, List.forall₂_same]
    exact fun c _ => addFilter_adds k c
  have hadds := inOrder_adds hall
  rwa [← List.flatMap_def, List.flatMap_singleton'] at hadds

def wfpFilters : List LgAddFilterCall :=
  [v4LanPermits .aleAuthConnectV4 permitW, v4LanPermits .aleAuthRecvAcceptV4 permitW,
    multicastPermits .aleAuthConnectV4 permitW, v6LanPermits .aleAuthConnectV6 permitW,
    v6LanPermits .aleAuthRecvAcceptV6 permitW, [defaultDeny .aleAuthConnectV4],
    [defaultDeny .aleAuthConnectV6], [defaultDeny .aleAuthRecvAcceptV4],
    [defaultDeny .aleAuthRecvAcceptV6], [defaultDeny .aleResourceAssignmentV4],
    [defaultDeny .aleResourceAssignmentV6]].flatten

/-- **The filters in force** once `LgWfpInitialize` has succeeded. -/
theorem lgWfpInitialize_filters {k : WfpCalls} (h : ntSuccess (lgWfpInitialize k).1 = true) :
    (lgWfpInitialize k).2.map FwpmFilter.call = wfpFilters := by
  have hadds : Adds (inOrder (installs k)) wfpFilters := by
    apply inOrder_adds
    exact .cons (addAll_adds k _) <| .cons (addAll_adds k _) <| .cons (addAll_adds k _) <|
      .cons (addAll_adds k _) <| .cons (addAll_adds k _) <| .cons (addFilter_adds k _) <|
      .cons (addFilter_adds k _) <| .cons (addFilter_adds k _) <| .cons (addFilter_adds k _) <|
      .cons (addFilter_adds k _) <| .cons (addFilter_adds k _) .nil
  unfold lgWfpInitialize at h ⊢
  split at h
  · simp_all
  rename_i hopen
  split at h
  · simp_all
  rename_i hbegin
  split at h
  · simp_all
  rename_i hsub
  simp only at h
  split at h
  · simp_all
  rename_i hinst
  split at h
  · simp_all
  rename_i hcommit
  rw [if_neg hopen, if_neg hbegin, if_neg hsub, if_neg hinst, if_neg hcommit]
  exact hadds .boot (by simpa using hinst)

/-! ## Arbitration -/

inductive RemoteAddress where
  | v4 (a : UInt32)
  | v6 (a : V6Address)
deriving DecidableEq

inductive Direction where
  | outbound
  | inbound
deriving DecidableEq

structure Flow where
  direction : Direction
  remote : RemoteAddress
  port : UInt16
deriving DecidableEq

def Condition.holds (f : Flow) : Condition → Bool
  | .remoteAddressV4 addr mask =>
    match f.remote with
    | .v4 a => a &&& mask == addr &&& mask
    | .v6 _ => false
  | .remoteAddressV6 addr prefixLength =>
    match f.remote with
    | .v4 _ => false
    | .v6 a => decide (Cidr.Mem addr.bits prefixLength.toNat a.bits)
  | .remotePort port => f.port == port

def LgAddFilterCall.hits (layer : Layer) (f : Flow) (c : LgAddFilterCall) : Bool :=
  c.layer == layer && c.conditions.all (Condition.holds f)

/-- The action of the heaviest filter of the layer whose conditions all hold. -/
def arbitrate (cs : List LgAddFilterCall) (layer : Layer) (f : Flow) : Option UInt32 :=
  ((cs.filter (LgAddFilterCall.hits layer f)).argmax fun c => c.weight.toNat).map LgAddFilterCall.action

/-- The layer that authorizes the flow: auth-connect or auth-recv-accept. -/
def Flow.authLayer (f : Flow) : Layer :=
  match f.direction, f.remote with
  | .outbound, .v4 _ => .aleAuthConnectV4
  | .outbound, .v6 _ => .aleAuthConnectV6
  | .inbound, .v4 _ => .aleAuthRecvAcceptV4
  | .inbound, .v6 _ => .aleAuthRecvAcceptV6

/-- The layer at which the flow's local port is assigned. -/
def Flow.bindLayer (f : Flow) : Layer :=
  match f.remote with
  | .v4 _ => .aleResourceAssignmentV4
  | .v6 _ => .aleResourceAssignmentV6

/-- The verdict of filters in force at a layer. -/
def verdict (fs : List FwpmFilter) (layer : Layer) (f : Flow) : Option UInt32 :=
  arbitrate (fs.map FwpmFilter.call) layer f

theorem wfpFilters_kinds : ∀ c ∈ wfpFilters,
    (c.action = fwpActionPermit ∧ c.weight = permitW) ∨ c = defaultDeny c.layer := by decide +kernel

theorem defaultDeny_mem (layer : Layer) : defaultDeny layer ∈ wfpFilters := by
  cases layer <;> decide +kernel

theorem defaultDeny_hits (layer : Layer) (f : Flow) : (defaultDeny layer).hits layer f = true := by
  simp [LgAddFilterCall.hits, defaultDeny]

/-- **A permit that matches wins**, and where none does the default deny decides. -/
theorem arbitrate_wfpFilters (layer : Layer) (f : Flow) :
    arbitrate wfpFilters layer f =
      if ∃ c ∈ wfpFilters, c.hits layer f = true ∧ c.action = fwpActionPermit then some fwpActionPermit
      else some fwpActionBlock := by
  have hdeny : defaultDeny layer ∈ wfpFilters.filter (LgAddFilterCall.hits layer f) :=
    List.mem_filter.2 ⟨defaultDeny_mem layer, defaultDeny_hits layer f⟩
  unfold arbitrate
  cases hmax : (wfpFilters.filter (LgAddFilterCall.hits layer f)).argmax fun c => c.weight.toNat with
  | none =>
    rw [List.argmax_eq_none.1 hmax] at hdeny
    cases hdeny
  | some m =>
    obtain ⟨hmem, hhit⟩ := List.mem_filter.1 (List.argmax_mem hmax)
    split
    · rename_i hex
      obtain ⟨c, hc, hchit, hpermit⟩ := hex
      have hin : c ∈ wfpFilters.filter (LgAddFilterCall.hits layer f) := List.mem_filter.2 ⟨hc, hchit⟩
      have hle : c.weight.toNat ≤ m.weight.toNat :=
        List.le_of_mem_argmax (f := fun c : LgAddFilterCall => c.weight.toNat) hin hmax
      have hheavy : c.weight = permitW := by
        rcases wfpFilters_kinds c hc with ⟨-, hw⟩ | hd
        · exact hw
        · rw [hd] at hpermit
          exact absurd hpermit (show fwpActionBlock ≠ fwpActionPermit by decide)
      rcases wfpFilters_kinds m hmem with ⟨ha, -⟩ | hd
      · rw [Option.map_some, ha]
      · rw [hheavy, hd] at hle
        exact absurd hle (show ¬ permitW.toNat ≤ (0x100 : UInt64).toNat by decide)
    · rename_i hno
      rcases wfpFilters_kinds m hmem with ⟨ha, -⟩ | hd
      · exact absurd ⟨m, hmem, hhit, ha⟩ hno
      · rw [Option.map_some, hd]
        rfl

/-! ## What is permitted -/

/-- The LAN ranges: 10/8, 172.16/12, 192.168/16, 169.254/16; fe80::/10, fc00::/7. -/
def InLan : RemoteAddress → Prop
  | .v4 a => Cidr.Mem 0x0A000000#32 8 a.toBitVec ∨ Cidr.Mem 0xAC100000#32 12 a.toBitVec ∨
      Cidr.Mem 0xC0A80000#32 16 a.toBitVec ∨ Cidr.Mem 0xA9FE0000#32 16 a.toBitVec
  | .v6 a => Cidr.Mem 0xFE800000000000000000000000000000#128 10 a.bits ∨
      Cidr.Mem 0xFC000000000000000000000000000000#128 7 a.bits

/-- Outbound to 224.0.0.251 port 5353 or to 239.255.255.250 port 1900. -/
def IsDiscovery (f : Flow) : Prop :=
  f.direction = .outbound ∧ ((f.remote = .v4 0xE00000FB ∧ f.port = 5353) ∨ (f.remote = .v4 0xEFFFFFFA ∧ f.port = 1900))

theorem maskEqual_iff {net mask a : UInt32} {len : Nat} (hlen : len ≤ 32) (hmask : mask.toBitVec = Cidr.mask 32 len) :
    a &&& mask = net &&& mask ↔ Cidr.Mem net.toBitVec len a.toBitVec := by
  rw [Cidr.mem_iff_mask hlen, ← hmask, ← UInt32.toBitVec_and, ← UInt32.toBitVec_and, UInt32.toBitVec_inj]

/-- The permits of a layer. -/
def permitsAt (layer : Layer) : List LgAddFilterCall :=
  wfpFilters.filter fun c => c.layer == layer && c.action == fwpActionPermit

theorem permit_hits_iff (layer : Layer) (f : Flow) :
    (∃ c ∈ wfpFilters, c.hits layer f = true ∧ c.action = fwpActionPermit) ↔
      ∃ c ∈ permitsAt layer, c.conditions.all (Condition.holds f) = true := by
  constructor
  · rintro ⟨c, hc, hhit, ha⟩
    simp only [LgAddFilterCall.hits, Bool.and_eq_true, beq_iff_eq] at hhit
    exact ⟨c, List.mem_filter.2 ⟨hc, by simp [hhit.1, ha]⟩, hhit.2⟩
  · rintro ⟨c, hc, hall⟩
    obtain ⟨hmem, hboth⟩ := List.mem_filter.1 hc
    simp only [Bool.and_eq_true, beq_iff_eq] at hboth
    exact ⟨c, hmem, by simp [LgAddFilterCall.hits, hboth.1, hall], hboth.2⟩

section
variable (layer : Layer) (weight : UInt64) (direction : Direction) (port : UInt16)

theorem v4LanPermits_iff (a : UInt32) :
    (∃ c ∈ v4LanPermits layer weight, c.conditions.all (Condition.holds ⟨direction, .v4 a, port⟩) = true) ↔
      InLan (.v4 a) := by
  have h8 : (0xFF000000 : UInt32).toBitVec = Cidr.mask 32 8 := by decide
  have h12 : (0xFFF00000 : UInt32).toBitVec = Cidr.mask 32 12 := by decide
  have h16 : (0xFFFF0000 : UInt32).toBitVec = Cidr.mask 32 16 := by decide
  simp only [v4LanPermits, v4Ranges, List.map_cons, List.map_nil, List.exists_mem_cons_iff, List.not_mem_nil,
    List.all_cons, List.all_nil, Bool.and_true, Condition.holds, beq_iff_eq, InLan, false_and, exists_false,
    or_false, maskEqual_iff (by decide) h8, maskEqual_iff (by decide) h12, maskEqual_iff (by decide) h16]
  rfl

theorem v6LanPermits_iff (a : V6Address) :
    (∃ c ∈ v6LanPermits layer weight, c.conditions.all (Condition.holds ⟨direction, .v6 a, port⟩) = true) ↔
      InLan (.v6 a) := by
  have hranges : v6Ranges.map (fun r => (r.1.bits, (prefixOfMask r.2.toList 0).toNat)) =
      [(0xFE800000000000000000000000000000#128, 10), (0xFC000000000000000000000000000000#128, 7)] := by decide
  have hhits : (∃ c ∈ v6LanPermits layer weight, c.conditions.all (Condition.holds ⟨direction, .v6 a, port⟩) = true) ↔
      ∃ r ∈ v6Ranges.map (fun r => (r.1.bits, (prefixOfMask r.2.toList 0).toNat)), Cidr.Mem r.1 r.2 a.bits := by
    simp [v6LanPermits, Condition.holds]
  rw [hhits, hranges]
  simp [InLan]

theorem multicastPermits_iff (a : UInt32) :
    (∃ c ∈ multicastPermits layer weight, c.conditions.all (Condition.holds ⟨direction, .v4 a, port⟩) = true) ↔
      (a = 0xE00000FB ∧ port = 5353) ∨ (a = 0xEFFFFFFA ∧ port = 1900) := by
  have hones : ∀ x : UInt32, x &&& 0xFFFFFFFF = x := fun x => UInt32.and_neg_one
  simp [multicastPermits, discoveryTargets, Condition.holds, hones]

end

/-! ## The verdicts -/

theorem permitsAt_eq (layer : Layer) : permitsAt layer = match layer with
    | .aleAuthConnectV4 => v4LanPermits .aleAuthConnectV4 permitW ++ multicastPermits .aleAuthConnectV4 permitW
    | .aleAuthRecvAcceptV4 => v4LanPermits .aleAuthRecvAcceptV4 permitW
    | .aleAuthConnectV6 => v6LanPermits .aleAuthConnectV6 permitW
    | .aleAuthRecvAcceptV6 => v6LanPermits .aleAuthRecvAcceptV6 permitW
    | _ => [] := by
  cases layer <;> decide +kernel

theorem auth_permit_iff (f : Flow) :
    (∃ c ∈ permitsAt f.authLayer, c.conditions.all (Condition.holds f) = true) ↔ InLan f.remote ∨ IsDiscovery f := by
  rw [permitsAt_eq]
  obtain ⟨direction, remote, port⟩ := f
  cases direction <;> cases remote
  · simp only [Flow.authLayer, List.mem_append, or_and_right, exists_or, v4LanPermits_iff, multicastPermits_iff,
      IsDiscovery, true_and, RemoteAddress.v4.injEq]
  · simp [Flow.authLayer, v6LanPermits_iff, IsDiscovery, -List.all_eq_true]
  · simp [Flow.authLayer, v4LanPermits_iff, IsDiscovery, -List.all_eq_true]
  · simp [Flow.authLayer, v6LanPermits_iff, IsDiscovery, -List.all_eq_true]

theorem auth_permitted {k : WfpCalls} (h : ntSuccess (lgWfpInitialize k).1 = true) {f : Flow}
    (hin : InLan f.remote ∨ IsDiscovery f) :
    verdict (lgWfpInitialize k).2 f.authLayer f = some fwpActionPermit := by
  have hex := (permit_hits_iff f.authLayer f).2 ((auth_permit_iff f).2 hin)
  rw [verdict, lgWfpInitialize_filters h, arbitrate_wfpFilters, if_pos hex]

/-- **The filter is LAN-only.** Once `LgWfpInitialize` has succeeded, a flow is permitted by its auth
layer when its remote address is in the LAN ranges or it is printer discovery, and blocked when not. -/
theorem lan_only {k : WfpCalls} (h : ntSuccess (lgWfpInitialize k).1 = true) (f : Flow) :
    (InLan f.remote ∨ IsDiscovery f → verdict (lgWfpInitialize k).2 f.authLayer f = some fwpActionPermit) ∧
    (¬ (InLan f.remote ∨ IsDiscovery f) → verdict (lgWfpInitialize k).2 f.authLayer f = some fwpActionBlock) := by
  refine ⟨auth_permitted h, ?_⟩
  intro hout
  have hno : ¬ ∃ c ∈ wfpFilters, c.hits f.authLayer f = true ∧ c.action = fwpActionPermit := by
    intro hex
    exact hout ((auth_permit_iff f).1 ((permit_hits_iff f.authLayer f).1 hex))
  rw [verdict, lgWfpInitialize_filters h, arbitrate_wfpFilters, if_neg hno]

namespace Worked

/-- Every call to the engine succeeds. -/
def wfpCalls : WfpCalls := ⟨statusSuccess, statusSuccess, statusSuccess, fun _ => statusSuccess, statusSuccess⟩

/-- To port 9100 of 192.168.1.50. -/
def printing : Flow := ⟨.outbound, .v4 0xC0A80132, 9100⟩

theorem printing_inLan : InLan printing.remote := by
  unfold InLan printing
  decide

theorem wfpCalls_ok : ntSuccess (lgWfpInitialize wfpCalls).1 = true := by decide +kernel

end Worked

/-- A print job is permitted where it is authorized, one to 8.8.8.8 is not. -/
theorem lan_only_printing :
    verdict (lgWfpInitialize Worked.wfpCalls).2 Worked.printing.authLayer Worked.printing = some fwpActionPermit ∧
    verdict (lgWfpInitialize Worked.wfpCalls).2 .aleAuthConnectV4 ⟨.outbound, .v4 0x08080808, 9100⟩ =
      some fwpActionBlock :=
  ⟨(lan_only Worked.wfpCalls_ok Worked.printing).1 (Or.inl Worked.printing_inLan),
    (lan_only Worked.wfpCalls_ok ⟨.outbound, .v4 0x08080808, 9100⟩).2 (by unfold IsDiscovery InLan; decide)⟩

/-! ## Outbound connections -/

/-- No layer an outbound connection passes blocks it: the assignment of its local port, then
auth-connect. -/
def LetOut (fs : List FwpmFilter) (f : Flow) : Prop :=
  verdict fs f.bindLayer f ≠ some fwpActionBlock ∧ verdict fs f.authLayer f ≠ some fwpActionBlock

theorem permitsAt_bindLayer (f : Flow) : permitsAt f.bindLayer = [] := by
  rw [permitsAt_eq]
  obtain ⟨direction, remote, port⟩ := f
  cases remote <;> rfl

/-- The default deny of the resource-assignment layers meets no permit. -/
theorem bind_blocked {k : WfpCalls} (h : ntSuccess (lgWfpInitialize k).1 = true) (f : Flow) :
    verdict (lgWfpInitialize k).2 f.bindLayer f = some fwpActionBlock := by
  have hno : ¬ ∃ c ∈ wfpFilters, c.hits f.bindLayer f = true ∧ c.action = fwpActionPermit := by
    rw [permit_hits_iff, permitsAt_bindLayer]
    simp
  rw [verdict, lgWfpInitialize_filters h, arbitrate_wfpFilters, if_neg hno]

/-- **No connection to the LAN goes out**: auth-connect permits each of them, and none gets its local
port. -/
theorem lan_not_let_out {k : WfpCalls} (h : ntSuccess (lgWfpInitialize k).1 = true) {remote : RemoteAddress}
    (hlan : InLan remote) (port : UInt16) :
    let f : Flow := ⟨.outbound, remote, port⟩
    verdict (lgWfpInitialize k).2 f.authLayer f = some fwpActionPermit ∧ ¬ LetOut (lgWfpInitialize k).2 f := by
  intro f
  refine ⟨auth_permitted h (Or.inl hlan), ?_⟩
  intro hlet
  exact hlet.1 (bind_blocked h f)

theorem lan_not_let_out_printing : ¬ LetOut (lgWfpInitialize Worked.wfpCalls).2 Worked.printing :=
  (lan_not_let_out Worked.wfpCalls_ok Worked.printing_inLan 9100).2

/-- The print job to 192.168.1.50 does not leave. -/
theorem printing_blocked : Worked.printing.direction = .outbound ∧ InLan Worked.printing.remote ∧
    ¬ LetOut (lgWfpInitialize Worked.wfpCalls).2 Worked.printing := by
  have hbind : verdict (lgWfpInitialize Worked.wfpCalls).2 Worked.printing.bindLayer Worked.printing =
      some fwpActionBlock := by decide +kernel
  refine ⟨rfl, Worked.printing_inLan, ?_⟩
  intro hlet
  exact hlet.1 hbind

end Lockguard
