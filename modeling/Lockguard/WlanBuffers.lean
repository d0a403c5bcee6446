import Lockguard.StatusLayout
import Lockguard.WlanLists
/-!
# The filter lists as buffers

| here | there |
| --- | --- |
| `dot11NetworkFields`, `dot11NetworkListFields` | `dot11Network` with its `dot11SSID`, `dot11NetworkList` (`wlan_windows.go:43-75`) |
| `filterBuffer` | the buffer `wlanSetFilter` hands over (`:182-197`) |
| `networksIn`, `listOf` | what `wlanGetFilter` makes of the pointer it gets back (`:163-179`) |
| `onBuffers` | a WLAN API that keeps the bytes it is given, and returns them |

`applied_decoded`: over any bytes an interface held before, the lists `applyWLANFilters` leaves are read
back as the lists of that SSID, and of no other.
-/
namespace Lockguard

open Calls

/-! ## The structs -/

def dot11SSIDFields : List Layout.Field := [.scalar 4, .bytes 32]

/-- The SSID lies in the network as a struct of its own, aligned to its length. -/
def dot11NetworkFields : List Layout.Field := [⟨Layout.structSize dot11SSIDFields, 4⟩, .scalar 4]

def dot11NetworkListFields : List Layout.Field := [.scalar 4, .scalar 4]

def hdrSize : Nat := Layout.structSize dot11NetworkListFields
def entrySize : Nat := Layout.structSize dot11NetworkFields

@[simp] theorem hdrSize_eq : hdrSize = 8 := by decide
@[simp] theorem entrySize_eq : entrySize = 40 := by decide

def Dot11SSID.bytes (d : Dot11SSID) : Bytes := leBytes 4 d.ssidLength.toNat ++ d.ssid.toList

def Dot11Network.bytes (n : Dot11Network) : Bytes := n.ssid.bytes ++ leBytes 4 n.bssType.toNat

@[simp] theorem Dot11SSID.length_bytes (d : Dot11SSID) : d.bytes.length = 36 := by simp [Dot11SSID.bytes]

@[simp] theorem Dot11Network.length_bytes (n : Dot11Network) : n.bytes.length = 40 := by simp [Dot11Network.bytes]

/-- `*(*dot11Network)(unsafe.Pointer(base + off))`. -/
def networkAt (buf : Bytes) (off : Nat) : Dot11Network where
  ssid := ⟨readULONG buf off, bytesAt 32 buf (off + 4)⟩
  bssType := readULONG buf (off + 36)

/-- Bytes in the middle of a buffer. -/
theorem toList_bytesAt_append {n off : Nat} {pre bs : Bytes} (post : Bytes) (hoff : pre.length = off)
    (hn : bs.length = n) : (bytesAt n (pre ++ bs ++ post) off).toList = bs := by
  subst hoff hn
  refine List.ext_getElem (by simp) fun i hi hi' => ?_
  simp only [bytesAt, Vector.getElem_toList, Vector.getElem_ofFn, List.append_assoc, List.getD_eq_getElem?_getD]
  rw [List.getElem?_append_right (Nat.le_add_right _ i), Nat.add_sub_cancel_left, List.getElem?_append_left hi',
    List.getElem?_eq_getElem hi', Option.getD_some]

theorem bytesAt_congr {buf buf' : Bytes} {n off off' : Nat}
    (h : ∀ i < n, buf.getD (off + i) 0 = buf'.getD (off' + i) 0) : bytesAt n buf off = bytesAt n buf' off' := by
  apply Vector.ext
  intro i hi
  simp only [bytesAt, Vector.getElem_ofFn]
  exact h i hi

/-- A network is in its forty bytes. -/
theorem networkAt_congr {buf bs : Bytes} {off : Nat} (h : ∀ i < 40, buf.getD (off + i) 0 = bs.getD i 0) :
    networkAt buf off = networkAt bs 0 := by
  have hpart : ∀ n j, j + n ≤ 40 → bytesAt n buf (off + j) = bytesAt n bs (0 + j) := by
    intro n j hj
    apply bytesAt_congr
    intro i hi
    rw [Nat.add_assoc, h (j + i) (by omega), Nat.zero_add]
  have hlength := hpart 4 0 (by decide)
  have hssid := hpart 32 4 (by decide)
  have hbss := hpart 4 36 (by decide)
  simp only [Nat.add_zero] at hlength
  simp only [networkAt, readULONG, hlength, hssid, hbss]

theorem networkAt_bytes (n : Dot11Network) : networkAt n.bytes 0 = n := by
  have hlength : (bytesAt 4 n.bytes 0).toList = leBytes 4 n.ssid.ssidLength.toNat := by
    have hfront : (bytesAt 4 ([] ++ leBytes 4 n.ssid.ssidLength.toNat ++ (n.ssid.ssid.toList ++ leBytes 4 n.bssType.toNat))
        0).toList = leBytes 4 n.ssid.ssidLength.toNat := toList_bytesAt_append _ rfl (length_leBytes 4 _)
    simpa [Dot11Network.bytes, Dot11SSID.bytes] using hfront
  have hssid : (bytesAt 32 n.bytes 4).toList = n.ssid.ssid.toList :=
    toList_bytesAt_append _ (length_leBytes 4 _) (by simp)
  have hbss : (bytesAt 4 n.bytes 36).toList = leBytes 4 n.bssType.toNat := by
    simpa [Dot11Network.bytes] using toList_bytesAt_append [] n.ssid.length_bytes (length_leBytes 4 n.bssType.toNat)
  have hssid' : bytesAt 32 n.bytes 4 = n.ssid.ssid := Vector.toList_inj.1 hssid
  simp only [networkAt, Nat.zero_add, readULONG_leBytes hlength, readULONG_leBytes hbss, hssid']

/-! ## The buffer of a list -/

/-- `*e = nets[i]`, each at its place. -/
def entryStores (nets : List Dot11Network) : List (Nat × Bytes) :=
  nets.mapIdx fun i n => (hdrSize + i * entrySize, n.bytes)

def filterStores (nets : List Dot11Network) : List (Nat × Bytes) :=
  (0, leBytes 4 nets.length) :: (4, leBytes 4 0) :: entryStores nets

def filterBuffer (nets : List Dot11Network) : Bytes :=
  stored (filterStores nets) (List.replicate (hdrSize + entrySize * nets.length) 0)

def networksIn (buf : Bytes) : List Dot11Network :=
  (List.range (readULONG buf 0).toNat).map fun i => networkAt buf (hdrSize + i * entrySize)

/-- No list is returned for a null pointer. -/
def listOf (buf : Option Bytes) : List Dot11Network := (buf.map networksIn).getD []

@[simp] theorem length_filterBuffer (nets : List Dot11Network) :
    (filterBuffer nets).length = 8 + 40 * nets.length := by
  simp [filterBuffer]

theorem mem_entryStores {nets : List Dot11Network} {s : Nat × Bytes} :
    s ∈ entryStores nets ↔ ∃ i, ∃ h : i < nets.length, (8 + i * 40, nets[i].bytes) = s := by
  simp [entryStores, List.mem_mapIdx]

theorem filterStores_apart (nets : List Dot11Network) :
    (filterStores nets).Pairwise fun s s' => s.1 + s.2.length ≤ s'.1 := by
  have hafter : ∀ s ∈ entryStores nets, 8 ≤ s.1 := by
    intro s hs
    obtain ⟨i, -, rfl⟩ := mem_entryStores.1 hs
    exact Nat.le_add_right 8 _
  refine .cons ?_ (.cons ?_ ?_)
  · intro s hs
    rcases List.mem_cons.1 hs with rfl | hs
    · simp
    · have h8 := hafter s hs
      simp only [length_leBytes]
      omega
  · intro s hs
    have h8 := hafter s hs
    simpa using h8
  · rw [List.pairwise_iff_getElem]
    intro i j hi hj hij
    simp only [entryStores, List.getElem_mapIdx, hdrSize_eq, entrySize_eq, Dot11Network.length_bytes]
    omega

/-- **A list is read back as it was handed over.** -/
theorem networksIn_filterBuffer {nets : List Dot11Network} (h : nets.length < 2 ^ 32) :
    networksIn (filterBuffer nets) = nets := by
  have hcount : (bytesAt 4 (filterBuffer nets) 0).toList = leBytes 4 nets.length :=
    bytesAt_stored (by simp [filterStores]) (filterStores_apart nets) (by simp; omega) (by simp)
  have hitems : (readULONG (filterBuffer nets) 0).toNat = nets.length := by
    rw [readULONG, hcount, leNat_leBytes h]
    exact UInt32.toNat_ofNat_of_lt' h
  rw [networksIn, hitems]
  refine List.ext_getElem (by simp) fun i hi hi' => ?_
  have hmem : (8 + i * 40, nets[i].bytes) ∈ filterStores nets :=
    List.mem_cons_of_mem _ (List.mem_cons_of_mem _ (mem_entryStores.2 ⟨i, hi', rfl⟩))
  have hentry : networkAt (filterBuffer nets) (8 + i * 40) = networkAt nets[i].bytes 0 := by
    apply networkAt_congr
    intro j hj
    exact stored_field hmem (filterStores_apart nets) (by simp; omega) (by simpa using hj)
  simp only [List.getElem_map, List.getElem_range, hdrSize_eq, entrySize_eq, hentry, networkAt_bytes]

/-! ## An API that keeps buffers -/

/-- The machine, with what the API keeps for each interface and list type in place of the lists. -/
structure BufferHost where
  host : Host
  buffers : Guid → UInt32 → Option Bytes

/-- The lists `wlanGetFilter` finds. -/
def BufferHost.decoded (b : BufferHost) : Host :=
  { b.host with filterList := fun g listType => listOf (b.buffers g listType) }

def onBuffers (t : CaseTables) (env : Call → Outcome) : Handler Call Call.Ret BufferHost
  | .wlanGetFilterList g listType, b =>
    (if (env (.wlanGetFilterList g listType)).fails then none else some (listOf (b.buffers g listType)), b)
  | .wlanSetFilterList g listType nets, b =>
    let o := env (.wlanSetFilterList g listType nets)
    (!o.fails, if o.fails then b else { b with
      buffers := Function.update b.buffers g (Function.update (b.buffers g) listType (some (filterBuffer nets))) })
  | c, b => ((b.host.answer t (env c) c).1, { b with host := (b.host.answer t (env c) c).2 })

/-- The calls of the two functions; a list of theirs is counted in a `uint32`. -/
def Call.IsListCall : Call → Prop
  | .wlanOpenHandle _ | .wlanEnumInterfaces _ | .wlanGetFilterList _ _ => True
  | .wlanSetFilterList _ _ nets => nets.length < 2 ^ 32
  | _ => False

section
variable {t : CaseTables} {env : Call → Outcome} {ssid : Bytes} {m : Host} {g : Guid}

/-- Decoded, a call on the buffers is the call on the lists. -/
theorem onBuffers_decoded {c : Call} (hc : c.IsListCall) (b : BufferHost) :
    (onBuffers t env c b).1 = (onHost t env c b.decoded).1 ∧
      (onBuffers t env c b).2.decoded = (onHost t env c b.decoded).2 := by
  cases c with
  | wlanOpenHandle user => exact ⟨rfl, rfl⟩
  | wlanEnumInterfaces user => exact ⟨rfl, rfl⟩
  | wlanGetFilterList g listType => exact ⟨rfl, rfl⟩
  | wlanSetFilterList g listType nets =>
    refine ⟨rfl, ?_⟩
    have hlists : (fun g' ty => listOf (Function.update b.buffers g
        (Function.update (b.buffers g) listType (some (filterBuffer nets))) g' ty)) =
        Function.update b.decoded.filterList g (Function.update (b.decoded.filterList g) listType nets) := by
      funext g' ty
      by_cases hg : g' = g
      · subst hg
        by_cases hty : ty = listType
        · subst hty
          simp [listOf, networksIn_filterBuffer hc]
        · simp [hty, BufferHost.decoded]
      · simp [hg, BufferHost.decoded]
    simp only [onBuffers, onHost, Host.answer]
    split
    · rfl
    · simp only [BufferHost.decoded]
      simp only [BufferHost.decoded] at hlists
      rw [hlists]
  | _ => exact hc.elim

theorem run_decoded (t : CaseTables) (env : Call → Outcome) {α : Type} {x : Go α} (hx : x.Makes Call.IsListCall) (b : BufferHost) :
    (x.run (onBuffers t env) b).1 = (x.run (onHost t env) b.decoded).1 ∧
      (x.run (onBuffers t env) b).2.decoded = (x.run (onHost t env) b.decoded).2 := by
  refine Prog.run_sim (R := fun (b : BufferHost) m => b.decoded = m) ?_ hx rfl
  rintro c b m hc rfl
  exact onBuffers_decoded hc b

theorem enumerated_makes {α : Type} (user : WlanUser) {f : List Guid → Go (Except GoError α)}
    (hf : ∀ ifaces, (f ifaces).Makes Call.IsListCall) :
    ((wlanOpen user).orReturn fun _ => (wlanEnumInterfaces user).orReturn f).Makes Call.IsListCall :=
  makes_orReturn (Prog.makes_bind (makes_call trivial) fun _ => Prog.makes_pure _) fun _ =>
    makes_orReturn (Prog.makes_bind (makes_call trivial) fun _ => Prog.makes_pure _) hf

theorem wlanFiltersOK_makes (ssid : Bytes) : (wlanFiltersOK ssid).Makes Call.IsListCall := by
  refine enumerated_makes _ fun ifaces => ?_
  induction ifaces with
  | nil => exact Prog.makes_pure _
  | cons g ifaces ih =>
    have hget : ∀ ty, (wlanGetFilter g ty).Makes Call.IsListCall := fun ty =>
      Prog.makes_bind (makes_call trivial) fun _ => Prog.makes_pure _
    exact makes_orReturn (hget _) fun _ => makes_orReturn (hget _) fun _ => makes_ite (Prog.makes_pure _) ih

theorem applyWLANFilters_makes (ssid : Bytes) : (applyWLANFilters ssid).Makes Call.IsListCall := by
  unfold applyWLANFilters
  split
  · exact Prog.makes_pure _
  · refine enumerated_makes _ fun ifaces => (applyLoop_makes _ _ ifaces).mono ?_
    rintro c ⟨g, rfl | rfl⟩
    · simp [Call.IsListCall, permitOnly]
    · simp [Call.IsListCall, denyAll]

/-! ## The two functions -/

/-- The calls of `wlanFiltersOK` succeed. -/
def ReadsSucceed (env : Call → Outcome) : Prop :=
  (env (.wlanOpenHandle .filtersOK)).fails = false ∧ (env (.wlanEnumInterfaces .filtersOK)).fails = false ∧
    ∀ g listType, (env (.wlanGetFilterList g listType)).fails = false

theorem wlanFiltersOK_reads (h : ReadsSucceed env) (ssid : Bytes) (m : Host) :
    (wlanFiltersOK ssid).run (onHost t env) m = (.ok (decide (∀ g ∈ m.interfaces, ListsRight m ssid g)), m) := by
  obtain ⟨hopen, henum, hget⟩ := h
  rw [wlanFiltersOK, run_enumerated, hopen, henum]
  simp only [Bool.false_eq_true, if_false]
  induction m.interfaces with
  | nil => simp [filtersOKLoop]
  | cons g ifaces ih =>
    rw [filtersOKLoop_cons ⟨hget _ _, hget _ _⟩, ih]
    by_cases hg : ListsRight m ssid g
    · simp [hg]
    · simp [hg]

/-- The SSID field, its length beside it, holds one string. -/
theorem ssidEquals_ssidOf_iff (h : ssid.length ≤ 32) {s : Bytes} : ssidEquals (ssidOf ssid) s = true ↔ s = ssid := by
  constructor
  · intro heq
    have hlen : (UInt32.ofNat ssid.length).toNat = ssid.length :=
      UInt32.toNat_ofNat_of_lt' (Nat.lt_of_le_of_lt h (by decide))
    unfold ssidEquals at heq
    split at heq
    · cases heq
    · have htake := eq_of_beq heq
      rw [ssidOf, hlen, toList_bytesAt_take h] at htake
      exact htake.symm
  · rintro rfl
    exact ssidEquals_ssidOf h

/-- The lists written for one SSID are right for it alone. -/
theorem listsRight_iff (h : ssid.length ≤ 32) (hg : HasLists (permitOnly (ssidOf ssid)) denyAll m g) {s : Bytes} :
    ListsRight m s g ↔ s = ssid := by
  rw [← ssidEquals_ssidOf_iff h, ListsRight, hg.1, hg.2]
  simp [permitFound, permitOnly, denyAll]

end

/-- **What the check says of what was applied**, whatever the buffers held. An SSID of more than 32 bytes
is refused and nothing is written. If any other is applied without an error, the check passes for it
and, where there is an interface, fails for every other string. -/
theorem applied_decoded (t : CaseTables) (env : Call → Outcome) (b : BufferHost) (ssid : Bytes) :
    (32 < ssid.length → (applyWLANFilters ssid).run (onBuffers t env) b = (.error (.ssidTooLong ssid), b)) ∧
    (ssid.length ≤ 32 → ((applyWLANFilters ssid).run (onBuffers t env) b).1 = .ok () →
      ∀ env', ReadsSucceed env' →
        let b' := ((applyWLANFilters ssid).run (onBuffers t env) b).2
        ((wlanFiltersOK ssid).run (onBuffers t env') b').1 = .ok true ∧
        (b.host.interfaces ≠ [] → ∀ s, s ≠ ssid → ((wlanFiltersOK s).run (onBuffers t env') b').1 = .ok false)) := by
  constructor
  · intro hlong
    have hfrom : ssidFromString ssid = .error (.ssidTooLong ssid) := if_pos hlong
    rw [applyWLANFilters, hfrom]
    rfl
  · intro hlen hok env' hreads b'
    obtain ⟨happly, hstate⟩ := run_decoded t env (applyWLANFilters_makes ssid) b
    rw [happly] at hok
    obtain ⟨-, hwritten⟩ := applyWLANFilters_ok hok
    have hsame : b'.decoded.interfaces = b.host.interfaces := by
      rw [hstate]
      exact Prog.run_frame (f := Host.interfaces) (fun c m _ => (answer_fixed _ c m).2) (applyWLANFilters_makes ssid) _
    have hright : ∀ g ∈ b.host.interfaces, ∀ s, ListsRight b'.decoded s g ↔ s = ssid := by
      intro g hg s
      rw [hstate]
      exact listsRight_iff hlen (hwritten g hg)
    have hcheck : ∀ s, ((wlanFiltersOK s).run (onBuffers t env') b').1 =
        .ok (decide (∀ g ∈ b.host.interfaces, ListsRight b'.decoded s g)) := by
      intro s
      rw [(run_decoded t env' (wlanFiltersOK_makes s) b').1, wlanFiltersOK_reads hreads, hsame]
    refine ⟨?_, ?_⟩
    · rw [hcheck]
      have hall : ∀ g ∈ b.host.interfaces, ListsRight b'.decoded ssid g := fun g hg => (hright g hg ssid).2 rfl
      rw [decide_eq_true hall]
    · intro hsome s hs
      obtain ⟨g, hg⟩ := List.exists_mem_of_ne_nil _ hsome
      rw [hcheck]
      have hnot : ¬ ∀ g ∈ b.host.interfaces, ListsRight b'.decoded s g := fun hall => hs ((hright g hg s).1 (hall g hg))
      rw [decide_eq_false hnot]

/-! ## One machine -/

/-- Two interfaces, one of them with a permit list of two networks. -/
def twoInterfaces : BufferHost where
  host := { lanHost [] with interfaces := [1, 2] }
  buffers := fun g listType => if g = 1 ∧ listType = wlanFilterListGroupPolicyPermit then
    some (filterBuffer [⟨ssidOf [76, 65, 78], dot11BSSTypeInfrastructure⟩, ⟨ssidOf [76], dot11BSSTypeIndependent⟩])
    else none

/-- `"L\x00"` is applied there, and `"L"`, which has the same bytes in the field, does not pass. -/
theorem applied_zero_byte :
    let b' := ((applyWLANFilters [76, 0]).run (onBuffers .ascii nothingFails) twoInterfaces).2
    ((wlanFiltersOK [76, 0]).run (onBuffers .ascii nothingFails) b').1 = .ok true ∧
      ((wlanFiltersOK [76]).run (onBuffers .ascii nothingFails) b').1 = .ok false := by
  have hreads : ReadsSucceed nothingFails := ⟨rfl, rfl, fun _ _ => rfl⟩
  obtain ⟨hpasses, hothers⟩ :=
    (applied_decoded .ascii nothingFails twoInterfaces [76, 0]).2 (by decide) (by rfl) nothingFails hreads
  exact ⟨hpasses, hothers (by decide) [76] (by decide)⟩

end Lockguard
