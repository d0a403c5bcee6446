import Lockguard.Ioctl
/-!
# The reply to `STATUS` (`lockguard.h:70-76`, `lockguard.c:373-387`)

`LG_STATUS_REPLY` as the client decodes it (`status_reply`), and the reply as bytes. The handler
stores the five fields and tells the I/O manager to hand back all 32 bytes; no field covers the
seven bytes of `statusPadding`, which go back as they lay in the system buffer
(`status_discloses_iff`). `LgHandleGetNonce` hands back only what it wrote.
-/
namespace Lockguard

structure StatusReply where
  version : ULONG
  permissive : UInt8
  permissiveExpiresSystemTime : Int
  tamperEventCount : ULONG
  lastHeartbeatSystemTime : Int
deriving DecidableEq

def readULONG (buf : Bytes) (off : Nat) : ULONG := UInt32.ofNat (leNat (bytesAt 4 buf off).toList)

def readLONG64 (buf : Bytes) (off : Nat) : Int := long64 (leNat (bytesAt 8 buf off).toList)

/-- The reply in the system buffer (`statusReply` of `main.go`). -/
def Irp.statusReply (irp : Irp) : StatusReply where
  version := readULONG irp.systemBuffer 0
  permissive := irp.systemBuffer.getD 4 0
  permissiveExpiresSystemTime := readLONG64 irp.systemBuffer 8
  tamperEventCount := readULONG irp.systemBuffer 16
  lastHeartbeatSystemTime := readLONG64 irp.systemBuffer 24

/-- What the I/O manager copies to the caller. -/
def Irp.returned (irp : Irp) : Bytes := irp.systemBuffer.take irp.information

/-- A `LONG64` survives its eight bytes. -/
theorem long64_leBytes (x : Int) : long64 (leNat (leBytes 8 x)) = long64 x := by
  rw [leNat_leBytes_emod]
  unfold long64
  omega

/-! ## Stores into a buffer -/

/-- Fields stored one after the other, each at its offset. -/
def stored (stores : List (Nat × Bytes)) (buf : Bytes) : Bytes :=
  stores.foldl (fun b s => overlay b s.1 s.2) buf

def Covered (stores : List (Nat × Bytes)) (i : Nat) : Prop := ∃ s ∈ stores, s.1 ≤ i ∧ i < s.1 + s.2.length

@[simp] theorem stored_cons (s : Nat × Bytes) (stores : List (Nat × Bytes)) (buf : Bytes) :
    stored (s :: stores) buf = stored stores (overlay buf s.1 s.2) := rfl

@[simp] theorem length_stored (stores : List (Nat × Bytes)) (buf : Bytes) :
    (stored stores buf).length = buf.length := by
  induction stores generalizing buf with
  | nil => rfl
  | cons s stores ih => rw [stored_cons, ih, length_overlay]

theorem getD_overlay {buf : Bytes} {i : Nat} (hi : i < buf.length) (off : Nat) (bs : Bytes) :
    (overlay buf off bs).getD i 0 = if off ≤ i then bs.getD (i - off) (buf.getD i 0) else buf.getD i 0 := by
  simp [overlay, List.getD_eq_getElem?_getD, hi]

theorem getD_overlay_inside {buf : Bytes} {i : Nat} (hi : i < buf.length) {off : Nat} {bs : Bytes}
    (h : off ≤ i) (h' : i < off + bs.length) : (overlay buf off bs).getD i 0 = bs.getD (i - off) 0 := by
  have hin : i - off < bs.length := by omega
  rw [getD_overlay hi, if_pos h]
  simp [List.getD_eq_getElem?_getD, hin]

theorem getD_overlay_outside {buf : Bytes} {i : Nat} (hi : i < buf.length) {off : Nat} {bs : Bytes}
    (h : ¬ (off ≤ i ∧ i < off + bs.length)) : (overlay buf off bs).getD i 0 = buf.getD i 0 := by
  rw [getD_overlay hi]
  split
  · rename_i hoff
    have hout : bs.length ≤ i - off := by omega
    simp [List.getD_eq_getElem?_getD, hout]
  · rfl

/-- A byte that no field covers stays. -/
theorem stored_uncovered {stores : List (Nat × Bytes)} {buf : Bytes} {i : Nat} (hi : i < buf.length)
    (h : ¬ Covered stores i) : (stored stores buf).getD i 0 = buf.getD i 0 := by
  induction stores generalizing buf with
  | nil => rfl
  | cons s stores ih =>
    have hs : ¬ (s.1 ≤ i ∧ i < s.1 + s.2.length) := fun hin => h ⟨s, by simp, hin⟩
    have htail : ¬ Covered stores i := fun ⟨s', hmem, hin⟩ => h ⟨s', by simp [hmem], hin⟩
    rw [stored_cons, ih (by simpa using hi) htail, getD_overlay_outside hi hs]

/-- A byte that some field covers does not depend on what lay there before. -/
theorem stored_covered {stores : List (Nat × Bytes)} {b₁ b₂ : Bytes} {i : Nat} (h₁ : i < b₁.length)
    (h₂ : i < b₂.length) (h : Covered stores i) :
    (stored stores b₁).getD i 0 = (stored stores b₂).getD i 0 := by
  induction stores generalizing b₁ b₂ with
  | nil => obtain ⟨s, hs, -⟩ := h; cases hs
  | cons s stores ih =>
    rw [stored_cons, stored_cons]
    by_cases htail : Covered stores i
    · exact ih (by simpa using h₁) (by simpa using h₂) htail
    · -- then it is the first field, and no later one touches it
      obtain ⟨s', hs', hle, hlt⟩ := h
      rcases List.mem_cons.1 hs' with rfl | hs'
      · rw [stored_uncovered (by simpa using h₁) htail, stored_uncovered (by simpa using h₂) htail,
          getD_overlay_inside h₁ hle hlt, getD_overlay_inside h₂ hle hlt]
      · exact absurd ⟨s', hs', hle, hlt⟩ htail

/-! ## The fields of the reply -/

/-- What `LgHandleStatus` stores, and where. -/
def statusStores (permissive : Bool) (d : Driver) : List (Nat × Bytes) :=
  [(0, leBytes 4 1), (4, [if permissive then 1 else 0]), (8, leBytes 8 d.window.gPermissiveExpires),
    (16, leBytes 4 d.gTamperCount.toNat), (24, leBytes 8 d.gLastHeartbeat)]

/-- The bytes of `LG_STATUS_REPLY` that belong to no field. -/
def statusPadding : List Nat := [5, 6, 7, 20, 21, 22, 23]

theorem covered_statusStores {permissive : Bool} {d : Driver} {i : Nat} (hi : i < sizeofStatusReply) :
    Covered (statusStores permissive d) i ↔ i ∉ statusPadding := by
  simp only [sizeofStatusReply] at hi
  simp only [Covered, statusStores, statusPadding, List.mem_cons, List.not_mem_nil, or_false, exists_eq_or_imp,
    exists_eq_left, length_leBytes, List.length_cons, List.length_nil]
  omega

/-- The handler past its length check. -/
theorem lgHandleStatus_long {irp : Irp} (h : sizeofStatusReply ≤ irp.outputBufferLength) (k : Kernel) (d : Driver) :
    (lgHandleStatus irp k d).value.1 = statusSuccess ∧
    (lgHandleStatus irp k d).driver = { d with window := (lgIsPermissive k.now d.window).2 } ∧
    (lgHandleStatus irp k d).value.2.information = sizeofStatusReply ∧
    (lgHandleStatus irp k d).value.2.systemBuffer =
      stored (statusStores (lgIsPermissive k.now d.window).1
        { d with window := (lgIsPermissive k.now d.window).2 }) irp.systemBuffer := by
  rw [lgHandleStatus, if_neg (by omega)]
  exact ⟨rfl, rfl, rfl, rfl⟩

/-- Only its length check refuses a `STATUS`. -/
theorem status_success {irp : Irp} {k : Kernel} {d : Driver} :
    (lgHandleStatus irp k d).value.1 = statusSuccess ↔ sizeofStatusReply ≤ irp.outputBufferLength := by
  refine ⟨fun h => ?_, fun h => (lgHandleStatus_long h k d).1⟩
  by_contra hlen
  rw [lgHandleStatus, if_pos (by omega)] at h
  exact absurd h (by decide : statusBufferTooSmall ≠ statusSuccess)

/-- A field is read back as it was stored, if no later one reaches into it. -/
theorem stored_field {stores : List (Nat × Bytes)} {off : Nat} {bs : Bytes} (hmem : (off, bs) ∈ stores)
    (hapart : stores.Pairwise fun s s' => s.1 + s.2.length ≤ s'.1) {buf : Bytes}
    (hfit : off + bs.length ≤ buf.length) {i : Nat} (hi : i < bs.length) :
    (stored stores buf).getD (off + i) 0 = bs.getD i 0 := by
  induction stores generalizing buf with
  | nil => cases hmem
  | cons s stores ih =>
    obtain ⟨hlater, htail⟩ := List.pairwise_cons.1 hapart
    rw [stored_cons]
    rcases List.mem_cons.1 hmem with rfl | hmem
    · have hfree : ¬ Covered stores (off + i) := by
        rintro ⟨s', hs', hle, -⟩
        have hafter : off + bs.length ≤ s'.1 := hlater s' hs'
        omega
      rw [stored_uncovered (by simp; omega) hfree, getD_overlay_inside (by omega) (by simp) (by simpa using hi)]
      simp
    · exact ih hmem htail (by simpa using hfit)

theorem bytesAt_stored {stores : List (Nat × Bytes)} {n off : Nat} {bs : Bytes} (hmem : (off, bs) ∈ stores)
    (hapart : stores.Pairwise fun s s' => s.1 + s.2.length ≤ s'.1) {buf : Bytes}
    (hfit : off + n ≤ buf.length) (hn : bs.length = n) :
    (bytesAt n (stored stores buf) off).toList = bs := by
  subst hn
  apply List.ext_getElem
  · simp
  · intro i h₁ h₂
    have hfield := stored_field hmem hapart hfit h₂
    simp only [bytesAt, Vector.getElem_toList, Vector.getElem_ofFn, hfield]
    simp [List.getD_eq_getElem?_getD, h₂]

theorem statusStores_apart (permissive : Bool) (d : Driver) :
    (statusStores permissive d).Pairwise fun s s' => s.1 + s.2.length ≤ s'.1 := by
  simp [statusStores]

/-- **The reply as the client decodes it.** -/
theorem status_reply {irp : Irp} (h : sizeofStatusReply ≤ irp.outputBufferLength) (k : Kernel) (d : Driver) :
    (lgHandleStatus irp k d).value.2.statusReply =
      ⟨1, if (lgIsPermissive k.now d.window).1 then 1 else 0,
        long64 (lgIsPermissive k.now d.window).2.gPermissiveExpires, d.gTamperCount, long64 d.gLastHeartbeat⟩ := by
  obtain ⟨-, -, -, hbuf⟩ := lgHandleStatus_long h k d
  have hsize : sizeofStatusReply ≤ irp.systemBuffer.length :=
    Nat.le_trans h (Nat.le_trans (Nat.le_max_right _ _) irp.buffered)
  simp only [sizeofStatusReply] at hsize
  have hfield : ∀ (n off : Nat) (bs : Bytes),
      (off, bs) ∈ statusStores (lgIsPermissive k.now d.window).1
        { d with window := (lgIsPermissive k.now d.window).2 } → bs.length = n → off + n ≤ 32 →
      (bytesAt n (lgHandleStatus irp k d).value.2.systemBuffer off).toList = bs := by
    intro n off bs hmem hn hle
    rw [hbuf]
    exact bytesAt_stored hmem (statusStores_apart _ _) (by omega) hn
  have hversion : readULONG (lgHandleStatus irp k d).value.2.systemBuffer 0 = 1 := by
    rw [readULONG, hfield 4 0 (leBytes 4 1) (by simp [statusStores]) (by simp) (by omega)]
    decide
  have hflag : (lgHandleStatus irp k d).value.2.systemBuffer.getD 4 0 =
      if (lgIsPermissive k.now d.window).1 then 1 else 0 := by
    have hmem : (4, [if (lgIsPermissive k.now d.window).1 then (1 : UInt8) else 0]) ∈
        statusStores (lgIsPermissive k.now d.window).1
          { d with window := (lgIsPermissive k.now d.window).2 } := by simp [statusStores]
    have hfit : 4 + 1 ≤ irp.systemBuffer.length := by omega
    have hbyte := stored_field hmem (statusStores_apart _ _) hfit (i := 0) Nat.one_pos
    rw [hbuf]
    exact hbyte
  have hexpires : readLONG64 (lgHandleStatus irp k d).value.2.systemBuffer 8 =
      long64 (lgIsPermissive k.now d.window).2.gPermissiveExpires := by
    rw [readLONG64, hfield 8 8 (leBytes 8 _) (by simp [statusStores]; rfl) (by simp) (by omega), long64_leBytes]
  have hcount : readULONG (lgHandleStatus irp k d).value.2.systemBuffer 16 = d.gTamperCount := by
    rw [readULONG, hfield 4 16 (leBytes 4 d.gTamperCount.toNat) (by simp [statusStores]) (by simp) (by omega),
      leNat_leBytes d.gTamperCount.toNat_lt, UInt32.ofNat_toNat]
  have hheartbeat : readLONG64 (lgHandleStatus irp k d).value.2.systemBuffer 24 = long64 d.gLastHeartbeat := by
    rw [readLONG64, hfield 8 24 (leBytes 8 d.gLastHeartbeat) (by simp [statusStores]) (by simp) (by omega),
      long64_leBytes]
  rw [Irp.statusReply, hversion, hflag, hexpires, hcount, hheartbeat]

/-! ## The bytes no field covers -/

theorem mem_padding_lt {i : Nat} (h : i ∈ statusPadding) : i < sizeofStatusReply := by
  simp only [statusPadding, List.mem_cons, List.not_mem_nil, or_false] at h
  simp only [sizeofStatusReply]
  omega

theorem take_eq_iff {l₁ l₂ : Bytes} {n : Nat} (h₁ : n ≤ l₁.length) (h₂ : n ≤ l₂.length) :
    l₁.take n = l₂.take n ↔ ∀ i < n, l₁.getD i 0 = l₂.getD i 0 := by
  constructor
  · intro heq i hi
    have hget := congrArg (fun l => l[i]?) heq
    simp only [List.getElem?_take, if_pos hi] at hget
    rw [List.getD_eq_getElem?_getD, List.getD_eq_getElem?_getD, hget]
  · intro hget
    apply List.ext_getElem
    · simp only [List.length_take]
      omega
    · intro i hi₁ hi₂
      simp only [List.length_take] at hi₁ hi₂
      have hbyte := hget i (by omega)
      simpa [List.getD_eq_getElem?_getD, List.getElem?_eq_getElem (by omega : i < l₁.length),
        List.getElem?_eq_getElem (by omega : i < l₂.length)] using hbyte

/-- **What a reply discloses besides the driver's state**: two requests to one driver state are
answered with the same bytes iff their buffers agreed on the padding. -/
theorem status_discloses_iff (k : Kernel) (d : Driver) (irp₁ irp₂ : Irp)
    (h₁ : (lgHandleStatus irp₁ k d).value.1 = statusSuccess)
    (h₂ : (lgHandleStatus irp₂ k d).value.1 = statusSuccess) :
    (lgHandleStatus irp₁ k d).value.2.returned = (lgHandleStatus irp₂ k d).value.2.returned ↔
      ∀ i ∈ statusPadding, irp₁.systemBuffer.getD i 0 = irp₂.systemBuffer.getD i 0 := by
  obtain ⟨-, -, hinf₁, hbuf₁⟩ := lgHandleStatus_long (status_success.1 h₁) k d
  obtain ⟨-, -, hinf₂, hbuf₂⟩ := lgHandleStatus_long (status_success.1 h₂) k d
  have hsize : ∀ {irp : Irp}, (lgHandleStatus irp k d).value.1 = statusSuccess →
      sizeofStatusReply ≤ irp.systemBuffer.length := fun h =>
    Nat.le_trans (status_success.1 h) (Nat.le_trans (Nat.le_max_right _ _) (Irp.buffered _))
  have hsize₁ := hsize h₁
  have hsize₂ := hsize h₂
  rw [Irp.returned, Irp.returned, hinf₁, hinf₂, hbuf₁, hbuf₂,
    take_eq_iff (by rwa [length_stored]) (by rwa [length_stored])]
  constructor
  · intro heq i hi
    have hlt := mem_padding_lt hi
    have hbyte := heq i hlt
    rwa [stored_uncovered (by omega) (mt (covered_statusStores hlt).1 (not_not_intro hi)),
      stored_uncovered (by omega) (mt (covered_statusStores hlt).1 (not_not_intro hi))] at hbyte
  · intro hpad i hlt
    by_cases hi : i ∈ statusPadding
    · rw [stored_uncovered (by omega) (mt (covered_statusStores hlt).1 (not_not_intro hi)),
        stored_uncovered (by omega) (mt (covered_statusStores hlt).1 (not_not_intro hi))]
      exact hpad i hi
    · exact stored_covered (by omega) (by omega) ((covered_statusStores hlt).2 hi)

namespace Worked

/-- A request whose system buffer holds 32 bytes `b`. -/
def statusIrp (b : UInt8) : Irp := ⟨0, 32, List.replicate 32 b, 0, by simp⟩

end Worked

/-- Two requests whose buffers differ in the first byte only, which the version covers. -/
theorem status_discloses_covered :
    (lgHandleStatus (Worked.statusIrp 0) (Worked.kernel (Worked.time 0)) (driverEntry Worked.reads)).value.2.returned =
      (lgHandleStatus ⟨0, 32, 1 :: List.replicate 31 0, 0, by decide⟩ (Worked.kernel (Worked.time 0))
        (driverEntry Worked.reads)).value.2.returned :=
  (status_discloses_iff _ _ _ _ (by decide +kernel) (by decide +kernel)).2 (by decide)

/-- Two requests to one driver state that are answered differently. -/
theorem status_discloses_buffer :
    let reply := fun b => (lgHandleStatus (Worked.statusIrp b) (Worked.kernel (Worked.time 0))
      (driverEntry Worked.reads)).value
    (reply 0).1 = statusSuccess ∧ (reply 1).1 = statusSuccess ∧ (reply 0).2.returned ≠ (reply 1).2.returned := by
  decide +kernel

end Lockguard
