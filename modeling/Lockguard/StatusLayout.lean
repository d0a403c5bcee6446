import Lockguard.Lib.Layout
import Lockguard.Status
/-!
# Three descriptions of the status reply

| here | there |
| --- | --- |
| `LgStatusReply`, `statusFields` | `LG_STATUS_REPLY` (`lockguard.h:70-76`) |
| `LgStatusReply.image`           | the reply in the client's 40 bytes, the bytes of no field as they were |
| `getStatus`                     | `getStatus`, `leU32`, `leI64` (`ioctl_windows.go:65-105`) |
| `goStatusFields`, `statusReplyAt` | `statusReply` (`main.go:356-364`) and the cast in `ioctlStatusCall` |
-/
namespace Lockguard

/-! ## The C struct -/

structure LgStatusReply where
  version : UInt32
  permissive : UInt8
  permissiveExpiresSystemTime : Int64
  tamperEventCount : UInt32
  lastHeartbeatSystemTime : Int64
deriving DecidableEq

def statusFields : List Layout.Field := [.scalar 4, .scalar 1, .scalar 8, .scalar 4, .scalar 8]

/-- The compiler pads the struct to the 32 bytes the handler reports. -/
theorem structSize_statusFields : Layout.structSize statusFields = sizeofStatusReply := by decide

def LgStatusReply.fieldBytes (r : LgStatusReply) : List Bytes :=
  [leBytes 4 r.version.toNat, [r.permissive], leBytes 8 r.permissiveExpiresSystemTime.toInt,
    leBytes 4 r.tamperEventCount.toNat, leBytes 8 r.lastHeartbeatSystemTime.toInt]

def LgStatusReply.stores (r : LgStatusReply) : List (Nat × Bytes) :=
  (Layout.offsets statusFields).zip r.fieldBytes

/-- The reply in a buffer: what no field covers keeps its bytes. -/
def LgStatusReply.image (r : LgStatusReply) (buf : Bytes) : Bytes := stored r.stores buf

theorem map_length_fieldBytes (r : LgStatusReply) :
    r.fieldBytes.map List.length = statusFields.map Layout.Field.size := by
  simp [LgStatusReply.fieldBytes, statusFields, Layout.Field.scalar]

theorem statusFields_align : ∀ f ∈ statusFields, 0 < f.align := by decide

theorem zip_map_length {α : Type} (offs : List Nat) (bss : List (List α)) :
    (offs.zip bss).map (fun s => (s.1, s.2.length)) = offs.zip (bss.map List.length) := by
  rw [List.zip_map_right]
  rfl

/-- The fields of the image keep apart. -/
theorem stores_apart (r : LgStatusReply) : r.stores.Pairwise fun s s' => s.1 + s.2.length ≤ s'.1 := by
  have happart := Layout.offsetsFrom_apart statusFields_align 0
  rw [← map_length_fieldBytes r] at happart
  have hzip := zip_map_length (Layout.offsetsFrom 0 statusFields).1 r.fieldBytes
  rw [← hzip, List.pairwise_map] at happart
  exact happart

theorem stores_inside (r : LgStatusReply) {s : Nat × Bytes} (hs : s ∈ r.stores) :
    s.1 + s.2.length ≤ sizeofStatusReply := by
  have hmem : (s.1, s.2.length) ∈ (Layout.offsets statusFields).zip (statusFields.map Layout.Field.size) := by
    rw [← map_length_fieldBytes r, ← zip_map_length]
    exact List.mem_map_of_mem hs
  have hin := Layout.offsets_inside statusFields_align hmem
  rwa [structSize_statusFields] at hin

/-- The offsets of the C struct. -/
theorem stores_eq (r : LgStatusReply) : r.stores = [(0, leBytes 4 r.version.toNat), (4, [r.permissive]),
    (8, leBytes 8 r.permissiveExpiresSystemTime.toInt), (16, leBytes 4 r.tamperEventCount.toNat),
    (24, leBytes 8 r.lastHeartbeatSystemTime.toInt)] := by
  have hoffs : Layout.offsets statusFields = [0, 4, 8, 16, 24] := by decide
  rw [LgStatusReply.stores, hoffs]
  rfl

/-- **Every field of the image is read back as it was stored.** -/
theorem image_fields (r : LgStatusReply) {buf : Bytes} (hbuf : sizeofStatusReply ≤ buf.length) :
    (bytesAt 4 (r.image buf) 0).toList = leBytes 4 r.version.toNat ∧
    (r.image buf).getD 4 0 = r.permissive ∧
    (bytesAt 8 (r.image buf) 8).toList = leBytes 8 r.permissiveExpiresSystemTime.toInt ∧
    (bytesAt 4 (r.image buf) 16).toList = leBytes 4 r.tamperEventCount.toNat ∧
    (bytesAt 8 (r.image buf) 24).toList = leBytes 8 r.lastHeartbeatSystemTime.toInt := by
  have hfit : ∀ s ∈ r.stores, s.1 + s.2.length ≤ buf.length := fun s hs => Nat.le_trans (stores_inside r hs) hbuf
  have hread : ∀ (n off : Nat) (bs : Bytes), (off, bs) ∈ r.stores → bs.length = n →
      (bytesAt n (r.image buf) off).toList = bs := by
    intro n off bs hmem hn
    exact bytesAt_stored hmem (stores_apart r) (hn ▸ hfit _ hmem) hn
  have hpermissive : (4, [r.permissive]) ∈ r.stores := by simp [stores_eq r]
  refine ⟨hread 4 0 _ ?_ ?_, stored_field hpermissive (stores_apart r) (hfit _ hpermissive) (i := 0) Nat.one_pos,
    hread 8 8 _ ?_ ?_, hread 4 16 _ ?_ ?_, hread 8 24 _ ?_ ?_⟩
  all_goals simp [stores_eq r]

/-! ## Shifts and ors -/

/-- A `|` with a byte shifted past the bits of `a` adds it. -/
theorem or_shiftLeft {a k : Nat} (ha : a < 2 ^ k) (b : Nat) : a ||| b <<< k = a + 2 ^ k * b := by
  rw [Nat.or_comm, ← Nat.shiftLeft_add_eq_or_of_lt ha, Nat.shiftLeft_eq, Nat.mul_comm, Nat.add_comm]

/-- Bytes shifted into a word one after another, the first by `k` bits. -/
def orBytes {w : Nat} : Nat → BitVec w → Bytes → BitVec w
  | _, acc, [] => acc
  | k, acc, b :: bs => orBytes (k + 8) (acc ||| b.toBitVec.setWidth w <<< k) bs

theorem toNat_orBytes {w : Nat} (bs : Bytes) {k : Nat} {acc : BitVec w} (hk : k + 8 * bs.length ≤ w)
    (ha : acc.toNat < 2 ^ k) : (orBytes k acc bs).toNat = acc.toNat + 2 ^ k * leNat bs := by
  induction bs generalizing k acc with
  | nil => simp [orBytes, leNat]
  | cons b bs ih =>
    rw [List.length_cons] at hk
    have hb : b.toNat < 2 ^ 8 := b.toNat_lt
    have hpow : 2 ^ (k + 8) = 2 ^ k * 256 := Nat.pow_add 2 k 8
    have hle : 2 ^ (k + 8) ≤ 2 ^ w := Nat.pow_le_pow_right (by decide) (by omega)
    have hwide : (b.toBitVec.setWidth w).toNat = b.toNat := by
      rw [BitVec.toNat_setWidth]
      exact Nat.mod_eq_of_lt (Nat.lt_of_lt_of_le hb (Nat.pow_le_pow_right (by decide) (by omega)))
    have hbound : 2 ^ k * b.toNat + 2 ^ k ≤ 2 ^ (k + 8) := by
      rw [hpow, ← Nat.mul_succ]
      exact Nat.mul_le_mul_left _ hb
    have hstep : (acc ||| b.toBitVec.setWidth w <<< k).toNat = acc.toNat + 2 ^ k * b.toNat := by
      rw [BitVec.toNat_or, BitVec.toNat_shiftLeft, hwide, Nat.mod_eq_of_lt, or_shiftLeft ha]
      rw [Nat.shiftLeft_eq, Nat.mul_comm]
      have hpos := Nat.two_pow_pos k
      omega
    rw [orBytes, ih (by omega) (by rw [hstep]; omega), hstep, leNat, hpow, Nat.mul_add, Nat.mul_assoc, Nat.add_assoc]

/-! ## The watchdog -/

/-- `buf[lo:hi]`. -/
def slice (buf : Bytes) (lo hi : Nat) : Bytes := (bytesAt (hi - lo) buf lo).toList

/-- `leU32` (`:96-98`). -/
def leU32 (b : Bytes) : UInt32 :=
  (b.getD 0 0).toUInt32 ||| (b.getD 1 0).toUInt32 <<< 8 ||| (b.getD 2 0).toUInt32 <<< 16 |||
    (b.getD 3 0).toUInt32 <<< 24

/-- `leI64` (`:100-104`). -/
def leI64 (b : Bytes) : Int64 :=
  let u := (b.getD 0 0).toUInt64 ||| (b.getD 1 0).toUInt64 <<< 8 ||| (b.getD 2 0).toUInt64 <<< 16 |||
    (b.getD 3 0).toUInt64 <<< 24 ||| (b.getD 4 0).toUInt64 <<< 32 ||| (b.getD 5 0).toUInt64 <<< 40 |||
    (b.getD 6 0).toUInt64 <<< 48 ||| (b.getD 7 0).toUInt64 <<< 56
  u.toInt64

/-- `getStatus` (`:65-94`), from the buffer the driver has filled. -/
def getStatus (buf : Bytes) : LgStatusReply where
  version := leU32 (slice buf 0 4)
  permissive := buf.getD 4 0
  permissiveExpiresSystemTime := leI64 (slice buf 8 16)
  tamperEventCount := leU32 (slice buf 16 20)
  lastHeartbeatSystemTime := leI64 (slice buf 24 32)

theorem toNat_leU32 {b : Bytes} (h : b.length = 4) : (leU32 b).toNat = leNat b := by
  match b, h with
  | [b₀, b₁, b₂, b₃], _ =>
    have hor : (leU32 [b₀, b₁, b₂, b₃]).toBitVec = orBytes 0 0#32 [b₀, b₁, b₂, b₃] := by simp [leU32, orBytes]
    rw [← UInt32.toNat_toBitVec, hor, toNat_orBytes _ (by simp) (by decide)]
    simp

/-- The word `leI64` reinterprets. -/
theorem toBitVec_leI64 {b : Bytes} (h : b.length = 8) : (leI64 b).toBitVec = orBytes 0 0#64 b := by
  match b, h with
  | [b₀, b₁, b₂, b₃, b₄, b₅, b₆, b₇], _ => simp [leI64, orBytes]

/-- The 64-bit words with the value of a number modulo `2 ^ 64` are one. -/
theorem int64_eq {x y : Int64} (h : (x.toBitVec.toNat : Int) = y.toInt % 2 ^ 64) : x = y := by
  apply Int64.toInt_inj.1
  have hx : x.toInt = Int.bmod x.toBitVec.toNat (2 ^ 64) := BitVec.toInt_eq_toNat_bmod x.toBitVec
  have hmod : Int.bmod (y.toInt % (2 ^ 64 : Nat)) (2 ^ 64) = Int.bmod y.toInt (2 ^ 64) := Int.emod_bmod _ _
  rw [hx, h]
  exact hmod.trans y.toInt_bmod

theorem leI64_leBytes (x : Int64) : leI64 (leBytes 8 x.toInt) = x := by
  apply int64_eq
  rw [toBitVec_leI64 (by simp), toNat_orBytes _ (by simp) (by decide), BitVec.toNat_zero, Nat.zero_add, Nat.pow_zero,
    Nat.one_mul]
  exact leNat_leBytes_emod 8 x.toInt

theorem leU32_leBytes (x : UInt32) : leU32 (leBytes 4 x.toNat) = x := by
  apply UInt32.toNat_inj.1
  rw [toNat_leU32 (by simp), leNat_leBytes x.toNat_lt]

theorem getStatus_image (r : LgStatusReply) {buf : Bytes} (hbuf : sizeofStatusReply ≤ buf.length) :
    getStatus (r.image buf) = r := by
  obtain ⟨hversion, hpermissive, hexpires, hcount, hheartbeat⟩ := image_fields r hbuf
  simp only [getStatus, slice, Nat.sub_zero, Nat.reduceSub, hversion, hpermissive, hexpires, hcount, hheartbeat,
    leU32_leBytes, leI64_leBytes]

/-! ## The recovery client -/

/-- `statusReply` of `main.go`, its padding written out. -/
def goStatusFields : List Layout.Field :=
  [.scalar 4, .scalar 1, .bytes 3, .scalar 8, .scalar 4, .bytes 4, .scalar 8]

/-- The offset of a field of the Go struct. -/
def goOffset (i : Nat) : Nat := (Layout.offsets goStatusFields).getD i 0

/-- `*(*statusReply)(unsafe.Pointer(&buf[0]))`, on a little-endian machine. -/
def statusReplyAt (buf : Bytes) : LgStatusReply where
  version := readULONG buf (goOffset 0)
  permissive := buf.getD (goOffset 1) 0
  permissiveExpiresSystemTime := Int64.ofNat (leNat (bytesAt 8 buf (goOffset 3)).toList)
  tamperEventCount := readULONG buf (goOffset 4)
  lastHeartbeatSystemTime := Int64.ofNat (leNat (bytesAt 8 buf (goOffset 6)).toList)

theorem int64_leBytes (x : Int64) : Int64.ofNat (leNat (leBytes 8 x.toInt)) = x := by
  apply Int64.toInt_inj.1
  have hmod : Int.bmod (x.toInt % (2 ^ 64 : Nat)) (2 ^ 64) = Int.bmod x.toInt (2 ^ 64) := Int.emod_bmod _ _
  rw [Int64.toInt_ofNat', leNat_leBytes_emod]
  exact hmod.trans x.toInt_bmod

theorem readULONG_leBytes {buf : Bytes} {off : Nat} {x : UInt32} (h : (bytesAt 4 buf off).toList = leBytes 4 x.toNat) :
    readULONG buf off = x := by
  rw [readULONG, h, leNat_leBytes x.toNat_lt, UInt32.ofNat_toNat]

theorem statusReplyAt_image (r : LgStatusReply) {buf : Bytes} (hbuf : sizeofStatusReply ≤ buf.length) :
    statusReplyAt (r.image buf) = r := by
  obtain ⟨hversion, hpermissive, hexpires, hcount, hheartbeat⟩ := image_fields r hbuf
  have hoffs : goOffset 0 = 0 ∧ goOffset 1 = 4 ∧ goOffset 3 = 8 ∧ goOffset 4 = 16 ∧ goOffset 6 = 24 := by decide
  obtain ⟨h₀, h₁, h₃, h₄, h₆⟩ := hoffs
  simp only [statusReplyAt, h₀, h₁, h₃, h₄, h₆, hpermissive, hexpires, hheartbeat, readULONG_leBytes hversion,
    readULONG_leBytes hcount, int64_leBytes]

/-! ## What both clients decode -/

/-- **The three layouts agree**: over every client buffer, and so whatever the padding and the eight
bytes after the reply, both clients decode the values written. -/
theorem status_decodes (r : LgStatusReply) (buf : Vector UInt8 40) :
    getStatus (r.image buf.toList) = r ∧ statusReplyAt (r.image buf.toList) = r := by
  have hbuf : sizeofStatusReply ≤ buf.toList.length := by simp [sizeofStatusReply]
  exact ⟨getStatus_image r hbuf, statusReplyAt_image r hbuf⟩

/-! ## The reply of the handler -/

/-- A field holds of an integer what it has room for. -/
theorem leBytes_congr {n : Nat} {x y : Int} (h : x % 256 ^ n = y % 256 ^ n) : leBytes n x = leBytes n y := by
  induction n generalizing x y with
  | zero => rfl
  | succ n ih =>
    rw [Int.pow_succ', emod_256_mul x (Int.pow_pos (by decide)), emod_256_mul y (Int.pow_pos (by decide))] at h
    have hlow : x % 256 = y % 256 := by omega
    have hrest : x / 256 % 256 ^ n = y / 256 % 256 ^ n := by omega
    rw [leBytes_succ, leBytes_succ, hlow, ih hrest]

/-- What a `STATUS` reports. -/
def Driver.statusValues (permissive : Bool) (d : Driver) : LgStatusReply where
  version := 1
  permissive := if permissive then 1 else 0
  permissiveExpiresSystemTime := Int64.ofInt d.window.gPermissiveExpires
  tamperEventCount := d.gTamperCount
  lastHeartbeatSystemTime := Int64.ofInt d.gLastHeartbeat

theorem leBytes_int64 (x : Int) : leBytes 8 (Int64.ofInt x).toInt = leBytes 8 x := by
  apply leBytes_congr
  rw [Int64.toInt_ofInt]
  exact Int.bmod_emod

theorem statusStores_eq (permissive : Bool) (d : Driver) :
    statusStores permissive d = (d.statusValues permissive).stores := by
  rw [stores_eq, Driver.statusValues, leBytes_int64, leBytes_int64]
  rfl

/-- The client's buffer once the I/O manager has copied the reply into it. -/
def Irp.copiedTo (irp : Irp) (buf : Bytes) : Bytes := overlay buf 0 irp.returned

/-- Fields stored in the system buffer and copied out are fields stored in the client's. -/
theorem overlay_stored {stores : List (Nat × Bytes)} {sys : Bytes} {n : Nat} (hn : n ≤ sys.length) (buf : Bytes)
    (hin : ∀ s ∈ stores, s.1 + s.2.length ≤ n) :
    overlay buf 0 ((stored stores sys).take n) = stored stores (overlay buf 0 (sys.take n)) := by
  have hfree : ∀ {i : Nat}, n ≤ i → ¬ Covered stores i := by
    rintro i hi ⟨s, hs, -, hlt⟩
    have hle := hin s hs
    omega
  have hcopied : ∀ (src : Bytes) (i : Nat), src.length = sys.length → i < buf.length →
      (overlay buf 0 (src.take n)).getD i 0 = if i < n then src.getD i 0 else buf.getD i 0 := by
    intro src i hsrc hi
    have hlen : (src.take n).length = n := by simp; omega
    by_cases hin' : i < n
    · rw [if_pos hin', getD_overlay_inside hi (Nat.zero_le i) (by omega)]
      simp [List.getD_eq_getElem?_getD, hin']
    · rw [if_neg hin', getD_overlay_outside hi (by omega)]
  apply List.ext_getElem
  · simp
  · intro i h₁ h₂
    have hi : i < buf.length := by simpa using h₁
    have hbyte : (overlay buf 0 ((stored stores sys).take n)).getD i 0 =
        (stored stores (overlay buf 0 (sys.take n))).getD i 0 := by
      rw [hcopied _ i (by simp) hi]
      by_cases hcov : Covered stores i
      · have hlt : i < n := by
          by_contra hge
          exact hfree (Nat.not_lt.1 hge) hcov
        rw [if_pos hlt]
        exact stored_covered (by omega) (by simpa using hi) hcov
      · have hover : i < (overlay buf 0 (sys.take n)).length := by simpa using hi
        rw [stored_uncovered hover hcov, hcopied _ i rfl hi]
        by_cases hlt : i < n
        · rw [if_pos hlt, if_pos hlt, stored_uncovered (by omega) hcov]
        · rw [if_neg hlt, if_neg hlt]
    rw [List.getD_eq_getElem?_getD, List.getD_eq_getElem?_getD, List.getElem?_eq_getElem h₁,
      List.getElem?_eq_getElem h₂] at hbyte
    exact hbyte

/-- **Both clients are told the driver's state**, whatever lay in the system buffer and in their own. -/
theorem status_clients_decode {irp : Irp} (h : sizeofStatusReply ≤ irp.outputBufferLength) (k : Kernel)
    (d : Driver) (buf : Vector UInt8 40) :
    let r := lgHandleStatus irp k d
    let values := r.driver.statusValues (lgIsPermissive k.now d.window).1
    getStatus (r.value.2.copiedTo buf.toList) = values ∧ statusReplyAt (r.value.2.copiedTo buf.toList) = values := by
  intro r values
  obtain ⟨-, hdriver, hinf, hbuf⟩ := lgHandleStatus_long h k d
  have hsys : sizeofStatusReply ≤ irp.systemBuffer.length :=
    Nat.le_trans h (Nat.le_trans (Nat.le_max_right _ _) irp.buffered)
  have himage : r.value.2.copiedTo buf.toList =
      values.image (overlay buf.toList 0 (irp.systemBuffer.take sizeofStatusReply)) := by
    have hvalues : values.stores = statusStores (lgIsPermissive k.now d.window).1
        { d with window := (lgIsPermissive k.now d.window).2 } := by
      rw [statusStores_eq, ← hdriver]
    rw [Irp.copiedTo, Irp.returned, hinf, hbuf, ← hvalues]
    exact overlay_stored hsys _ fun s hs => stores_inside values hs
  have hlen : sizeofStatusReply ≤ (overlay buf.toList 0 (irp.systemBuffer.take sizeofStatusReply)).length := by
    simp [sizeofStatusReply]
  rw [himage]
  exact ⟨getStatus_image values hlen, statusReplyAt_image values hlen⟩

end Lockguard
