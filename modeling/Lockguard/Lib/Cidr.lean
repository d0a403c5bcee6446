import Mathlib.Algebra.Group.Nat.Defs
import Mathlib.Data.Nat.Find
/-!
# Blocks of addresses

An address of `w` bits lies in the block `net/len` when its first `len` bits are those of `net`,
that is when it agrees with `net` under the mask of `len` leading ones (`mem_iff_mask`). Such a mask
gives its length back as the number of its leading ones (`leadingOnes_mask`), which can be counted byte
by byte (`leadingOnes_ofBytes`).
-/
namespace Cidr

section
variable {w : Nat} {net a : BitVec w} {len : Nat}

/-- `a` lies in `net/len`. -/
def Mem (net : BitVec w) (len : Nat) (a : BitVec w) : Prop := a >>> (w - len) = net >>> (w - len)

instance : Decidable (Mem net len a) := inferInstanceAs (Decidable (_ = _))

/-- `len` leading ones. -/
def mask (w len : Nat) : BitVec w := BitVec.allOnes w <<< (w - len)

theorem getMsbD_mask (h : len ≤ w) (i : Nat) : (mask w len).getMsbD i = decide (i < len) := by
  rw [mask, BitVec.getMsbD_shiftLeft, BitVec.getMsbD_allOnes]
  have hi : i + (w - len) < w ↔ i < len := by omega
  simp only [hi]

theorem mem_iff_bits (h : len ≤ w) : Mem net len a ↔ ∀ i < len, a.getMsbD i = net.getMsbD i := by
  constructor
  · intro hmem i hi
    have hbit := congrArg (fun b => b.getMsbD (i + (w - len))) hmem
    have hw : i + (w - len) < w := by omega
    have hge : ¬ i + (w - len) < w - len := by omega
    simpa only [BitVec.getMsbD_ushiftRight, hw, hge, decide_true, decide_false, Bool.not_false, Bool.true_and,
      Nat.add_sub_cancel] using hbit
  · intro hbits
    apply BitVec.eq_of_getMsbD_eq
    intro i hi
    rw [BitVec.getMsbD_ushiftRight, BitVec.getMsbD_ushiftRight]
    by_cases hlt : i < w - len
    · simp [hlt]
    · rw [hbits _ (by omega)]

/-- **A block is what agrees with its first address under its mask.** -/
theorem mem_iff_mask (h : len ≤ w) : Mem net len a ↔ a &&& mask w len = net &&& mask w len := by
  rw [mem_iff_bits h]
  constructor
  · intro hbits
    apply BitVec.eq_of_getMsbD_eq
    intro i _
    rw [BitVec.getMsbD_and, BitVec.getMsbD_and, getMsbD_mask h]
    by_cases hi : i < len
    · rw [hbits i hi]
    · simp [hi]
  · intro hmask i hi
    have hbit := congrArg (fun b => b.getMsbD i) hmask
    simpa only [BitVec.getMsbD_and, getMsbD_mask h, hi, decide_true, Bool.and_true] using hbit

/-! ## Leading ones -/

theorem exists_getMsbD_false (m : BitVec w) : ∃ i, m.getMsbD i = false := ⟨w, by simp⟩

/-- How many ones stand before the first zero; behind the last bit there are zeros only. -/
def leadingOnes (m : BitVec w) : Nat := Nat.find (exists_getMsbD_false m)

theorem leadingOnes_eq_iff {m : BitVec w} {n : Nat} :
    leadingOnes m = n ↔ m.getMsbD n = false ∧ ∀ i < n, m.getMsbD i = true := by
  simp [leadingOnes, Nat.find_eq_iff]

theorem leadingOnes_spec (m : BitVec w) :
    m.getMsbD (leadingOnes m) = false ∧ ∀ i < leadingOnes m, m.getMsbD i = true := leadingOnes_eq_iff.1 rfl

theorem leadingOnes_le (m : BitVec w) : leadingOnes m ≤ w := Nat.find_le (by simp)

theorem leadingOnes_mask (h : len ≤ w) : leadingOnes (mask w len) = len := by
  rw [leadingOnes_eq_iff, getMsbD_mask h]
  refine ⟨by simp, ?_⟩
  intro i hi
  rw [getMsbD_mask h, decide_eq_true hi]

/-- Shifting a leading one out leaves the ones behind it. -/
theorem leadingOnes_shiftLeft {m : BitVec w} (h : m.getMsbD 0 = true) :
    leadingOnes m = leadingOnes (m <<< 1) + 1 := by
  obtain ⟨hzero, hones⟩ := leadingOnes_spec (m <<< 1)
  rw [leadingOnes_eq_iff]
  constructor
  · rwa [BitVec.getMsbD_shiftLeft] at hzero
  · intro i hi
    cases i with
    | zero => exact h
    | succ i =>
      have hbit := hones i (by omega)
      rwa [BitVec.getMsbD_shiftLeft] at hbit

theorem leadingOnes_eq_zero {m : BitVec w} (h : m.getMsbD 0 = false) : leadingOnes m = 0 := by
  rw [leadingOnes_eq_iff]
  exact ⟨h, nofun⟩

end

/-! ## Addresses as bytes -/

/-- The first byte is the most significant. -/
def bytesValue (bs : List UInt8) : Nat := bs.foldl (fun n b => 256 * n + b.toNat) 0

def ofBytes (w : Nat) (bs : List UInt8) : BitVec w := BitVec.ofNat w (bytesValue bs)

theorem foldl_bytes (n : Nat) (bs : List UInt8) :
    bs.foldl (fun n b => 256 * n + b.toNat) n = 2 ^ (8 * bs.length) * n + bytesValue bs := by
  induction bs generalizing n with
  | nil => simp [bytesValue]
  | cons b bs ih =>
    have hzero := ih (256 * 0 + b.toNat)
    have hpow : 2 ^ (8 * (bs.length + 1)) = 2 ^ (8 * bs.length) * 256 := by
      rw [Nat.mul_add, Nat.pow_add]
    rw [bytesValue, List.foldl_cons, List.foldl_cons, ih, hzero, List.length_cons, hpow]
    simp only [Nat.mul_zero, Nat.zero_add, Nat.mul_add, Nat.mul_assoc, Nat.add_assoc]

theorem bytesValue_cons (b : UInt8) (bs : List UInt8) :
    bytesValue (b :: bs) = 2 ^ (8 * bs.length) * b.toNat + bytesValue bs := by
  have hfold := foldl_bytes (256 * 0 + b.toNat) bs
  simpa [bytesValue] using hfold

theorem bytesValue_lt (bs : List UInt8) : bytesValue bs < 2 ^ (8 * bs.length) := by
  induction bs with
  | nil => simp [bytesValue]
  | cons b bs ih =>
    have hb := b.toNat_lt
    have hpow : 2 ^ (8 * (bs.length + 1)) = 2 ^ (8 * bs.length) * 256 := by
      rw [Nat.mul_add, Nat.pow_add]
    have hmul : 2 ^ (8 * bs.length) * (b.toNat + 1) ≤ 2 ^ (8 * bs.length) * 256 := Nat.mul_le_mul_left _ (by omega)
    rw [bytesValue_cons, List.length_cons, hpow]
    rw [Nat.mul_add] at hmul
    omega

/-- The leading ones of some bytes: a byte that is all ones, and what follows, or those of the byte. -/
def byteOnes : List UInt8 → Nat
  | [] => 0
  | b :: bs => if b = 0xFF then 8 + byteOnes bs else leadingOnes b.toBitVec

theorem byteOnes_le (bs : List UInt8) : byteOnes bs ≤ 8 * bs.length := by
  induction bs with
  | nil => exact Nat.le_refl 0
  | cons b bs ih =>
    have hbyte := leadingOnes_le b.toBitVec
    rw [byteOnes, List.length_cons]
    split <;> omega

/-- Bit `i` of some bytes, from the front, is one of the first byte or of the others. -/
theorem testBit_bytesValue (b : UInt8) (bs : List UInt8) {i : Nat} (hi : i < 8 * bs.length + 8) :
    (bytesValue (b :: bs)).testBit (8 * bs.length + 7 - i) =
      if i < 8 then b.toBitVec.getMsbD i else (bytesValue bs).testBit (8 * bs.length - 1 - (i - 8)) := by
  rw [bytesValue_cons, Nat.testBit_two_pow_mul_add _ (bytesValue_lt bs)]
  by_cases hfirst : i < 8
  · have hpos : 8 * bs.length + 7 - i - 8 * bs.length = 8 - 1 - i := by omega
    rw [if_neg (by omega), if_pos hfirst, hpos, BitVec.getMsbD_eq_getLsbD, decide_eq_true hfirst, Bool.true_and]
    rfl
  · have hpos : 8 * bs.length + 7 - i = 8 * bs.length - 1 - (i - 8) := by omega
    rw [if_pos (by omega), if_neg hfirst, hpos]

theorem byteOnes_spec (bs : List UInt8) :
    (∀ i < byteOnes bs, (bytesValue bs).testBit (8 * bs.length - 1 - i) = true) ∧
      (byteOnes bs < 8 * bs.length → (bytesValue bs).testBit (8 * bs.length - 1 - byteOnes bs) = false) := by
  induction bs with
  | nil => exact ⟨nofun, nofun⟩
  | cons b bs ih =>
    obtain ⟨hones, hzero⟩ := ih
    obtain ⟨hbyteZero, hbyteOnes⟩ := leadingOnes_spec b.toBitVec
    have hle := byteOnes_le bs
    have hbyte := leadingOnes_le b.toBitVec
    have hlen : 8 * (b :: bs).length - 1 = 8 * bs.length + 7 := by
      rw [List.length_cons]
      omega
    rw [hlen, List.length_cons, byteOnes]
    by_cases hff : b = 0xFF
    · rw [if_pos hff]
      have hall : ∀ i < 8, b.toBitVec.getMsbD i = true := by
        rw [hff]
        decide
      constructor
      · intro i hi
        rw [testBit_bytesValue b bs (by omega)]
        split
        · rename_i hfirst
          exact hall i hfirst
        · exact hones (i - 8) (by omega)
      · intro hlt
        rw [testBit_bytesValue b bs (by omega), if_neg (by omega), Nat.add_sub_cancel_left]
        exact hzero (by omega)
    · rw [if_neg hff]
      have hshort : leadingOnes b.toBitVec < 8 := by
        by_contra hlong
        refine hff (UInt8.toBitVec_inj.1 (BitVec.eq_of_getMsbD_eq ?_))
        intro i hi
        rw [hbyteOnes i (by omega)]
        revert i
        decide
      constructor
      · intro i hi
        rw [testBit_bytesValue b bs (by omega), if_pos (by omega)]
        exact hbyteOnes i hi
      · intro _
        rw [testBit_bytesValue b bs (by omega), if_pos hshort]
        exact hbyteZero

/-- **Leading ones are counted byte by byte**, up to the first byte that is not all ones. -/
theorem leadingOnes_ofBytes {w : Nat} {bs : List UInt8} (h : 8 * bs.length = w) :
    leadingOnes (ofBytes w bs) = byteOnes bs := by
  subst h
  obtain ⟨hones, hzero⟩ := byteOnes_spec bs
  have hle := byteOnes_le bs
  have hbit : ∀ i, (ofBytes (8 * bs.length) bs).getMsbD i =
      (decide (i < 8 * bs.length) && (bytesValue bs).testBit (8 * bs.length - 1 - i)) := by
    intro i
    rw [BitVec.getMsbD_eq_getLsbD, ofBytes, BitVec.getLsbD_ofNat]
    by_cases hi : i < 8 * bs.length
    · have hpos : 8 * bs.length - 1 - i < 8 * bs.length := by omega
      rw [decide_eq_true hpos, Bool.true_and]
    · rw [decide_eq_false hi, Bool.false_and, Bool.false_and]
  rw [leadingOnes_eq_iff, hbit]
  constructor
  · by_cases hlt : byteOnes bs < 8 * bs.length
    · rw [hzero hlt, Bool.and_false]
    · rw [decide_eq_false hlt, Bool.false_and]
  · intro i hi
    have hlt : i < 8 * bs.length := by omega
    rw [hbit, hones i hi, decide_eq_true hlt, Bool.true_and]

end Cidr
