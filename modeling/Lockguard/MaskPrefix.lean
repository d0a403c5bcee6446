import Lockguard.Lib.Loops
import Lockguard.Wfp
/-!
# The prefix length of a mask (`wfp.c:106-122`)

The inner loop shifts the leading ones of a byte out and counts them in a `UINT8`, the outer one ends
behind the first byte that is not all ones. `prefixOfMaskChecked` runs both with the counter looked at:
neither goes on for ever and the counter stays exact, for each of the masks there are
(`prefixOfMask_exact`).
-/
namespace Lockguard

open Loops

/-- `while (v & 0x80) { ++prefix; v <<= 1; }`, a fault where the counter would wrap. -/
def onesRound (s : UInt8 × UInt8) : Option ((UInt8 × UInt8) ⊕ UInt8) :=
  if s.1 &&& 0x80 ≠ 0 then
    if s.2.toNat + 1 < 256 then some (.inl (s.1 <<< 1, s.2 + 1)) else none
  else some (.inr s.2)

/-- The loop over the bytes of the mask; the inner one is given a round more than a byte has bits. -/
def prefixOfMaskChecked : List UInt8 → UInt8 → Option UInt8
  | [], pfx => some pfx
  | m :: ms, pfx => do
    let pfx ← iterate onesRound 9 (m, pfx)
    if m ≠ 0xFF then some pfx else prefixOfMaskChecked ms pfx

theorem topBit_iff (v : UInt8) : v &&& 0x80 ≠ 0 ↔ v.toBitVec.getMsbD 0 = true := by
  have hall : ∀ i : Fin 256, (UInt8.ofNat i) &&& 0x80 ≠ 0 ↔ (UInt8.ofNat i).toBitVec.getMsbD 0 = true := by
    decide +kernel
  have hv := hall ⟨v.toNat, v.toNat_lt⟩
  rwa [UInt8.ofNat_toNat] at hv

theorem leadingOnes_shift {v : UInt8} (h : v &&& 0x80 ≠ 0) :
    Cidr.leadingOnes v.toBitVec = Cidr.leadingOnes (v <<< 1).toBitVec + 1 :=
  Cidr.leadingOnes_shiftLeft ((topBit_iff v).1 h)

theorem leadingOnes_stop {v : UInt8} (h : ¬ v &&& 0x80 ≠ 0) : Cidr.leadingOnes v.toBitVec = 0 := by
  rw [topBit_iff, Bool.not_eq_true] at h
  exact Cidr.leadingOnes_eq_zero h

theorem toNat_succ (pfx : UInt8) (h : pfx.toNat + 1 < 256) : (pfx + 1).toNat = pfx.toNat + 1 := by
  rw [UInt8.toNat_add]
  exact Nat.mod_eq_of_lt h

/-- **The inner loop adds the leading ones of the byte**, in as many rounds as there are. -/
theorem countOnes_toNat (v pfx : UInt8) {n : Nat} (hrounds : Cidr.leadingOnes v.toBitVec ≤ n)
    (hroom : pfx.toNat + Cidr.leadingOnes v.toBitVec < 256) :
    (countOnes n v pfx).2.toNat = pfx.toNat + Cidr.leadingOnes v.toBitVec := by
  induction n generalizing v pfx with
  | zero =>
    show pfx.toNat = _
    omega
  | succ n ih =>
    rw [countOnes]
    split
    · rename_i htop
      have hshift := leadingOnes_shift htop
      have hsucc := toNat_succ pfx (by omega)
      rw [ih _ _ (by omega) (by omega)]
      omega
    · rename_i htop
      have hstop := leadingOnes_stop htop
      show pfx.toNat = _
      omega

/-- The inner loop ends on every byte, and its counter does not wrap. -/
theorem iterate_onesRound (v pfx : UInt8) (hroom : pfx.toNat + 8 < 256) :
    iterate onesRound 9 (v, pfx) = some (countOnes 8 v pfx).2 := by
  have hle := Cidr.leadingOnes_le v.toBitVec
  have hcount := countOnes_toNat v pfx hle (by omega)
  -- what is counted and what is left to count are the same in sum
  refine iterate_eq (I := fun s => s.2.toNat + Cidr.leadingOnes s.1.toBitVec =
      pfx.toNat + Cidr.leadingOnes v.toBitVec)
    (m := fun s => Cidr.leadingOnes s.1.toBitVec) ?_ 9 rfl (by simp only; omega)
  rintro ⟨v', pfx'⟩ hsum
  simp only at hsum
  by_cases htop : v' &&& 0x80 ≠ 0
  · left
    have hshift := leadingOnes_shift htop
    have hsucc := toNat_succ pfx' (by omega)
    refine ⟨(v' <<< 1, pfx' + 1), ?_, ?_, ?_⟩
    · rw [onesRound, if_pos htop, if_pos (by simp only; omega)]
    · simp only
      omega
    · simp only
      omega
  · right
    have hstop := leadingOnes_stop htop
    rw [onesRound, if_neg htop, UInt8.toNat_inj.1 (show pfx'.toNat = (countOnes 8 v pfx).2.toNat by omega)]

/-- The loop over the bytes adds the leading ones of them all. -/
theorem prefixOfMask_bytes (ms : List UInt8) (pfx : UInt8) (h : pfx.toNat + 8 * ms.length < 256) :
    prefixOfMaskChecked ms pfx = some (prefixOfMask ms pfx) ∧
      (prefixOfMask ms pfx).toNat = pfx.toNat + Cidr.byteOnes ms := by
  induction ms generalizing pfx with
  | nil => exact ⟨rfl, rfl⟩
  | cons m ms ih =>
    rw [List.length_cons] at h
    have hle := Cidr.leadingOnes_le m.toBitVec
    have hcount := countOnes_toNat m pfx hle (by omega)
    have hloop := iterate_onesRound m pfx (by omega)
    simp only [prefixOfMaskChecked, prefixOfMask, Cidr.byteOnes, hloop, Option.bind_eq_bind, Option.bind_some]
    by_cases hff : m = 0xFF
    · have hall : Cidr.leadingOnes m.toBitVec = 8 := by
        rw [hff, Cidr.leadingOnes_eq_iff]
        decide
      obtain ⟨hchecked, hrest⟩ := ih (countOnes 8 m pfx).2 (by omega)
      rw [if_neg (not_not_intro hff), if_neg (not_not_intro hff), if_pos hff]
      exact ⟨hchecked, by omega⟩
    · rw [if_pos hff, if_pos hff, if_neg hff]
      exact ⟨rfl, hcount⟩

/-- Ones, and then zeros only. -/
def Contiguous (mask : V6Address) : Prop := ∃ len ≤ 128, mask.bits = Cidr.mask 128 len

/-- **The prefix length of a mask.** For every mask the loops end with the number of its leading ones, the
counter exact all the way. A mask that is contiguous and the prefix length taken from it select the same
addresses. -/
theorem prefixOfMask_exact (mask : V6Address) :
    prefixOfMaskChecked mask.toList 0 = some (prefixOfMask mask.toList 0) ∧
    (prefixOfMask mask.toList 0).toNat = Cidr.leadingOnes mask.bits ∧
    (Contiguous mask → ∀ (net a : V6Address) (direction : Direction) (port : UInt16),
      (Condition.remoteAddressV6 net (prefixOfMask mask.toList 0)).holds ⟨direction, .v6 a, port⟩ = true ↔
        a.bits &&& mask.bits = net.bits &&& mask.bits) := by
  obtain ⟨hchecked, hones⟩ := prefixOfMask_bytes mask.toList 0 (by simp)
  have hleading : (prefixOfMask mask.toList 0).toNat = Cidr.leadingOnes mask.bits := by
    have hbits : mask.bits = Cidr.ofBytes 128 mask.toList := rfl
    rw [hones, hbits, Cidr.leadingOnes_ofBytes (by simp)]
    simp
  refine ⟨hchecked, hleading, ?_⟩
  rintro ⟨len, hlen, hmask⟩ net a direction port
  rw [hmask, Cidr.leadingOnes_mask hlen] at hleading
  rw [Condition.holds, decide_eq_true_eq, hleading, hmask]
  exact Cidr.mem_iff_mask hlen

namespace Worked

/-- fe80::/10, the first of the permitted ranges, with its mask. -/
def linkLocal : V6Address × V6Address := v6Ranges.head (List.cons_ne_nil _ _)

theorem linkLocal_contiguous : Contiguous linkLocal.2 := ⟨10, by decide, by decide⟩

/-- An address near its end. -/
def linkLocalHost : V6Address := #v[0xFE, 0xBF, 0, 0, 0, 0, 0, 0, 0, 0, 0, 0, 0, 0, 0, 1]

end Worked

theorem prefixOfMask_exact_linkLocal : prefixOfMask Worked.linkLocal.2.toList 0 = 10 ∧
    (Condition.remoteAddressV6 Worked.linkLocal.1 (prefixOfMask Worked.linkLocal.2.toList 0)).holds
      ⟨.outbound, .v6 Worked.linkLocalHost, 9100⟩ = true := by
  obtain ⟨-, -, hsame⟩ := prefixOfMask_exact Worked.linkLocal.2
  refine ⟨by decide, ?_⟩
  rw [hsame Worked.linkLocal_contiguous]
  decide

end Lockguard
