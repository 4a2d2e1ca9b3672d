import Nnrp.Fallible
import Mathlib.Data.Nat.Bitwise
import Mathlib.Data.UInt

/-!
# Bitmaps as sets of bits

A bitmap is a number, and the set that it stands for is that of its bits. The lemmas say which bits
the bitwise operations leave, and what a loop builds that adds one bit for each element of a list
and may refuse an element that has no bit.
-/

namespace Nnrp.Bitmap
open Fallible

def Subset (a b : ℕ) : Prop := ∀ bit, a.testBit bit = true → b.testBit bit = true

theorem Subset.refl (a : ℕ) : Subset a a := fun _ h => h

theorem Subset.and_left (a b : ℕ) : Subset (a &&& b) a := by
  intro bit h
  rw [Nat.testBit_and, Bool.and_eq_true] at h
  exact h.1

theorem Subset.and_right (a b : ℕ) : Subset (a &&& b) b := by
  intro bit h
  rw [Nat.testBit_and, Bool.and_eq_true] at h
  exact h.2

theorem and_not_eq_zero_iff (a b : UInt32) : a &&& ~~~b = 0 ↔ Subset a.toNat b.toNat := by
  have hbit (bit : ℕ) : (a &&& ~~~b).toBitVec.getLsbD bit =
      (a.toBitVec.getLsbD bit && !b.toBitVec.getLsbD bit) := by
    rw [UInt32.toBitVec_and, UInt32.toBitVec_not, BitVec.getLsbD_and, BitVec.getLsbD_not]
    by_cases hlt : bit < 32
    · simp [hlt]
    · simp [BitVec.getLsbD_of_ge _ bit (not_lt.mp hlt)]
  constructor
  · intro h bit ha
    have hzero := hbit bit
    rw [h] at hzero
    by_contra hb
    have ha' : a.toBitVec.getLsbD bit = true := ha
    have hb' : b.toBitVec.getLsbD bit = false := Bool.eq_false_iff.mpr hb
    rw [ha', hb'] at hzero
    simp at hzero
  · intro h
    apply UInt32.eq_of_toBitVec_eq
    apply BitVec.eq_of_getLsbD_eq
    intro bit _
    rw [hbit]
    cases ha : a.toBitVec.getLsbD bit with
    | false => simp
    | true =>
      have hb : b.toBitVec.getLsbD bit = true := h bit ha
      simp [hb]

theorem and_ne_zero_iff (a b : UInt32) :
    a &&& b ≠ 0 ↔ ∃ bit, a.toNat.testBit bit = true ∧ b.toNat.testBit bit = true := by
  constructor
  · intro hne
    have hnat : (a &&& b).toNat ≠ 0 := fun h => hne (UInt32.toNat_inj.mp h)
    obtain ⟨bit, hbit⟩ := Nat.exists_testBit_of_ne_zero hnat
    rw [UInt32.toNat_and, Nat.testBit_and, Bool.and_eq_true] at hbit
    exact ⟨bit, hbit⟩
  · intro h hzero
    obtain ⟨bit, ha, hb⟩ := h
    have hand : (a &&& b).toNat.testBit bit = true := by
      rw [UInt32.toNat_and, Nat.testBit_and, ha, hb]
      rfl
    rw [hzero] at hand
    simp at hand

theorem one_shiftLeft_toNat32 {pos : ℕ} (h : pos < 32) :
    (1 <<< UInt32.ofNat pos : UInt32).toNat = 2 ^ pos := by
  have hpow : 2 ^ pos < 2 ^ 32 := Nat.pow_lt_pow_right (by decide) h
  have hpos : pos < 2 ^ 32 := by omega
  rw [UInt32.toNat_shiftLeft, UInt32.toNat_ofNat_of_lt' hpos, Nat.mod_eq_of_lt h, Nat.shiftLeft_eq]
  exact (Nat.mod_eq_of_lt (by simpa using hpow)).trans (Nat.one_mul _)

theorem one_shiftLeft_toNat16 {pos : ℕ} (h : pos < 16) :
    (1 <<< UInt16.ofNat pos : UInt16).toNat = 2 ^ pos := by
  have hpow : 2 ^ pos < 2 ^ 16 := Nat.pow_lt_pow_right (by decide) h
  have hpos : pos < 2 ^ 16 := by omega
  rw [UInt16.toNat_shiftLeft, UInt16.toNat_ofNat_of_lt' hpos, Nat.mod_eq_of_lt h, Nat.shiftLeft_eq]
  exact (Nat.mod_eq_of_lt (by simpa using hpow)).trans (Nat.one_mul _)

theorem testBit_or_two_pow (bitmap pos bit : ℕ) :
    (bitmap ||| 2 ^ pos).testBit bit = true ↔ bitmap.testBit bit = true ∨ pos = bit := by
  rw [Nat.testBit_or, Bool.or_eq_true, Nat.testBit_two_pow, decide_eq_true_iff]

structure Adds {α β ε : Type} (bits : β → ℕ) (position : α → ℕ) (fits : α → Prop)
    (add : β → α → Except ε β) : Prop where
  accepts : ∀ bitmap x, (∃ bitmap', add bitmap x = .ok bitmap') ↔ fits x
  testBit : ∀ bitmap x bitmap', add bitmap x = .ok bitmap' → ∀ bit,
    (bits bitmap').testBit bit = true ↔ (bits bitmap).testBit bit = true ∨ position x = bit

variable {α β ε : Type} {bits : β → ℕ} {pos : α → ℕ} {fits : α → Prop}
  {add : β → α → Except ε β}

theorem Adds.foldlM_accepts (h : Adds bits pos fits add) (xs : List α) (bitmap : β) :
    (∃ bitmap', xs.foldlM add bitmap = .ok bitmap') ↔ ∀ x ∈ xs, fits x := by
  induction xs generalizing bitmap with
  | nil => exact ⟨fun _ => by simp, fun _ => ⟨bitmap, rfl⟩⟩
  | cons x xs ih =>
    rw [List.forall_mem_cons, ← h.accepts bitmap x]
    constructor
    · intro hfold
      obtain ⟨bitmap', hfold⟩ := hfold
      obtain ⟨added, hadd, hrest⟩ := bind_eq_ok.mp hfold
      exact ⟨⟨added, hadd⟩, (ih added).mp ⟨bitmap', hrest⟩⟩
    · intro hall
      obtain ⟨⟨added, hadd⟩, hrest⟩ := hall
      obtain ⟨bitmap', hfold⟩ := (ih added).mpr hrest
      exact ⟨bitmap', bind_eq_ok.mpr ⟨added, hadd, hfold⟩⟩

theorem Adds.foldlM_testBit (h : Adds bits pos fits add) {xs : List α} {bitmap bitmap' : β}
    (hfold : xs.foldlM add bitmap = .ok bitmap') (bit : ℕ) : (bits bitmap').testBit bit = true ↔
      (bits bitmap).testBit bit = true ∨ ∃ x ∈ xs, pos x = bit := by
  induction xs generalizing bitmap with
  | nil =>
    cases hfold
    simp
  | cons x xs ih =>
    obtain ⟨added, hadd, hrest⟩ := bind_eq_ok.mp hfold
    rw [ih hrest, h.testBit bitmap x added hadd, List.exists_mem_cons_iff, or_assoc]

end Nnrp.Bitmap
