import Nnrp.Bitmap
import Nnrp.BodyRegion

/-!
# The references of a submit and their mask

Four kinds of cached objects have a slot in a submit, and a bit of the mask stands for each slot.
One pass over the reference blocks checks that the slots come in order, once each, and that they
are those of the mask.
-/

namespace Nnrp.Data
open Protocol Fallible Bitmap List

def submitObjectRefMaskKnownBits : UInt32 := 0x0000000f

def validateSubmitObjectRefMask (submitMode : SubmitMode) (objectRefMask : UInt32) :
    Except NnrpError Unit := do
  validateMaskU32 objectRefMask submitObjectRefMaskKnownBits
  match submitMode with
  | .inline =>
    ensure (objectRefMask = 0)
      (.invalidProtocolCombination "inline FRAME_SUBMIT must not declare object_ref_mask")
  | .reference | .mixed =>
    ensure (objectRefMask ≠ 0) (.invalidProtocolCombination
      "reference or mixed FRAME_SUBMIT requires non-zero object_ref_mask")

def submitObjectSlotIndex : CacheObjectKind → Option ℕ
  | .cameraBlock => some 0
  | .tileIndexBlock => some 1
  | .tensorSectionTable => some 2
  | .payloadLayoutTemplate => some 3
  | _ => none

def slots (blocks : List ObjectReferenceBlock) : List ℕ :=
  blocks.filterMap fun block => submitObjectSlotIndex block.objectKind

def seenMask (objectRefMask : UInt32) :
    List ObjectReferenceBlock → ℕ → UInt32 → Except NnrpError UInt32
  | [], _, seen => pure seen
  | block :: rest, expectedSlot, seen =>
    match submitObjectSlotIndex block.objectKind with
    | none => seenMask objectRefMask rest expectedSlot seen
    | some slot => do
      let bit : UInt32 := 1 <<< UInt32.ofNat slot
      ensure (expectedSlot ≤ slot) (.invalidProtocolCombination
        "object reference region standard slots must be sorted")
      ensure (seen &&& bit = 0) (.invalidProtocolCombination
        "object reference region must not duplicate standard slots")
      ensure (objectRefMask &&& bit ≠ 0) (.invalidProtocolCombination
        "object reference block requires matching object_ref_mask bit")
      seenMask objectRefMask rest slot (seen ||| bit)

def validateSubmitMask (blocks : List ObjectReferenceBlock) (submitMode : SubmitMode)
    (objectRefMask : UInt32) : Except NnrpError Unit := do
  validateSubmitObjectRefMask submitMode objectRefMask
  let seen ← seenMask objectRefMask blocks 0 0
  ensure (seen = objectRefMask) (.invalidProtocolCombination
    "object reference region must exactly match object_ref_mask")

variable {slot : ℕ} {a mask seen seen' : UInt32} {blocks : List ObjectReferenceBlock}

theorem bit_toNat {kind : CacheObjectKind} (h : submitObjectSlotIndex kind = some slot) :
    (1 <<< UInt32.ofNat slot : UInt32).toNat = 2 ^ slot := by
  apply one_shiftLeft_toNat32
  cases kind <;> cases h <;> decide

theorem and_bit_ne_zero_iff (hbit : (1 <<< UInt32.ofNat slot : UInt32).toNat = 2 ^ slot) :
    a &&& 1 <<< UInt32.ofNat slot ≠ 0 ↔ a.toNat.testBit slot = true := by
  rw [and_ne_zero_iff, hbit]
  simp [Nat.testBit_two_pow]

theorem seenMask_eq_ok {expected : ℕ} : seenMask mask blocks expected seen = .ok seen' ↔
    (slots blocks).Pairwise (· < ·) ∧ (∀ i ∈ slots blocks, expected ≤ i ∧
      seen.toNat.testBit i = false ∧ mask.toNat.testBit i = true) ∧
    ∀ i, seen'.toNat.testBit i = true ↔ seen.toNat.testBit i = true ∨ i ∈ slots blocks := by
  induction blocks generalizing expected seen with
  | nil =>
    have hsame (h : ∀ i, seen'.toNat.testBit i = seen.toNat.testBit i) : seen = seen' :=
      UInt32.toNat_inj.mp (Nat.eq_of_testBit_eq fun i => (h i).symm)
    simpa [seenMask, slots, pure_eq_ok] using ⟨by rintro rfl; simp, hsame⟩
  | cons block rest ih =>
    cases hslot : submitObjectSlotIndex block.objectKind with
    | none =>
      have hslots : slots (block :: rest) = slots rest := filterMap_cons_none hslot
      rw [seenMask, hslot, hslots]
      exact ih
    | some slot =>
      have hslots : slots (block :: rest) = slot :: slots rest := filterMap_cons_some hslot
      have hbit := bit_toNat hslot
      have hadded (i : ℕ) : (seen ||| 1 <<< UInt32.ofNat slot).toNat.testBit i = true ↔
          seen.toNat.testBit i = true ∨ i = slot := by
        rw [UInt32.toNat_or, hbit, testBit_or_two_pow, eq_comm (a := slot)]
      have hfree : seen &&& 1 <<< UInt32.ofNat slot = 0 ↔ ¬seen.toNat.testBit slot = true := by
        rw [← and_bit_ne_zero_iff hbit, not_not]
      rw [seenMask, hslot, hslots]
      simp only [bind_eq_ok, exists_unit, ensure_eq_ok, ih, hfree, and_bit_ne_zero_iff hbit,
        ← Bool.not_eq_true, hadded, not_or, pairwise_cons, mem_cons, forall_eq_or_imp]
      constructor
      · rintro ⟨hle, hnot, hmask, hsorted, hrest, hseen⟩
        refine ⟨⟨fun i hi => ?_, hsorted⟩, ⟨⟨hle, hnot, hmask⟩, fun i hi => ?_⟩, fun i => ?_⟩
        · obtain ⟨hge, ⟨-, hne⟩, -⟩ := hrest i hi
          omega
        · obtain ⟨hge, ⟨hfresh, -⟩, hin⟩ := hrest i hi
          exact ⟨hle.trans hge, hfresh, hin⟩
        · rw [hseen, or_assoc]
      · rintro ⟨⟨hlt, hsorted⟩, ⟨⟨hle, hnot, hmask⟩, hrest⟩, hseen⟩
        refine ⟨hle, hnot, hmask, hsorted, fun i hi => ?_, fun i => ?_⟩
        · obtain ⟨-, hfresh, hin⟩ := hrest i hi
          exact ⟨(hlt i hi).le, ⟨hfresh, (hlt i hi).ne'⟩, hin⟩
        · rw [hseen, or_assoc]

/-- The mask is checked exactly: the mode allows it, the slots come in order, and they are its
bits. -/
theorem submit_mask_exact (blocks : List ObjectReferenceBlock) (submitMode : SubmitMode)
    (objectRefMask : UInt32) : validateSubmitMask blocks submitMode objectRefMask = .ok () ↔
      (objectRefMask &&& ~~~submitObjectRefMaskKnownBits = 0 ∧
        (submitMode = .inline ↔ objectRefMask = 0)) ∧ (slots blocks).Pairwise (· < ·) ∧
      ∀ slot, slot ∈ slots blocks ↔ objectRefMask.toNat.testBit slot = true := by
  have hmode : validateSubmitObjectRefMask submitMode objectRefMask = .ok () ↔
      objectRefMask &&& ~~~submitObjectRefMaskKnownBits = 0 ∧
        (submitMode = .inline ↔ objectRefMask = 0) := by
    cases submitMode <;>
      simp [validateSubmitObjectRefMask, validateMaskU32, bind_eq_ok, ensure_eq_ok]
  simp only [validateSubmitMask, bind_eq_ok, exists_unit, ensure_eq_ok, hmode, seenMask_eq_ok]
  refine and_congr_right fun _ => ?_
  constructor
  · rintro ⟨seen, ⟨hsorted, -, hseen⟩, rfl⟩
    exact ⟨hsorted, fun slot => by rw [hseen]; simp⟩
  · rintro ⟨hsorted, hmask⟩
    refine ⟨objectRefMask, ⟨hsorted, fun i hi => ?_, fun i => ?_⟩, rfl⟩
    · exact ⟨Nat.zero_le i, by simp, (hmask i).mp hi⟩
    · rw [← hmask]
      simp

end Nnrp.Data
