import Nnrp.ByteOrder

/-!
# Records of fields

A record is written into zeros field by field, and a byte string holds it if every field has its
value there and everything between the fields is zero (`Holds`). Exactly one byte string of the
length of the record does.
-/

namespace Nnrp.ByteOrder

open List
variable (offset : ℕ)

def putU8 (value : UInt8) : ℕ × Bytes := (offset, [value])
def putU16 (value : UInt16) : ℕ × Bytes := (offset, leBytes 2 value.toNat)
def putI16 (value : Int16) : ℕ × Bytes := putU16 offset value.toUInt16
def putU32 (value : UInt32) : ℕ × Bytes := (offset, leBytes 4 value.toNat)
def putU64 (value : UInt64) : ℕ × Bytes := (offset, leBytes 8 value.toNat)

section
variable {offset : ℕ} {u : UInt8} {v : UInt16} {w : UInt32} {x : UInt64}
  {i : Int16}

@[simp] theorem putU8_fst : (putU8 offset u).1 = offset := rfl
@[simp] theorem putU16_fst : (putU16 offset v).1 = offset := rfl
@[simp] theorem putI16_fst : (putI16 offset i).1 = offset := rfl
@[simp] theorem putU32_fst : (putU32 offset w).1 = offset := rfl
@[simp] theorem putU64_fst : (putU64 offset x).1 = offset := rfl
@[simp] theorem putU8_length : (putU8 offset u).2.length = 1 := rfl
@[simp] theorem putU16_length : (putU16 offset v).2.length = 2 := leBytes_length ..
@[simp] theorem putI16_length : (putI16 offset i).2.length = 2 := putU16_length
@[simp] theorem putU32_length : (putU32 offset w).2.length = 4 := leBytes_length ..
@[simp] theorem putU64_length : (putU64 offset x).2.length = 8 := leBytes_length ..

end

def Ordered (len : ℕ) : ℕ → List (ℕ × Bytes) → Prop
  | p, [] => p ≤ len
  | p, field :: fields => p ≤ field.1 ∧ Ordered len (field.1 + field.2.length) fields

def Gap (source : Bytes) (p q : ℕ) : Prop := leValue (slice source p (q - p)) = 0

/-- The source holds the fields one after the other from the position on, and zeros elsewhere. -/
def Holds (len : ℕ) (source : Bytes) : ℕ → List (ℕ × Bytes) → Prop
  | p, [] => Gap source p len
  | p, (offset, field) :: fields =>
    Gap source p offset ∧ leValue (slice source offset field.length) = leValue field ∧
      Holds len source (offset + field.length) fields

variable {src a b : Bytes} {len p q r : ℕ} {fields : List (ℕ × Bytes)} {v : UInt16}

theorem leValue_inj (hlen : a.length = b.length) (h : leValue a = leValue b) : a = b := by
  induction a generalizing b with
  | nil => exact (length_eq_zero_iff.mp hlen.symm).symm
  | cons x a ih =>
    cases b with
    | nil => cases hlen
    | cons y b =>
      have hx := x.toNat_lt
      have hy := y.toNat_lt
      rw [leValue, leValue] at h
      have hhead : x.toNat = y.toNat := by omega
      have htail : leValue a = leValue b := by omega
      rw [UInt8.toNat_inj.mp hhead, ih (Nat.succ.inj hlen) htail]

theorem slice_length (h : p + q ≤ src.length) : (slice src p q).length = q := by
  rw [slice, length_take, length_drop]
  omega

theorem slice_split (hpq : p ≤ q) (hqr : q ≤ r) :
    slice src p (r - p) = slice src p (q - p) ++ slice src q (r - q) := by
  have hq : q = p + (q - p) := by omega
  have hr : r - p = (q - p) + (r - q) := by omega
  rw [slice, slice, slice, hr, take_add, drop_drop, ← hq]

theorem Ordered.bounds (h : Ordered len p fields) :
    p ≤ len ∧ ∀ field ∈ fields, p ≤ field.1 ∧ field.1 + field.2.length ≤ len := by
  induction fields generalizing p with
  | nil => exact ⟨h, fun _ hfield => absurd hfield not_mem_nil⟩
  | cons field fields ih =>
    obtain ⟨hle, hrest⟩ := ih h.2
    refine ⟨by have := h.1; omega, fun x hx => ?_⟩
    rcases mem_cons.mp hx with rfl | hx
    · exact ⟨h.1, hle⟩
    · have hx := hrest x hx
      exact ⟨by have := h.1; omega, hx.2⟩

theorem Ordered.fits (h : Ordered len p fields) : Fits len fields := by
  refine ⟨fun field hfield => (h.bounds.2 field hfield).2, ?_⟩
  induction fields generalizing p with
  | nil => exact .nil
  | cons field fields ih =>
    exact .cons (fun x hx => (Ordered.bounds h.2).2 x hx |>.1) (ih h.2)

theorem Fits.tail {field : ℕ × Bytes} (h : Fits len (field :: fields)) : Fits len fields :=
  ⟨fun x hx => h.1 x (mem_cons_of_mem _ hx), (pairwise_cons.mp h.2).2⟩

theorem Holds.slice_eq (ha : len ≤ a.length) (hb : len ≤ b.length) (hfits : Fits len fields)
    (hp : p ≤ len) (hstart : ∀ field ∈ fields, p ≤ field.1) (hA : Holds len a p fields)
    (hB : Holds len b p fields) : slice a p (len - p) = slice b p (len - p) := by
  -- each stretch between two positions has the same value in both
  have heq {q width : ℕ} (hle : q + width ≤ len)
      (h : leValue (slice a q width) = leValue (slice b q width)) :
      slice a q width = slice b q width := by
    apply leValue_inj _ h
    rw [slice_length (hle.trans ha), slice_length (hle.trans hb)]
  induction fields generalizing p with
  | nil => exact heq (by omega) (hA.trans hB.symm)
  | cons field fields ih =>
    obtain ⟨hgapA, hfieldA, hrestA⟩ := hA
    obtain ⟨hgapB, hfieldB, hrestB⟩ := hB
    have hfield := hfits.1 field mem_cons_self
    have hbefore := hstart field mem_cons_self
    have hrest := ih hfits.tail hfield (pairwise_cons.mp hfits.2).1 hrestA hrestB
    have hgap := heq (by omega) (hgapA.trans hgapB.symm)
    have hhere := heq hfield (hfieldA.trans hfieldB.symm)
    have hsplit (c : Bytes) : slice c p (len - p) = slice c p (field.1 - p) ++
        (slice c field.1 field.2.length ++
          slice c (field.1 + field.2.length) (len - (field.1 + field.2.length))) := by
      rw [slice_split hbefore (by omega), slice_split (Nat.le_add_right _ _) hfield,
        Nat.add_sub_cancel_left]
    rw [hsplit, hsplit, hgap, hhere, hrest]

theorem holds_putAll_suffix (before : List (ℕ × Bytes))
    (hfits : Fits (replicate len (0 : UInt8)).length (before ++ fields))
    (hstart : ∀ field ∈ before, field.1 + field.2.length ≤ p)
    (hbehind : ∀ field ∈ fields, p ≤ field.1) :
    Holds len (putAll (replicate len 0) (before ++ fields)) p fields := by
  induction fields generalizing before p with
  | nil =>
    apply leValue_slice_gap hfits
    intro field hfield
    rw [append_nil] at hfield
    exact .inr (hstart field hfield)
  | cons field fields ih =>
    have hle := hbehind field mem_cons_self
    have hlater := (pairwise_cons.mp (pairwise_append.mp hfits.2).2.1).1
    refine ⟨leValue_slice_gap hfits fun x hx => ?_, ?_, ?_⟩
    · rcases mem_append.mp hx with hx | hx
      · exact .inr (hstart x hx)
      · rcases mem_cons.mp hx with rfl | hx
        · omega
        · have := hlater x hx
          omega
    · rw [slice_putAll hfits (mem_append_right _ mem_cons_self)]
    · rw [append_cons] at hfits ⊢
      refine ih _ hfits (fun x hx => ?_) hlater
      rcases mem_append.mp hx with hx | hx
      · have := hstart x hx
        omega
      · rw [mem_singleton.mp hx]

theorem holds_putAll (hfits : Fits len fields) :
    Holds len (putAll (replicate len 0) fields) 0 fields := by
  rw [← length_replicate (n := len) (a := (0 : UInt8))] at hfits
  exact holds_putAll_suffix [] hfits (fun _ h => absurd h not_mem_nil) fun _ _ => Nat.zero_le _

theorem putAll_zeros_length (hfits : Fits len fields) :
    (putAll (replicate len 0) fields).length = len := by
  rw [putAll_length (by rwa [length_replicate]), length_replicate]

theorem Holds.take_eq (hfits : Fits len fields) (hlen : len ≤ src.length)
    (h : Holds len src 0 fields) : putAll (replicate len 0) fields = src.take len := by
  have hlength := putAll_zeros_length hfits
  have hslice := (holds_putAll hfits).slice_eq hlength.ge hlen hfits (Nat.zero_le _)
    (fun _ _ => Nat.zero_le _) h
  rwa [slice, slice, drop_zero, drop_zero, Nat.sub_zero, take_of_length_le hlength.le] at hslice

theorem Holds.append (h : Holds len a p fields) (hlen : len ≤ a.length) (hp : p ≤ len)
    (hfits : Fits len fields) : Holds len (a ++ b) p fields := by
  induction fields generalizing p with
  | nil =>
    rw [Holds, Gap, slice_append (by omega)]
    exact h
  | cons field fields ih =>
    obtain ⟨hgap, hfield, hrest⟩ := h
    have hle := hfits.1 field mem_cons_self
    refine ⟨?_, ?_, ih hrest hle hfits.tail⟩
    · rw [Gap, slice_append (by omega)]
      exact hgap
    · rw [slice_append (hle.trans hlen)]
      exact hfield

theorem holds_iff_take_eq (hfits : Fits len fields) (hlen : len ≤ src.length) :
    Holds len src 0 fields ↔ putAll (replicate len 0) fields = src.take len := by
  refine ⟨Holds.take_eq hfits hlen, fun h => ?_⟩
  rw [← take_append_drop len src, ← h]
  exact (holds_putAll hfits).append (putAll_zeros_length hfits).ge (Nat.zero_le _) hfits

theorem leValue_slice_lt (src : Bytes) (p width : ℕ) :
    leValue (slice src p width) < 256 ^ width := by
  have hlt (bytes : Bytes) : leValue bytes < 256 ^ bytes.length := by
    induction bytes with
    | nil => simp [leValue]
    | cons b bytes ih =>
      have hb := b.toNat_lt
      rw [leValue, length_cons, pow_succ]
      omega
  exact (hlt _).trans_le (Nat.pow_le_pow_right (by decide) (length_take_le _ _))

theorem leValue_slice_one {v : UInt8} : leValue (slice src p 1) = v.toNat ↔ readU8 src p = v := by
  rw [readU8_eq, ← UInt8.toNat_inj]
  rcases hslice : slice src p 1 with _ | ⟨b, rest⟩
  · rfl
  · have hlen := congrArg length hslice
    rw [slice, length_take, length_cons] at hlen
    have hrest : rest = [] := length_eq_zero_iff.mp (by omega)
    simp [hrest, leValue]

theorem leValue_slice_two : leValue (slice src p 2) = v.toNat ↔ readU16 src p = v := by
  rw [readU16, ← UInt16.toNat_inj, UInt16.toNat_ofNat_of_lt' (leValue_slice_lt ..)]

theorem leValue_slice_four {v : UInt32} :
    leValue (slice src p 4) = v.toNat ↔ readU32 src p = v := by
  rw [readU32, ← UInt32.toNat_inj, UInt32.toNat_ofNat_of_lt' (leValue_slice_lt ..)]

theorem leValue_slice_eight {v : UInt64} :
    leValue (slice src p 8) = v.toNat ↔ readU64 src p = v := by
  rw [readU64, ← UInt64.toNat_inj, UInt64.toNat_ofNat_of_lt' (leValue_slice_lt ..)]

theorem holds_leBytes {width value : ℕ} (h : value < 256 ^ width) :
    Holds len src p ((q, leBytes width value) :: fields) ↔
      Gap src p q ∧ leValue (slice src q width) = value ∧
        Holds len src (q + width) fields := by
  rw [Holds, leBytes_length, leValue_leBytes, Nat.mod_eq_of_lt h]

@[simp] theorem holds_nil : Holds len src p [] ↔ Gap src p len := Iff.rfl

@[simp] theorem holds_putU8 {v : UInt8} : Holds len src p (putU8 q v :: fields) ↔
    Gap src p q ∧ readU8 src q = v ∧ Holds len src (q + 1) fields := by
  rw [← leValue_slice_one]
  rfl

@[simp] theorem holds_putU16 : Holds len src p (putU16 q v :: fields) ↔
    Gap src p q ∧ readU16 src q = v ∧ Holds len src (q + 2) fields := by
  rw [← leValue_slice_two]
  exact holds_leBytes v.toNat_lt

@[simp] theorem holds_putI16 {v : Int16} : Holds len src p (putI16 q v :: fields) ↔
    Gap src p q ∧ readI16 src q = v ∧ Holds len src (q + 2) fields := by
  have hread : readI16 src q = v ↔ readU16 src q = v.toUInt16 :=
    ⟨fun h => h ▸ rfl, fun h => congrArg UInt16.toInt16 h⟩
  rw [hread]
  exact holds_putU16

@[simp] theorem holds_putU32 {v : UInt32} : Holds len src p (putU32 q v :: fields) ↔
    Gap src p q ∧ readU32 src q = v ∧ Holds len src (q + 4) fields := by
  rw [← leValue_slice_four]
  exact holds_leBytes v.toNat_lt

@[simp] theorem holds_putU64 {v : UInt64} : Holds len src p (putU64 q v :: fields) ↔
    Gap src p q ∧ readU64 src q = v ∧ Holds len src (q + 8) fields := by
  rw [← leValue_slice_eight]
  exact holds_leBytes v.toNat_lt

@[simp] theorem gap_self : Gap src p p := by
  simp [Gap, slice, leValue]

@[simp] theorem gap_one : Gap src p (p + 1) ↔ readU8 src p = 0 := by
  rw [← leValue_slice_one, Gap, Nat.add_sub_cancel_left]
  rfl

@[simp] theorem gap_two : Gap src p (p + 2) ↔ readU16 src p = 0 := by
  rw [← leValue_slice_two, Gap, Nat.add_sub_cancel_left]
  rfl

@[simp] theorem gap_four : Gap src p (p + 4) ↔ readU32 src p = 0 := by
  rw [← leValue_slice_four, Gap, Nat.add_sub_cancel_left]
  rfl

@[simp] theorem gap_eight : Gap src p (p + 8) ↔ readU64 src p = 0 := by
  rw [← leValue_slice_eight, Gap, Nat.add_sub_cancel_left]
  rfl

theorem leValue_append (a b : Bytes) :
    leValue (a ++ b) = leValue a + 256 ^ a.length * leValue b := by
  induction a with
  | nil => simp [leValue]
  | cons x a ih =>
    rw [cons_append, leValue, leValue, ih, length_cons, pow_succ', Nat.mul_add,
      ← Nat.mul_assoc, Nat.add_assoc]

theorem gap_split (hpq : p ≤ q) (hqr : q ≤ r) : Gap src p r ↔ Gap src p q ∧ Gap src q r := by
  rw [Gap, slice_split hpq hqr, leValue_append, Nat.add_eq_zero_iff, Nat.mul_eq_zero]
  simp [Gap]

@[simp] theorem gap_three : Gap src p (p + 3) ↔ readU8 src p = 0 ∧ readU16 src (p + 1) = 0 := by
  rw [gap_split (Nat.le_add_right p 1) (by omega), gap_one, ← gap_two]

theorem readU64_eq_zero : readU64 src p = 0 ↔ readU32 src p = 0 ∧ readU32 src (p + 4) = 0 := by
  rw [← gap_eight, gap_split (Nat.le_add_right p 4) (by omega), ← gap_four, ← gap_four]

@[simp] theorem gap_sixteen : Gap src p (p + 16) ↔ readU64 src p = 0 ∧ readU64 src (p + 8) = 0 := by
  rw [gap_split (Nat.le_add_right p 8) (by omega), ← gap_eight, ← gap_eight]

end Nnrp.ByteOrder
