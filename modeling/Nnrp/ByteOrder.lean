import Mathlib.Data.UInt

/-!
# Little-endian fields in byte strings

A fixed-width field of a byte string is read and written at an offset, the least significant
byte first. Widths are counted in bytes; nothing here knows which messages use the fields. A
record is written field by field (`putAll`), and what was written under an offset is read back
if the fields do not overlap (`Fits`).
-/

namespace Nnrp.ByteOrder

open List
abbrev Bytes := List UInt8

def leBytes : (width value : ℕ) → Bytes
  | 0, _ => []
  | width + 1, value => UInt8.ofNat value :: leBytes width (value / 256)

def leValue : Bytes → ℕ
  | [] => 0
  | b :: bs => b.toNat + 256 * leValue bs

def slice (source : Bytes) (offset width : ℕ) : Bytes := (source.drop offset).take width

/-- Overwrites the bytes from `offset` on, as a copy into a subslice does. -/
def putAt (destination : Bytes) (offset : ℕ) (field : Bytes) : Bytes :=
  destination.take offset ++ field ++ destination.drop (offset + field.length)

variable (source : Bytes) (offset : ℕ)

def readU8 : UInt8 := source.getD offset 0
def readU16 : UInt16 := UInt16.ofNat (leValue (slice source offset 2))
def readU32 : UInt32 := UInt32.ofNat (leValue (slice source offset 4))
def readU64 : UInt64 := UInt64.ofNat (leValue (slice source offset 8))

def readI16 : Int16 := (readU16 source offset).toInt16

variable (destination : Bytes) (offset : ℕ)

def writeU8 (value : UInt8) : Bytes :=
  putAt destination offset [value]
def writeU16 (value : UInt16) : Bytes :=
  putAt destination offset (leBytes 2 value.toNat)
def writeU32 (value : UInt32) : Bytes :=
  putAt destination offset (leBytes 4 value.toNat)
def writeU64 (value : UInt64) : Bytes :=
  putAt destination offset (leBytes 8 value.toNat)

variable {field d : Bytes} {offset i width : ℕ} {fields : List (ℕ × Bytes)}

@[simp] theorem leBytes_length (width value : ℕ) : (leBytes width value).length = width := by
  induction width generalizing value with
  | zero => rfl
  | succ width ih => simp [leBytes, ih]

theorem putAt_length {destination : Bytes} (h : offset + field.length ≤ destination.length) :
    (putAt destination offset field).length = destination.length := by
  simp only [putAt, length_append, length_take, length_drop]
  omega

theorem leValue_leBytes (width value : ℕ) :
    leValue (leBytes width value) = value % 256 ^ width := by
  induction width generalizing value with
  | zero => simp [leBytes, leValue, Nat.mod_one]
  | succ width ih =>
    rw [leBytes, leValue, ih, pow_succ', Nat.mod_mul]
    rfl

theorem slice_putAt_self (h : offset + field.length ≤ d.length) :
    slice (putAt d offset field) offset field.length = field := by
  have htake : (d.take offset).length = offset := by
    rw [length_take]
    omega
  rw [slice, putAt, append_assoc, drop_append_of_le_length htake.ge,
    drop_of_length_le htake.le, nil_append, take_append_of_le_length le_rfl,
    take_length]

theorem slice_putAt_of_disjoint (h : offset + field.length ≤ d.length)
    (hdisjoint : i + width ≤ offset ∨ offset + field.length ≤ i) :
    slice (putAt d offset field) i width = slice d i width := by
  apply ext_getElem?
  intro j
  simp only [slice, putAt, getElem?_take, getElem?_drop]
  split_ifs with hj
  · simp only [append_assoc, getElem?_append, length_take, getElem?_take, getElem?_drop]
    have hmin : min offset d.length = offset := by omega
    rw [hmin]
    split_ifs with h1 h2
    · rfl
    · exfalso
      omega
    · congr 1
      omega
  · rfl

theorem slice_append {a b : Bytes} (h : i + width ≤ a.length) :
    slice (a ++ b) i width = slice a i width := by
  rw [slice, slice, drop_append_of_le_length (by omega), take_append_of_le_length]
  rw [length_drop]
  omega

def putAll (d : Bytes) (fields : List (ℕ × Bytes)) : Bytes :=
  fields.foldl (fun d field => putAt d field.1 field.2) d

def Fits (len : ℕ) (fields : List (ℕ × Bytes)) : Prop :=
  (∀ field ∈ fields, field.1 + field.2.length ≤ len) ∧
    fields.Pairwise fun x y => x.1 + x.2.length ≤ y.1

theorem putAll_length (h : Fits d.length fields) : (putAll d fields).length = d.length := by
  induction fields generalizing d with
  | nil => rfl
  | cons field fields ih =>
    have hlen := putAt_length (h.1 field mem_cons_self)
    rw [putAll, foldl_cons, ← putAll, ih, hlen]
    rw [hlen]
    exact ⟨fun x hx => h.1 x (mem_cons_of_mem _ hx), (pairwise_cons.mp h.2).2⟩

theorem Fits.init {len : ℕ} {last : ℕ × Bytes} (h : Fits len (fields ++ [last])) :
    Fits len fields ∧ last.1 + last.2.length ≤ len :=
  ⟨⟨fun x hx => h.1 x (mem_append_left _ hx), (pairwise_append.mp h.2).1⟩,
    h.1 last (mem_append_right _ (mem_singleton_self _))⟩

theorem putAll_append_singleton (d : Bytes) (fields : List (ℕ × Bytes)) (last : ℕ × Bytes) :
    putAll d (fields ++ [last]) = putAt (putAll d fields) last.1 last.2 := by
  rw [putAll, foldl_append]
  rfl

theorem slice_putAll (h : Fits d.length fields) (hmem : (offset, field) ∈ fields) :
    slice (putAll d fields) offset field.length = field := by
  -- the last field that is written lies behind all earlier ones
  induction fields using reverseRecOn with
  | nil => cases hmem
  | append_singleton fields last ih =>
    obtain ⟨hinit, hlast⟩ := h.init
    rw [← putAll_length hinit] at hlast
    rw [putAll_append_singleton]
    rcases mem_append.mp hmem with hmem | hmem
    · have hbefore := (pairwise_append.mp h.2).2.2 _ hmem last (mem_singleton_self _)
      exact (slice_putAt_of_disjoint hlast (.inl hbefore)).trans (ih hinit hmem)
    · rw [mem_singleton] at hmem
      subst hmem
      exact slice_putAt_self hlast

theorem slice_putAll_of_disjoint (h : Fits d.length fields)
    (hdisjoint : ∀ field ∈ fields, i + width ≤ field.1 ∨ field.1 + field.2.length ≤ i) :
    slice (putAll d fields) i width = slice d i width := by
  induction fields using reverseRecOn with
  | nil => rfl
  | append_singleton fields last ih =>
    obtain ⟨hinit, hlast⟩ := h.init
    rw [← putAll_length hinit] at hlast
    rw [putAll_append_singleton]
    have hskip := slice_putAt_of_disjoint hlast
      (hdisjoint last (mem_append_right _ (mem_singleton_self _)))
    exact hskip.trans (ih hinit fun field hf => hdisjoint field (mem_append_left _ hf))

variable {fields : List (ℕ × Bytes)}

theorem readU8_eq (source : Bytes) (offset : ℕ) :
    readU8 source offset = ((slice source offset 1).head?.getD 0) := by
  rw [readU8, slice, head?_take, head?_drop]
  simp [getD_eq_getElem?_getD]

theorem leValue_replicate_zero (n : ℕ) : leValue (replicate n 0) = 0 := by
  induction n with
  | zero => rfl
  | succ n ih => simp [replicate_succ, leValue, ih]

theorem putAt_replicate_zero (n : ℕ) : putAt (replicate n 0) 0 (replicate n 0) = replicate n 0 := by
  simp [putAt]

variable {len : ℕ}

theorem leValue_slice_gap (h : Fits (replicate len (0 : UInt8)).length fields)
    (hgap : ∀ field ∈ fields, offset + width ≤ field.1 ∨ field.1 + field.2.length ≤ offset) :
    leValue (slice (putAll (replicate len 0) fields) offset width) = 0 := by
  rw [slice_putAll_of_disjoint h hgap, slice, drop_replicate, take_replicate]
  exact leValue_replicate_zero _

end Nnrp.ByteOrder
