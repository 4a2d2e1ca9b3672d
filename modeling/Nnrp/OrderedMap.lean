import Mathlib.Data.UInt

/-!
# Ordered maps and sets

Ordered maps and sets are the extensional tree maps of the standard library: their keys are
listed in ascending order and equality is equality of lookups. The lemmas below restate lookup
after an update with key equality in place of the comparison.
-/

namespace Nnrp.OrderedMap

open Std.ExtTreeMap
abbrev BTreeMap (κ ν : Type*) [Ord κ] := Std.ExtTreeMap κ ν
abbrev BTreeSet (κ : Type*) [Ord κ] := Std.ExtTreeSet κ

section
variable {κ ν : Type*} [Ord κ] [Std.TransOrd κ] [Std.LawfulEqOrd κ]
variable {m : BTreeMap κ ν} {a k : κ} {v : ν} {u : BTreeSet κ}

theorem get_insert [DecidableEq κ] : (m.insert k v)[a]? = if k = a then some v else m[a]? := by
  simp [getElem?_insert]

theorem get_erase [DecidableEq κ] : (m.erase k)[a]? = if k = a then none else m[a]? := by
  simp [getElem?_erase]

omit [Std.LawfulEqOrd κ] in
theorem mem_iff_get : k ∈ m ↔ ∃ v, m[k]? = some v := by
  rw [← isSome_getElem?_iff_mem, Option.isSome_iff_exists]

omit [Std.LawfulEqOrd κ] in
theorem get_eq_none : m[k]? = none ↔ k ∉ m := by
  rw [← isSome_getElem?_iff_mem, Option.not_isSome_iff_eq_none]

theorem insert_self [DecidableEq κ] (h : m[k]? = some v) : m.insert k v = m := by
  apply ext_getElem?
  intro a
  rw [get_insert]
  split_ifs with ha
  · rw [← ha, h]
  · rfl

theorem insert_insert [DecidableEq κ] {v' : ν} : (m.insert k v).insert k v' = m.insert k v' := by
  apply ext_getElem?
  intro a
  rw [get_insert, get_insert, get_insert]
  split_ifs <;> rfl

theorem mem_map_insert : a ∈ m.insert k v ↔ k = a ∨ a ∈ m := by
  simp [mem_insert]

theorem mem_set_insert : a ∈ u.insert k ↔ k = a ∨ a ∈ u := by
  simp [Std.ExtTreeSet.mem_insert]

theorem mem_set_erase : a ∈ u.erase k ↔ k ≠ a ∧ a ∈ u := by
  simp [Std.ExtTreeSet.mem_erase]

end

section
variable {κ ν : Type*} [Ord κ] [Std.TransOrd κ] [Std.LawfulEqOrd κ] {m : BTreeMap κ ν}

def values (m : BTreeMap κ ν) : List ν := m.toList.map Prod.snd

theorem mem_values {v : ν} : v ∈ values m ↔ ∃ k : κ, m[k]? = some v := by
  simp only [values, List.mem_map, Prod.exists]
  constructor
  · rintro ⟨k, v', h, rfl⟩
    exact ⟨k, mem_toList_iff_getElem?_eq_some.mp h⟩
  · rintro ⟨k, h⟩
    exact ⟨k, v, mem_toList_iff_getElem?_eq_some.mpr h, rfl⟩

theorem nodup_values
    (inj : ∀ (a b : κ) (v : ν), m[a]? = some v → m[b]? = some v → a = b) : (values m).Nodup := by
  rw [values, List.Nodup, List.pairwise_map]
  have h := m.distinct_keys_toList
  refine List.Pairwise.imp_of_mem ?_ h
  intro p q hp hq hne heq
  have hp' := mem_toList_iff_getElem?_eq_some.mp hp
  have hq' := mem_toList_iff_getElem?_eq_some.mp hq
  rw [heq] at hp'
  exact hne (Std.LawfulEqOrd.compare_eq_iff_eq.mpr (inj _ _ _ hp' hq'))

end

section
variable {κ ν : Type*} [DecidableEq κ] [DecidableEq ν] {f : κ → Option ν} {g : ν → Option κ}
  {k : κ} {v : ν}

theorem inverse_update (h : ∀ k v, f k = some v ↔ g v = some k) (hk : f k = none)
    (hv : g v = none) (a : κ) (b : ν) :
    (if k = a then some v else f a) = some b ↔ (if v = b then some k else g b) = some a := by
  split_ifs with ha hb hb
  · simp [ha, hb]
  · simp [hb, ← h, ← ha, hk]
  · simp [ha, h, ← hb, hv]
  · exact h a b

theorem inverse_remove (h : ∀ k v, f k = some v ↔ g v = some k) (hkv : f k = some v)
    (a : κ) (b : ν) :
    (if k = a then none else f a) = some b ↔ (if v = b then none else g b) = some a := by
  split_ifs with ha hb hb
  · simp
  · simp [← h, ← ha, hkv, hb]
  · simp [h, ← hb, (h k v).mp hkv, ha]
  · exact h a b

end

variable {κ ν : Type*} [Ord κ] [Std.TransOrd κ] [Std.LawfulEqOrd κ]
  [Ord ν] [Std.TransOrd ν] [Std.LawfulEqOrd ν]

def Inverse (m : BTreeMap κ ν) (n : BTreeMap ν κ) : Prop :=
  ∀ (k : κ) (v : ν), m[k]? = some v ↔ n[v]? = some k

variable {m : BTreeMap κ ν} {n : BTreeMap ν κ} {k : κ} {v : ν}

omit [Std.LawfulEqOrd κ] [Std.LawfulEqOrd ν] in
theorem inverse_empty : Inverse (∅ : BTreeMap κ ν) ∅ := by
  intro k v
  simp

variable [DecidableEq κ] [DecidableEq ν]

theorem Inverse.insert (h : Inverse m n) (hk : m[k]? = none) (hv : n[v]? = none) :
    Inverse (m.insert k v) (n.insert v k) := by
  intro a b
  rw [get_insert, get_insert]
  exact inverse_update h hk hv a b

theorem Inverse.erase (h : Inverse m n) (hkv : m[k]? = some v) :
    Inverse (m.erase k) (n.erase v) := by
  intro a b
  rw [get_erase, get_erase]
  exact inverse_remove h hkv a b

end Nnrp.OrderedMap
