import Mathlib.Data.List.Perm.Basic

/-!
# A stable sort by a comparison

Short slices are sorted by insertion: each element moves left past the elements that are greater
than it, and stays behind those that compare equal. Nothing is assumed about the comparison.
-/

namespace Nnrp.StableSort

open List
variable {α : Type*} {cmp : α → α → Ordering} {a b : α} {l : List α} {l' : List α}

/-- Inserts into a sorted slice that is given from its end. -/
def insertTail (cmp : α → α → Ordering) (a : α) : List α → List α
  | [] => [a]
  | b :: rest => if cmp a b = .lt then b :: insertTail cmp a rest else a :: b :: rest

def sortBy (cmp : α → α → Ordering) (l : List α) : List α :=
  (l.foldl (fun sorted a => insertTail cmp a sorted) []).reverse

theorem insertTail_perm (cmp : α → α → Ordering) (a : α) (l : List α) :
    (insertTail cmp a l).Perm (a :: l) := by
  induction l with
  | nil => exact .refl _
  | cons b rest ih =>
    rw [insertTail]
    split_ifs
    · exact (ih.cons b).trans (.swap a b rest)
    · exact .refl _

theorem sortBy_perm (cmp : α → α → Ordering) (l : List α) : (sortBy cmp l).Perm l := by
  have hfold : ∀ (sorted : List α),
      (l.foldl (fun sorted a => insertTail cmp a sorted) sorted).Perm (sorted ++ l) := by
    induction l with
    | nil => intro sorted; simp
    | cons a l ih =>
      intro sorted
      rw [foldl_cons]
      have hinsert := (insertTail_perm cmp a sorted).append_right l
      exact (ih _).trans (hinsert.trans perm_middle.symm)
  exact (reverse_perm _).trans (hfold [])

@[simp] theorem mem_sortBy : a ∈ sortBy cmp l ↔ a ∈ l := (sortBy_perm cmp l).mem_iff

theorem sortBy_map {β : Type*} (cmp : β → β → Ordering) (f : α → β) (l : List α) :
    (sortBy (fun a b => cmp (f a) (f b)) l).map f = sortBy cmp (l.map f) := by
  have hinsert (a : α) (sorted : List α) :
      (insertTail (fun a b => cmp (f a) (f b)) a sorted).map f =
        insertTail cmp (f a) (sorted.map f) := by
    induction sorted with
    | nil => rfl
    | cons b rest ih =>
      rw [insertTail, map_cons, insertTail]
      split_ifs
      · rw [map_cons, ih]
      · rfl
  have hfold : ∀ sorted : List α,
      (l.foldl (fun sorted a => insertTail (fun a b => cmp (f a) (f b)) a sorted) sorted).map f =
        (l.map f).foldl (fun sorted a => insertTail cmp a sorted) (sorted.map f) := by
    induction l with
    | nil => intro sorted; rfl
    | cons a l ih =>
      intro sorted
      rw [foldl_cons, ih, hinsert, map_cons, foldl_cons]
  rw [sortBy, map_reverse, hfold, sortBy, map_nil]

theorem sublist_insertTail (cmp : α → α → Ordering) (a : α) (l : List α) :
    l.Sublist (insertTail cmp a l) := by
  induction l with
  | nil => exact nil_sublist _
  | cons b rest ih =>
    rw [insertTail]
    split_ifs
    · exact ih.cons_cons b
    · exact sublist_cons_self a _

theorem sortBy_sublist (cmp : α → α → Ordering) (first rest : List α) :
    (sortBy cmp first).Sublist (sortBy cmp (first ++ rest)) := by
  have hfold : ∀ sorted : List α,
      sorted.Sublist (rest.foldl (fun sorted a => insertTail cmp a sorted) sorted) := by
    induction rest with
    | nil => intro sorted; exact .refl _
    | cons a rest ih =>
      intro sorted
      exact (sublist_insertTail cmp a sorted).trans (ih _)
  rw [sortBy, sortBy, foldl_append]
  exact (hfold _).reverse

theorem sublist_sortBy_append {c : α} (hba : cmp b a ≠ .lt) (hcb : cmp c b ≠ .lt) (rest : List α) :
    [a, b, c].Sublist (sortBy cmp ([a, b, c] ++ rest)) := by
  have hsorted : sortBy cmp [a, b, c] = [a, b, c] := by
    simp [sortBy, insertTail, hba, hcb]
  have hsublist := sortBy_sublist cmp [a, b, c] rest
  rw [hsorted] at hsublist
  exact hsublist

structure Orders (cmp : α → α → Ordering) (l : List α) : Prop where
  asymm : ∀ a ∈ l, ∀ b ∈ l, cmp a b = .lt → cmp b a ≠ .lt
  trans : ∀ a ∈ l, ∀ b ∈ l, ∀ c ∈ l, cmp b a ≠ .lt → cmp c b ≠ .lt → cmp c a ≠ .lt

theorem Orders.of_transCmp [Std.TransCmp cmp] (l : List α) : Orders cmp l := by
  have hle {a b : α} : cmp b a ≠ .lt ↔ (cmp a b).isLE = true := by
    have hswap : cmp b a = (cmp a b).swap := Std.OrientedCmp.eq_swap
    rw [hswap, ne_eq, Ordering.swap_eq_lt]
    cases cmp a b <;> decide
  constructor
  · intro a _ b _ h
    rw [hle, h]
    rfl
  · intro a _ b _ c _ hab hbc
    rw [hle] at hab hbc ⊢
    exact Std.TransCmp.isLE_trans hab hbc

theorem Orders.of_subset (h : Orders cmp l) (hsub : l' ⊆ l) : Orders cmp l' where
  asymm a ha b hb := h.asymm a (hsub ha) b (hsub hb)
  trans a ha b hb c hc := h.trans a (hsub ha) b (hsub hb) c (hsub hc)

theorem insertTail_pairwise (h : Orders cmp (a :: l)) (hl : l.Pairwise fun b c => cmp b c ≠ .lt) :
    (insertTail cmp a l).Pairwise fun b c => cmp b c ≠ .lt := by
  induction l with
  | nil => exact pairwise_singleton _ _
  | cons b rest ih =>
    obtain ⟨hb, hrest⟩ := pairwise_cons.mp hl
    rw [insertTail]
    split_ifs with hlt
    · have hsub : a :: rest ⊆ a :: b :: rest := cons_subset_cons a (subset_cons_self b rest)
      refine pairwise_cons.mpr ⟨fun c hc => ?_, ih (h.of_subset hsub) hrest⟩
      rcases mem_cons.mp ((insertTail_perm cmp a rest).mem_iff.mp hc) with rfl | hc
      · exact h.asymm c mem_cons_self b (mem_cons_of_mem _ mem_cons_self) hlt
      · exact hb c hc
    · refine pairwise_cons.mpr ⟨fun c hc => ?_, hl⟩
      rcases mem_cons.mp hc with rfl | hmem
      · exact hlt
      · exact h.trans c (mem_cons_of_mem _ hc) b (mem_cons_of_mem _ mem_cons_self) a
          mem_cons_self (hb c hmem) hlt

theorem sortBy_pairwise (h : Orders cmp l) : (sortBy cmp l).Pairwise fun a b => cmp b a ≠ .lt := by
  have hfold : ∀ sorted : List α, Orders cmp (sorted ++ l) →
      sorted.Pairwise (fun b c => cmp b c ≠ .lt) →
        (l.foldl (fun sorted a => insertTail cmp a sorted) sorted).Pairwise
          fun b c => cmp b c ≠ .lt := by
    induction l with
    | nil => intro sorted _ hsorted; exact hsorted
    | cons a l ih =>
      intro sorted hall hsorted
      rw [foldl_cons]
      have hperm : (insertTail cmp a sorted ++ l).Perm (sorted ++ a :: l) :=
        ((insertTail_perm cmp a sorted).append_right l).trans perm_middle.symm
      refine ih (h.of_subset (subset_cons_self a l)) _ (hall.of_subset hperm.subset)
        (insertTail_pairwise (hall.of_subset ?_) hsorted)
      intro b hb
      rcases mem_cons.mp hb with rfl | hb
      · exact mem_append_right _ mem_cons_self
      · exact mem_append_left _ hb
  exact pairwise_reverse.mpr (hfold [] h List.Pairwise.nil)

theorem sortBy_eq_of_perm (h : Orders cmp l)
    (hdistinct : ∀ a ∈ l, ∀ b ∈ l, cmp a b ≠ .lt → cmp b a ≠ .lt → a = b) (hperm : l'.Perm l) :
    sortBy cmp l' = sortBy cmp l := by
  refine List.Perm.eq_of_pairwise ?_ (sortBy_pairwise (h.of_subset hperm.subset))
    (sortBy_pairwise h)
    ((sortBy_perm cmp l').trans (hperm.trans (sortBy_perm cmp l).symm))
  intro a b ha hb hab hba
  exact hdistinct a (hperm.mem_iff.mp (mem_sortBy.mp ha)) b (mem_sortBy.mp hb) hba hab

end Nnrp.StableSort
