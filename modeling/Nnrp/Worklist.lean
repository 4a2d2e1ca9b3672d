import Nnrp.OrderedMap

/-!
# Closure under a finite relation by a worklist

The relation is a list of edges. A worklist of nodes is emptied from its top: a node that was seen
before is skipped, any other is collected and its successors are pushed. What is collected from one
node are the nodes that are reachable from it.
-/

namespace Nnrp.Worklist
open OrderedMap List

section
variable {κ : Type*} [DecidableEq κ]

def successors (edges : List (κ × κ)) (a : κ) : List κ :=
  (edges.filter fun edge => edge.1 = a).map Prod.snd

theorem mem_successors {edges : List (κ × κ)} {a b : κ} :
    b ∈ successors edges a ↔ (a, b) ∈ edges := by
  simp [successors]

theorem countP_start (edges : List (κ × κ)) {p q : κ → Prop} [DecidablePred p] [DecidablePred q]
    {a : κ} (ha : p a) (hq : ∀ b, q b ↔ b ≠ a ∧ p b) :
    (successors edges a).length + edges.countP (fun edge => decide (q edge.1)) =
      edges.countP fun edge => decide (p edge.1) := by
  induction edges with
  | nil => rfl
  | cons edge edges ih =>
    rw [successors, length_map] at ih ⊢
    by_cases hstart : edge.1 = a
    · have hnot : ¬q a := fun h => ((hq a).mp h).1 rfl
      simp only [filter_cons, hstart, decide_true, if_true, length_cons,
        countP_cons, hnot, ha, decide_false]
      simp only [Bool.false_eq_true, if_false]
      omega
    · have hsame : q edge.1 ↔ p edge.1 := by
        rw [hq]
        exact and_iff_right hstart
      by_cases hp : p edge.1
      · simp only [filter_cons, hstart, decide_false, countP_cons, hsame.mpr hp, hp,
          decide_true, if_true]
        simp only [Bool.false_eq_true, if_false]
        omega
      · simp only [filter_cons, hstart, decide_false, countP_cons, mt hsame.mp hp, hp]
        simp only [Bool.false_eq_true, if_false]
        omega

end

variable {κ : Type*} [Ord κ] [Std.TransOrd κ] [DecidableEq κ]

def collect [Std.LawfulEqOrd κ] (edges : List (κ × κ)) (collected : BTreeSet κ)
    (worklist : List κ) : BTreeSet κ :=
  match worklist with
  | [] => collected
  | a :: worklist =>
    if a ∈ collected then collect edges collected worklist
    else collect edges (collected.insert a) ((successors edges a).reverse ++ worklist)
termination_by worklist.length + edges.countP fun edge => decide (edge.1 ∉ collected)
decreasing_by
  · simp only [length_cons]
    omega
  · -- the edges that leave the collected node are no longer counted
    rename_i ha
    have hcount := countP_start edges (p := fun b => b ∉ collected)
      (q := fun b => b ∉ collected.insert a) ha (fun b => by
        rw [mem_set_insert, not_or]
        exact and_congr_left' ne_comm)
    simp only [length_append, length_reverse, length_cons]
    omega

variable [Std.LawfulEqOrd κ] {edges : List (κ × κ)} {collected : BTreeSet κ} {worklist : List κ}
  {a b root : κ}

theorem mem_collect_of_mem (h : a ∈ collected ∨ a ∈ worklist) :
    a ∈ collect edges collected worklist := by
  fun_induction collect edges collected worklist with
  | case1 collected => simpa using h
  | case2 collected b worklist hb ih =>
    apply ih
    rcases h with h | h
    · exact .inl h
    · rcases mem_cons.mp h with rfl | h
      · exact .inl hb
      · exact .inr h
  | case3 collected b worklist hb ih =>
    apply ih
    rcases h with h | h
    · exact .inl (mem_set_insert.mpr (.inr h))
    · rcases mem_cons.mp h with rfl | h
      · exact .inl (mem_set_insert.mpr (.inl rfl))
      · exact .inr (mem_append_right _ h)

theorem collect_closed (ha : a ∈ collect edges collected worklist) (hab : (a, b) ∈ edges)
    (hnew : a ∉ collected) : b ∈ collect edges collected worklist := by
  fun_induction collect edges collected worklist with
  | case1 collected => exact absurd ha hnew
  | case2 collected c worklist hc ih => exact ih ha hnew
  | case3 collected c worklist hc ih =>
    by_cases hac : c = a
    · subst hac
      apply mem_collect_of_mem
      exact .inr (mem_append_left _ (mem_reverse.mpr (mem_successors.mpr hab)))
    · apply ih ha
      rw [mem_set_insert, not_or]
      exact ⟨hac, hnew⟩

theorem reachable_of_mem_collect (ha : a ∈ collect edges collected worklist) :
    a ∈ collected ∨ ∃ b ∈ worklist, Relation.ReflTransGen (fun p c => (p, c) ∈ edges) b a := by
  fun_induction collect edges collected worklist with
  | case1 collected => exact .inl ha
  | case2 collected b worklist hb ih =>
    rcases ih ha with h | ⟨c, hc, h⟩
    · exact .inl h
    · exact .inr ⟨c, mem_cons_of_mem _ hc, h⟩
  | case3 collected b worklist hb ih =>
    rcases ih ha with h | ⟨c, hc, h⟩
    · rcases mem_set_insert.mp h with rfl | h
      · exact .inr ⟨_, mem_cons_self, .refl⟩
      · exact .inl h
    · rcases mem_append.mp hc with hc | hc
      · have hedge := mem_successors.mp (mem_reverse.mp hc)
        exact .inr ⟨b, mem_cons_self, .head hedge h⟩
      · exact .inr ⟨c, mem_cons_of_mem _ hc, h⟩

theorem mem_collect : a ∈ collect edges ∅ [root] ↔
    Relation.ReflTransGen (fun p c => (p, c) ∈ edges) root a := by
  constructor
  · intro ha
    rcases reachable_of_mem_collect ha with h | ⟨b, hb, h⟩
    · exact absurd h (by simp)
    · rw [mem_singleton.mp hb] at h
      exact h
  · intro h
    induction h with
    | refl => exact mem_collect_of_mem (.inr (mem_singleton.mpr rfl))
    | tail _ hedge ih => exact collect_closed ih hedge (by simp)

end Nnrp.Worklist
