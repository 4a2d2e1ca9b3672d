import Mathlib.Tactic.Basic

/-!
# Fallible computations

A computation in `Except` succeeds exactly when each of its steps does, and fails with the error
of the first step that fails. The lemmas take a `do` block apart from its first step on.
-/

namespace Nnrp.Fallible

universe u v

variable {ε : Type u} {α β : Type v} {e : ε} {p : Prop}

def ensure (p : Prop) [Decidable p] (e : ε) : Except ε Unit := if p then .ok () else .error e

@[simp] theorem ensure_eq_ok [Decidable p] : ensure p e = .ok () ↔ p := by
  simp [ensure]

variable {f : α → Except ε β} {a : α}

@[simp] theorem ok_bind : ((.ok a : Except ε α) >>= f) = f a := rfl

variable {x : Except ε α} {ε' : Type u} {p : Prop} {b : β} {e : ε}

theorem bind_eq_ok : (x >>= f) = .ok b ↔ ∃ a, x = .ok a ∧ f a = .ok b := by
  constructor
  · intro h
    cases x with
    | error e => cases h
    | ok a => exact ⟨a, rfl, h⟩
  · rintro ⟨a, rfl, h⟩
    exact h

theorem bind_unit_eq_ok {γ : Type} {x : Except ε Unit} {f : Unit → Except ε γ} {c : γ} :
    (x >>= f) = .ok c ↔ x = .ok () ∧ f () = .ok c := by
  cases x with
  | ok a => exact (and_iff_right rfl).symm
  | error e => exact iff_of_false nofun fun h => nomatch h.1

@[simp] theorem exists_unit {p : Unit → Prop} : (∃ u, p u) ↔ p () :=
  ⟨fun ⟨(), h⟩ => h, fun h => ⟨(), h⟩⟩

theorem bind_eq_error : (x >>= f) = .error e ↔ x = .error e ∨ ∃ a, x = .ok a ∧ f a = .error e := by
  constructor
  · intro h
    cases x with
    | error e' =>
      cases h
      exact .inl rfl
    | ok a => exact .inr ⟨a, rfl, h⟩
  · rintro (rfl | ⟨a, rfl, h⟩)
    · rfl
    · exact h

theorem mapError_eq_ok {f : ε → ε'} : x.mapError f = .ok a ↔ x = .ok a := by
  cases x with
  | error e => exact iff_of_false nofun nofun
  | ok b =>
    constructor
    all_goals
      intro h
      cases h
      rfl

theorem of_refused_eq_ok [Decidable p] {x y : Except ε α}
    (hx : x = .error e) (h : (if p then x else y) = .ok a) : ¬p ∧ y = .ok a := by
  by_cases hp : p
  · rw [if_pos hp, hx] at h
    cases h
  · rw [if_neg hp] at h
    exact ⟨hp, h⟩

theorem refused_eq_ok_iff [Decidable p] {y : Except ε α} :
    (if p then .error e else y) = .ok a ↔ ¬p ∧ y = .ok a := by
  by_cases hp : p
  all_goals simp [hp]

/-- A `match` on a code: the value of the first entry that has it. -/
def decodeTable {γ : Type*} [BEq γ] (table : List (γ × α)) (e : ε) (c : γ) : Except ε α :=
  match table.lookup c with
  | some a => .ok a
  | none => .error e

theorem decodeTable_eq_ok {γ : Type*} [BEq γ] [LawfulBEq γ] {table : List (γ × α)} {c : γ}
    {code : α → γ} (hcodes : ∀ entry ∈ table, entry.1 = code entry.2)
    (hall : ∀ a, table.lookup (code a) = some a) : decodeTable table e c = .ok a ↔ c = code a := by
  rw [decodeTable]
  constructor
  · intro h
    split at h
    · next b hb =>
      cases h
      obtain ⟨_, _, htable, -⟩ := List.lookup_eq_some_iff.mp hb
      exact hcodes (c, a) (by simp [htable])
    · cases h
  · intro h
    rw [h, hall]

structure Yields (P : α → Prop) (x : Except ε α) : Prop where
  of_ok : ∀ a, x = .ok a → P a

namespace Yields

variable {P : β → Prop}

theorem ok (h : P b) : Yields P (.ok b : Except ε β) := by
  refine ⟨fun a ha => ?_⟩
  cases ha
  exact h

theorem error : Yields P (.error e : Except ε β) := by
  refine ⟨fun a ha => ?_⟩
  cases ha

theorem bind (h : ∀ a, Yields P (f a)) : Yields P (x >>= f) := by
  refine ⟨fun b hb => ?_⟩
  obtain ⟨a, -, ha⟩ := bind_eq_ok.mp hb
  exact (h a).of_ok b ha

theorem ite [Decidable p] {x y : Except ε β} (hx : Yields P x) (hy : Yields P y) :
    Yields P (if p then x else y) := by
  by_cases hp : p
  · rw [if_pos hp]
    exact hx
  · rw [if_neg hp]
    exact hy

end Yields

def FailsWith (P : ε → Prop) (x : Except ε α) : Prop := ∀ e, x = .error e → P e

namespace FailsWith

variable {P : ε → Prop}

theorem ok (a : α) : FailsWith P (.ok a) := nofun

theorem error {e : ε} (h : P e) : FailsWith P (.error e : Except ε α) := by
  rintro _ ⟨⟩
  exact h

theorem bind (hx : FailsWith P x) (hf : ∀ a, FailsWith P (f a)) : FailsWith P (x >>= f) := by
  intro e h
  rcases bind_eq_error.mp h with h | ⟨a, -, h⟩
  · exact hx e h
  · exact hf a e h

theorem ensure [Decidable p] (h : P e) : FailsWith P (ensure p e) := by
  by_cases hp : p
  · simp [Fallible.ensure, hp, FailsWith]
  · simpa [Fallible.ensure, hp, FailsWith] using h

theorem mapError {x : Except ε' α} {f : ε' → ε} (h : ∀ e, P (f e)) :
    FailsWith P (x.mapError f) := by
  cases x with
  | ok a => exact .ok a
  | error e => exact .error (h e)

end FailsWith

end Nnrp.Fallible
