import Mathlib.Data.List.Basic

/-!
# Items written to a stream

Items are encoded and written one after the other, each of them piece by piece. A stream is
whole if it consists of encoded items and at most one unfinished item at its end.
-/

namespace Nnrp.StreamWriter

open List
variable {α β : Type*} {encode : α → List β} {stream rest : List β} {items : List α} {item : α}

def Whole (encode : α → List β) (items : List α) (stream : List β) : Prop :=
  ∃ part, stream = items.flatMap encode ++ part ∧ (part = [] ∨ ∃ last, part <+: encode last)

def Unfinished (encode : α → List β) (stream : List β) (items : List α) (item : α)
    (rest : List β) : Prop :=
  ∃ part, encode item = part ++ rest ∧ stream = items.flatMap encode ++ part

theorem whole_of_items (h : stream = items.flatMap encode) : Whole encode items stream :=
  ⟨[], by rw [h, append_nil], .inl rfl⟩

namespace Unfinished

theorem start (h : stream = items.flatMap encode) (item : α) :
    Unfinished encode stream items item (encode item) :=
  ⟨[], rfl, by rw [h, append_nil]⟩

theorem progress (h : Unfinished encode stream items item rest) (n : ℕ) :
    Unfinished encode (stream ++ rest.take n) items item (rest.drop n) := by
  obtain ⟨part, hitem, hstream⟩ := h
  refine ⟨part ++ rest.take n, ?_, ?_⟩
  · rw [append_assoc, take_append_drop]
    exact hitem
  · rw [hstream, append_assoc]

theorem finish (h : Unfinished encode stream items item []) :
    stream = (items ++ [item]).flatMap encode := by
  obtain ⟨part, hitem, hstream⟩ := h
  rw [append_nil] at hitem
  rw [hstream, flatMap_append, flatMap_singleton, hitem]

theorem whole (h : Unfinished encode stream items item rest) : Whole encode items stream := by
  obtain ⟨part, hitem, hstream⟩ := h
  exact ⟨part, hstream, .inr ⟨item, rest, hitem.symm⟩⟩

end Unfinished

theorem Whole.starts {header : List β} (h : Whole encode items stream)
    (hhdr : ∀ a, encode a = [] ∨ header <+: encode a) : stream <+: header ∨ header <+: stream := by
  obtain ⟨part, rfl, hpart⟩ := h
  induction items with
  | nil =>
    rcases hpart with rfl | ⟨last, hlast⟩
    · exact .inl nil_prefix
    · rcases hhdr last with hnil | hstarts
      · rw [hnil, prefix_nil] at hlast
        subst hlast
        exact .inl nil_prefix
      · exact prefix_or_prefix_of_prefix hlast hstarts
  | cons a items ih =>
    rw [flatMap_cons, append_assoc]
    rcases hhdr a with hnil | hstarts
    · rw [hnil, nil_append]
      exact ih
    · exact .inr (hstarts.trans (prefix_append _ _))

end Nnrp.StreamWriter
