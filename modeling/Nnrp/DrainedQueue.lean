import Mathlib.Data.List.Basic

/-!
# A queue that is drained to an output

Elements wait in `queued` and go one by one to the end of `written`. The drain may die: it then
writes nothing more, and what was queued may be lost. `Flow` is what one step can do to the two
lists apart from new elements at the end of the queue.
-/

namespace Nnrp.DrainedQueue

open List
variable {α : Type*}

inductive Flow (alive alive' : Prop) (queued queued' written written' : List α) : Prop
  | wrote {a : α} (halive : alive) (hq : queued = a :: queued') (hw : written' = written ++ [a])
  | wroteLast {a : α} {rest : List α} (halive : alive) (hdead : ¬alive') (hq : queued = a :: rest)
      (hw : written' = written ++ [a])
  | ended (hdead : ¬alive') (hw : written' = written)
  | kept (hq : queued' = queued) (hw : written' = written)

namespace Flow

variable {alive alive' : Prop} {queued queued' written written' : List α}
  (h : Flow alive alive' queued queued' written written')
include h

theorem written_extends : written <+: written' := by
  cases h with
  | wrote halive hq hw | wroteLast halive hdead hq hw => exact hw ▸ prefix_append _ _
  | ended hdead hw | kept hq hw => exact hw ▸ prefix_rfl

theorem append_eq (halive' : alive') : written' ++ queued' = written ++ queued := by
  cases h with
  | wrote halive hq hw => rw [hw, hq, append_assoc, singleton_append]
  | wroteLast halive hdead hq hw | ended hdead hw => exact absurd halive' hdead
  | kept hq hw => rw [hq, hw]

theorem written_cases : written' = written ∨ alive ∧ written' <+: written ++ queued := by
  cases h with
  | @wrote a halive hq hw =>
    exact .inr ⟨halive, queued', by rw [hw, hq, append_assoc, singleton_append]⟩
  | @wroteLast a rest halive hdead hq hw =>
    exact .inr ⟨halive, rest, by rw [hw, hq, append_assoc, singleton_append]⟩
  | ended hdead hw | kept hq hw => exact .inl hw

end Flow

end Nnrp.DrainedQueue
