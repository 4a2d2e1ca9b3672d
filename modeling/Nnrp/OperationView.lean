import Mathlib.Tactic.Common

/-!
# One operation between its client and its server

The two ends of an operation and the messages about it that travel between them, in order. Each
end has its own idea of whether the operation is over. A client that has marked the operation
still waits for its result; a server that has ended it may still send that it is dropped.
-/

namespace Nnrp.OperationView
open List

inductive Up
  | submit | cancelFrame | control
  deriving DecidableEq

inductive Down
  | output | push | drop
  deriving DecidableEq

inductive ClientPhase
  | absent | open | marked
  deriving DecidableEq

inductive ServerPhase
  | unknown | live | ended
  deriving DecidableEq

structure View where
  client : ClientPhase
  server : ServerPhase
  toServer : List Up
  toClient : List Down
  deriving DecidableEq

/-- What the ends may do. A message that its receiver refuses is not read here. -/
inductive Step : View → View → Prop
  | submit : Step ⟨.absent, .unknown, [], []⟩ ⟨.open, .unknown, [.submit], []⟩
  | request {c c' s up down m} (hc : c ≠ .absent) (hc' : c' ≠ .absent) (hm : m ≠ .submit) :
      Step ⟨c, s, up, down⟩ ⟨c', s, up ++ [m], down⟩
  | output {c up down} : Step ⟨c, .live, up, down⟩ ⟨c, .live, up, down ++ [.output]⟩
  | push {c up down} : Step ⟨c, .live, up, down⟩ ⟨c, .ended, up, down ++ [.push]⟩
  | drop {c s up down} (hs : s ≠ .unknown) :
      Step ⟨c, s, up, down⟩ ⟨c, .ended, up, down ++ [.drop]⟩
  | accept {c up down} : Step ⟨c, .unknown, .submit :: up, down⟩ ⟨c, .live, up, down⟩
  | finish {c s up down m} (hm : m ≠ .submit) : Step ⟨c, s, m :: up, down⟩ ⟨c, .ended, up, down⟩
  | readOutput {c s up down} : Step ⟨c, s, up, .output :: down⟩ ⟨c, s, up, down⟩
  | readEnd {c s up down m} (hm : m ≠ .output) :
      Step ⟨c, s, up, m :: down⟩ ⟨.absent, s, up, down⟩

def Closing (earlier later : Down) : Prop := earlier ≠ .output → later = .drop

/-- The four stages of an operation. -/
inductive Ordered : View → Prop
  | idle : Ordered ⟨.absent, .unknown, [], []⟩
  | travelling {c up} (hc : c ≠ .absent) (hup : .submit ∉ up) :
      Ordered ⟨c, .unknown, .submit :: up, []⟩
  | live {c up down} (hc : c ≠ .absent) (hup : .submit ∉ up) (hdown : ∀ m ∈ down, m = .output) :
      Ordered ⟨c, .live, up, down⟩
  | ended {c up down} (hup : .submit ∉ up) (horder : down.Pairwise Closing)
      (habsent : c = .absent → ∀ m ∈ down, m = .drop) : Ordered ⟨c, .ended, up, down⟩

section
variable {v v' : View} {c : ClientPhase} {s : ServerPhase} {up : List Up} {down : List Down}
  {m : Up}

theorem not_mem_snoc (hm : m ≠ .submit) (h : .submit ∉ up) : .submit ∉ up ++ [m] := by
  rw [mem_append, not_or]
  refine ⟨h, ?_⟩
  rw [mem_singleton]
  exact Ne.symm hm

theorem closing_of_output {later : List Down} (h : ∀ m ∈ down, m = .output)
    (hlater : later.Pairwise Closing) : (down ++ later).Pairwise Closing := by
  have hvacuous : ∀ a ∈ down, ∀ b, Closing a b := fun a ha b hne => absurd (h a ha) hne
  refine pairwise_append.mpr ⟨?_, hlater, fun a ha b _ => hvacuous a ha b⟩
  exact List.Pairwise.imp_of_mem (fun ha _ _ => hvacuous _ ha _)
    (pairwise_of_forall (R := fun _ _ => True) fun _ _ => trivial)

theorem closing_snoc_drop (h : down.Pairwise Closing) : (down ++ [Down.drop]).Pairwise Closing := by
  refine pairwise_append.mpr ⟨h, pairwise_singleton _ _, ?_⟩
  intro a _ b hb _
  exact mem_singleton.mp hb

theorem Step.ordered (hs : Step v v') (h : Ordered v) : Ordered v' := by
  cases hs with
  | submit => exact .travelling (by decide) not_mem_nil
  | request hc hc' hm =>
    cases h with
    | idle => exact absurd rfl hc
    | travelling _ hup => exact .travelling hc' (not_mem_snoc hm hup)
    | live _ hup hdown => exact .live hc' (not_mem_snoc hm hup) hdown
    | ended hup horder _ => exact .ended (not_mem_snoc hm hup) horder fun habs => absurd habs hc'
  | output =>
    cases h with
    | live hc hup hdown =>
      refine .live hc hup fun m hm => ?_
      rcases mem_append.mp hm with hm | hm
      · exact hdown m hm
      · exact mem_singleton.mp hm
  | push =>
    cases h with
    | live hc hup hdown =>
      exact .ended hup (closing_of_output hdown (pairwise_singleton _ _)) fun habs => absurd habs hc
  | drop hs =>
    cases h with
    | idle | travelling => exact absurd rfl hs
    | live hc hup hdown =>
      exact .ended hup (closing_of_output hdown (pairwise_singleton _ _)) fun habs => absurd habs hc
    | ended hup horder habsent =>
      refine .ended hup (closing_snoc_drop horder) fun habs m hm => ?_
      rcases mem_append.mp hm with hm | hm
      · exact habsent habs m hm
      · exact mem_singleton.mp hm
  | accept =>
    cases h with
    | travelling hc hup => exact .live hc hup fun m hm => absurd hm not_mem_nil
  | finish hm =>
    cases h with
    | travelling => exact absurd rfl hm
    | live hc hup hdown =>
      rw [mem_cons, not_or] at hup
      have horder := closing_of_output hdown List.Pairwise.nil
      rw [append_nil] at horder
      exact .ended hup.2 horder fun habs => absurd habs hc
    | ended hup horder habsent =>
      rw [mem_cons, not_or] at hup
      exact .ended hup.2 horder habsent
  | readOutput =>
    cases h with
    | live hc hup hdown => exact .live hc hup fun m hm => hdown m (mem_cons_of_mem _ hm)
    | ended hup horder habsent =>
      exact .ended hup (pairwise_cons.mp horder).2
        fun habs m hm => habsent habs m (mem_cons_of_mem _ hm)
  | readEnd hm =>
    cases h with
    | live hc hup hdown => exact absurd (hdown _ mem_cons_self) hm
    | ended hup horder habsent =>
      obtain ⟨hfirst, hrest⟩ := pairwise_cons.mp horder
      exact .ended hup hrest fun _ b hb => hfirst b hb hm

theorem Ordered.submit_first (h : Ordered ⟨c, s, .submit :: up, down⟩) : s = .unknown := by
  cases h with
  | travelling => rfl
  | live _ hup | ended hup => exact absurd mem_cons_self hup

theorem Ordered.known (h : Ordered ⟨c, s, m :: up, down⟩) (hm : m ≠ .submit) : s ≠ .unknown := by
  cases h with
  | travelling => exact absurd rfl hm
  | live | ended => decide

theorem Ordered.held {m : Down} (h : Ordered ⟨c, s, up, m :: down⟩) (hm : m ≠ .drop) :
    c ≠ .absent := by
  cases h with
  | live hc => exact hc
  | ended _ _ habsent => exact fun habs => hm (habsent habs m mem_cons_self)

theorem Ordered.idle_of_nothing (h : Ordered ⟨c, .unknown, [], down⟩) :
    c = .absent ∧ down = [] := by
  cases h with
  | idle => exact ⟨rfl, rfl⟩

end

variable {P K M : Type} [DecidableEq K] {key : P → K} {message : P → Option M} {k : K} {p : P}
  {channel : List P} {m : M}

def lane (key : P → K) (message : P → Option M) (k : K) (channel : List P) : List M :=
  (channel.filter fun p => key p = k).filterMap message

theorem lane_cons (hm : message p = some m) :
    lane key message (key p) (p :: channel) = m :: lane key message (key p) channel := by
  simp [lane, hm]

theorem lane_cons_ne (hk : key p ≠ k) :
    lane key message k (p :: channel) = lane key message k channel := by
  simp [lane, hk]

theorem lane_snoc (hm : message p = some m) :
    lane key message (key p) (channel ++ [p]) = lane key message (key p) channel ++ [m] := by
  simp [lane, hm]

theorem lane_snoc_ne (hk : key p ≠ k) :
    lane key message k (channel ++ [p]) = lane key message k channel := by
  simp [lane, hk]

theorem lane_eq_nil (h : ∀ p ∈ channel, key p ≠ k) : lane key message k channel = [] := by
  have hfilter : (channel.filter fun p => key p = k) = [] := by
    rw [filter_eq_nil_iff]
    intro p hp hk
    exact h p hp (of_decide_eq_true hk)
  rw [lane, hfilter, filterMap_nil]

end Nnrp.OperationView
