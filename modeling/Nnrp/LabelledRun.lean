import Mathlib.Data.List.Basic

/-!
# Runs of a labelled step function

A system is a partial step function `step : σ → ε → Option σ`. The label resolves every
choice of the environment and of the scheduler, so a run is a list of labels and one
interleaving of the parties is one list. A label that is not enabled has no successor.

`Along step P s es` says that the condition `P` holds before each step of the run, and
`run_invariant` carries an invariant over a run whose steps all meet their condition.
-/

namespace Nnrp.LabelledRun

variable {σ ε : Type*}

def run (step : σ → ε → Option σ) : σ → List ε → Option σ
  | s, [] => some s
  | s, e :: es => (step s e).bind fun s' => run step s' es

def Along (step : σ → ε → Option σ) (P : σ → ε → Prop) : σ → List ε → Prop
  | _, [] => True
  | s, e :: es => P s e ∧ ∀ s', step s e = some s' → Along step P s' es

variable {step : σ → ε → Option σ} {P Q : σ → ε → Prop} {s s' t : σ} {e : ε} {es fs : List ε}

@[simp] theorem run_nil : run step s [] = some s := rfl

theorem run_cons_eq_some :
    run step s (e :: es) = some t ↔ ∃ s', step s e = some s' ∧ run step s' es = some t := by
  simp [run, Option.bind_eq_some_iff]

theorem run_append : run step s (es ++ fs) = (run step s es).bind fun s' => run step s' fs := by
  induction es generalizing s with
  | nil => simp [run]
  | cons e es ih =>
    cases h : step s e with
    | none => simp [run, h]
    | some s' => simp [run, h, ih]

theorem run_append_eq_some :
    run step s (es ++ fs) = some t ↔ ∃ s', run step s es = some s' ∧ run step s' fs = some t := by
  simp [run_append, Option.bind_eq_some_iff]

theorem Along.head (h : Along step P s (e :: es)) : P s e := h.1

theorem Along.tail (h : Along step P s (e :: es)) (hs : step s e = some s') :
    Along step P s' es := h.2 s' hs

instance instDecidableAlong [∀ s e, Decidable (P s e)] :
    ∀ (s : σ) (es : List ε), Decidable (Along step P s es)
  | _, [] => .isTrue trivial
  | s, e :: es =>
    match h : step s e with
    | none => decidable_of_iff (P s e)
        ⟨fun hP => ⟨hP, fun s' hs => by rw [h] at hs; cases hs⟩, fun hP => hP.1⟩
    | some s' =>
      have := instDecidableAlong s' es
      decidable_of_iff (P s e ∧ Along step P s' es)
        ⟨fun hP => ⟨hP.1, fun t ht => by rw [h] at ht; cases ht; exact hP.2⟩,
          fun hP => ⟨hP.1, hP.2 s' h⟩⟩

theorem Along.imp (I : σ → Prop) (keep : ∀ s e s', I s → P s e → step s e = some s' → I s')
    (himp : ∀ s e, I s → P s e → Q s e) (hI : I s) (h : Along step P s es) : Along step Q s es := by
  induction es generalizing s with
  | nil => trivial
  | cons e es ih =>
    exact ⟨himp s e hI h.head, fun s' hs => ih (keep s e s' hI h.head hs) (h.tail hs)⟩

theorem Along.mono (himp : ∀ s e, P s e → Q s e) (h : Along step P s es) : Along step Q s es :=
  h.imp (fun _ => True) (fun _ _ _ _ _ _ => trivial) (fun s e _ => himp s e) trivial

theorem run_invariant (I : σ → Prop) (keep : ∀ s e s', I s → P s e → step s e = some s' → I s')
    (hI : I s) (hP : Along step P s es) (hr : run step s es = some t) : I t := by
  induction es generalizing s with
  | nil =>
    rw [run_nil, Option.some.injEq] at hr
    exact hr ▸ hI
  | cons e es ih =>
    obtain ⟨s', hs, hr⟩ := run_cons_eq_some.mp hr
    exact ih (keep s e s' hI hP.head hs) (hP.tail hs) hr

theorem along_of_forall (h : ∀ s e, P s e) : Along step P s es := by
  induction es generalizing s with
  | nil => trivial
  | cons e es ih => exact ⟨h s e, fun _ _ => ih⟩

theorem along_of_mem {P : ε → Prop} (h : ∀ e ∈ es, P e) : Along step (fun _ e => P e) s es := by
  induction es generalizing s with
  | nil => trivial
  | cons e es ih =>
    refine ⟨h e List.mem_cons_self, fun _ _ => ih fun e' he' => ?_⟩
    exact h e' (List.mem_cons_of_mem _ he')

theorem run_induction (I : σ → Prop) (keep : ∀ s e s', I s → step s e = some s' → I s')
    (hI : I s) (hr : run step s es = some t) : I t :=
  run_invariant (P := fun _ _ => True) I (fun s e s' h _ hs => keep s e s' h hs) hI
    (along_of_forall fun _ _ => trivial) hr

theorem run_backward (I : σ → Prop) (back : ∀ s e s', I s' → step s e = some s' → I s)
    (hI : I t) (hr : run step s es = some t) : I s := by
  induction es generalizing s with
  | nil =>
    rw [run_nil, Option.some.injEq] at hr
    exact hr ▸ hI
  | cons e es ih =>
    obtain ⟨s', hs, hr⟩ := run_cons_eq_some.mp hr
    exact back s e s' (ih hr) hs

theorem run_avoids_iff (I bad : σ → Prop) (hdisjoint : ∀ s, I s → ¬bad s)
    (keep : ∀ s e s', I s → P s e → step s e = some s' → I s')
    (leave : ∀ s e s', I s → ¬P s e → step s e = some s' → bad s')
    (stay : ∀ s e s', bad s → step s e = some s' → bad s') (hI : I s)
    (hr : run step s es = some t) : ¬bad t ↔ Along step P s es := by
  constructor
  · intro hgood
    induction es generalizing s with
    | nil => trivial
    | cons e es ih =>
      obtain ⟨s', hs, hr⟩ := run_cons_eq_some.mp hr
      have hP : P s e := by
        by_contra hP
        exact hgood (run_induction bad stay (leave s e s' hI hP hs) hr)
      refine ⟨hP, fun s'' hs'' => ?_⟩
      rw [hs] at hs''
      cases hs''
      exact ih (keep s e s' hI hP hs) hr
  · intro hP
    exact hdisjoint t (run_invariant I keep hI hP hr)

theorem along_iff_prefixes {good : σ → Prop} (I : σ → Prop) (hgood : ∀ s, I s → good s)
    (keep : ∀ s e, I s → P s e → ∃ s', step s e = some s' ∧ I s')
    (leave : ∀ s e s', I s → ¬P s e → step s e = some s' → ¬good s') (hI : I s) :
    Along step P s es ↔
      ∀ before after, es = before ++ after → ∃ t, run step s before = some t ∧ good t := by
  constructor
  · intro hP before
    induction before generalizing s es with
    | nil =>
      intro after _
      exact ⟨s, rfl, hgood s hI⟩
    | cons e before ih =>
      intro after hes
      subst hes
      obtain ⟨s', hs, hI'⟩ := keep s e hI hP.head
      obtain ⟨t, ht, hgoodt⟩ := ih hI' (hP.tail hs) after rfl
      exact ⟨t, run_cons_eq_some.mpr ⟨s', hs, ht⟩, hgoodt⟩
  · intro hall
    induction es generalizing s with
    | nil => trivial
    | cons e es ih =>
      obtain ⟨t, ht, hgoodt⟩ := hall [e] es rfl
      obtain ⟨s', hs, hnil⟩ := run_cons_eq_some.mp ht
      cases hnil
      have hP : P s e := by
        by_contra hP
        exact leave s e t hI hP hs hgoodt
      refine ⟨hP, fun s'' hs'' => ?_⟩
      rw [hs] at hs''
      cases hs''
      obtain ⟨u, hu, hIu⟩ := keep s e hI hP
      rw [hs] at hu
      cases hu
      refine ih hIu fun before after hes => ?_
      obtain ⟨v, hv, hgoodv⟩ := hall (e :: before) after (by rw [hes]; rfl)
      obtain ⟨r, hr, hv⟩ := run_cons_eq_some.mp hv
      rw [hs] at hr
      cases hr
      exact ⟨v, hv, hgoodv⟩

/-- The calls that were made from the start, with what each returned. -/
inductive History {γ ρ : Type*} (call : σ → γ → σ × ρ) (start : σ) : List (γ × ρ) → σ → Prop
  | start : History call start [] start
  | call {log s} (h : History call start log s) (c : γ) :
      History call start (log ++ [(c, (call s c).2)]) (call s c).1

end Nnrp.LabelledRun
