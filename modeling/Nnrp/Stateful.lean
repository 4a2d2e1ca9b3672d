import Nnrp.Fallible

/-!
# Methods that change a state and may fail

A method that fails keeps what it has written before. `check` reads the state and may fail,
`write` changes it; a method whose writes come after its checks leaves the state alone when it
fails.
-/

namespace Nnrp.Stateful

variable {σ ε α β : Type}

abbrev Method (σ ε : Type) := ExceptT ε (StateM σ)

def call (m : Method σ ε α) (s : σ) : Except ε α × σ := (ExceptT.run m).run s

def check (f : σ → Except ε α) : Method σ ε α := fun s => (f s, s)

def lift (x : Except ε α) : Method σ ε α := check fun _ => x

def refuse (p : σ → Prop) [DecidablePred p] (e : ε) : Method σ ε Unit :=
  check fun s => if p s then .error e else .ok ()

def write (f : σ → σ) : Method σ ε Unit := fun s => (.ok (), f s)

def popFront (queue : σ → List α) (set : List α → σ → σ) : Method σ ε (Option α) := fun s =>
  match queue s with
  | [] => (.ok none, s)
  | a :: rest => (.ok (some a), set rest s)

/-- The outcome of a computation of the next state: a failure leaves the state as it was. -/
def settle (s : σ) : Except ε σ → Except ε Unit × σ
  | .ok s' => (.ok (), s')
  | .error e => (.error e, s)

variable {s : σ} {m : Method σ ε α} {g : α → Method σ ε β} {a : α} {e : ε} {p : σ → Prop}
  {x : Except ε σ}

@[simp] theorem call_write {f : σ → σ} : call (write f : Method σ ε Unit) s = (.ok (), f s) := rfl

variable {f : σ → Except ε α} {s' : σ}

@[simp] theorem call_check : call (check f) s = (f s, s) := rfl

@[simp] theorem call_write_bind {f : σ → σ} {g : Unit → Method σ ε α} :
    call (write f >>= g) s = call (g ()) (f s) := rfl

theorem call_bind :
    call (m >>= g) s =
      match call m s with
      | (.ok a, s') => call (g a) s'
      | (.error e, s') => (.error e, s') := by
  have hbind : call (m >>= g) s = ((ExceptT.bindCont g (m s).1).run (m s).2 : Except ε β × σ) := rfl
  rw [hbind]
  change _ = match m s with
    | (.ok a, s') => call (g a) s'
    | (.error e, s') => (.error e, s')
  rcases m s with ⟨x, s'⟩
  cases x with
  | ok a | error e => rfl

@[simp] theorem lift_ok_bind : ((lift (.ok a) : Method σ ε α) >>= g) = g a := rfl

theorem call_bind_ok (h : call m s = (.ok a, s')) : call (m >>= g) s = call (g a) s' := by
  rw [call_bind, h]

theorem call_bind_error (h : call m s = (.error e, s')) : call (m >>= g) s = (.error e, s') := by
  rw [call_bind, h]

theorem call_bind_check (s : σ) (h : f s = .ok a) : call (check f >>= g) s = call (g a) s := by
  rw [call_bind, call_check, h]

theorem call_bind_read (s : σ) {f : σ → α} (h : f s = a) :
    call (check (fun s => .ok (f s)) >>= g) s = call (g a) s :=
  call_bind_check s (congrArg Except.ok h)

theorem call_refuse_of [DecidablePred p] (h : p s) : call (refuse p e) s = (.error e, s) := by
  rw [refuse, call_check, if_pos h]

theorem call_refuse_of_not [DecidablePred p] (h : ¬p s) : call (refuse p e) s = (.ok (), s) := by
  rw [refuse, call_check, if_neg h]

theorem call_bind_pure {f : α → β} :
    call (m >>= fun a => Pure.pure (f a)) s = ((call m s).1.map f, (call m s).2) := by
  rw [call_bind]
  rcases call m s with ⟨x, s'⟩
  cases x <;> rfl

variable {set : List α → σ → σ} {queue : σ → List α}

theorem call_popFront_nil (h : queue s = []) :
    call (popFront queue set : Method σ ε (Option α)) s = (.ok none, s) := by
  change (match queue s with
    | [] => _
    | a :: rest => _) = _
  rw [h]

theorem call_popFront_cons {rest : List α} (h : queue s = a :: rest) :
    call (popFront queue set : Method σ ε (Option α)) s = (.ok (some a), set rest s) := by
  change (match queue s with
    | [] => _
    | a :: rest => _) = _
  rw [h]

theorem call_check_bind {g : α → Method σ ε Unit} {h : α → Except ε σ}
    (hrest : ∀ a, f s = .ok a → call (g a) s = settle s (h a)) :
    call (check f >>= g) s = settle s (f s >>= h) := by
  rw [call_bind, call_check]
  cases hf : f s with
  | error e => rfl
  | ok a => exact hrest a hf

theorem call_refuse_bind [DecidablePred p] {g : Unit → Method σ ε Unit} {y : Except ε σ}
    (hy : y = .error e) (hrest : ¬p s → call (g ()) s = settle s x) :
    call (refuse p e >>= g) s = settle s (if p s then y else x) := by
  rw [call_bind, refuse, call_check]
  by_cases hp : p s
  · rw [if_pos hp, if_pos hp, hy]
    rfl
  · rw [if_neg hp, if_neg hp]
    exact hrest hp

theorem settle_error (h : (settle s x).1 = .error e) : (settle s x).2 = s := by
  cases x with
  | ok s' => cases h
  | error e => rfl

theorem settle_eq_ok (h : (settle s x).1 = .ok ()) : x = .ok (settle s x).2 := by
  cases x with
  | ok s' => rfl
  | error e => cases h

/-- What a method ensures of its value and of the state after a success, and of the state after a
failure. -/
def Ensures (m : Method σ ε α) (s : σ) (done : α → σ → Prop) (failed : σ → Prop) : Prop :=
  match call m s with
  | (.ok a, s') => done a s'
  | (.error _, s') => failed s'

abbrev Always (m : Method σ ε α) (s : σ) (P : σ → Prop) : Prop := Ensures m s (fun _ => P) P

namespace Ensures

variable {s' : σ} {done : α → σ → Prop} {failed : σ → Prop} {g : β → Method σ ε α}
  {f : σ → Except ε β} {b : β}

theorem of_ok (h : Ensures m s done failed) (hcall : call m s = (.ok a, s')) : done a s' := by
  rw [Ensures, hcall] at h
  exact h

theorem of_error (h : Ensures m s done failed) (hcall : call m s = (.error e, s')) : failed s' := by
  rw [Ensures, hcall] at h
  exact h

theorem state {P : σ → Prop} (h : Always m s P) : P (call m s).2 := by
  rw [Always, Ensures] at h
  rcases hm : call m s with ⟨x, s'⟩
  rw [hm] at h
  cases x with
  | ok a | error e => exact h

theorem any : Ensures m s (fun _ _ => True) fun _ => True := by
  rw [Ensures]
  split <;> trivial

variable {failed' : σ → Prop} {done' : α → σ → Prop} {x : Except ε β}

theorem imp (h : Ensures m s done failed)
    (hdone : ∀ a s', done a s' → done' a s') (hfailed : ∀ s', failed s' → failed' s') :
    Ensures m s done' failed' := by
  rw [Ensures] at h ⊢
  split at h
  · exact hdone _ _ h
  · exact hfailed _ h

theorem pure (h : done a s) : Ensures (Pure.pure a : Method σ ε α) s done failed := h

theorem check {f : σ → Except ε α} (hdone : ∀ a, f s = .ok a → done a s)
    (hfailed : ∀ e, f s = .error e → failed s) : Ensures (check f) s done failed := by
  rw [Ensures, call_check]
  cases hf : f s with
  | ok a => exact hdone a hf
  | error e => exact hfailed e hf

theorem write {f : σ → σ} {done : Unit → σ → Prop} (h : done () (f s)) :
    Ensures (write f : Method σ ε Unit) s done failed := h

theorem lift_error (h : failed s) : Ensures (lift (.error e) : Method σ ε α) s done failed := h

theorem bind {m : Method σ ε β} (mid : β → σ → Prop) (h : Ensures m s mid failed)
    (hrest : ∀ b s', mid b s' → Ensures (g b) s' done failed) :
    Ensures (m >>= g) s done failed := by
  rw [Ensures, call_bind]
  rw [Ensures] at h
  rcases hm : call m s with ⟨x, s'⟩
  rw [hm] at h
  cases x with
  | ok b => exact hrest b s' h
  | error e => exact h

theorem bind_of {m : Method σ ε β} {mid : β → σ → Prop}
    (h : Ensures m s mid failed') (hfailed : ∀ s', failed' s' → failed s')
    (hrest : ∀ b s', mid b s' → Ensures (g b) s' done failed) : Ensures (m >>= g) s done failed :=
  bind mid (h.imp (fun _ _ h => h) hfailed) hrest

theorem check_bind (hfailed : ∀ e, f s = .error e → failed s)
    (hrest : ∀ b, f s = .ok b → Ensures (g b) s done failed) :
    Ensures (Stateful.check f >>= g) s done failed := by
  refine bind (fun b s' => f s = .ok b ∧ s' = s) (check ?_ hfailed) ?_
  · intro b hb
    exact ⟨hb, rfl⟩
  · rintro b _ ⟨hb, rfl⟩
    exact hrest b hb

theorem lift_bind (hfailed : ∀ e, x = .error e → failed s)
    (hrest : ∀ b, x = .ok b → Ensures (g b) s done failed) : Ensures (lift x >>= g) s done failed :=
  check_bind hfailed hrest

theorem guard (hfailed : failed s) (hrest : ∀ b, f s = .ok b → Ensures (g b) s done failed) :
    Ensures (Stateful.check f >>= g) s done failed :=
  check_bind (fun _ _ => hfailed) hrest

theorem call_ok (h : call m s = (.ok a, s')) (hdone : done a s') : Ensures m s done failed := by
  rw [Ensures, h]
  exact hdone

theorem call_error (h : call m s = (.error e, s')) (hfailed : failed s') :
    Ensures m s done failed := by
  rw [Ensures, h]
  exact hfailed

theorem call_ok_bind {m : Method σ ε β} (h : call m s = (.ok b, s'))
    (hrest : Ensures (g b) s' done failed) : Ensures (m >>= g) s done failed := by
  rw [Ensures] at hrest ⊢
  rw [call_bind_ok h]
  exact hrest

theorem call_error_bind {m : Method σ ε β} (h : call m s = (.error e, s')) (hfailed : failed s') :
    Ensures (m >>= g) s done failed := by
  rw [Ensures, call_bind_error h]
  exact hfailed

theorem check_ok_bind (h : f s = .ok b) (hrest : Ensures (g b) s done failed) :
    Ensures (Stateful.check f >>= g) s done failed := by
  refine check_bind (fun e he => ?_) fun b' hb' => ?_
  · rw [h] at he
    cases he
  · rw [h] at hb'
    cases hb'
    exact hrest

theorem lift_ok_bind (h : x = .ok b) (hrest : Ensures (g b) s done failed) :
    Ensures (lift x >>= g) s done failed :=
  check_ok_bind h hrest

theorem check_error_bind (h : f s = .error e) (hfailed : failed s) :
    Ensures (Stateful.check f >>= g) s done failed := by
  refine check_bind (fun _ _ => hfailed) fun b hb => ?_
  rw [h] at hb
  cases hb

variable {g : Unit → Method σ ε α}

theorem refuse_bind [DecidablePred p]
    (hfailed : p s → failed s) (hrest : ¬p s → Ensures (g ()) s done failed) :
    Ensures (refuse p e >>= g) s done failed := by
  by_cases hp : p s
  · exact check_bind (fun _ _ => hfailed hp) fun b hb => by simp [hp] at hb
  · exact check_bind (fun _ hf => by simp [hp] at hf) fun b _ => hrest hp

theorem write_bind {f : σ → σ} (h : Ensures (g ()) (f s) done failed) :
    Ensures (Stateful.write f >>= g) s done failed := by
  rw [Ensures, call_write_bind]
  exact h

theorem cases (h : Ensures m s done failed) :
    (∃ a s', call m s = (.ok a, s') ∧ done a s') ∨
      ∃ e s', call m s = (.error e, s') ∧ failed s' := by
  rw [Ensures] at h
  rcases hm : call m s with ⟨x, s'⟩
  rw [hm] at h
  cases x with
  | ok a => exact .inl ⟨a, s', rfl, h⟩
  | error e => exact .inr ⟨e, s', rfl, h⟩

theorem both (h : Ensures m s done failed) (h' : Ensures m s done' failed') :
    Ensures m s (fun a s' => done a s' ∧ done' a s') (fun s' => failed s' ∧ failed' s') := by
  rcases h.cases with ⟨a, s', hcall, hdone⟩ | ⟨e, s', hcall, hfailed⟩
  · exact call_ok hcall ⟨hdone, h'.of_ok hcall⟩
  · exact call_error hcall ⟨hfailed, h'.of_error hcall⟩

theorem popFront_bind {queue : σ → List β} {set : List β → σ → σ} {g : Option β → Method σ ε α}
    (hnil : queue s = [] → Ensures (g none) s done failed)
    (hcons : ∀ b rest, queue s = b :: rest → Ensures (g (some b)) (set rest s) done failed) :
    Ensures (popFront queue set >>= g) s done failed := by
  cases hqueue : queue s with
  | nil => exact call_ok_bind (call_popFront_nil hqueue) (hnil hqueue)
  | cons b rest => exact call_ok_bind (call_popFront_cons hqueue) (hcons b rest hqueue)

end Ensures

-- A search for the head of a goal would otherwise run the method.
attribute [irreducible] Ensures

structure Keeps {τ : Type} (f : σ → τ) (m : Method σ ε α) : Prop where
  call_eq : ∀ s, f (call m s).2 = f s

namespace Keeps

variable {τ : Type} {f : σ → τ}

theorem pure : Keeps f (Pure.pure a : Method σ ε α) := ⟨fun _ => rfl⟩

theorem check {g : σ → Except ε α} : Keeps f (check g) := ⟨fun _ => rfl⟩

theorem lift {x : Except ε α} : Keeps f (lift x : Method σ ε α) := check

theorem refuse {p : σ → Prop} [DecidablePred p] {e : ε} : Keeps f (refuse p e) := check

theorem write {g : σ → σ} (h : ∀ s, f (g s) = f s) : Keeps f (write g : Method σ ε Unit) := ⟨h⟩

variable {g : β → Method σ ε α}

theorem bind {m : Method σ ε β} (hm : Keeps f m) (hg : ∀ b, Keeps f (g b)) : Keeps f (m >>= g) where
  call_eq s := by
    have hfirst := hm.call_eq s
    rw [call_bind]
    rcases hcall : call m s with ⟨x, s'⟩
    rw [hcall] at hfirst
    cases x with
    | ok b => exact ((hg b).call_eq s').trans hfirst
    | error e => exact hfirst

theorem ensures (h : Keeps f m) (s : σ) : Always m s fun s' => f s' = f s := by
  have hkept := h.call_eq s
  rcases hcall : call m s with ⟨x, s'⟩
  rw [hcall] at hkept
  cases x with
  | ok a => exact .call_ok hcall hkept
  | error e => exact .call_error hcall hkept

variable {P : τ → Prop}

theorem always (h : Keeps f m) (hs : P (f s)) : Always m s fun s' => P (f s') := by
  refine (h.ensures s).imp (fun _ t ht => ?_) fun t ht => ?_
  all_goals
    rw [ht]
    exact hs

theorem after {m : Method σ ε β} (hg : ∀ b, Keeps f (g b))
    (hm : Always m s fun s' => P (f s')) : Always (m >>= g) s fun s' => P (f s') :=
  .bind _ hm fun b _ hs' => (hg b).always hs'

end Keeps

structure Returns (P : α → Prop) (m : Method σ ε α) : Prop where
  of_ok : ∀ s a s', call m s = (.ok a, s') → P a

namespace Returns

variable {P : α → Prop}

theorem pure (h : P a) : Returns P (Pure.pure a : Method σ ε α) := by
  refine ⟨fun s b s' hcall => ?_⟩
  cases hcall
  exact h

variable {g : β → Method σ ε α}

theorem bind {m : Method σ ε β} (h : ∀ b, Returns P (g b)) : Returns P (m >>= g) := by
  refine ⟨fun s a s' hcall => ?_⟩
  rw [call_bind] at hcall
  rcases hm : call m s with ⟨x, t⟩
  rw [hm] at hcall
  cases x with
  | ok b => exact (h b).of_ok t a s' hcall
  | error e => cases hcall

theorem lift_bind {x : Except ε β} (h : ∀ b, x = .ok b → Returns P (g b)) :
    Returns P (lift x >>= g) := by
  refine ⟨fun s a s' hcall => ?_⟩
  cases x with
  | ok b => exact (h b rfl).of_ok s a s' hcall
  | error e => cases hcall

theorem ensures {done : α → σ → Prop} {failed : σ → Prop}
    (h : Returns P m) (hm : Ensures m s done failed) :
    Ensures m s (fun a s' => done a s' ∧ P a) failed := by
  rcases hm.cases with ⟨a, s', hcall, hdone⟩ | ⟨e, s', hcall, hfailed⟩
  · exact .call_ok hcall ⟨hdone, h.of_ok s a s' hcall⟩
  · exact .call_error hcall hfailed

end Returns

/-- The method neither reads nor writes what `f` changes. -/
structure Commutes (f : σ → σ) (m : Method σ ε α) : Prop where
  call_eq : ∀ s, call m (f s) = ((call m s).1, f (call m s).2)

namespace Commutes

variable {f : σ → σ}

theorem pure : Commutes f (Pure.pure a : Method σ ε α) := ⟨fun _ => rfl⟩

theorem check {g : σ → Except ε α} (h : ∀ s, g (f s) = g s) : Commutes f (check g) where
  call_eq s := by
    rw [call_check, call_check, h]

theorem lift {x : Except ε α} : Commutes f (lift x : Method σ ε α) := ⟨fun _ => rfl⟩

theorem write {g : σ → σ} (h : ∀ s, g (f s) = f (g s)) :
    Commutes f (write g : Method σ ε Unit) where
  call_eq s := by
    rw [call_write, call_write, h]

theorem bind {m : Method σ ε β} {g : β → Method σ ε α} (hm : Commutes f m)
    (hg : ∀ b, Commutes f (g b)) : Commutes f (m >>= g) where
  call_eq s := by
    rw [call_bind, call_bind, hm.call_eq]
    rcases call m s with ⟨x, s'⟩
    cases x with
    | ok b => exact (hg b).call_eq s'
    | error e => rfl

end Commutes

end Nnrp.Stateful
