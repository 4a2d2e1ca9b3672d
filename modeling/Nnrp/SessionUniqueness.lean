import Nnrp.OpenInFlight

/-!
# Session ids of live sessions

If no lookup may be granted an id that an open in flight holds, and no session object is closed
twice, then every live session owns the active record under its id (`Exclusive`), so no two live
sessions carry one id.
-/

namespace Nnrp.Server
open OrderedMap LabelledRun Option Function ServerState

/-- A session that was acknowledged: still with the task of its connection, or delivered. -/
inductive SessionRef
  | opening (n : ℕ)
  | object (k : ℕ)
  deriving DecidableEq

namespace ServerState

variable (w : ServerState)

def LiveObject (k : ℕ) : Prop :=
  k < w.sessionCount ∧ (w.sessions k).closed = false ∧
    w.phase (w.sessions k).connectionNonce ≠ .down

instance (k : ℕ) : Decidable (w.LiveObject k) :=
  inferInstanceAs (Decidable (_ ∧ _ ∧ _))

/-- The id of a session that was acknowledged and is not yet closed or torn down. -/
def live : SessionRef → Option UInt32
  | .opening n =>
    match w.phase n with
    | .acked a | .inserted a => some a.sessionId
    | _ => none
  | .object k => if w.LiveObject k then some (w.sessions k).sessionId else none

def published : SessionRef → Option (UInt32 × ℕ)
  | .opening n => (w.phase n).inserted?.map fun a => (a.sessionId, n)
  | .object k =>
    if w.LiveObject k then some ((w.sessions k).sessionId, (w.sessions k).connectionNonce) else none

/-- No open may be granted an id that another open holds, and no object is closed twice. -/
def Uncontested (w : ServerState) : Event → Prop
  | .lookup n _ => ∀ request presented decision nowMs,
      w.phase n = .locking request presented decision nowMs →
      ∀ m a, w.holding m = some a → ¬MayGrant request (retain nowMs w.registry) a.sessionId
  | .closeSession k => (w.sessions k).closed = false
  | _ => True

/-- Published sessions own an active record each, and held ids are apart from them. -/
structure Exclusive : Prop where
  recorded : ∀ {r s n}, w.published r = some (s, n) →
    ∃ record, w.registry[s]? = some record ∧ record.active = true ∧ record.connectionNonce = n
  unrecorded : ∀ {n a record}, w.holding n = some a → w.registry[a.sessionId]? = some record →
    record.active = false
  holder : ∀ {n m a b}, w.holding n = some a → w.holding m = some b →
    a.sessionId = b.sessionId → n = m
  publisher : ∀ {r r' s n n'}, w.published r = some (s, n) → w.published r' = some (s, n') → r = r'

end ServerState

variable {w w' : ServerState} {n m k : ℕ} {a b : Attempt} {p : Phase} {r : SessionRef} {s : UInt32}
  {e : Event}

namespace ServerState

variable {x : UInt32 × ℕ}

theorem published_object_eq_some : w.published (.object k) = some x ↔
    w.LiveObject k ∧ x = ((w.sessions k).sessionId, (w.sessions k).connectionNonce) := by
  simp [published, eq_comm]

theorem published_opening_eq_some :
    w.published (.opening n) = some x ↔ ∃ a, w.phase n = .inserted a ∧ x = (a.sessionId, n) := by
  simp only [published, map_eq_some_iff, Phase.inserted?_eq_some, @eq_comm _ x]

theorem phase_ne_down_of_published (h : w.published r = some (s, n)) : w.phase n ≠ .down := by
  cases r with
  | opening m =>
    obtain ⟨a, ha, hx⟩ := published_opening_eq_some.mp h
    cases hx
    simp [ha]
  | object k =>
    obtain ⟨hlive, hx⟩ := published_object_eq_some.mp h
    cases hx
    exact hlive.2.2

theorem Exclusive.published_ne_held (hw : w.Exclusive) (hr : w.published r = some (s, n))
    (ha : w.holding m = some a) : s ≠ a.sessionId := by
  intro hs
  obtain ⟨rec, hrec, hact, -⟩ := hw.recorded hr
  rw [hs] at hrec
  rw [hw.unrecorded ha hrec] at hact
  cases hact

theorem Exclusive.of_shrinking (hw : w.Exclusive)
    (hpublished : ∀ {r x}, w'.published r = some x → w.published r = some x)
    (hhold : ∀ {n a}, w'.holding n = some a → w.holding n = some a)
    (hkept : ∀ {r s n} {rec : RuntimeSessionRecord}, w'.published r = some (s, n) →
      w.registry[s]? = some rec → rec.active = true → rec.connectionNonce = n →
      ∃ r', w'.registry[s]? = some r' ∧ r'.active = true ∧ r'.connectionNonce = n)
    (hact : ∀ {s : UInt32} {r' : RuntimeSessionRecord}, w'.registry[s]? = some r' →
      r'.active = true → ∃ rec, w.registry[s]? = some rec ∧ rec.active = true) : w'.Exclusive where
  recorded h := by
    obtain ⟨rec, hrec, ha, hn⟩ := hw.recorded (hpublished h)
    exact hkept h hrec ha hn
  unrecorded {n a r'} h hrec' := by
    by_contra hne
    obtain ⟨rec, hrec, ha⟩ := hact hrec' (by simpa using hne)
    rw [hw.unrecorded (hhold h) hrec] at ha
    cases ha
  holder hn hm hid := hw.holder (hhold hn) (hhold hm) hid
  publisher h h' := hw.publisher (hpublished h) (hpublished h')

theorem setPhase_liveObject (hdown : w.phase n ≠ .down) (h : (w.setPhase n p).LiveObject k) :
    w.LiveObject k := by
  obtain ⟨hk, hclosed, hphase⟩ := h
  refine ⟨hk, hclosed, ?_⟩
  by_cases hn : (w.sessions k).connectionNonce = n
  · rw [hn]
    exact hdown
  · rwa [setPhase_sessions, setPhase_phase_of_ne hn] at hphase

theorem setPhase_published (hdown : w.phase n ≠ .down) (hp : p.inserted? = none)
    (h : (w.setPhase n p).published r = some x) : w.published r = some x := by
  cases r with
  | opening m =>
    by_cases hm : m = n
    · subst hm
      simp [published, hp] at h
    · rwa [published, setPhase_phase_of_ne hm] at h
  | object k =>
    obtain ⟨hlive, hx⟩ := published_object_eq_some.mp h
    exact published_object_eq_some.mpr ⟨setPhase_liveObject hdown hlive, hx⟩

theorem Exclusive.setPhase (hw : w.Exclusive) (hdown : w.phase n ≠ .down)
    (hp : p.inserted? = none) (hhold : ∀ a, p.holding = some a → w.holding n = some a) :
    (w.setPhase n p).Exclusive :=
  hw.of_shrinking (setPhase_published hdown hp) (setPhase_holding_some hhold)
    (fun _ hrec ha hn => ⟨_, hrec, ha, hn⟩) (fun h ha => ⟨_, h, ha⟩)

theorem Exclusive.stop (hw : w.Exclusive) (hdown : w.phase n ≠ .down) {reg : Registry}
    (hp : p.inserted? = none) (hhold : p.holding = none)
    (hkept : ∀ {r s m} {rec : RuntimeSessionRecord}, r ≠ .opening n → w.published r = some (s, m) →
      (p = .down → m ≠ n) → w.registry[s]? = some rec → rec.active = true →
      rec.connectionNonce = m → reg[s]? = some rec)
    (hact : ∀ {s : UInt32} {rec : RuntimeSessionRecord}, reg[s]? = some rec →
      rec.active = true → w.registry[s]? = some rec) :
    ((w.setRegistry reg).setPhase n p).Exclusive := by
  have hpublished {r x} (h : ((w.setRegistry reg).setPhase n p).published r = some x) :
      w.published r = some x := setPhase_published hdown hp h
  refine hw.of_shrinking hpublished ?_ ?_ ?_
  · intro m a h
    refine setPhase_holding_some (w := w) (n := n) (p := p) ?_ h
    simp [hhold]
  · intro r s m rec h hrec ha hm
    have hr : r ≠ .opening n := by
      rintro rfl
      simp [published, hp] at h
    have hmn : p = .down → m ≠ n := by
      rintro rfl rfl
      exact phase_ne_down_of_published h setPhase_phase_self
    exact ⟨rec, hkept hr (hpublished h) hmn hrec ha hm, ha, hm⟩
  · intro s rec h ha
    exact ⟨rec, hact h ha, ha⟩

end ServerState

namespace ServerState

variable (hw : w.Exclusive)
include hw

namespace Exclusive

theorem connect (hwf : w.WellFormed) : w.connect.Exclusive := by
  refine hw.of_shrinking ?_ connect_holding_some (fun _ hrec ha hn => ⟨_, hrec, ha, hn⟩)
    (fun h ha => ⟨_, h, ha⟩)
  intro r x h
  cases r with
  | opening m =>
    obtain ⟨a, ha, hx⟩ := published_opening_eq_some.mp h
    by_cases hm : m = w.nextConnectionNonce
    · simp [phase, hm] at ha
    · rw [connect_phase_of_ne hm] at ha
      exact published_opening_eq_some.mpr ⟨a, ha, hx⟩
  | object k =>
    obtain ⟨⟨hk, hclosed, hdown⟩, hx⟩ := published_object_eq_some.mp h
    rw [connect_sessions, connect_phase_of_ne (hwf.object_lt hk).ne] at hdown
    exact published_object_eq_some.mpr ⟨⟨hk, hclosed, hdown⟩, hx⟩

theorem retain (hdown : w.phase n ≠ .down) (nowMs : UInt64)
    (hp : p.inserted? = none) (hhold : p.holding = none) :
    ((w.setRegistry (retain nowMs w.registry)).setPhase n p).Exclusive :=
  hw.stop hdown hp hhold (fun _ _ _ hrec ha _ => retain_get_active _ hrec ha)
    (fun h _ => retain_get_some h)

theorem granted {nowMs : UInt64} (hdown : w.phase n ≠ .down) (hacc : a.accepted = true)
    (hfree : ∀ rec, (Server.retain nowMs w.registry)[a.sessionId]? = some rec →
      rec.active = false) (hother : ∀ m b, w.holding m = some b → b.sessionId ≠ a.sessionId) :
    (((w.setRegistry (Server.retain nowMs w.registry)).issue a).setPhase n
      (.registering a)).Exclusive := by
  constructor
  · intro r s m h
    obtain ⟨rec, hrec, ha, hn⟩ := hw.recorded (setPhase_published (w := w) hdown rfl h)
    exact ⟨rec, retain_get_active _ hrec ha, ha, hn⟩
  · intro m b rec h hrec
    rcases registering_holding hacc h with ⟨-, rfl⟩ | ⟨-, h⟩
    · exact hfree rec hrec
    · exact hw.unrecorded h (retain_get_some hrec)
  · intro m m' b b' h h' hid
    rcases registering_holding hacc h with ⟨hm, hb⟩ | ⟨-, hb⟩
    · rcases registering_holding hacc h' with ⟨hm', -⟩ | ⟨-, hb'⟩
      · exact hm.trans hm'.symm
      · exact absurd (hid.symm.trans (congrArg _ hb)) (hother _ _ hb')
    · rcases registering_holding hacc h' with ⟨-, hb'⟩ | ⟨-, hb'⟩
      · exact absurd (hid.trans (congrArg _ hb')) (hother _ _ hb)
      · exact hw.holder hb hb' hid
  · intro r r' s m m' h h'
    exact hw.publisher (setPhase_published (w := w) hdown rfl h)
      (setPhase_published (w := w) hdown rfl h')

theorem insert (hp : w.phase n = .acked a) (ha : w.holding n = some a) :
    ((w.setRegistry (w.registry.insert a.sessionId (a.record w.config n))).setPhase n
      (.inserted a)).Exclusive := by
  let w' := (w.setRegistry (w.registry.insert a.sessionId (a.record w.config n))).setPhase n
    (.inserted a)
  have hcases {r x} (h : w'.published r = some x) :
      (r = .opening n ∧ x = (a.sessionId, n)) ∨ w.published r = some x := by
    cases r with
    | opening m =>
      by_cases hm : m = n
      · subst hm
        obtain ⟨b, hb, hx⟩ := published_opening_eq_some.mp h
        rw [setPhase_phase_self] at hb
        cases hb
        exact .inl ⟨rfl, hx⟩
      · rw [published, setPhase_phase_of_ne hm] at h
        exact .inr h
    | object k =>
      obtain ⟨hlive, hx⟩ := published_object_eq_some.mp h
      have hdown : w.phase n ≠ .down := by simp [hp]
      exact .inr (published_object_eq_some.mpr ⟨setPhase_liveObject (w := w) hdown hlive, hx⟩)
  constructor
  · intro r s m h
    rcases hcases h with ⟨-, hx⟩ | h
    · cases hx
      exact ⟨a.record w.config n, by simp, rfl, rfl⟩
    · obtain ⟨rec, hrec, hact, hn⟩ := hw.recorded h
      have hs := hw.published_ne_held h ha
      exact ⟨rec, by simpa [get_insert, hs.symm] using hrec, hact, hn⟩
  · intro m b rec h hrec
    obtain ⟨hm, h⟩ := inserted_holding h
    have hs : a.sessionId ≠ b.sessionId := fun hid => hm (hw.holder ha h hid).symm
    simp only [setPhase_registry, setRegistry_registry, get_insert, hs, if_false] at hrec
    exact hw.unrecorded h hrec
  · intro m m' b b' h h' hid
    exact hw.holder (inserted_holding h).2 (inserted_holding h').2 hid
  · intro r r' s m m' h h'
    rcases hcases h with ⟨rfl, hx⟩ | h
    · rcases hcases h' with ⟨rfl, -⟩ | h'
      · rfl
      · cases hx
        exact absurd rfl (hw.published_ne_held h' ha)
    · rcases hcases h' with ⟨rfl, hx⟩ | h'
      · cases hx
        exact absurd rfl (hw.published_ne_held h ha)
      · exact hw.publisher h h'

theorem addSession (hp : w.phase n = .inserted a) : (w.addSession n a).Exclusive := by
  have hcases {r x} (h : (w.addSession n a).published r = some x) : ∃ r', w.published r' = some x ∧
        (r = .object w.sessionCount ∧ r' = .opening n ∨
          r ≠ .object w.sessionCount ∧ r' = r ∧ r ≠ .opening n) := by
    cases r with
    | opening m =>
      obtain ⟨b, hb, hx⟩ := published_opening_eq_some.mp h
      by_cases hm : m = n
      · simp [phase, hm] at hb
      · simp only [phase, addSession_connections, update_of_ne hm] at hb
        exact ⟨.opening m, published_opening_eq_some.mpr ⟨b, hb, hx⟩, .inr ⟨by simp, rfl, by simpa⟩⟩
    | object k =>
      obtain ⟨⟨hk, hclosed, hdown⟩, hx⟩ := published_object_eq_some.mp h
      by_cases hkc : k = w.sessionCount
      · simp only [addSession_sessions, hkc, update_self] at hx
        exact ⟨.opening n, published_opening_eq_some.mpr ⟨a, hp, hx⟩, .inl ⟨by rw [hkc], rfl⟩⟩
      · simp only [addSession_sessions, update_of_ne hkc] at hclosed hdown hx
        have hk' : k < w.sessionCount := by
          rw [addSession_sessionCount] at hk
          omega
        refine ⟨.object k, published_object_eq_some.mpr ⟨⟨hk', hclosed, ?_⟩, hx⟩,
          .inr ⟨by simpa, rfl, by simp⟩⟩
        by_cases hm : (w.sessions k).connectionNonce = n
        · simp [hm, hp]
        · simpa [phase, update_of_ne hm] using hdown
  constructor
  · intro r s m h
    obtain ⟨r', h, -⟩ := hcases h
    exact hw.recorded h
  · exact fun h hrec => hw.unrecorded (addSession_holding_some h) hrec
  · exact fun h h' hid =>
      hw.holder (addSession_holding_some h) (addSession_holding_some h') hid
  · intro r₁ r₂ s m m' h₁ h₂
    obtain ⟨r₁', h₁, hr₁⟩ := hcases h₁
    obtain ⟨r₂', h₂, hr₂⟩ := hcases h₂
    have heq := hw.publisher h₁ h₂
    rcases hr₁ with ⟨rfl, rfl⟩ | ⟨-, rfl, hne₁⟩
    · rcases hr₂ with ⟨rfl, -⟩ | ⟨-, rfl, hne₂⟩
      · rfl
      · exact absurd heq.symm hne₂
    · rcases hr₂ with ⟨rfl, rfl⟩ | ⟨-, rfl, -⟩
      · exact absurd heq hne₁
      · exact heq

theorem teardown (hp : w.phase n = .broken) : (w.teardown n).Exclusive := by
  refine hw.stop (by simp [hp]) rfl rfl ?_
    (fun h ha => markConnectionSessionsInactive_get_active h ha)
  intro r s m rec _ _ hm hrec _ hnonce
  rw [markConnectionSessionsInactive_get]
  split
  · rw [hrec, bind_some, retire_of_ne (hnonce ▸ hm rfl)]
  · exact hrec

theorem undelivered (hp : w.phase n = .inserted a) :
    ((w.setRegistry (markSessionInactive w.registry a.sessionId n)).setPhase n
      .broken).Exclusive := by
  refine hw.stop (by simp [hp]) rfl rfl ?_ (fun h ha => markSessionInactive_get_active h ha)
  intro r s m rec hr hpub _ hrec _ _
  have hs : a.sessionId ≠ s := by
    rintro rfl
    exact hr (hw.publisher hpub (published_opening_eq_some.mpr ⟨a, hp, rfl⟩))
  rw [markSessionInactive_get, if_neg hs]
  exact hrec

theorem closeSession (hk : k < w.sessionCount)
    (hopen : (w.sessions k).closed = false) : (w.closeSession k).Exclusive := by
  have hpublished {r x} (h : (w.closeSession k).published r = some x) :
      w.published r = some x ∧ r ≠ .object k := by
    cases r with
    | opening m => exact ⟨h, by simp⟩
    | object j =>
      obtain ⟨⟨hj, hclosed, hdown⟩, hx⟩ := published_object_eq_some.mp h
      by_cases hjk : j = k
      · simp [hjk] at hclosed
      · simp only [closeSession_sessions, update_of_ne hjk] at hclosed hdown hx
        exact ⟨published_object_eq_some.mpr ⟨⟨hj, hclosed, hdown⟩, hx⟩, by simpa⟩
  refine hw.of_shrinking (fun h => (hpublished h).1) id ?_ ?_
  · intro r s m rec h hrec ha hm
    obtain ⟨h, hr⟩ := hpublished h
    refine ⟨rec, ?_, ha, hm⟩
    rw [closeSession_registry, removeFromRegistry_get]
    split_ifs with hs
    · -- a published session of the same connection and id would be the closed object itself
      have hne : rec.connectionNonce ≠ (w.sessions k).connectionNonce := by
        intro heq
        have hdown := phase_ne_down_of_published h
        rw [← hm, heq] at hdown
        have hobj : w.published (.object k) =
            some ((w.sessions k).sessionId, (w.sessions k).connectionNonce) :=
          published_object_eq_some.mpr ⟨⟨hk, hopen, hdown⟩, rfl⟩
        rw [hs] at hobj
        exact hr (hw.publisher h hobj)
      simp [hrec, hne, Option.filter]
    · exact hrec
  · intro s rec h ha
    exact ⟨rec, removeFromRegistry_get_some h, ha⟩

theorem operation {id : UInt64} :
    (w.setRegistry (updateRegistryLastOperation w.registry s id)).Exclusive := by
  refine hw.of_shrinking (fun h => h) (fun h => h) ?_ ?_
  · intro r t m rec _ hrec ha hm
    rw [setRegistry_registry, updateRegistryLastOperation_get]
    split_ifs
    · exact ⟨{ rec with lastOperationId := max rec.lastOperationId id }, by rw [hrec]; rfl, ha, hm⟩
    · exact ⟨rec, hrec, ha, hm⟩
  · intro t r' h ha
    rw [setRegistry_registry, updateRegistryLastOperation_get] at h
    split_ifs at h
    · obtain ⟨rec, hrec, rfl⟩ := map_eq_some_iff.mp h
      exact ⟨rec, hrec, ha⟩
    · exact ⟨r', h, ha⟩

end Exclusive

end ServerState

theorem Transition.exclusive (h : Transition w e w') (hwf : w.WellFormed)
    (hw : w.Exclusive) (he : w.Uncontested e) : w'.Exclusive := by
  cases h with
  | connect => exact hw.connect hwf
  | @hello n accepted hp =>
    refine hw.setPhase (by simp [hp]) ?_ ?_ <;> cases accepted <;>
      simp [Phase.inserted?, Phase.holding]
  | @receive n pkt unixTimeUs written hp =>
    rcases receivePhase_cases pkt unixTimeUs written with h | h | ⟨req, h⟩ <;>
      rw [h] <;> exact hw.setPhase (by simp [hp]) rfl (fun a ha => by cases ha)
  | readFailed hp | evaluate hp | ackFailed hp | insertFailed hp =>
    exact hw.setPhase (by simp [hp]) rfl (fun a ha => by cases ha)
  | failed hp => exact hw.retain (by simp [hp]) _ rfl rfl
  | refused hp ha => exact hw.retain (by simp [hp]) _ rfl (by simp [Phase.holding, ha])
  | granted hp ha hacc =>
    obtain ⟨-, -, hid, -, haccepted⟩ := prepare_ok ha
    obtain ⟨hgrant, hfree⟩ := allocate_granted (haccepted.mp hacc).2
    rw [← hid] at hgrant hfree
    refine hw.granted (by simp [hp]) hacc hfree fun m b hb hsame => ?_
    exact he _ _ _ _ hp m b hb (hsame ▸ hgrant)
  | @register n registered a hp =>
    refine hw.setPhase (by simp [hp]) ?_ ?_
    · cases registered <;> rfl
    · cases registered <;> simp [Phase.holding, holding, hp]
  | @acked n a hp ha =>
    have hack : (w.recordAck a).Exclusive :=
      { hw with }
    refine hack.setPhase (fun h => by cases hp.symm.trans h) rfl fun b hb => ?_
    change (w.phase n).holding = some b
    rwa [hp]
  | @ackedRefusal n a hp =>
    have hack : (w.recordAck a).Exclusive :=
      { hw with }
    exact hack.setPhase (fun h => by cases hp.symm.trans h) rfl (fun b hb => by cases hb)
  | @insert n a hp =>
    refine hw.insert hp ?_
    simp [holding, hp, Phase.holding, hwf.accepted hp]
  | deliver hp => exact hw.addSession hp
  | undelivered hp => exact hw.undelivered hp
  | teardown hp => exact hw.teardown hp
  | closeSession hk => exact hw.closeSession hk he
  | operation hk => exact hw.operation
  | dropListener | tick => exact { hw with }

variable {cfg : NnrpServerConfig}

theorem start_published : (start cfg).published r = none := by
  cases r with
  | opening n => rfl
  | object k => simp [published, ServerState.LiveObject, start]

theorem start_exclusive : (start cfg).Exclusive where
  recorded h := by
    rw [start_published] at h
    cases h
  unrecorded h := by cases h
  holder h := by cases h
  publisher h := by
    rw [start_published] at h
    cases h

namespace ServerState

theorem live_cases (h : w.live r = some s) :
    (∃ n a, r = .opening n ∧ w.phase n = .acked a ∧ a.sessionId = s) ∨
      ∃ n, w.published r = some (s, n) := by
  cases r with
  | opening n =>
    simp only [live] at h
    split at h
    · rename_i a ha
      exact .inl ⟨n, a, rfl, ha, some.inj h⟩
    · rename_i a ha
      cases h
      exact .inr ⟨n, published_opening_eq_some.mpr ⟨a, ha, rfl⟩⟩
    · cases h
  | object k =>
    simp only [live, ite_none_right_eq_some, some.injEq] at h
    obtain ⟨hlive, rfl⟩ := h
    exact .inr ⟨_, published_object_eq_some.mpr ⟨hlive, rfl⟩⟩

theorem Exclusive.live_inj (hw : w.Exclusive) (hwf : w.WellFormed) {r' : SessionRef}
    (h : w.live r = some s) (h' : w.live r' = some s) : r = r' := by
  rcases live_cases h with ⟨n, a, rfl, ha, hs⟩ | ⟨n, hpub⟩
  · have hheld := hwf.holding_of_acked ha
    rcases live_cases h' with ⟨n', a', rfl, ha', hs'⟩ | ⟨n', hpub'⟩
    · rw [hw.holder hheld (hwf.holding_of_acked ha') (hs.trans hs'.symm)]
    · exact absurd hs.symm (hw.published_ne_held hpub' hheld)
  · rcases live_cases h' with ⟨n', a', rfl, ha', hs'⟩ | ⟨n', hpub'⟩
    · exact absurd hs'.symm (hw.published_ne_held hpub (hwf.holding_of_acked ha'))
    · exact hw.publisher hpub hpub'

def Solitary (w : ServerState) : Event → Prop
  | .lookup _ _ => ∀ m < w.nextConnectionNonce, w.holding m = none
  | .closeSession k => (w.sessions k).closed = false
  | _ => True

instance (w : ServerState) : (e : Event) → Decidable (w.Solitary e)
  | .lookup _ _ => inferInstanceAs (Decidable (∀ m < w.nextConnectionNonce, w.holding m = none))
  | .closeSession k => inferInstanceAs (Decidable ((w.sessions k).closed = false))
  | .connect | .hello .. | .receive .. | .readFailed _ | .evaluate .. | .register .. | .writeAck ..
  | .insert _ | .deliver _ | .teardown _ | .operation .. | .dropListener | .tick _ =>
    .isTrue trivial

theorem WellFormed.not_holding_of_solitary (hw : w.WellFormed) {random : Option (ℕ → UInt8)}
    (h : w.Solitary (.lookup n random)) : w.holding m ≠ some a := by
  intro ha
  have hm : m < w.nextConnectionNonce := by
    apply hw.phase_lt
    intro hdown
    simp [holding, hdown, Phase.holding] at ha
  rw [h m hm] at ha
  cases ha

theorem WellFormed.uncontested_of_solitary (hw : w.WellFormed) (h : w.Solitary e) :
    w.Uncontested e := by
  cases e with
  | lookup n random =>
    intro req pres dec nowMs _ m a ha
    exact absurd ha (hw.not_holding_of_solitary h)
  | closeSession k => exact h
  | _ => trivial

end ServerState

/-- In every run in which no lookup may be granted an id that another open holds and no session
object is closed twice, live sessions carry different ids, and the insert of an acknowledged open
overwrites no active record. -/
theorem live_session_ids_unique (config : NnrpServerConfig) {es : List Event}
    (hr : run step (start config) es = some w)
    (hc : Along step ServerState.Uncontested (start config) es) :
    (∀ r r' s, w.live r = some s → w.live r' = some s → r = r') ∧
      ∀ n a record, w.phase n = .acked a → w.registry[a.sessionId]? = some record →
        record.active = false := by
  obtain ⟨hwf, hw⟩ := run_invariant (fun w => w.WellFormed ∧ w.Exclusive) (fun _ _ _ hw he hs =>
      ⟨(step_transition hs).wellFormed hw.1, (step_transition hs).exclusive hw.1 hw.2 he⟩)
    ⟨start_wellFormed, start_exclusive⟩ hc hr
  exact ⟨fun r r' s h h' => hw.live_inj hwf h h', fun n a record h hrec =>
    hw.unrecorded (hwf.holding_of_acked h) hrec⟩

theorem live_session_ids_unique_in_turn : ∃ w, run step (start tensorConfig) opensInTurn = some w ∧
      w.live (.object 0) = some 1 ∧ w.live (.object 1) = some 2 ∧
      ∀ r r' s, w.live r = some s → w.live r' = some s → r = r' := by
  have h : (run step (start tensorConfig) opensInTurn).map
      (fun w => (w.live (.object 0), w.live (.object 1))) = some (some 1, some 2) := by
    decide +kernel
  have hc : Along step ServerState.Solitary (start tensorConfig) opensInTurn := by
    decide +kernel
  obtain ⟨w, hw, hlive⟩ := map_eq_some_iff.mp h
  rw [Prod.mk.injEq] at hlive
  have huncontested := Along.imp ServerState.WellFormed
    (fun _ _ _ hw _ hs => (step_transition hs).wellFormed hw)
    (fun _ _ hw he => hw.uncontested_of_solitary he) start_wellFormed hc
  exact ⟨w, hw, hlive.1, hlive.2, (live_session_ids_unique tensorConfig hw huncontested).1⟩

def racingOpens : List Event :=
  twoConnections ++ requestOpen 1 (sessionOpenPacket 0 0 []) ++
    requestOpen 2 (sessionOpenPacket 0 0 []) ++
    [.lookup 1 none, .lookup 2 none, .register 1 true, .register 2 true, .writeAck 1 true,
      .writeAck 2 true, .insert 1]

/-- Both opens are acknowledged under session id 1, and the second is about to overwrite the
active record of the first. -/
theorem racing_opens_share_an_id : ∃ w, run step (start tensorConfig) racingOpens = some w ∧
      w.live (.opening 1) = some 1 ∧ w.live (.opening 2) = some 1 ∧
      w.registry[(1 : UInt32)]?.map (fun record => (record.active, record.connectionNonce)) =
        some (true, 1) := by
  have h : (run step (start tensorConfig) racingOpens).map (fun w =>
      (w.live (.opening 1), w.live (.opening 2),
        w.registry[(1 : UInt32)]?.map fun record => (record.active, record.connectionNonce))) =
      some (some 1, some 1, some (true, 1)) := by
    decide +kernel
  obtain ⟨w, hw, h⟩ := map_eq_some_iff.mp h
  rw [Prod.mk.injEq, Prod.mk.injEq] at h
  exact ⟨w, hw, h.1, h.2.1, h.2.2⟩

end Nnrp.Server
