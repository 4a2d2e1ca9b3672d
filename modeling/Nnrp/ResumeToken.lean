import Nnrp.SessionUniqueness

/-!
# Resume tokens

A resume token is drawn by an accepted open, kept in the registry by its insert, and presented
by a later open that resumes the session; that open draws another token and its insert replaces
the record. `Tracked` follows a token along these places. It is kept by every step if no open
looks up a token that another open in flight presents, and then no token is acknowledged as
resumed twice.
-/

namespace Nnrp.Server
open ByteOrder Packet Session OrderedMap LabelledRun List Option ServerState

variable {e : Event} {config : NnrpServerConfig}

/-- The registry would resume the session with the token. -/
def Registry.Keeps (registry : Registry) (s : UInt32) (token : Bytes) : Prop :=
  ∃ record, registry[s]? = some record ∧ record.resumeEnabled = true ∧ record.resumeToken = token

def Attempt.resumed (a : Attempt) : Bool := a.ack.sessionStatus = .resumed

namespace ServerState

variable (w : ServerState)

def tokens : List Bytes := w.issued.map Prod.snd

def spent : List Bytes := (w.acks.filter Attempt.resumed).map Attempt.presented

def Drawn (token : Bytes) (n : ℕ) : Prop :=
  ∃ a, w.holding n = some a ∧ a.resumeEnabled = true ∧ a.resumeToken = token

def Presents (token : Bytes) (n : ℕ) : Prop :=
  ∃ a, w.holding n = some a ∧ a.resumeAttempt ∧ a.presented = token

/-- No open looks up a token that another open in flight presents. -/
def Unshared (w : ServerState) : Event → Prop
  | .lookup n _ => ∀ request presented decision nowMs,
      w.phase n = .locking request presented decision nowMs → 0 < request.resumeTokenBytes →
      ∀ m, ¬w.Presents presented m
  | _ => True

structure Tracked : Prop where
  kept_issued : ∀ {s token}, w.registry.Keeps s token → (s, token) ∈ w.issued
  drawn_issued : ∀ {n a}, w.holding n = some a → a.resumeEnabled = true →
    (a.sessionId, a.resumeToken) ∈ w.issued
  drawn_not_kept : ∀ {token n s}, w.Drawn token n → ¬w.registry.Keeps s token
  drawn_once : ∀ {token n m}, w.Drawn token n → w.Drawn token m → n = m
  presented_issued : ∀ {n a}, w.holding n = some a → a.resumeAttempt →
    (a.sessionId, a.presented) ∈ w.issued
  presented_not_drawn : ∀ {token n m}, w.Presents token n → ¬w.Drawn token m
  presented_once : ∀ {token n m}, w.Presents token n → w.Presents token m → n = m
  unspent : ∀ {n a}, w.holding n = some a → w.phase n ≠ .acked a → a.resumeAttempt →
    a.presented ∉ w.spent
  spent_issued : ∀ {token}, token ∈ w.spent → token ∈ w.tokens
  spent_not_drawn : ∀ {token n}, token ∈ w.spent → ¬w.Drawn token n
  spent_replaced : ∀ {token s}, token ∈ w.spent → w.registry.Keeps s token →
    ∃ n a, w.phase n = .acked a ∧ a.resumeAttempt ∧ a.presented = token
  spent_nodup : w.spent.Nodup

end ServerState

variable {w w' : ServerState} {n m : ℕ} {a b : Attempt} {p : Phase} {s t : UInt32}
  {token : Bytes} {reg reg' : Registry} {nowMs : UInt64}

theorem Registry.Keeps.of_get (h : reg'.Keeps s token)
    (hget : ∀ r', reg'[s]? = some r' → ∃ r, reg[s]? = some r ∧
      r'.resumeEnabled = r.resumeEnabled ∧ r'.resumeToken = r.resumeToken) : reg.Keeps s token := by
  obtain ⟨r', h, henabled, htoken⟩ := h
  obtain ⟨r, hrec, he, ht⟩ := hget r' h
  exact ⟨r, hrec, he ▸ henabled, ht ▸ htoken⟩

theorem Registry.Keeps.of_retain (h : (retain nowMs reg).Keeps s token) : reg.Keeps s token :=
  h.of_get fun r hrec => ⟨r, retain_get_some hrec, rfl, rfl⟩

theorem retire_token {r r' : RuntimeSessionRecord} (h : retire n r = some r') :
    r'.resumeEnabled = r.resumeEnabled ∧ r'.resumeToken = r.resumeToken := by
  unfold retire at h
  split_ifs at h <;> cases h <;> exact ⟨rfl, rfl⟩

namespace Registry.Keeps

theorem of_retire (h : reg'.Keeps s token)
    (hget : reg'[s]? = reg[s]? ∨ reg'[s]? = reg[s]?.bind (retire n)) : reg.Keeps s token := by
  refine h.of_get fun r' hrec' => ?_
  rcases hget with hget | hget <;> rw [hget] at hrec'
  · exact ⟨r', hrec', rfl, rfl⟩
  · obtain ⟨r, hrec, hretire⟩ := bind_eq_some_iff.mp hrec'
    exact ⟨r, hrec, retire_token hretire⟩

theorem of_markSessionInactive (h : (markSessionInactive reg t n).Keeps s token) :
    reg.Keeps s token :=
  h.of_retire (n := n) (by rw [markSessionInactive_get]; split_ifs <;> simp)

theorem of_markConnectionSessionsInactive {ids : BTreeSet UInt32}
    (h : (markConnectionSessionsInactive reg n ids).Keeps s token) : reg.Keeps s token :=
  h.of_retire (n := n) (by rw [markConnectionSessionsInactive_get]; split_ifs <;> simp)

theorem of_removeFromRegistry (h : (removeFromRegistry reg t n).Keeps s token) :
    reg.Keeps s token :=
  h.of_get fun r hrec => ⟨r, removeFromRegistry_get_some hrec, rfl, rfl⟩

theorem of_updateRegistryLastOperation {op : UInt64}
    (h : (updateRegistryLastOperation reg t op).Keeps s token) : reg.Keeps s token := by
  refine h.of_get fun r' hrec' => ?_
  rw [updateRegistryLastOperation_get] at hrec'
  split_ifs at hrec'
  · obtain ⟨r, hrec, rfl⟩ := map_eq_some_iff.mp hrec'
    exact ⟨r, hrec, rfl, rfl⟩
  · exact ⟨r', hrec', rfl, rfl⟩

end Registry.Keeps

namespace ServerState

theorem Tracked.of_shrinking (hw : w.Tracked) (hissued : w'.issued = w.issued)
    (hspent : w'.spent = w.spent)
    (hkept : ∀ {s token}, w'.registry.Keeps s token → w.registry.Keeps s token)
    (hhold : ∀ {n a}, w'.holding n = some a → w.holding n = some a)
    (hacked : ∀ {n a}, w.phase n = .acked a → w'.phase n = .acked a) : w'.Tracked := by
  have htokens : w'.tokens = w.tokens := by rw [tokens, tokens, hissued]
  have hdrawn : ∀ {token n}, w'.Drawn token n → w.Drawn token n := by
    rintro token n ⟨a, ha, h⟩
    exact ⟨a, hhold ha, h⟩
  have hpresents : ∀ {token n}, w'.Presents token n → w.Presents token n := by
    rintro token n ⟨a, ha, h⟩
    exact ⟨a, hhold ha, h⟩
  constructor
  · exact fun h => hissued ▸ hw.kept_issued (hkept h)
  · exact fun h he => hissued ▸ hw.drawn_issued (hhold h) he
  · exact fun h hk => hw.drawn_not_kept (hdrawn h) (hkept hk)
  · exact fun h h' => hw.drawn_once (hdrawn h) (hdrawn h')
  · exact fun h hr => hissued ▸ hw.presented_issued (hhold h) hr
  · exact fun h hd => hw.presented_not_drawn (hpresents h) (hdrawn hd)
  · exact fun h h' => hw.presented_once (hpresents h) (hpresents h')
  · exact fun h hne hr => hspent ▸ hw.unspent (hhold h) (fun ha => hne (hacked ha)) hr
  · exact fun h => htokens ▸ hw.spent_issued (hspent ▸ h)
  · exact fun h hd => hw.spent_not_drawn (hspent ▸ h) (hdrawn hd)
  · intro token s h hk
    obtain ⟨n, a, ha, hr⟩ := hw.spent_replaced (hspent ▸ h) (hkept hk)
    exact ⟨n, a, hacked ha, hr⟩
  · exact hspent ▸ hw.spent_nodup

theorem setPhase_acked (hn : ∀ a, w.phase n = .acked a → p = .acked a)
    (h : w.phase m = .acked a) : (w.setPhase n p).phase m = .acked a := by
  rw [setPhase_phase]
  split_ifs with hm
  · exact hn a (hm ▸ h)
  · exact h

theorem Tracked.setPhase (hw : w.Tracked)
    (hkept : ∀ {s token}, reg.Keeps s token → w.registry.Keeps s token)
    (hhold : ∀ a, p.holding = some a → w.holding n = some a)
    (hacked : ∀ a, w.phase n ≠ .acked a) : ((w.setRegistry reg).setPhase n p).Tracked :=
  hw.of_shrinking rfl rfl hkept (fun h => setPhase_holding_some (w := w) hhold h)
    (fun h => setPhase_acked (w := w.setRegistry reg) (fun a ha => absurd ha (hacked a)) h)

theorem mem_tokens (h : (s, token) ∈ w.issued) : token ∈ w.tokens :=
  mem_map.mpr ⟨(s, token), h, rfl⟩

theorem Tracked.drawn_mem (hw : w.Tracked) (h : w.Drawn token n) : token ∈ w.tokens := by
  obtain ⟨a, ha, he, rfl⟩ := h
  exact mem_tokens (hw.drawn_issued ha he)

theorem Tracked.presented_mem (hw : w.Tracked) (h : w.Presents token n) : token ∈ w.tokens := by
  obtain ⟨a, ha, hr, rfl⟩ := h
  exact mem_tokens (hw.presented_issued ha hr)

theorem session_eq_of_token (hfresh : w.tokens.Nodup) (h : (s, token) ∈ w.issued)
    (h' : (t, token) ∈ w.issued) : s = t := by
  have heq := inj_on_of_nodup_map hfresh h h' rfl
  exact congrArg Prod.fst heq

theorem Tracked.granted (hw : w.Tracked) (hwf : w.WellFormed) (hacc : a.accepted = true)
    (hphase : ∀ b, w.phase n ≠ .acked b)
    (hkeeps : a.resumeAttempt → (retain nowMs w.registry).Keeps a.sessionId a.presented)
    (hother : a.resumeAttempt → ∀ m, ¬w.Presents a.presented m)
    (hfresh : a.resumeEnabled = true → a.resumeToken ∉ w.tokens) :
    (((w.setRegistry (retain nowMs w.registry)).issue a).setPhase n (.registering a)).Tracked := by
  let w' := ((w.setRegistry (retain nowMs w.registry)).issue a).setPhase n (.registering a)
  have hissued {x} (hx : x ∈ w.issued) : x ∈ w'.issued := by
    simp only [w', setPhase_issued, issue_issued, setRegistry_issued]
    split_ifs
    · exact mem_append_left _ hx
    · exact hx
  have hhold {m b} (h : w'.holding m = some b) :
      (m = n ∧ b = a) ∨ (m ≠ n ∧ w.holding m = some b) := registering_holding hacc h
  have hdrawn {token m} : w'.Drawn token m → (m = n ∧ token ∉ w.tokens) ∨ w.Drawn token m := by
    rintro ⟨b, hb, he, rfl⟩
    rcases hhold hb with ⟨hm, rfl⟩ | ⟨-, hb⟩
    · exact .inl ⟨hm, hfresh he⟩
    · exact .inr ⟨b, hb, he, rfl⟩
  have hpresents {token m} : w'.Presents token m →
      (m = n ∧ a.resumeAttempt ∧ a.presented = token) ∨ w.Presents token m := by
    rintro ⟨b, hb, hr⟩
    rcases hhold hb with ⟨hm, rfl⟩ | ⟨-, hb⟩
    · exact .inl ⟨hm, hr⟩
    · exact .inr ⟨b, hb, hr⟩
  constructor
  · exact fun h => hissued (hw.kept_issued h.of_retain)
  · intro m b h he
    rcases hhold h with ⟨-, rfl⟩ | ⟨-, h⟩
    · simp [he]
    · exact hissued (hw.drawn_issued h he)
  · intro token m s h hk
    have hmem := mem_tokens (hw.kept_issued hk.of_retain)
    rcases hdrawn h with ⟨-, hnew⟩ | h
    · exact hnew hmem
    · exact hw.drawn_not_kept h hk.of_retain
  · intro token m m' h h'
    rcases hdrawn h with ⟨hm, hnew⟩ | hd
    · rcases hdrawn h' with ⟨hm', -⟩ | hd'
      · exact hm.trans hm'.symm
      · exact absurd (hw.drawn_mem hd') hnew
    · rcases hdrawn h' with ⟨-, hnew⟩ | hd'
      · exact absurd (hw.drawn_mem hd) hnew
      · exact hw.drawn_once hd hd'
  · intro m b h hr
    rcases hhold h with ⟨-, rfl⟩ | ⟨-, h⟩
    · exact hissued (hw.kept_issued (hkeeps hr).of_retain)
    · exact hissued (hw.presented_issued h hr)
  · intro token m m' h h'
    rcases hpresents h with ⟨-, hr, rfl⟩ | hpr
    · rcases hdrawn h' with ⟨-, hnew⟩ | hd'
      · exact hnew (mem_tokens (hw.kept_issued (hkeeps hr).of_retain))
      · exact hw.drawn_not_kept hd' (hkeeps hr).of_retain
    · rcases hdrawn h' with ⟨-, hnew⟩ | hd'
      · exact hnew (hw.presented_mem hpr)
      · exact hw.presented_not_drawn hpr hd'
  · intro token m m' h h'
    rcases hpresents h with ⟨hm, hr, rfl⟩ | hpr
    · rcases hpresents h' with ⟨hm', -⟩ | hpr'
      · exact hm.trans hm'.symm
      · exact absurd hpr' (hother hr _)
    · rcases hpresents h' with ⟨-, hr, rfl⟩ | hpr'
      · exact absurd hpr (hother hr _)
      · exact hw.presented_once hpr hpr'
  · intro m b h hne hr hspent
    rcases hhold h with ⟨-, rfl⟩ | ⟨hm, h⟩
    · obtain ⟨m', c, hc, hcr, htoken⟩ := hw.spent_replaced hspent (hkeeps hr).of_retain
      exact hother hr m' ⟨c, hwf.holding_of_acked hc, hcr, htoken⟩
    · rw [setPhase_phase_of_ne hm] at hne
      exact hw.unspent h hne hr hspent
  · intro token h
    obtain ⟨⟨s, _⟩, hmem, rfl⟩ := mem_map.mp (hw.spent_issued h)
    exact mem_tokens (hissued hmem)
  · intro token m h hd
    rcases hdrawn hd with ⟨-, hnew⟩ | hd
    · exact hnew (hw.spent_issued h)
    · exact hw.spent_not_drawn h hd
  · intro token s h hk
    obtain ⟨m, b, hb, hr⟩ := hw.spent_replaced h hk.of_retain
    refine ⟨m, b, setPhase_acked ?_ hb, hr⟩
    exact fun c hc => absurd hc (hphase c)
  · exact hw.spent_nodup

theorem recordAck_spent : (w.recordAck a).spent =
    w.spent ++ if a.resumed then [a.presented] else [] := by
  unfold spent
  rw [recordAck_acks, filter_append, map_append]
  cases ha : a.resumed <;> simp [ha]

theorem Tracked.recordAck_refusal (hw : w.Tracked) (ha : a.resumed = false) :
    (w.recordAck a).Tracked :=
  hw.of_shrinking rfl (by simp [recordAck_spent, ha]) id id id

theorem Tracked.recordAck_resumed (hw : w.Tracked) (hp : w.phase n = .acked a)
    (hheld : w.holding n = some a) (hr : a.resumeAttempt) (ha : a.resumed = true)
    (hnew : a.presented ∉ w.spent) : (w.recordAck a).Tracked := by
  have heq : (w.recordAck a).spent = w.spent ++ [a.presented] := by rw [recordAck_spent, if_pos ha]
  have hspent {token} (h : token ∈ (w.recordAck a).spent) :
      token ∈ w.spent ∨ token = a.presented := by
    simpa [heq] using h
  refine { hw with unspent := ?_, spent_issued := ?_, spent_not_drawn := ?_,
                   spent_replaced := ?_, spent_nodup := ?_ }
  · intro m b h hne hb hmem
    rcases hspent hmem with hold | hsame
    · exact hw.unspent h hne hb hold
    · obtain rfl : m = n := hw.presented_once ⟨b, h, hb, hsame⟩ ⟨a, hheld, hr, rfl⟩
      exact hne (some.inj (hheld.symm.trans h) ▸ hp)
  · intro token h
    rcases hspent h with h | rfl
    · exact hw.spent_issued h
    · exact mem_tokens (hw.presented_issued hheld hr)
  · intro token m h hd
    rcases hspent h with h | rfl
    · exact hw.spent_not_drawn h hd
    · exact hw.presented_not_drawn ⟨a, hheld, hr, rfl⟩ hd
  · intro token s h hk
    rcases hspent h with h | rfl
    · exact hw.spent_replaced h hk
    · exact ⟨n, a, hp, hr, rfl⟩
  · rw [heq]
    exact List.Nodup.append hw.spent_nodup (nodup_singleton _) (by simpa using hnew)

theorem Tracked.acked (hw : w.Tracked) (hp : w.phase n = .acking a) (hacc : a.accepted = true)
    (hresumed : a.resumed = true → a.resumeAttempt) :
    ((w.recordAck a).setPhase n (.acked a)).Tracked := by
  have hheld : w.holding n = some a := by simp [holding, hp, Phase.holding, hacc]
  have hacked : ((w.setRegistry w.registry).setPhase n (.acked a)).Tracked :=
    hw.setPhase id (by simp [Phase.holding, hacc, hheld]) (by simp [hp])
  by_cases ha : a.resumed = true
  · refine hacked.recordAck_resumed (n := n) setPhase_phase_self ?_ (hresumed ha) ha ?_
    · simp [setPhase_holding, Phase.holding, hacc]
    · exact hw.unspent hheld (by simp [hp]) (hresumed ha)
  · exact hacked.recordAck_refusal (by simpa using ha)

theorem Tracked.insert (hw : w.Tracked) (hfresh : w.tokens.Nodup) (hp : w.phase n = .acked a)
    (hheld : w.holding n = some a) :
    ((w.setRegistry (w.registry.insert a.sessionId (a.record w.config n))).setPhase n
      (.inserted a)).Tracked := by
  let w' := (w.setRegistry (w.registry.insert a.sessionId (a.record w.config n))).setPhase n
    (.inserted a)
  have hkept {s token} : w'.registry.Keeps s token →
      (s = a.sessionId ∧ a.resumeEnabled = true ∧ token = a.resumeToken) ∨
        (s ≠ a.sessionId ∧ w.registry.Keeps s token) := by
    rintro ⟨r, hrec, he, ht⟩
    rw [setPhase_registry, setRegistry_registry, get_insert] at hrec
    split_ifs at hrec with hs
    · cases hrec
      exact .inl ⟨hs.symm, he, ht.symm⟩
    · exact .inr ⟨Ne.symm hs, r, hrec, he, ht⟩
  have hhold {m b} (h : w'.holding m = some b) : m ≠ n ∧ w.holding m = some b :=
    inserted_holding h
  have hdrawn {token m} : w'.Drawn token m → m ≠ n ∧ w.Drawn token m := by
    rintro ⟨b, hb, h⟩
    exact ⟨(hhold hb).1, b, (hhold hb).2, h⟩
  have hpresents {token m} : w'.Presents token m → w.Presents token m := by
    rintro ⟨b, hb, h⟩
    exact ⟨b, (hhold hb).2, h⟩
  constructor
  · intro s token h
    rcases hkept h with ⟨rfl, he, rfl⟩ | ⟨-, h⟩
    · exact hw.drawn_issued hheld he
    · exact hw.kept_issued h
  · exact fun h he => hw.drawn_issued (hhold h).2 he
  · intro token m s h hk
    obtain ⟨hm, h⟩ := hdrawn h
    rcases hkept hk with ⟨-, he, rfl⟩ | ⟨-, hk⟩
    · exact hm (hw.drawn_once h ⟨a, hheld, he, rfl⟩)
    · exact hw.drawn_not_kept h hk
  · exact fun h h' => hw.drawn_once (hdrawn h).2 (hdrawn h').2
  · exact fun h hr => hw.presented_issued (hhold h).2 hr
  · exact fun h hd => hw.presented_not_drawn (hpresents h) (hdrawn hd).2
  · exact fun h h' => hw.presented_once (hpresents h) (hpresents h')
  · intro m b h hne hr
    obtain ⟨hm, h⟩ := hhold h
    rw [setPhase_phase_of_ne hm] at hne
    exact hw.unspent h hne hr
  · exact hw.spent_issued
  · exact fun h hd => hw.spent_not_drawn h (hdrawn hd).2
  · intro token s h hk
    rcases hkept hk with ⟨-, he, rfl⟩ | ⟨hs, hold⟩
    · exact absurd ⟨a, hheld, he, rfl⟩ (hw.spent_not_drawn h)
    · obtain ⟨m, b, hb, hr, rfl⟩ := hw.spent_replaced h hold
      by_cases hm : m = n
      · -- the token was kept for the session whose record is replaced
        subst hm
        cases hp.symm.trans hb
        have hissued := hw.presented_issued hheld hr
        exact absurd (session_eq_of_token hfresh (hw.kept_issued hold) hissued) hs
      · exact ⟨m, b, by rw [setPhase_phase_of_ne hm]; exact hb, hr, rfl⟩
  · exact hw.spent_nodup

end ServerState

theorem Attempt.resumed_iff : a.resumed = true ↔ a.accepted = true ∧ a.resumeAttempt := by
  unfold Attempt.resumed Attempt.resumeAttempt
  rw [decide_eq_true_iff, a.sessionStatus_eq]
  cases a.accepted <;> simp [UInt32.pos_iff_ne_zero]

theorem Transition.tokens_eq (h : Transition w e w') :
    w'.tokens = w.tokens ∨ ∃ token, w'.tokens = w.tokens ++ [token] := by
  cases h with
  | @granted n random req pres dec nowMs a hp ha hacc =>
    unfold tokens
    simp only [setPhase_issued, issue_issued, setRegistry_issued]
    split_ifs
    · exact .inr ⟨a.resumeToken, by simp⟩
    · exact .inl rfl
  | _ => exact .inl rfl

theorem Transition.tokens_nodup (h : Transition w e w') (hfresh : w'.tokens.Nodup) :
    w.tokens.Nodup := by
  rcases h.tokens_eq with heq | ⟨token, heq⟩
  · rwa [heq] at hfresh
  · rw [heq] at hfresh
    exact hfresh.of_append_left

theorem Transition.tracked (h : Transition w e w') (hwf : w.WellFormed) (hfresh : w'.tokens.Nodup)
    (hw : w.Tracked) (he : w.Unshared e) : w'.Tracked := by
  cases h with
  | connect =>
    refine hw.of_shrinking rfl rfl id connect_holding_some ?_
    intro m a h
    have hm := hwf.phase_lt (n := m) (by simp [h])
    rwa [connect_phase_of_ne hm.ne]
  | @hello n accepted hp =>
    exact hw.setPhase id (by cases accepted <;> simp [Phase.holding]) (by simp [hp])
  | @receive n pkt unixTimeUs written hp =>
    rcases receivePhase_cases pkt unixTimeUs written with h | h | ⟨req, h⟩ <;>
      rw [h] <;> exact hw.setPhase id (by simp [Phase.holding]) (by simp [hp])
  | readFailed hp | evaluate hp | ackFailed hp =>
    exact hw.setPhase id (by simp [Phase.holding]) (by simp [hp])
  | failed hp => exact hw.setPhase (fun h => h.of_retain) (by simp [Phase.holding]) (by simp [hp])
  | refused hp ha =>
    exact hw.setPhase (fun h => h.of_retain) (by simp [Phase.holding, ha]) (by simp [hp])
  | @granted n random req pres dec nowMs a hp ha hacc =>
    obtain ⟨rfl, rfl, hid, -, haccepted⟩ := prepare_ok ha
    refine hw.granted hwf hacc (by simp [hp]) (fun hr => ?_) (fun hr => he _ _ _ _ hp hr) ?_
    · rw [hid]
      rcases allocate_cases (haccepted.mp hacc).2 with ⟨-, r, hrec, hres, heq⟩ | ⟨hno, -⟩ | ⟨hno, -⟩
      · rw [heq]
        obtain ⟨henabled, -, -, htoken⟩ := resumable_iff.mp hres
        exact ⟨r, hrec, henabled, htoken⟩
      all_goals exact absurd hr hno
    · intro henabled hmem
      have htokens : (((w.setRegistry (retain nowMs w.registry)).issue a).setPhase n
          (.registering a)).tokens = w.tokens ++ [a.resumeToken] := by
        simp [tokens, henabled]
      rw [htokens, nodup_append] at hfresh
      exact hfresh.2.2 _ hmem _ (mem_singleton_self _) rfl
  | @register n registered a hp =>
    refine hw.setPhase id ?_ (by simp [hp])
    cases registered <;> simp [Phase.holding, holding, hp]
  | acked hp ha => exact hw.acked hp ha fun h => (Attempt.resumed_iff.mp h).2
  | @ackedRefusal n a hp ha =>
    have hack : (w.recordAck a).Tracked := by
      refine hw.recordAck_refusal ?_
      by_contra hne
      have hacc := (Attempt.resumed_iff.mp (by simpa using hne)).1
      rw [ha] at hacc
      cases hacc
    exact hack.setPhase id (by simp [Phase.holding]) (fun b hb => by cases hp.symm.trans hb)
  | insertFailed hp herror => exact absurd herror (applySessionOpenAck_ne_error (hwf.accepted hp))
  | insert hp => exact hw.insert hfresh hp (hwf.holding_of_acked hp)
  | @deliver n a hp =>
    refine hw.of_shrinking rfl rfl id addSession_holding_some ?_
    intro m b h
    have hm : m ≠ n := by
      rintro rfl
      cases hp.symm.trans h
    rwa [addSession_phase_of_ne hm]
  | undelivered hp =>
    exact hw.setPhase (fun h => h.of_markSessionInactive) (by simp [Phase.holding]) (by simp [hp])
  | teardown hp =>
    exact hw.setPhase (fun h => h.of_markConnectionSessionsInactive) (by simp [Phase.holding])
      (by simp [hp])
  | closeSession hk =>
    exact hw.of_shrinking rfl rfl (fun h => h.of_removeFromRegistry) id id
  | operation hk =>
    exact hw.of_shrinking rfl rfl (fun h => h.of_updateRegistryLastOperation) id
      id
  | dropListener | tick => exact hw.of_shrinking rfl rfl id id id

theorem start_tracked : (start config).Tracked := by
  have hkept : ∀ {s token}, ¬(start config).registry.Keeps s token := by
    rintro s token ⟨r, hrec, -⟩
    simp [start] at hrec
  have hheld : ∀ {n a}, (start config).holding n ≠ some a := fun h => by cases h
  have hdrawn : ∀ {token n}, ¬(start config).Drawn token n := by
    rintro token n ⟨a, ha, -⟩
    exact hheld ha
  have hpresents : ∀ {token n}, ¬(start config).Presents token n := by
    rintro token n ⟨a, ha, -⟩
    exact hheld ha
  have hspent : ∀ {token}, token ∉ (start config).spent := not_mem_nil
  constructor
  · exact fun h => absurd h hkept
  · exact fun h => absurd h hheld
  · exact fun h => absurd h hdrawn
  · exact fun h => absurd h hdrawn
  · exact fun h => absurd h hheld
  · exact fun h => absurd h hpresents
  · exact fun h => absurd h hpresents
  · exact fun h => absurd h hheld
  · exact fun h => absurd h hspent
  · exact fun h => absurd h hspent
  · exact fun h => absurd h hspent
  · exact nodup_nil

variable {es : List Event}

theorem run_tracked (hr : run step (start config) es = some w)
    (hc : Along step ServerState.Unshared (start config) es) (hfresh : w.tokens.Nodup) :
    w.Tracked := by
  have h := run_invariant (fun w => w.WellFormed ∧ (w.tokens.Nodup → w.Tracked))
    (fun _ _ _ hw he hs => ⟨(step_transition hs).wellFormed hw.1, fun hfresh =>
      (step_transition hs).tracked hw.1 hfresh
        (hw.2 ((step_transition hs).tokens_nodup hfresh)) he⟩)
    ⟨start_wellFormed, fun _ => start_tracked⟩ hc hr
  exact h.2 hfresh

theorem ServerState.WellFormed.unshared_of_solitary (hw : w.WellFormed) (h : w.Solitary e) :
    w.Unshared e := by
  cases e with
  | lookup n random =>
    rintro req pres dec nowMs - - m ⟨a, ha, -⟩
    exact hw.not_holding_of_solitary h ha
  | _ => trivial

/-- In every run in which no open looks up a token that another open in flight presents, and the
random source repeats no token, no two opens presenting one token are acknowledged as resumed. -/
theorem resume_tokens_single_use (config : NnrpServerConfig) {es : List Event}
    (hr : run step (start config) es = some w)
    (hc : Along step ServerState.Unshared (start config) es)
    (hfresh : w.tokens.Nodup) : w.spent.Nodup :=
  (run_tracked hr hc hfresh).spent_nodup

def countingFrom (start : UInt8) : Option (ℕ → UInt8) := some fun i => start + UInt8.ofNat i

def resumePacket : RuntimePacket := sessionOpenPacket 1 sessionFlagAllowResume [0, 1, 2, 3]

def openAndDisconnect : List Event :=
  twoConnections ++ requestOpen 1 (sessionOpenPacket 0 sessionFlagAllowResume []) ++
    acknowledgeOpen 1 (countingFrom 0) ++ [.insert 1, .deliver 1, .readFailed 1, .teardown 1]

def resumeInTurn : List Event :=
  openAndDisconnect ++ requestOpen 2 resumePacket ++ acknowledgeOpen 2 (countingFrom 4) ++
    [.insert 2]

theorem resume_tokens_single_use_in_turn :
    ∃ w, run step (start tensorConfig) resumeInTurn = some w ∧
      w.spent = [[0, 1, 2, 3]] ∧ w.spent.Nodup := by
  have h : (run step (start tensorConfig) resumeInTurn).map
      (fun w => (w.tokens, w.spent)) = some ([[0, 1, 2, 3], [4, 5, 6, 7]], [[0, 1, 2, 3]]) := by
    decide +kernel
  have hc : Along step ServerState.Solitary (start tensorConfig) resumeInTurn := by
    decide +kernel
  obtain ⟨w, hw, h⟩ := map_eq_some_iff.mp h
  rw [Prod.mk.injEq] at h
  have hfresh : w.tokens.Nodup := by
    rw [h.1]
    decide
  have hunshared := Along.imp ServerState.WellFormed
    (fun _ _ _ hw _ hs => (step_transition hs).wellFormed hw)
    (fun _ _ hw he => hw.unshared_of_solitary he) start_wellFormed hc
  exact ⟨w, hw, h.2, resume_tokens_single_use tensorConfig hw hunshared hfresh⟩

def racingResumes : List Event :=
  openAndDisconnect ++ [.connect, .hello 3 true] ++ requestOpen 2 resumePacket ++
    requestOpen 3 resumePacket ++ acknowledgeOpen 2 (countingFrom 4) ++
    acknowledgeOpen 3 (countingFrom 8)

/-- Both are acknowledged as resumed although the random source repeats no token. -/
theorem racing_resumes_spend_a_token_twice :
    ∃ w, run step (start tensorConfig) racingResumes = some w ∧
      w.tokens.Nodup ∧ w.spent = [[0, 1, 2, 3], [0, 1, 2, 3]] := by
  have h : (run step (start tensorConfig) racingResumes).map
      (fun w => (decide w.tokens.Nodup, w.spent)) =
      some (true, [[0, 1, 2, 3], [0, 1, 2, 3]]) := by
    decide +kernel
  obtain ⟨w, hw, h⟩ := map_eq_some_iff.mp h
  rw [Prod.mk.injEq, decide_eq_true_iff] at h
  exact ⟨w, hw, h⟩

end Nnrp.Server
