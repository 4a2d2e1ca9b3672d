import Nnrp.ServerAccept

/-!
# Opens in flight

Between its lookup and its insert an accepted open holds an id, and with it a fresh resume
token, that the registry does not show. `holding` names it, and `WellFormed` is what holds in
every state however the tasks are interleaved.
-/

namespace Nnrp.Server
open ByteOrder Packet OrderedMap Fallible LabelledRun Option ServerState

/-- The accepted open between its lookup and its insert. -/
def Phase.holding : Phase → Option Attempt
  | .registering a | .acking a | .acked a => if a.accepted then some a else none
  | .hello | .idle | .evaluating .. | .locking .. | .inserted _ | .broken | .down => none

def Phase.inserted? : Phase → Option Attempt
  | .inserted a => some a
  | .hello | .idle | .evaluating .. | .locking .. | .registering _ | .acking _ | .acked _
  | .broken | .down => none

theorem Phase.inserted?_eq_some {p : Phase} {a : Attempt} :
    p.inserted? = some a ↔ p = .inserted a := by
  cases p <;> simp [Phase.inserted?]

namespace ServerState

variable (w : ServerState)

def holding (n : ℕ) : Option Attempt := (w.phase n).holding

structure WellFormed : Prop where
  phase_lt : ∀ {n}, w.phase n ≠ .down → n < w.nextConnectionNonce
  object_lt : ∀ {k}, k < w.sessionCount → (w.sessions k).connectionNonce < w.nextConnectionNonce
  accepted : ∀ {n a}, w.phase n = .acked a → a.accepted = true

end ServerState

variable {w w' : ServerState} {n m k : ℕ} {a b : Attempt} {p : Phase} {s : UInt32}

section
variable {reg : Registry} {r r' : RuntimeSessionRecord} {nowMs : UInt64} {t : UInt32}

theorem retain_get_some (h : (retain nowMs reg)[s]? = some r) : reg[s]? = some r := by
  rw [retain_get] at h
  exact (filter_eq_some_iff.mp h).1

theorem retain_get_active (nowMs : UInt64) (h : reg[s]? = some r) (ha : r.active = true) :
    (retain nowMs reg)[s]? = some r := by
  simp [retain_get, h, ha, Option.filter]

theorem retire_active (h : retire n r = some r') (ha : r'.active = true) : r = r' := by
  unfold retire at h
  split_ifs at h
  · cases h
    cases ha
  · cases h
    rfl

theorem retire_of_ne (hn : r.connectionNonce ≠ n) : retire n r = some r :=
  if_neg hn

theorem markSessionInactive_get_active (h : (markSessionInactive reg t n)[s]? = some r)
    (ha : r.active = true) : reg[s]? = some r := by
  rw [markSessionInactive_get] at h
  split_ifs at h
  · obtain ⟨r', h', hretire⟩ := bind_eq_some_iff.mp h
    rwa [retire_active hretire ha] at h'
  · exact h

theorem markConnectionSessionsInactive_get_active {ids : BTreeSet UInt32}
    (h : (markConnectionSessionsInactive reg n ids)[s]? = some r)
    (ha : r.active = true) : reg[s]? = some r := by
  rw [markConnectionSessionsInactive_get] at h
  split_ifs at h
  · obtain ⟨r', h', hretire⟩ := bind_eq_some_iff.mp h
    rwa [retire_active hretire ha] at h'
  · exact h

theorem removeFromRegistry_get_some (h : (removeFromRegistry reg t n)[s]? = some r) :
    reg[s]? = some r := by
  rw [removeFromRegistry_get] at h
  split_ifs at h
  · exact (filter_eq_some_iff.mp h).1
  · exact h

end

namespace ServerState

theorem setPhase_holding :
    (w.setPhase n p).holding m = if m = n then p.holding else w.holding m := by
  unfold holding
  rw [setPhase_phase]
  split <;> rfl

theorem registering_holding (hacc : a.accepted = true)
    (h : (w.setPhase n (.registering a)).holding m = some b) :
    (m = n ∧ b = a) ∨ (m ≠ n ∧ w.holding m = some b) := by
  rw [setPhase_holding, Phase.holding, if_pos hacc] at h
  split_ifs at h with hm
  · exact .inl ⟨hm, (some.inj h).symm⟩
  · exact .inr ⟨hm, h⟩

theorem inserted_holding (h : (w.setPhase n (.inserted a)).holding m = some b) :
    m ≠ n ∧ w.holding m = some b := by
  rw [setPhase_holding] at h
  split_ifs at h with hm
  · cases h
  · exact ⟨hm, h⟩

theorem setPhase_holding_some (hp : ∀ a, p.holding = some a → w.holding n = some a)
    (h : (w.setPhase n p).holding m = some a) : w.holding m = some a := by
  rw [setPhase_holding] at h
  split_ifs at h with hm
  · exact hm ▸ hp a h
  · exact h

theorem connect_phase_of_ne (hm : m ≠ w.nextConnectionNonce) : w.connect.phase m = w.phase m := by
  simp [phase, hm]

theorem connect_holding_some (h : w.connect.holding m = some a) : w.holding m = some a := by
  by_cases hm : m = w.nextConnectionNonce
  · simp [holding, phase, hm, Phase.holding] at h
  · rwa [holding, connect_phase_of_ne hm] at h

theorem receivePhase_cases (pkt : RuntimePacket) (unixTimeUs : UInt64) (written : Bool) :
    receivePhase pkt unixTimeUs written = .idle ∨ receivePhase pkt unixTimeUs written = .broken ∨
      ∃ req, receivePhase pkt unixTimeUs written = .evaluating req pkt.body := by
  unfold receivePhase
  split
  · split
    · cases written <;> simp
    · simp
  · split <;> simp
  · simp

theorem WellFormed.setPhase (hw : w.WellFormed) (hdown : w.phase n ≠ .down)
    (hp : ∀ a, p = .acked a → a.accepted = true) : (w.setPhase n p).WellFormed where
  phase_lt {m} h := by
    by_cases hm : m = n
    · rw [hm]
      exact hw.phase_lt hdown
    · rw [setPhase_phase_of_ne hm] at h
      exact hw.phase_lt h
  object_lt := hw.object_lt
  accepted {m a} h := by
    rw [setPhase_phase] at h
    split_ifs at h
    · exact hp a h
    · exact hw.accepted h

theorem WellFormed.connect (hw : w.WellFormed) : w.connect.WellFormed where
  phase_lt {m} h := by
    by_cases hm : m = w.nextConnectionNonce
    · rw [hm]
      exact Nat.lt_succ_self _
    · rw [connect_phase_of_ne hm] at h
      exact (hw.phase_lt h).trans (Nat.lt_succ_self _)
  object_lt hk := (hw.object_lt hk).trans (Nat.lt_succ_self _)
  accepted {m a} h := by
    by_cases hm : m = w.nextConnectionNonce
    · simp [phase, hm] at h
    · rw [connect_phase_of_ne hm] at h
      exact hw.accepted h

theorem addSession_holding_some (h : (w.addSession n b).holding m = some a) :
    w.holding m = some a := by
  by_cases hm : m = n
  · simp [holding, hm, Phase.holding] at h
  · rwa [holding, addSession_phase_of_ne hm] at h

theorem WellFormed.addSession (hw : w.WellFormed) (hn : n < w.nextConnectionNonce) :
    (w.addSession n a).WellFormed where
  phase_lt {m} h := by
    by_cases hm : m = n
    · exact hm ▸ hn
    · rw [addSession_phase_of_ne hm] at h
      exact hw.phase_lt h
  object_lt {k} hk := by
    by_cases hkc : k = w.sessionCount
    · simpa [hkc] using hn
    · rw [addSession_sessionCount] at hk
      simp only [addSession_sessions, Function.update_of_ne hkc]
      exact hw.object_lt (by omega)
  accepted {m a} h := by
    by_cases hm : m = n
    · simp [hm] at h
    · rw [addSession_phase_of_ne hm] at h
      exact hw.accepted h

theorem WellFormed.closeSession (hw : w.WellFormed) (hk : k < w.sessionCount) :
    (w.closeSession k).WellFormed where
  phase_lt := hw.phase_lt
  object_lt {j} hj := by
    by_cases hjk : j = k
    · simpa [hjk] using hw.object_lt hk
    · simpa [Function.update_of_ne hjk] using hw.object_lt (k := j) hj
  accepted := hw.accepted

theorem WellFormed.holding_of_acked (hwf : w.WellFormed) (h : w.phase n = .acked a) :
    w.holding n = some a := by
  simp [holding, h, Phase.holding, hwf.accepted h]

end ServerState

theorem Transition.wellFormed {e : Event} (h : Transition w e w') (hw : w.WellFormed) :
    w'.WellFormed := by
  have hsame : ∀ reg, (w.setRegistry reg).WellFormed :=
    fun _ => { hw with }
  cases h with
  | connect => exact hw.connect
  | @hello n accepted hp => exact hw.setPhase (by simp [hp]) (by cases accepted <;> simp)
  | @receive n pkt unixTimeUs written hp =>
    refine hw.setPhase (by simp [hp]) ?_
    rcases receivePhase_cases pkt unixTimeUs written with h | h | ⟨req, h⟩ <;> simp [h]
  | readFailed hp | evaluate hp | ackFailed hp | insertFailed hp =>
    exact hw.setPhase (by simp [hp]) (by simp)
  | @register n registered a hp => exact hw.setPhase (by simp [hp]) (by cases registered <;> simp)
  | failed hp | refused hp | insert hp | undelivered hp | teardown hp =>
    exact (hsame _).setPhase (fun h => by cases hp.symm.trans h) (by simp)
  | granted hp | ackedRefusal hp =>
    refine ServerState.WellFormed.setPhase { hw with }
      (fun h => by cases hp.symm.trans h) (by simp)
  | acked hp ha =>
    refine ServerState.WellFormed.setPhase { hw with }
      (fun h => by cases hp.symm.trans h) ?_
    rintro b ⟨⟩
    exact ha
  | deliver hp => exact hw.addSession (hw.phase_lt (by simp [hp]))
  | closeSession hk => exact hw.closeSession hk
  | operation => exact hsame _
  | dropListener | tick => exact { hw with }

section
variable {cfg : NnrpServerConfig} {es : List Event}

theorem start_wellFormed : (start cfg).WellFormed :=
  ⟨fun h => absurd rfl h, fun hk => absurd hk (Nat.not_lt_zero _), fun h => by cases h⟩

theorem run_wellFormed (hr : run step (start cfg) es = some w) : w.WellFormed :=
  run_induction ServerState.WellFormed (fun _ _ _ hw hs => (step_transition hs).wellFormed hw)
    start_wellFormed hr

end

def sessionOpenPacket (requestedSessionId : UInt32) (sessionFlags : UInt8) (token : Bytes) :
    RuntimePacket :=
  ⟨CommonHeader.new .sessionOpen 48 (UInt32.ofNat token.length),
    writeU32 (writeU8 (writeU16 (writeU32 (List.replicate 48 0) 0 requestedSessionId) 4
      profileTensor) 7 sessionFlags) 28 (UInt32.ofNat token.length), token⟩

def tensorConfig : NnrpServerConfig where
  supportedProfiles := [profileTensor]
  schemas := [(0, 0)]
  resumeTokenBytes := 4
  maxInFlightOperations := 8
  grantedOperationCredit := 8
  leaseTtlMs := 0
  resumeWindowMs := 1000

def requestOpen (n : ℕ) (packet : RuntimePacket) : List Event :=
  [.receive n packet 0 true, .evaluate n .accept]

def acknowledgeOpen (n : ℕ) (random : Option (ℕ → UInt8)) : List Event :=
  [.lookup n random, .register n true, .writeAck n true]

def twoConnections : List Event := [.connect, .hello 1 true, .connect, .hello 2 true]

def opensInTurn : List Event :=
  twoConnections ++ requestOpen 1 (sessionOpenPacket 0 0 []) ++ acknowledgeOpen 1 none ++
    [.insert 1, .deliver 1] ++ requestOpen 2 (sessionOpenPacket 0 0 []) ++
    acknowledgeOpen 2 none ++ [.insert 2, .deliver 2]

def openLabels (n : ℕ) (packet : RuntimePacket) (decision : NnrpServerPolicyDecision)
    (random : Option (ℕ → UInt8)) (accepted : Bool) : List Event :=
  [.receive n packet 0 true, .evaluate n decision, .lookup n random] ++
    if accepted then [.register n true, .writeAck n true, .insert n, .deliver n]
    else [.writeAck n true]

/-- Taken without a break, the steps do what the function does as a whole. -/
theorem acceptConnectionSession_run {packet ackPkt : RuntimePacket} {random : Option (ℕ → UInt8)}
    {decision : NnrpServerPolicyDecision} {reg : Registry} (hp : w.phase n = .idle)
    (hlistener : w.listenerAlive = true) (htype : packet.messageType = .sessionOpen)
    (h : acceptConnectionSession w.config n packet decision w.clock random w.registry =
      .ok (a, ackPkt, reg)) :
    ∃ w', run step w (openLabels n packet decision random a.accepted) = some w' ∧
      w'.registry = reg ∧ w'.acks = w.acks ++ [a] ∧ w'.phase n = .idle := by
  rw [acceptConnectionSession] at h
  obtain ⟨req, hreq, h⟩ := bind_eq_ok.mp h
  obtain ⟨attempt, hprep, h⟩ := bind_eq_ok.mp h
  obtain ⟨ack, hack, h⟩ := bind_eq_ok.mp h
  have hreceive : receivePhase packet 0 true = .evaluating req packet.body := by
    simp [receivePhase, htype, hreq]
  split_ifs at h with hacc
  · obtain ⟨life, hlife, h⟩ := bind_eq_ok.mp h
    rw [liftNnrp_eq_ok] at hlife
    cases h
    simp [openLabels, run, step, hp, hreceive, lookup, hprep, hacc, writeAck, hack,
      ServerState.insert, hlife, deliver, hlistener]
  · cases h
    simp [openLabels, run, step, hp, hreceive, lookup, hprep, hacc, writeAck, hack]

/-- The steps that may end a session of connection `n`. -/
def Event.Ends (w : ServerState) (s : UInt32) (n : ℕ) : Event → Prop
  | .insert m => ∃ a, w.phase m = .acked a ∧ a.sessionId = s
  | .deliver m => m = n ∧ ∃ a, w.phase m = .inserted a ∧ a.sessionId = s
  | .teardown m => m = n
  | .closeSession k => (w.sessions k).sessionId = s ∧ (w.sessions k).connectionNonce = n
  | _ => False

variable {r : RuntimeSessionRecord}

/-- The record stands, up to the progress of its operations. -/
def ServerState.Keeps (s : UInt32) (r : RuntimeSessionRecord) (w : ServerState) : Prop :=
  ∃ id, w.registry[s]? = some { r with lastOperationId := id }

theorem Transition.keeps {e : Event} (h : Transition w e w') (hactive : r.active = true)
    (he : ¬e.Ends w s r.connectionNonce) (hrec : w.Keeps s r) : w'.Keeps s r := by
  obtain ⟨id, hrec⟩ := hrec
  cases h with
  | failed | refused | granted => exact ⟨id, retain_get_active _ hrec hactive⟩
  | @insert m a hp =>
    refine ⟨id, get_insert.trans ?_⟩
    rw [if_neg fun hs => he ⟨a, hp, hs⟩, hrec]
  | @undelivered m a hp =>
    refine ⟨id, markSessionInactive_get.trans ?_⟩
    split_ifs with hs
    · simp [hrec, retire, Ne.symm fun hm => he ⟨hm, a, hp, hs⟩]
    · exact hrec
  | teardown =>
    refine ⟨id, markConnectionSessionsInactive_get.trans ?_⟩
    simp [hrec, retire, Ne.symm he]
  | closeSession =>
    refine ⟨id, removeFromRegistry_get.trans ?_⟩
    split_ifs with hs
    · simp [hrec, Option.filter, Ne.symm fun hn => he ⟨hs, hn⟩]
    · exact hrec
  | @operation k op =>
    by_cases hs : (w.sessions k).sessionId = s
    · exact ⟨max id op, updateRegistryLastOperation_get.trans (by simp [hs, hrec])⟩
    · exact ⟨id, updateRegistryLastOperation_get.trans (by simp [hs, hrec])⟩
  | _ => exact ⟨id, hrec⟩

/-- However the tasks are interleaved, an active session keeps its record until a step of its own
connection ends it or an open is granted its id. -/
theorem record_kept_by_others {es : List Event} (hactive : r.active = true)
    (hrec : w.registry[s]? = some r) (hr : run step w es = some w')
    (hothers : Along step (fun w e => ¬e.Ends w s r.connectionNonce) w es) : w'.Keeps s r :=
  run_invariant (Keeps s r) (fun _ _ _ h he hs => (step_transition hs).keeps hactive he h)
    ⟨_, hrec⟩ hothers hr

theorem record_kept_by_teardown :
    ∃ w w' r, run step (start tensorConfig) opensInTurn = some w ∧
      w.registry[(1 : UInt32)]? = some r ∧ (w.registry[(2 : UInt32)]?).isSome = true ∧
      run step w [.readFailed 2, .teardown 2] = some w' ∧
      (w'.registry[(2 : UInt32)]?).isSome = false ∧ w'.Keeps 1 r := by
  have hopens : (run step (start tensorConfig) opensInTurn).map
      (fun w => ((w.registry[(1 : UInt32)]?).map fun r => (r.active, r.connectionNonce),
        (w.registry[(2 : UInt32)]?).isSome)) = some (some (true, 1), true) := by
    decide +kernel
  have hdown : (run step (start tensorConfig) (opensInTurn ++ [.readFailed 2, .teardown 2])).map
      (fun w => (w.registry[(2 : UInt32)]?).isSome) = some false := by
    decide +kernel
  obtain ⟨w, hw, hrecords⟩ := Option.map_eq_some_iff.mp hopens
  obtain ⟨hfirst, hsecond⟩ := Prod.mk.inj hrecords
  obtain ⟨r, hr, hfields⟩ := Option.map_eq_some_iff.mp hfirst
  obtain ⟨hactive, hnonce⟩ := Prod.mk.inj hfields
  rw [run_append, hw] at hdown
  obtain ⟨w', hw', hended⟩ := Option.map_eq_some_iff.mp hdown
  refine ⟨w, w', r, hw, hr, hsecond, hw', hended, ?_⟩
  exact record_kept_by_others hactive hr hw' (by simp [Along, Event.Ends, hnonce])

end Nnrp.Server
