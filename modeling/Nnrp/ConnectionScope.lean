import Nnrp.ControlUpdate
import Nnrp.Multiplex
import Nnrp.OpenInFlight

/-!
# Connection-scoped packets at the server

The driver hands every packet with session id zero to the control receiver, and the task that
reads from it knows probes and `SESSION_OPEN` only. So a packet that a session would decode at
connection scope never reaches a session: it ends the read loop, and with it the connection and
all of its sessions.
-/

namespace Nnrp.Server
open ByteOrder Packet OrderedMap LabelledRun ControlUpdate ServerState

def Retired (n : ℕ) (ids : BTreeSet UInt32) (registry : Registry) : Prop :=
  ∀ s ∈ ids, ∀ record, registry[s]? = some record → record.connectionNonce = n →
    record.active = false

/-- Connection `n` with the sessions `ids` has left its read loop, and it is not torn down before
its sessions are retired. -/
structure Ended (n : ℕ) (ids : BTreeSet UInt32) (w : ServerState) : Prop where
  nonce_lt : n < w.nextConnectionNonce
  sessionIds_eq : (w.connections n).sessionIds = ids
  retired : w.phase n = .broken ∨ (w.phase n = .down ∧ Retired n ids w.registry)

variable {w w' : ServerState} {n m : ℕ} {ids : BTreeSet UInt32} {p : Phase}

section
variable {reg reg' : Registry}

theorem Retired.of_active (h : Retired n ids reg)
    (hact : ∀ {s : UInt32} {r' : RuntimeSessionRecord}, reg'[s]? = some r' →
      r'.active = true → r'.connectionNonce = n →
      ∃ r, reg[s]? = some r ∧ r.active = true ∧ r.connectionNonce = n) : Retired n ids reg' := by
  intro s hs r' hrec' hn
  by_contra hne
  obtain ⟨r, hrec, ha, hnonce⟩ := hact hrec' (by simpa using hne) hn
  have hinactive := h s hs r hrec hnonce
  rw [hinactive] at ha
  cases ha

theorem retired_markConnectionSessionsInactive :
    Retired n ids (markConnectionSessionsInactive reg n ids) := by
  intro s hs r hrec hn
  rw [markConnectionSessionsInactive_get, if_pos hs] at hrec
  obtain ⟨r', -, hretire⟩ := Option.bind_eq_some_iff.mp hrec
  unfold retire at hretire
  split_ifs at hretire with hnonce
  · cases hretire
    rfl
  · cases hretire
    exact absurd hn hnonce

end

namespace Ended

variable (h : Ended n ids w) {a : Attempt}
include h

theorem ne_of_phase (hp : w.phase m = p) (hbroken : p ≠ .broken) (hdown : p ≠ .down) : m ≠ n := by
  intro hm
  rw [hm] at hp
  rcases h.retired with hp' | ⟨hp', -⟩
  · exact hbroken (hp.symm.trans hp')
  · exact hdown (hp.symm.trans hp')

theorem of_elsewhere (hconn : w'.connections n = w.connections n)
    (hnonce : w.nextConnectionNonce ≤ w'.nextConnectionNonce)
    (hact : ∀ {s : UInt32} {r' : RuntimeSessionRecord}, w'.registry[s]? = some r' →
      r'.active = true → r'.connectionNonce = n →
      ∃ r, w.registry[s]? = some r ∧ r.active = true ∧ r.connectionNonce = n) : Ended n ids w' where
  nonce_lt := h.nonce_lt.trans_le hnonce
  sessionIds_eq := by
    rw [hconn]
    exact h.sessionIds_eq
  retired := by
    have hphase : w'.phase n = w.phase n := by rw [phase, hconn]
    rw [hphase]
    exact h.retired.imp_right fun ⟨hp, hretired⟩ => ⟨hp, hretired.of_active hact⟩

theorem congr (hconnections : w'.connections = w.connections)
    (hnonce : w'.nextConnectionNonce = w.nextConnectionNonce)
    (hreg : w'.registry = w.registry) : Ended n ids w' := by
  apply h.of_elsewhere
  · rw [hconnections]
  · exact hnonce.ge
  · intro s r hrec ha hn
    rw [hreg] at hrec
    exact ⟨r, hrec, ha, hn⟩

theorem task (hm : m ≠ n) {reg : Registry}
    (hact : ∀ {s : UInt32} {r : RuntimeSessionRecord}, reg[s]? = some r →
      r.active = true → w.registry[s]? = some r) :
    Ended n ids ((w.setRegistry reg).setPhase m p) := by
  apply h.of_elsewhere
  · simp [hm.symm]
  · exact le_rfl
  · intro s r hrec ha hn
    exact ⟨r, hact hrec ha, ha, hn⟩

theorem setPhase (hm : m ≠ n) : Ended n ids (w.setPhase m p) :=
  h.task (w := w) hm fun hrec _ => hrec

theorem connect : Ended n ids w.connect := by
  apply h.of_elsewhere
  · simp [h.nonce_lt.ne]
  · exact Nat.le_succ _
  · intro s r hrec ha hn
    exact ⟨r, hrec, ha, hn⟩

theorem insert (hm : m ≠ n) :
    Ended n ids ((w.setRegistry (w.registry.insert a.sessionId (a.record w.config m))).setPhase m
      (.inserted a)) := by
  apply h.of_elsewhere
  · simp [hm.symm]
  · exact le_rfl
  · intro s r hrec ha hn
    rw [setPhase_registry, setRegistry_registry, get_insert] at hrec
    split_ifs at hrec
    · cases hrec
      exact absurd hn hm
    · exact ⟨r, hrec, ha, hn⟩

theorem addSession (hm : m ≠ n) : Ended n ids (w.addSession m a) := by
  apply h.of_elsewhere
  · simp [hm.symm]
  · exact le_rfl
  · intro s r hrec ha hn
    exact ⟨r, hrec, ha, hn⟩

theorem teardown : Ended n ids (w.teardown m) := by
  by_cases hm : m = n
  · subst hm
    refine ⟨h.nonce_lt, ?_, .inr ⟨setPhase_phase_self, ?_⟩⟩
    · simpa [teardown] using h.sessionIds_eq
    · rw [teardown, setPhase_registry, setRegistry_registry, h.sessionIds_eq]
      exact retired_markConnectionSessionsInactive
  · exact h.task hm fun hrec ha => markConnectionSessionsInactive_get_active hrec ha

theorem closeSession {k : ℕ} : Ended n ids (w.closeSession k) := by
  apply h.of_elsewhere
  · rfl
  · exact le_rfl
  · intro s r hrec ha hn
    exact ⟨r, removeFromRegistry_get_some hrec, ha, hn⟩

theorem operation {s : UInt32} {id : UInt64} :
    Ended n ids (w.setRegistry (updateRegistryLastOperation w.registry s id)) := by
  apply h.of_elsewhere
  · rfl
  · exact le_rfl
  · intro t r hrec ha hn
    rw [setRegistry_registry, updateRegistryLastOperation_get] at hrec
    split_ifs at hrec
    · obtain ⟨r', hrec', rfl⟩ := Option.map_eq_some_iff.mp hrec
      exact ⟨r', hrec', ha, hn⟩
    · exact ⟨r, hrec, ha, hn⟩

end Ended

theorem Transition.ended {e : Event} (ht : Transition w e w') (h : Ended n ids w) :
    Ended n ids w' := by
  -- a task that is at another phase is not the one that has ended
  cases ht with
  | connect => exact h.connect
  | hello hp | receive hp | readFailed hp | evaluate hp =>
    exact h.setPhase (h.ne_of_phase hp nofun nofun)
  | failed hp | refused hp _ =>
    exact h.task (h.ne_of_phase hp nofun nofun) fun hr _ => retain_get_some hr
  | @granted m random req pres dec nowMs a hp _ _ =>
    have htask : Ended n ids
        ((w.setRegistry (retain nowMs w.registry)).setPhase m (.registering a)) :=
      h.task (h.ne_of_phase hp nofun nofun) fun hr _ => retain_get_some hr
    exact htask.congr rfl rfl rfl
  | register hp | ackFailed hp | insertFailed hp _ =>
    exact h.setPhase (h.ne_of_phase hp nofun nofun)
  | @acked m a hp _ =>
    have htask := h.setPhase (p := .acked a) (h.ne_of_phase hp nofun nofun)
    exact htask.congr rfl rfl rfl
  | ackedRefusal hp _ =>
    have htask := h.setPhase (p := .idle) (h.ne_of_phase hp nofun nofun)
    exact htask.congr rfl rfl rfl
  | insert hp => exact h.insert (h.ne_of_phase hp nofun nofun)
  | deliver hp => exact h.addSession (h.ne_of_phase hp nofun nofun)
  | undelivered hp =>
    exact h.task (h.ne_of_phase hp nofun nofun) fun hr ha => markSessionInactive_get_active hr ha
  | teardown _ => exact h.teardown
  | closeSession _ => exact h.closeSession
  | operation _ => exact h.operation
  | dropListener | tick => exact h.congr rfl rfl rfl

theorem run_ended {es : List Event} (h : Ended n ids w) (hr : run step w es = some w') :
    Ended n ids w' :=
  run_induction (Ended n ids) (fun _ _ _ h hs => (step_transition hs).ended h) h hr

variable {packet : RuntimePacket}

theorem receivePhase_of_decodeUpdate {sess : DecoderSession}
    {decoded : Except RuntimeError DecodedUpdate} (h : sess.decodeUpdate packet = some decoded)
    (unixTimeUs : UInt64) (written : Bool) : receivePhase packet unixTimeUs written = .broken := by
  unfold receivePhase
  split
  · rename_i htype
    rw [DecoderSession.decodeUpdate, htype] at h
    cases h
  · rename_i htype
    rw [DecoderSession.decodeUpdate, htype] at h
    cases h
  · rfl

/-- Whatever update a client sends at connection scope, the driver hands it to the control
receiver, the connection ends when the server reads it, it is never served again, and its
sessions are inactive or gone once it is torn down. -/
theorem connection_scope_ends_connection (config : NnrpServerConfig) (es : List Event)
    (w : ServerState) (hr : run step (start config) es = some w) (n : ℕ)
    (hidle : w.phase n = .idle) (session : DecoderSession) (packet : RuntimePacket)
    (update : DecodedUpdate) (hsession : packet.sessionId = 0)
    (hvalid : session.decodeUpdate packet = some (.ok update))
    (unixTimeUs : UInt64) (written : Bool) :
    (∀ c : Multiplex.Connection, c.running = true → c.terminalFailure = none →
      ∃ c', Multiplex.step c (.incoming (.ok packet)) = some c' ∧
        c'.control = c.control.unboundedSend (.packet packet) ∧ c'.events = c.events) ∧
    ∃ w₁, step w (.receive n packet unixTimeUs written) = some w₁ ∧
      ∀ fs w₂, run step w₁ fs = some w₂ → Ended n (w.connections n).sessionIds w₂ ∧
        (w₂.phase n = .broken → ∃ w₃, step w₂ (.teardown n) = some w₃ ∧ w₃.phase n = .down) := by
  refine ⟨fun c hrunning hfailure => ⟨c.onPacket packet, ?_, ?_⟩, w.setPhase n .broken, ?_, ?_⟩
  · simp [Multiplex.step, hrunning, hfailure, Multiplex.Connection.onIncoming]
  · simp only [Multiplex.Connection.onPacket, if_pos hsession, Multiplex.Connection.toControl]
    split_ifs
    all_goals exact ⟨rfl, rfl⟩
  · rw [step, hidle, receivePhase_of_decodeUpdate hvalid]
  · intro fs w₂ hfs
    have hended : Ended n (w.connections n).sessionIds (w.setPhase n .broken) :=
      ⟨(run_wellFormed hr).phase_lt (by simp [hidle]), by simp, .inl setPhase_phase_self⟩
    refine ⟨run_ended hended hfs, fun hbroken => ?_⟩
    refine ⟨w₂.teardown n, ?_, setPhase_phase_self⟩
    rw [step, hbroken]

def connectionGrant : FlowUpdateMetadata where
  scopeKind := .connection
  updateReason := .grant
  backpressureLevel := .soft
  connectionCredit := 6
  sessionCredit := 0
  operationCredit := 0
  operationId := 0
  retryAfterMs := 0
  creditEpoch := 11
  flowFlags := 1

def connectionGrantPacket : RuntimePacket :=
  ⟨CommonHeader.new .flowUpdate 32 0,
    writeU32 (writeU32 (writeU16 (writeU8 (List.replicate 32 0) 2 1) 4 6) 24 11) 28 1, []⟩

def oneSession : List Event :=
  [.connect, .hello 1 true] ++ requestOpen 1 (sessionOpenPacket 0 1 []) ++
    acknowledgeOpen 1 (some fun _ => 7) ++ [.insert 1, .deliver 1]

def openDecoder : DecoderSession where
  sessionId := 1
  lifecycle := {}
  operationFrames := ∅
  frameOperations := ∅
  operationState := fun _ => none

theorem connection_scope_ends_connection_grant : ∃ w,
    run step (start tensorConfig) oneSession = some w ∧ w.phase 1 = .idle ∧
    ∃ w₁, step w (.receive 1 connectionGrantPacket 0 true) = some w₁ ∧
      ∀ fs w₂, run step w₁ fs = some w₂ → Ended 1 (w.connections 1).sessionIds w₂ := by
  have hrun : (run step (start tensorConfig) oneSession).map (fun w => w.phase 1) =
      some .idle := by decide +kernel
  obtain ⟨w, hw, hidle⟩ := Option.map_eq_some_iff.mp hrun
  obtain ⟨-, w₁, hw₁, hended⟩ :=
    connection_scope_ends_connection tensorConfig oneSession w hw 1 hidle
    openDecoder connectionGrantPacket (.flowUpdate connectionGrant) rfl (by decide +kernel) 0 true
  exact ⟨w, hw, hidle, w₁, hw₁, fun fs w₂ hfs => (hended fs w₂ hfs).1⟩

/-- The grant that the client of the library itself sends takes down the connection and makes
its session inactive. -/
theorem connection_grant_retires_session :
    sendFlowUpdate 1 connectionGrant = .ok connectionGrantPacket ∧
    connectionGrantPacket.sessionId = 0 ∧
    openDecoder.decodeUpdate connectionGrantPacket = some (.ok (.flowUpdate connectionGrant)) ∧
    (run step (start tensorConfig) oneSession).map (fun w =>
      (w.phase 1, (w.registry[(1 : UInt32)]?).map fun record => record.active)) =
      some (.idle, some true) ∧ (run step (start tensorConfig)
      (oneSession ++ [.receive 1 connectionGrantPacket 0 true, .teardown 1])).map (fun w =>
      (w.phase 1, (w.registry[(1 : UInt32)]?).map fun record => record.active)) =
      some (.down, some false) := by
  refine ⟨by decide +kernel, rfl, by decide +kernel, by decide +kernel, by decide +kernel⟩

end Nnrp.Server
