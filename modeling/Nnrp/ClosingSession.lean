import Nnrp.ClientRun
import Nnrp.ServerCorrelation

/-!
# Submits of a session that is closing

Neither the server, when it reads a submit, nor the client, when it writes one, asks the lifecycle
whether the session still accepts new operations. A closing session takes every submit that an open
one would take.
-/

namespace Nnrp.Server
open Packet Stateful Operation

/-- A `SESSION_CLOSE` has been processed: the session is closing, draining or closed. -/
def NnrpServerSession.Closing (s : NnrpServerSession) : Prop :=
  ∃ session ∈ s.lifecycle.sessions[s.sessionId]?, session.state.acceptsNewOperations = false

instance (s : NnrpServerSession) : Decidable s.Closing :=
  inferInstanceAs (Decidable (∃ session ∈ s.lifecycle.sessions[s.sessionId]?, _))

def Registers (before after : OperationRegistry) : Prop :=
  ∃ operationId : UInt64, before.operations[operationId]? = none ∧
    after.operations[operationId]? ≠ none

variable (s : NnrpServerSession)

def Answer.Admitted (answer : Answer) : Prop :=
  ∃ packet ∈ answer.input.toOption, ∃ metadata, Admits s packet answer.nowUnixMs metadata

def Call.Accepts (c : Call) : Prop :=
  ∃ answer ∈ c.reads s, answer.Admitted s

variable {s t : NnrpServerSession} {p : RuntimePacket} {ans : Answer}

theorem not_registers_self (reg : OperationRegistry) : ¬Registers reg reg := by
  intro h
  obtain ⟨id, hnone, hsome⟩ := h
  exact hsome hnone

theorem not_registers_set {reg : OperationRegistry} {id : UInt64}
    {r r' : OperationRecord} (held : reg.operations[id]? = some r) :
    ¬Registers reg (reg.set id r') := by
  intro h
  obtain ⟨other, hnone, hsome⟩ := h
  rw [OperationRegistry.set_get] at hsome
  split_ifs at hsome with hself
  · rw [← hself, held] at hnone
    cases hnone
  · exact hsome hnone

variable {event : NnrpServerEvent} {now : UInt64}

theorem Decoded.not_registers (h : Decoded s p event t)
    (htype : p.messageType ≠ .frameSubmit) : ¬Registers s.operations t.operations := by
  cases h with
  | submitted hsubmit => exact absurd hsubmit htype
  | ended hevent htype hending => exact not_registers_set hending.held
  | scheduled hevent hrec => exact not_registers_set hrec
  | read | reserved | pressured | closing => exact not_registers_self _

theorem Refused.not_registers (h : Refused s p t) : ¬Registers s.operations t.operations := by
  cases h with
  | same | released => exact not_registers_self _

theorem Submitted.registers
    (h : Submitted s p now event t) : Registers s.operations t.operations := by
  obtain ⟨hadmits, htaken⟩ := h
  refine ⟨_, hadmits.new, ?_⟩
  change (s.operations.set _ _).operations[_]? ≠ none
  rw [OperationRegistry.set_get_self]
  exact Option.some_ne_none _

theorem Sent.not_registers {loses : Prop} (h : Sent s loses t) :
    ¬Registers s.operations t.operations := by
  have hops {u : NnrpServerSession} (hcore : t.core = u.core) : t.operations = u.operations :=
    congrArg Bindings.operations (bindings_of_core hcore)
  cases h with
  | same hkept hcore =>
    rw [hops hcore]
    exact not_registers_self _
  | ended hkept hending hcore =>
    rw [hops hcore]
    exact not_registers_set hending.held
  | lost hlost held hact hcore =>
    rw [hops hcore]
    exact not_registers_set held

theorem decodeServerEvent_registers (hs : Correlated s) :
    Always (decodeServerEvent p now) s
      fun t => Registers s.operations t.operations ↔ ∃ m, Admits s p now m := by
  by_cases htype : p.messageType = .frameSubmit
  · have hdec : decodeServerEvent p now = handleFrameSubmitPacket p now := by
      rw [decodeServerEvent, htype]
    rw [hdec]
    refine (handleFrameSubmitPacket_ensures hs).imp (fun event t h => ?_) fun t h => ?_
    · refine iff_of_true h.registers ?_
      obtain ⟨hadmits, htaken⟩ := h
      exact ⟨_, hadmits⟩
    · refine iff_of_false h.1.not_registers fun hadmits => ?_
      obtain ⟨m, hadmits⟩ := hadmits
      exact h.2 m hadmits
  · have hnone : ¬∃ m, Admits s p now m := by
      intro h
      obtain ⟨m, hadmits⟩ := h
      exact htype hadmits.type
    refine (decodeServerEvent_ensures hs).imp (fun event t h => ?_) fun t h => ?_
    · exact iff_of_false (h.not_registers htype) hnone
    · exact iff_of_false h.not_registers hnone

theorem readNextInput_registers (hs : Correlated s) :
    Always (readNextInput ans.input ans.nowUnixMs) s
      fun t => Registers s.operations t.operations ↔ ans.Admitted s := by
  refine .lift_bind (fun e he => ?_) fun p hinput => ?_
  · refine iff_of_false (not_registers_self _) fun h => ?_
    obtain ⟨p, hpkt, -⟩ := h
    rw [he] at hpkt
    cases hpkt
  have hadmitted : ans.Admitted s ↔ ∃ m, Admits s p ans.nowUnixMs m := by
    rw [Answer.Admitted, hinput]
    simp [Except.toOption]
  rw [hadmitted]
  refine .check_bind (fun e he => ?_) fun _ _ => ?_
  · refine iff_of_false (not_registers_self _) fun h => ?_
    obtain ⟨m, hadmits⟩ := h
    rw [hadmits.lets.1] at he
    cases he
  by_cases hrole : isDedicatedRoleMessage p.messageType = true
  · rw [if_pos hrole]
    refine .pure (iff_of_false (not_registers_self _) fun h => ?_)
    obtain ⟨m, hadmits⟩ := h
    rw [hadmits.type] at hrole
    cases hrole
  · rw [if_neg hrole]
    exact .bind _ (decodeServerEvent_registers hs) fun event t h => .pure h

theorem Call.registers_iff (hs : Correlated s) (c : Call) :
    Registers s.operations (call c.perform s).2.operations ↔ c.Accepts s := by
  let Q : OperationRegistry → Prop := fun reg => Registers s.operations reg ↔ c.Accepts s
  have hregisters : Always c.perform s fun t => Q t.operations := by
    refine c.perform_after (fun _ _ => rfl) (fun hreads => ?_) (fun ans hreads => ?_)
      (fun objectId t h => ?_) ?_
    · exact iff_of_false (not_registers_self _) (by simp [Call.Accepts, hreads])
    · have haccepts : c.Accepts s ↔ ans.Admitted s := by
        simp [Call.Accepts, Option.mem_def.mp hreads]
      simp only [Q, haccepts]
      exact readNextInput_registers hs
    · exact Keeps.always (P := Q) (.bind .check fun _ => .write fun _ => rfl) h
    · rintro send written rfl
      have hnone : ¬(Call.send send written).Accepts s := by simp [Call.Accepts, Call.reads]
      refine (send.perform_ensures hs).imp (fun _ t h => ?_) fun t h => ?_
      all_goals exact iff_of_false h.not_registers hnone
  exact hregisters.state

theorem Call.not_accepts {c : Call} (h : ∀ p ∈ c.packet, p.messageType ≠ .frameSubmit) :
    ¬c.Accepts s := by
  intro haccepts
  obtain ⟨ans, hreads, p, hpkt, m, hadmits⟩ := haccepts
  have hread : c.packet = ans.input.toOption := by
    unfold Call.reads at hreads
    split at hreads
    · split_ifs at hreads
      · cases hreads
        rfl
      · cases hreads
    · cases hreads
      rfl
    · split_ifs at hreads
      · cases hreads
        rfl
      · cases hreads
    all_goals cases hreads
  exact h p (hread ▸ hpkt) hadmits.type

end Nnrp.Server

namespace Nnrp.Client
open Packet Session Stateful
open Submit (NnrpSubmitRequest Submittable)

/-- A client session and whether a close has begun that the server has not rejected. -/
structure Tracked where
  state : State
  begun : Bool := false

def NnrpClientSession.beginsClose (s : NnrpClientSession) (close : SessionCloseMetadata) : Bool :=
  (s.lifecycle.beginSessionClose
    { CommonHeader.new .sessionClose 24 0 with sessionId := s.sessionId } close).isOk

def NnrpClientSession.rejected (s : NnrpClientSession) :
    Except RuntimeError RuntimePacket → Bool
  | .ok packet => packet.messageType = .sessionCloseAck ∧ packet.sessionId = s.sessionId ∧
      (SessionCloseAckMetadata.parse packet.metadata).toOption.any (·.closeStatus = .rejected)
  | .error _ => false

def Tracked.begunAfter (w : Tracked) : Call → Bool
  | .closeWith close _ => w.begun || w.state.session.beginsClose close
  | .readAck input =>
    w.begun && !(w.state.waiting = some .close && w.state.session.rejected input)
  | _ => w.begun

def trackedStep (w : Tracked) (c : Call) : Option Tracked :=
  (step w.state c).map fun state => ⟨state, w.begunAfter c⟩

def Call.WritesSubmit (w : State) : Call → Prop
  | .submit request nowUnixMs written => w.waiting = none ∧ ∃ packet : RuntimePacket,
      packet.messageType = .frameSubmit ∧
        (call (submitNowait request nowUnixMs written) w.session).2.sent =
          w.session.sent ++ [packet]
  | _ => False

def Call.Submits (w : State) : Call → Prop
  | .submit request nowUnixMs written => w.waiting = none ∧ written = .ok () ∧
      Submittable w.session.toNnrpClientSession request nowUnixMs
  | _ => False

variable {s : NnrpClientSession} {req : NnrpSubmitRequest} {now : UInt64}
  {written : Except RuntimeError Unit}

theorem submitPacket_type {p : RuntimePacket} (h : s.submitPacket req = .ok p) :
    p.messageType = .frameSubmit := by
  rw [Submit.NnrpClientSession.submitPacket] at h
  obtain ⟨bytes, -, h⟩ := Fallible.bind_eq_ok.mp h
  exact (RuntimePacket.new_ok (liftNnrp_eq_ok.mp h)).2.2.1

theorem submitNowait_writes_iff : (∃ p : RuntimePacket, p.messageType = .frameSubmit ∧
      (call (submitNowait req now written) s).2.sent = s.sent ++ [p]) ↔
      written = .ok () ∧ Submittable s.toNnrpClientSession req now := by
  rw [← Submit.prepare_ok_iff]
  rcases hprep : s.toNnrpClientSession.prepare req now with ⟨sess, result⟩
  have hfirst := prepareSubmit_call hprep
  cases result with
  | error e =>
    rw [submitNowait, call_bind_error hfirst]
    simp
  | ok p =>
    rw [submitNowait, call_bind_ok hfirst]
    cases written with
    | error e =>
      have hwrite : call (writePacket (.error e) p)
          { s with toNnrpClientSession := sess } = (.error e, _) := call_bind_error rfl
      rw [call_bind_error hwrite]
      simp
    | ok _ =>
      have hwrite : call (writePacket (.ok ()) p)
          { s with toNnrpClientSession := sess } = (.ok (), _) := call_bind_ok rfl
      rw [call_bind_ok hwrite]
      refine iff_of_true ⟨p, ?_, rfl⟩ ⟨rfl, p, rfl⟩
      obtain ⟨-, hpkt⟩ := Submit.prepare_cases hprep
      exact submitPacket_type (hpkt p rfl).2

theorem Call.writesSubmit_iff (w : State) (c : Call) : c.WritesSubmit w ↔ c.Submits w := by
  cases c with
  | submit req now written => exact and_congr_right fun _ => submitNowait_writes_iff
  | _ => exact Iff.rfl

end Nnrp.Client

namespace Nnrp
open LabelledRun Packet Session Server Client

/-- A run in which no operation is accepted by a closing server session, and no submit written by a
client session after its close has begun, is one in which no submit comes that an open session
takes. -/
theorem no_operation_after_close_iff (start : Server.NnrpServerSession)
    (calls : List Server.Call) (sessionId : UInt32) (maxInFlightOperations : UInt16)
    (lifecycle : Lifecycle.ConnectionLifecycle) (clientCalls : List Client.Call) :
    (Server.Opened start → (Along Server.NnrpServerSession.step (fun s c => s.Closing →
            ¬Server.Registers s.operations (Stateful.call c.perform s).2.operations) start calls ↔
        Along Server.NnrpServerSession.step (fun s c => s.Closing → ¬c.Accepts s) start calls)) ∧
      (Along trackedStep (fun w c => w.begun = true → ¬c.WritesSubmit w.state)
          ⟨.opened sessionId maxInFlightOperations lifecycle, false⟩ clientCalls ↔
        Along trackedStep (fun w c => w.begun = true → ¬c.Submits w.state)
          ⟨.opened sessionId maxInFlightOperations lifecycle, false⟩ clientCalls) := by
  constructor
  · intro hopened
    have hkeep (s : Server.NnrpServerSession) (c : Server.Call) (s' : Server.NnrpServerSession)
        (hs : Server.Correlated s) (hstep : s.step c = some s') : Server.Correlated s' :=
      correlated_of_step hs hstep
    constructor
    · refine Along.imp _ (fun s c s' hs _ => hkeep s c s' hs) (fun s c hs h hclosing => ?_)
        (.opened hopened)
      rw [← Server.Call.registers_iff hs]
      exact h hclosing
    · refine Along.imp _ (fun s c s' hs _ => hkeep s c s' hs) (fun s c hs h hclosing => ?_)
        (.opened hopened)
      rw [Server.Call.registers_iff hs]
      exact h hclosing
  · simp only [Client.Call.writesSubmit_iff]

def sampleClose : SessionCloseMetadata where
  closeReason := .clientShutdown
  inFlightPolicy := .drain
  drainTimeoutMs := 0
  lastOperationId := 0
  sessionErrorCode := 0
  sessionCloseTag := 7

def closePacket : RuntimePacket where
  header := { CommonHeader.new .sessionClose 24 0 with sessionId := 7 }
  metadata := sampleClose.toBytes.toOption.getD []
  body := []

def afterClose : Server.NnrpServerSession :=
  sampleSession.after [.awaitEvent (arrival closePacket)]

theorem ping_after_close_registers_nothing : afterClose.Closing ∧
      Along Server.NnrpServerSession.step (fun s c => s.Closing →
          ¬Server.Registers s.operations (Stateful.call c.perform s).2.operations)
        sampleSession [.awaitEvent (arrival closePacket),
          .receive .ping (arrival (.bare .ping 7 0))] := by
  refine ⟨by decide +kernel, ?_⟩
  have hiff := (no_operation_after_close_iff sampleSession
    [.awaitEvent (arrival closePacket), .receive .ping (arrival (.bare .ping 7 0))]
    7 4 (.withSession 7) []).1 sampleSession_opened
  refine hiff.mpr ?_
  have hother : ∀ c ∈ [Server.Call.awaitEvent (arrival closePacket),
      .receive .ping (arrival (.bare .ping 7 0))],
        ∀ p ∈ c.packet, p.messageType ≠ .frameSubmit := by decide
  refine (along_of_mem hother).mono ?_
  intro s c hc _
  exact Server.Call.not_accepts hc

/-- The server reads the close and then a submit. The client has sent its close and dropped the call
that waits for the acknowledgement, and then submits. -/
theorem submits_after_close : Server.Opened sampleSession ∧ afterClose.Closing ∧
      afterClose.operations.operations[(5 : UInt64)]? = none ∧
      (afterClose.after [.submitRound (arrival (submitPacket 5 1))]
        |>.operations.operations[(5 : UInt64)]?.map (·.state)) = some .accepted ∧
      (run trackedStep ⟨.opened 7 4 (.withSession 7), false⟩
        [.closeWith sampleClose (.ok ()), .dropRequest]).map (·.begun) = some true ∧
      (run trackedStep ⟨.opened 7 4 (.withSession 7), false⟩
        [.closeWith sampleClose (.ok ()), .dropRequest,
          .submit (Submit.sampleRequest 5 1) 0 (.ok ())]).map
            (·.state.session.sent.map (·.messageType)) = some [.sessionClose, .frameSubmit] := by
  refine ⟨sampleSession_opened, ?_⟩
  decide +kernel

end Nnrp
