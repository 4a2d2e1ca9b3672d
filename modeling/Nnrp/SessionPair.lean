import Nnrp.CrossingReads

/-!
# A client session and a server session

The two sessions of a connection with an ordered channel in each direction. The client submits,
cancels, aborts and supersedes operations, the server answers them, and both sides take their events
whenever they like. A label is one accepted call or one reception; an interleaving is a list of
labels.

For each frame there is an operation that is submitted with it, and what the two sessions and the
two channels hold about that operation goes through the stages of `OperationView`.
-/

namespace Nnrp.Crossing
open Protocol ByteOrder Packet Data Control Stateful RuntimeEvent List Server Client
open OperationView
open Client (NnrpClientSession Ledger)
open Server (NnrpServerSession NnrpServerOperation)
open Submit (NnrpSubmitRequest)
open Lifecycle (ConnectionLifecycle)

structure Joint where
  client : NnrpClientSession
  server : NnrpServerSession
  errors : List RuntimeError := []

inductive Label
  | submit (request : NnrpSubmitRequest) (nowUnixMs : UInt64)
  | control (messageType : MessageType) (metadata : ControlRequestMetadata) (diagnostics : Bytes)
  | cancelFrame (frameId : UInt32)
  | supersede (metadata : SupersedeMetadata) (diagnostics : Bytes)
  | sendResult (operation : NnrpServerOperation) (metadata : ResultPushMetadata) (body : Bytes)
      (nowUnixMs : UInt64)
  | sendResultDrop (operation : NnrpServerOperation) (metadata : ResultDropReasonMetadata)
      (diagnostic : Bytes)
  | sendProgress (operation : NnrpServerOperation) (metadata : ProgressMetadata) (body : Bytes)
  | sendPartialResult (operation : NnrpServerOperation) (metadata : PartialResultMetadata)
      (body : Bytes)
  | clientReceives
  | serverReceives (nowUnixMs : UInt64)

namespace Joint

def opened (sessionId : UInt32) (clientLimit serverLimit : UInt16)
    (clientLifecycle serverLifecycle : ConnectionLifecycle) : Joint where
  client := .opened sessionId clientLimit clientLifecycle
  server := .accepted sessionId serverLimit serverLifecycle

variable (w : Joint)

def clientCalls {α : Type} (m : Client.SessionM α) : Option Joint :=
  match call m w.client with
  | (.ok _, client) => some { w with client }
  | (.error _, _) => none

def serverCalls {α : Type} (m : Server.ServerM α) : Option Joint :=
  match call m w.server with
  | (.ok _, server) => some { w with server }
  | (.error _, _) => none

def report {α : Type} : Except RuntimeError α → List RuntimeError
  | .ok _ => []
  | .error e => [e]

variable (input : Except RuntimeError RuntimePacket)

def clientTakes : Joint :=
  { w with
    client := (call (awaitEvent input) w.client).2
    errors := w.errors ++ report (call (awaitEvent input) w.client).1 }

def serverTakes (nowUnixMs : UInt64) : Joint :=
  { w with
    server := (call (awaitEvent input nowUnixMs) w.server).2
    errors := w.errors ++ report (call (awaitEvent input nowUnixMs) w.server).1 }

/-- The transport is read when nothing is queued; a reception waits until a packet arrives. -/
def clientReceives : Option Joint :=
  match w.client.pendingRoleEvents, w.client.pendingEvents with
  | [], [] =>
    match w.server.sent with
    | [] => none
    | p :: rest => some ({ w with server := { w.server with sent := rest } }.clientTakes (.ok p))
  | _, _ => some (w.clientTakes (.error (.internal "")))

def serverReceives (nowUnixMs : UInt64) : Option Joint :=
  match w.server.pendingInputs with
  | [] =>
    match w.client.sent with
    | [] => none
    | p :: rest =>
      some ({ w with client := { w.client with sent := rest } }.serverTakes (.ok p) nowUnixMs)
  | _ :: _ => some (w.serverTakes (.error (.internal "")) nowUnixMs)

end Joint

def step (w : Joint) : Label → Option Joint
  | .submit request nowUnixMs => w.clientCalls (submitNowait request nowUnixMs (.ok ()))
  | .control messageType metadata diagnostics =>
    w.clientCalls (sendControlRequestWithDiagnostics messageType metadata diagnostics (.ok ()))
  | .cancelFrame frameId => w.clientCalls (cancelFrame frameId (.ok ()))
  | .supersede metadata diagnostics =>
    w.clientCalls (supersedeOperation metadata diagnostics (.ok ()))
  | .sendResult operation metadata body nowUnixMs =>
    w.serverCalls (operation.sendResult (.ok ()) metadata body nowUnixMs)
  | .sendResultDrop operation metadata diagnostic =>
    w.serverCalls (operation.sendResultDrop (.ok ()) metadata diagnostic)
  | .sendProgress operation metadata body =>
    w.serverCalls (operation.sendProgress (.ok ()) metadata body)
  | .sendPartialResult operation metadata body =>
    w.serverCalls (operation.sendPartialResult (.ok ()) metadata body)
  | .clientReceives => w.clientReceives
  | .serverReceives nowUnixMs => w.serverReceives nowUnixMs

/-- The packet that is read next does not cross a decision of its receiver: a server does not read a
control for an operation that it has ended, a client does not read output of an operation that it
has marked, or a drop of an operation that it no longer holds. -/
def Clear (w : Joint) : Label → Prop
  | .clientReceives => w.client.pendingRoleEvents = [] →
      ∀ p ∈ w.server.sent.head?, ¬ClientCrosses w.client.ledger p
  | .serverReceives _ => w.server.pendingInputs = [] →
      ∀ p ∈ w.client.sent.head?, ¬ServerCrosses w.server p
  | _ => True

def Joint.view (w : Joint) (frameId : UInt32) : View where
  client := clientPhase w.client.ledger frameId
  server := serverPhase w.server frameId
  toServer := lane RuntimePacket.frameId up frameId w.client.sent
  toClient := lane RuntimePacket.frameId down frameId w.server.sent

structure Sound (binding : Binding) (w : Joint) : Prop where
  proper : Proper binding
  session : w.server.sessionId = w.client.sessionId
  client : ClientSound binding w.client
  server : ServerSound binding w.server
  ordered : ∀ frameId, frameId ≠ 0 → Ordered (w.view frameId)

inductive Moved (binding : Binding) (w w' : Joint) : Prop
  | clientSent {client : NnrpClientSession} {p : RuntimePacket}
      (hsent : ClientSent w.client client p) (hmoved : ClientMoved w.client client p)
      (hw : w' = { w with client })
  | serverSent {server : NnrpServerSession} {p : RuntimePacket}
      (hsent : ServerSent w.server server p) (hmoved : ServerMoved w.server server p)
      (hw : w' = { w with server })
  | clientTook {rest : List OperationLifecycleEvent}
      (hw : w' = { w with client := { w.client with pendingRoleEvents := rest } })
  | serverTook {input : Server.PendingServerInput} {rest : List Server.PendingServerInput}
      (hqueue : w.server.pendingInputs = input :: rest)
      (hw : w' = { w with server := { w.server with pendingInputs := rest } })
  | clientRead {client : NnrpClientSession} {p : RuntimePacket} {rest : List RuntimePacket}
      (hsent : w.server.sent = p :: rest) (hread : ClientRead w.client client p)
      (hw : w' = { w with client, server := { w.server with sent := rest } })
  | serverRead {server : NnrpServerSession} {p : RuntimePacket} {rest : List RuntimePacket}
      (hsent : w.client.sent = p :: rest) (hread : ServerRead binding w.server server p)
      (hw : w' = { w with server, client := { w.client with sent := rest } })

theorem Moved.errors {bnd : Binding} {w w' : Joint} (h : Moved bnd w w') :
    w'.errors = w.errors := by
  cases h with
  | clientSent _ _ hw | serverSent _ _ hw | clientTook hw | serverTook _ hw | clientRead _ _ hw
  | serverRead _ _ hw => rw [hw]

section
variable {bnd : Binding} {w w' : Joint} {α : Type}

theorem clientCalls_sent {m : Client.SessionM α} (h : w.clientCalls m = some w')
    (hm : ClientSends w.client w.client m) :
    Moved bnd w w' := by
  rw [Joint.clientCalls] at h
  split at h
  · rename_i client hcall
    obtain ⟨p, hsent, hmoved⟩ := hm.of_ok hcall
    exact .clientSent hsent hmoved (Option.some.inj h).symm
  · cases h

theorem serverCalls_sent {m : Server.ServerM α} (h : w.serverCalls m = some w')
    (hm : ServerSends w.server w.server m) :
    Moved bnd w w' := by
  rw [Joint.serverCalls] at h
  split at h
  · rename_i server hcall
    obtain ⟨p, hsent, hmoved⟩ := hm.of_ok hcall
    exact .serverSent hsent hmoved (Option.some.inj h).symm
  · cases h

end

section
variable {binding bnd' : Binding} {p : RuntimePacket}

theorem UpKind.up_eq (h : UpKind binding p) : ∃ m, up p = some m := by
  cases h with
  | submit htype => exact ⟨.submit, by rw [up, htype]⟩
  | cancelFrame htype => exact ⟨.cancelFrame, by rw [up, htype]⟩
  | control htype => exact ⟨.control, by rcases htype with htype | htype <;> rw [up, htype]⟩
  | supersede htype => exact ⟨.control, by rw [up, htype]⟩

theorem DownKind.down_eq (h : DownKind binding p) : ∃ m, down p = some m := by
  cases h with
  | progress htype | partialResult htype => exact ⟨.output, by rw [down, htype]⟩
  | push htype => exact ⟨.push, by rw [down, htype]⟩
  | drop htype => exact ⟨.drop, by rw [down, htype]⟩

theorem UpKind.frame (h : UpKind binding p) : (∃ id, binding p.frameId = some id) ∨
      (p.frameId = 0 ∧ up p = some .control) := by
  cases h with
  | submit _ _ hbound | cancelFrame _ _ hbound | supersede _ _ _ hbound => exact .inl ⟨_, hbound⟩
  | control htype _ _ _ hbound =>
    rcases hbound with ⟨-, hframe⟩ | hbound
    · exact .inr ⟨hframe, by rcases htype with htype | htype <;> rw [up, htype]⟩
    · exact .inl ⟨_, hbound⟩

theorem DownKind.frame (h : DownKind binding p) : ∃ id, binding p.frameId = some id := by
  cases h with
  | progress _ _ _ _ hbound | partialResult _ _ _ _ hbound | push _ _ hbound
  | drop _ _ _ _ hbound => exact ⟨_, hbound⟩

theorem UpKind.mono (h : UpKind binding p) (hle : ∀ fid opId, binding fid = some opId →
      bnd' fid = some opId) : UpKind bnd' p := by
  cases h with
  | submit htype hcarries hbound => exact .submit htype hcarries (hle _ _ hbound)
  | cancelFrame htype hempty hbound => exact .cancelFrame htype hempty (hle _ _ hbound)
  | control htype hcarries hvalid hbody hbound =>
    exact .control htype hcarries hvalid hbody (hbound.imp id (hle _ _))
  | supersede htype hcarries hbody hbound => exact .supersede htype hcarries hbody (hle _ _ hbound)

theorem DownKind.mono (h : DownKind binding p) (hle : ∀ fid id, binding fid = some id →
      bnd' fid = some id) : DownKind bnd' p := by
  cases h with
  | progress htype hcarries hvalid hbody hbound =>
    exact .progress htype hcarries hvalid hbody (hle _ _ hbound)
  | partialResult htype hcarries hvalid hbody hbound =>
    exact .partialResult htype hcarries hvalid hbody (hle _ _ hbound)
  | push htype hcarries hbound => exact .push htype hcarries (hle _ _ hbound)
  | drop htype hcarries hvalid hbody hbound =>
    exact .drop htype hcarries hvalid hbody (hle _ _ hbound)

end

variable {binding : Binding} {w w' : Joint} {p : RuntimePacket} {rest : List RuntimePacket}
  {now : UInt64} {input : Except RuntimeError RuntimePacket}

theorem Sound.client_holds (h : Sound binding w) (hsent : w.server.sent = p :: rest)
    (hdrop : down p ≠ some .drop) : clientPhase w.client.ledger p.frameId ≠ .absent := by
  obtain ⟨-, hkind⟩ := h.server.sent p (by rw [hsent]; exact mem_cons_self)
  obtain ⟨m, hdown⟩ := hkind.down_eq
  obtain ⟨id, hbind⟩ := hkind.frame
  have hord := h.ordered p.frameId (h.proper.nonzero _ _ hbind).1
  rw [Joint.view, hsent, lane_cons hdown] at hord
  refine hord.held ?_
  rintro rfl
  exact hdrop hdown

theorem Sound.server_new (h : Sound binding w) (hsent : w.client.sent = p :: rest)
    (hup : up p = some .submit) : serverPhase w.server p.frameId = .unknown := by
  obtain ⟨-, hkind⟩ := h.client.sent p (by rw [hsent]; exact mem_cons_self)
  rcases hkind.frame with ⟨id, hbind⟩ | ⟨-, hctl⟩
  · have hord := h.ordered p.frameId (h.proper.nonzero _ _ hbind).1
    rw [Joint.view, hsent, lane_cons hup] at hord
    exact hord.submit_first
  · rw [hup] at hctl
    cases hctl

theorem Sound.server_knows (h : Sound binding w) (hsent : w.client.sent = p :: rest)
    (hup : up p ≠ some .submit) (hframe : p.frameId ≠ 0) :
    serverPhase w.server p.frameId ≠ .unknown := by
  obtain ⟨-, hkind⟩ := h.client.sent p (by rw [hsent]; exact mem_cons_self)
  obtain ⟨m, hm⟩ := hkind.up_eq
  have hord := h.ordered p.frameId hframe
  rw [Joint.view, hsent, lane_cons hm] at hord
  refine hord.known ?_
  rintro rfl
  exact hup hm

variable {client : NnrpClientSession}

theorem clientTakes_ok {x : Client.Received}
    (h : call (awaitEvent input) w.client = (.ok x, client)) :
    w.clientTakes input = { w with client } := by
  rw [Joint.clientTakes, h]
  simp [Joint.report]

variable {server : NnrpServerSession}

theorem serverTakes_ok {x : Server.NnrpServerEvent}
    (h : call (awaitEvent input now) w.server = (.ok x, server)) :
    w.serverTakes input now = { w with server } := by
  rw [Joint.serverTakes, h]
  simp [Joint.report]

theorem clientReceives_cases (h : Sound binding w) (hstep : w.clientReceives = some w') :
    (Clear w .clientReceives ∧ Moved binding w w') ∨
      (¬Clear w .clientReceives ∧ w'.errors ≠ []) := by
  rw [Joint.clientReceives] at hstep
  split at hstep
  · rename_i hrole _
    split at hstep
    · cases hstep
    rename_i p rest hsent
    cases hstep
    obtain ⟨hsess, hkind⟩ := h.server.sent p (by rw [hsent]; exact mem_cons_self)
    rw [h.session] at hsess
    have hread := clientAwaitEvent_reads h.client hsess hrole hkind (h.client_holds hsent)
    rcases hread.cases with ⟨x, client, hcall, hread⟩ | ⟨e, client, hcall, hcrosses⟩
    · refine .inl ⟨fun _ p' hp' => ?_, .clientRead hsent hread (clientTakes_ok hcall)⟩
      rw [hsent] at hp'
      cases hp'
      exact hread.not_crosses h.client.valid
    · refine .inr ⟨fun hclear => ?_, by simp [Joint.clientTakes, hcall, Joint.report]⟩
      exact hclear hrole p (by rw [hsent]; rfl) hcrosses
  · rename_i hqueue
    cases hstep
    cases hrole : w.client.pendingRoleEvents with
    | nil => exact absurd h.client.pendingEvents (hqueue hrole)
    | cons ev rest =>
      rcases (clientAwaitEvent_takes hrole).cases with ⟨x, client, hcall, rfl⟩ | ⟨e, _, _, hfalse⟩
      · refine .inl ⟨fun hnil => ?_, .clientTook (clientTakes_ok hcall)⟩
        rw [hrole] at hnil
        cases hnil
      · exact hfalse.elim

theorem serverReceives_cases (h : Sound binding w) (hstep : w.serverReceives now = some w') :
    (Clear w (.serverReceives now) ∧ Moved binding w w') ∨
      (¬Clear w (.serverReceives now) ∧ w'.errors ≠ []) := by
  rw [Joint.serverReceives] at hstep
  split at hstep
  · rename_i hqueue
    split at hstep
    · cases hstep
    rename_i p rest hsent
    cases hstep
    obtain ⟨hsess, hkind⟩ := h.client.sent p (by rw [hsent]; exact mem_cons_self)
    rw [← h.session] at hsess
    have hread : ServerReads binding w.server p (awaitEvent (.ok p) now) :=
      serverAwaitEvent_reads h.server hkind hqueue (decodeServerEvent_reads h.server hsess
        h.proper hkind hqueue (h.server_new hsent) (h.server_knows hsent))
    rcases hread.cases with ⟨x, server, hcall, hread⟩ | ⟨e, server, hcall, hcrosses⟩
    · refine .inl ⟨fun _ p' hp' => ?_, .serverRead hsent hread (serverTakes_ok hcall)⟩
      rw [hsent] at hp'
      cases hp'
      exact hread.not_crosses h.proper h.server
    · refine .inr ⟨fun hclear => ?_, by simp [Joint.serverTakes, hcall, Joint.report]⟩
      exact hclear hqueue p (by rw [hsent]; rfl) hcrosses
  · rename_i input rest hqueue
    cases hstep
    rcases (serverAwaitEvent_takes h.server hqueue).cases with
      ⟨x, server, hcall, rfl⟩ | ⟨e, _, _, hfalse⟩
    · refine .inl ⟨fun hnil => ?_, .serverTook hqueue (serverTakes_ok hcall)⟩
      rw [hqueue] at hnil
      cases hnil
    · exact hfalse.elim

theorem handle_sends {op : NnrpServerOperation} {s : NnrpServerSession}
    {m : Server.ServerM Unit} {done : NnrpServerSession → Prop} {id : UInt64}
    (h : Ensures m s (fun _ => done) fun _ => True) :
    Ensures (do
      check op.requireSession
      lift (op.requireOperationId id)
      m) s (fun _ => done) (fun _ => True) :=
  .guard trivial fun _ _ => .guard trivial fun _ _ => h

theorem step_cases {label : Label} (h : Sound binding w) (hstep : step w label = some w') :
    (Clear w label ∧ Moved binding w w') ∨ (¬Clear w label ∧ w'.errors ≠ []) := by
  cases label with
  | submit req now =>
    exact .inl ⟨trivial, clientCalls_sent hstep (submitNowait_sends req now)⟩
  | control ty m diags =>
    exact .inl ⟨trivial, clientCalls_sent hstep (control_sends ty m diags)⟩
  | cancelFrame fid =>
    exact .inl ⟨trivial, clientCalls_sent hstep (cancelFrame_sends h.client.valid fid)⟩
  | supersede m diags =>
    exact .inl ⟨trivial, clientCalls_sent hstep (supersede_sends m diags)⟩
  | sendResult op m body now =>
    refine .inl ⟨trivial, serverCalls_sent hstep ?_⟩
    exact .guard trivial fun _ _ => sendResult_sends _ m body now
  | sendResultDrop op m diag =>
    exact .inl ⟨trivial, serverCalls_sent hstep (handle_sends (sendResultDrop_sends m diag))⟩
  | sendProgress op m body =>
    exact .inl ⟨trivial, serverCalls_sent hstep (handle_sends (sendProgress_sends m body))⟩
  | sendPartialResult op m body =>
    exact .inl ⟨trivial, serverCalls_sent hstep (handle_sends (sendPartialResult_sends m body))⟩
  | clientReceives => exact clientReceives_cases h hstep
  | serverReceives now => exact serverReceives_cases h hstep

end Nnrp.Crossing
