import Nnrp.ClientOpen
import Nnrp.OpenInFlight

/-!
# Reopening sessions on one connection

A client connection and the server open and close sessions in turn. The server forgets the id of
a closed session and grants the lowest free id again, while the lifecycle of the client connection
keeps every session that it established: closing changes only the copies that the two session
objects hold. The client therefore accepts an acknowledged open exactly when the granted id does
not belong to a session that was closed before.
-/

namespace Nnrp.Reopening
open Protocol Packet Session OrderedMap Lifecycle LabelledRun Server Client List Fallible
open ConnectionLifecycle

/-- A session object of the client and the one of the server, each with its own lifecycle. -/
structure SessionPair where
  sessionId : UInt32
  (client server : ConnectionLifecycle)
  closed : Bool

structure Peers where
  config : NnrpServerConfig
  connectionNonce : ℕ
  registry : Registry
  clock : UInt64
  lifecycle : ConnectionLifecycle := {}
  sessions : List SessionPair := []

/-- An `open_session` or `resume_session` call, with the answers of the policy and of the random
source. -/
structure OpenCall where
  config : NnrpClientConfig
  ticket : Option NnrpSessionRecoveryTicket
  decision : NnrpServerPolicyDecision
  random : Option (ℕ → UInt8)

def OpenCall.effectiveConfig (call : OpenCall) : NnrpClientConfig :=
  match call.ticket with
  | some ticket => { call.config with requestedSessionId := ticket.sessionId, allowResume := true }
  | none => call.config

def OpenCall.request (call : OpenCall) :
    Except RuntimeError (SessionOpenMetadata × RuntimePacket) := do
  let metadata ← sessionOpenMetadata call.effectiveConfig (ticketToken call.ticket).length
  let packet ← openPacket metadata (ticketToken call.ticket)
  pure (metadata, packet)

namespace Peers

variable (p : Peers)

def serve (call : OpenCall) (packet : RuntimePacket) :
    Except RuntimeError (Attempt × RuntimePacket × Registry) :=
  acceptConnectionSession p.config p.connectionNonce packet call.decision p.clock call.random
    p.registry

def accept (call : OpenCall) (metadata : SessionOpenMetadata) (ackPacket : RuntimePacket) :
    Except RuntimeError Opened :=
  acceptOpenAck call.effectiveConfig metadata call.ticket p.lifecycle ackPacket

def ids : List UInt32 := p.sessions.map SessionPair.sessionId

def established (opened : Opened) (server : ConnectionLifecycle) : Peers :=
  { p with
    lifecycle := opened.lifecycle
    sessions := p.sessions ++ [⟨opened.ack.sessionId, opened.lifecycle, server, false⟩] }

end Peers

def SessionPair.close (x : SessionPair) (lastOperationId : UInt64) :
    Except NnrpError SessionPair := do
  let close : SessionCloseMetadata :=
    { closeReason := .clientShutdown
      inFlightPolicy := .drain
      drainTimeoutMs := 0
      lastOperationId
      sessionErrorCode := sessionErrorNone
      sessionCloseTag := x.sessionId }
  let header := { CommonHeader.new .sessionClose 24 0 with sessionId := x.sessionId }
  let client ← x.client.beginSessionClose header close
  let server ← x.server.beginSessionClose header close
  let ack : SessionCloseAckMetadata :=
    { closeStatus := .closed
      lastOperationId := close.lastOperationId
      sessionErrorCode := sessionErrorNone }
  let ackHeader := { CommonHeader.new .sessionCloseAck 16 0 with sessionId := x.sessionId }
  let server ← server.applySessionCloseAck ackHeader ack
  let client ← client.applySessionCloseAck ackHeader ack
  pure ⟨x.sessionId, client, server, true⟩

inductive Label
  | «open» (call : OpenCall)
  | close (i : ℕ) (lastOperationId : UInt64)
  | tick (nowMs : UInt64)

/-- One completed open or close. A request that the server cannot read ends the connection, and
an open that fails on the client leaves the session with the server. -/
def step (p : Peers) : Label → Option Peers
  | .open call =>
    match call.request with
    | .error _ => some p
    | .ok (metadata, packet) =>
      match p.serve call packet with
      | .error _ => none
      | .ok (a, ackPacket, registry) =>
        match p.accept call metadata ackPacket with
        | .error _ => some { p with registry }
        | .ok opened =>
          match ({} : ConnectionLifecycle).applySessionOpenAck a.ack with
          | .error _ => none
          | .ok server => some ({ p with registry }.established opened server)
  | .close i lastOperationId =>
    match p.sessions[i]? with
    | none => none
    | some x =>
      if x.closed then none
      else
        match x.close lastOperationId with
        | .error _ => none
        | .ok x' => some
          { p with
            sessions := p.sessions.set i x'
            registry := removeFromRegistry p.registry x.sessionId p.connectionNonce }
  | .tick nowMs => if p.clock ≤ nowMs then some { p with clock := nowMs } else none

def Peers.verdict (p : Peers) (call : OpenCall) :
    Option (SessionStatus × Except RuntimeError UInt32) :=
  match call.request with
  | .error _ => none
  | .ok (metadata, packet) =>
    match p.serve call packet with
    | .error _ => none
    | .ok (a, ackPacket, _) =>
      some (a.ack.sessionStatus, (p.accept call metadata ackPacket).map fun opened =>
        opened.ack.sessionId)

section
variable {p : Peers} {call : OpenCall} {md : SessionOpenMetadata}
  {pkt ackPkt : RuntimePacket} {a : Attempt} {reg : Registry} {opened : Opened}

theorem OpenCall.request_metadata (h : call.request = .ok (md, pkt))
    {req : SessionOpenMetadata} (hreq : openRequest pkt = .ok req) : req = md := by
  rw [OpenCall.request] at h
  obtain ⟨m, -, h⟩ := bind_eq_ok.mp h
  obtain ⟨q, hq, h⟩ := bind_eq_ok.mp h
  cases h
  rw [openPacket] at hq
  obtain ⟨bytes, hbytes, hq⟩ := bind_eq_ok.mp hq
  rw [liftNnrp_eq_ok] at hbytes hq
  have hparse := openRequest_ok hreq
  rw [(RuntimePacket.new_ok hq).1, SessionOpenMetadata.codec.parses hbytes] at hparse
  exact (Except.ok.inj hparse).symm

theorem serve_ok (hreq : call.request = .ok (md, pkt))
    (h : p.serve call pkt = .ok (a, ackPkt, reg)) :
    prepare p.config md pkt.body call.decision p.clock call.random
        (retain p.clock p.registry) = .ok a ∧ a.ackPacket = .ok ackPkt ∧
      reg = if a.accepted then (retain p.clock p.registry).insert a.sessionId
        (a.record p.config p.connectionNonce) else retain p.clock p.registry := by
  obtain ⟨req, hopen, hprep, hack, hreg⟩ := acceptConnectionSession_ok h
  rw [OpenCall.request_metadata hreq hopen] at hprep
  exact ⟨hprep, hack, hreg⟩

theorem accept_eq (hack : a.ackPacket = .ok ackPkt) : p.accept call md ackPkt =
      (validateOpenAck call.effectiveConfig md a.ack ackPkt.body >>= fun _ =>
        liftNnrp (p.lifecycle.applySessionOpenAck a.ack) >>= fun lifecycle => pure
          { ack := a.ack, lifecycle
            recoveryTicket := if 0 < a.ack.resumeTokenBytes then
                some ⟨a.ack.sessionId, ackPkt.body, call.ticket.bind (·.resumeFromOperationId),
                  a.ack.resumeWindowMs⟩ else none }) := by
  obtain ⟨htype, hparse, -⟩ := Attempt.ackPacket_ok hack
  simp only [Peers.accept, acceptOpenAck, htype, hparse]
  rfl

theorem accept_ok (hack : a.ackPacket = .ok ackPkt) (h : p.accept call md ackPkt = .ok opened) :
    opened.ack = a.ack ∧ (a.ack.sessionStatus = .opened ∨ a.ack.sessionStatus = .resumed) ∧
      p.lifecycle.applySessionOpenAck a.ack = .ok opened.lifecycle := by
  rw [accept_eq hack] at h
  obtain ⟨_, hvalid, h⟩ := bind_eq_ok.mp h
  obtain ⟨life, hlife, h⟩ := bind_eq_ok.mp h
  cases h
  exact ⟨rfl, validateOpenAck_ok hvalid, liftNnrp_eq_ok.mp hlife⟩

end

/-- The connection-wide lifecycle knows exactly the sessions that were ever established, each of
them once, and the server keeps an active record for those that are not closed. -/
structure Peers.Consistent (p : Peers) : Prop where
  state_open : p.lifecycle.state = .open
  known_iff : ∀ {s}, s ∈ p.lifecycle.sessions ↔ s ∈ p.ids
  distinct : p.ids.Nodup
  recorded : ∀ {x}, x ∈ p.sessions → x.closed = false →
    ∃ record, p.registry[x.sessionId]? = some record ∧ record.active = true

section
variable {p p' : Peers} {call : OpenCall} {m : SessionOpenMetadata}
  {packet ackPacket : RuntimePacket} {a : Attempt} {registry : Registry} {opened : Opened}
  {x x' : SessionPair} {i : ℕ}

theorem Peers.Consistent.served (hp : p.Consistent) (hreq : call.request = .ok (m, packet))
    (h : p.serve call packet = .ok (a, ackPacket, registry)) :
    ({ p with registry } : Peers).Consistent where
  state_open := hp.state_open
  known_iff := hp.known_iff
  distinct := hp.distinct
  recorded hx hopen := by
    obtain ⟨r, hrec, hact⟩ := hp.recorded hx hopen
    obtain ⟨-, -, hreg⟩ := serve_ok hreq h
    have hkept := retain_get_active p.clock hrec hact
    rw [hreg]
    split_ifs
    · rw [get_insert]
      split_ifs
      · exact ⟨_, rfl, rfl⟩
      · exact ⟨r, hkept, hact⟩
    · exact ⟨r, hkept, hact⟩

theorem Peers.Consistent.established (hp : p.Consistent) (hreq : call.request = .ok (m, packet))
    (h : p.serve call packet = .ok (a, ackPacket, registry))
    (haccept : p.accept call m ackPacket = .ok opened) (server : ConnectionLifecycle) :
    (({ p with registry } : Peers).established opened server).Consistent := by
  obtain ⟨hprep, hack, hreg⟩ := serve_ok hreq h
  obtain ⟨hopened, hstatus, happly⟩ := accept_ok hack haccept
  obtain ⟨hstate, hnew, state, hlife⟩ := applySessionOpenAck_ok happly hstatus
  have hacc := accepted_of_status hstatus
  have hid := (prepare_ok hprep).2.2.2.1 hacc
  rw [if_pos hacc] at hreg
  have hserved := hp.served hreq h
  have hids : (({ p with registry } : Peers).established opened server).ids =
      p.ids ++ [a.ack.sessionId] := by
    simp [Peers.ids, Peers.established, hopened]
  constructor
  · change opened.lifecycle.state = .open
    rw [hlife]
    exact hstate
  · intro s
    change s ∈ opened.lifecycle.sessions ↔ _
    rw [hlife, mem_established, hp.known_iff, hids, mem_append, mem_singleton, or_comm]
  · rw [hids]
    refine List.Nodup.append hp.distinct (nodup_singleton _) ?_
    rw [disjoint_singleton, ← hp.known_iff]
    exact hnew
  · intro x hx hopen
    rcases mem_append.mp hx with hx | hx
    · exact hserved.recorded hx hopen
    · rw [mem_singleton] at hx
      subst hx
      change ∃ r, registry[opened.ack.sessionId]? = some r ∧ r.active = true
      rw [hopened, hid, hreg]
      exact ⟨a.record p.config p.connectionNonce, by simp, rfl⟩

theorem SessionPair.close_ok {lastOperationId : UInt64} (h : x.close lastOperationId = .ok x') :
    x'.sessionId = x.sessionId ∧ x'.closed = true := by
  simp only [SessionPair.close] at h
  obtain ⟨_, -, h⟩ := bind_eq_ok.mp h
  obtain ⟨_, -, h⟩ := bind_eq_ok.mp h
  obtain ⟨_, -, h⟩ := bind_eq_ok.mp h
  obtain ⟨_, -, h⟩ := bind_eq_ok.mp h
  cases h
  exact ⟨rfl, rfl⟩

theorem Peers.Consistent.index_eq (hp : p.Consistent) {j : ℕ} {y : SessionPair}
    (hx : p.sessions[i]? = some x) (hy : p.sessions[j]? = some y)
    (hid : x.sessionId = y.sessionId) : i = j := by
  obtain ⟨hi, rfl⟩ := List.getElem?_eq_some_iff.mp hx
  obtain ⟨hj, rfl⟩ := List.getElem?_eq_some_iff.mp hy
  have hi' : i < p.ids.length := by simpa [Peers.ids] using hi
  have hj' : j < p.ids.length := by simpa [Peers.ids] using hj
  have heq : p.ids[i] = p.ids[j] := by simpa [Peers.ids] using hid
  exact hp.distinct.getElem_inj_iff.mp heq

theorem ids_set {sessions : List SessionPair} (hx : sessions[i]? = some x)
    (hid : x'.sessionId = x.sessionId) :
    (sessions.set i x').map SessionPair.sessionId = sessions.map SessionPair.sessionId := by
  obtain ⟨hi, rfl⟩ := List.getElem?_eq_some_iff.mp hx
  apply List.ext_getElem?
  intro j
  rw [List.getElem?_map, List.getElem?_map, List.getElem?_set]
  split_ifs with hij
  · subst hij
    simp [hx, hid]
  · rfl

theorem Peers.Consistent.close (hp : p.Consistent)
    (hx : p.sessions[i]? = some x) (hid : x'.sessionId = x.sessionId) (hclosed : x'.closed = true) :
    Peers.Consistent { p with
      sessions := p.sessions.set i x'
      registry := removeFromRegistry p.registry x.sessionId p.connectionNonce } := by
  have hids := ids_set hx hid
  constructor
  · exact hp.state_open
  · intro s
    rw [Peers.ids, hids]
    exact hp.known_iff
  · rw [Peers.ids, hids]
    exact hp.distinct
  · intro y hy hopen
    obtain ⟨j, hj⟩ := mem_iff_getElem?.mp hy
    rw [getElem?_set] at hj
    split_ifs at hj with hij hlt
    · cases hj
      rw [hclosed] at hopen
      cases hopen
    · -- the other sessions have other ids, so their records stay
      obtain ⟨r, hrec, hact⟩ := hp.recorded (mem_of_getElem? hj) hopen
      refine ⟨r, ?_, hact⟩
      rw [removeFromRegistry_get, if_neg fun h => hij (hp.index_eq hx hj h)]
      exact hrec

theorem step_consistent {e : Label} (hp : p.Consistent) (h : step p e = some p') :
    p'.Consistent := by
  cases e with
  | «open» call =>
    simp only [step] at h
    split at h
    · cases h
      exact hp
    · rename_i m packet hreq
      split at h
      · cases h
      · rename_i a ackPacket registry hserve
        split at h
        · cases h
          exact hp.served hreq hserve
        · rename_i opened haccept
          split at h <;> cases h
          exact hp.established hreq hserve haccept _
  | close i lastOperationId =>
    simp only [step] at h
    split at h
    · cases h
    · rename_i x hx
      split_ifs at h
      split at h
      · cases h
      · rename_i x' hclose
        cases h
        obtain ⟨hid, hclosed⟩ := SessionPair.close_ok hclose
        exact hp.close hx hid hclosed
  | tick nowMs =>
    simp only [step, Option.ite_none_right_eq_some, Option.some.injEq] at h
    obtain ⟨-, rfl⟩ := h
    exact { hp with }

end

def Peers.connect (config : NnrpServerConfig) (connectionNonce : ℕ) (registry : Registry)
    (clock : UInt64) : Peers :=
  { config, connectionNonce, registry, clock }

theorem connect_consistent {cfg : NnrpServerConfig} {n : ℕ} {reg : Registry}
    {clock : UInt64} : (Peers.connect cfg n reg clock).Consistent where
  state_open := rfl
  known_iff := by simp [Peers.connect, Peers.ids]
  distinct := nodup_nil
  recorded h := by cases h

/-- No id that the open may be granted belonged to a session that was closed on the connection. -/
def Peers.Unused (p : Peers) (metadata : SessionOpenMetadata) : Prop :=
  ∀ s, MayGrant metadata (retain p.clock p.registry) s →
    ∀ x ∈ p.sessions, x.closed = true → x.sessionId ≠ s

def Compatible (server : NnrpServerConfig) (client : NnrpClientConfig) : Prop :=
  client.allowResume = true → 0 < server.resumeTokenBytes → server.resumeWindowMs ≠ 0 ∧
    (0 < client.resumeTokenBytes → server.resumeTokenBytes ≤ client.resumeTokenBytes)

section
variable {p : Peers} {call : OpenCall} {metadata : SessionOpenMetadata}
  {packet ackPacket : RuntimePacket} {a : Attempt} {registry : Registry} {s t : UInt32}

theorem lowestFree_unique (hs : LowestFree registry s) (ht : LowestFree registry t) : s = t := by
  obtain ⟨hs0, hsfree, hsall⟩ := hs
  obtain ⟨ht0, htfree, htall⟩ := ht
  by_contra hne
  have hnat : s.toNat ≠ t.toNat := fun h => hne (UInt32.toNat_inj.mp h)
  rcases Nat.lt_or_gt_of_ne hnat with hlt | hlt
  · exact hsfree (htall s hs0 (UInt32.lt_iff_toNat_lt.mpr hlt))
  · exact htfree (hsall t ht0 (UInt32.lt_iff_toNat_lt.mpr hlt))

theorem mayGrant_unique (hs : MayGrant metadata registry s)
    (ht : MayGrant metadata registry t) : s = t := by
  rcases hs with ⟨hid, rfl⟩ | ⟨hid, hs⟩
  · rcases ht with ⟨-, rfl⟩ | ⟨hid', -⟩
    · rfl
    · exact absurd hid' hid
  · rcases ht with ⟨hid', -⟩ | ⟨-, ht⟩
    · exact absurd hid hid'
    · exact lowestFree_unique hs ht

theorem OpenCall.request_flags (h : call.request = .ok (metadata, packet))
    (hflag : metadata.sessionFlags &&& sessionFlagAllowResume ≠ 0) :
    call.effectiveConfig.allowResume = true := by
  rw [OpenCall.request] at h
  obtain ⟨m, hm, h⟩ := bind_eq_ok.mp h
  obtain ⟨q, -, h⟩ := bind_eq_ok.mp h
  cases h
  unfold sessionOpenMetadata at hm
  split_ifs at hm with hlen hallow
  · exact hallow
  · cases hm
    simp at hflag

variable (hprep : prepare p.config metadata packet.body call.decision p.clock call.random
    (retain p.clock p.registry) = .ok a) (hopened : a.ack.sessionStatus = .opened)
include hprep hopened

theorem opened_grant : MayGrant metadata (retain p.clock p.registry) a.ack.sessionId ∧
      a.ack.sessionId ∉ retain p.clock p.registry := by
  have hacc := accepted_of_status (.inl hopened)
  obtain ⟨hreq, -, hid, hself, haccepted⟩ := prepare_ok hprep
  have hnew : ¬0 < metadata.resumeTokenBytes := by
    intro hresume
    rw [a.sessionStatus_eq, hacc, hreq] at hopened
    simp [hresume] at hopened
  rw [hself hacc, hid]
  refine ⟨(allocate_granted (haccepted.mp hacc).2).1, ?_⟩
  rcases allocate_cases (haccepted.mp hacc).2 with
    ⟨hresume, -⟩ | ⟨-, -, hmem, heq⟩ | ⟨-, -, s, hfirst, heq⟩
  · exact absurd hresume hnew
  · rw [heq]
    exact hmem
  · rw [heq]
    exact (firstAvailableSessionId_lowestFree hfirst).2.1

theorem Peers.Consistent.known_iff_used (hp : p.Consistent) :
    a.ack.sessionId ∉ p.lifecycle.sessions ↔ p.Unused metadata := by
  obtain ⟨hgrant, hfree⟩ := opened_grant hprep hopened
  rw [hp.known_iff, Peers.ids, mem_map]
  constructor
  · intro hnew s hs x hx _ hid
    exact hnew ⟨x, hx, hid.trans (mayGrant_unique hs hgrant)⟩
  · rintro hunused ⟨x, hx, hid⟩
    have hclosed : x.closed = true := by
      by_contra hopen
      obtain ⟨r, hrec, hact⟩ := hp.recorded hx (by simpa using hopen)
      have hkept := retain_get_active p.clock hrec hact
      rw [hid] at hkept
      exact hfree (Std.ExtTreeMap.mem_iff_isSome_getElem?.mpr (by simp [hkept]))
    exact hunused _ hgrant x hx hclosed hid

theorem validateOpenAck_of_compatible (hreq : call.request = .ok (metadata, packet))
    (hack : a.ackPacket = .ok ackPacket) (hcompat : Compatible p.config call.effectiveConfig) :
    validateOpenAck call.effectiveConfig metadata a.ack ackPacket.body = .ok () := by
  have hacc := accepted_of_status (.inl hopened)
  have hdeclares := prepare_declares hprep
  have hext := hdeclares.extension
  rw [ackExtensionBytes, if_pos hacc, Except.ok.injEq] at hext
  obtain ⟨-, -, hbody⟩ := Attempt.ackPacket_ok hack
  rw [if_pos hacc] at hbody
  have hresume : a.resumeEnabled = true → p.config.resumeWindowMs ≠ 0 ∧
      0 < p.config.resumeTokenBytes ∧ (0 < call.effectiveConfig.resumeTokenBytes →
        p.config.resumeTokenBytes ≤ call.effectiveConfig.resumeTokenBytes) := by
    intro h
    obtain ⟨-, hflag, htoken⟩ := hdeclares.enabled.mp h
    obtain ⟨hw, hcap⟩ := hcompat (OpenCall.request_flags hreq hflag) htoken
    exact ⟨hw, htoken, hcap⟩
  apply validateOpenAck_opened hopened hext.symm (by rw [hbody, hdeclares.tokenLength])
  · intro hflag
    have h : a.resumeEnabled = true := by
      by_contra h
      simp [hdeclares.flags, h] at hflag
    obtain ⟨hw, htoken, -⟩ := hresume h
    rw [hdeclares.window, hdeclares.token, if_pos h]
    exact ⟨hw, (UInt32.pos_iff_ne_zero).mp htoken⟩
  · intro hpos hclient
    have h : a.resumeEnabled = true := by
      by_contra h
      simp [hdeclares.token, h] at hpos
    rw [hdeclares.token, if_pos h]
    exact (hresume h).2.2 hclient

end

/-- In every state of a connection an open that the server acknowledges as opened is never refused
because of its id if no closed session had it, and a compatible client accepts it exactly then. -/
theorem reopening_agreement (config : NnrpServerConfig) (n : ℕ) (registry : Registry)
    (clock : UInt64) {es : List Label} {p : Peers}
    (hr : run step (Peers.connect config n registry clock) es = some p) {call : OpenCall}
    {metadata : SessionOpenMetadata} {packet ackPacket : RuntimePacket} {a : Attempt}
    {registry' : Registry} (hrequest : call.request = .ok (metadata, packet))
    (hserve : p.serve call packet = .ok (a, ackPacket, registry'))
    (hopened : a.ack.sessionStatus = .opened) : (p.Unused metadata → ∀ s,
      p.accept call metadata ackPacket ≠ .error (.protocol (.sessionAlreadyExists s))) ∧
    (Compatible p.config call.effectiveConfig →
      ((∃ opened, p.accept call metadata ackPacket = .ok opened) ↔ p.Unused metadata)) := by
  have hp := run_induction Peers.Consistent (fun _ _ _ hp hs => step_consistent hp hs)
    connect_consistent hr
  obtain ⟨hprep, hack, -⟩ := serve_ok hrequest hserve
  have hknown := hp.known_iff_used hprep hopened
  have hid := a.ack_sessionId_ne_zero (accepted_of_status (.inl hopened))
  obtain ⟨state, happly⟩ := applySessionOpenAck_eq hp.state_open (.inl hopened)
  rw [accept_eq hack, happly, ← hknown]
  constructor
  · intro hnew s h
    rw [establish_ok_iff.mpr ⟨hid, hnew, rfl⟩] at h
    rcases bind_eq_error.mp h with h | ⟨_, -, h⟩
    · exact validateOpenAck_ne_exists hopened h
    · cases h
  · intro hcompat
    rw [validateOpenAck_of_compatible hprep hopened hrequest hack hcompat]
    constructor
    · rintro ⟨opened, h⟩
      obtain ⟨_, -, h⟩ := bind_eq_ok.mp h
      obtain ⟨life, h, -⟩ := bind_eq_ok.mp h
      exact (establish_ok_iff.mp (liftNnrp_eq_ok.mp h)).2.1
    · intro hnew
      rw [establish_ok_iff.mpr ⟨hid, hnew, rfl⟩]
      exact ⟨_, rfl⟩

theorem verdict_eq_some {p : Peers} {call : OpenCall} {status : SessionStatus}
    {result : Except RuntimeError UInt32} (h : p.verdict call = some (status, result)) :
    ∃ m pkt a ackPkt reg, call.request = .ok (m, pkt) ∧
      p.serve call pkt = .ok (a, ackPkt, reg) ∧ a.ack.sessionStatus = status ∧
      (p.accept call m ackPkt).map (fun opened => opened.ack.sessionId) = result := by
  unfold Peers.verdict at h
  split at h
  · cases h
  · rename_i m pkt hreq
    split at h
    · cases h
    · rename_i a ackPkt reg hserve
      cases h
      exact ⟨m, pkt, a, ackPkt, reg, hreq, hserve, rfl, rfl⟩

def openCall (requestedSessionId : UInt32) : OpenCall where
  config :=
    { requestedSessionId
      profileId := profileTensor
      schemaId := 0
      schemaVersion := 0
      priorityClass := .balanced
      defaultDeadlineMs := 500
      maxInFlightOperations := 4
      leaseTtlHintMs := 30000
      allowResume := false
      resumeTokenBytes := 0
      cacheHints := [] }
  ticket := none
  decision := .accept
  random := none

def openedAndClosed : List Label := [.open (openCall 0), .close 0 0]

theorem reopening_agreement_other_id :
    ∃ p metadata packet ackPacket,
      run step (Peers.connect tensorConfig 1 ∅ 0) openedAndClosed = some p ∧
      (openCall 7).request = .ok (metadata, packet) ∧
      (∃ opened, p.accept (openCall 7) metadata ackPacket = .ok opened) ∧ p.Unused metadata := by
  have h : (run step (Peers.connect tensorConfig 1 ∅ 0) openedAndClosed).map
      (fun p => p.verdict (openCall 7)) = some (some (.opened, .ok 7)) := by
    decide +kernel
  obtain ⟨p, hr, h⟩ := Option.map_eq_some_iff.mp h
  obtain ⟨metadata, packet, a, ackPacket, reg, hreq, hserve, hopened, haccept⟩ :=
    verdict_eq_some h
  have hacc : ∃ opened, p.accept (openCall 7) metadata ackPacket = .ok opened := by
    cases hres : p.accept (openCall 7) metadata ackPacket with
    | error e =>
      rw [hres] at haccept
      cases haccept
    | ok opened => exact ⟨opened, rfl⟩
  have hcompat : Compatible p.config (openCall 7).effectiveConfig := fun hallow => by cases hallow
  have hagree := reopening_agreement tensorConfig 1 ∅ 0 hr hreq hserve hopened
  exact ⟨p, metadata, packet, ackPacket, hr, hreq, hacc, (hagree.2 hcompat).mp hacc⟩

/-- The server grants id 1 again and the client refuses it. -/
theorem reopened_id_refused :
    ∃ p, run step (Peers.connect tensorConfig 1 ∅ 0) openedAndClosed = some p ∧
      p.verdict (openCall 0) = some (.opened, .error (.protocol (.sessionAlreadyExists 1))) := by
  have h : (run step (Peers.connect tensorConfig 1 ∅ 0) openedAndClosed).map
      (fun p => p.verdict (openCall 0)) =
      some (some (.opened, .error (.protocol (.sessionAlreadyExists 1)))) := by
    decide +kernel
  obtain ⟨p, hr, h⟩ := Option.map_eq_some_iff.mp h
  exact ⟨p, hr, h⟩

end Nnrp.Reopening
