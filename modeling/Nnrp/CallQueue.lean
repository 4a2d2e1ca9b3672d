import Nnrp.ChannelHistory

/-! # Waiting calls and the command queue

A call that waits for its completion has exactly one command in the queue of a running driver.
The driver takes commands from the head and every other party appends at the tail, so a call
moves to the head by one position with each command that is served. -/

namespace Nnrp.Multiplex
open Packet LabelledRun List Function Connection

variable {id : CallId}

def Connection.pendingCalls (w : Connection) : List CallId :=
  w.commands.filterMap DriverCommand.completion?

structure CallsWellFormed (w : Connection) : Prop where
  waiting : ∀ id < w.callCount, w.calls id = .waiting → id ∈ w.pendingCalls
  queued : ∀ id ∈ w.pendingCalls, id < w.callCount ∧ w.calls id = .waiting
  nodup : w.pendingCalls.Nodup
  stopped : w.running = false → w.commands = []

namespace CallsWellFormed

variable {w w' : Connection} {cmd : DriverCommand}

theorem start (kind : RuntimeTransportKind) : CallsWellFormed (.start kind) where
  waiting id hid := by simp [Connection.start] at hid
  queued id hid := by simp [Connection.start, Connection.pendingCalls] at hid
  nodup := by simp [Connection.start, Connection.pendingCalls]
  stopped h := by simp [Connection.start] at h

theorem congr (h : CallsWellFormed w) (hp : w'.pendingCalls = w.pendingCalls)
    (hc : w'.calls = w.calls) (hn : w'.callCount = w.callCount)
    (hs : w'.running = false → w'.commands = []) : CallsWellFormed w' where
  waiting id hid hw := by
    rw [hp]
    exact h.waiting id (hn ▸ hid) (hc ▸ hw)
  queued id hid := by
    rw [hn, hc]
    exact h.queued id (hp ▸ hid)
  nodup := hp ▸ h.nodup
  stopped := hs

theorem push (h : CallsWellFormed w) (hc : cmd.completion? = none)
    (hcalls : w'.calls = w.calls) (hn : w'.callCount = w.callCount) (hrun : w'.running = w.running)
    (hcommands : w'.commands = if w.running then w.commands ++ [cmd] else w.commands) :
    CallsWellFormed w' := by
  cases hr : w.running with
  | true =>
    refine h.congr ?_ hcalls hn fun hf => ?_
    · simp [pendingCalls, hcommands, hr, hc]
    · simp [hrun, hr] at hf
  | false =>
    refine h.congr ?_ hcalls hn fun _ => ?_
    · simp [pendingCalls, hcommands, hr]
    · simpa [hcommands, hr] using h.stopped hr

variable {rest : List DriverCommand}

theorem serve (h : CallsWellFormed w) (result : CallResult)
    (hc : w.commands = cmd :: rest) (hid : cmd.completion? = some id)
    (hres : result ≠ .waiting) (hcalls : w'.calls = update w.calls id result)
    (hn : w'.callCount = w.callCount) (hrun : w'.running = true)
    (hcommands : w'.commands = w.commands.tail) : CallsWellFormed w' := by
  have hpend : w.pendingCalls = id :: w'.pendingCalls := by
    simp [pendingCalls, hcommands, hc, hid]
  have hnodup := h.nodup
  rw [hpend, nodup_cons] at hnodup
  constructor
  · intro k hk hw
    have hne : k ≠ id := by
      intro he
      rw [hcalls, he, update_self] at hw
      exact hres hw
    rw [hcalls, update_of_ne hne] at hw
    have hmem := h.waiting k (hn ▸ hk) hw
    rw [hpend, mem_cons] at hmem
    exact hmem.resolve_left hne
  · intro k hk
    have hne : k ≠ id := fun he => hnodup.1 (he ▸ hk)
    have hold := h.queued k (by simp [hpend, hk])
    rw [hn, hcalls, update_of_ne hne]
    exact hold
  · exact hnodup.2
  · intro hf
    simp [hrun] at hf

theorem request (h : CallsWellFormed w) {cmd : CallId → DriverCommand}
    (hc : ∀ id, (cmd id).completion? = some id) : CallsWellFormed (w.request cmd) := by
  cases hr : w.running with
  | true =>
    have hpend : (w.request cmd).pendingCalls = w.pendingCalls ++ [w.callCount] := by
      simp [pendingCalls, hr, hc]
    constructor
    · intro k hk hw
      rw [hpend, mem_append, mem_singleton]
      by_cases he : k = w.callCount
      · exact .inr he
      · have hk' : k < w.callCount := lt_of_le_of_ne (Nat.le_of_lt_succ hk) he
        simp only [request_calls, update_of_ne he] at hw
        exact .inl (h.waiting k hk' hw)
    · intro k hk
      rw [hpend, mem_append, mem_singleton] at hk
      rcases hk with hk | hk
      · obtain ⟨hlt, hw⟩ := h.queued k hk
        simp only [request_callCount, request_calls, update_of_ne hlt.ne]
        exact ⟨hlt.trans (Nat.lt_succ_self _), hw⟩
      · simp [hk, hr]
    · rw [hpend, nodup_append]
      refine ⟨h.nodup, by simp, ?_⟩
      intro k hk l hl
      rw [mem_singleton] at hl
      exact hl ▸ (h.queued k hk).1.ne
    · intro hf
      simp [hr] at hf
  | false =>
    have hnil := h.stopped hr
    have hpend : (w.request cmd).pendingCalls = [] := by
      simp [pendingCalls, hr, hnil]
    constructor
    · intro k hk hw
      by_cases he : k = w.callCount
      · simp [he, hr] at hw
      · have hk' : k < w.callCount := lt_of_le_of_ne (Nat.le_of_lt_succ hk) he
        simp only [request_calls, update_of_ne he] at hw
        have hmem := h.waiting k hk' hw
        simp [pendingCalls, hnil] at hmem
    · intro k hk
      simp [hpend] at hk
    · simp [hpend]
    · intro _
      simp [hr, hnil]

theorem stop (h : CallsWellFormed w) : CallsWellFormed w.stop where
  waiting id hid hw := by
    rw [stop_calls] at hw
    split at hw
    · simp at hw
    · rename_i hmem
      exact absurd (h.waiting id hid hw) hmem
  queued id hid := by simp [pendingCalls] at hid
  nodup := by simp [pendingCalls]
  stopped _ := rfl

end CallsWellFormed

variable {w w' : Connection} {a : Action} {es : List Action} {kind : RuntimeTransportKind}

theorem Transition.callsWellFormed (ht : Transition w a w') (h : CallsWellFormed w) :
    CallsWellFormed w' := by
  cases ht with
  | callWrite | sessionWrite | callClose => exact h.request fun _ => rfl
  | registerSession | closeTransport | dropOpened => exact h.push rfl rfl rfl rfl rfl
  | writeRefused hrun hc hf | writeDone hrun hc hf =>
    exact h.serve _ hc rfl (by simp) rfl rfl hrun rfl
  | @writeFailed p id rest detail hrun hc hf =>
    refine CallsWellFormed.stop ?_
    exact h.serve (.resolved (.error ⟨w.transportKind, detail⟩)) hc rfl (by simp) rfl rfl hrun rfl
  | registerOccupied hrun hc | registerVacant hrun hc | unregistered hrun hc =>
    refine h.congr ?_ rfl rfl fun hf => ?_
    · simp only [pendingCalls, popCommand, hc]
      rfl
    · simp [hrun] at hf
  | @closeRefused id rest f ans hrun hc hf =>
    refine CallsWellFormed.stop ?_
    exact h.serve (.resolved (.error f)) hc rfl (by simp) rfl rfl hrun rfl
  | closeServed result hrun hc hf =>
    refine CallsWellFormed.stop ?_
    exact h.serve (.resolved result) hc rfl (by simp) rfl rfl hrun rfl
  | controlGone | bufferFull | hangup =>
    refine CallsWellFormed.stop ?_
    exact h.congr rfl rfl rfl h.stopped
  | _ => exact h.congr rfl rfl rfl h.stopped

theorem run_callsWellFormed (hr : run step (.start kind) es = some w) : CallsWellFormed w :=
  run_induction CallsWellFormed (fun _ _ _ h hs => (step_transition hs).callsWellFormed h)
    (.start kind) hr

theorem Transition.callCount_le (ht : Transition w a w') : w.callCount ≤ w'.callCount := by
  cases ht with
  | callWrite | sessionWrite | callClose => exact Nat.le_succ _
  | _ => exact le_rfl

theorem Transition.calls_eq (ht : Transition w a w') (hid : id < w.callCount)
    (hq : id ∉ w.pendingCalls) : w'.calls id = w.calls id := by
  have hserve : ∀ {cmd rest other} (result : CallResult), w.commands = cmd :: rest →
      cmd.completion? = some other → update w.calls other result id = w.calls id := by
    intro cmd rest other result hc hother
    have hne : id ≠ other := by
      intro he
      apply hq
      simp [pendingCalls, hc, hother, he]
    exact update_of_ne hne _ _
  have hstop : ∀ u : Connection, (∀ cmd ∈ u.commands, cmd ∈ w.commands) →
      u.stop.calls id = u.calls id := by
    intro u hu
    refine if_neg fun hmem => hq ?_
    obtain ⟨cmd, hc, hcid⟩ := mem_filterMap.mp hmem
    exact mem_filterMap.mpr ⟨cmd, hu cmd hc, hcid⟩
  cases ht with
  | callWrite | sessionWrite | callClose => exact update_of_ne hid.ne _ _
  | writeRefused hrun hc hf | writeDone hrun hc hf => exact hserve _ hc rfl
  | writeFailed hrun hc hf | closeRefused hrun hc hf | closeServed result hrun hc hf =>
    exact (hstop _ fun _ => mem_of_mem_tail).trans (hserve _ hc rfl)
  | controlGone | bufferFull | hangup => exact hstop _ fun _ h => h
  | _ => rfl

theorem run_calls_eq (hr : run step w es = some w') (hwf : CallsWellFormed w)
    (hid : id < w.callCount) (hres : w.calls id ≠ .waiting) : w'.calls id = w.calls id := by
  have hrun := run_induction (fun u => CallsWellFormed u ∧ id < u.callCount ∧
    u.calls id = w.calls id) (t := w') ?_ ⟨hwf, hid, rfl⟩ hr
  · exact hrun.2.2
  · intro u b u' ⟨hu, hlt, hcall⟩ hs
    have ht := step_transition hs
    have hnot : id ∉ u.pendingCalls := fun hmem => hres (hcall ▸ (hu.queued id hmem).2)
    exact ⟨ht.callsWellFormed hu, hlt.trans_le ht.callCount_le, (ht.calls_eq hlt hnot).trans hcall⟩

def Action.isCommand : Action → Bool
  | .command _ => true
  | _ => false

def served (es : List Action) : ℕ := es.countP Action.isCommand

inductive QueueStep (w : Connection) (a : Action) (w' : Connection) : Prop
  | append (ha : a.isCommand = false) (hc : w.commands <+: w'.commands)
  | tail (ha : a.isCommand = true) (hc : w'.commands = w.commands.tail)
  | ended (hc : w'.commands = [])

theorem commands_prefix_push (cmds : List DriverCommand) (cmd : DriverCommand)
    (running : Bool) : cmds <+: if running then cmds ++ [cmd] else cmds := by
  split
  · exact prefix_append _ _
  · exact prefix_rfl

theorem Transition.queueStep (ht : Transition w a w') : QueueStep w a w' := by
  cases ht with
  | callWrite | sessionWrite | callClose | registerSession | closeTransport | dropOpened =>
    exact .append rfl (commands_prefix_push _ _ _)
  | writeRefused | writeDone | registerOccupied | registerVacant | unregistered =>
    exact .tail rfl rfl
  | writeFailed | closeRefused | closeServed | controlGone | bufferFull | hangup =>
    exact .ended rfl
  | _ => exact .append rfl prefix_rfl

theorem QueueStep.position {k : ℕ} {cmd : DriverCommand} (h : QueueStep w a w')
    (hwf : CallsWellFormed w) (hk : w.commands[k]? = some cmd)
    (hid : cmd.completion? = some id) (hmem : id ∈ w'.pendingCalls) :
    ∃ j, w'.commands[j]? = some cmd ∧ k = j + served [a] := by
  cases h with
  | append ha hc =>
    refine ⟨k, ?_, by simp [served, ha]⟩
    obtain ⟨later, hlater⟩ := hc
    obtain ⟨hlt, -⟩ := List.getElem?_eq_some_iff.mp hk
    rw [← hlater, List.getElem?_append_left hlt]
    exact hk
  | tail ha hc =>
    cases k with
    | zero =>
      -- the command is the head, and no other command completes the call
      cases hw : w.commands with
      | nil => simp [hw] at hk
      | cons head rest =>
        have hhead : head = cmd := by simpa [hw] using hk
        have hnodup := hwf.nodup
        rw [pendingCalls, hw, hhead, List.filterMap_cons_some hid, List.nodup_cons] at hnodup
        rw [pendingCalls, hc, hw, List.tail_cons] at hmem
        exact absurd hmem hnodup.1
    | succ k =>
      refine ⟨k, ?_, by simp [served, ha]⟩
      rw [hc, List.getElem?_tail]
      exact hk
  | ended hc => simp [pendingCalls, hc] at hmem

theorem step_command_isSome (hrun : w.running = true) (hc : w.commands ≠ [])
    (ans : Except String Unit) : (step w (.command ans)).isSome = true := by
  cases hw : w.commands with
  | nil => exact absurd hw hc
  | cons cmd rest => simp [step, hrun, hw]

end Nnrp.Multiplex
