import Nnrp.DriverQueue
import Nnrp.OpenCall

/-!
# Requests on their way

Where the hellos and opens of a client connection are: in the command queue, on the wire, or
answered. `Wire` is what holds while there is at most one of them on its way.
-/

namespace Nnrp.OpenCall
open Packet List
open Multiplex (CallId DriverEvent)

variable {a : Multiplex.Action}

namespace State

variable (w : State)

def queued : List RuntimePacket := w.driver.queuedWrites.filter IsRequest

def packets : List RuntimePacket := w.requests.map Prod.snd

def unread : List RuntimePacket :=
  (w.driver.control.sent.drop w.controlRead).filterMap DriverEvent.packet?

def backlog : List RuntimePacket := w.unread ++ w.network

/-- There is at most one request on its way: queued, on the wire, or as an answer. -/
structure Wire : Prop where
  driver : Multiplex.CallsWellFormed w.driver
  receiver : w.driver.control.receiverAlive = true
  healthy : w.driver.Alive → ∀ f, .failed f ∉ w.driver.control.sent
  controlRead_le : w.controlRead ≤ w.driver.control.sent.length
  written_packets : w.written <+: w.packets
  alive_packets : w.driver.Alive → w.written ++ w.queued = w.packets
  answered : w.answers.length ≤ w.written.length
  backlog_answers : w.backlog <:+ w.answers
  single : w.written.length + w.backlog.length ≤ w.answers.length + 1
  alive_single : w.driver.Alive →
    w.queued.length + w.written.length + w.backlog.length ≤ w.answers.length + 1

def Settled : Prop := w.driver.Alive →
  w.queued.length + w.written.length + w.backlog.length ≤ w.answers.length

def AllWritten : Prop := w.written.length = w.requests.length

/-- A request is queued, was written after all others, or will never be. -/
def PendingWrite (id : CallId) : Prop := w.driver.WriteTracked IsRequest w.AllWritten id

end State

def Neutral : Multiplex.Action → Prop
  | .callWrite packet | .sessionWrite _ packet => ¬IsRequest packet
  | .dropConnection => False
  | .callRegister _ | .callClose | .finishRegister _ | .dropRegister _ | .closeTransport _
  | .dropTransport _ | .command _ | .incoming _ | .hangup => True

theorem Neutral.of_background (h : Background a) : Neutral a := by
  cases a with
  | callWrite | dropConnection => exact h.elim
  | sessionWrite => exact h
  | callRegister | callClose | finishRegister | dropRegister | closeTransport | dropTransport
  | command | incoming | hangup => trivial

theorem Neutral.not_queues (h : Neutral a) : ¬a.Queues IsRequest := by
  rintro ⟨p, hp, hrequest⟩
  cases a with
  | callWrite | sessionWrite =>
    cases hp
    exact h hrequest
  | dropConnection => exact h.elim
  | callRegister | callClose | finishRegister | dropRegister | closeTransport | dropTransport
  | command | incoming | hangup => cases hp

theorem Neutral.ne_dropConnection (h : Neutral a) : a ≠ .dropConnection := by
  rintro rfl
  exact h

variable {w w' : State} {id : CallId}

abbrev RequestFlow (w w' : State) : Prop :=
  DrainedQueue.Flow w.driver.Alive w'.driver.Alive w.queued w'.queued w.written w'.written

namespace State.Wire

theorem backlog_le_one (h : Wire w) : w.backlog.length ≤ 1 := by
  have := h.single
  have := h.answered
  omega

theorem of_flow (h : Wire w) (hflow : RequestFlow w w')
    (halive : w'.driver.Alive → w.driver.Alive) (hreqs : w'.requests = w.requests)
    (hanswers : w'.answers = w.answers) (hbacklog : w'.backlog <:+ w.backlog)
    (hdriver : Multiplex.CallsWellFormed w'.driver)
    (hreceiver : w'.driver.control.receiverAlive = true)
    (hhealthy : w'.driver.Alive → ∀ f, .failed f ∉ w'.driver.control.sent)
    (hread : w'.controlRead ≤ w'.driver.control.sent.length) : Wire w' := by
  have hpkts : w'.packets = w.packets := by rw [packets, hreqs, packets]
  have hlen := hbacklog.length_le
  have hextends := hflow.written_extends.length_le
  have hanswered := h.answered
  have hsingle := h.single
  refine ⟨hdriver, hreceiver, hhealthy, hread, ?_, fun ha => ?_, ?_,
    hanswers ▸ hbacklog.trans h.backlog_answers, ?_, fun ha => ?_⟩
  · rw [hpkts]
    rcases hflow.written_cases with hw | ⟨ha, hw⟩
    · exact hw ▸ h.written_packets
    · exact h.alive_packets ha ▸ hw
  · rw [hpkts, hflow.append_eq ha]
    exact h.alive_packets (halive ha)
  · rw [hanswers]
    omega
  · rw [hanswers]
    rcases hflow.written_cases with hw | ⟨ha, hw⟩
    · rw [hw]
      omega
    · have hone := h.alive_single ha
      have hle := hw.length_le
      rw [length_append] at hle
      omega
  · have hone := h.alive_single (halive ha)
    have heq := congrArg length (hflow.append_eq ha)
    rw [length_append, length_append] at heq
    rw [hanswers]
    omega

end State.Wire

namespace State

theorem Settled.of_flow (h : w.Settled) (hflow : RequestFlow w w')
    (halive : w'.driver.Alive → w.driver.Alive) (hanswers : w'.answers = w.answers)
    (hbacklog : w'.backlog <:+ w.backlog) : w'.Settled := by
  intro ha
  have hle := h (halive ha)
  have hlen := hbacklog.length_le
  have heq := congrArg length (hflow.append_eq ha)
  rw [length_append, length_append] at heq
  rw [hanswers]
  omega

theorem AllWritten.mono (h : w.AllWritten) (hextends : w.written <+: w'.written) (hw : Wire w')
    (hreqs : w'.requests = w.requests) : w'.AllWritten := by
  have hle := hextends.length_le
  have hge := hw.written_packets.length_le
  rw [packets, length_map] at hge
  rw [AllWritten] at h ⊢
  rw [hreqs] at hge ⊢
  omega

theorem PendingWrite.step (h : w.PendingWrite id) (hw : Wire w)
    (hw' : Wire w') (ht : Multiplex.Transition w.driver a w'.driver) (hflow : RequestFlow w w')
    (hreqs : w'.requests = w.requests) : w'.PendingWrite id := by
  refine Multiplex.Connection.WriteTracked.step h hw.driver ht ?_ ?_
  · intro hall
    exact hall.mono hflow.written_extends hw' hreqs
  · intro p hpkt halive hq hwritten
    have hqueued : w.queued = p :: w'.queued := by simp [State.queued, hq, hpkt]
    have hsent : w'.written = w.written ++ [p] := by
      simp [State.written, hwritten, hpkt]
    have hone := hw.alive_single halive
    have hanswered := hw.answered
    have hall := congrArg length (hw.alive_packets halive)
    rw [hqueued, length_cons] at hone
    rw [hqueued, length_append, length_cons, packets, length_map] at hall
    rw [AllWritten, hsent, hreqs, length_append, length_singleton]
    omega

end State

end Nnrp.OpenCall
