/-
The loop of the receive task and its heartbeat timer.

The timer's period is held by the loop, the adaptive interval by the manager
inside the receiver.  The loop replaces its timer when the heartbeat reports a
new interval; the heartbeat reads the interval it compares with only after the
tick has already changed it.  A run that a counter overflow ends is the run up to
there.
-/

import Udpix.Library.Unwinding
import Udpix.Protocol.Receiver
import Mathlib.Tactic.NormNum

namespace Udpix.Protocol

open Unwinding

namespace Receiver

/-- Process the datagrams of one batch up to and including a FIN. -/
def recvBatch (receiver : Receiver) : List (UInt64 × Bytes) → Receiver × Bool
  | [] => (receiver, false)
  | (nowUs, buf) :: rest =>
      match receiver.processDatagram nowUs buf with
      | (next, some true) => (next, true)
      | (next, _) => next.recvBatch rest

end Receiver

/-- What the loop waits for: the timer, or a batch of datagrams, each with the
wall clock at its processing. -/
inductive Wake where
  | heartbeat (nowUs : UInt64)
  | readable (batch : List (UInt64 × Bytes))

structure ReceiveLoop where
  receiver : Receiver
  period : Duration
  finished : Bool

namespace ReceiveLoop

def start (sessionId : UInt32) (initialSeq : Nat) : ReceiveLoop :=
  { receiver := Receiver.new sessionId initialSeq
    period := Duration.fromMillis 5
    finished := false }

/-- One pass of the loop of `Receiver::run`; after a FIN there is none. -/
def handle (loop : ReceiveLoop) (wake : Wake) : ReceiveLoop :=
  if loop.finished then loop
  else
    match wake with
    | .heartbeat nowUs =>
        let (next, changed) := loop.receiver.sendHeartbeatSack nowUs
        { loop with
          receiver := next
          period := match changed with
            | some newInterval => newInterval
            | none => loop.period }
    | .readable batch =>
        let (next, fin) := loop.receiver.recvBatch batch
        { loop with receiver := next, finished := fin }

def interval (loop : ReceiveLoop) : Duration := loop.receiver.sackMgr.heartbeatInterval

end ReceiveLoop

namespace Receiver

/-- The heartbeat never reports an interval. -/
theorem sendHeartbeatSack_reports_none (receiver : Receiver) (nowUs : UInt64) :
    (receiver.sendHeartbeatSack nowUs).2 = none :=
  if_neg (fun changed => changed rfl)

end Receiver

namespace ReceiveLoop

/-- The timer never leaves its first period, and neither does the interval while
every heartbeat leaves it there. -/
structure Calm (loop : ReceiveLoop) : Prop where
  period : loop.period = Duration.fromMillis 5
  interval : loop.finished = false → loop.interval = Duration.fromMillis 5

theorem handle_heartbeat (loop : ReceiveLoop) (nowUs : UInt64) (running : loop.finished = false) :
    loop.handle (.heartbeat nowUs) =
      { loop with receiver := (loop.receiver.sendHeartbeatSack nowUs).1 } := by
  have silent := loop.receiver.sendHeartbeatSack_reports_none nowUs
  simp only [handle, running, Bool.false_eq_true, if_false, silent]

theorem calm_start (sessionId : UInt32) (initialSeq : Nat) : (start sessionId initialSeq).Calm := by
  refine ⟨?_, ?_⟩
  · rw [start]
  · intro _
    rw [interval, start, Receiver.new, SackManager.new]

end ReceiveLoop

end Udpix.Protocol
