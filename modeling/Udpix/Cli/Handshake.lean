/-
The handshake before a direct transfer.

The receiver binds its UDP socket, listens on the TCP port of the same number,
accepts one connection, writes `READY` on it and closes.  The sender connects
again and again for a minute, reads once from the first connection it gets, and
goes on if the read begins with `READY`.  The two run at their own speed; the
clock, other clients of the port and failing system calls come in between.  TCP
delivers what was written in order and in pieces of any size, and nobody but the
receiver listens at the address the sender was given.
-/

import Udpix.Protocol.Packet
import Udpix.Protocol.Session

namespace Udpix.Cli

open Protocol

/-- `b"READY\n"`. -/
def READY : Bytes := [0x52, 0x45, 0x41, 0x44, 0x59, 0x0a]

/-- Who is at the far end of a connection to the receiver. -/
inductive Client where
  | sender
  | other
deriving DecidableEq

inductive SignalFailure where
  | bind
  | timedOut
  | accept
  | write (rest : Bytes)
deriving DecidableEq

def SignalFailure.message (port : UInt16) : SignalFailure → String
  | .bind => "TCP handshake: bind on port " ++ toString port
  | .timedOut => "TCP handshake: timed out waiting for sender (300s)"
  | .accept => "TCP handshake: accept error"
  | .write _ => "TCP handshake: failed to write READY"

inductive AwaitFailure where
  | notReady
  | read
  | unexpected
deriving DecidableEq

def AwaitFailure.message : AwaitFailure → String
  | .notReady => "TCP handshake: receiver did not become ready within 60s"
  | .read => "TCP handshake: read error"
  | .unexpected => "TCP handshake: unexpected response from receiver"

/-- Where the receiver is.  Its UDP socket is open from `bound` on, until it
fails. -/
inductive SignalPhase where
  | starting
  | bound
  | listening (since : Instant)
  | writing (client : Client) (rest : Bytes)
  | receiving
  | failed (reason : SignalFailure)
deriving DecidableEq

/-- The listener lives until `tcp_signal_ready` returns. -/
def SignalPhase.listens : SignalPhase → Bool
  | .listening _ => true
  | .writing _ _ => true
  | _ => false

def SignalPhase.hasEnded : SignalPhase → Bool
  | .receiving => true
  | .failed _ => true
  | _ => false

inductive AwaitPhase where
  | starting
  | checking
  | connecting
  | sleeping (wakes : Instant)
  | reading
  | sending
  | failed (reason : AwaitFailure)
deriving DecidableEq

def AwaitPhase.hasEnded : AwaitPhase → Bool
  | .sending => true
  | .failed _ => true
  | _ => false

def AwaitPhase.hasConnected : AwaitPhase → Bool
  | .reading => true
  | .sending => true
  | .failed .read => true
  | .failed .unexpected => true
  | _ => false

/-- Both processes, the connections nobody has accepted yet, and the one the
receiver took.  `written` is the log of its writes, and `pipe` holds the bytes on
their way to the client. -/
structure Handshake where
  clock : Instant
  receiver : SignalPhase
  sender : AwaitPhase
  backlog : List Client
  served : Option Client
  written : List (Client × Bytes)
  pipe : Bytes
  heard : Bytes
  deadline : Instant
  attempts : Nat

namespace Handshake

def start (clock : Instant) : Handshake :=
  { clock := clock
    receiver := .starting
    sender := .starting
    backlog := []
    served := none
    written := []
    pipe := []
    heard := []
    deadline := clock
    attempts := 0 }

def tcpSignalReady (port : UInt16) (state : Handshake) : Option (Except String Unit) :=
  match state.receiver with
  | .receiving => some (.ok ())
  | .failed reason => some (.error (reason.message port))
  | _ => none

def tcpAwaitReady (state : Handshake) : Option (Except String Unit) :=
  match state.sender with
  | .sending => some (.ok ())
  | .failed reason => some (.error reason.message)
  | _ => none

/-- `n >= 5 && &buf[..5] == b"READY"`. -/
def isReady (buf : Bytes) : Bool := 5 ≤ buf.length && buf.take 5 == READY.take 5

def answer (buf : Bytes) : AwaitPhase :=
  if isReady buf then .sending else .failed .unexpected

def afterWrite (client : Client) (rest : Bytes) : SignalPhase :=
  if rest = [] then .receiving else .writing client rest

def output (state : Handshake) : Bytes := state.written.flatMap Prod.snd

/-- Who makes a step: a program on its way, a system call that fails in one, a
client from elsewhere, or time. -/
inductive Cause where
  | program
  | fault
  | other
  | time
deriving DecidableEq

def Cause.isOwn : Cause → Bool
  | .program => true
  | .fault => true
  | _ => false

inductive SignalStep (state : Handshake) : Cause → Handshake → Prop where
  | bound (place : state.receiver = .starting) :
      SignalStep state .program { state with receiver := .bound }
  | listens (place : state.receiver = .bound) :
      SignalStep state .program { state with receiver := .listening state.clock }
  | bindFails (place : state.receiver = .bound) :
      SignalStep state .fault { state with receiver := .failed .bind }
  | accepts {since : Instant} {client : Client} {rest : List Client}
      (place : state.receiver = .listening since) (waiting : state.backlog = client :: rest) :
      SignalStep state .program
        { state with
          receiver := .writing client READY
          backlog := rest
          served := some client }
  | acceptFails {since : Instant} (place : state.receiver = .listening since) :
      SignalStep state .fault { state with receiver := .failed .accept }
  | timesOut {since : Instant} (place : state.receiver = .listening since)
      (late : since + Duration.fromSecs 300 ≤ state.clock) :
      SignalStep state .program { state with receiver := .failed .timedOut }
  | writes {client : Client} {rest : Bytes} {count : Nat}
      (place : state.receiver = .writing client rest) (some : 0 < count)
      (within : count ≤ rest.length) :
      SignalStep state .program
        { state with
          receiver := afterWrite client (rest.drop count)
          written := state.written ++ [(client, rest.take count)]
          pipe := state.pipe ++ rest.take count }
  | writeFails {client : Client} {rest : Bytes} (place : state.receiver = .writing client rest) :
      SignalStep state .fault { state with receiver := .failed (.write rest) }

/-- The steps of `tcp_await_ready`, after the UDP socket is bound.  A connection
that the receiver closes before it accepts it is reset. -/
inductive AwaitStep (state : Handshake) : Cause → Handshake → Prop where
  | bound (place : state.sender = .starting) :
      AwaitStep state .program
        { state with sender := .checking, deadline := state.clock + Duration.fromSecs 60 }
  | gaveUp (place : state.sender = .checking) (late : state.deadline ≤ state.clock) :
      AwaitStep state .program { state with sender := .failed .notReady }
  | tries (place : state.sender = .checking) (early : state.clock < state.deadline) :
      AwaitStep state .program
        { state with sender := .connecting, attempts := state.attempts + 1 }
  | connects (place : state.sender = .connecting) (up : state.receiver.listens = true) :
      AwaitStep state .program
        { state with sender := .reading, backlog := state.backlog ++ [.sender] }
  | refused (place : state.sender = .connecting) (down : state.receiver.listens = false) :
      AwaitStep state .program
        { state with sender := .sleeping (state.clock + Duration.fromMillis 500) }
  | connectFails (place : state.sender = .connecting) :
      AwaitStep state .fault
        { state with sender := .sleeping (state.clock + Duration.fromMillis 500) }
  | wakes {wakes : Instant} (place : state.sender = .sleeping wakes)
      (passed : wakes ≤ state.clock) :
      AwaitStep state .program { state with sender := .checking }
  | reads {count : Nat} (place : state.sender = .reading)
      (served : state.served = some .sender) (some : 0 < count) (fits : count ≤ 8)
      (within : count ≤ state.pipe.length) :
      AwaitStep state .program
        { state with
          sender := answer (state.pipe.take count)
          heard := state.pipe.take count
          pipe := state.pipe.drop count }
  | readsEnd (place : state.sender = .reading) (nothing : state.pipe = [])
      (served : state.served = some .sender) (closed : state.receiver.hasEnded = true) :
      AwaitStep state .program { state with sender := answer [], heard := [] }
  | reset (place : state.sender = .reading) (unserved : state.served ≠ some .sender)
      (closed : state.receiver.hasEnded = true) :
      AwaitStep state .program { state with sender := .failed .read }
  | readFails (place : state.sender = .reading) :
      AwaitStep state .fault { state with sender := .failed .read }

inductive Step (state : Handshake) : Cause → Handshake → Prop where
  | signal {cause : Cause} {next : Handshake} (step : SignalStep state cause next) :
      Step state cause next
  | await {cause : Cause} {next : Handshake} (step : AwaitStep state cause next) :
      Step state cause next
  | other (up : state.receiver.listens = true) :
      Step state .other { state with backlog := state.backlog ++ [.other] }
  | time (elapsed : Duration) : Step state .time { state with clock := state.clock + elapsed }

/-- What the two processes and their surroundings did so far, and where that led. -/
inductive Run (clock : Instant) : List Cause → Handshake → Prop where
  | start : Run clock [] (start clock)
  | step {causes : List Cause} {cause : Cause} {state next : Handshake}
      (run : Run clock causes state) (taken : Step state cause next) :
      Run clock (cause :: causes) next

/-! ### The bytes of the connection -/

/-- Whom the receiver has accepted, at each of its places. -/
def ServedAt : SignalPhase → Option Client → Prop
  | .writing client rest, served => served = some client ∧ rest ≠ []
  | .receiving, served => served ≠ none
  | .failed (.write rest), served => served ≠ none ∧ rest ≠ []
  | _, served => served = none

def unwritten : SignalPhase → Bytes
  | .writing _ rest => rest
  | .failed (.write rest) => rest
  | _ => []

/-- What holds between the two: the sender's connection waits, was taken or is
lost, and the bytes of `READY` are read, on their way or still to be written, all
of them to the one client. -/
structure Sound (state : Handshake) : Prop where
  served : ServedAt state.receiver state.served
  apart : state.sender.hasConnected = false →
    .sender ∉ state.backlog ∧ state.served ≠ some .sender
  waits : state.sender = .reading → state.heard = [] ∧
    (.sender ∈ state.backlog ∨ state.served = some .sender ∨ state.receiver.hasEnded = true)
  ready : state.sender = .sending → isReady state.heard = true
  unexpected : state.sender = .failed .unexpected → isReady state.heard = false
  nothing : state.served ≠ some .sender → state.heard = []
  pieces : ∀ piece, piece ∈ state.written → state.served = some piece.1
  carried : state.heard ++ state.pipe = state.output
  stream : state.served ≠ none → state.output ++ unwritten state.receiver = READY

theorem sound_start (clock : Instant) : Sound (start clock) where
  served := rfl
  apart := fun _ => ⟨List.not_mem_nil, nofun⟩
  waits := nofun
  ready := nofun
  unexpected := nofun
  nothing := fun _ => rfl
  pieces := nofun
  carried := rfl
  stream := fun served => absurd rfl served

section Sound

variable {state next : Handshake} {cause : Cause}

theorem Sound.moves (sound : Sound state) {before phase : SignalPhase}
    (place : state.receiver = before) (running : before.hasEnded = false)
    (served : ServedAt before state.served → ServedAt phase state.served)
    (same : unwritten phase = unwritten before) :
    Sound { state with receiver := phase } := by
  subst place
  refine ⟨served sound.served, sound.apart, ?_, sound.ready, sound.unexpected,
    sound.nothing, sound.pieces, sound.carried, ?_⟩
  · intro reading
    obtain ⟨silent, waiting | accepted | ended⟩ := sound.waits reading
    · exact ⟨silent, .inl waiting⟩
    · exact ⟨silent, .inr (.inl accepted)⟩
    · exact absurd (running.symm.trans ended) Bool.false_ne_true
  · intro accepted
    rw [same]
    exact sound.stream accepted

theorem Sound.written_eq_nil (sound : Sound state) (unserved : state.served = none) :
    state.written = [] := by
  apply List.eq_nil_iff_forall_not_mem.mpr
  intro piece member
  have served := sound.pieces piece member
  rw [unserved] at served
  cases served

theorem Sound.accepts (sound : Sound state) {since : Instant} {client : Client}
    {rest : List Client} (place : state.receiver = .listening since)
    (waiting : state.backlog = client :: rest) :
    Sound
      { state with
        receiver := .writing client READY
        backlog := rest
        served := some client } := by
  have unserved : state.served = none := by
    have served := sound.served
    rw [place] at served
    exact served
  have silent := sound.nothing (by rw [unserved]; nofun)
  have noPieces := sound.written_eq_nil unserved
  refine ⟨⟨rfl, nofun⟩, ?_, ?_, sound.ready, sound.unexpected, fun _ => silent, ?_,
    sound.carried, ?_⟩
  · intro outside
    obtain ⟨absent, _⟩ := sound.apart outside
    rw [waiting, List.mem_cons, not_or] at absent
    refine ⟨absent.2, ?_⟩
    intro isSender
    exact absent.1 (Option.some.inj isSender).symm
  · intro reading
    obtain ⟨heard, queued | accepted | ended⟩ := sound.waits reading
    · rw [waiting, List.mem_cons] at queued
      rcases queued with first | later
      · exact ⟨heard, .inr (.inl (congrArg some first.symm))⟩
      · exact ⟨heard, .inl later⟩
    · rw [unserved] at accepted
      cases accepted
    · rw [place] at ended
      cases ended
  · intro piece member
    rw [noPieces] at member
    cases member
  · intro _
    change state.output ++ READY = READY
    rw [output, noPieces]
    rfl

theorem unwritten_afterWrite (client : Client) (rest : Bytes) :
    unwritten (afterWrite client rest) = rest := by
  unfold afterWrite
  split
  · rename_i done
    rw [done]
    rfl
  · rfl

theorem servedAt_afterWrite (client : Client) (rest : Bytes) :
    ServedAt (afterWrite client rest) (some client) := by
  unfold afterWrite
  split
  · exact Option.some_ne_none client
  · rename_i more
    exact ⟨rfl, more⟩

theorem Sound.writes (sound : Sound state) {client : Client} {rest : Bytes} (count : Nat)
    (place : state.receiver = .writing client rest) :
    Sound
      { state with
        receiver := afterWrite client (rest.drop count)
        written := state.written ++ [(client, rest.take count)]
        pipe := state.pipe ++ rest.take count } := by
  have accepted : state.served = some client := by
    have served := sound.served
    rw [place] at served
    exact served.1
  have grown : (state.written ++ [(client, rest.take count)]).flatMap Prod.snd =
      state.output ++ rest.take count := by
    rw [List.flatMap_append, List.flatMap_singleton]
    rfl
  refine ⟨?_, sound.apart, ?_, sound.ready, sound.unexpected, sound.nothing, ?_, ?_, ?_⟩
  · rw [accepted]
    exact servedAt_afterWrite client _
  · intro reading
    obtain ⟨heard, queued | taken | ended⟩ := sound.waits reading
    · exact ⟨heard, .inl queued⟩
    · exact ⟨heard, .inr (.inl taken)⟩
    · rw [place] at ended
      cases ended
  · intro piece member
    rcases List.mem_append.mp member with earlier | last
    · exact sound.pieces piece earlier
    · rw [List.mem_singleton.mp last]
      exact accepted
  · rw [output, grown, ← sound.carried, List.append_assoc]
  · intro served
    have stream := sound.stream served
    rw [place] at stream
    rw [output, grown, unwritten_afterWrite, List.append_assoc, List.take_append_drop]
    exact stream

theorem Sound.signal (sound : Sound state) (step : SignalStep state cause next) :
    Sound next := by
  cases step with
  | bound place => exact sound.moves place rfl id rfl
  | listens place => exact sound.moves place rfl id rfl
  | bindFails place => exact sound.moves place rfl id rfl
  | accepts place waiting => exact sound.accepts place waiting
  | acceptFails place => exact sound.moves place rfl id rfl
  | timesOut place late => exact sound.moves place rfl id rfl
  | writes place some within => exact sound.writes _ place
  | writeFails place =>
      refine sound.moves place rfl ?_ rfl
      rintro ⟨accepted, more⟩
      rw [accepted]
      exact ⟨Option.some_ne_none _, more⟩

theorem Sound.tries (sound : Sound state) {before phase : AwaitPhase}
    (place : state.sender = before) (outside : before.hasConnected = false)
    (still : phase.hasConnected = false) (deadline : Instant) (attempts : Nat) :
    Sound { state with sender := phase, deadline := deadline, attempts := attempts } where
  served := sound.served
  apart := fun _ => sound.apart (by rw [place, outside])
  waits := by
    rintro rfl
    cases still
  ready := by
    rintro rfl
    cases still
  unexpected := by
    rintro rfl
    cases still
  nothing := sound.nothing
  pieces := sound.pieces
  carried := sound.carried
  stream := sound.stream

theorem Sound.connects (sound : Sound state) (place : state.sender = .connecting) :
    Sound { state with sender := .reading, backlog := state.backlog ++ [.sender] } where
  served := sound.served
  apart := nofun
  waits := by
    intro _
    have outside := sound.apart (by rw [place]; rfl)
    exact ⟨sound.nothing outside.2, .inl (List.mem_append_right _ List.mem_cons_self)⟩
  ready := nofun
  unexpected := nofun
  nothing := sound.nothing
  pieces := sound.pieces
  carried := sound.carried
  stream := sound.stream

theorem answer_hasConnected (buf : Bytes) : (answer buf).hasConnected = true := by
  unfold answer
  split <;> rfl

theorem isReady_of_answer {buf : Bytes} (goesOn : answer buf = .sending) :
    isReady buf = true := by
  unfold answer at goesOn
  split at goesOn
  · assumption
  · cases goesOn

theorem not_isReady_of_answer {buf : Bytes} (stops : answer buf = .failed .unexpected) :
    isReady buf = false := by
  unfold answer at stops
  split at stops
  · cases stops
  · rename_i other
    exact Bool.eq_false_iff.mpr other

theorem answer_ne_reading (buf : Bytes) : answer buf ≠ .reading := by
  unfold answer
  split <;> nofun

theorem Sound.reads (sound : Sound state) (count : Nat) (place : state.sender = .reading)
    (served : state.served = some .sender) :
    Sound
      { state with
        sender := answer (state.pipe.take count)
        heard := state.pipe.take count
        pipe := state.pipe.drop count } where
  served := sound.served
  apart := by
    intro outside
    rw [answer_hasConnected] at outside
    cases outside
  waits := fun reading => absurd reading (answer_ne_reading _)
  ready := isReady_of_answer
  unexpected := not_isReady_of_answer
  nothing := fun unserved => absurd served unserved
  pieces := sound.pieces
  carried := by
    have carried := sound.carried
    rw [(sound.waits place).1, List.nil_append] at carried
    rw [List.take_append_drop]
    exact carried
  stream := sound.stream

theorem Sound.readFails (sound : Sound state) :
    Sound { state with sender := .failed .read } where
  served := sound.served
  apart := nofun
  waits := nofun
  ready := nofun
  unexpected := nofun
  nothing := sound.nothing
  pieces := sound.pieces
  carried := sound.carried
  stream := sound.stream

theorem Sound.await (sound : Sound state) (step : AwaitStep state cause next) :
    Sound next := by
  cases step with
  | bound place => exact sound.tries place rfl rfl _ _
  | gaveUp place late => exact sound.tries place rfl rfl _ _
  | tries place early => exact sound.tries place rfl rfl _ _
  | connects place up => exact sound.connects place
  | refused place down => exact sound.tries place rfl rfl _ _
  | connectFails place => exact sound.tries place rfl rfl _ _
  | wakes place passed => exact sound.tries place rfl rfl _ _
  | reads place served some fits within => exact sound.reads _ place served
  | readsEnd place nothing served closed =>
      have read := sound.reads 0 place served
      rw [List.take_zero, List.drop_zero] at read
      exact read
  | reset place unserved closed => exact sound.readFails
  | readFails place => exact sound.readFails

theorem Sound.other (sound : Sound state) :
    Sound { state with backlog := state.backlog ++ [.other] } where
  served := sound.served
  apart := by
    intro outside
    obtain ⟨absent, unserved⟩ := sound.apart outside
    refine ⟨?_, unserved⟩
    change .sender ∉ state.backlog ++ [.other]
    rw [List.mem_append, List.mem_singleton, not_or]
    exact ⟨absent, nofun⟩
  waits := by
    intro reading
    obtain ⟨heard, queued | elsewhere⟩ := sound.waits reading
    · exact ⟨heard, .inl (List.mem_append_left _ queued)⟩
    · exact ⟨heard, .inr elsewhere⟩
  ready := sound.ready
  unexpected := sound.unexpected
  nothing := sound.nothing
  pieces := sound.pieces
  carried := sound.carried
  stream := sound.stream

theorem Sound.step (sound : Sound state) (step : Step state cause next) : Sound next := by
  cases step with
  | signal step => exact sound.signal step
  | await step => exact sound.await step
  | other up => exact sound.other
  | time elapsed =>
      exact ⟨sound.served, sound.apart, sound.waits, sound.ready, sound.unexpected,
        sound.nothing, sound.pieces, sound.carried, sound.stream⟩

end Sound

/-! ### The minute of the sender -/

/-- So many half seconds of the minute before the deadline have passed. -/
def Spaced (deadline now : Int) (attempts : Nat) : Prop :=
  deadline + (Duration.fromMillis 500 * attempts : Nat) ≤ now + (Duration.fromSecs 60 : Nat)

theorem spaced_zero (now : Int) : Spaced (now + (Duration.fromSecs 60 : Nat)) now 0 :=
  Int.le_of_eq (Int.add_zero _)

theorem Spaced.mono {deadline now later : Int} {attempts : Nat}
    (spaced : Spaced deadline now attempts) (passed : now ≤ later) :
    Spaced deadline later attempts :=
  Int.le_trans spaced (Int.add_le_add_right passed _)

theorem Spaced.next {deadline now : Int} {attempts : Nat}
    (spaced : Spaced deadline now attempts) :
    Spaced deadline (now + (Duration.fromMillis 500 : Nat)) (attempts + 1) := by
  unfold Spaced Duration.fromMillis Duration.fromSecs at *
  omega

theorem Spaced.lt {deadline now : Int} {attempts : Nat}
    (spaced : Spaced deadline now attempts) (early : now < deadline) : attempts < 120 := by
  unfold Spaced Duration.fromMillis Duration.fromSecs at spaced
  omega

/-- Attempts are half a second apart, and each begins before the deadline. -/
def AttemptsAt (state : Handshake) : AwaitPhase → Prop
  | .starting => state.attempts = 0
  | .checking => Spaced state.deadline state.clock state.attempts
  | .connecting =>
      Spaced state.deadline (state.clock + (Duration.fromMillis 500 : Nat)) state.attempts
  | .sleeping wakes => Spaced state.deadline wakes state.attempts
  | _ => True

structure Timed (state : Handshake) : Prop where
  spaced : AttemptsAt state state.sender
  few : state.attempts ≤ 120

theorem timed_start (clock : Instant) : Timed (start clock) := ⟨rfl, Nat.zero_le _⟩

section Timed

variable {state next : Handshake} {cause : Cause}

theorem attemptsAt_answer (state : Handshake) (buf : Bytes) : AttemptsAt state (answer buf) := by
  unfold answer
  split <;> trivial

theorem Timed.await (timed : Timed state) (step : AwaitStep state cause next) :
    Timed next := by
  have spaced := timed.spaced
  cases step with
  | bound place =>
      rw [place] at spaced
      refine ⟨?_, timed.few⟩
      change Spaced _ state.clock state.attempts
      rw [show state.attempts = 0 from spaced]
      exact spaced_zero state.clock
  | gaveUp place late => exact ⟨trivial, timed.few⟩
  | tries place early =>
      rw [place] at spaced
      exact ⟨Spaced.next spaced, Spaced.lt spaced early⟩
  | connects place up => exact ⟨trivial, timed.few⟩
  | refused place down =>
      rw [place] at spaced
      exact ⟨spaced, timed.few⟩
  | connectFails place =>
      rw [place] at spaced
      exact ⟨spaced, timed.few⟩
  | wakes place passed =>
      rw [place] at spaced
      exact ⟨Spaced.mono spaced passed, timed.few⟩
  | reads place served some fits within => exact ⟨attemptsAt_answer _ _, timed.few⟩
  | readsEnd place nothing served closed => exact ⟨attemptsAt_answer _ [], timed.few⟩
  | reset place unserved closed => exact ⟨trivial, timed.few⟩
  | readFails place => exact ⟨trivial, timed.few⟩

theorem Timed.elapse (timed : Timed state) (elapsed : Duration) :
    Timed { state with clock := state.clock + elapsed } := by
  have passed : state.clock ≤ state.clock + elapsed :=
    Int.le_add_of_nonneg_right (Int.natCast_nonneg elapsed)
  have spaced := timed.spaced
  refine ⟨?_, timed.few⟩
  cases place : state.sender with
  | checking =>
      rw [place] at spaced
      exact Spaced.mono spaced passed
  | connecting =>
      rw [place] at spaced
      exact Spaced.mono spaced (Int.add_le_add_right passed _)
  | _ =>
      rw [place] at spaced
      exact spaced

theorem Timed.step (timed : Timed state) (step : Step state cause next) : Timed next := by
  cases step with
  | signal step => cases step <;> exact ⟨timed.spaced, timed.few⟩
  | await step => exact timed.await step
  | other up => exact ⟨timed.spaced, timed.few⟩
  | time elapsed => exact timed.elapse elapsed

end Timed

/-! ### How many steps there can be -/

def SignalPhase.rank : SignalPhase → Nat
  | .starting => 9
  | .bound => 8
  | .listening _ => 7
  | .writing _ rest => rest.length
  | _ => 0

/-- An attempt is a check, a connection and a sleep. -/
def AwaitPhase.rank (attempts : Nat) : AwaitPhase → Nat
  | .starting => 362
  | .checking => 3 * (120 - attempts) + 1
  | .connecting => 3 * (120 - attempts) + 3
  | .sleeping _ => 3 * (120 - attempts) + 2
  | .reading => 1
  | _ => 0

def rank (state : Handshake) : Nat :=
  SignalPhase.rank state.receiver + AwaitPhase.rank state.attempts state.sender

section Rank

variable {state next : Handshake} {cause : Cause}

theorem rank_signal (sound : Sound state) (step : SignalStep state cause next) :
    rank next < rank state ∧ cause.isOwn = true := by
  have served := sound.served
  unfold rank
  cases step with
  | bound place =>
      rw [place]
      exact ⟨Nat.add_lt_add_right (Nat.lt_succ_self 8) _, rfl⟩
  | listens place =>
      rw [place]
      exact ⟨Nat.add_lt_add_right (Nat.lt_succ_self 7) _, rfl⟩
  | bindFails place =>
      rw [place]
      exact ⟨Nat.add_lt_add_right (Nat.zero_lt_succ 7) _, rfl⟩
  | accepts place waiting =>
      rw [place]
      exact ⟨Nat.add_lt_add_right (Nat.lt_succ_self 6) _, rfl⟩
  | acceptFails place =>
      rw [place]
      exact ⟨Nat.add_lt_add_right (Nat.zero_lt_succ 6) _, rfl⟩
  | timesOut place late =>
      rw [place]
      exact ⟨Nat.add_lt_add_right (Nat.zero_lt_succ 6) _, rfl⟩
  | writes place some within =>
      rename_i client rest count
      have left : SignalPhase.rank (afterWrite client (rest.drop count)) = rest.length - count := by
        rw [← List.length_drop]
        unfold afterWrite
        split
        · rename_i done
          rw [done]
          rfl
        · rfl
      rw [place]
      dsimp only
      rw [left]
      exact ⟨Nat.add_lt_add_right (Nat.sub_lt_self some within) _, rfl⟩
  | writeFails place =>
      rw [place] at served ⊢
      exact ⟨Nat.add_lt_add_right (List.length_pos_iff.mpr served.2) _, rfl⟩

theorem rank_answer (attempts : Nat) (buf : Bytes) : AwaitPhase.rank attempts (answer buf) = 0 := by
  unfold answer
  split <;> rfl

theorem rank_await (timed : Timed state) (step : AwaitStep state cause next) :
    rank next < rank state ∧ cause.isOwn = true := by
  have spaced := timed.spaced
  unfold rank
  cases step with
  | bound place =>
      rw [place] at spaced ⊢
      refine ⟨Nat.add_lt_add_left ?_ _, rfl⟩
      change 3 * (120 - state.attempts) + 1 < 362
      rw [show state.attempts = 0 from spaced]
      decide
  | gaveUp place late =>
      rw [place]
      exact ⟨Nat.add_lt_add_left (Nat.succ_pos _) _, rfl⟩
  | tries place early =>
      rw [place] at spaced ⊢
      have few := Spaced.lt spaced early
      refine ⟨Nat.add_lt_add_left ?_ _, rfl⟩
      change 3 * (120 - (state.attempts + 1)) + 3 < 3 * (120 - state.attempts) + 1
      omega
  | connects place up =>
      rw [place]
      refine ⟨Nat.add_lt_add_left ?_ _, rfl⟩
      change 1 < 3 * (120 - state.attempts) + 3
      omega
  | refused place down =>
      rw [place]
      exact ⟨Nat.add_lt_add_left (Nat.lt_succ_self _) _, rfl⟩
  | connectFails place =>
      rw [place]
      exact ⟨Nat.add_lt_add_left (Nat.lt_succ_self _) _, rfl⟩
  | wakes place passed =>
      rw [place]
      exact ⟨Nat.add_lt_add_left (Nat.lt_succ_self _) _, rfl⟩
  | reads place served some fits within =>
      rw [place, rank_answer]
      exact ⟨Nat.add_lt_add_left Nat.zero_lt_one _, rfl⟩
  | readsEnd place nothing served closed =>
      rw [place, rank_answer]
      exact ⟨Nat.add_lt_add_left Nat.zero_lt_one _, rfl⟩
  | reset place unserved closed =>
      rw [place]
      exact ⟨Nat.add_lt_add_left Nat.zero_lt_one _, rfl⟩
  | readFails place =>
      rw [place]
      exact ⟨Nat.add_lt_add_left Nat.zero_lt_one _, rfl⟩

end Rank

/-! ### Nobody waits for ever -/

section Progress

variable {state : Handshake}

def later (state : Handshake) (elapsed : Duration) : Handshake :=
  { state with clock := state.clock + elapsed }

def CanGoOn (state : Handshake) : Prop :=
  ∃ elapsed next, Step (state.later elapsed) .program next

theorem le_clock_later (instant : Instant) (state : Handshake) :
    instant ≤ (state.later (instant - state.clock).toNat).clock := by
  have reached := Int.self_le_toNat (instant - state.clock)
  change instant ≤ state.clock + ((instant - state.clock).toNat : Int)
  exact Int.le_add_of_sub_left_le reached

theorem signal_canGoOn (sound : Sound state) (running : state.receiver.hasEnded = false) :
    CanGoOn state := by
  have served := sound.served
  cases place : state.receiver with
  | starting => exact ⟨0, _, .signal (.bound place)⟩
  | bound => exact ⟨0, _, .signal (.listens place)⟩
  | listening since =>
      exact ⟨_, _, .signal (.timesOut place (le_clock_later (since + _) state))⟩
  | writing client rest =>
      rw [place] at served
      have more : 1 ≤ rest.length := List.length_pos_iff.mpr served.2
      exact ⟨0, _, .signal (.writes place Nat.zero_lt_one more)⟩
  | receiving =>
      rw [place] at running
      cases running
  | failed reason =>
      rw [place] at running
      cases running

theorem await_canGoOn (ended : state.receiver.hasEnded = true)
    (running : state.sender.hasEnded = false) : CanGoOn state := by
  cases place : state.sender with
  | starting => exact ⟨0, _, .await (.bound place)⟩
  | checking => exact ⟨_, _, .await (.gaveUp place (le_clock_later state.deadline state))⟩
  | connecting =>
      have down : state.receiver.listens = false := by
        cases phase : state.receiver <;> rw [phase] at ended <;> cases ended <;> rfl
      exact ⟨0, _, .await (.refused place down)⟩
  | sleeping wakes => exact ⟨_, _, .await (.wakes place (le_clock_later wakes state))⟩
  | reading =>
      by_cases accepted : state.served = some .sender
      · by_cases nothing : state.pipe = []
        · exact ⟨0, _, .await (.readsEnd place nothing accepted ended)⟩
        · have more : 1 ≤ state.pipe.length := List.length_pos_iff.mpr nothing
          exact ⟨0, _, .await (.reads place accepted Nat.zero_lt_one (by decide) more)⟩
      · exact ⟨0, _, .await (.reset place accepted ended)⟩
  | sending =>
      rw [place] at running
      cases running
  | failed reason =>
      rw [place] at running
      cases running

theorem ended_or_canGoOn (sound : Sound state) :
    (state.receiver.hasEnded = true ∧ state.sender.hasEnded = true) ∨ CanGoOn state := by
  cases receiver : state.receiver.hasEnded with
  | false => exact .inr (signal_canGoOn sound receiver)
  | true =>
      cases sender : state.sender.hasEnded with
      | false => exact .inr (await_canGoOn receiver sender)
      | true => exact .inl ⟨rfl, rfl⟩

end Progress

/-! ### Every run -/

section Run

variable {clock : Instant} {causes : List Cause} {state : Handshake}

theorem Run.sound (run : Run clock causes state) : Sound state := by
  induction run with
  | start => exact sound_start clock
  | step run taken ih => exact ih.step taken

theorem Run.timed (run : Run clock causes state) : Timed state := by
  induction run with
  | start => exact timed_start clock
  | step run taken ih => exact ih.step taken

theorem Run.counted (run : Run clock causes state) :
    causes.countP Cause.isOwn + rank state ≤ 371 := by
  induction run with
  | start =>
      have total : rank (Handshake.start clock) = 9 + 362 := rfl
      rw [List.countP_nil, total]
  | step run taken ih =>
      rw [List.countP_cons]
      cases taken with
      | signal step =>
          obtain ⟨lower, own⟩ := rank_signal run.sound step
          rw [if_pos own]
          omega
      | await step =>
          obtain ⟨lower, own⟩ := rank_await run.timed step
          rw [if_pos own]
          omega
      | other up => exact ih
      | time elapsed => exact ih

theorem AwaitStep.receiver_eq {next : Handshake} {cause : Cause}
    (step : AwaitStep state cause next) : next.receiver = state.receiver := by
  cases step <;> rfl

/-- Only the timeout ends the receiver without a failing call. -/
theorem Run.fault (run : Run clock causes state) {reason : SignalFailure}
    (failed : state.receiver = .failed reason) : reason = .timedOut ∨ .fault ∈ causes := by
  induction run with
  | start => cases failed
  | step run taken ih =>
      cases taken with
      | signal step =>
          cases step with
          | bound place => cases failed
          | listens place => cases failed
          | bindFails place => exact .inr List.mem_cons_self
          | accepts place waiting => cases failed
          | acceptFails place => exact .inr List.mem_cons_self
          | timesOut place late =>
              cases failed
              exact .inl rfl
          | writes place some within =>
              unfold afterWrite at failed
              dsimp only at failed
              split at failed <;> cases failed
          | writeFails place => exact .inr List.mem_cons_self
      | await step =>
          rw [step.receiver_eq] at failed
          exact (ih failed).imp_right (List.mem_cons_of_mem _)
      | other up => exact (ih failed).imp_right (List.mem_cons_of_mem _)
      | time elapsed => exact (ih failed).imp_right (List.mem_cons_of_mem _)

theorem sending_of_ok (returned : state.tcpAwaitReady = some (.ok ())) :
    state.sender = .sending := by
  unfold tcpAwaitReady at returned
  split at returned
  · assumption
  · cases returned
  · cases returned

theorem message_injective : Function.Injective AwaitFailure.message := by
  intro left right same
  cases left <;> cases right <;> first | rfl | simp [AwaitFailure.message] at same

theorem failed_of_error {reason : AwaitFailure}
    (returned : state.tcpAwaitReady = some (.error reason.message)) :
    state.sender = .failed reason := by
  unfold tcpAwaitReady at returned
  split at returned
  · cases returned
  · rename_i other place
    have same : other.message = reason.message := Except.error.inj (Option.some.inj returned)
    rw [place, message_injective same]
  · cases returned

theorem receiving_of_ok {port : UInt16} (returned : state.tcpSignalReady port = some (.ok ())) :
    state.receiver = .receiving := by
  unfold tcpSignalReady at returned
  split at returned
  · assumption
  · cases returned
  · cases returned

/-- The sender goes on only after five bytes of `READY`, so at most the line end
is not written then. -/
theorem Sound.sending (sound : Sound state) (goesOn : state.sender = .sending) :
    state.served = some .sender ∧ (state.receiver = .receiving ∨
      state.receiver = .writing .sender [0x0a] ∨ state.receiver = .failed (.write [0x0a])) := by
  have ready := sound.ready goesOn
  have accepted : state.served = some .sender := by
    by_contra unserved
    rw [sound.nothing unserved] at ready
    cases ready
  have stream := sound.stream (by rw [accepted]; exact Option.some_ne_none _)
  rw [← sound.carried, List.append_assoc] at stream
  have served := sound.served
  rw [accepted] at served
  have long : 5 ≤ state.heard.length := by
    unfold isReady at ready
    rw [Bool.and_eq_true, decide_eq_true_eq] at ready
    exact ready.1
  have lengths := congrArg List.length stream
  have last : ∀ rest : Bytes, rest ≠ [] → unwritten state.receiver = rest → rest = [0x0a] := by
    intro rest more same
    have some : 1 ≤ rest.length := List.length_pos_iff.mpr more
    rw [same] at stream lengths
    rw [List.length_append, List.length_append] at lengths
    have total : READY.length = 6 := rfl
    have whole := congrArg (List.drop 5) stream
    rw [← List.append_assoc, List.drop_append_of_le_length (by rw [List.length_append]; omega),
      List.drop_eq_nil_of_le (by rw [List.length_append]; omega)] at whole
    exact whole
  refine ⟨accepted, ?_⟩
  cases place : state.receiver with
  | receiving => exact .inl rfl
  | writing client rest =>
      rw [place] at served
      obtain ⟨same, more⟩ := served
      cases same
      rw [last rest more (by rw [place]; rfl)]
      exact .inr (.inl rfl)
  | failed reason =>
      rw [place] at served
      cases reason with
      | write rest =>
          rw [last rest served.2 (by rw [place]; rfl)]
          exact .inr (.inr rfl)
      | _ => cases served
  | _ =>
      rw [place] at served
      cases served

/-- A read that is not accepted is a short beginning of `READY`. -/
theorem Sound.unexpected_short (sound : Sound state)
    (stops : state.sender = .failed .unexpected) :
    state.heard <+: READY ∧ state.heard.length < 5 := by
  have unready := sound.unexpected stops
  by_cases accepted : state.served = some .sender
  · have begins : state.heard <+: READY := by
      have stream := sound.stream (by rw [accepted]; exact Option.some_ne_none _)
      rw [← sound.carried, List.append_assoc] at stream
      exact ⟨_, stream⟩
    refine ⟨begins, ?_⟩
    by_contra long
    have enough : 5 ≤ state.heard.length := Nat.le_of_not_lt long
    have same : state.heard.take 5 = READY.take 5 := by
      obtain ⟨rest, whole⟩ := begins
      rw [← whole, List.take_append_of_le_length enough]
    unfold isReady at unready
    rw [same, decide_eq_true enough] at unready
    cases unready
  · rw [sound.nothing accepted]
    exact ⟨List.nil_prefix, by decide⟩

/-- Whatever the order of their steps and whatever fails, the sender starts to
send only when the receiver has its UDP socket open, took this sender's connection
and wrote `READY` on it; a sender that calls the answer unexpected heard less than
`READY`.  A receiver that goes on has written all of it to one client, whoever that
is, and nothing to anybody else.  No more than 120 connections are tried, the two
make at most 371 steps, and until both are done one of them can go on. -/
theorem run_safe (clock : Instant) (causes : List Cause) (state : Handshake)
    (run : Run clock causes state) :
    (state.tcpAwaitReady = some (.ok ()) →
      state.served = some .sender ∧
        (state.receiver = .receiving ∨ state.receiver = .writing .sender [0x0a] ∨
          (state.receiver = .failed (.write [0x0a]) ∧ .fault ∈ causes))) ∧
    (state.tcpAwaitReady = some (.error "TCP handshake: unexpected response from receiver") →
      state.heard <+: READY ∧ state.heard.length < 5) ∧
    (∀ port, state.tcpSignalReady port = some (.ok ()) →
      ∃ client, state.served = some client ∧
        (∀ piece, piece ∈ state.written → piece.1 = client) ∧
        state.written.flatMap Prod.snd = READY ∧ state.heard ++ state.pipe = READY) ∧
    state.attempts ≤ 120 ∧
    causes.countP Cause.isOwn ≤ 371 ∧
    ((state.receiver.hasEnded = true ∧ state.sender.hasEnded = true) ∨ CanGoOn state) := by
  have sound := run.sound
  refine ⟨?_, ?_, ?_, run.timed.few, ?_, ended_or_canGoOn sound⟩
  · intro returned
    obtain ⟨accepted, receiving | writing | failed⟩ := sound.sending (sending_of_ok returned)
    · exact ⟨accepted, .inl receiving⟩
    · exact ⟨accepted, .inr (.inl writing)⟩
    · have fault := (run.fault failed).resolve_left nofun
      exact ⟨accepted, .inr (.inr ⟨failed, fault⟩)⟩
  · intro returned
    exact sound.unexpected_short (@failed_of_error state .unexpected returned)
  · intro port returned
    have place := receiving_of_ok returned
    have served := sound.served
    have stream := sound.stream
    rw [place] at served stream
    have whole := stream served
    rw [show unwritten .receiving = [] from rfl, List.append_nil] at whole
    obtain ⟨client, accepted⟩ := Option.ne_none_iff_exists'.mp served
    refine ⟨client, accepted, ?_, whole, sound.carried.trans whole⟩
    intro piece member
    exact (Option.some.inj (accepted.symm.trans (sound.pieces piece member))).symm
  · have counted := run.counted
    omega

/-- The receiver was there first, and `READY` came in two pieces. -/
def twoPieces : Handshake :=
  { clock := 0
    receiver := .writing .sender [0x0a]
    sender := .sending
    backlog := []
    served := some .sender
    written := [(.sender, [0x52, 0x45, 0x41, 0x44, 0x59])]
    pipe := []
    heard := [0x52, 0x45, 0x41, 0x44, 0x59]
    deadline := 60000000000
    attempts := 1 }

theorem run_twoPieces : Run 0 (List.replicate 8 .program) twoPieces := by
  have listening : Run 0 _ _ :=
    (Run.start.step (.signal (.bound rfl))).step (.signal (.listens rfl))
  have trying : Run 0 _ _ :=
    (listening.step (.await (.bound rfl))).step (.await (.tries rfl (by decide)))
  have accepted : Run 0 _ _ :=
    (trying.step (.await (.connects rfl rfl))).step (.signal (.accepts rfl rfl))
  have written : Run 0 _ _ :=
    accepted.step (.signal (@SignalStep.writes _ .sender READY 5 rfl (by decide) (by decide)))
  exact written.step (.await (@AwaitStep.reads _ 5 rfl rfl (by decide) (by decide) (by decide)))

theorem run_safe_twoPieces :
    twoPieces.served = some .sender ∧
      (twoPieces.receiver = .receiving ∨ twoPieces.receiver = .writing .sender [0x0a] ∨
        (twoPieces.receiver = .failed (.write [0x0a]) ∧
          .fault ∈ List.replicate 8 Cause.program)) :=
  (run_safe 0 _ twoPieces run_twoPieces).1 rfl

end Run

end Handshake

end Udpix.Cli
