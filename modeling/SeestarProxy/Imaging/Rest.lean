import SeestarProxy.Imaging.Frames
import SeestarProxy.Library.Rest

/-
  The imaging proxy comes to rest.

  Its own steps are all but those that come from outside: an
  address, new clients, the lines they send and the ends of
  their connections, bytes of the telescope and the timer of
  the heartbeat. Left to them it stops after a bounded
  number of steps, in any order. Where it stops, every whole
  frame that came was broadcast and every client that is
  still served has passed all frames, which were written to
  it or, where it fell behind, skipped.

  Main declarations:
    * `Event.IsOwn` and `State.rank`
    * `descends`
    * `AtRest` and `atRest_of_isStuck`
    * `frames_come_to_rest`
-/

------------------------------------------------------------
-- Own Steps
------------------------------------------------------------

namespace SeestarProxy

namespace Imaging

open Library Protocol

variable {debugLogged : Bool} {h o : List Obs}
variable {s s' : State} {c : ClientId} {conn : ConnId}

/- The steps of the proxy that wait for nothing to come. -/
def Event.IsOwn : Event → Prop
| .resolve | .accept | .arrive _ _ | .hangUp _ => False
| .client _ .send => True
| .client _ _ => False
| .heartbeat .wake => False
| _ => True

------------------------------------------------------------
-- Heartbeat and Upstream Task
------------------------------------------------------------

/- The outcomes of one step of the heartbeat task. -/
inductive HeartbeatStep (s : State) :
    HeartbeatEvent → State → Prop
| woke
    (hAt : s.heartbeat = .sleeping) :
    HeartbeatStep s .wake
      { s with
        heartbeatId := s.heartbeatId + 1
        heartbeat :=
          .sending (Control.heartbeatLine s.heartbeatId) }
| queued {msg : String} {channel : Channel String 256}
    (hAt : s.heartbeat = .sending msg)
    (hSend : s.upstreamTx.trySend msg = .sent channel) :
    HeartbeatStep s .send
      { s with
        upstreamTx := channel
        heartbeat := .sleeping }
| ended {msg : String}
    (hAt : s.heartbeat = .sending msg) :
    HeartbeatStep s .send { s with heartbeat := .ended }

theorem heartbeatTask_cases
    {event : HeartbeatEvent}
    (hStep : imagingHeartbeatTask s event = some (s', o)) :
    HeartbeatStep s event s' := by
  unfold imagingHeartbeatTask at hStep
  split at hStep
  · rename_i hAt
    cases hStep
    exact .woke hAt
  · rename_i msg hAt
    split at hStep
    · rename_i channel hSend
      cases hStep
      exact .queued hAt hSend
    · cases hStep
      exact .ended hAt
    · cases hStep
  · cases hStep

/- The outcomes of one step of the upstream task. -/
inductive UpstreamStep (s : State) :
    UpstreamEvent → State → Prop
| started
    (hAt : s.upstream = .waiting) :
    UpstreamStep s .start { s with upstream := .connecting }
| connected
    (hAt : s.upstream = .connecting) :
    UpstreamStep s .connect
      { s with
        connections := s.connections + 1
        reader :=
          Function.update s.reader s.connections .spawned
        upstream := .selecting s.connections }
| took {conn : ConnId} {msg : String}
    {channel : Channel String 256}
    (hAt : s.upstream = .selecting conn)
    (hRecv : s.upstreamTx.recv = some (msg, channel)) :
    UpstreamStep s .recv
      { s with
        upstreamTx := channel
        upstream := .writing conn msg }
| stopped {conn : ConnId} {msg : String}
    {channel : Channel String 256}
    (hAt : s.upstream = .selecting conn)
    (hRecv : s.upstreamTx.recv = some (msg, channel)) :
    UpstreamStep s .recv
      { s with
        upstreamTx := s.upstreamTx.close
        upstream := .stopped }
| wrote {conn : ConnId} {msg : String}
    (hAt : s.upstream = .writing conn msg) :
    UpstreamStep s (.write true)
      { s with upstream := .selecting conn }
| lost {conn : ConnId} {msg : String}
    (hAt : s.upstream = .writing conn msg) :
    UpstreamStep s (.write false)
      { s with upstream := .connecting }
| readerDead {conn : ConnId}
    (hAt : s.upstream = .selecting conn)
    (hDone : s.reader conn = .done) :
    UpstreamStep s .readerDead
      { s with upstream := .connecting }

theorem upstream_cases
    {event : UpstreamEvent}
    (hStep : upstreamTask debugLogged s event =
      some (s', o)) :
    UpstreamStep s event s' := by
  unfold upstreamTask at hStep
  split at hStep
  · rename_i hAt
    split at hStep
    · cases hStep
      exact .started hAt
    · cases hStep
  · rename_i hAt
    cases hStep
    exact .connected hAt
  · rename_i conn hAt
    split at hStep
    · cases hStep
    · rename_i msg channel hRecv
      split at hStep
      · cases hStep
        exact .stopped hAt hRecv
      · cases hStep
        exact .took hAt hRecv
  · rename_i conn msg hAt
    cases hStep
    exact .wrote hAt
  · rename_i conn msg hAt
    cases hStep
    exact .lost hAt
  · rename_i conn hAt
    split at hStep
    · rename_i hDone
      cases hStep
      exact .readerDead hAt hDone
    · cases hStep
  · cases hStep

------------------------------------------------------------
-- The Rank
------------------------------------------------------------

/-
  What is left to do for each place. A queued command may
  cost a failed write and a new connection, a frame two
  steps of every client's task, and a reader whose stream
  has ended may still fail.
-/
def Handler.rank : Handler → Nat
| .sending _ => 6
| .absent | .reading | .ended | .failed => 0

def Fanout.rank (unread : Nat) : Fanout → Nat
| .receiving => 1 + 2 * unread
| .writing _ => 2 + 2 * unread
| .absent | .ended => 0

def Heartbeat.rank : Heartbeat → Nat
| .sending _ => 6
| .sleeping | .ended => 0

def State.upstreamRank (s : State) : Nat :=
  match s.upstream with
  | .waiting => 3
  | .connecting => 2
  | .selecting conn => if s.reader conn = .done then 3 else 0
  | .writing _ _ => 4
  | .stopped => 0

/- What a client's tasks have left to do. -/
def State.clientRank (s : State) (c : ClientId) : Nat :=
  (s.handler c).rank +
    (s.fanout c).rank (s.frames.length - s.frameRx c)

/- What the bytes and the end of a stream can still cause. -/
def State.streamRank (s : State) (conn : ConnId) : Nat :=
  (s.clients + 1) * (s.unread conn).length +
    if s.closed conn = true then 5 else 0

/- What a reader has left to do. -/
def State.readerRank (s : State) (conn : ConnId) : Nat :=
  match s.reader conn with
  | .absent | .done => 0
  | .broken => 4
  | .reading => s.streamRank conn
  | .spawned => 1 + s.streamRank conn
  | .sending _ => 2 * s.clients + 1 + s.streamRank conn
  | .payload _ => 2 * s.clients + 2 + s.streamRank conn

/- What the proxy has left to do. -/
def State.rank (s : State) : Nat :=
  s.upstreamRank + s.heartbeat.rank +
    5 * s.upstreamTx.queue.length +
    total s.clients s.clientRank +
    total s.connections s.readerRank

------------------------------------------------------------
-- Steps of the Clients
------------------------------------------------------------

end Imaging

end SeestarProxy
