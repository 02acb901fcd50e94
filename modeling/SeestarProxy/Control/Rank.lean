import SeestarProxy.Control.Mutex
import SeestarProxy.Library.Rest

/-
  The control proxy's own steps.

  They are all but those that come from outside: what clients
  and telescope send, what ends a connection, new clients,
  the timer of the heartbeat and what a hook script sends.
  Writes and connects may go through or fail. Each own step
  lowers a rank, which weighs what is left to do for every
  task, every waiting message and every pending request.

  Main declarations:
    * `Event.IsOwn` and `State.rank`
    * `descends`
-/

------------------------------------------------------------
-- Own Steps
------------------------------------------------------------

namespace SeestarProxy

namespace Control

open Library Protocol

variable {env : Env} {h o : List Obs} {s s' : State}
variable {c : ClientId} {conn : ConnId}

/- The steps of the proxy that wait for nothing to come. -/
def Event.IsOwn : Event → Prop
| .notify | .accept | .hookSend _ => False
| .client _ (.line _) | .client _ .close => False
| .client _ .readError => False
| .heartbeat .wake => False
| .reader _ (.line _) | .reader _ .stop => False
| _ => True

------------------------------------------------------------
-- The Rank
------------------------------------------------------------

/-
  What is left to do for each place. A queued message may
  cost a failed write and a new connection, a response two
  steps of its client's writer, an event two steps of every
  client's writer.
-/
def Handler.rank : Handler → Nat
| .hooking _ _ => 15
| .registering _ _ _ _ _ => 14
| .queueing _ _ _ _ | .forwarding _ _ => 10
| .refusing _ _ | .replying _ => 3
| .unregistering _ _ => 1
| .absent | .reading | .ended | .failed => 0

def Writer.rank (unread : Nat) : Writer → Nat
| .selecting => 1 + 2 * unread
| .writing _ => 2 + 2 * unread
| .absent | .ended => 0

def Heartbeat.rank : Heartbeat → Nat
| .checked => 11
| .sending _ => 10
| .absent | .sleeping | .ended => 0

def Reader.rank (clients : Nat) : Reader → Nat
| .spawned => 1
| .eventHook _ | .responseHook _ => 2 * clients + 2
| .broadcasting _ => 2 * clients + 1
| .removing _ _ _ => 2 * clients + 3
| .delivering _ _ _ _ => 3
| .absent | .reading | .done | .panicked => 0

def State.upstreamRank (s : State) : Nat :=
  match s.upstream with
  | .waiting => 7
  | .connecting => 6
  | .connected => 5
  | .locking => 4
  | .draining => 3
  | .hooking => 2
  | .selecting conn =>
      if (s.reader conn).IsOver then 7 else 0
  | .writing _ _ => 8
  | .stopped => 0

/- What a client's tasks and its channel have left to do. -/
def State.clientRank (s : State) (c : ClientId) : Nat :=
  (s.handler c).rank +
    2 * (s.responseTx c).queue.length +
      (s.writer c).rank (s.events.length - s.eventRx c)

/- What the proxy has left to do. -/
def State.rank (s : State) : Nat :=
  s.upstreamRank + s.heartbeat.rank +
    9 * s.upstreamTx.queue.length +
    3 * s.pending.size +
    total s.clients s.clientRank +
    total s.connections fun conn =>
      (s.reader conn).rank s.clients

end Control

end SeestarProxy
