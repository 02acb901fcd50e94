import SeestarProxy.Control.Tasks
import SeestarProxy.Library.Broadcast

/-
  The state of the imaging proxy on port 4800.

  One reader for each telescope connection cuts the bytes it
  reads into frames and broadcasts them; a fan-out task for
  each client writes them out, while the client's handler
  queues the command lines it reads. The upstream task
  connects and writes the queued commands.

  The bytes that the telescope sends on a connection, where
  a client subscribed and what was written to it are only
  recorded. A reader sees the bytes it has not consumed and
  whether more can come.

  Main declarations:
    * `Reader`, `Fanout`, `Handler`, `Upstream`, `Heartbeat`
    * `State`, `State.init` and `Obs`
-/

------------------------------------------------------------
-- Program Counters
------------------------------------------------------------

namespace SeestarProxy

namespace Imaging

open Library Protocol

/- A run of bytes. -/
abbrev Bytes := List UInt8

/- The bytes of a frame header. -/
abbrev HeaderBuf := Vector UInt8 headerSize

/- Clients, in the order in which they were accepted. -/
abbrev ClientId := Nat

/- Telescope connections, in the order they were made. -/
abbrev ConnId := Nat

/- The largest payload that is not called unreasonable. -/
def maxFrameSize : Nat := 50000000

/-
  Where the reader of a connection is. `broken` is past the
  read loop, before the flag is lowered.
-/
inductive Reader where
| absent
| spawned
| reading
| payload (header : HeaderBuf)
| sending (frame : Bytes)
| broken
| done
deriving DecidableEq, Repr

/- Where the fan-out task of a client is. -/
inductive Fanout where
| absent
| receiving
| writing (frame : Bytes)
| ended
deriving DecidableEq, Repr

/-
  Where the handler of a client is. `failed` is a return by
  a read error, which leaves the fan-out task running;
  `ended` is the normal return, which aborts it.
-/
inductive Handler where
| absent
| reading
| sending (trimmed : String)
| ended
| failed
deriving DecidableEq, Repr

/-
  Where the upstream task is. `waiting` stands for the wait
  for an address, `connecting` for the connect loop.
-/
inductive Upstream where
| waiting
| connecting
| selecting (conn : ConnId)
| writing (conn : ConnId) (msg : String)
| stopped
deriving DecidableEq, Repr

/- Where the heartbeat task is. -/
inductive Heartbeat where
| sleeping
| sending (msg : String)
| ended
deriving DecidableEq, Repr

------------------------------------------------------------
-- The State
------------------------------------------------------------

/- The state of the imaging proxy. -/
structure State where
  resolved : Bool
  upstreamTx : Channel String 256
  heartbeatId : UInt64
  heartbeat : Heartbeat
  upstream : Upstream
  connections : Nat
  stream : ConnId → Bytes
  closed : ConnId → Bool
  consumed : ConnId → Nat
  reader : ConnId → Reader
  frames : List (ConnId × Bytes)
  clients : Nat
  handler : ClientId → Handler
  fanout : ClientId → Fanout
  frameRx : ClientId → Nat
  subscribed : ClientId → Nat
  received : ClientId → Bytes
  upstreamImagingUp : Bool

/- The state in which `run` has bound its listener. -/
def State.init : State where
  resolved := false
  upstreamTx := Channel.empty String 256
  heartbeatId := 1
  heartbeat := .sleeping
  upstream := .waiting
  connections := 0
  stream := fun _ => []
  closed := fun _ => false
  consumed := fun _ => 0
  reader := fun _ => .absent
  frames := []
  clients := 0
  handler := fun _ => .absent
  fanout := fun _ => .absent
  frameRx := fun _ => 0
  subscribed := fun _ => 0
  received := fun _ => []
  upstreamImagingUp := false

/- The bytes that the reader can still get. -/
def State.unread (s : State) (conn : ConnId) : Bytes :=
  (s.stream conn).drop (s.consumed conn)

/- What a step shows. -/
inductive Obs where
| queued (client : ClientId) (command : String)
| command (conn : ConnId) (msg : String)
| broadcast (conn : ConnId) (frame : Bytes)
deriving DecidableEq, Repr

end Imaging

end SeestarProxy
