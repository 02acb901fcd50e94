import Mathlib.Data.List.Basic

/-
  TCP sockets of the userspace stack, as far as the netstack
  uses them: the documented states and predicates of a
  smoltcp socket, and its two bounded buffers. A send copies
  as many leading bytes as fit, a receive removes the bytes
  it returns. What polling does to a socket is not fixed
  here.

  Main declarations:
    * `TcpState` and `Socket`
    * `Socket.recvSlice` and `Socket.sendSlice`
-/

------------------------------------------------------------
-- Sockets
------------------------------------------------------------

namespace SeestarProxy

namespace Wireguard

/- A run of bytes. -/
abbrev Bytes := List UInt8

/- The states of a TCP socket. -/
inductive TcpState where
| closed
| listen
| synSent
| synReceived
| established
| finWait1
| finWait2
| closeWait
| closing
| lastAck
| timeWait
deriving DecidableEq, Repr

/- The size of each buffer of a listening socket. -/
def socketBuffer : Nat := 65536

/-
  A socket: its state, the bytes that were received and not
  read yet, and the bytes to send that are not acknowledged.
-/
structure Socket where
  state : TcpState
  rx : Bytes
  tx : Bytes
  rxBounded : rx.length ≤ socketBuffer
  txBounded : tx.length ≤ socketBuffer

namespace Socket

/- The socket that `listen` leaves behind. -/
def listening : Socket where
  state := .listen
  rx := []
  tx := []
  rxBounded := Nat.zero_le _
  txBounded := Nat.zero_le _

/- The socket has or may still get a connection. -/
def isActive (socket : Socket) : Bool :=
  match socket.state with
  | .closed | .timeWait | .listen => false
  | _ => true

/- The connection may still carry data to the peer. -/
def maySend (socket : Socket) : Bool :=
  match socket.state with
  | .established | .closeWait => true
  | _ => false

/- There are received bytes to read. -/
def canRecv (socket : Socket) : Bool :=
  !socket.rx.isEmpty

/- Free room of the send buffer. -/
def room (socket : Socket) : Nat :=
  socketBuffer - socket.tx.length

/- The send buffer has any room. -/
def canSend (socket : Socket) : Bool :=
  socket.maySend && decide (0 < socket.room)

/-
  Read at most `n` bytes: they are returned and removed from
  the receive buffer.
-/
def recvSlice (socket : Socket) (n : Nat) : Bytes × Socket :=
  (socket.rx.take n,
    { socket with
      rx := socket.rx.drop n
      rxBounded := by
        rw [List.length_drop]
        exact Nat.le_trans (Nat.sub_le _ _)
          socket.rxBounded })

/-
  Append the leading bytes that fit to the send buffer; they
  are returned with the socket.
-/
def sendSlice
    (socket : Socket)
    (data : Bytes) : Bytes × Socket :=
  (data.take socket.room,
    { socket with
      tx := socket.tx ++ data.take socket.room
      txBounded := by
        have hBound := socket.txBounded
        rw [List.length_append, List.length_take]
        unfold room
        omega })

/- No more than the chunk is taken. -/
theorem length_sendSlice_le
    (socket : Socket)
    (data : Bytes) :
    (socket.sendSlice data).1.length ≤ data.length := by
  unfold sendSlice
  rw [List.length_take]
  exact Nat.min_le_right _ _

/- A chunk is taken as a whole exactly when it fits. -/
theorem sendSlice_eq_iff
    {socket : Socket}
    {data : Bytes} :
    (socket.sendSlice data).1 = data ↔
      data.length ≤ socket.room := by
  unfold sendSlice
  constructor
  · intro hSame
    have hLength := congrArg List.length hSame
    rw [List.length_take] at hLength
    omega
  · exact List.take_of_length_le

/- A read of a socket with data is not empty. -/
theorem recvSlice_ne_nil
    {socket : Socket}
    {n : Nat}
    (hData : socket.canRecv = true)
    (hPositive : 0 < n) :
    (socket.recvSlice n).1 ≠ [] := by
  have hRx : socket.rx ≠ [] := by
    intro hNil
    simp [canRecv, hNil] at hData
  intro hNone
  rcases List.take_eq_nil_iff.mp hNone with hZero | hNil
  · omega
  · exact hRx hNil

end Socket

end Wireguard

end SeestarProxy
