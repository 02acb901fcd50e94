import SeestarProxy.Wireguard.Flows

/-
  Bytes on their way from the local proxy to the tunnel.

  The chunks that a bridge queues are handed to the send
  buffer of the socket in their order, but the buffer takes
  only what fits and the rest of a chunk is gone. As long as
  every chunk fits, the bytes in the buffer are a prefix of
  what was queued.

  Main declarations:
    * `OutboundStep` and `NetStep.outbound`
    * `ChunkFits` and `outbound_kept`
-/

------------------------------------------------------------
-- What a Step Does to the Outbound Channel
------------------------------------------------------------

namespace SeestarProxy

namespace Wireguard

namespace Netstack

open Library

variable {h o : List Obs} {s s' : State}

/- Nothing moves from the bridge of the connection. -/
structure OutboundIdle (c : ConnId) (o : List Obs) :
    Prop where
  queued : bytes .queued c o = []
  handed : bytes .handed c o = []
  buffered : bytes .buffered c o = []

/- What a step does for the outbound bytes of a connection. -/
inductive OutboundStep
    (s s' : State)
    (o : List Obs)
    (c : ConnId) : Event → Prop
| idle {e : Event}
    (hSame : (s'.connection c).toTunnel =
      (s.connection c).toTunnel)
    (hIdle : OutboundIdle c o) :
    OutboundStep s s' o c e
| fresh {e : Event}
    (hFresh : c = s.connections)
    (hEmpty : (s'.connection c).toTunnel =
      Channel.empty Bytes 64)
    (hIdle : OutboundIdle c o) :
    OutboundStep s s' o c e
| closed {e : Event}
    (hClosed : (s'.connection c).toTunnel =
      (s.connection c).toTunnel.close)
    (hIdle : OutboundIdle c o) :
    OutboundStep s s' o c e
| queued {e : Event} {data : Bytes}
    (hSend : (s.connection c).toTunnel.trySend data =
      .sent (s'.connection c).toTunnel)
    (hQueued : bytes .queued c o = data)
    (hHanded : bytes .handed c o = [])
    (hBuffered : bytes .buffered c o = []) :
    OutboundStep s s' o c e
| handed {handle : Handle} {rest toRemove : List Handle}
    {data : Bytes}
    (hAt : s.loop = .sending handle rest toRemove)
    (hActive : s.active handle = some c)
    (hRoom : (s.socket handle).canSend = true)
    (hRecv : (s.connection c).toTunnel.recv =
      some (data, (s'.connection c).toTunnel))
    (hQueued : bytes .queued c o = [])
    (hHanded : bytes .handed c o = data)
    (hBuffered : bytes .buffered c o =
      ((s.socket handle).sendSlice data).1) :
    OutboundStep s s' o c (.stack .send)

/- Only the updated connection is another one. -/
private theorem toTunnel_of_update
    {c c' : ConnId}
    {connection : Connection}
    (hSame : connection.toTunnel =
      (s.connection c').toTunnel) :
    (Function.update s.connection c' connection c).toTunnel =
      (s.connection c).toTunnel := by
  by_cases hConn : c = c'
  · subst hConn
    rw [Function.update_self]
    exact hSame
  · rw [Function.update_of_ne hConn]

theorem StackStep.outbound
    {event : StackEvent}
    (hStep : StackStep s event s' o)
    (c : ConnId) :
    OutboundStep s s' o c (.stack event) := by
  cases hStep with
  | accepted hAt hIs hNew hSend =>
      by_cases hConn : c = s.connections
      · subst hConn
        exact .fresh rfl (by simp [Connection.accepted])
          ⟨rfl, rfl, rfl⟩
      · exact .idle (by simp [Function.update_of_ne hConn])
          ⟨rfl, rfl, rfl⟩
  | refused hAt hIs hNew hRefused =>
      by_cases hConn : c = s.connections
      · subst hConn
        exact .fresh rfl
          (by simp [Connection.accepted,
            Connection.closeFromTunnel])
          ⟨rfl, rfl, rfl⟩
      · exact .idle (by simp [Function.update_of_ne hConn])
          ⟨rfl, rfl, rfl⟩
  | put hAt hIs hData hSend =>
      exact .idle (toTunnel_of_update rfl)
        ⟨by simp [Obs.moved?], by simp [Obs.moved?],
          by simp [Obs.moved?]⟩
  | lost hAt hIs hData hRefused =>
      exact .idle rfl
        ⟨by simp [Obs.moved?], by simp [Obs.moved?],
          by simp [Obs.moved?]⟩
  | @handed handle _ _ c' data channel hAt hIs hRoom hRecv =>
      by_cases hConn : c = c'
      · subst hConn
        exact .handed hAt hIs hRoom (by simpa using hRecv)
          (by simp [Obs.moved?]) (by simp [Obs.moved?])
          (by simp [Obs.moved?])
      · have hOther : ¬ c' = c := fun hSame => hConn hSame.symm
        exact .idle (by simp [Function.update_of_ne hConn])
          ⟨by simp [Obs.moved?],
            by simp [Obs.moved?, hOther],
            by simp [Obs.moved?, hOther]⟩
  | @removed handle _ c' hAt hIs =>
      by_cases hConn : c = c'
      · subst hConn
        exact .closed (by simp) ⟨rfl, rfl, rfl⟩
      · exact .idle (by simp [Function.update_of_ne hConn])
          ⟨rfl, rfl, rfl⟩
  | _ => exact .idle rfl ⟨rfl, rfl, rfl⟩

theorem BridgeStep.outbound
    {c' : ConnId}
    {event : BridgeEvent}
    (hStep : BridgeStep s c' event s' o)
    (c : ConnId) :
    OutboundStep s s' o c (.bridge c' event) := by
  cases hStep with
  | @queued toLocal data channel hAt hSend =>
      by_cases hConn : c = c'
      · subst hConn
        exact .queued
          (by simpa [State.setConnection] using hSend)
          (by simp [Obs.moved?]) (by simp [Obs.moved?])
          (by simp [Obs.moved?])
      · have hOther : ¬ c' = c := fun hSame => hConn hSame.symm
        exact .idle
          (by simp [State.setConnection,
            Function.update_of_ne hConn])
          ⟨by simp [Obs.moved?, hOther],
            by simp [Obs.moved?], by simp [Obs.moved?]⟩
  | delivered hAt =>
      exact .idle (toTunnel_of_update rfl)
        ⟨by simp [Obs.moved?], by simp [Obs.moved?],
          by simp [Obs.moved?]⟩
  | _ =>
      exact .idle (toTunnel_of_update rfl) ⟨rfl, rfl, rfl⟩

theorem NetStep.outbound
    {e : Event}
    (hStep : NetStep s e s' o)
    (c : ConnId) :
    OutboundStep s s' o c e := by
  cases hStep with
  | stack hTask => exact hTask.outbound c
  | bridge hTask => exact hTask.outbound c
  | spawned hRecv =>
      exact .idle (toTunnel_of_update rfl) ⟨rfl, rfl, rfl⟩
  | _ => exact .idle rfl ⟨rfl, rfl, rfl⟩

------------------------------------------------------------
-- Chunks Stay in Order
------------------------------------------------------------

/-
  What was handed over and what waits in the channel are the
  first chunks that were queued, and all of them while the
  channel is open.
-/
private structure InOrder
    (h : List Obs)
    (channel : Channel Bytes 64)
    (c : ConnId) : Prop where
  all : channel.isOpen = true →
    bytes .handed c h ++ channel.queue.flatten =
      bytes .queued c h
  first : bytes .handed c h ++ channel.queue.flatten <+:
    bytes .queued c h

private theorem inOrder_step
    {es : List Event}
    {e : Event}
    {c : ConnId}
    (hRun : netstack.Run es h s)
    (hStep : OutboundStep s s' o c e)
    (hOrder : InOrder h (s.connection c).toTunnel c) :
    InOrder (h ++ o) (s'.connection c).toTunnel c := by
  have hQueuedSame (hNone : bytes .queued c o = []) :
      bytes .queued c (h ++ o) = bytes .queued c h := by
    rw [bytes_append, hNone, List.append_nil]
  have hHandedSame (hNone : bytes .handed c o = []) :
      bytes .handed c (h ++ o) = bytes .handed c h := by
    rw [bytes_append, hNone, List.append_nil]
  cases hStep with
  | idle hSame hIdle =>
      rw [hSame]
      refine ⟨?_, ?_⟩
      · rw [hQueuedSame hIdle.queued, hHandedSame hIdle.handed]
        exact hOrder.all
      · rw [hQueuedSame hIdle.queued, hHandedSame hIdle.handed]
        exact hOrder.first
  | fresh hFresh hEmpty hIdle =>
      have hNone (flow : Flow) : bytes flow c h = [] :=
        bytes_of_fresh hRun (Nat.le_of_eq hFresh.symm)
      rw [hEmpty]
      refine ⟨?_, ?_⟩
      · intro _
        rw [hQueuedSame hIdle.queued,
          hHandedSame hIdle.handed, hNone, hNone]
        rfl
      · rw [hQueuedSame hIdle.queued,
          hHandedSame hIdle.handed, hNone, hNone]
        exact List.prefix_refl _
  | closed hClosed hIdle =>
      rw [hClosed]
      refine ⟨nofun, ?_⟩
      rw [hQueuedSame hIdle.queued, hHandedSame hIdle.handed,
        Channel.close_queue, List.flatten_nil,
        List.append_nil]
      exact (List.prefix_append _ _).trans hOrder.first
  | @queued e data hSend hQueued hHanded hBuffered =>
      rcases Channel.trySend_sent_iff.mp hSend with
        ⟨hAccepts, hQueue, -⟩
      have hAll :
          bytes .handed c (h ++ o) ++
              (s'.connection c).toTunnel.queue.flatten =
            bytes .queued c (h ++ o) := by
        rw [hHandedSame hHanded, bytes_append, hQueued,
          hQueue, List.flatten_append, ← List.append_assoc,
          hOrder.all hAccepts.1]
        simp
      exact ⟨fun _ => hAll, hAll ▸ List.prefix_refl _⟩
  | @handed handle rest toRemove data hAt hActive hRoom hRecv
      hQueued hHanded hBuffered =>
      rcases Channel.recv_some_iff.mp hRecv with
        ⟨hQueue, hOpen⟩
      -- The chunk leaves the channel for the socket.
      have hMoved :
          bytes .handed c (h ++ o) ++
              (s'.connection c).toTunnel.queue.flatten =
            bytes .handed c h ++
              (s.connection c).toTunnel.queue.flatten := by
        rw [bytes_append, hHanded, hQueue, List.flatten_cons,
          List.append_assoc]
      refine ⟨?_, ?_⟩
      · rw [hOpen, hMoved, hQueuedSame hQueued]
        exact hOrder.all
      · rw [hMoved, hQueuedSame hQueued]
        exact hOrder.first

private theorem inOrder_of_run
    {es : List Event}
    (hRun : netstack.Run es h s)
    (c : ConnId) :
    InOrder h (s.connection c).toTunnel c := by
  refine Machine.run_induction
    (motive := fun _ h s =>
      InOrder h (s.connection c).toTunnel c)
    ⟨fun _ => rfl, List.prefix_refl _⟩ ?_ hRun
  intro es h s e s' o hBefore hOrder hNext
  exact inOrder_step hBefore ((net_cases hNext).outbound c)
    hOrder

------------------------------------------------------------
-- Nothing Is Lost
------------------------------------------------------------

/- A chunk that is handed over fits the send buffer. -/
def ChunkFits (s : State) : Event → Prop
| .stack .send =>
    match s.loop with
    | .sending handle _ _ =>
        match s.active handle with
        | some c =>
            ∀ data ∈ (s.connection c).toTunnel.queue.head?,
              (s.socket handle).canSend = true →
                data.length ≤ (s.socket handle).room
        | none => True
    | _ => True
| _ => True

instance (s : State) (e : Event) :
    Decidable (ChunkFits s e) := by
  unfold ChunkFits
  split
  · split
    · split <;> infer_instance
    · infer_instance
  · infer_instance

/- A step buffers all it hands over when the chunk fits. -/
theorem NetStep.buffers
    {e : Event}
    (hStep : NetStep s e s' o) :
    Passes .handed .buffered o (ChunkFits s e) := by
  cases hStep with
  | stack hTask =>
      cases hTask with
      | @handed handle _ _ c data channel hAt hActive hRoom
          hRecv =>
          have hFirst :
              (s.connection c).toTunnel.queue.head? =
                some data := by
            rw [(Channel.recv_some_iff.mp hRecv).1]
            rfl
          have hFits :
              ChunkFits s (.stack .send) ↔
                data.length ≤ (s.socket handle).room := by
            simp [ChunkFits, hAt, hActive, hFirst, hRoom]
          rw [hFits, ← Socket.sendSlice_eq_iff]
          refine ⟨?_, ?_⟩
          · intro c'
            by_cases hConn : c = c'
            · have hLe := Socket.length_sendSlice_le
                (s.socket handle) data
              simpa [Obs.moved?, hConn] using hLe
            · simp [Obs.moved?, hConn]
          · constructor
            · intro hAll
              have hSame := hAll c
              simpa [Obs.moved?] using hSame
            · intro hSame c'
              rw [hSame]
              by_cases hConn : c = c'
              · simp [Obs.moved?, hConn]
              · simp [Obs.moved?, hConn]
      | @notHanded handle _ _ c hAt hActive hNot =>
          refine Passes.ofNone (fun _ => rfl) (fun _ => rfl) ?_
          simp only [ChunkFits, hAt, hActive]
          intro data hFirst hRoom
          rcases hNot with hFull | hNone
          · rw [hRoom] at hFull
            cases hFull
          · rw [Channel.recv_none_iff.mp hNone] at hFirst
            cases hFirst
      | put | lost =>
          exact Passes.ofNone
            (fun _ => by simp [Obs.moved?])
            (fun _ => by simp [Obs.moved?]) trivial
      | _ =>
          exact Passes.ofNone (fun _ => rfl) (fun _ => rfl)
            trivial
  | bridge hTask =>
      cases hTask with
      | delivered | queued =>
          exact Passes.ofNone
            (fun _ => by simp [Obs.moved?])
            (fun _ => by simp [Obs.moved?]) trivial
      | _ =>
          exact Passes.ofNone (fun _ => rfl) (fun _ => rfl)
            trivial
  | _ =>
      exact Passes.ofNone (fun _ => rfl) (fun _ => rfl)
        trivial

/-
  The bytes in the send buffer are the first ones that the
  bridge queued.
-/
def OutboundKept (h : List Obs) : Prop :=
  ∀ c, bytes .buffered c h <+: bytes .queued c h

/-
  What a run says about outbound bytes: no byte of a chunk is
  lost exactly when each chunk that was handed over fitted,
  and then the buffered bytes are the first queued ones.
-/
structure OutboundOutcome
    (es : List Event)
    (h : List Obs) : Prop where
  lossless_iff : Lossless .handed .buffered h ↔
    netstack.Meets ChunkFits netstack.init es
  kept : netstack.Meets ChunkFits netstack.init es →
    OutboundKept h

theorem outbound_kept
    {es : List Event}
    (hRun : netstack.Run es h s) :
    OutboundOutcome es h := by
  have hIff : Lossless .handed .buffered h ↔
      netstack.Meets ChunkFits netstack.init es :=
    lossless_iff_meets (fun _ _ _ _ hStep => hStep.buffers)
      hRun
  refine ⟨hIff, ?_⟩
  intro hMeets c
  rw [hIff.mpr hMeets c]
  have hOrder := (inOrder_of_run hRun c).first
  exact (List.prefix_append _ _).trans hOrder

------------------------------------------------------------
-- A Sample Connection
------------------------------------------------------------

/- An established connection with an empty receive buffer. -/
def established
    (tx : Bytes)
    (hBound : tx.length ≤ socketBuffer) : Socket where
  state := .established
  rx := []
  tx := tx
  rxBounded := Nat.zero_le _
  txBounded := hBound

/- A poll that leaves the control socket as given. -/
def pollControl (socket : Socket) : Event :=
  .stack (.poll ⟨[], []⟩
    (Function.update (fun _ => Socket.listening) .control
      socket) true)

/- One iteration of the loop that visits the control socket. -/
def iteration (socket : Socket) : List Event :=
  [.stack .tick, pollControl socket, .stack .accept,
    .stack .accept, .stack .accept,
    .stack (.visit .control), .stack .receive, .stack .send,
    .stack .remove, .stack .drain]

/- A tunnel client connects and its bridge is made. -/
def openBridge : List Event :=
  iteration (established [] (Nat.zero_le _)) ++
    [.spawn, .bridge 0 (.connect true)]

/- The bridge queues a chunk and the loop moves it. -/
def moveChunk (data : Bytes) (socket : Socket) : List Event :=
  [.bridge 0 (.read data), .bridge 0 .send] ++
    iteration socket

theorem outbound_kept_moveChunk :
    Obs.moved .buffered 0 [7] ∈
      (netstack.outcome (openBridge ++ moveChunk [7]
        (established [] (Nat.zero_le _)))).2 ∧
    OutboundOutcome
      (openBridge ++ moveChunk [7]
        (established [] (Nat.zero_le _)))
      (netstack.outcome (openBridge ++ moveChunk [7]
        (established [] (Nat.zero_le _)))).2 :=
  ⟨by decide +kernel,
    outbound_kept (Machine.run_outcome (by decide +kernel))⟩

/- Connection 0 is bridged and nothing waits for it. -/
structure Piped (s : State) : Prop where
  loop : s.loop = .selecting
  control : s.active .control = some 0
  imaging : s.active .imaging = none
  queue : (s.connection 0).toTunnel.queue = []
  isOpen : (s.connection 0).toTunnel.isOpen = true
  bridge : (s.connection 0).bridge =
    .piping .receiving .reading

/- The state after a chunk has gone through the loop. -/
private def afterMove
    (s : State)
    (data : Bytes)
    (socket : Socket)
    (channel : Channel Bytes 64) : State :=
  { s with
    device := ⟨[], []⟩
    socket := Function.update (fun _ => Socket.listening)
      .control (socket.sendSlice data).2
    connection := Function.update s.connection 0
      { s.connection 0 with
        toTunnel := channel
        bridge := .piping .receiving .reading } }

/- The observations of a chunk of which a part is taken. -/
private def moved (data taken : Bytes) : List Obs :=
  [.moved .queued 0 data, .moved .handed 0 data,
    .moved .buffered 0 taken]

/- A chunk goes through the loop; the buffer takes a part. -/
private theorem exec_moveChunk
    {data tx taken : Bytes}
    (hBound : tx.length ≤ socketBuffer)
    (hTaken :
      data.take (socketBuffer - tx.length) = taken)
    (hPiped : Piped s)
    (hSize : 0 < data.length ∧ data.length ≤ localReadSize)
    (hRoom : tx.length < socketBuffer) :
    ∃ s', netstack.exec s
        (moveChunk data (established tx hBound)) =
      some (s', moved data taken) ∧ Piped s' := by
  have hAccepts : (s.connection 0).toTunnel.Accepts :=
    ⟨hPiped.isOpen, by rw [hPiped.queue]; decide⟩
  rcases hAccepts.exists_sent data with
    ⟨channel, hSend, hQueue, hOpen⟩
  rw [hPiped.queue, List.nil_append] at hQueue
  rcases Channel.exists_recv hQueue with
    ⟨channel', hRecv, hEmpty, hStill⟩
  have hCanSend :
      (established tx hBound).canSend = true := by
    have hFree : 0 < socketBuffer - tx.length :=
      Nat.sub_pos_of_lt hRoom
    simp [Socket.canSend, Socket.maySend, established,
      Socket.room, hFree]
  have hCanRecv :
      (established tx hBound).canRecv = false := rfl
  have hActive :
      (established tx hBound).isActive = true := rfl
  have hListening : Socket.listening.isActive = false := rfl
  refine ⟨afterMove s data (established tx hBound) channel',
    ?_, ?_⟩
  · simp [moveChunk, iteration, pollControl, Machine.exec,
      netstack, step, bridgeToLocal, hPiped.bridge, hSize,
      hSend, State.setConnection, runStack, hPiped.loop,
      hPiped.control, hPiped.imaging, State.activeHandles,
      hActive, hListening, receiveData, hCanRecv, sendData,
      hCanSend, hRecv, afterMove, moved]
    exact hTaken
  · exact
      { loop := hPiped.loop
        control := hPiped.control
        imaging := hPiped.imaging
        queue := by simp [afterMove, hEmpty]
        isOpen := by simp [afterMove, hStill, hOpen]
        bridge := by simp [afterMove] }

/- A chunk of zeros. -/
def zeros (n : Nat) : Bytes := List.replicate n 0

theorem length_zeros (n : Nat) : (zeros n).length = n :=
  List.length_replicate

/- A byte that follows a lost one comes too early. -/
private theorem not_kept_of_gap
    {x y : Bytes} :
    ¬ OutboundKept ([.accepted 0 .control] ++ moved x x ++
      moved y y ++ moved [1, 2] [1] ++ moved [3] [3]) := by
  intro hKept
  have hPrefix := hKept 0
  simp only [moved, bytes_append, bytes_cons, bytes_nil,
    Obs.moved?, reduceCtorEq, false_and, and_self,
    if_true, if_false, Option.getD_none, Option.getD_some,
    List.nil_append, List.append_nil, List.append_assoc,
    List.prefix_append_right_inj] at hPrefix
  revert hPrefix
  decide

/-
  Four chunks: the first two leave one byte of room, so the
  buffer takes one byte of the third. The client
  acknowledges everything, and the last chunk follows where
  the lost byte should be.
-/
theorem outbound_lost :
    ∃ es h s, netstack.Run es h s ∧ ¬ OutboundKept h := by
  have hStart : netstack.Run openBridge
      (netstack.outcome openBridge).2
      (netstack.outcome openBridge).1 :=
    Machine.run_outcome (by decide +kernel)
  have hShown : (netstack.outcome openBridge).2 =
      [.accepted 0 .control] := by
    decide +kernel
  have hPiped : Piped (netstack.outcome openBridge).1 :=
    { loop := by decide +kernel
      control := by decide +kernel
      imaging := by decide +kernel
      queue := by decide +kernel
      isOpen := by decide +kernel
      bridge := by decide +kernel }
  rw [hShown] at hStart
  have hFits (n : Nat) (hLe : n ≤ 65536) :
      (zeros n).length ≤ socketBuffer := by
    rw [length_zeros]
    exact hLe
  have hSize (n : Nat) (hLe : 0 < n ∧ n ≤ 32768) :
      0 < (zeros n).length ∧
        (zeros n).length ≤ localReadSize := by
    rw [length_zeros]
    exact hLe
  have hRoom (n : Nat) (hLt : n < 65536) :
      (zeros n).length < socketBuffer := by
    rw [length_zeros]
    exact hLt
  -- What the buffer takes of each chunk.
  have hTaken₁ :
      (zeros 32768).take
        (socketBuffer - (zeros 0).length) = zeros 32768 := by
    apply List.take_of_length_le
    rw [length_zeros, length_zeros]
    decide
  have hTaken₂ :
      (zeros 32767).take
          (socketBuffer - (zeros 32768).length) =
        zeros 32767 := by
    apply List.take_of_length_le
    rw [length_zeros, length_zeros]
    decide
  have hTaken₃ :
      ([1, 2] : Bytes).take
        (socketBuffer - (zeros 65535).length) = [1] := by
    rw [length_zeros]
    rfl
  have hTaken₄ :
      ([3] : Bytes).take
        (socketBuffer - (zeros 0).length) = [3] := rfl
  rcases exec_moveChunk (hFits 0 (by omega)) hTaken₁ hPiped
    (hSize 32768 (by omega)) (hRoom 0 (by omega)) with
    ⟨s₁, hExec₁, hPiped₁⟩
  rcases exec_moveChunk (hFits 32768 (by omega)) hTaken₂
    hPiped₁ (hSize 32767 (by omega))
    (hRoom 32768 (by omega)) with ⟨s₂, hExec₂, hPiped₂⟩
  rcases exec_moveChunk (hFits 65535 (by omega)) hTaken₃
    hPiped₂ (by decide) (hRoom 65535 (by omega)) with
    ⟨s₃, hExec₃, hPiped₃⟩
  rcases exec_moveChunk (hFits 0 (by omega)) hTaken₄
    hPiped₃ (by decide) (hRoom 0 (by omega)) with
    ⟨s₄, hExec₄, -⟩
  have hRun := (((hStart.append hExec₁).append hExec₂).append
    hExec₃).append hExec₄
  refine ⟨_, _, s₄, hRun, ?_⟩
  intro hKept
  exact not_kept_of_gap hKept

end Netstack

end Wireguard

end SeestarProxy
