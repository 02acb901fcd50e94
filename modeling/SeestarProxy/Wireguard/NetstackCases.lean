import SeestarProxy.Wireguard.Netstack

/-
  What a step of the netstack can do.

  The relations list the outcomes of the poll loop and of
  the bridges with the guard each one needs, the state it
  leads to and what it shows.

  Main declarations:
    * `StackStep`, `BridgeStep` and `NetStep`
    * `net_cases`
-/

------------------------------------------------------------
-- The Poll Loop
------------------------------------------------------------

namespace SeestarProxy

namespace Wireguard

namespace Netstack

open Library

/- The outcomes of one step of the poll loop. -/
inductive StackStep (s : State) :
    StackEvent → State → List Obs → Prop
| injected {packet : Bytes} {channel : Channel Bytes 256}
    (hAt : s.loop = .selecting)
    (hRecv : s.injectRx.recv = some (packet, channel)) :
    StackStep s .inject
      { s with
        injectRx := channel
        device :=
          { s.device with
            rxQueue := s.device.rxQueue ++ [packet] }
        loop := .polling }
      []
| ticked
    (hAt : s.loop = .selecting) :
    StackStep s .tick { s with loop := .polling } []
| polled {device : VirtualDevice}
    {socket : Handle → Socket} {changed : Bool}
    (hAt : s.loop = .polling) :
    StackStep s (.poll device socket changed)
      { s with
        device := device
        socket := socket
        loop :=
          if changed = true then
            .accepting [.control, .imaging]
          else
            .draining }
      []
| accepted {handle : Handle} {rest : List Handle}
    {channel : Channel ConnId 16}
    (hAt : s.loop = .accepting (handle :: rest))
    (hActive : (s.socket handle).isActive = true)
    (hNew : s.active handle = none)
    (hSend : s.connTx.trySend s.connections =
      .sent channel) :
    StackStep s .accept
      { s with
        connection := Function.update s.connection
          s.connections (.accepted handle .offered)
        connections := s.connections + 1
        active := Function.update s.active handle
          (some s.connections)
        connTx := channel
        loop := .accepting rest }
      [.accepted s.connections handle]
| refused {handle : Handle} {rest : List Handle}
    (hAt : s.loop = .accepting (handle :: rest))
    (hActive : (s.socket handle).isActive = true)
    (hNew : s.active handle = none)
    (hRefused : ¬ s.connTx.Accepts) :
    StackStep s .accept
      { s with
        connection := Function.update s.connection
          s.connections
          ((Connection.accepted handle .offered)
            |>.closeFromTunnel .dropped)
        connections := s.connections + 1
        active := Function.update s.active handle
          (some s.connections)
        loop := .accepting rest }
      [.accepted s.connections handle,
        .refused s.connections]
| passed {handle : Handle} {rest : List Handle}
    (hAt : s.loop = .accepting (handle :: rest))
    (hNot : ¬ ((s.socket handle).isActive = true ∧
      s.active handle = none)) :
    StackStep s .accept { s with loop := .accepting rest } []
| allAccepted
    (hAt : s.loop = .accepting []) :
    StackStep s .accept
      { s with loop := .transferring s.activeHandles [] } []
| visited {handle : Handle} {rest toRemove : List Handle}
    (hAt : s.loop = .transferring rest toRemove)
    (hRest : handle ∈ rest)
    (hActive : (s.socket handle).isActive = true) :
    StackStep s (.visit handle)
      { s with
        loop :=
          .receiving handle (rest.erase handle) toRemove }
      []
| ended {handle : Handle} {rest toRemove : List Handle}
    (hAt : s.loop = .transferring rest toRemove)
    (hRest : handle ∈ rest)
    (hActive : (s.socket handle).isActive = false) :
    StackStep s (.visit handle)
      { s with
        loop := .transferring (rest.erase handle)
          (toRemove ++ [handle]) }
      []
| put {handle : Handle} {rest toRemove : List Handle}
    {c : ConnId} {channel : Channel Bytes 64}
    (hAt : s.loop = .receiving handle rest toRemove)
    (hActive : s.active handle = some c)
    (hData : (s.socket handle).canRecv = true)
    (hSend : (s.connection c).fromTunnel.trySend
        ((s.socket handle).recvSlice readSize).1 =
      .sent channel) :
    StackStep s .receive
      { s with
        socket := Function.update s.socket handle
          ((s.socket handle).recvSlice readSize).2
        connection := Function.update s.connection c
          { s.connection c with fromTunnel := channel }
        loop := .sending handle rest toRemove }
      [.moved .taken c
          ((s.socket handle).recvSlice readSize).1,
        .moved .put c
          ((s.socket handle).recvSlice readSize).1]
| lost {handle : Handle} {rest toRemove : List Handle}
    {c : ConnId}
    (hAt : s.loop = .receiving handle rest toRemove)
    (hActive : s.active handle = some c)
    (hData : (s.socket handle).canRecv = true)
    (hRefused : ¬ (s.connection c).fromTunnel.Accepts) :
    StackStep s .receive
      { s with
        socket := Function.update s.socket handle
          ((s.socket handle).recvSlice readSize).2
        loop := .sending handle rest toRemove }
      [.moved .taken c
        ((s.socket handle).recvSlice readSize).1]
| noData {handle : Handle} {rest toRemove : List Handle}
    {c : ConnId}
    (hAt : s.loop = .receiving handle rest toRemove)
    (hActive : s.active handle = some c)
    (hData : (s.socket handle).canRecv = false) :
    StackStep s .receive
      { s with loop := .sending handle rest toRemove } []
| handed {handle : Handle} {rest toRemove : List Handle}
    {c : ConnId} {data : Bytes}
    {channel : Channel Bytes 64}
    (hAt : s.loop = .sending handle rest toRemove)
    (hActive : s.active handle = some c)
    (hRoom : (s.socket handle).canSend = true)
    (hRecv : (s.connection c).toTunnel.recv =
      some (data, channel)) :
    StackStep s .send
      { s with
        socket := Function.update s.socket handle
          ((s.socket handle).sendSlice data).2
        connection := Function.update s.connection c
          { s.connection c with toTunnel := channel }
        loop := .transferring rest toRemove }
      [.moved .handed c data,
        .moved .buffered c
          ((s.socket handle).sendSlice data).1]
| notHanded {handle : Handle} {rest toRemove : List Handle}
    {c : ConnId}
    (hAt : s.loop = .sending handle rest toRemove)
    (hActive : s.active handle = some c)
    (hNot : (s.socket handle).canSend = false ∨
      (s.connection c).toTunnel.recv = none) :
    StackStep s .send
      { s with loop := .transferring rest toRemove } []
| removed {handle : Handle} {toRemove : List Handle}
    {c : ConnId}
    (hAt : s.loop = .transferring [] (handle :: toRemove))
    (hActive : s.active handle = some c) :
    StackStep s .remove
      { s with
        connection := Function.update s.connection c
          { s.connection c with
            toTunnel := (s.connection c).toTunnel.close }
        active := Function.update s.active handle none
        loop := .transferring [] toRemove }
      [.removed c]
| notRemoved {handle : Handle} {toRemove : List Handle}
    (hAt : s.loop = .transferring [] (handle :: toRemove))
    (hActive : s.active handle = none) :
    StackStep s .remove
      { s with loop := .transferring [] toRemove } []
| allRemoved
    (hAt : s.loop = .transferring [] []) :
    StackStep s .remove { s with loop := .draining } []
| allDrained
    (hAt : s.loop = .draining)
    (hEmpty : s.device.txQueue = []) :
    StackStep s .drain { s with loop := .selecting } []
| drained {packet : Bytes} {rest : List Bytes}
    {channel : Channel Bytes 256}
    (hAt : s.loop = .draining)
    (hNext : s.device.txQueue = packet :: rest)
    (hSend : s.egressTx.trySend packet = .sent channel) :
    StackStep s .drain
      { s with
        device := { s.device with txQueue := rest }
        egressTx := channel }
      [.egress packet]
| drainLost {packet : Bytes} {rest : List Bytes}
    (hAt : s.loop = .draining)
    (hNext : s.device.txQueue = packet :: rest)
    (hRefused : ¬ s.egressTx.Accepts) :
    StackStep s .drain
      { s with
        device := { s.device with txQueue := rest } }
      [.egressDropped packet]

/- A channel that is full or closed accepts nothing. -/
private theorem not_accepts_of_full
    {α : Type}
    {cap : Nat}
    {channel : Channel α cap}
    {message : α}
    (hSend : channel.trySend message = .full) :
    ¬ channel.Accepts := by
  intro hAccepts
  exact hAccepts.not_blocks
    (Channel.trySend_full_iff.mp hSend)

private theorem not_accepts_of_closed
    {α : Type}
    {cap : Nat}
    {channel : Channel α cap}
    {message : α}
    (hSend : channel.trySend message = .closed) :
    ¬ channel.Accepts := by
  intro hAccepts
  have hClosed := Channel.trySend_closed_iff.mp hSend
  rw [hAccepts.1] at hClosed
  cases hClosed

variable {s s' : State} {o : List Obs}

/- A socket with a new connection is given its channels. -/
private theorem accept_cases
    {handle : Handle}
    {rest : List Handle}
    (hAt : s.loop = .accepting (handle :: rest))
    (hActive : (s.socket handle).isActive = true)
    (hNew : s.active handle = none) :
    StackStep s .accept
      { (acceptConnection s handle).1 with
        loop := .accepting rest }
      (acceptConnection s handle).2 := by
  unfold acceptConnection
  simp only [State.setConnection]
  cases hSend : s.connTx.trySend s.connections with
  | sent channel => exact .accepted hAt hActive hNew hSend
  | full =>
      exact .refused hAt hActive hNew
        (not_accepts_of_full hSend)
  | closed =>
      exact .refused hAt hActive hNew
        (not_accepts_of_closed hSend)

private theorem receive_cases
    {handle : Handle}
    {rest toRemove : List Handle}
    {c : ConnId}
    (hAt : s.loop = .receiving handle rest toRemove)
    (hActive : s.active handle = some c) :
    StackStep s .receive
      { (receiveData s handle c).1 with
        loop := .sending handle rest toRemove }
      (receiveData s handle c).2 := by
  unfold receiveData
  simp only [State.setConnection]
  by_cases hData : (s.socket handle).canRecv = true
  · simp only [hData, if_true]
    cases hSend : (s.connection c).fromTunnel.trySend
        ((s.socket handle).recvSlice readSize).1 with
    | sent channel => exact .put hAt hActive hData hSend
    | full =>
        exact .lost hAt hActive hData
          (not_accepts_of_full hSend)
    | closed =>
        exact .lost hAt hActive hData
          (not_accepts_of_closed hSend)
  · simp only [hData]
    exact .noData hAt hActive (by simpa using hData)

private theorem send_cases
    {handle : Handle}
    {rest toRemove : List Handle}
    {c : ConnId}
    (hAt : s.loop = .sending handle rest toRemove)
    (hActive : s.active handle = some c) :
    StackStep s .send
      { (sendData s handle c).1 with
        loop := .transferring rest toRemove }
      (sendData s handle c).2 := by
  unfold sendData
  simp only [State.setConnection]
  by_cases hRoom : (s.socket handle).canSend = true
  · simp only [hRoom, if_true]
    cases hRecv : (s.connection c).toTunnel.recv with
    | none => exact .notHanded hAt hActive (Or.inr hRecv)
    | some next =>
        rcases next with ⟨data, channel⟩
        exact .handed hAt hActive hRoom hRecv
  · simp only [hRoom]
    exact .notHanded hAt hActive
      (Or.inl (by simpa using hRoom))

private theorem remove_cases
    {handle : Handle}
    {toRemove : List Handle}
    (hAt : s.loop = .transferring [] (handle :: toRemove)) :
    StackStep s .remove
      { (removeConnection s handle).1 with
        loop := .transferring [] toRemove }
      (removeConnection s handle).2 := by
  unfold removeConnection
  simp only [State.setConnection]
  cases hActive : s.active handle with
  | none => exact .notRemoved hAt hActive
  | some c => exact .removed hAt hActive

theorem runStack_cases
    {event : StackEvent}
    (hStep : runStack s event = some (s', o)) :
    StackStep s event s' o := by
  unfold runStack at hStep
  split at hStep
  · rename_i hAt
    split at hStep
    · cases hStep
    · rename_i packet channel hRecv
      cases hStep
      exact .injected hAt hRecv
  · rename_i hAt
    cases hStep
    exact .ticked hAt
  · rename_i device socket changed hAt
    cases hStep
    exact .polled hAt
  · rename_i handle rest hAt
    split at hStep
    · rename_i hBoth
      cases hStep
      exact accept_cases hAt hBoth.1 hBoth.2
    · rename_i hNot
      cases hStep
      exact .passed hAt hNot
  · rename_i hAt
    cases hStep
    exact .allAccepted hAt
  · rename_i handle rest toRemove hAt
    split at hStep
    · rename_i hRest
      split at hStep
      · rename_i hActive
        cases hStep
        exact .visited hAt hRest hActive
      · rename_i hActive
        cases hStep
        exact .ended hAt hRest (by simpa using hActive)
    · cases hStep
  · rename_i handle rest toRemove hAt
    split at hStep
    · cases hStep
    · rename_i c hActive
      cases hStep
      exact receive_cases hAt hActive
  · rename_i handle rest toRemove hAt
    split at hStep
    · cases hStep
    · rename_i c hActive
      cases hStep
      exact send_cases hAt hActive
  · rename_i handle toRemove hAt
    cases hStep
    exact remove_cases hAt
  · rename_i hAt
    cases hStep
    exact .allRemoved hAt
  · rename_i hAt
    split at hStep
    · rename_i hEmpty
      cases hStep
      exact .allDrained hAt hEmpty
    · rename_i packet rest hNext
      simp only at hStep
      split at hStep
      · rename_i channel hSend
        cases hStep
        exact .drained hAt hNext hSend
      · rename_i hSend
        cases hStep
        exact .drainLost hAt hNext
          (not_accepts_of_full hSend)
      · rename_i hSend
        cases hStep
        exact .drainLost hAt hNext
          (not_accepts_of_closed hSend)
  · cases hStep

------------------------------------------------------------
-- Bridges
------------------------------------------------------------

/- The outcomes of one step of a connection's bridge. -/
inductive BridgeStep (s : State) (c : ConnId) :
    BridgeEvent → State → List Obs → Prop
| connected
    (hAt : (s.connection c).bridge = .connecting) :
    BridgeStep s c (.connect true)
      (s.setConnection c
        { s.connection c with
          bridge := .piping .receiving .reading })
      []
| failed
    (hAt : (s.connection c).bridge = .connecting) :
    BridgeStep s c (.connect false)
      (s.setConnection c
        ((s.connection c).closeFromTunnel .failed))
      []
| received {toTunnel : ToTunnel} {data : Bytes}
    {channel : Channel Bytes 64}
    (hAt : (s.connection c).bridge =
      .piping .receiving toTunnel)
    (hRecv : (s.connection c).fromTunnel.recv =
      some (data, channel)) :
    BridgeStep s c .receive
      (s.setConnection c
        { s.connection c with
          fromTunnel := channel
          bridge := .piping (.writing data) toTunnel })
      []
| ended {toTunnel : ToTunnel}
    (hAt : (s.connection c).bridge =
      .piping .receiving toTunnel)
    (hRecv : (s.connection c).fromTunnel.recv = none)
    (hRemoved :
      s.active (s.connection c).handle ≠ some c) :
    BridgeStep s c .receive
      (s.setConnection c
        ((s.connection c).closeFromTunnel
          (.piping .ended toTunnel)))
      []
| delivered {toTunnel : ToTunnel} {data : Bytes}
    (hAt : (s.connection c).bridge =
      .piping (.writing data) toTunnel) :
    BridgeStep s c (.write true)
      (s.setConnection c
        { s.connection c with
          bridge := .piping .receiving toTunnel })
      [.moved .delivered c data]
| writeFailed {toTunnel : ToTunnel} {data : Bytes}
    (hAt : (s.connection c).bridge =
      .piping (.writing data) toTunnel) :
    BridgeStep s c (.write false)
      (s.setConnection c
        ((s.connection c).closeFromTunnel
          (.piping .ended toTunnel)))
      []
| read {toLocal : ToLocal} {data : Bytes}
    (hAt : (s.connection c).bridge =
      .piping toLocal .reading)
    (hSize : 0 < data.length ∧
      data.length ≤ localReadSize) :
    BridgeStep s c (.read data)
      (s.setConnection c
        { s.connection c with
          bridge := .piping toLocal (.sending data) })
      []
| readEnded {toLocal : ToLocal}
    (hAt : (s.connection c).bridge =
      .piping toLocal .reading) :
    BridgeStep s c .readEnd
      (s.setConnection c
        { s.connection c with
          bridge := .piping toLocal .ended })
      []
| queued {toLocal : ToLocal} {data : Bytes}
    {channel : Channel Bytes 64}
    (hAt : (s.connection c).bridge =
      .piping toLocal (.sending data))
    (hSend : (s.connection c).toTunnel.trySend data =
      .sent channel) :
    BridgeStep s c .send
      (s.setConnection c
        { s.connection c with
          toTunnel := channel
          bridge := .piping toLocal .reading })
      [.moved .queued c data]
| sendFailed {toLocal : ToLocal} {data : Bytes}
    (hAt : (s.connection c).bridge =
      .piping toLocal (.sending data))
    (hClosed : (s.connection c).toTunnel.isOpen = false) :
    BridgeStep s c .send
      (s.setConnection c
        { s.connection c with
          bridge := .piping toLocal .ended })
      []

theorem bridgeToLocal_cases
    {c : ConnId}
    {event : BridgeEvent}
    (hStep : bridgeToLocal s c event = some (s', o)) :
    BridgeStep s c event s' o := by
  unfold bridgeToLocal at hStep
  simp only at hStep
  split at hStep
  · rename_i hAt
    cases hStep
    exact .connected hAt
  · rename_i hAt
    cases hStep
    exact .failed hAt
  · rename_i toTunnel hAt
    split at hStep
    · rename_i data channel hRecv
      cases hStep
      exact .received hAt hRecv
    · rename_i hRecv
      split at hStep
      · cases hStep
      · rename_i hRemoved
        cases hStep
        exact .ended hAt hRecv hRemoved
  · rename_i data toTunnel hAt
    cases hStep
    exact .delivered hAt
  · rename_i data toTunnel hAt
    cases hStep
    exact .writeFailed hAt
  · rename_i data toLocal hAt
    split at hStep
    · rename_i hSize
      cases hStep
      exact .read hAt hSize
    · cases hStep
  · rename_i toLocal hAt
    cases hStep
    exact .readEnded hAt
  · rename_i toLocal data hAt
    split at hStep
    · rename_i channel hSend
      cases hStep
      exact .queued hAt hSend
    · rename_i hSend
      cases hStep
      exact .sendFailed hAt
        (Channel.trySend_closed_iff.mp hSend)
    · cases hStep
  · cases hStep

------------------------------------------------------------
-- The Netstack
------------------------------------------------------------

/- The outcomes of one step of the netstack. -/
inductive NetStep (s : State) :
    Event → State → List Obs → Prop
| stack {event : StackEvent} {s' : State} {o : List Obs}
    (hTask : StackStep s event s' o) :
    NetStep s (.stack event) s' o
| bridge {c : ConnId} {event : BridgeEvent}
    {s' : State} {o : List Obs}
    (hTask : BridgeStep s c event s' o) :
    NetStep s (.bridge c event) s' o
| spawned {c : ConnId} {channel : Channel ConnId 16}
    (hRecv : s.connTx.recv = some (c, channel)) :
    NetStep s .spawn
      { s with
        connection := Function.update s.connection c
          { s.connection c with bridge := .connecting }
        connTx := channel }
      []
| injected {data : Bytes} {channel : Channel Bytes 256}
    (hSend : s.injectRx.trySend data = .sent channel) :
    NetStep s (.packet data)
      { s with injectRx := channel } []
| notInjected {data : Bytes}
    (hRefused : ¬ s.injectRx.Accepts) :
    NetStep s (.packet data) s []
| encrypted {data : Bytes} {channel : Channel Bytes 256}
    (hRecv : s.egressTx.recv = some (data, channel)) :
    NetStep s .sent { s with egressTx := channel } []

theorem net_cases
    {e : Event}
    (hStep : netstack.step s e = some (s', o)) :
    NetStep s e s' o := by
  change step s e = some (s', o) at hStep
  unfold step at hStep
  split at hStep
  · exact .stack (runStack_cases hStep)
  · exact .bridge (bridgeToLocal_cases hStep)
  · split at hStep
    · cases hStep
    · rename_i c channel hRecv
      cases hStep
      exact .spawned hRecv
  · split at hStep
    · rename_i channel hSend
      cases hStep
      exact .injected hSend
    · rename_i hSend
      cases hStep
      exact .notInjected (not_accepts_of_full hSend)
    · rename_i hSend
      cases hStep
      exact .notInjected (not_accepts_of_closed hSend)
  · split at hStep
    · cases hStep
    · rename_i data channel hRecv
      cases hStep
      exact .encrypted hRecv

end Netstack

end Wireguard

end SeestarProxy
