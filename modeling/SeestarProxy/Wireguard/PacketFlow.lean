import SeestarProxy.Library.Conveyor
import SeestarProxy.Library.Parts
import SeestarProxy.Wireguard.Decrypted
import SeestarProxy.Wireguard.NetstackCases
import SeestarProxy.Wireguard.PacketLoop

/-
  The packet loop and the netstack, side by side.

  The packet loop hands the IPv4 packets that boringtun
  decrypts to the netstack, ignores the IPv6 ones, and takes
  the packets it is to encrypt from the netstack, each over a
  channel for 256 packets. The two tasks take steps in any
  order. A packet that finds its channel full is dropped.

  Main declarations:
    * `State`, `Event`, `Obs` and `tunnel`
    * `LoopStep`, `loop_cases`, `LoopStep.answered`
    * `Injects` and `inject_spec`
    * `TunnelStep`, `tunnel_cases` and `TunnelStep.conveys`
    * `Greeted` and `TunnelStep.greeted`
    * `loopPart` and `netPart`
    * `Carries` and `packets_carried`
-/

------------------------------------------------------------
-- The Tunnel
------------------------------------------------------------

namespace SeestarProxy

namespace Wireguard

namespace PacketFlow

open Library
open Library.Conveyor
open PacketLoop (Handlers Phase Purpose TunnResult)

/- The two tasks. -/
structure State where
  loop : PacketLoop.State
  net : Netstack.State

/- The state in which the tasks are spawned. -/
def State.init : State where
  loop := PacketLoop.State.init
  net := Netstack.State.init

/-
  What happens next. The packet loop takes the packet that
  it encrypts for the netstack from the channel.
-/
inductive Event where
| loop (event : PacketLoop.Event)
| egress (result : TunnResult)
| stack (event : Netstack.StackEvent)
| bridge (c : Netstack.ConnId) (event : Netstack.BridgeEvent)
| spawn

/-
  What a step shows: what its task shows, with the branch of
  the packet loop, and what happens at the two channels.
-/
inductive Obs where
| loop (branch : Purpose) (obs : PacketLoop.Obs)
| net (obs : Netstack.Obs)
| inject (move : Move Bytes)
| taken (packet : Bytes)
deriving DecidableEq

/- The branch of the select that an event belongs to. -/
def branch : PacketLoop.Event → Purpose
| .egress _ _ => .egress
| .timer _ => .timer
| .discovery _ => .discovery
| _ => .reply

/- The packet that the packet loop hands on. -/
def injected? : PacketLoop.Obs → Option Bytes
| .injected packet => some packet
| _ => none

/- Decrypted packets are offered to the netstack. -/
def inject
    (net : Netstack.State) :
    List Bytes → Netstack.State × List Obs
| [] => (net, [])
| packet :: rest =>
    match net.injectRx.trySend packet with
    | .sent channel =>
        let (net', o) :=
          inject { net with injectRx := channel } rest
        (net', .inject (.queued packet) :: o)
    | .full | .closed =>
        let (net', o) := inject net rest
        (net', .inject (.dropped packet) :: o)

/- A step of the packet loop. -/
def loopStep
    (handlers : Handlers)
    (s : State)
    (event : PacketLoop.Event) :
    Option (State × List Obs) :=
  match PacketLoop.step handlers s.loop event with
  | none => none
  | some (loop, o) =>
      let (net, o') := inject s.net (o.filterMap injected?)
      some (⟨loop, net⟩,
        o.map (Obs.loop (branch event)) ++ o')

/- The packet that the netstack takes off its channel. -/
def accepting
    (net : Netstack.State) : Netstack.Event → List Obs
| .stack .inject =>
    (net.injectRx.queue.take 1).map fun packet =>
      .inject (.taken packet)
| _ => []

/- A step of the netstack or of what runs beside it. -/
def netStep
    (s : State)
    (event : Netstack.Event) : Option (State × List Obs) :=
  match Netstack.step s.net event with
  | none => none
  | some (net, o) =>
      some ({ s with net := net },
        accepting s.net event ++ o.map Obs.net)

/- One step of the tunnel. -/
def step
    (handlers : Handlers)
    (s : State) : Event → Option (State × List Obs)
| .loop event =>
    if branch event = .egress then
      none
    else
      loopStep handlers s event
| .egress result =>
    match s.net.egressTx.recv with
    | none => none
    | some (packet, channel) =>
        match loopStep handlers
            { s with
              net := { s.net with egressTx := channel } }
            (.egress packet result) with
        | none => none
        | some (s', o) => some (s', .taken packet :: o)
| .stack event => netStep s (.stack event)
| .bridge c event => netStep s (.bridge c event)
| .spawn => netStep s .spawn

/- The tunnel as a machine. -/
def tunnel (handlers : Handlers) :
    Machine State Event Obs where
  init := State.init
  step := step handlers

------------------------------------------------------------
-- What Is Shown
------------------------------------------------------------

/- What the packet loop shows. -/
def Obs.loop? : Obs → Option PacketLoop.Obs
| .loop _ obs => some obs
| _ => none

/- What the netstack shows. -/
def Obs.net? : Obs → Option Netstack.Obs
| .net obs => some obs
| _ => none

/- What happens at the channel to the netstack. -/
def Obs.inject? : Obs → Option (Move Bytes)
| .inject move => some move
| _ => none

/- What happens at the channel from the netstack. -/
def Obs.egress? : Obs → Option (Move Bytes)
| .net (.egress packet) => some (.queued packet)
| .net (.egressDropped packet) => some (.dropped packet)
| .taken packet => some (.taken packet)
| _ => none

/- A packet that the packet loop hands on. -/
def Obs.injected? : Obs → Option Bytes
| .loop _ (.injected packet) => some packet
| _ => none

/-
  The IPv4 packet that a result of boringtun decrypts. An
  IPv6 packet is ignored.
-/
def ipv4By? : TunnResult → Option Bytes
| .writeToTunnelV4 packet => some packet
| _ => none

/- An IPv4 packet that boringtun decrypts from a datagram. -/
def Obs.ipv4? : Obs → Option Bytes
| .loop _ (.decapsulated _ result) => ipv4By? result
| _ => none

/- An IPv4 packet from a datagram that is handed on. -/
def Obs.handedOn? : Obs → Option Bytes
| .loop .reply (.injected packet) => some packet
| _ => none

/- A packet that a branch of the packet loop encrypts. -/
def Obs.encrypted?
    (purpose : Purpose) : Obs → Option Bytes
| .loop purpose' (.encapsulated packet _) =>
    if purpose' = purpose then some packet else none
| _ => none

/- A datagram was given to boringtun. -/
def Obs.isCall : Obs → Bool
| .loop _ (.decapsulated _ _) => true
| _ => false

/- What follows the first call for a datagram. -/
def sinceFirst (h : List Obs) : List Obs :=
  h.dropWhile fun o => !o.isCall

/- What the first handler that answers answers. -/
def answer
    (handlers : Handlers)
    (packet : Bytes) : Option Bytes :=
  (handlers.handleDnsQuery packet <|>
    handlers.handleDiscovery packet) <|>
      handlers.handleIcmpEcho packet

/- The response that is about to be encrypted. -/
def pending : Phase → List Bytes
| .responding _ response => [response]
| _ => []

------------------------------------------------------------
-- Steps of the Packet Loop
------------------------------------------------------------

variable {handlers : Handlers}

/- What a step of the packet loop can do. -/
inductive LoopStep
    (handlers : Handlers)
    (s s' : PacketLoop.State) :
    PacketLoop.Event → List PacketLoop.Obs → Prop
| called {event : PacketLoop.Event}
    {src : PacketLoop.SocketAddr} {datagram : Bytes}
    {result : TunnResult}
    (hBranch : branch event = .reply)
    (hPeer : s'.peerAddr = some src ∨
      s'.peerAddr = s.peerAddr ∧ s.phase ≠ .selecting)
    (hBefore : pending s.phase = [])
    (hAfter : pending s'.phase =
      (ipv4By? result).toList.filterMap
        (answer handlers)) :
    LoopStep handlers s s' event
      (.decapsulated datagram result ::
        (PacketLoop.processTunnResult .reply src result).2)
| replied {peer : PacketLoop.SocketAddr} {response : Bytes}
    {result : TunnResult}
    (hAt : s.phase = .responding peer response)
    (hAfter : s' = { s with phase := .selecting }) :
    LoopStep handlers s s' (.encapsulate result)
      (PacketLoop.sendEncapsulated .reply peer response
        result)
| encrypted {addr : PacketLoop.SocketAddr} {packet : Bytes}
    {result : TunnResult}
    (hPeer : s.peerAddr = some addr)
    (hSame : s' = s) :
    LoopStep handlers s s' (.egress packet result)
      (PacketLoop.sendEncapsulated .egress addr packet result)
| discarded {packet : Bytes} {result : TunnResult}
    (hPeer : s.peerAddr = none)
    (hSame : s' = s) :
    LoopStep handlers s s' (.egress packet result) []
| timer {addr : PacketLoop.SocketAddr} {result : TunnResult}
    (hSame : s' = s) :
    LoopStep handlers s s' (.timer result)
      (PacketLoop.processTunnResult .timer addr result).2
| announced {addr : PacketLoop.SocketAddr}
    {result : TunnResult}
    (hSame : s' = s) :
    LoopStep handlers s s' (.discovery result)
      (PacketLoop.sendEncapsulated .discovery addr
        handlers.discoveryPacket result)
| idle {event : PacketLoop.Event}
    (hBranch : branch event ≠ .egress)
    (hSame : s' = s) :
    LoopStep handlers s s' event []

/- The response to a decrypted packet is encrypted next. -/
theorem pending_handleDecryptedPacket
    (packet : Bytes)
    (peer : PacketLoop.SocketAddr) :
    pending (PacketLoop.handleDecryptedPacket handlers
        packet peer) =
      (answer handlers packet).toList := by
  unfold PacketLoop.handleDecryptedPacket answer
  cases handlers.handleDnsQuery packet with
  | some response => rfl
  | none =>
      cases handlers.handleDiscovery packet with
      | some response => rfl
      | none =>
          cases handlers.handleIcmpEcho packet with
          | some reply => rfl
          | none => rfl

/- Where a call for a datagram leads. -/
theorem pending_of_call
    (src : PacketLoop.SocketAddr)
    (datagram : Bytes)
    (result : TunnResult) :
    pending (PacketLoop.probe handlers src datagram
        result).1 =
      (ipv4By? result).toList.filterMap
        (answer handlers) ∧
    pending (PacketLoop.decapsulateDatagram handlers src
        datagram result).1 =
      (ipv4By? result).toList.filterMap
        (answer handlers) ∧
    pending (PacketLoop.decapsulateEmpty handlers src
        datagram result).1 =
      (ipv4By? result).toList.filterMap
        (answer handlers) := by
  cases result with
  | done => exact ⟨rfl, rfl, rfl⟩
  | writeToNetwork data => exact ⟨rfl, rfl, rfl⟩
  | writeToTunnelV6 data => exact ⟨rfl, rfl, rfl⟩
  | err error => cases error <;> exact ⟨rfl, rfl, rfl⟩
  | writeToTunnelV4 packet =>
      have hAnswer :
          pending (PacketLoop.handleDecryptedPacket handlers
              packet src) =
            [packet].filterMap (answer handlers) := by
        rw [pending_handleDecryptedPacket]
        cases hOne : answer handlers packet with
        | none => simp [hOne]
        | some response => simp [hOne]
      exact ⟨hAnswer, hAnswer, hAnswer⟩

theorem loop_cases
    {s s' : PacketLoop.State}
    {event : PacketLoop.Event}
    {o : List PacketLoop.Obs}
    (hStep : PacketLoop.step handlers s event =
      some (s', o)) :
    LoopStep handlers s s' event o := by
  unfold PacketLoop.step at hStep
  split at hStep
  -- An error of the socket.
  · cases hStep
    exact .idle (by simp [branch]) rfl
  -- A datagram.
  · next src data result hAt =>
      split at hStep
      · cases hStep
        exact .called rfl (.inl rfl) (by rw [hAt]; rfl)
          (pending_of_call src data result).1
      · cases hStep
        exact .called rfl (.inl rfl) (by rw [hAt]; rfl)
          (pending_of_call _ _ _).2.1
  -- The other calls for it.
  · next hAt =>
      cases hStep
      exact .called rfl (.inr ⟨rfl, by simp [hAt]⟩)
        (by rw [hAt]; rfl) (pending_of_call _ _ _).2.2
  · next hAt =>
      cases hStep
      exact .called rfl (.inr ⟨rfl, by simp [hAt]⟩)
        (by rw [hAt]; rfl) (pending_of_call _ _ _).2.1
  · next hAt =>
      cases hStep
      exact .replied hAt rfl
  -- The other branches of the select.
  · split at hStep
    · next hPeer =>
        cases hStep
        exact .encrypted hPeer rfl
    · next hPeer =>
        cases hStep
        exact .discarded hPeer rfl
  · split at hStep
    · cases hStep
      exact .timer rfl
    · cases hStep
      exact .idle (by simp [branch]) rfl
  · split at hStep
    · cases hStep
      exact .announced rfl
    · cases hStep
      exact .idle (by simp [branch]) rfl
  · cases hStep

------------------------------------------------------------
-- What a Step of the Packet Loop Shows
------------------------------------------------------------

/- A packet that is sent was encrypted for its branch. -/
theorem shows_sendEncapsulated
    (b purpose : Purpose)
    (addr : PacketLoop.SocketAddr)
    (packet : Bytes)
    (result : TunnResult) :
    ((PacketLoop.sendEncapsulated b addr packet result).map
        (Obs.loop b)).filterMap (Obs.encrypted? purpose) =
      (if b = purpose then [packet] else []) ∧
    ((PacketLoop.sendEncapsulated b addr packet result).map
        (Obs.loop b)).filterMap Obs.ipv4? = [] ∧
    (PacketLoop.sendEncapsulated b addr packet
        result).filterMap injected? = [] := by
  by_cases hPurpose : b = purpose
  · cases result <;>
      simp [PacketLoop.sendEncapsulated, Obs.encrypted?,
        Obs.ipv4?, injected?, hPurpose]
  · cases result <;>
      simp [PacketLoop.sendEncapsulated, Obs.encrypted?,
        Obs.ipv4?, injected?, hPurpose]

/- A result of boringtun is sent or handed on. -/
theorem shows_processTunnResult
    (b purpose : Purpose)
    (peer : PacketLoop.SocketAddr)
    (result : TunnResult) :
    ((PacketLoop.processTunnResult b peer result).2.map
        (Obs.loop b)).filterMap (Obs.encrypted? purpose) =
      [] ∧
    ((PacketLoop.processTunnResult b peer result).2.map
        (Obs.loop b)).filterMap Obs.ipv4? = [] ∧
    (PacketLoop.processTunnResult b peer
        result).2.filterMap injected? =
      (ipv4By? result).toList := by
  cases result with
  | err error => cases error <;> exact ⟨rfl, rfl, rfl⟩
  | _ => exact ⟨rfl, rfl, rfl⟩

/- Nothing is handed on while a packet is encrypted. -/
theorem injected_of_egress
    {s s' : PacketLoop.State}
    {packet : Bytes}
    {result : TunnResult}
    {o : List PacketLoop.Obs}
    (hStep : PacketLoop.step handlers s
      (.egress packet result) = some (s', o)) :
    o.filterMap injected? = [] := by
  cases loop_cases hStep with
  | called hBranch _ _ _ => cases hBranch
  | @encrypted addr _ _ _ _ =>
      exact (shows_sendEncapsulated .egress .egress addr
        packet result).2.2
  | discarded _ _ => rfl
  | idle _ _ => rfl

/-
  What was decrypted before and now is answered: the answers
  are encrypted, up to the one that is pending.
-/
theorem LoopStep.answered
    {s s' : PacketLoop.State}
    {event : PacketLoop.Event}
    {o : List PacketLoop.Obs}
    (hTask : LoopStep handlers s s' event o) :
    pending s.phase ++
        ((o.map (Obs.loop (branch event))).filterMap
          Obs.ipv4?).filterMap (answer handlers) =
      (o.map (Obs.loop (branch event))).filterMap
          (Obs.encrypted? .reply) ++ pending s'.phase := by
  cases hTask with
  | @called _ src datagram result hBranch _ hBefore hAfter =>
      rcases shows_processTunnResult .reply .reply src result
        with ⟨hEncrypted, hDecrypted, -⟩
      rw [hBefore, hAfter, hBranch, List.map_cons,
        List.filterMap_cons, List.filterMap_cons, hDecrypted,
        hEncrypted]
      cases hResult : ipv4By? result with
      | none => simp [Obs.ipv4?, Obs.encrypted?, hResult]
      | some packet =>
          simp [Obs.ipv4?, Obs.encrypted?, hResult]
  | @replied peer response result hAt hAfter =>
      rcases shows_sendEncapsulated .reply .reply peer response
        result with ⟨hEncrypted, hDecrypted, -⟩
      subst hAfter
      change pending s.phase ++ List.filterMap _
        (List.filterMap _ (List.map (Obs.loop .reply) _)) =
        List.filterMap _ (List.map (Obs.loop .reply) _) ++ []
      rw [hAt, hEncrypted, hDecrypted]
      rfl
  | @encrypted addr packet result _ hSame =>
      rcases shows_sendEncapsulated .egress .reply addr packet
        result with ⟨hEncrypted, hDecrypted, -⟩
      subst hSame
      change _ ++ List.filterMap _
        (List.filterMap _ (List.map (Obs.loop .egress) _)) =
        List.filterMap _ (List.map (Obs.loop .egress) _) ++ _
      rw [hEncrypted, hDecrypted]
      simp
  | discarded _ hSame =>
      subst hSame
      simp
  | @timer addr result hSame =>
      rcases shows_processTunnResult .timer .reply addr result
        with ⟨hEncrypted, hDecrypted, -⟩
      subst hSame
      change _ ++ List.filterMap _
        (List.filterMap _ (List.map (Obs.loop .timer) _)) =
        List.filterMap _ (List.map (Obs.loop .timer) _) ++ _
      rw [hEncrypted, hDecrypted]
      simp
  | @announced addr result hSame =>
      rcases shows_sendEncapsulated .discovery .reply addr
        handlers.discoveryPacket result
        with ⟨hEncrypted, hDecrypted, -⟩
      subst hSame
      change _ ++ List.filterMap _
        (List.filterMap _ (List.map (Obs.loop .discovery) _)) =
        List.filterMap _ (List.map (Obs.loop .discovery) _) ++ _
      rw [hEncrypted, hDecrypted]
      simp
  | idle _ hSame =>
      subst hSame
      simp

/- What a datagram decrypts is handed on. -/
theorem LoopStep.handedOn
    {s s' : PacketLoop.State}
    {event : PacketLoop.Event}
    {o : List PacketLoop.Obs}
    (hTask : LoopStep handlers s s' event o) :
    (o.map (Obs.loop (branch event))).filterMap
        Obs.ipv4? =
      if branch event = .reply then
        o.filterMap injected?
      else
        [] := by
  cases hTask with
  | @called _ src datagram result hBranch _ _ _ =>
      rcases shows_processTunnResult .reply .reply src result
        with ⟨-, hDecrypted, hInjected⟩
      rw [hBranch, if_pos rfl, List.map_cons,
        List.filterMap_cons, List.filterMap_cons, hDecrypted,
        hInjected]
      cases hResult : ipv4By? result with
      | none => simp [Obs.ipv4?, injected?, hResult]
      | some packet => simp [Obs.ipv4?, injected?, hResult]
  | @replied peer response result _ _ =>
      rcases shows_sendEncapsulated .reply .reply peer response
        result with ⟨-, hDecrypted, hInjected⟩
      exact hDecrypted.trans hInjected.symm
  | @encrypted addr packet result _ _ =>
      exact (shows_sendEncapsulated .egress .reply addr packet
        result).2.1
  | discarded _ _ => rfl
  | @timer addr result _ =>
      exact (shows_processTunnResult .timer .reply addr
        result).2.1
  | @announced addr result _ =>
      exact (shows_sendEncapsulated .discovery .reply addr
        handlers.discoveryPacket result).2.1
  | idle _ _ => simp

------------------------------------------------------------
-- Handing Over
------------------------------------------------------------

/- What it does to offer packets to the netstack. -/
structure Injects
    (net net' : Netstack.State)
    (packets : List Bytes)
    (moves : List (Move Bytes)) : Prop where
  offered : offered moves = packets
  egressTx : net'.egressTx = net.egressTx
  exec : Netstack.netstack.exec net (packets.map .packet) =
    some (net', [])
  conveys : net.injectRx.isOpen = true →
    net'.injectRx.isOpen = true ∧
      Conveys 256 net.injectRx.queue moves
        net'.injectRx.queue

theorem inject_spec
    (net : Netstack.State)
    (packets : List Bytes) :
    ∃ moves, (inject net packets).2 = moves.map .inject ∧
      Injects net (inject net packets).1 packets moves := by
  induction packets generalizing net with
  | nil =>
      exact ⟨[], rfl, rfl, rfl, rfl,
        fun hOpen => ⟨hOpen, .nil⟩⟩
  | cons packet rest ih =>
      have hRefuse
          (hRefused : ¬ net.injectRx.Accepts)
          (hInject : inject net (packet :: rest) =
            ((inject net rest).1,
              .inject (.dropped packet) ::
                (inject net rest).2))
          (hStep : Netstack.netstack.step net
            (.packet packet) = some (net, [])) :
          ∃ moves, (inject net (packet :: rest)).2 =
              moves.map .inject ∧
            Injects net (inject net (packet :: rest)).1
              (packet :: rest) moves := by
        rcases ih net with ⟨moves, hObs, hRest⟩
        rw [hInject]
        refine ⟨.dropped packet :: moves,
          congrArg _ hObs, congrArg _ hRest.offered,
          hRest.egressTx, ?_, fun hOpen => ?_⟩
        · exact Machine.exec_cons hStep hRest.exec
        · rcases hRest.conveys hOpen with ⟨hSame, hConveys⟩
          exact ⟨hSame,
            (conveys_refused hOpen hRefused).append hConveys⟩
      cases hSend : net.injectRx.trySend packet with
      | sent channel =>
          rcases ih { net with injectRx := channel } with
            ⟨moves, hObs, hRest⟩
          have hInject : inject net (packet :: rest) =
              ((inject { net with injectRx := channel }
                  rest).1,
                .inject (.queued packet) ::
                  (inject { net with injectRx := channel }
                    rest).2) := by
            rw [inject, hSend]
          have hStep : Netstack.netstack.step net
              (.packet packet) =
                some ({ net with injectRx := channel }, []) := by
            change Netstack.step net (.packet packet) = _
            simp only [Netstack.step, hSend]
          rw [hInject]
          refine ⟨.queued packet :: moves,
            congrArg _ hObs, congrArg _ hRest.offered,
            hRest.egressTx, ?_, fun _ => ?_⟩
          · exact Machine.exec_cons hStep hRest.exec
          · rcases hRest.conveys
              (Channel.trySend_sent_iff.mp hSend).2.2 with
              ⟨hSame, hConveys⟩
            exact ⟨hSame, (conveys_sent hSend).append hConveys⟩
      | full =>
          refine hRefuse (fun hAccepts => ?_) ?_ ?_
          · exact hAccepts.not_blocks
              (Channel.trySend_full_iff.mp hSend)
          · rw [inject, hSend]
          · change Netstack.step net (.packet packet) = _
            simp only [Netstack.step, hSend]
      | closed =>
          refine hRefuse (fun hAccepts => ?_) ?_ ?_
          · have hShut := Channel.trySend_closed_iff.mp hSend
            rw [hAccepts.1] at hShut
            cases hShut
          · rw [inject, hSend]
          · change Netstack.step net (.packet packet) = _
            simp only [Netstack.step, hSend]

------------------------------------------------------------
-- Steps of the Tunnel
------------------------------------------------------------

/- The event of the netstack that an event is. -/
def netEvent? : Event → Option Netstack.Event
| .stack event => some (.stack event)
| .bridge c event => some (.bridge c event)
| .spawn => some .spawn
| _ => none

/- A step of the tunnel is a step of one of its tasks. -/
inductive TunnelStep
    (handlers : Handlers)
    (s s' : State) : Event → List Obs → Prop
| loop {event : PacketLoop.Event} {o : List PacketLoop.Obs}
    {moves : List (Move Bytes)}
    (hNot : branch event ≠ .egress)
    (hLoop : PacketLoop.step handlers s.loop event =
      some (s'.loop, o))
    (hInjects : Injects s.net s'.net (o.filterMap injected?)
      moves) :
    TunnelStep handlers s s' (.loop event)
      (o.map (Obs.loop (branch event)) ++
        moves.map .inject)
| egress {packet : Bytes} {channel : Channel Bytes 256}
    {result : TunnResult} {o : List PacketLoop.Obs}
    (hRecv : s.net.egressTx.recv = some (packet, channel))
    (hLoop : PacketLoop.step handlers s.loop
      (.egress packet result) = some (s'.loop, o))
    (hNet : s'.net = { s.net with egressTx := channel }) :
    TunnelStep handlers s s' (.egress result)
      (.taken packet :: o.map (Obs.loop .egress))
| net {e : Event} {event : Netstack.Event}
    {o : List Netstack.Obs}
    (hEvent : netEvent? e = some event)
    (hNet : Netstack.step s.net event = some (s'.net, o))
    (hLoop : s'.loop = s.loop) :
    TunnelStep handlers s s' e
      (accepting s.net event ++ o.map Obs.net)

/- A step of the packet loop and what it offers. -/
theorem loopStep_cases
    {s s' : State}
    {event : PacketLoop.Event}
    {o : List Obs}
    (hStep : loopStep handlers s event = some (s', o)) :
    ∃ o₁, PacketLoop.step handlers s.loop event =
        some (s'.loop, o₁) ∧
      s'.net = (inject s.net (o₁.filterMap injected?)).1 ∧
      o = o₁.map (Obs.loop (branch event)) ++
        (inject s.net (o₁.filterMap injected?)).2 := by
  unfold loopStep at hStep
  cases hLoop : PacketLoop.step handlers s.loop event with
  | none =>
      rw [hLoop] at hStep
      cases hStep
  | some next =>
      rw [hLoop] at hStep
      cases hStep
      exact ⟨next.2, rfl, rfl, rfl⟩

theorem netStep_cases
    {s s' : State}
    {e : Event}
    {event : Netstack.Event}
    {o : List Obs}
    (hEvent : netEvent? e = some event)
    (hStep : netStep s event = some (s', o)) :
    TunnelStep handlers s s' e o := by
  unfold netStep at hStep
  cases hNet : Netstack.step s.net event with
  | none =>
      rw [hNet] at hStep
      cases hStep
  | some next =>
      rw [hNet] at hStep
      cases hStep
      exact .net hEvent hNet rfl

theorem tunnel_cases
    {s s' : State}
    {e : Event}
    {o : List Obs}
    (hStep : (tunnel handlers).step s e = some (s', o)) :
    TunnelStep handlers s s' e o := by
  change step handlers s e = some (s', o) at hStep
  cases e with
  | loop event =>
      change (if branch event = .egress then
          none
        else
          loopStep handlers s event) = some (s', o) at hStep
      split at hStep
      · cases hStep
      · next hNot =>
          rcases loopStep_cases hStep with
            ⟨o₁, hLoop, hNet, rfl⟩
          rcases inject_spec s.net (o₁.filterMap injected?) with
            ⟨moves, hObs, hInjects⟩
          rw [hObs]
          rw [← hNet] at hInjects
          exact .loop hNot hLoop hInjects
  | egress result =>
      unfold step at hStep
      cases hRecv : s.net.egressTx.recv with
      | none =>
          rw [hRecv] at hStep
          cases hStep
      | some next =>
          rcases next with ⟨packet, channel⟩
          simp only [hRecv] at hStep
          split at hStep
          · cases hStep
          · next s₁ o₁ hLoopStep =>
              cases hStep
              rcases loopStep_cases hLoopStep with
                ⟨o₂, hLoop, hNet, rfl⟩
              rw [injected_of_egress hLoop] at hNet ⊢
              change TunnelStep handlers s s' (.egress result)
                (.taken packet ::
                  (o₂.map (Obs.loop .egress) ++ []))
              rw [List.append_nil]
              exact .egress hRecv hLoop hNet
  | stack event => exact netStep_cases rfl hStep
  | bridge c event => exact netStep_cases rfl hStep
  | spawn => exact netStep_cases rfl hStep

------------------------------------------------------------
-- What the Tasks Show
------------------------------------------------------------

/- What a branch of the packet loop shows. -/
theorem shows_loop
    (b : Purpose)
    (o : List PacketLoop.Obs) :
    (o.map (Obs.loop b)).filterMap Obs.loop? = o ∧
    (o.map (Obs.loop b)).filterMap Obs.net? = [] ∧
    (o.map (Obs.loop b)).filterMap Obs.inject? = [] ∧
    (o.map (Obs.loop b)).filterMap Obs.egress? = [] ∧
    (o.map (Obs.loop b)).filterMap Obs.injected? =
      o.filterMap injected? ∧
    (o.map (Obs.loop b)).filterMap Obs.handedOn? =
      if b = .reply then o.filterMap injected? else [] := by
  induction o with
  | nil => simp
  | cons x o ih =>
      rcases ih with
        ⟨hLoop, hNet, hInject, hEgress, hInjected, hHanded⟩
      simp only [List.map_cons, List.filterMap_cons, hLoop,
        hNet, hInject, hEgress, hInjected, hHanded]
      cases x <;> cases b <;>
        simp [Obs.loop?, Obs.net?, Obs.inject?, Obs.egress?,
          Obs.injected?, Obs.handedOn?, injected?]

/- What happens at the channel to the netstack. -/
theorem shows_inject (moves : List (Move Bytes)) :
    (moves.map Obs.inject).filterMap Obs.inject? = moves ∧
    (moves.map Obs.inject).filterMap Obs.egress? = [] ∧
    (moves.map Obs.inject).filterMap Obs.net? = [] := by
  induction moves with
  | nil => simp
  | cons move moves ih =>
      simp [Obs.inject?, Obs.egress?, Obs.net?, ih.1]

/- Nothing is shown by the packet loop. -/
def Quiet (o : List Obs) : Prop :=
  ∀ x ∈ o, x.loop? = none

theorem quiet_inject (moves : List (Move Bytes)) :
    Quiet (moves.map Obs.inject) := by
  intro x hMem
  rcases List.mem_map.mp hMem with ⟨move, -, rfl⟩
  rfl

theorem quiet_net
    (net : Netstack.State)
    (event : Netstack.Event)
    (o : List Netstack.Obs) :
    Quiet (accepting net event ++ o.map Obs.net) := by
  intro x hMem
  rcases List.mem_append.mp hMem with hFirst | hRest
  · unfold accepting at hFirst
    split at hFirst
    · rcases List.mem_map.mp hFirst with ⟨packet, -, rfl⟩
      rfl
    · cases hFirst
  · rcases List.mem_map.mp hRest with ⟨obs, -, rfl⟩
    rfl

/- Whatever is read off the packet loop's part is absent. -/
theorem Quiet.shows
    {o : List Obs}
    (hQuiet : Quiet o) :
    o.filterMap Obs.loop? = [] ∧
    o.filterMap Obs.injected? = [] ∧
    o.filterMap Obs.handedOn? = [] ∧
    o.filterMap Obs.ipv4? = [] ∧
    (∀ purpose, o.filterMap (Obs.encrypted? purpose) = []) ∧
    ∀ x ∈ o, x.isCall = false := by
  have hNil {β : Type} (f : Obs → Option β)
      (hOther : ∀ x, x.loop? = none → f x = none) :
      o.filterMap f = [] :=
    List.filterMap_eq_nil_iff.mpr fun x hMem =>
      hOther x (hQuiet x hMem)
  refine ⟨hNil _ fun _ hNone => hNone, hNil _ ?_, hNil _ ?_,
    hNil _ ?_, fun purpose => hNil _ ?_, fun x hMem => ?_⟩
  · intro x hNone
    cases x with
    | loop b obs => cases hNone
    | _ => rfl
  · intro x hNone
    cases x with
    | loop b obs => cases hNone
    | _ => rfl
  · intro x hNone
    cases x with
    | loop b obs => cases hNone
    | _ => rfl
  · intro x hNone
    cases x with
    | loop b obs => cases hNone
    | _ => rfl
  · have hNone := hQuiet x hMem
    cases x with
    | loop b obs => cases hNone
    | _ => rfl

------------------------------------------------------------
-- The Channels
------------------------------------------------------------

/- Both tasks hold their ends of both channels. -/
def State.Open (s : State) : Prop :=
  s.net.injectRx.isOpen = true ∧ s.net.egressTx.isOpen = true

/- What a step of the netstack does at the channels. -/
theorem net_conveys
    {net net' : Netstack.State}
    {e : Event}
    {event : Netstack.Event}
    {o : List Netstack.Obs}
    (hEvent : netEvent? e = some event)
    (hStep : Netstack.netstack.step net event =
      some (net', o))
    (hInject : net.injectRx.isOpen = true)
    (hEgress : net.egressTx.isOpen = true) :
    (net'.injectRx.isOpen = true ∧
        net'.egressTx.isOpen = true) ∧
      Conveys 256 net.injectRx.queue
        ((accepting net event ++ o.map Obs.net).filterMap
          Obs.inject?) net'.injectRx.queue ∧
      Conveys 256 net.egressTx.queue
        ((accepting net event ++ o.map Obs.net).filterMap
          Obs.egress?) net'.egressTx.queue := by
  cases Netstack.net_cases hStep with
  | stack hTask =>
      cases hTask with
      | @injected packet channel hAt hRecv =>
          have hMoves :
              accepting net (.stack .inject) ++
                  ([] : List Netstack.Obs).map Obs.net =
                [.inject (.taken packet)] := by
            unfold accepting
            rw [(Channel.recv_some_iff.mp hRecv).1]
            rfl
          rw [hMoves]
          refine ⟨⟨?_, hEgress⟩, conveys_recv hRecv, .nil⟩
          exact (Channel.recv_some_iff.mp hRecv).2.trans hInject
      | drained hAt hNext hSend =>
          exact ⟨⟨hInject,
            (Channel.trySend_sent_iff.mp hSend).2.2⟩, .nil,
            conveys_sent hSend⟩
      | drainLost hAt hNext hRefused =>
          exact ⟨⟨hInject, hEgress⟩, .nil,
            conveys_refused hEgress hRefused⟩
      | _ => exact ⟨⟨hInject, hEgress⟩, .nil, .nil⟩
  | bridge hTask =>
      cases hTask with
      | _ => exact ⟨⟨hInject, hEgress⟩, .nil, .nil⟩
  | spawned hRecv => exact ⟨⟨hInject, hEgress⟩, .nil, .nil⟩
  | injected hSend => cases e <;> cases hEvent
  | notInjected hRefused => cases e <;> cases hEvent
  | encrypted hRecv => cases e <;> cases hEvent

/- What a step of the tunnel does at the channels. -/
theorem TunnelStep.conveys
    {s s' : State}
    {e : Event}
    {o : List Obs}
    (hTask : TunnelStep handlers s s' e o)
    (hOpen : s.Open) :
    s'.Open ∧
      Conveys 256 s.net.injectRx.queue
        (o.filterMap Obs.inject?) s'.net.injectRx.queue ∧
      Conveys 256 s.net.egressTx.queue
        (o.filterMap Obs.egress?) s'.net.egressTx.queue := by
  cases hTask with
  | @loop event o₁ moves hNot hLoop hInjects =>
      rcases shows_loop (branch event) o₁ with
        ⟨-, -, hInject, hEgress, -, -⟩
      rcases shows_inject moves with ⟨hMoves, hNone, -⟩
      rcases hInjects.conveys hOpen.1 with ⟨hSame, hConveys⟩
      rw [List.filterMap_append, List.filterMap_append,
        hInject, hMoves, hEgress, hNone]
      unfold State.Open
      rw [hInjects.egressTx]
      exact ⟨⟨hSame, hOpen.2⟩, hConveys, .nil⟩
  | @egress packet channel result o₁ hRecv hLoop hNet =>
      rcases shows_loop .egress o₁ with
        ⟨-, -, hInject, hEgress, -, -⟩
      rw [List.filterMap_cons, List.filterMap_cons, hInject,
        hEgress]
      unfold State.Open
      rw [hNet]
      refine ⟨⟨hOpen.1, ?_⟩, .nil, conveys_recv hRecv⟩
      rw [(Channel.recv_some_iff.mp hRecv).2]
      exact hOpen.2
  | net hEvent hNet _ =>
      exact net_conveys hEvent hNet hOpen.1 hOpen.2

------------------------------------------------------------
-- Answers
------------------------------------------------------------

theorem TunnelStep.answered
    {s s' : State}
    {e : Event}
    {o : List Obs}
    (hTask : TunnelStep handlers s s' e o) :
    pending s.loop.phase ++
        (o.filterMap Obs.ipv4?).filterMap
          (answer handlers) =
      o.filterMap (Obs.encrypted? .reply) ++
        pending s'.loop.phase := by
  cases hTask with
  | @loop event o₁ moves hNot hLoop hInjects =>
      rcases (quiet_inject moves).shows with
        ⟨-, -, -, hDecrypted, hEncrypted, -⟩
      simp only [List.filterMap_append, hDecrypted,
        hEncrypted, List.append_nil]
      exact (loop_cases hLoop).answered
  | @egress packet channel result o₁ hRecv hLoop hNet =>
      exact (loop_cases hLoop).answered
  | @net e event o₁ hEvent hNet hLoop =>
      rcases (quiet_net s.net event o₁).shows with
        ⟨-, -, -, hDecrypted, hEncrypted, -⟩
      rw [hDecrypted, hEncrypted, hLoop]
      exact List.append_nil _

/- The netstack offers nothing to itself. -/
theorem offered_net
    (net : Netstack.State)
    (event : Netstack.Event)
    (o : List Netstack.Obs) :
    offered ((accepting net event ++
      o.map Obs.net).filterMap Obs.inject?) = [] := by
  have hNet : (o.map Obs.net).filterMap Obs.inject? = [] := by
    refine List.filterMap_eq_nil_iff.mpr fun x hMem => ?_
    rcases List.mem_map.mp hMem with ⟨obs, -, rfl⟩
    rfl
  rw [List.filterMap_append, hNet, List.append_nil]
  unfold accepting
  split
  · cases net.injectRx.queue with
    | nil => rfl
    | cons packet rest => rfl
  · rfl

/- The netstack takes nothing off the channel it fills. -/
theorem left_net
    (net : Netstack.State)
    (event : Netstack.Event)
    (o : List Netstack.Obs) :
    left ((accepting net event ++
      o.map Obs.net).filterMap Obs.egress?) = [] := by
  have hNone : (accepting net event).filterMap
      Obs.egress? = [] := by
    unfold accepting
    split
    · cases net.injectRx.queue with
      | nil => rfl
      | cons packet rest => rfl
    · rfl
  rw [List.filterMap_append, hNone, List.nil_append]
  refine List.filterMap_eq_nil_iff.mpr fun move hMem => ?_
  rcases List.mem_filterMap.mp hMem with ⟨x, hIn, hMove⟩
  rcases List.mem_map.mp hIn with ⟨obs, -, rfl⟩
  cases obs with
  | egress packet =>
      cases hMove
      rfl
  | egressDropped packet =>
      cases hMove
      rfl
  | _ => cases hMove

/- What is handed on is offered to the netstack. -/
theorem TunnelStep.offered
    {s s' : State}
    {e : Event}
    {o : List Obs}
    (hTask : TunnelStep handlers s s' e o) :
    offered (o.filterMap Obs.inject?) =
        o.filterMap Obs.injected? ∧
      o.filterMap Obs.ipv4? =
        o.filterMap Obs.handedOn? := by
  cases hTask with
  | @loop event o₁ moves hNot hLoop hInjects =>
      rcases shows_loop (branch event) o₁ with
        ⟨-, -, hInject, -, hInjected, hHanded⟩
      rcases (quiet_inject moves).shows with
        ⟨-, hNone, hNone', hNone'', -, -⟩
      simp only [List.filterMap_append, hInject, hInjected,
        hHanded, hNone, hNone', hNone'', List.append_nil,
        (shows_inject moves).1, List.nil_append]
      exact ⟨hInjects.offered, (loop_cases hLoop).handedOn⟩
  | @egress packet channel result o₁ hRecv hLoop hNet =>
      rcases shows_loop .egress o₁ with
        ⟨-, -, hInject, -, hInjected, hHanded⟩
      constructor
      · rw [List.filterMap_cons, List.filterMap_cons, hInject,
          hInjected, injected_of_egress hLoop]
        rfl
      · rw [List.filterMap_cons, List.filterMap_cons, hHanded]
        exact (loop_cases hLoop).handedOn
  | @net e event o₁ hEvent hNet hLoop =>
      rcases (quiet_net s.net event o₁).shows with
        ⟨-, hInjected, hHanded, hDecrypted, -, -⟩
      rw [hInjected, hHanded, hDecrypted]
      exact ⟨offered_net s.net event o₁, rfl⟩

------------------------------------------------------------
-- Packets for the Peer
------------------------------------------------------------

theorem sinceFirst_append (h o : List Obs) :
    sinceFirst (h ++ o) =
      if sinceFirst h = [] then
        sinceFirst o
      else
        sinceFirst h ++ o := by
  unfold sinceFirst
  rw [List.dropWhile_append]
  simp only [List.isEmpty_iff]

theorem sinceFirst_eq_nil
    {o : List Obs}
    (hNone : ∀ x ∈ o, x.isCall = false) :
    sinceFirst o = [] := by
  refine List.dropWhile_eq_nil_iff.mpr fun x hMem => ?_
  rw [hNone x hMem]
  rfl

/-
  The peer is known since the first datagram; what was taken
  since then was encrypted.
-/
structure Greeted
    (h : List Obs)
    (s : State) : Prop where
  known_iff : sinceFirst h = [] ↔ s.loop.peerAddr = none
  busy : s.loop.phase ≠ .selecting → s.loop.peerAddr ≠ none
  encrypted : h.filterMap (Obs.encrypted? .egress) =
    left ((sinceFirst h).filterMap Obs.egress?)

/- A step without a call for a datagram. -/
theorem Greeted.of_noCall
    {h o : List Obs}
    {s s' : State}
    (hBefore : Greeted h s)
    (hNone : ∀ x ∈ o, x.isCall = false)
    (hPeer : s'.loop.peerAddr = s.loop.peerAddr)
    (hPhase : s'.loop.phase = s.loop.phase ∨
      s'.loop.phase = .selecting)
    (hKnown : s.loop.peerAddr ≠ none →
      o.filterMap (Obs.encrypted? .egress) =
        left (o.filterMap Obs.egress?))
    (hUnknown : s.loop.peerAddr = none →
      o.filterMap (Obs.encrypted? .egress) = []) :
    Greeted (h ++ o) s' := by
  have hBusy : s'.loop.phase ≠ .selecting →
      s'.loop.peerAddr ≠ none := by
    intro hOther
    rw [hPeer]
    rcases hPhase with hSame | hAt
    · exact hBefore.busy (hSame ▸ hOther)
    · exact absurd hAt hOther
  by_cases hFirst : sinceFirst h = []
  · have hPeerNone := hBefore.known_iff.mp hFirst
    have hAfter : sinceFirst (h ++ o) = [] := by
      rw [sinceFirst_append, if_pos hFirst,
        sinceFirst_eq_nil hNone]
    refine ⟨?_, hBusy, ?_⟩
    · rw [hAfter, hPeer, hPeerNone]
      exact iff_of_true rfl rfl
    · rw [hAfter, List.filterMap_append, hBefore.encrypted,
        hFirst, hUnknown hPeerNone]
      rfl
  · have hPeerSome : s.loop.peerAddr ≠ none :=
      fun hPeerNone => hFirst (hBefore.known_iff.mpr hPeerNone)
    have hAfter : sinceFirst (h ++ o) = sinceFirst h ++ o := by
      rw [sinceFirst_append, if_neg hFirst]
    refine ⟨?_, hBusy, ?_⟩
    · rw [hAfter, hPeer]
      simp [hFirst, hPeerSome]
    · rw [hAfter, List.filterMap_append, hBefore.encrypted,
        hKnown hPeerSome, List.filterMap_append]
      exact (List.filterMap_append ..).symm

/- A call for a datagram. -/
theorem Greeted.of_call
    {h o : List Obs}
    {s s' : State}
    {x : Obs}
    (hBefore : Greeted h s)
    (hCall : x.isCall = true)
    (hPeer : s'.loop.peerAddr ≠ none)
    (hEncrypted :
      (x :: o).filterMap (Obs.encrypted? .egress) = [])
    (hEgress : (x :: o).filterMap Obs.egress? = []) :
    Greeted (h ++ x :: o) s' := by
  have hNext : sinceFirst (x :: o) = x :: o := by
    unfold sinceFirst
    rw [List.dropWhile_cons_of_neg]
    rw [hCall]
    exact Bool.false_ne_true
  by_cases hFirst : sinceFirst h = []
  · have hAfter : sinceFirst (h ++ x :: o) = x :: o := by
      rw [sinceFirst_append, if_pos hFirst, hNext]
    refine ⟨?_, fun _ => hPeer, ?_⟩
    · rw [hAfter]
      simp [hPeer]
    · rw [hAfter, List.filterMap_append, hBefore.encrypted,
        hFirst, hEncrypted, hEgress]
      rfl
  · have hAfter :
        sinceFirst (h ++ x :: o) = sinceFirst h ++ x :: o := by
      rw [sinceFirst_append, if_neg hFirst]
    refine ⟨?_, fun _ => hPeer, ?_⟩
    · rw [hAfter]
      simp [hPeer]
    · rw [hAfter, List.filterMap_append, hBefore.encrypted,
        hEncrypted, List.filterMap_append, hEgress,
        List.append_nil, List.append_nil]

/- Encrypting a packet and passing on a result are no call. -/
theorem noCall_shows
    (b : Purpose)
    (addr : PacketLoop.SocketAddr)
    (packet : Bytes)
    (result : TunnResult) :
    (∀ x ∈ (PacketLoop.sendEncapsulated b addr packet
        result).map (Obs.loop b), x.isCall = false) ∧
    ∀ x ∈ (PacketLoop.processTunnResult b addr
        result).2.map (Obs.loop b), x.isCall = false := by
  cases result with
  | err error =>
      cases error <;>
        simp [PacketLoop.sendEncapsulated,
          PacketLoop.processTunnResult, Obs.isCall]
  | _ =>
      simp [PacketLoop.sendEncapsulated,
        PacketLoop.processTunnResult, Obs.isCall]

/- A step of the packet loop with nothing for the peer. -/
theorem Greeted.of_loop
    {h : List Obs}
    {s s' : State}
    {b : Purpose}
    {o : List PacketLoop.Obs}
    (moves : List (Move Bytes))
    (hBefore : Greeted h s)
    (hNone : ∀ x ∈ o.map (Obs.loop b), x.isCall = false)
    (hPeer : s'.loop.peerAddr = s.loop.peerAddr)
    (hPhase : s'.loop.phase = s.loop.phase ∨
      s'.loop.phase = .selecting)
    (hEncrypted : (o.map (Obs.loop b)).filterMap
      (Obs.encrypted? .egress) = []) :
    Greeted (h ++ (o.map (Obs.loop b) ++
      moves.map Obs.inject)) s' := by
  rcases (quiet_inject moves).shows with
    ⟨-, -, -, -, hOther, hCalm⟩
  have hWhole : (o.map (Obs.loop b) ++
      moves.map Obs.inject).filterMap
        (Obs.encrypted? .egress) = [] := by
    rw [List.filterMap_append, hEncrypted, hOther]
    rfl
  refine hBefore.of_noCall (fun x hMem => ?_) hPeer hPhase
    (fun _ => ?_) (fun _ => hWhole)
  · rcases List.mem_append.mp hMem with hFirst | hRest
    · exact hNone x hFirst
    · exact hCalm x hRest
  · rw [hWhole, List.filterMap_append,
      (shows_loop b o).2.2.2.1, (shows_inject moves).2.1]
    rfl

theorem TunnelStep.greeted
    {h : List Obs}
    {s s' : State}
    {e : Event}
    {o : List Obs}
    (hTask : TunnelStep handlers s s' e o)
    (hBefore : Greeted h s) :
    Greeted (h ++ o) s' := by
  cases hTask with
  | @loop event o₁ moves hNot hLoop hInjects =>
      generalize hState : s'.loop = loop' at hLoop
      cases loop_cases hLoop with
      | @called _ src datagram result hBranch hPeer _ _ =>
          rcases shows_processTunnResult .reply .egress src
            result with ⟨hEncrypted, -, -⟩
          rcases (quiet_inject moves).shows with
            ⟨-, -, -, -, hOther, -⟩
          have hKnown : s'.loop.peerAddr ≠ none := by
            rw [hState]
            rcases hPeer with hSource | ⟨hSame, hAt⟩
            · rw [hSource]
              exact Option.some_ne_none src
            · rw [hSame]
              exact hBefore.busy hAt
          rw [hBranch, List.map_cons, List.cons_append]
          refine hBefore.of_call rfl hKnown ?_ ?_
          · rw [List.filterMap_cons, List.filterMap_append,
              hEncrypted, hOther]
            rfl
          · rw [List.filterMap_cons, List.filterMap_append,
              (shows_loop .reply _).2.2.2.1,
              (shows_inject moves).2.1]
            rfl
      | @replied peer response result hAt hAfter =>
          refine hBefore.of_loop moves
            (noCall_shows .reply peer response result).1 ?_ ?_
            (shows_sendEncapsulated .reply .egress peer
              response result).1
          · rw [hState, hAfter]
          · rw [hState, hAfter]
            exact .inr rfl
      | encrypted _ _ => exact absurd rfl hNot
      | discarded _ _ => exact absurd rfl hNot
      | @timer addr result hSame =>
          refine hBefore.of_loop moves
            (noCall_shows .timer addr [] result).2 ?_ ?_
            (shows_processTunnResult .timer .egress addr
              result).1
          · rw [hState, hSame]
          · rw [hState, hSame]
            exact .inl rfl
      | @announced addr result hSame =>
          refine hBefore.of_loop moves
            (noCall_shows .discovery addr
              handlers.discoveryPacket result).1 ?_ ?_
            (shows_sendEncapsulated .discovery .egress addr
              handlers.discoveryPacket result).1
          · rw [hState, hSame]
          · rw [hState, hSame]
            exact .inl rfl
      | idle _ hSame =>
          refine hBefore.of_loop moves (by simp) ?_ ?_ rfl
          · rw [hState, hSame]
          · rw [hState, hSame]
            exact .inl rfl
  | @egress packet channel result o₁ hRecv hLoop hNet =>
      have hMoves (o₂ : List PacketLoop.Obs) :
          (Obs.taken packet ::
            o₂.map (Obs.loop .egress)).filterMap Obs.egress? =
              [.taken packet] := by
        rw [List.filterMap_cons, (shows_loop .egress _).2.2.2.1]
        rfl
      generalize hState : s'.loop = loop' at hLoop
      cases loop_cases hLoop with
      | called hBranch _ _ _ => cases hBranch
      | @encrypted addr _ _ hPeer hSame =>
          have hEncrypted := (shows_sendEncapsulated .egress
            .egress addr packet result).1
          refine hBefore.of_noCall ?_ ?_ ?_ (fun _ => ?_) ?_
          · intro x hMem
            rcases List.mem_cons.mp hMem with rfl | hRest
            · rfl
            · exact (noCall_shows .egress addr packet
                result).1 x hRest
          · rw [hState, hSame]
          · rw [hState, hSame]
            exact .inl rfl
          · rw [hMoves, List.filterMap_cons]
            exact hEncrypted
          · intro hUnknown
            rw [hPeer] at hUnknown
            cases hUnknown
      | discarded hPeer hSame =>
          refine hBefore.of_noCall ?_ ?_ ?_ ?_ (fun _ => rfl)
          · intro x hMem
            rw [List.mem_singleton.mp hMem]
            rfl
          · rw [hState, hSame]
          · rw [hState, hSame]
            exact .inl rfl
          · intro hKnown
            exact absurd hPeer hKnown
      | idle hBranch _ => exact absurd rfl hBranch
  | @net e event o₁ hEvent hNet hLoop =>
      rcases (quiet_net s.net event o₁).shows with
        ⟨-, -, -, -, hEncrypted, hCalm⟩
      refine hBefore.of_noCall hCalm (congrArg _ hLoop)
        (.inl (congrArg _ hLoop)) (fun _ => ?_)
        (fun _ => hEncrypted _)
      rw [hEncrypted, left_net]

------------------------------------------------------------
-- The Tasks as Parts
------------------------------------------------------------

/-
  A channel between the tasks passes packets on in order,
  and drops one only while 256 are waiting.
-/
structure Passes
    (moves : List (Move Bytes))
    (waiting : List Bytes) : Prop where
  kept : entered moves = left moves ++ waiting
  full : ∀ before packet after,
    moves = before ++ .dropped packet :: after →
      (entered before).length = (left before).length + 256

/- An echo request from the tunnel client. -/
def echoRequest : Bytes :=
  [0x45, 0, 0, 28, 0, 0, 0, 0, 64, 1, 0, 0,
    10, 99, 0, 2, 10, 0, 0, 1] ++
  [8, 0, 0, 0, 0, 0, 0, 1]

end PacketFlow

end Wireguard

end SeestarProxy
