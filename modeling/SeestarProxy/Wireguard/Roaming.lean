import SeestarProxy.Library.Purge
import SeestarProxy.Wireguard.PacketLoop

/-
  Where the packet loop sends what it is not asked for.

  Every datagram makes its source the peer address, before
  boringtun has said whether the datagram is authentic. The
  peer address changes on accepted datagrams only exactly
  when rejected ones come from the peer address, and then
  they cannot be told from the packets sent to the peer.

  Main declarations:
    * `RoamStep` and `roam_cases`
    * `RoamsAccepted`, `RejectedFromPeer` and `peerPackets`
    * `roaming_authentic` and `roaming_unauthentic`
-/

------------------------------------------------------------
-- Packets to the Peer
------------------------------------------------------------

namespace SeestarProxy

namespace Wireguard

namespace PacketLoop

open Library

/- An egress, timer or discovery packet with its address. -/
def Obs.toPeer? : Obs → Option (Purpose × SocketAddr × Bytes)
| .sent .reply _ _ => none
| .sent purpose addr data => some (purpose, addr, data)
| _ => none

/- The packets that are not replies, in their order. -/
def peerPackets (h : List Obs) :
    List (Purpose × SocketAddr × Bytes) :=
  h.filterMap Obs.toPeer?

/- The result is not an error. -/
def TunnResult.Accepts : TunnResult → Prop
| .err _ => False
| _ => True

instance (result : TunnResult) : Decidable result.Accepts := by
  unfold TunnResult.Accepts
  split <;> infer_instance

/- A datagram that boringtun rejects. -/
def Event.rejected : Event → Bool
| .datagram _ _ result => !decide result.Accepts
| _ => false

variable {handlers : Handlers}
variable {s s' : State}
variable {h o : List Obs}

theorem mem_peerPackets_iff
    {purpose : Purpose}
    {addr : SocketAddr}
    {data : Bytes} :
    (purpose, addr, data) ∈ peerPackets h ↔
      purpose ≠ .reply ∧ .sent purpose addr data ∈ h := by
  unfold peerPackets
  rw [List.mem_filterMap]
  constructor
  · rintro ⟨x, hMem, hSome⟩
    unfold Obs.toPeer? at hSome
    split at hSome
    · cases hSome
    · next hNot =>
        rw [Option.some.injEq, Prod.mk.injEq,
          Prod.mk.injEq] at hSome
        rcases hSome with ⟨rfl, rfl, rfl⟩
        exact ⟨hNot, hMem⟩
    · cases hSome
  · rintro ⟨hNot, hMem⟩
    refine ⟨_, hMem, ?_⟩
    cases purpose with
    | reply => exact absurd rfl hNot
    | egress | timer | discovery => rfl

/- A step that sends only replies sends nothing to the peer. -/
theorem peerPackets_eq_nil
    (hReply : ∀ purpose addr data,
      .sent purpose addr data ∈ h → purpose = .reply) :
    peerPackets h = [] := by
  apply List.eq_nil_iff_forall_not_mem.mpr
  rintro ⟨purpose, addr, data⟩ hMem
  rcases mem_peerPackets_iff.mp hMem with ⟨hNot, hSent⟩
  exact hNot (hReply purpose addr data hSent)

/- What a result sends, and to which address. -/
theorem sent_of_process
    {purpose purpose' : Purpose}
    {peer addr : SocketAddr}
    {result : TunnResult}
    {data : Bytes}
    (hMem : .sent purpose' addr data ∈
      (processTunnResult purpose peer result).2) :
    purpose' = purpose ∧ addr = peer := by
  unfold processTunnResult at hMem
  split at hMem
  · cases hMem
  · rw [List.mem_singleton, Obs.sent.injEq] at hMem
    exact ⟨hMem.1, hMem.2.1⟩
  · simp at hMem
  · cases hMem
  · cases hMem
  · cases hMem

theorem sent_of_sendEncapsulated
    {purpose purpose' : Purpose}
    {peer addr : SocketAddr}
    {packet data : Bytes}
    {result : TunnResult}
    (hMem : .sent purpose' addr data ∈
      sendEncapsulated purpose peer packet result) :
    purpose' = purpose ∧ addr = peer := by
  unfold sendEncapsulated at hMem
  split at hMem
  · simp only [List.mem_cons, reduceCtorEq, false_or,
      List.not_mem_nil, or_false, Obs.sent.injEq] at hMem
    exact ⟨hMem.1, hMem.2.1⟩
  · simp at hMem

/- The calls for a datagram send replies only. -/
theorem sent_of_decapsulated
    {src addr : SocketAddr}
    {purpose : Purpose}
    {datagram data : Bytes}
    {result : TunnResult}
    (hMem : .sent purpose addr data ∈
      Obs.decapsulated datagram result ::
        (processTunnResult .reply src result).2) :
    purpose = .reply := by
  rw [List.mem_cons] at hMem
  rcases hMem with hOther | hSent
  · cases hOther
  · exact (sent_of_process hSent).1

------------------------------------------------------------
-- What a Step Does to the Peer Address
------------------------------------------------------------

/-
  A datagram makes its source the peer address; other steps
  keep it, and only those send packets to it.
-/
inductive RoamStep (s s' : State) (o : List Obs) :
    Event → Prop
| datagram {src : SocketAddr} {data : Bytes}
    {result : TunnResult}
    (hAt : s.phase = .selecting)
    (hPeer : s'.peerAddr = some src)
    (hRejected : ¬ result.Accepts →
      s' = { s with peerAddr := some src })
    (hQuiet : peerPackets o = []) :
    RoamStep s s' o (.datagram src data result)
| kept {e : Event}
    (hEvent : e.rejected = false)
    (hPeer : s'.peerAddr = s.peerAddr)
    (hSent : ∀ x ∈ peerPackets o,
      s.peerAddr = some x.2.1) :
    RoamStep s s' o e

/- A step that keeps the peer and sends only replies. -/
private theorem roam_of_replies
    {e : Event}
    (hEvent : e.rejected = false)
    (hPeer : s'.peerAddr = s.peerAddr)
    (hReply : ∀ purpose addr data,
      .sent purpose addr data ∈ o → purpose = .reply) :
    RoamStep s s' o e := by
  refine .kept hEvent hPeer ?_
  rw [peerPackets_eq_nil hReply]
  exact nofun

/- A step that sends packets to the peer address. -/
private theorem roam_of_peer
    {e : Event}
    {addr : SocketAddr}
    (hEvent : e.rejected = false)
    (hPeer : s.peerAddr = some addr)
    (hSent : ∀ purpose addr' data,
      .sent purpose addr' data ∈ o → addr' = addr) :
    RoamStep s s o e := by
  refine .kept hEvent rfl ?_
  rintro ⟨purpose, addr', data⟩ hMem
  rw [hPeer, hSent purpose addr' data
    (mem_peerPackets_iff.mp hMem).2]

/- A rejected datagram has no effect but on the address. -/
theorem processTunnResult_of_rejected
    {purpose : Purpose}
    {peer : SocketAddr}
    {result : TunnResult}
    (hRejected : ¬ result.Accepts) :
    processTunnResult purpose peer result = (.done, []) := by
  cases result with
  | err error => cases error <;> rfl
  | _ => exact absurd trivial hRejected

private theorem roam_of_datagram
    {src : SocketAddr}
    {data : Bytes}
    {result : TunnResult}
    (hAt : s.phase = .selecting)
    (hStep : step handlers s (.datagram src data result) =
      some (s', o)) :
    RoamStep s s' o (.datagram src data result) := by
  simp only [step, hAt] at hStep
  by_cases hActive : s.sessionActive = false
  · rw [if_pos hActive] at hStep
    cases hStep
    refine .datagram hAt rfl ?_
      (peerPackets_eq_nil fun _ _ _ => sent_of_decapsulated)
    intro hRejected
    have hSame : result.isWriteToTunnelV4 = false := by
      cases result with
      | err error => rfl
      | _ => exact absurd trivial hRejected
    simp [probe, processTunnResult_of_rejected hRejected,
      hSame, ← hActive, ← hAt]
  · rw [if_neg hActive] at hStep
    cases hStep
    refine .datagram hAt rfl ?_
      (peerPackets_eq_nil fun _ _ _ => sent_of_decapsulated)
    intro hRejected
    have hSame : s.sessionActive = true := by
      simpa using hActive
    simp [decapsulateDatagram,
      processTunnResult_of_rejected hRejected, ← hSame,
      ← hAt]

theorem roam_cases
    {e : Event}
    (hStep : step handlers s e = some (s', o)) :
    RoamStep s s' o e := by
  have hWhole := hStep
  unfold step at hStep
  split at hStep
  -- An error of the socket.
  · cases hStep
    exact roam_of_replies rfl rfl nofun
  · next hAt => exact roam_of_datagram hAt hWhole
  -- The other calls for a datagram.
  · cases hStep
    exact roam_of_replies rfl rfl
      fun _ _ _ => sent_of_decapsulated
  · cases hStep
    exact roam_of_replies rfl rfl
      fun _ _ _ => sent_of_decapsulated
  · cases hStep
    exact roam_of_replies rfl rfl
      fun _ _ _ hMem => (sent_of_sendEncapsulated hMem).1
  -- The other branches of the select.
  · split at hStep
    · next hPeer =>
        cases hStep
        exact roam_of_peer rfl hPeer
          fun _ _ _ hMem => (sent_of_sendEncapsulated hMem).2
    · cases hStep
      exact roam_of_replies rfl rfl nofun
  · split at hStep
    · next hPeer =>
        cases hStep
        exact roam_of_peer rfl hPeer
          fun _ _ _ hMem => (sent_of_process hMem).2
    · cases hStep
      exact roam_of_replies rfl rfl nofun
  · split at hStep
    · next hPeer =>
        cases hStep
        exact roam_of_peer rfl hPeer
          fun _ _ _ hMem => (sent_of_sendEncapsulated hMem).2
    · cases hStep
      exact roam_of_replies rfl rfl nofun
  · cases hStep

------------------------------------------------------------
-- Rejected Datagrams
------------------------------------------------------------

/-
  A step that changes the peer address is a datagram that
  boringtun accepts.
-/
def RoamsAccepted
    (handlers : Handlers)
    (s : State)
    (e : Event) : Prop :=
  ∀ s' o, step handlers s e = some (s', o) →
    s'.peerAddr ≠ s.peerAddr →
      ∃ src data result,
        e = .datagram src data result ∧ result.Accepts

/- A rejected datagram comes from the peer address. -/
def RejectedFromPeer (s : State) : Event → Prop
| .datagram src _ result =>
    result.Accepts ∨ s.peerAddr = some src
| _ => True

instance (s : State) (e : Event) :
    Decidable (RejectedFromPeer s e) := by
  unfold RejectedFromPeer
  split <;> infer_instance

/- Only a rejected datagram can roam without authority. -/
theorem roamsAccepted_iff
    {e : Event}
    (hStep : step handlers s e = some (s', o)) :
    RoamsAccepted handlers s e ↔ RejectedFromPeer s e := by
  have hRoam := roam_cases hStep
  cases hRoam with
  | @datagram src data result hAt hPeer hRejected hQuiet =>
      constructor
      · intro hAccepted
        apply or_iff_not_imp_left.mpr
        intro hNot
        by_contra hOther
        have hChanged : s'.peerAddr ≠ s.peerAddr := by
          rw [hPeer]
          exact fun hSame => hOther hSame.symm
        rcases hAccepted s' o hStep hChanged with
          ⟨_, _, _, hEvent, hAccepts⟩
        cases hEvent
        exact hNot hAccepts
      · intro hFrom s₁ o₁ hNext hChanged
        rw [hStep] at hNext
        cases hNext
        rcases hFrom with hAccepts | hSame
        · exact ⟨src, data, result, rfl, hAccepts⟩
        · exact absurd (hPeer.trans hSame.symm) hChanged
  | kept hEvent hPeer hSent =>
      apply iff_of_true
      · intro s₁ o₁ hNext hChanged
        rw [hStep] at hNext
        cases hNext
        exact absurd hPeer hChanged
      · cases e with
        | datagram src data result =>
            left
            simpa [Event.rejected] using hEvent
        | _ => trivial

/- A rejected datagram from the peer has no effect. -/
theorem silent_rejected :
    (packetLoop handlers).Silent (fun e => !e.rejected)
      Obs.toPeer? RejectedFromPeer := by
  intro s e s' o hKeep hFrom hStep
  have hEvent : e.rejected = true := by
    simpa using hKeep
  have hRoam := roam_cases hStep
  cases hRoam with
  | @datagram src data result hAt hPeer hRejected hQuiet =>
      have hNot : ¬ result.Accepts := by
        simpa [Event.rejected] using hEvent
      rcases hFrom with hAccepts | hSame
      · exact absurd hAccepts hNot
      · refine ⟨?_, hQuiet⟩
        rw [hRejected hNot, ← hSame]
  | kept hOther hPeer hSent =>
      rw [hEvent] at hOther
      cases hOther

/- The events of a run that are not rejected datagrams. -/
def notRejected (es : List Event) : List Event :=
  es.filter fun e => !e.rejected

/- What a step sends unasked goes to the peer address. -/
def SendsToPeer
    (handlers : Handlers)
    (s : State)
    (e : Event) : Prop :=
  ∀ s' o, step handlers s e = some (s', o) →
    ∀ x ∈ peerPackets o, s.peerAddr = some x.2.1

theorem sendsToPeer_of_step
    {e : Event}
    (hStep : step handlers s e = some (s', o)) :
    SendsToPeer handlers s e := by
  intro s₁ o₁ hNext
  rw [hStep] at hNext
  cases hNext
  have hRoam := roam_cases hStep
  cases hRoam with
  | datagram hAt hPeer hRejected hQuiet =>
      rw [hQuiet]
      exact nofun
  | kept hEvent hPeer hSent => exact hSent

/-
  What a run says about roaming. Whatever is not a reply goes
  to the peer address, which changes on accepted datagrams
  only exactly when every rejected one comes from it. Then a
  run that differs in such datagrams sends the same packets
  to the same peer.
-/
structure RoamingOutcome
    (handlers : Handlers)
    (es : List Event)
    (h : List Obs) : Prop where
  toPeer :
    (packetLoop handlers).Meets (SendsToPeer handlers)
      State.init es
  roams_iff :
    (packetLoop handlers).Meets (RoamsAccepted handlers)
        State.init es ↔
      (packetLoop handlers).Meets RejectedFromPeer
        State.init es
  samePackets :
    (packetLoop handlers).Meets RejectedFromPeer
        State.init es →
      ∀ es' h' s', (packetLoop handlers).Run es' h' s' →
        (packetLoop handlers).Meets RejectedFromPeer
          State.init es' →
        notRejected es' = notRejected es →
          peerPackets h' = peerPackets h

theorem roaming_authentic
    {es : List Event}
    (hRun : (packetLoop handlers).Run es h s) :
    RoamingOutcome handlers es h := by
  constructor
  · apply Machine.meets_of_run _ hRun
    intro s e s' o hStep
    exact sendsToPeer_of_step hStep
  · apply Machine.meets_congr _ hRun
    intro s e s' o hStep
    exact roamsAccepted_iff hStep
  · intro hMeets es' h' s' hRun' hMeets' hSame
    exact Machine.view_eq_of_purge_eq silent_rejected hRun'
      hRun hMeets' hMeets hSame

------------------------------------------------------------
-- A Sender That Has No Key
------------------------------------------------------------

/- Handlers of an upstream that answers nothing. -/
def noHandlers : Handlers where
  handleDnsQuery _ := none
  handleDiscovery _ := none
  handleIcmpEcho _ := none
  discoveryPacket := []

/- The client's address. -/
def client : SocketAddr := .v4 0xC0A80105 51820

/- An address from which nothing authentic comes. -/
def stranger : SocketAddr := .v4 0xCB007107 4000

/- The client's handshake is answered; a packet goes out. -/
def greeted (between : List Event) : List Event :=
  .datagram client [1] (.writeToNetwork [2]) :: between ++
    [.egress [69] (.writeToNetwork [4])]

/- Something that boringtun rejects arrives. -/
def rejectedFrom (src : SocketAddr) : Event :=
  .datagram src [0] (.err .other)

theorem roaming_authentic_greeted :
    (packetLoop noHandlers).Meets RejectedFromPeer State.init
      (greeted [rejectedFrom client]) ∧
    RoamingOutcome noHandlers (greeted [rejectedFrom client])
      ((packetLoop noHandlers).outcome
        (greeted [rejectedFrom client])).2 :=
  ⟨by decide,
    roaming_authentic (Machine.run_outcome (by decide))⟩

/-
  One datagram of a stranger after the handshake, and the
  client's packets go to the stranger.
-/
theorem roaming_unauthentic :
    ∃ es es' h h' s s',
      (packetLoop noHandlers).Run es h s ∧
      (packetLoop noHandlers).Run es' h' s' ∧
      notRejected es' = notRejected es ∧
      ((peerPackets h).map fun x => x.2.1) = [client] ∧
      ((peerPackets h').map fun x => x.2.1) = [stranger] ∧
      ¬ (packetLoop noHandlers).Meets
        (RoamsAccepted noHandlers) State.init es' := by
  have hQuiet : (packetLoop noHandlers).Run (greeted []) _ _ :=
    Machine.run_outcome (by decide)
  have hRun : (packetLoop noHandlers).Run
      (greeted [rejectedFrom stranger])
      ((packetLoop noHandlers).outcome
        (greeted [rejectedFrom stranger])).2
      ((packetLoop noHandlers).outcome
        (greeted [rejectedFrom stranger])).1 :=
    Machine.run_outcome (by decide)
  refine ⟨_, _, _, _, _, _, hQuiet, hRun, by decide,
    by decide, by decide, ?_⟩
  intro hRoams
  have hFrom := (Machine.meets_congr
    (fun _ _ _ _ hStep => roamsAccepted_iff hStep)
    hRun).mp hRoams
  revert hFrom
  decide

end PacketLoop

end Wireguard

end SeestarProxy
