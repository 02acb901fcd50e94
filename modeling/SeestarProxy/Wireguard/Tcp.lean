import SeestarProxy.Wireguard.NetstackCases

/-
  The netstack with TCP behind its sockets.

  A poll hands each socket the segments that TCP accepted
  for it, and the state of the socket follows them. How TCP
  answers a segment is a parameter; `Documented` lists what
  its documentation says for the states that are reached
  without a local close, which this program never makes.

  Main declarations:
    * `Segment` and `Documented`
    * `TunnelEvent` and `tunnel`
    * `TunnelStep` and `tunnel_cases`
    * `EntryStep` and `Tended`
-/

------------------------------------------------------------
-- Segments
------------------------------------------------------------

namespace SeestarProxy

namespace Wireguard

/- The segments that move a socket to another state. -/
inductive Segment where
| syn
| ack
| fin
| rst
deriving DecidableEq, Repr

/-
  The documented answers: a listening socket becomes the
  connection it accepts, a reset before the handshake is
  done takes it back, and a connection that ended stays
  closed.
-/
structure Documented
    (tcp : Segment → TcpState → TcpState) : Prop where
  listen : ∀ segment, tcp segment .listen =
    match segment with
    | .syn => .synReceived
    | .ack | .fin | .rst => .listen
  synReceived : ∀ segment, tcp segment .synReceived =
    match segment with
    | .syn => .synReceived
    | .ack => .established
    | .fin => .closeWait
    | .rst => .listen
  established : ∀ segment, tcp segment .established =
    match segment with
    | .syn | .ack => .established
    | .fin => .closeWait
    | .rst => .closed
  closeWait : ∀ segment, tcp segment .closeWait =
    match segment with
    | .syn | .ack | .fin => .closeWait
    | .rst => .closed
  closed : ∀ segment, tcp segment .closed = .closed

/- The state after a socket got the segments. -/
def follow
    (tcp : Segment → TcpState → TcpState)
    (state : TcpState) : List Segment → TcpState
| [] => state
| segment :: rest => follow tcp (tcp segment state) rest

namespace Netstack

open Library

------------------------------------------------------------
-- The Tunnel
------------------------------------------------------------

/-
  A poll with the segments and the buffers of each socket,
  or any other step of the netstack.
-/
inductive TunnelEvent where
| poll (device : VirtualDevice)
    (segments : Handle → List Segment)
    (buffers : Handle → Socket) (changed : Bool)
| other (event : Event)

/- A socket after a poll that says whether any changed. -/
def polledSocket
    (tcp : Segment → TcpState → TcpState)
    (segments : List Segment)
    (buffers : Socket)
    (changed : Bool)
    (socket : Socket) : Socket :=
  if changed = true then
    { buffers with state := follow tcp socket.state segments }
  else
    socket

/- No socket gets a segment. -/
def Quiet (segments : Handle → List Segment) : Prop :=
  segments .control = [] ∧ segments .imaging = []

instance (segments : Handle → List Segment) :
    Decidable (Quiet segments) :=
  inferInstanceAs (Decidable (_ ∧ _))

theorem Quiet.eq_nil
    {segments : Handle → List Segment}
    (hQuiet : Quiet segments)
    (handle : Handle) :
    segments handle = [] := by
  cases handle with
  | control => exact hQuiet.1
  | imaging => exact hQuiet.2

/- A poll that is given segments says that sockets changed. -/
def tunnelStep
    (tcp : Segment → TcpState → TcpState)
    (s : State) : TunnelEvent → Option (State × List Obs)
| .poll device segments buffers changed =>
    if changed = true ∨ Quiet segments then
      step s (.stack (.poll device
        (fun handle => polledSocket tcp (segments handle)
          (buffers handle) changed (s.socket handle))
        changed))
    else
      none
| .other (.stack (.poll _ _ _)) => none
| .other event => step s event

/- The netstack over the given TCP. -/
def tunnel
    (tcp : Segment → TcpState → TcpState) :
    Machine State TunnelEvent Obs where
  init := State.init
  step := tunnelStep tcp

variable {tcp : Segment → TcpState → TcpState}
variable {s s' : State} {o : List Obs}

/- A step that is not a poll keeps the state of sockets. -/
def SameStates (s s' : State) : Prop :=
  ∀ handle,
    (s'.socket handle).state = (s.socket handle).state

theorem SameStates.isActive
    (hSame : SameStates s s')
    (handle : Handle) :
    (s'.socket handle).isActive =
      (s.socket handle).isActive := by
  unfold Socket.isActive
  rw [hSame handle]

private theorem sameStates_update
    {handle : Handle}
    {socket : Socket}
    (hSocket : s'.socket =
      Function.update s.socket handle socket)
    (hState : socket.state = (s.socket handle).state) :
    SameStates s s' := by
  intro handle'
  rw [hSocket]
  by_cases hHandle : handle' = handle
  · subst hHandle
    rw [Function.update_self, hState]
  · rw [Function.update_of_ne hHandle]

------------------------------------------------------------
-- The Entries of the Loop
------------------------------------------------------------

/- The listen sockets that the accepting loop has left. -/
def Loop.toAccept : Loop → List Handle
| .accepting rest => rest
| _ => []

/- The sockets that the transferring loop may still visit. -/
def Loop.toVisit : Loop → List Handle
| .accepting _ => [.control, .imaging]
| .transferring rest _ | .receiving _ rest _
| .sending _ rest _ => rest
| _ => []

/- The sockets whose entries the iteration removes. -/
def Loop.toRemove : Loop → List Handle
| .transferring _ toRemove | .receiving _ _ toRemove
| .sending _ _ toRemove => toRemove
| _ => []

/-
  What a step other than a poll does to the map of active
  connections and to what the loop has left.
-/
inductive EntryStep (s s' : State) (o : List Obs) : Prop
| kept
    (hActive : s'.active = s.active)
    (hQuiet : ∀ c handle, Obs.accepted c handle ∉ o)
    (hAccept : s'.loop.toAccept = s.loop.toAccept)
    (hVisit : s'.loop.toVisit = s.loop.toVisit)
    (hRemove : s'.loop.toRemove = s.loop.toRemove)
| entered {handle : Handle} {rest : List Handle}
    (hAt : s.loop = .accepting (handle :: rest))
    (hIs : (s.socket handle).isActive = true)
    (hNew : s.active handle = none)
    (hActive : s'.active = Function.update s.active handle
      (some s.connections))
    (hCount : s'.connections = s.connections + 1)
    (hShown : ∀ c handle', Obs.accepted c handle' ∈ o →
      handle' = handle)
    (hLoop : s'.loop = .accepting rest)
| passed {handle : Handle} {rest : List Handle}
    (hAt : s.loop = .accepting (handle :: rest))
    (hNot : ¬ ((s.socket handle).isActive = true ∧
      s.active handle = none))
    (hActive : s'.active = s.active)
    (hNone : o = [])
    (hLoop : s'.loop = .accepting rest)
| allAccepted
    (hAt : s.loop = .accepting [])
    (hActive : s'.active = s.active)
    (hNone : o = [])
    (hLoop : s'.loop = .transferring s.activeHandles [])
| visited {handle : Handle} {rest toRemove : List Handle}
    (hAt : s.loop = .transferring rest toRemove)
    (hIs : (s.socket handle).isActive = true)
    (hActive : s'.active = s.active)
    (hNone : o = [])
    (hLoop : s'.loop =
      .receiving handle (rest.erase handle) toRemove)
| ended {handle : Handle} {rest toRemove : List Handle}
    (hAt : s.loop = .transferring rest toRemove)
    (hIs : (s.socket handle).isActive = false)
    (hActive : s'.active = s.active)
    (hNone : o = [])
    (hLoop : s'.loop = .transferring (rest.erase handle)
      (toRemove ++ [handle]))
| removed {handle : Handle} {toRemove : List Handle}
    (hAt : s.loop = .transferring [] (handle :: toRemove))
    (hActive : s'.active =
      Function.update s.active handle none)
    (hQuiet : ∀ c handle, Obs.accepted c handle ∉ o)
    (hLoop : s'.loop = .transferring [] toRemove)

/-
  A step other than a poll: sockets keep their states, ids
  are only added, and the entries change as listed.
-/
structure Tends (s s' : State) (o : List Obs) : Prop where
  states : SameStates s s'
  count : s.connections ≤ s'.connections
  entries : EntryStep s s' o

/- A step that leaves the poll loop alone. -/
private theorem Tends.beside
    (hSocket : s'.socket = s.socket)
    (hCount : s'.connections = s.connections)
    (hActive : s'.active = s.active)
    (hLoop : s'.loop = s.loop)
    (hQuiet : ∀ c handle, Obs.accepted c handle ∉ o) :
    Tends s s' o where
  states handle := by rw [hSocket]
  count := Nat.le_of_eq hCount.symm
  entries := .kept hActive hQuiet (by rw [hLoop])
    (by rw [hLoop]) (by rw [hLoop])

theorem StackStep.tends
    {event : StackEvent}
    (hStep : StackStep s event s' o)
    (hOther : ∀ device socket changed,
      event ≠ .poll device socket changed) :
    Tends s s' o := by
  cases hStep with
  | polled hAt => exact absurd rfl (hOther _ _ _)
  | accepted hAt hActive hNew hSend =>
      exact ⟨fun _ => rfl, Nat.le_succ _,
        .entered hAt hActive hNew rfl rfl (by simp) rfl⟩
  | refused hAt hActive hNew hRefused =>
      exact ⟨fun _ => rfl, Nat.le_succ _,
        .entered hAt hActive hNew rfl rfl (by simp) rfl⟩
  | passed hAt hNot =>
      exact ⟨fun _ => rfl, Nat.le_refl _,
        .passed hAt hNot rfl rfl rfl⟩
  | allAccepted hAt =>
      exact ⟨fun _ => rfl, Nat.le_refl _,
        .allAccepted hAt rfl rfl rfl⟩
  | visited hAt hRest hActive =>
      exact ⟨fun _ => rfl, Nat.le_refl _,
        .visited hAt hActive rfl rfl rfl⟩
  | ended hAt hRest hActive =>
      exact ⟨fun _ => rfl, Nat.le_refl _,
        .ended hAt hActive rfl rfl rfl⟩
  | put hAt hActive hData hSend =>
      exact ⟨sameStates_update rfl rfl, Nat.le_refl _,
        .kept rfl (by simp) (by rw [hAt]; rfl)
          (by rw [hAt]; rfl) (by rw [hAt]; rfl)⟩
  | lost hAt hActive hData hRefused =>
      exact ⟨sameStates_update rfl rfl, Nat.le_refl _,
        .kept rfl (by simp) (by rw [hAt]; rfl)
          (by rw [hAt]; rfl) (by rw [hAt]; rfl)⟩
  | handed hAt hActive hRoom hRecv =>
      exact ⟨sameStates_update rfl rfl, Nat.le_refl _,
        .kept rfl (by simp) (by rw [hAt]; rfl)
          (by rw [hAt]; rfl) (by rw [hAt]; rfl)⟩
  | removed hAt hActive =>
      exact ⟨fun _ => rfl, Nat.le_refl _,
        .removed hAt rfl (by simp) rfl⟩
  | notRemoved hAt hActive =>
      exact ⟨fun _ => rfl, Nat.le_refl _,
        .removed hAt
          (by rw [← hActive, Function.update_eq_self])
          (by simp) rfl⟩
  | injected hAt hRecv | ticked hAt
  | noData hAt hActive hData | notHanded hAt hActive hNot
  | allRemoved hAt | allDrained hAt hEmpty =>
      exact ⟨fun _ => rfl, Nat.le_refl _,
        .kept rfl (by simp) (by rw [hAt]; rfl)
          (by rw [hAt]; rfl) (by rw [hAt]; rfl)⟩
  | drained hAt hNext hSend | drainLost hAt hNext hRefused =>
      exact .beside rfl rfl rfl rfl (by simp)

theorem BridgeStep.tends
    {c : ConnId}
    {event : BridgeEvent}
    (hStep : BridgeStep s c event s' o) :
    Tends s s' o := by
  cases hStep with
  | _ => exact .beside rfl rfl rfl rfl (by simp)

------------------------------------------------------------
-- Steps of the Tunnel
------------------------------------------------------------

/- The outcomes of one step of the tunnel. -/
inductive TunnelStep
    (tcp : Segment → TcpState → TcpState)
    (s : State) :
    TunnelEvent → State → List Obs → Prop
| polled {device : VirtualDevice}
    {segments : Handle → List Segment}
    {buffers : Handle → Socket} {changed : Bool}
    (hAt : s.loop = .polling)
    (hSeen : changed = true ∨ Quiet segments) :
    TunnelStep tcp s
      (.poll device segments buffers changed)
      { s with
        device := device
        socket := fun handle =>
          polledSocket tcp (segments handle)
            (buffers handle) changed (s.socket handle)
        loop :=
          if changed = true then
            .accepting [.control, .imaging]
          else
            .draining }
      []
| other {event : Event} {s' : State} {o : List Obs}
    (hTends : Tends s s' o)
    (hStep : NetStep s event s' o) :
    TunnelStep tcp s (.other event) s' o

private theorem NetStep.tends
    {event : Event}
    (hStep : NetStep s event s' o)
    (hOther : ∀ device socket changed,
      event ≠ .stack (.poll device socket changed)) :
    Tends s s' o := by
  cases hStep with
  | stack hTask =>
      exact hTask.tends fun device socket changed hPoll =>
        hOther device socket changed (by rw [hPoll])
  | bridge hTask => exact hTask.tends
  | _ => exact .beside rfl rfl rfl rfl (by simp)

theorem tunnel_cases
    {e : TunnelEvent}
    (hStep : (tunnel tcp).step s e = some (s', o)) :
    TunnelStep tcp s e s' o := by
  change tunnelStep tcp s e = some (s', o) at hStep
  unfold tunnelStep at hStep
  split at hStep
  · rename_i device segments buffers changed
    split at hStep
    · rename_i hSeen
      have hNet : NetStep s
          (.stack (.poll device _ changed)) s' o :=
        net_cases hStep
      cases hNet with
      | stack hTask =>
          cases hTask with
          | polled hAt => exact .polled hAt hSeen
    · cases hStep
  · cases hStep
  · rename_i event hOther
    have hNet : NetStep s event s' o := net_cases hStep
    refine .other (hNet.tends ?_) hNet
    intro device socket changed hPoll
    exact hOther device socket changed hPoll

/- What the poll leaves of a socket that did not change. -/
theorem polledSocket_state
    {segments : Handle → List Segment}
    {changed : Bool}
    (hSeen : changed = true ∨ Quiet segments)
    (buffers : Handle → Socket)
    (handle : Handle)
    (socket : Socket) :
    (polledSocket tcp (segments handle) (buffers handle)
        changed socket).state =
      follow tcp socket.state (segments handle) := by
  unfold polledSocket
  cases changed with
  | true => rfl
  | false =>
      rcases hSeen with hChanged | hQuiet
      · cases hChanged
      · rw [hQuiet.eq_nil handle]
        rfl

------------------------------------------------------------
-- Active Sockets Have Entries
------------------------------------------------------------

/-
  The map of active connections against the sockets: an
  active socket has an entry or the loop has still to accept
  it, and the entry of any other socket is still to be
  removed by this iteration.
-/
structure Tended (s : State) : Prop where
  entered : ∀ handle, (s.socket handle).isActive = true →
    s.active handle ≠ none ∨ handle ∈ s.loop.toAccept
  marked : ∀ handle ∈ s.loop.toRemove,
    (s.socket handle).isActive = false
  seen : ∀ handle, s.active handle ≠ none →
    (s.socket handle).isActive = false →
      handle ∈ s.loop.toVisit ∨ handle ∈ s.loop.toRemove
  known : ∀ handle c, s.active handle = some c →
    c < s.connections

/- The entries of the map are those of the handles. -/
theorem mem_activeHandles_iff
    {handle : Handle} :
    handle ∈ s.activeHandles ↔ s.active handle ≠ none := by
  unfold State.activeHandles
  rw [List.mem_filter, Option.isSome_iff_ne_none]
  cases handle with
  | control => simp
  | imaging => simp

/- The handles of the map after a change at one of them. -/
private theorem active_update_ne
    {handle handle' : Handle}
    {entry : Option ConnId}
    (hActive : s'.active =
      Function.update s.active handle entry)
    (hOther : handle' ≠ handle) :
    s'.active handle' = s.active handle' := by
  rw [hActive, Function.update_of_ne hOther]

private theorem active_update_self
    {handle : Handle}
    {entry : Option ConnId}
    (hActive : s'.active =
      Function.update s.active handle entry) :
    s'.active handle = entry := by
  rw [hActive, Function.update_self]

/- An entry that is not new was there before the step. -/
theorem Tends.active_cases
    (hTends : Tends s s' o)
    {handle : Handle}
    {c : ConnId}
    (hEntry : s'.active handle = some c) :
    s.active handle = some c ∨
      c = s.connections ∧ c < s'.connections := by
  cases hTends.entries with
  | @entered handle' rest hAt hIs hNew hActive hCount hShown
      hLoop =>
      by_cases hHandle : handle = handle'
      · subst hHandle
        rw [active_update_self hActive] at hEntry
        have hFresh : s.connections = c :=
          Option.some.inj hEntry
        rw [← hFresh, hCount]
        exact Or.inr ⟨rfl, Nat.lt_succ_self _⟩
      · rw [active_update_ne hActive hHandle] at hEntry
        exact Or.inl hEntry
  | @removed handle' toRemove hAt hActive hQuiet hLoop =>
      by_cases hHandle : handle = handle'
      · subst hHandle
        rw [active_update_self hActive] at hEntry
        cases hEntry
      · rw [active_update_ne hActive hHandle] at hEntry
        exact Or.inl hEntry
  | kept hActive | passed hAt hNot hActive
  | allAccepted hAt hActive | visited hAt hIs hActive
  | ended hAt hIs hActive =>
      exact Or.inl (hActive ▸ hEntry)

/-
  An entry stays unless its handle is the next one to
  remove.
-/
theorem Tends.keeps_entry
    (hTends : Tends s s' o)
    {handle : Handle}
    (hEntry : s.active handle ≠ none) :
    s'.active handle = s.active handle ∨
      s'.active handle = none ∧
        handle ∈ s.loop.toRemove := by
  cases hTends.entries with
  | @entered handle' rest hAt hIs hNew hActive hCount hShown
      hLoop =>
      have hHandle : handle ≠ handle' := by
        rintro rfl
        exact hEntry hNew
      exact Or.inl (active_update_ne hActive hHandle)
  | @removed handle' toRemove hAt hActive hQuiet hLoop =>
      by_cases hHandle : handle = handle'
      · subst hHandle
        refine Or.inr ⟨active_update_self hActive, ?_⟩
        rw [hAt]
        exact List.mem_cons_self
      · exact Or.inl (active_update_ne hActive hHandle)
  | kept hActive | passed hAt hNot hActive
  | allAccepted hAt hActive | visited hAt hIs hActive
  | ended hAt hIs hActive =>
      exact Or.inl (congrFun hActive handle)

private theorem entered_of_tends
    (hTended : Tended s)
    (hTends : Tends s s' o)
    {handle : Handle}
    (hOn : (s'.socket handle).isActive = true) :
    s'.active handle ≠ none ∨
      handle ∈ s'.loop.toAccept := by
  rw [hTends.states.isActive handle] at hOn
  have hBefore := hTended.entered handle hOn
  -- The entry of an active socket is not removed.
  have hKept (hEntry : s.active handle ≠ none) :
      s'.active handle ≠ none := by
    rcases hTends.keeps_entry hEntry with hSame | ⟨_, hMem⟩
    · rwa [hSame]
    · rw [hTended.marked handle hMem] at hOn
      cases hOn
  rcases hBefore with hEntry | hMem
  · exact Or.inl (hKept hEntry)
  · cases hTends.entries with
    | kept hActive hQuiet hAccept =>
        exact Or.inr (hAccept ▸ hMem)
    | @entered handle' rest hAt hIs hNew hActive hCount
        hShown hLoop =>
        rw [hAt] at hMem
        rcases List.mem_cons.mp hMem with rfl | hRest
        · rw [active_update_self hActive]
          exact Or.inl nofun
        · rw [hLoop]
          exact Or.inr hRest
    | @passed handle' rest hAt hNot hActive hNone hLoop =>
        rw [hAt] at hMem
        rcases List.mem_cons.mp hMem with rfl | hRest
        · exact Or.inl (hKept fun hNew => hNot ⟨hOn, hNew⟩)
        · rw [hLoop]
          exact Or.inr hRest
    | allAccepted hAt | visited hAt | ended hAt
    | removed hAt =>
        rw [hAt] at hMem
        cases hMem

private theorem marked_of_tends
    (hTended : Tended s)
    (hTends : Tends s s' o)
    {handle : Handle}
    (hMem : handle ∈ s'.loop.toRemove) :
    (s'.socket handle).isActive = false := by
  rw [hTends.states.isActive handle]
  cases hTends.entries with
  | kept hActive hQuiet hAccept hVisit hRemove =>
      exact hTended.marked handle (hRemove ▸ hMem)
  | entered hAt hIs hNew hActive hCount hShown hLoop
  | passed hAt hNot hActive hNone hLoop
  | allAccepted hAt hActive hNone hLoop =>
      rw [hLoop] at hMem
      cases hMem
  | visited hAt hIs hActive hNone hLoop =>
      rw [hLoop] at hMem
      exact hTended.marked handle (by rw [hAt]; exact hMem)
  | ended hAt hIs hActive hNone hLoop =>
      rw [hLoop] at hMem
      rcases List.mem_append.mp hMem with hOld | hNew
      · exact hTended.marked handle (by rw [hAt]; exact hOld)
      · rw [List.mem_singleton.mp hNew]
        exact hIs
  | removed hAt hActive hQuiet hLoop =>
      rw [hLoop] at hMem
      refine hTended.marked handle ?_
      rw [hAt]
      exact List.mem_cons_of_mem _ hMem

private theorem seen_of_tends
    (hTended : Tended s)
    (hTends : Tends s s' o)
    {handle : Handle}
    (hEntry : s'.active handle ≠ none)
    (hOff : (s'.socket handle).isActive = false) :
    handle ∈ s'.loop.toVisit ∨
      handle ∈ s'.loop.toRemove := by
  rw [hTends.states.isActive handle] at hOff
  have hBoth : ∀ handle : Handle,
      handle ∈ [Handle.control, Handle.imaging] := by
    intro handle
    cases handle with
    | control => simp
    | imaging => simp
  cases hTends.entries with
  | kept hActive hQuiet hAccept hVisit hRemove =>
      rw [hVisit, hRemove]
      exact hTended.seen handle (hActive ▸ hEntry) hOff
  | entered hAt hIs hNew hActive hCount hShown hLoop
  | passed hAt hNot hActive hNone hLoop =>
      rw [hLoop]
      exact Or.inl (hBoth handle)
  | allAccepted hAt hActive hNone hLoop =>
      rw [hLoop]
      rw [hActive] at hEntry
      exact Or.inl (mem_activeHandles_iff.mpr hEntry)
  | @visited handle' rest toRemove hAt hIs hActive hNone
      hLoop =>
      have hOther : handle ≠ handle' := by
        rintro rfl
        rw [hIs] at hOff
        cases hOff
      have hBefore := hTended.seen handle
        (hActive ▸ hEntry) hOff
      rw [hAt] at hBefore
      rw [hLoop]
      exact hBefore.imp_left
        (List.mem_erase_of_ne hOther).mpr
  | @ended handle' rest toRemove hAt hIs hActive hNone
      hLoop =>
      have hBefore := hTended.seen handle
        (hActive ▸ hEntry) hOff
      rw [hAt] at hBefore
      rw [hLoop]
      by_cases hHandle : handle = handle'
      · subst hHandle
        exact Or.inr (List.mem_append_right _
          List.mem_cons_self)
      · rcases hBefore with hRest | hMarked
        · exact Or.inl
            ((List.mem_erase_of_ne hHandle).mpr hRest)
        · exact Or.inr (List.mem_append_left _ hMarked)
  | @removed handle' toRemove hAt hActive hQuiet hLoop =>
      have hOther : handle ≠ handle' := by
        rintro rfl
        exact hEntry (active_update_self hActive)
      rw [active_update_ne hActive hOther] at hEntry
      have hBefore := hTended.seen handle hEntry hOff
      rw [hAt] at hBefore
      rw [hLoop]
      refine hBefore.imp_right ?_
      intro hMem
      exact (List.mem_cons.mp hMem).resolve_left hOther

private theorem Tended.of_tends
    (hTended : Tended s)
    (hTends : Tends s s' o) :
    Tended s' where
  entered _ hOn := entered_of_tends hTended hTends hOn
  marked _ hMem := marked_of_tends hTended hTends hMem
  seen _ hEntry hOff :=
    seen_of_tends hTended hTends hEntry hOff
  known _ c hEntry := by
    rcases hTends.active_cases hEntry with hOld | hNew
    · exact Nat.lt_of_lt_of_le (hTended.known _ c hOld)
        hTends.count
    · exact hNew.2

/- A poll that changes sockets has all of them looked at. -/
private theorem Tended.of_polled
    {device : VirtualDevice}
    {segments : Handle → List Segment}
    {buffers : Handle → Socket}
    {changed : Bool}
    (hAt : s.loop = .polling)
    (hTended : Tended s) :
    Tended
      { s with
        device := device
        socket := fun handle =>
          polledSocket tcp (segments handle)
            (buffers handle) changed (s.socket handle)
        loop :=
          if changed = true then
            .accepting [.control, .imaging]
          else
            .draining } := by
  cases changed with
  | true =>
      refine ⟨?_, ?_, ?_, hTended.known⟩
      · intro handle hOn
        cases handle with
        | control => exact Or.inr (by simp [Loop.toAccept])
        | imaging => exact Or.inr (by simp [Loop.toAccept])
      · intro handle hMem
        cases hMem
      · intro handle hEntry hOff
        cases handle with
        | control => exact Or.inl (by simp [Loop.toVisit])
        | imaging => exact Or.inl (by simp [Loop.toVisit])
  | false =>
      refine ⟨?_, ?_, ?_, hTended.known⟩
      · intro handle hOn
        have hBefore := hTended.entered handle hOn
        rwa [hAt] at hBefore
      · intro handle hMem
        cases hMem
      · intro handle hEntry hOff
        have hBefore := hTended.seen handle hEntry hOff
        rwa [hAt] at hBefore

theorem Tended.step
    {e : TunnelEvent}
    (hTended : Tended s)
    (hStep : TunnelStep tcp s e s' o) :
    Tended s' := by
  cases hStep with
  | polled hAt hSeen => exact hTended.of_polled hAt
  | other hTends hNet => exact hTended.of_tends hTends

theorem tended_of_run
    {es : List TunnelEvent}
    {h : List Obs}
    (hRun : (tunnel tcp).Run es h s) :
    Tended s := by
  refine Machine.run_invariant
    (motive := fun _ s => Tended s) ?_ ?_ hRun
  · refine ⟨?_, ?_, ?_, ?_⟩
    · intro handle hOn
      cases hOn
    · intro handle hMem
      cases hMem
    · intro handle hEntry
      exact absurd rfl hEntry
    · intro handle c hEntry
      cases hEntry
  · intro h s e s' o hTended hNext
    exact hTended.step (tunnel_cases hNext)

/-
  Between two iterations an entry is exactly the sign of an
  active socket.
-/
theorem Tended.entry_iff
    (hTended : Tended s)
    (hAt : s.loop = .selecting)
    (handle : Handle) :
    s.active handle ≠ none ↔
      (s.socket handle).isActive = true := by
  constructor
  · intro hEntry
    by_contra hOff
    have hLeft := hTended.seen handle hEntry
      (by simpa using hOff)
    rw [hAt] at hLeft
    rcases hLeft with hMem | hMem
    · cases hMem
    · cases hMem
  · intro hOn
    have hLeft := hTended.entered handle hOn
    rw [hAt] at hLeft
    exact hLeft.resolve_right (by simp [Loop.toAccept])

end Netstack

end Wireguard

end SeestarProxy
