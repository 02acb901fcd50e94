import SeestarProxy.Wireguard.Tcp

/-
  The tunnel ports and their one socket each.

  A listen socket becomes the connection it accepts, and the
  loop neither closes it nor listens again. Both ports are
  open at the end of a run exactly when no client has ended
  a connection in it. A listening port accepts the next
  client; a port whose connection ended accepts no later
  one, whatever follows.

  Main declarations:
    * `isOpen`, `isEnded` and `endsAmong`
    * `PortsOpen` and `NoneEnds`
    * `PortsOutcome` and `ports_open_iff`
    * `port_never_reopens`
-/

------------------------------------------------------------
-- Connections That End
------------------------------------------------------------

namespace SeestarProxy

namespace Wireguard

/- Listening, or connected and open on both sides. -/
def TcpState.isOpen : TcpState → Bool
| .listen | .synReceived | .established => true
| _ => false

/- A client has ended the connection. -/
def TcpState.isEnded : TcpState → Bool
| .closeWait | .closed => true
| _ => false

/- The segment ends the connection of the socket. -/
def Segment.ends : Segment → TcpState → Bool
| .fin, .synReceived | .fin, .established
| .rst, .established => true
| _, _ => false

/- Some of the segments ends the connection. -/
def endsAmong
    (tcp : Segment → TcpState → TcpState) :
    TcpState → List Segment → Bool
| _, [] => false
| state, segment :: rest =>
    segment.ends state || endsAmong tcp (tcp segment state) rest

section Answers

variable {tcp : Segment → TcpState → TcpState}

/- An open socket stays open unless the segment ends it. -/
private theorem isOpen_tcp
    (hTcp : Documented tcp)
    {state : TcpState}
    (hOpen : state.isOpen = true)
    (segment : Segment) :
    (tcp segment state).isOpen = !segment.ends state ∧
      (tcp segment state).isEnded = segment.ends state := by
  cases state with
  | listen =>
      rw [hTcp.listen]
      cases segment <;> exact ⟨rfl, rfl⟩
  | synReceived =>
      rw [hTcp.synReceived]
      cases segment <;> exact ⟨rfl, rfl⟩
  | established =>
      rw [hTcp.established]
      cases segment <;> exact ⟨rfl, rfl⟩
  | _ => cases hOpen

/- What has ended does not open or become active again. -/
private theorem isEnded_tcp
    (hTcp : Documented tcp)
    {state : TcpState}
    (hEnded : state.isEnded = true)
    (segment : Segment) :
    (tcp segment state).isEnded = true ∧
      (tcp segment state = .closeWait →
        state = .closeWait) := by
  cases state with
  | closeWait =>
      rw [hTcp.closeWait]
      cases segment <;> exact ⟨rfl, fun _ => rfl⟩
  | closed =>
      rw [hTcp.closed]
      exact ⟨rfl, nofun⟩
  | _ => cases hEnded

theorem isEnded_follow
    (hTcp : Documented tcp)
    {segments : List Segment} :
    ∀ {state : TcpState}, state.isEnded = true →
      (follow tcp state segments).isEnded = true ∧
        (follow tcp state segments = .closeWait →
          state = .closeWait) := by
  induction segments with
  | nil =>
      intro state hEnded
      exact ⟨hEnded, fun hSame => hSame⟩
  | cons segment rest ih =>
      intro state hEnded
      rcases isEnded_tcp hTcp hEnded segment with
        ⟨hNext, hBack⟩
      rcases ih hNext with ⟨hLast, hRest⟩
      exact ⟨hLast, fun hWait => hBack (hRest hWait)⟩

/-
  Segments leave an open socket open or end it, and they end
  it exactly when one of them does.
-/
theorem isOpen_follow
    (hTcp : Documented tcp)
    {segments : List Segment} :
    ∀ {state : TcpState}, state.isOpen = true →
      (follow tcp state segments).isOpen =
          !endsAmong tcp state segments ∧
        (follow tcp state segments).isEnded =
          endsAmong tcp state segments := by
  induction segments with
  | nil =>
      intro state hOpen
      refine ⟨hOpen, ?_⟩
      cases state with
      | listen | synReceived | established => rfl
      | _ => cases hOpen
  | cons segment rest ih =>
      intro state hOpen
      rcases isOpen_tcp hTcp hOpen segment with
        ⟨hNext, hEnds⟩
      unfold follow endsAmong
      cases hIs : segment.ends state with
      | false =>
          rw [hIs] at hNext
          rw [Bool.false_or]
          exact ih hNext
      | true =>
          rw [hIs] at hEnds
          have hLast : (follow tcp (tcp segment state)
              rest).isEnded = true :=
            (isEnded_follow hTcp hEnds).1
          rw [Bool.true_or]
          refine ⟨?_, hLast⟩
          revert hLast
          cases follow tcp (tcp segment state) rest with
          | closeWait | closed => exact fun _ => rfl
          | _ => exact fun hLast => by cases hLast

end Answers

namespace Netstack

open Library

variable {tcp : Segment → TcpState → TcpState}
variable {s s' : State} {h o : List Obs}

------------------------------------------------------------
-- Both Ports Stay Open
------------------------------------------------------------

/-
  Each port has a listening socket or one whose connection
  is open on both sides.
-/
def PortsOpen (s : State) : Prop :=
  ∀ handle, (s.socket handle).state.isOpen = true

/- No client ends a connection in this step. -/
def NoneEnds
    (tcp : Segment → TcpState → TcpState)
    (s : State) : TunnelEvent → Prop
| .poll _ segments _ _ =>
    ∀ handle, endsAmong tcp (s.socket handle).state
      (segments handle) = false
| .other _ => True

/- Every socket is open or its connection has ended. -/
def Reached (s : State) : Prop :=
  ∀ handle, (s.socket handle).state.isOpen = true ∨
    (s.socket handle).state.isEnded = true

private theorem not_isOpen_of_isEnded
    {state : TcpState}
    (hEnded : state.isEnded = true) :
    state.isOpen = false := by
  cases state with
  | closeWait | closed => rfl
  | _ => cases hEnded

theorem Reached.step
    {e : TunnelEvent}
    (hTcp : Documented tcp)
    (hReached : Reached s)
    (hStep : TunnelStep tcp s e s' o) :
    Reached s' := by
  intro handle
  cases hStep with
  | @polled device segments buffers changed hAt hSeen =>
      simp only [polledSocket_state hSeen]
      rcases hReached handle with hOpen | hEnded
      · rcases isOpen_follow hTcp hOpen with ⟨hIs, hEnds⟩
        rw [hIs, hEnds]
        cases endsAmong tcp _ (segments handle) with
        | false => exact Or.inl rfl
        | true => exact Or.inr rfl
      · exact Or.inr (isEnded_follow hTcp hEnded).1
  | other hTends hNet =>
      rw [hTends.states handle]
      exact hReached handle

/- One step: open ports stay open when no client ends. -/
private theorem portsOpen_step
    {e : TunnelEvent}
    (hTcp : Documented tcp)
    (hReached : Reached s)
    (hStep : TunnelStep tcp s e s' o) :
    PortsOpen s' ↔ PortsOpen s ∧ NoneEnds tcp s e := by
  cases hStep with
  | @polled device segments buffers changed hAt hSeen =>
      unfold PortsOpen NoneEnds
      simp only [polledSocket_state hSeen]
      rw [← forall_and]
      refine forall_congr' ?_
      intro handle
      rcases hReached handle with hOpen | hEnded
      · rw [(isOpen_follow hTcp hOpen).1, Bool.not_eq_true']
        exact (and_iff_right hOpen).symm
      · have hLast : (follow tcp (s.socket handle).state
            (segments handle)).isEnded = true :=
          (isEnded_follow hTcp hEnded).1
        rw [not_isOpen_of_isEnded hLast,
          not_isOpen_of_isEnded hEnded]
        exact iff_of_false nofun fun hBoth => by
          cases hBoth.1
  | other hTends hNet =>
      unfold PortsOpen NoneEnds
      simp only [hTends.states _, and_true]

/- Both ports are open at the end, or a client ended. -/
private theorem portsOpen_of_run
    {es : List TunnelEvent}
    (hTcp : Documented tcp)
    (hRun : (tunnel tcp).Run es h s) :
    Reached s ∧
      (PortsOpen s ↔
        (tunnel tcp).Meets (NoneEnds tcp)
          (tunnel tcp).init es) := by
  refine Machine.run_induction
    (motive := fun es _ s => Reached s ∧
      (PortsOpen s ↔
        (tunnel tcp).Meets (NoneEnds tcp)
          (tunnel tcp).init es)) ?_ ?_ hRun
  · exact ⟨fun _ => Or.inl rfl,
      iff_of_true (fun _ => rfl) trivial⟩
  · intro es h s e s' o hBefore ih hNext
    have hStep := tunnel_cases hNext
    refine ⟨ih.1.step hTcp hStep, ?_⟩
    rw [portsOpen_step hTcp ih.1 hStep,
      Machine.meets_snoc_iff hBefore, ih.2]

------------------------------------------------------------
-- A Listening Port Accepts
------------------------------------------------------------

/- The segments of one socket. -/
def onlyTo
    (handle : Handle)
    (segments : List Segment) :
    Handle → List Segment :=
  Function.update (fun _ => []) handle segments

/-
  The first steps of an iteration in which a client connects
  to the port of the handle.
-/
def connect
    (device : VirtualDevice)
    (buffers : Handle → Socket)
    (handle : Handle) : List TunnelEvent :=
  [.other (.stack .tick),
    .poll device (onlyTo handle [.syn]) buffers true,
    .other (.stack .accept), .other (.stack .accept)]

/- One pass of the accepting loop. -/
private theorem runStack_accept
    {handle : Handle}
    {rest : List Handle}
    (hAt : s.loop = .accepting (handle :: rest)) :
    ∃ s' o, runStack s .accept = some (s', o) ∧
      s'.loop = .accepting rest ∧
      s'.socket = s.socket ∧
      (∀ handle', handle' ≠ handle →
        s'.active handle' = s.active handle') ∧
      ((s.socket handle).isActive = true →
        s.active handle = none →
          .accepted s.connections handle ∈ o) := by
  by_cases hBoth : (s.socket handle).isActive = true ∧
      s.active handle = none
  · refine ⟨{ (acceptConnection s handle).1 with
        loop := .accepting rest },
      (acceptConnection s handle).2, ?_, rfl, ?_⟩
    · simp only [runStack, hAt, hBoth.1, hBoth.2, and_self,
        if_true]
    · unfold acceptConnection
      simp only [State.setConnection]
      cases s.connTx.trySend s.connections with
      | _ =>
          refine ⟨rfl, ?_, ?_⟩
          · intro handle' hOther
            exact Function.update_of_ne hOther _ _
          · intro _ _
            exact List.mem_cons_self
  · refine ⟨{ s with loop := .accepting rest }, [], ?_, rfl,
      rfl, fun _ _ => rfl, ?_⟩
    · simp only [runStack, hAt, hBoth, if_false]
    · intro hIs hNew
      exact absurd ⟨hIs, hNew⟩ hBoth

/- The client that connects to a listening port is taken. -/
theorem listening_accepts
    (hTcp : Documented tcp)
    (hTended : Tended s)
    (hAt : s.loop = .selecting)
    {handle : Handle}
    (hListen : (s.socket handle).state = .listen)
    (device : VirtualDevice)
    (buffers : Handle → Socket) :
    ∃ s' o c,
      (tunnel tcp).exec s (connect device buffers handle) =
          some (s', o) ∧
        Obs.accepted c handle ∈ o := by
  -- The state after the poll, with both handles to accept.
  let polled : State :=
    { s with
      device := device
      socket := fun handle' =>
        polledSocket tcp (onlyTo handle [.syn] handle')
          (buffers handle') true (s.socket handle')
      loop := .accepting [.control, .imaging] }
  have hFree : s.active handle = none := by
    by_contra hEntry
    have hOn := (hTended.entry_iff hAt handle).mp hEntry
    simp [Socket.isActive, hListen] at hOn
  have hIs : (polled.socket handle).isActive = true := by
    simp [polled, polledSocket, onlyTo, follow, hListen,
      hTcp.listen, Socket.isActive]
  have hFirst : polled.loop =
      .accepting [.control, .imaging] := rfl
  rcases runStack_accept hFirst with
    ⟨s₁, o₁, hStep₁, hLoop₁, hSocket₁, hOther₁, hTaken₁⟩
  rcases runStack_accept hLoop₁ with
    ⟨s₂, o₂, hStep₂, -, -, -, hTaken₂⟩
  have hExec : (tunnel tcp).exec s
      (connect device buffers handle) =
        some (s₂, o₁ ++ o₂) := by
    have hTick : (tunnel tcp).step s
        (.other (.stack .tick)) =
          some ({ s with loop := .polling }, []) := by
      simp only [tunnel, tunnelStep, step, runStack, hAt]
    have hPoll : (tunnel tcp).step { s with loop := .polling }
        (.poll device (onlyTo handle [.syn]) buffers true) =
          some (polled, []) := by
      simp only [tunnel, tunnelStep, step, runStack, true_or,
        if_true]
      rfl
    have hAccept₁ : (tunnel tcp).step polled
        (.other (.stack .accept)) = some (s₁, o₁) := hStep₁
    have hAccept₂ : (tunnel tcp).step s₁
        (.other (.stack .accept)) = some (s₂, o₂) := hStep₂
    simp only [connect, Machine.exec, hTick, hPoll, hAccept₁,
      hAccept₂, List.nil_append, List.append_nil]
  cases handle with
  | control =>
      exact ⟨s₂, o₁ ++ o₂, polled.connections, hExec,
        List.mem_append_left _ (hTaken₁ hIs hFree)⟩
  | imaging =>
      refine ⟨s₂, o₁ ++ o₂, s₁.connections, hExec,
        List.mem_append_right _ (hTaken₂ ?_ ?_)⟩
      · rw [hSocket₁]
        exact hIs
      · rw [hOther₁ .imaging (by decide)]
        exact hFree

------------------------------------------------------------
-- A Port That Ended Accepts No More
------------------------------------------------------------

/-
  The connection of the socket has ended, and while the
  socket counts as active it keeps its entry.
-/
structure Spent (handle : Handle) (s : State) : Prop where
  tended : Tended s
  ended : (s.socket handle).state.isEnded = true
  held : (s.socket handle).isActive = true →
    s.active handle ≠ none

/- A spent socket that is active waits for a local close. -/
theorem isActive_iff_closeWait
    {socket : Socket}
    (hEnded : socket.state.isEnded = true) :
    socket.isActive = true ↔ socket.state = .closeWait := by
  unfold Socket.isActive
  revert hEnded
  cases socket.state with
  | closeWait => exact fun _ => iff_of_true rfl rfl
  | closed => exact fun _ => iff_of_false nofun nofun
  | _ => exact fun hEnded => by cases hEnded

private theorem spent_step
    {handle : Handle}
    {e : TunnelEvent}
    (hTcp : Documented tcp)
    (hSpent : Spent handle s)
    (hStep : TunnelStep tcp s e s' o) :
    Spent handle s' ∧
      ∀ x ∈ o, ∀ c, x ≠ .accepted c handle := by
  have hTended := hSpent.tended.step hStep
  cases hStep with
  | @polled device segments buffers changed hAt hSeen =>
      have hState :
          (polledSocket tcp (segments handle)
              (buffers handle) changed
              (s.socket handle)).state =
            follow tcp (s.socket handle).state
              (segments handle) :=
        polledSocket_state hSeen buffers handle
          (s.socket handle)
      have hFollow :
          (follow tcp (s.socket handle).state
              (segments handle)).isEnded = true ∧
            (follow tcp (s.socket handle).state
                (segments handle) = .closeWait →
              (s.socket handle).state = .closeWait) :=
        isEnded_follow hTcp hSpent.ended
      rcases hFollow with ⟨hLast, hBack⟩
      have hEnded : (polledSocket tcp (segments handle)
          (buffers handle) changed
          (s.socket handle)).state.isEnded = true := by
        rw [hState]
        exact hLast
      refine ⟨⟨hTended, hEnded, ?_⟩, nofun⟩
      intro hOn
      refine hSpent.held
        ((isActive_iff_closeWait hSpent.ended).mpr (hBack ?_))
      rw [← hState]
      exact (isActive_iff_closeWait hEnded).mp hOn
  | other hTends hNet =>
      have hIs := hTends.states.isActive handle
      refine ⟨⟨hTended, ?_, ?_⟩, ?_⟩
      · rw [hTends.states handle]
        exact hSpent.ended
      · intro hOn
        rw [hIs] at hOn
        rcases hTends.keeps_entry (hSpent.held hOn) with
          hSame | ⟨_, hMem⟩
        · rw [hSame]
          exact hSpent.held hOn
        · rw [hSpent.tended.marked handle hMem] at hOn
          cases hOn
      · rintro x hMem c rfl
        cases hTends.entries with
        | kept hActive hQuiet => exact hQuiet c handle hMem
        | entered hAt hOn hNew hActive hCount hShown =>
            have hHandle := hShown c handle hMem
            subst hHandle
            exact hSpent.held hOn hNew
        | passed hAt hNot hActive hNone
        | allAccepted hAt hActive hNone
        | visited hAt hOn hActive hNone
        | ended hAt hOff hActive hNone =>
            rw [hNone] at hMem
            cases hMem
        | removed hAt hActive hQuiet =>
            exact hQuiet c handle hMem

/- Nothing that follows makes the port accept again. -/
theorem ended_refuses
    (hTcp : Documented tcp)
    (hTended : Tended s)
    (hAt : s.loop = .selecting)
    {handle : Handle}
    (hEnded : (s.socket handle).state.isEnded = true)
    {es : List TunnelEvent}
    (hExec : (tunnel tcp).exec s es = some (s', o)) :
    ∀ c, Obs.accepted c handle ∉ o := by
  have hSpent : Spent handle s :=
    ⟨hTended, hEnded, (hTended.entry_iff hAt handle).mpr⟩
  have hShown : ∀ x ∈ o, ∀ c, x ≠ .accepted c handle :=
    (Machine.exec_keeps
      (fun _ _ _ _ (hKept : Spent handle _) hNext =>
        spent_step hTcp hKept (tunnel_cases hNext))
      hSpent hExec).2
  intro c hMem
  exact hShown _ hMem c rfl

------------------------------------------------------------
-- The Tunnel Ports
------------------------------------------------------------

/-
  What a run says about the two ports: both are open exactly
  when no client has ended a connection. Between iterations
  a listening port accepts the next client, and a port that
  is not open accepts none from then on.
-/
structure PortsOutcome
    (tcp : Segment → TcpState → TcpState)
    (es : List TunnelEvent)
    (s : State) : Prop where
  open_iff : PortsOpen s ↔
    (tunnel tcp).Meets (NoneEnds tcp) (tunnel tcp).init es
  accepts : s.loop = .selecting → ∀ handle,
    (s.socket handle).state = .listen →
      ∀ device buffers, ∃ s' o c,
        (tunnel tcp).exec s (connect device buffers handle) =
            some (s', o) ∧
          Obs.accepted c handle ∈ o
  refuses : s.loop = .selecting → ∀ handle,
    (s.socket handle).state.isOpen = false →
      ∀ es' s' o, (tunnel tcp).exec s es' = some (s', o) →
        ∀ c, Obs.accepted c handle ∉ o

theorem ports_open_iff
    {es : List TunnelEvent}
    (hTcp : Documented tcp)
    (hRun : (tunnel tcp).Run es h s) :
    PortsOutcome tcp es s := by
  rcases portsOpen_of_run hTcp hRun with
    ⟨hReached, hIff⟩
  have hTended := tended_of_run hRun
  refine ⟨hIff, ?_, ?_⟩
  · intro hAt handle hListen device buffers
    exact listening_accepts hTcp hTended hAt hListen device
      buffers
  · intro hAt handle hShut es' s' o hExec
    have hEnded := (hReached handle).resolve_left
      (by rw [hShut]; exact nofun)
    exact ended_refuses hTcp hTended hAt hEnded hExec

/- The documented answers for every state. -/
def smoltcp : Segment → TcpState → TcpState
| .syn, .listen | .syn, .synSent => .synReceived
| .ack, .synReceived => .established
| .fin, .synReceived | .fin, .established => .closeWait
| .rst, .synReceived | .rst, .listen => .listen
| .fin, .finWait1 => .closing
| .fin, .finWait2 => .timeWait
| .ack, .finWait1 => .finWait2
| .ack, .closing => .timeWait
| .ack, .lastAck => .closed
| .rst, _ => .closed
| _, state => state

theorem documented_smoltcp : Documented smoltcp where
  listen segment := by cases segment <;> rfl
  synReceived segment := by cases segment <;> rfl
  established segment := by cases segment <;> rfl
  closeWait segment := by cases segment <;> rfl
  closed segment := by cases segment <;> rfl

/- An iteration that hands the control socket segments. -/
def controlIteration
    (segments : List Segment)
    (rest : List Event) : List TunnelEvent :=
  [.other (.stack .tick),
    .poll ⟨[], []⟩ (onlyTo .control segments)
      (fun _ => Socket.listening) true,
    .other (.stack .accept), .other (.stack .accept),
    .other (.stack .accept)] ++
    (rest ++ [Event.stack .remove, Event.stack .drain]).map
      TunnelEvent.other

/- The visit of an active control socket. -/
def visitControl : List Event :=
  [.stack (.visit .control), .stack .receive, .stack .send]

/- A client connects to the control port. -/
def clientConnects : List TunnelEvent :=
  controlIteration [.syn, .ack] visitControl

theorem ports_open_iff_clientConnects :
    PortsOutcome smoltcp clientConnects
      ((tunnel smoltcp).outcome clientConnects).1 :=
  ports_open_iff documented_smoltcp
    (Machine.run_outcome (by decide +kernel))

/- The client closes its connection, and resets it later. -/
def clientCloses : List TunnelEvent :=
  controlIteration [.fin] visitControl ++
    controlIteration [.rst]
      [.stack (.visit .control), .stack .remove]

/- A later client sends its SYN to the control port. -/
def laterClient : List TunnelEvent :=
  controlIteration [.syn, .ack] []

/-
  After the first connection the port is closed, and the
  client that connects later is not accepted.
-/
theorem port_never_reopens :
    ∃ h s h' s',
      (tunnel smoltcp).Run (clientConnects ++ clientCloses)
          h s ∧
        s.loop = .selecting ∧ ¬ PortsOpen s ∧
        (tunnel smoltcp).Run
            (clientConnects ++ clientCloses ++ laterClient)
            h' s' ∧
          h' = [.accepted 0 .control, .removed 0] ∧
          (s'.socket .control).state = .closed :=
  ⟨_, _, _, _, Machine.run_outcome (by decide +kernel),
    by decide +kernel,
    fun hOpen => absurd (hOpen .control) (by decide +kernel),
    Machine.run_outcome (by decide +kernel),
    by decide +kernel, by decide +kernel⟩

end Netstack

end Wireguard

end SeestarProxy
