import SeestarProxy.Library.Annotate
import SeestarProxy.Wireguard.Ports

/-
  Closing a tunnel connection from either side.

  `watch` runs the tunnel and records at each poll what is
  then due: the entry of a connection whose client has sent
  FIN and all its bytes, and the socket of a connection
  whose local side has ended. Neither is ever done by the
  loop itself. What is due is met at the end of every
  iteration exactly when the client takes the connection
  down in the same poll.

  Main declarations:
    * `finished`, `Bridge.localEnded` and `locallyOpen`
    * `Watched` and `watch`
    * `Propagates` and `Answered`
    * `CloseOutcome` and `close_propagates_iff`
    * `close_not_propagated`
-/

------------------------------------------------------------
-- What Is Due
------------------------------------------------------------

namespace SeestarProxy

namespace Wireguard

/- A connection that this side has not closed. -/
def TcpState.locallyOpen : TcpState → Bool
| .synReceived | .established | .closeWait => true
| _ => false

namespace Netstack

open Library

/- The client sent FIN and every byte has been read. -/
def finished (socket : Socket) : Bool :=
  decide (socket.state = .closeWait) && socket.rx.isEmpty

/-
  The local side has ended: its stream did not fit the
  connection channel, the local connect failed, or the
  local proxy closed its side.
-/
def Bridge.localEnded : Bridge → Bool
| .dropped | .failed | .piping _ .ended => true
| _ => false

/- The connection whose entry an iteration has to drop. -/
def seenFin
    (s : State)
    (changed : Bool)
    (handle : Handle) : Option ConnId :=
  if changed = true ∧ finished (s.socket handle) = true then
    s.active handle
  else
    none

/- The connection whose socket an iteration has to close. -/
def seenLocal
    (s : State)
    (handle : Handle) : Option ConnId :=
  (s.active handle).filter fun c =>
    (s.connection c).bridge.localEnded &&
      (s.socket handle).state.locallyOpen

/- The netstack and what its last poll found due. -/
structure Watched where
  state : State
  finDue : Handle → Option ConnId
  localDue : Handle → Option ConnId

/- What is due after an event. -/
def Watched.next
    (w : Watched)
    (s' : State) : TunnelEvent → Watched
| .poll _ _ _ changed =>
    ⟨s', seenFin w.state changed, seenLocal w.state⟩
| .other _ => { w with state := s' }

/- The tunnel with a record of what is due. -/
def watch
    (tcp : Segment → TcpState → TcpState) :
    Machine Watched TunnelEvent Obs :=
  (tunnel tcp).annotate
    ⟨State.init, fun _ => none, fun _ => none⟩
    Watched.state (fun w e s' _ => w.next s' e)

variable {tcp : Segment → TcpState → TcpState}
variable {w w' : Watched} {s : State} {h o : List Obs}

@[simp] theorem Watched.next_state
    (w : Watched)
    (s' : State)
    (e : TunnelEvent) :
    (w.next s' e).state = s' := by
  cases e with
  | poll device segments buffers changed => rfl
  | other event => rfl

/- The record is kept beside every run of the tunnel. -/
theorem run_watch_iff
    {es : List TunnelEvent} :
    (tunnel tcp).Run es h s ↔
      ∃ w, (watch tcp).Run es h w ∧ w.state = s := by
  unfold watch
  refine Machine.run_annotate_iff ?_ ?_
  · rfl
  · intro w e s' _
    exact w.next_state s' e

------------------------------------------------------------
-- What Is Due Is Done
------------------------------------------------------------

/-
  At the end of an iteration the sender to a bridge whose
  client was finished is dropped with its entry, and the
  socket of a connection whose local side had ended is not
  open on this side any more.
-/
structure Closes (w : Watched) : Prop where
  fin : ∀ handle c, w.finDue handle = some c →
    w.state.active handle ≠ some c
  socket : ∀ handle c, w.localDue handle = some c →
    w.state.active handle = some c →
      (w.state.socket handle).state.locallyOpen = false

/- Closes propagate by the end of the iteration. -/
def Propagates (w : Watched) : Prop :=
  w.state.loop = .selecting → Closes w

/-
  In a poll that finds something due, the client takes the
  connection down itself: with a reset, or in any way that
  leaves its socket not open on this side.
-/
def Answered
    (tcp : Segment → TcpState → TcpState)
    (w : Watched) : TunnelEvent → Prop
| .poll _ segments _ changed =>
    ∀ handle,
      (seenFin w.state changed handle ≠ none →
        Segment.rst ∈ segments handle) ∧
      (seenLocal w.state handle ≠ none →
        (follow tcp (w.state.socket handle).state
          (segments handle)).locallyOpen = false)
| .other _ => True

/-
  What is due and not done yet, at any time after the poll:
  the iteration removes the entries of inactive sockets.
-/
structure Underway (w : Watched) : Prop where
  fin : ∀ handle c, w.finDue handle = some c →
    w.state.active handle = some c →
      (w.state.socket handle).isActive = false
  socket : ∀ handle c, w.localDue handle = some c →
    w.state.active handle = some c →
      (w.state.socket handle).state.locallyOpen = false

/- What is due belongs to a connection that was accepted. -/
structure Known (w : Watched) : Prop where
  tended : Tended w.state
  fin : ∀ handle c, w.finDue handle = some c →
    c < w.state.connections
  socket : ∀ handle c, w.localDue handle = some c →
    c < w.state.connections

theorem seenFin_some_iff
    {changed : Bool}
    {handle : Handle}
    {c : ConnId} :
    seenFin s changed handle = some c ↔
      (changed = true ∧
        finished (s.socket handle) = true) ∧
        s.active handle = some c := by
  unfold seenFin
  split
  · rename_i hSeen
    exact (and_iff_right hSeen).symm
  · rename_i hNot
    exact iff_of_false nofun fun hBoth => hNot hBoth.1

theorem seenLocal_some_iff
    {handle : Handle}
    {c : ConnId} :
    seenLocal s handle = some c ↔
      s.active handle = some c ∧
        (s.connection c).bridge.localEnded = true ∧
        (s.socket handle).state.locallyOpen = true := by
  unfold seenLocal
  rw [Option.filter_eq_some_iff, Bool.and_eq_true]

/- A socket that is open on this side is active. -/
private theorem isActive_of_locallyOpen
    {socket : Socket}
    (hOpen : socket.state.locallyOpen = true) :
    socket.isActive = true := by
  unfold Socket.isActive
  revert hOpen
  cases socket.state with
  | synReceived | established | closeWait =>
      exact fun _ => rfl
  | _ => exact fun hOpen => by cases hOpen

/- After FIN only a reset takes the connection down. -/
private theorem follow_closeWait
    (hTcp : Documented tcp)
    (segments : List Segment) :
    follow tcp .closeWait segments =
      if Segment.rst ∈ segments then .closed
      else .closeWait := by
  have hClosed (segments : List Segment) :
      follow tcp .closed segments = .closed := by
    induction segments with
    | nil => rfl
    | cons segment rest ih =>
        rw [follow, hTcp.closed, ih]
  induction segments with
  | nil => rfl
  | cons segment rest ih =>
      rw [follow, hTcp.closeWait]
      cases segment with
      | rst =>
          rw [hClosed, if_pos List.mem_cons_self]
      | syn | ack | fin =>
          rw [ih]
          simp only [List.mem_cons, reduceCtorEq, false_or]

------------------------------------------------------------
-- One Step
------------------------------------------------------------

private theorem Known.step
    {e : TunnelEvent}
    {s' : State}
    (hKnown : Known w)
    (hStep : TunnelStep tcp w.state e s' o) :
    Known (w.next s' e) := by
  have hTended : Tended (w.next s' e).state := by
    rw [Watched.next_state]
    exact hKnown.tended.step hStep
  cases hStep with
  | polled hAt hSeen =>
      refine ⟨hTended, ?_, ?_⟩
      · intro handle c hDue
        exact hKnown.tended.known handle c
          (seenFin_some_iff.mp hDue).2
      · intro handle c hDue
        exact hKnown.tended.known handle c
          (seenLocal_some_iff.mp hDue).1
  | other hTends hNet =>
      refine ⟨hTended, ?_, ?_⟩
      · intro handle c hDue
        exact Nat.lt_of_lt_of_le (hKnown.fin handle c hDue)
          hTends.count
      · intro handle c hDue
        exact Nat.lt_of_lt_of_le
          (hKnown.socket handle c hDue) hTends.count

/- Between two polls nothing changes of what is underway. -/
private theorem underway_tends_iff
    {s' : State}
    (hKnown : Known w)
    (hTends : Tends w.state s' o) :
    Underway { w with state := s' } ↔ Underway w := by
  -- The due entries of the two states are the same, but for
  -- those of inactive sockets, which are removed.
  have hForth {handle : Handle} {c : ConnId}
      (hLess : c < w.state.connections)
      (hEntry : s'.active handle = some c) :
      w.state.active handle = some c := by
    rcases hTends.active_cases hEntry with hOld | ⟨hNew, _⟩
    · exact hOld
    · exact absurd hNew (Nat.ne_of_lt hLess)
  have hBack {handle : Handle} {c : ConnId}
      (hEntry : w.state.active handle = some c) :
      s'.active handle = some c ∨
        (w.state.socket handle).isActive = false := by
    rcases hTends.keeps_entry (by rw [hEntry]; exact nofun)
      with hSame | ⟨_, hMem⟩
    · exact Or.inl (hSame.trans hEntry)
    · exact Or.inr (hKnown.tended.marked handle hMem)
  have hIs := hTends.states.isActive
  constructor
  · intro hAfter
    refine ⟨?_, ?_⟩
    · intro handle c hDue hEntry
      rcases hBack hEntry with hKept | hOff
      · rw [← hIs handle]
        exact hAfter.fin handle c hDue hKept
      · exact hOff
    · intro handle c hDue hEntry
      rcases hBack hEntry with hKept | hOff
      · rw [← hTends.states handle]
        exact hAfter.socket handle c hDue hKept
      · by_contra hOpen
        rw [isActive_of_locallyOpen (by simpa using hOpen)]
          at hOff
        cases hOff
  · intro hBefore
    refine ⟨?_, ?_⟩
    · intro handle c hDue hEntry
      rw [hIs handle]
      exact hBefore.fin handle c hDue
        (hForth (hKnown.fin handle c hDue) hEntry)
    · intro handle c hDue hEntry
      rw [hTends.states handle]
      exact hBefore.socket handle c hDue
        (hForth (hKnown.socket handle c hDue) hEntry)

/- A reset is what ends a finished socket. -/
private theorem isActive_polledSocket_iff
    (hTcp : Documented tcp)
    {segments : Handle → List Segment}
    {buffers : Handle → Socket}
    {changed : Bool}
    {handle : Handle}
    {socket : Socket}
    (hSeen : changed = true ∨ Quiet segments)
    (hFinished : finished socket = true) :
    (polledSocket tcp (segments handle) (buffers handle)
        changed socket).isActive = false ↔
      Segment.rst ∈ segments handle := by
  have hWait : socket.state = .closeWait := by
    unfold finished at hFinished
    rw [Bool.and_eq_true, decide_eq_true_iff] at hFinished
    exact hFinished.1
  have hState :
      (polledSocket tcp (segments handle) (buffers handle)
          changed socket).state =
        follow tcp socket.state (segments handle) :=
    polledSocket_state hSeen buffers handle socket
  rw [hWait, follow_closeWait hTcp] at hState
  unfold Socket.isActive
  rw [hState]
  by_cases hReset : Segment.rst ∈ segments handle
  · simp [hReset]
  · simp [hReset]

/- What a poll finds due is underway, if it is answered. -/
private theorem underway_polled_iff
    {e : TunnelEvent}
    {s' : State}
    {device : VirtualDevice}
    {segments : Handle → List Segment}
    {buffers : Handle → Socket}
    {changed : Bool}
    (hTcp : Documented tcp)
    (hPoll : e = .poll device segments buffers changed)
    (hStep : TunnelStep tcp w.state e s' o) :
    Underway (w.next s' e) ↔ Answered tcp w e := by
  subst hPoll
  cases hStep with
  | polled hAt hSeen =>
      have hState (handle : Handle) :
          (polledSocket tcp (segments handle)
              (buffers handle) changed
              (w.state.socket handle)).state =
            follow tcp (w.state.socket handle).state
              (segments handle) :=
        polledSocket_state hSeen buffers handle
          (w.state.socket handle)
      constructor
      · intro hUnder handle
        refine ⟨?_, ?_⟩
        · intro hDue
          rcases Option.ne_none_iff_exists'.mp hDue with
            ⟨c, hSome⟩
          rcases seenFin_some_iff.mp hSome with
            ⟨⟨_, hFinished⟩, hEntry⟩
          exact (isActive_polledSocket_iff hTcp hSeen
            hFinished).mp (hUnder.fin handle c hSome hEntry)
        · intro hDue
          rcases Option.ne_none_iff_exists'.mp hDue with
            ⟨c, hSome⟩
          rw [← hState handle]
          exact hUnder.socket handle c hSome
            (seenLocal_some_iff.mp hSome).1
      · intro hAnswered
        refine ⟨?_, ?_⟩
        · intro handle c hDue hEntry
          rcases seenFin_some_iff.mp hDue with
            ⟨⟨_, hFinished⟩, _⟩
          refine (isActive_polledSocket_iff hTcp hSeen
            hFinished).mpr ((hAnswered handle).1 ?_)
          rw [show seenFin w.state changed handle = some c
            from hDue]
          exact nofun
        · intro handle c hDue hEntry
          refine (congrArg TcpState.locallyOpen
            (hState handle)).trans ((hAnswered handle).2 ?_)
          rw [show seenLocal w.state handle = some c
            from hDue]
          exact nofun

/- At the end of an iteration what is underway is done. -/
private theorem closes_iff_underway
    (hKnown : Known w)
    (hAt : w.state.loop = .selecting) :
    Closes w ↔ Underway w := by
  have hOn {handle : Handle} {c : ConnId}
      (hEntry : w.state.active handle = some c) :
      (w.state.socket handle).isActive = true :=
    (hKnown.tended.entry_iff hAt handle).mp
      (by rw [hEntry]; exact nofun)
  constructor
  · intro hCloses
    refine ⟨?_, hCloses.socket⟩
    intro handle c hDue hEntry
    exact absurd hEntry (hCloses.fin handle c hDue)
  · intro hUnder
    refine ⟨?_, hUnder.socket⟩
    intro handle c hDue hEntry
    have hOff := hUnder.fin handle c hDue hEntry
    rw [hOn hEntry] at hOff
    cases hOff

------------------------------------------------------------
-- Whole Runs
------------------------------------------------------------

/- Between two iterations: nothing is being processed. -/
def Loop.isIdle : Loop → Bool
| .selecting | .polling => true
| _ => false

/- Only the start of an iteration leads to its poll. -/
private theorem NetStep.isIdle_of_polling
    {e : Event}
    {s' : State}
    (hStep : NetStep s e s' o)
    (hAt : s'.loop = .polling) :
    s.loop.isIdle = true := by
  cases hStep with
  | stack hTask =>
      cases hTask with
      | injected hBefore | ticked hBefore =>
          rw [hBefore]
          rfl
      | @polled device socket changed hBefore =>
          rw [hBefore]
          rfl
      | drained hBefore | drainLost hBefore =>
          rw [hBefore] at hAt
          cases hAt
      | _ => cases hAt
  | bridge hTask =>
      cases hTask with
      | _ =>
          rw [show s.loop = .polling from hAt]
          rfl
  | _ =>
      rw [show s.loop = .polling from hAt]
      rfl

private theorem known_of_run
    {es : List TunnelEvent}
    (hRun : (watch tcp).Run es h w) :
    Known w := by
  refine Machine.run_invariant
    (motive := fun _ w => Known w) ?_ ?_ hRun
  · have hNil : (tunnel tcp).Run [] [] (tunnel tcp).init :=
      Machine.run_nil_iff.mpr ⟨rfl, rfl⟩
    refine ⟨tended_of_run hNil, ?_, ?_⟩
    · intro handle c hDue
      cases hDue
    · intro handle c hDue
      cases hDue
  · intro h w e w' o hKnown hNext
    rcases Machine.annotate_step_iff.mp hNext with ⟨s', hStep, rfl⟩
    exact hKnown.step (tunnel_cases hStep)

/- Everything is underway when every poll is answered. -/
private theorem always_underway_iff
    {es : List TunnelEvent}
    (hTcp : Documented tcp)
    (hRun : (watch tcp).Run es h w) :
    (watch tcp).Always Underway (watch tcp).init es ↔
      (watch tcp).Meets (Answered tcp)
        (watch tcp).init es := by
  refine Machine.always_iff_meets ?_ ?_ hRun
  · refine ⟨?_, ?_⟩
    · intro handle c hDue
      cases hDue
    · intro handle c hDue
      cases hDue
  · intro es h w e w' o hBefore hUnder hNext
    rcases Machine.annotate_step_iff.mp hNext with ⟨s', hStep, rfl⟩
    have hCases := tunnel_cases hStep
    cases e with
    | poll device segments buffers changed =>
        exact underway_polled_iff hTcp rfl hCases
    | other event =>
        cases hCases with
        | other hTends hNet =>
            exact iff_of_true
              ((underway_tends_iff (known_of_run hBefore)
                hTends).mpr hUnder) trivial

/-
  What a run knows of its polls from the ends of its
  iterations: between two iterations everything due so far
  was underway, and it stayed so since its poll.
-/
private structure Judged
    (tcp : Segment → TcpState → TcpState)
    (es : List TunnelEvent)
    (w : Watched) : Prop where
  kept : (watch tcp).Always Underway (watch tcp).init es →
    (watch tcp).Always Propagates (watch tcp).init es
  idle : (watch tcp).Always Propagates (watch tcp).init es →
    w.state.loop.isIdle = true → Underway w
  back : (watch tcp).Always Propagates (watch tcp).init es →
    Underway w →
      (watch tcp).Always Underway (watch tcp).init es

private theorem propagates_of_underway
    (hKnown : Known w)
    (hUnder : Underway w) :
    Propagates w :=
  fun hAt => (closes_iff_underway hKnown hAt).mpr hUnder

private theorem judged_of_run
    {es : List TunnelEvent}
    (hRun : (watch tcp).Run es h w) :
    Judged tcp es w := by
  refine Machine.run_induction
    (motive := fun es _ w => Judged tcp es w) ?_ ?_ hRun
  · have hUnder : Underway (watch tcp).init := by
      refine ⟨?_, ?_⟩
      · intro handle c hDue
        cases hDue
      · intro handle c hDue
        cases hDue
    have hNil : (watch tcp).Run [] [] (watch tcp).init :=
      Machine.run_nil_iff.mpr ⟨rfl, rfl⟩
    have hKnown := known_of_run hNil
    exact ⟨fun _ => propagates_of_underway hKnown hUnder,
      fun _ _ => hUnder, fun _ _ => hUnder⟩
  · intro es h w e w' o hBefore ih hNext
    have hKnown' := known_of_run
      (Machine.run_snoc_iff.mpr ⟨h, w, o, hBefore, hNext, rfl⟩)
    have hSnoc (good : Watched → Prop) :
        (watch tcp).Always good _ (es ++ [e]) ↔
          (watch tcp).Always good _ es ∧ good w' :=
      Machine.always_snoc_iff hNext hBefore
    rcases Machine.annotate_step_iff.mp hNext with ⟨s', hStep, rfl⟩
    have hCases := tunnel_cases hStep
    refine ⟨?_, ?_, ?_⟩
    · rw [hSnoc, hSnoc]
      rintro ⟨hAlways, hUnder⟩
      exact ⟨ih.kept hAlways,
        propagates_of_underway hKnown' hUnder⟩
    · rw [hSnoc]
      rintro ⟨hAlways, hLast⟩ hIdle
      -- The poll of an iteration comes after its start.
      cases hLoop : (w.next s' e).state.loop with
      | selecting =>
          exact (closes_iff_underway hKnown' hLoop).mp
            (hLast hLoop)
      | polling =>
          cases hCases with
          | @polled device segments buffers changed hAt =>
              cases changed with
              | true => cases hLoop
              | false => cases hLoop
          | other hTends hNet =>
              exact (underway_tends_iff
                (known_of_run hBefore) hTends).mpr
                  (ih.idle hAlways
                    (hNet.isIdle_of_polling hLoop))
      | _ =>
          rw [hLoop] at hIdle
          cases hIdle
    · rw [hSnoc, hSnoc]
      rintro ⟨hAlways, hLast⟩ hUnder
      refine ⟨ih.back hAlways ?_, hUnder⟩
      cases hCases with
      | polled hAt hSeen =>
          exact ih.idle hAlways (by rw [hAt]; rfl)
      | other hTends hNet =>
          exact (underway_tends_iff (known_of_run hBefore)
            hTends).mp hUnder

------------------------------------------------------------
-- Closes Across the Tunnel
------------------------------------------------------------

/-
  What a run says about closing: closes propagate in all its
  iterations when the client answers each poll that finds
  something due by taking the connection down, and, in a run
  that ends with an iteration, only then.
-/
structure CloseOutcome
    (tcp : Segment → TcpState → TcpState)
    (es : List TunnelEvent)
    (s : State) : Prop where
  kept : (watch tcp).Meets (Answered tcp)
      (watch tcp).init es →
    (watch tcp).Always Propagates (watch tcp).init es
  exact : s.loop = .selecting →
    (watch tcp).Always Propagates (watch tcp).init es →
      (watch tcp).Meets (Answered tcp) (watch tcp).init es

theorem close_propagates_iff
    {es : List TunnelEvent}
    (hTcp : Documented tcp)
    (hRun : (tunnel tcp).Run es h s) :
    CloseOutcome tcp es s := by
  rcases run_watch_iff.mp hRun with ⟨w, hWatch, rfl⟩
  have hJudged := judged_of_run hWatch
  have hIff := always_underway_iff hTcp hWatch
  refine ⟨?_, ?_⟩
  · intro hMeets
    exact hJudged.kept (hIff.mpr hMeets)
  · intro hAt hAlways
    have hUnder := hJudged.idle hAlways (by rw [hAt]; rfl)
    exact hIff.mp (hJudged.back hAlways hUnder)

theorem close_propagates_iff_clientCloses :
    CloseOutcome smoltcp (clientConnects ++ clientCloses)
      ((tunnel smoltcp).outcome
        (clientConnects ++ clientCloses)).1 :=
  close_propagates_iff documented_smoltcp
    (Machine.run_outcome (by decide +kernel))

/- A client connects and its bridge reaches the proxy. -/
def clientBridged : List TunnelEvent :=
  clientConnects ++
    [.other .spawn, .other (.bridge 0 (.connect true))]

/- The client sends FIN; the loop goes round once more. -/
def clientFinishes : List TunnelEvent :=
  clientBridged ++ controlIteration [.fin] visitControl ++
    controlIteration [] visitControl

/- The local proxy closes; the loop goes round once more. -/
def localFinishes : List TunnelEvent :=
  clientBridged ++ [.other (.bridge 0 .readEnd)] ++
    controlIteration [] visitControl

/-
  A connection of which one side has ended is left as it
  is: after FIN the bridge keeps its sender, and after the
  end of the local side the socket stays established.
-/
theorem close_not_propagated :
    (∃ h w, (watch smoltcp).Run clientFinishes h w ∧
      w.state.loop = .selecting ∧
      w.finDue .control = some 0 ∧
      w.state.active .control = some 0 ∧
      ¬ Propagates w) ∧
    ∃ h w, (watch smoltcp).Run localFinishes h w ∧
      w.state.loop = .selecting ∧
      w.localDue .control = some 0 ∧
      (w.state.socket .control).state = .established ∧
      ¬ Propagates w :=
  ⟨⟨_, _, Machine.run_outcome (by decide +kernel),
      by decide +kernel, by decide +kernel,
      by decide +kernel,
      fun hCloses => (hCloses (by decide +kernel)).fin
        .control 0 (by decide +kernel) (by decide +kernel)⟩,
    ⟨_, _, Machine.run_outcome (by decide +kernel),
      by decide +kernel, by decide +kernel,
      by decide +kernel,
      fun hCloses => absurd
        ((hCloses (by decide +kernel)).socket .control 0
          (by decide +kernel) (by decide +kernel))
        (by decide +kernel)⟩⟩

end Netstack

end Wireguard

end SeestarProxy
