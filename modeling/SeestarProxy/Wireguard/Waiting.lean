import SeestarProxy.Wireguard.Outbound

/-
  Whether an iteration of the poll loop moves queued data.

  Data is moved only when polling reported that a socket
  changed. Then every active connection whose socket can send
  and whose bridge has queued a chunk is visited, whatever
  else the netstack and the bridges do meanwhile; otherwise
  none is.

  Main declarations:
    * `Waiting` and `ServesWaiting`
    * `Pending` and `pending_step`
    * `waiting_served_iff`
-/

------------------------------------------------------------
-- Waiting Connections
------------------------------------------------------------

namespace SeestarProxy

namespace Wireguard

namespace Netstack

open Library

variable {s s' : State} {h o : List Obs}
variable {handle : Handle} {c : ConnId}

/- An active connection that can send has a queued chunk. -/
structure Waiting
    (s : State)
    (handle : Handle)
    (c : ConnId) : Prop where
  active : s.active handle = some c
  canSend : (s.socket handle).canSend = true
  queued : (s.connection c).toTunnel.queue ≠ []

/- A chunk of each waiting connection is handed over. -/
def ServesWaiting (s : State) (h : List Obs) : Prop :=
  ∀ handle c, Waiting s handle c →
    ∃ data, .moved .handed c data ∈ h

/- No connection waits. -/
def NoneWaiting (s : State) : Prop :=
  ∀ handle c, ¬ Waiting s handle c

/- The handle is still to be visited in this iteration. -/
def Loop.Serves (handle : Handle) : Loop → Prop
| .accepting _ => True
| .transferring rest _ => handle ∈ rest
| .receiving handle' rest _ | .sending handle' rest _ =>
    handle = handle' ∨ handle ∈ rest
| .selecting | .polling | .draining => False

/- A waiting connection that is still to be visited. -/
structure Pending
    (handle : Handle)
    (c : ConnId)
    (s : State) : Prop where
  numbered : Numbered s
  waiting : Waiting s handle c
  serves : s.loop.Serves handle

/- A socket that can send is active. -/
theorem isActive_of_canSend
    {socket : Socket}
    (hSend : socket.canSend = true) :
    socket.isActive = true := by
  rcases socket with ⟨state, rx, tx, _, _⟩
  cases state with
  | established | closeWait => rfl
  | _ => cases hSend

/- Reading does not change whether a socket can send. -/
theorem canSend_recvSlice (socket : Socket) (n : Nat) :
    (socket.recvSlice n).2.canSend = socket.canSend :=
  rfl

theorem Waiting.mem_activeHandles
    (hWaiting : Waiting s handle c) :
    handle ∈ s.activeHandles := by
  unfold State.activeHandles
  rw [List.mem_filter, hWaiting.active]
  refine ⟨?_, rfl⟩
  cases handle <;> decide

/- What waits is not changed by what is not its own. -/
theorem Waiting.of_eq
    (hWaiting : Waiting s handle c)
    (hActive : s'.active handle = s.active handle)
    (hSocket : (s'.socket handle).canSend =
      (s.socket handle).canSend)
    (hQueue : (s.connection c).toTunnel.queue ≠ [] →
      (s'.connection c).toTunnel.queue ≠ []) :
    Waiting s' handle c where
  active := hActive.trans hWaiting.active
  canSend := hSocket.trans hWaiting.canSend
  queued := hQueue hWaiting.queued

/- An update of one connection that keeps its queue. -/
private theorem queue_of_update
    {c' : ConnId}
    {connection : Connection}
    (hQueue : connection.toTunnel.queue =
      (s.connection c').toTunnel.queue)
    (hQueued : (s.connection c).toTunnel.queue ≠ []) :
    (Function.update s.connection c' connection
      c).toTunnel.queue ≠ [] := by
  by_cases hConn : c = c'
  · subst hConn
    rw [Function.update_self, hQueue]
    exact hQueued
  · rw [Function.update_of_ne hConn]
    exact hQueued

/- Bridges queue more, and change nothing else. -/
theorem BridgeStep.waiting
    {c' : ConnId}
    {event : BridgeEvent}
    (hStep : BridgeStep s c' event s' o)
    (hWaiting : Waiting s handle c) :
    Waiting s' handle c ∧ s'.loop = s.loop := by
  cases hStep with
  | @queued toLocal data channel hAt hSend =>
      refine ⟨hWaiting.of_eq rfl rfl fun hQueued => ?_, rfl⟩
      by_cases hConn : c = c'
      · subst hConn
        simp only [State.setConnection, Function.update_self]
        rw [(Channel.trySend_sent_iff.mp hSend).2.1]
        simp
      · simp only [State.setConnection,
          Function.update_of_ne hConn]
        exact hQueued
  | _ =>
      exact ⟨hWaiting.of_eq rfl rfl (queue_of_update rfl),
        rfl⟩

/- An update of one socket that can send as before. -/
private theorem canSend_of_update
    {handle' : Handle}
    {socket : Socket}
    (hSame : socket.canSend = (s.socket handle').canSend) :
    (Function.update s.socket handle' socket
      handle).canSend = (s.socket handle).canSend := by
  by_cases hHandle : handle = handle'
  · subst hHandle
    rw [Function.update_self, hSame]
  · rw [Function.update_of_ne hHandle]

/- A fresh connection takes another number and handle. -/
private theorem waiting_of_accepted
    {handle' : Handle}
    {connection : Connection}
    (hOld : c < s.connections)
    (hNew : s.active handle' = none)
    (hWaiting : Waiting s handle c)
    (hActive : s'.active =
      Function.update s.active handle' (some s.connections))
    (hSocket : s'.socket = s.socket)
    (hConnection : s'.connection =
      Function.update s.connection s.connections
        connection) :
    Waiting s' handle c := by
  have hHandle : handle ≠ handle' := by
    rintro rfl
    have hSome := hWaiting.active
    rw [hNew] at hSome
    cases hSome
  refine hWaiting.of_eq ?_ ?_ fun hQueued => ?_
  · rw [hActive, Function.update_of_ne hHandle]
  · rw [hSocket]
  · rw [hConnection,
      Function.update_of_ne (Nat.ne_of_lt hOld)]
    exact hQueued

/- Where a handle is after another one was looked at. -/
private theorem mem_erase
    {handle' : Handle}
    {rest : List Handle}
    (hMem : handle ∈ rest)
    (hOther : handle ≠ handle') :
    handle ∈ rest.erase handle' :=
  (List.mem_erase_of_ne hOther).mpr hMem

/- The poll loop visits what is pending, or serves it. -/
theorem StackStep.pending
    {event : StackEvent}
    (hStep : StackStep s event s' o)
    (hPending : Pending handle c s) :
    (Waiting s' handle c ∧ s'.loop.Serves handle) ∨
      ∃ data, .moved .handed c data ∈ o := by
  rcases hPending with ⟨hNumbered, hWaiting, hServes⟩
  have hOld := hNumbered.active handle c hWaiting.active
  cases hStep with
  | injected hAt | ticked hAt | polled hAt | allRemoved hAt
  | removed hAt | notRemoved hAt | allDrained hAt
  | drained hAt | drainLost hAt =>
      -- Nothing is pending there.
      rw [hAt] at hServes
      simp [Loop.Serves] at hServes
  | accepted hAt hIs hNew hSend
  | refused hAt hIs hNew hRefused =>
      exact .inl ⟨waiting_of_accepted hOld hNew hWaiting rfl
        rfl rfl, trivial⟩
  | passed hAt hNot =>
      exact .inl ⟨hWaiting.of_eq rfl rfl id, trivial⟩
  | allAccepted hAt =>
      exact .inl ⟨hWaiting.of_eq rfl rfl id,
        hWaiting.mem_activeHandles⟩
  | @visited handle' rest toRemove hAt hRest hActive =>
      rw [hAt] at hServes
      refine .inl ⟨hWaiting.of_eq rfl rfl id, ?_⟩
      by_cases hHandle : handle = handle'
      · exact .inl hHandle
      · exact .inr (mem_erase hServes hHandle)
  | @ended handle' rest toRemove hAt hRest hActive =>
      rw [hAt] at hServes
      refine .inl ⟨hWaiting.of_eq rfl rfl id, ?_⟩
      have hHandle : handle ≠ handle' := by
        rintro rfl
        rw [isActive_of_canSend hWaiting.canSend] at hActive
        cases hActive
      exact mem_erase hServes hHandle
  | put hAt hActive hData hSend =>
      rw [hAt] at hServes
      exact .inl ⟨hWaiting.of_eq rfl
        (canSend_of_update (canSend_recvSlice _ _))
        (queue_of_update rfl), hServes⟩
  | lost hAt hActive hData hRefused =>
      rw [hAt] at hServes
      exact .inl ⟨hWaiting.of_eq rfl
        (canSend_of_update (canSend_recvSlice _ _)) id,
        hServes⟩
  | noData hAt hActive hData =>
      rw [hAt] at hServes
      exact .inl ⟨hWaiting.of_eq rfl rfl id, hServes⟩
  | @handed handle' rest toRemove c' data channel hAt hActive
      hRoom hRecv =>
      rw [hAt] at hServes
      by_cases hConn : c = c'
      · subst hConn
        exact .inr ⟨data, List.mem_cons_self⟩
      have hHandle : handle ≠ handle' := by
        rintro rfl
        rw [hWaiting.active] at hActive
        exact hConn (Option.some.inj hActive)
      refine .inl ⟨hWaiting.of_eq rfl ?_ fun hQueued => ?_,
        hServes.resolve_left hHandle⟩
      · exact congrArg Socket.canSend
          (Function.update_of_ne hHandle _ _)
      · dsimp only
        rw [Function.update_of_ne hConn]
        exact hQueued
  | @notHanded handle' rest toRemove c' hAt hActive hNot =>
      rw [hAt] at hServes
      refine .inl ⟨hWaiting.of_eq rfl rfl id, ?_⟩
      have hHandle : handle ≠ handle' := by
        rintro rfl
        rw [hWaiting.active] at hActive
        cases hActive
        rcases hNot with hFull | hNone
        · rw [hWaiting.canSend] at hFull
          cases hFull
        · exact hWaiting.queued
            (Channel.recv_none_iff.mp hNone)
      exact hServes.resolve_left hHandle

theorem pending_step
    {e : Event}
    (hPending : Pending handle c s)
    (hNext : netstack.step s e = some (s', o)) :
    Pending handle c s' ∨
      ∃ x ∈ o, ∃ data, x = .moved .handed c data := by
  have hStep := net_cases hNext
  have hNumbered := hStep.numbered hPending.numbered
  have hCases :
      (Waiting s' handle c ∧ s'.loop.Serves handle) ∨
        ∃ data, .moved .handed c data ∈ o := by
    cases hStep with
    | stack hTask => exact hTask.pending hPending
    | bridge hTask =>
        rcases hTask.waiting hPending.waiting with
          ⟨hWaiting, hLoop⟩
        rw [hLoop]
        exact .inl ⟨hWaiting, hPending.serves⟩
    | spawned hRecv =>
        exact .inl ⟨hPending.waiting.of_eq rfl rfl
          (queue_of_update rfl), hPending.serves⟩
    | injected _ | notInjected _ | encrypted _ =>
        exact .inl ⟨hPending.waiting.of_eq rfl rfl id,
          hPending.serves⟩
  rcases hCases with ⟨hWaiting, hServes⟩ | ⟨data, hMem⟩
  · exact .inl ⟨hNumbered, hWaiting, hServes⟩
  · exact .inr ⟨_, hMem, data, rfl⟩

------------------------------------------------------------
-- Iterations
------------------------------------------------------------

/- The event does not start another iteration. -/
def Event.Within : Event → Prop
| .stack .inject | .stack .tick => False
| _ => True

instance (e : Event) : Decidable e.Within := by
  unfold Event.Within
  split <;> infer_instance

/- An iteration after the transfer of data, or before it. -/
def Loop.IsLate : Loop → Prop
| .selecting | .draining => True
| _ => False

/- Late in an iteration, nothing is handed over. -/
theorem late_step
    {e : Event}
    (c : ConnId)
    (hLate : s.loop.IsLate)
    (hWithin : e.Within)
    (hNext : netstack.step s e = some (s', o)) :
    s'.loop.IsLate ∧
      ∀ x ∈ o, ∀ data, x ≠ .moved .handed c data := by
  cases net_cases hNext with
  | stack hTask =>
      cases hTask with
      | injected _ _ | ticked _ => exact hWithin.elim
      | allDrained hAt _ => exact ⟨trivial, nofun⟩
      | drained hAt _ _ | drainLost hAt _ _ =>
          refine ⟨hLate, fun x hMem data hHanded => ?_⟩
          rw [List.mem_singleton.mp hMem] at hHanded
          cases hHanded
      | polled hAt | accepted hAt | refused hAt | passed hAt
      | allAccepted hAt | visited hAt | ended hAt | put hAt
      | lost hAt | noData hAt | handed hAt | notHanded hAt
      | removed hAt | notRemoved hAt | allRemoved hAt =>
          rw [hAt] at hLate
          exact hLate.elim
  | bridge hTask =>
      cases hTask with
      | delivered _ | queued _ _ =>
          refine ⟨hLate, fun x hMem data hHanded => ?_⟩
          rw [List.mem_singleton.mp hMem] at hHanded
          cases hHanded
      | _ => exact ⟨hLate, nofun⟩
  | _ => exact ⟨hLate, nofun⟩

/- A poll with a change makes what waits pending. -/
theorem pending_of_poll
    {device : VirtualDevice}
    {socket : Handle → Socket}
    (hNumbered : Numbered s)
    (hPoll : netstack.step s
      (.stack (.poll device socket true)) = some (s', o))
    (hWaiting : Waiting s' handle c) :
    Pending handle c s' := by
  have hStep := net_cases hPoll
  refine ⟨hStep.numbered hNumbered, hWaiting, ?_⟩
  cases hStep with
  | stack hTask =>
      cases hTask with
      | polled hAt => exact trivial

theorem late_of_poll
    {device : VirtualDevice}
    {socket : Handle → Socket}
    (hPoll : netstack.step s
      (.stack (.poll device socket false)) = some (s', o)) :
    s'.loop.IsLate := by
  cases net_cases hPoll with
  | stack hTask =>
      cases hTask with
      | polled hAt => exact trivial

/- With a change, the iteration serves all that waits. -/
theorem served_of_changed
    {es₀ es : List Event}
    {h₀ : List Obs}
    {s₀ : State}
    {device : VirtualDevice}
    {socket : Handle → Socket}
    (hRun : netstack.Run es₀ h₀ s₀)
    (hPoll : netstack.step s₀
      (.stack (.poll device socket true)) = some (s, o))
    (hRest : netstack.exec s es = some (s', h))
    (hEnd : s'.loop = .selecting) :
    ServesWaiting s h := by
  intro handle c hWaiting
  have hPending :=
    pending_of_poll (numbered_of_run hRun) hPoll hWaiting
  rcases Machine.exec_serves
    (fun _ _ _ _ hBefore hNext => pending_step hBefore hNext)
    hPending hRest with hStill | ⟨x, hMem, data, rfl⟩
  · have hServes := hStill.serves
    rw [hEnd] at hServes
    exact hServes.elim
  · exact ⟨data, hMem⟩

/- Without one, it serves nothing. -/
theorem not_served_of_unchanged
    {es : List Event}
    {s₀ : State}
    {device : VirtualDevice}
    {socket : Handle → Socket}
    (hPoll : netstack.step s₀
      (.stack (.poll device socket false)) = some (s, o))
    (hRest : netstack.exec s es = some (s', h))
    (hWithin : ∀ e ∈ es, e.Within)
    (c : ConnId)
    (data : Bytes) :
    .moved .handed c data ∉ h := by
  intro hMem
  have hKeeps := Machine.exec_keeps_among
    (fun _ _ _ _ hLate hAmong hNext =>
      late_step c hLate hAmong hNext)
    hWithin (late_of_poll hPoll) hRest
  exact hKeeps.2 _ hMem data rfl

/-
  An iteration hands over a chunk of every connection that
  waits after its poll exactly when the poll reported a
  change or no connection waits.
-/
theorem waiting_served_iff
    {es₀ es : List Event}
    {h₀ h : List Obs}
    {s₀ s s' : State}
    {device : VirtualDevice}
    {socket : Handle → Socket}
    {changed : Bool}
    (hRun : netstack.Run es₀ h₀ s₀)
    (hPoll : netstack.step s₀
      (.stack (.poll device socket changed)) = some (s, []))
    (hRest : netstack.exec s es = some (s', h))
    (hWithin : ∀ e ∈ es, e.Within)
    (hEnd : s'.loop = .selecting) :
    ServesWaiting s h ↔ changed = true ∨ NoneWaiting s := by
  cases changed with
  | true =>
      exact iff_of_true
        (served_of_changed hRun hPoll hRest hEnd) (.inl rfl)
  | false =>
      constructor
      · intro hServes
        refine .inr fun handle c hWaiting => ?_
        rcases hServes handle c hWaiting with ⟨data, hMem⟩
        exact not_served_of_unchanged hPoll hRest hWithin c
          data hMem
      · rintro (hChanged | hNone)
        · cases hChanged
        · intro handle c hWaiting
          exact absurd hWaiting (hNone handle c)

------------------------------------------------------------
-- An Event for an Idle Client
------------------------------------------------------------

/- The bridge of an idle connection queues an event. -/
def queueEvent : List Event :=
  openBridge ++ [.bridge 0 (.read [7]), .bridge 0 .send,
    .stack .tick]

/- A poll that leaves the control socket as it was. -/
def idlePoll (changed : Bool) : StackEvent :=
  .poll ⟨[], []⟩
    (Function.update (fun _ => Socket.listening) .control
      (established [] (Nat.zero_le _))) changed

theorem step_poll
    {device : VirtualDevice}
    {socket : Handle → Socket}
    {changed : Bool}
    (hAt : s.loop = .polling) :
    netstack.step s (.stack (.poll device socket changed)) =
      some ({ s with
        device := device
        socket := socket
        loop :=
          if changed = true then
            .accepting [.control, .imaging]
          else
            .draining }, []) := by
  change runStack s (.poll device socket changed) = _
  unfold runStack
  rw [hAt]

/- The state before the poll of such an iteration. -/
def eventQueued : State := (netstack.outcome queueEvent).1

theorem run_queueEvent :
    netstack.Run queueEvent (netstack.outcome queueEvent).2
      eventQueued :=
  Machine.run_outcome (by decide +kernel)

theorem loop_eventQueued :
    eventQueued.loop = .polling := by
  decide +kernel

/- The state after a poll without a change. -/
def afterPoll : State :=
  { eventQueued with
    device := ⟨[], []⟩
    socket :=
      Function.update (fun _ => Socket.listening) .control
        (established [] (Nat.zero_le _))
    loop := .draining }

theorem waiting_afterPoll : Waiting afterPoll .control 0 where
  active := by decide +kernel
  canSend := by decide
  queued := by decide +kernel

theorem waiting_served_iff_idle :
    ServesWaiting afterPoll [] ↔
      false = true ∨ NoneWaiting afterPoll :=
  waiting_served_iff run_queueEvent
    (step_poll loop_eventQueued)
    (show netstack.exec afterPoll [.stack .drain] =
      some ({ afterPoll with loop := .selecting }, [])
      from rfl)
    (by decide) rfl

/- The event waits, and the iteration ends without it. -/
theorem queued_event_not_served :
    netstack.Run queueEvent (netstack.outcome queueEvent).2
        eventQueued ∧
      netstack.step eventQueued (.stack (idlePoll false)) =
        some (afterPoll, []) ∧
      netstack.exec afterPoll [.stack .drain] =
        some ({ afterPoll with loop := .selecting }, []) ∧
      Waiting afterPoll .control 0 ∧
      ¬ ServesWaiting afterPoll [] := by
  refine ⟨run_queueEvent, step_poll loop_eventQueued, rfl,
    waiting_afterPoll, fun hServes => ?_⟩
  rcases hServes .control 0 waiting_afterPoll with
    ⟨data, hMem⟩
  cases hMem

end Netstack

end Wireguard

end SeestarProxy
