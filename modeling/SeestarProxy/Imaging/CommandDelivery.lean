import SeestarProxy.Imaging.Commands
import SeestarProxy.Imaging.StepCases

/-
  Commands from the imaging clients to the telescope.

  The handlers and the heartbeat task share one queue, which
  outlives the connections. A single task takes the commands
  off the queue and writes each to the connection of the
  time. A command whose write fails is gone; the queue waits
  for the next connection. A command whose preview panics
  ends the task: what the queue holds is dropped with it, and
  a handler can queue nothing more.

  Main declarations:
    * `Sender` and `Obs.written?`
    * `CommandStep` and `command_cases`
    * `Delivered` and `Delivered.step`
    * `commands_delivered`
-/

------------------------------------------------------------
-- Senders
------------------------------------------------------------

namespace SeestarProxy

namespace Imaging

open Library

/- Who queues a command. -/
inductive Sender where
| client (c : ClientId)
| heartbeat
deriving DecidableEq, Repr

/- The commands of one sender among all that were queued. -/
def commandsOf
    (sender : Sender)
    (queued : List (Sender × String)) : List String :=
  (queued.filter fun entry => entry.1 = sender).map Prod.snd

/- A command that was written to the connection. -/
def Obs.written? (conn : ConnId) : Obs → Option String
| .command conn' msg => if conn' = conn then some msg else none
| _ => none

/- What was written to a connection. -/
def writtenOn
    (conn : ConnId)
    (h : List Obs) : List String :=
  h.filterMap (Obs.written? conn)

/- The command that is being written. -/
def Upstream.inHand : Upstream → List String
| .writing _ msg => [msg]
| _ => []

/- The command that a handler waits to queue. -/
def Handler.inHand : Handler → List String
| .sending trimmed => [trimmed]
| _ => []

/- The connection that is written to. -/
def Upstream.current? : Upstream → Option ConnId
| .selecting conn | .writing conn _ => some conn
| _ => none

/- The command that a line of a client is. -/
def Event.command? (c : ClientId) : Event → Option String
| .client c' (.line text) =>
    if c' = c ∧ Text.trim text ≠ "" then
      some (Text.trim text)
    else
      none
| _ => none

/- The heartbeats, from the first one. -/
def heartbeats (n : Nat) : List String :=
  (List.range n).map fun i =>
    Control.heartbeatLine (UInt64.ofNat (i + 1))

variable {debugLogged : Bool} {s s' : State} {o h : List Obs}
variable {c : ClientId} {conn : ConnId}

------------------------------------------------------------
-- Steps
------------------------------------------------------------

/- What carries commands is as it was. -/
structure SameLine (s s' : State) : Prop where
  upstream : s'.upstream = s.upstream
  upstreamTx : s'.upstreamTx = s.upstreamTx
  heartbeat : s'.heartbeat = s.heartbeat
  heartbeatId : s'.heartbeatId = s.heartbeatId
  connections : s'.connections = s.connections
  clients : s'.clients = s.clients
  handler : s'.handler = s.handler

/- What a step does to the commands. -/
inductive CommandStep (debugLogged : Bool) (s : State) :
    Event → State → List Obs → Prop
| other {e : Event} {s' : State} {o : List Obs}
    (hLine : SameLine s s')
    (hEvent : ∀ c, e.command? c = none)
    (hQueued : ∀ c, queuedBy c o = [])
    (hWritten : ∀ conn, writtenOn conn o = []) :
    CommandStep debugLogged s e s' o
| accepted :
    CommandStep debugLogged s .accept (acceptClient s) []
| handler {c : ClientId} {event : HandlerEvent} {s' : State}
    {o : List Obs}
    (hTask : HandlerStep s c event s' o) :
    CommandStep debugLogged s (.client c event) s' o
| woke
    (hAt : s.heartbeat = .sleeping) :
    CommandStep debugLogged s (.heartbeat .wake)
      { s with
        heartbeatId := s.heartbeatId + 1
        heartbeat :=
          .sending (Control.heartbeatLine s.heartbeatId) }
      []
| beat {msg : String} {channel : Channel String 256}
    (hAt : s.heartbeat = .sending msg)
    (hSend : s.upstreamTx.trySend msg = .sent channel) :
    CommandStep debugLogged s (.heartbeat .send)
      { s with
        upstreamTx := channel
        heartbeat := .sleeping }
      []
| stilled {msg : String}
    (hAt : s.heartbeat = .sending msg) :
    CommandStep debugLogged s (.heartbeat .send)
      { s with heartbeat := .ended } []
| started
    (hAt : s.upstream = .waiting) :
    CommandStep debugLogged s (.upstream .start)
      { s with upstream := .connecting } []
| connected
    (hAt : s.upstream = .connecting) :
    CommandStep debugLogged s (.upstream .connect)
      { s with
        connections := s.connections + 1
        reader :=
          Function.update s.reader s.connections .spawned
        upstream := .selecting s.connections }
      []
| took {conn : ConnId} {msg : String}
    {channel : Channel String 256}
    (hAt : s.upstream = .selecting conn)
    (hRecv : s.upstreamTx.recv = some (msg, channel)) :
    CommandStep debugLogged s (.upstream .recv)
      { s with
        upstreamTx := channel
        upstream := .writing conn msg }
      []
| stopped {conn : ConnId} {msg : String}
    {channel : Channel String 256}
    (hAt : s.upstream = .selecting conn)
    (hRecv : s.upstreamTx.recv = some (msg, channel))
    (hPanics :
      Control.previewPanics debugLogged msg 200 = true) :
    CommandStep debugLogged s (.upstream .recv)
      { s with
        upstreamTx := s.upstreamTx.close
        upstream := .stopped }
      []
| wrote {conn : ConnId} {msg : String}
    (hAt : s.upstream = .writing conn msg) :
    CommandStep debugLogged s (.upstream (.write true))
      { s with upstream := .selecting conn }
      [.command conn msg]
| lost {conn : ConnId} {msg : String}
    (hAt : s.upstream = .writing conn msg) :
    CommandStep debugLogged s (.upstream (.write false))
      { s with upstream := .connecting } []
| readerDead {conn : ConnId}
    (hAt : s.upstream = .selecting conn) :
    CommandStep debugLogged s (.upstream .readerDead)
      { s with upstream := .connecting } []

/-
  What the first connections got: what was written to each,
  and the command that was lost with it.
-/
def gone
    (lost : ConnId → Option String)
    (h : List Obs)
    (n : Nat) : List String :=
  (List.range n).flatMap fun conn =>
    writtenOn conn h ++ (lost conn).toList

/-
  Where the queued commands are: each connection got some of
  them in a row, and one may be lost behind these. The task
  stops only at a command whose preview panics, which is then
  the one lost last; the rest is dropped.
-/
structure Sent
    (debugLogged : Bool)
    (queued : List String)
    (lost : ConnId → Option String)
    (rest : List String)
    (h : List Obs)
    (s : State) : Prop where
  order : queued =
    gone lost h s.connections ++ (s.upstream.inHand ++ rest)
  waiting : s.upstream ≠ .stopped →
    rest = s.upstreamTx.queue
  halted : s.upstream = .stopped →
    ∃ conn msg, conn + 1 = s.connections ∧
      lost conn = some msg ∧
        Control.previewPanics debugLogged msg 200 = true
  open_iff : s.upstreamTx.isOpen = true ↔
    s.upstream ≠ .stopped
  current : ∀ conn, s.upstream.current? = some conn →
    conn + 1 = s.connections ∧ lost conn = none
  unmade : ∀ conn, s.connections ≤ conn →
    lost conn = none ∧ writtenOn conn h = []

theorem writtenOn_append
    (conn : ConnId)
    (h o : List Obs) :
    writtenOn conn (h ++ o) =
      writtenOn conn h ++ writtenOn conn o :=
  List.filterMap_append

theorem gone_succ
    (lost : ConnId → Option String)
    (h : List Obs)
    (n : Nat) :
    gone lost h (n + 1) =
      gone lost h n ++ (writtenOn n h ++ (lost n).toList) := by
  unfold gone
  rw [List.range_succ, List.flatMap_append,
    List.flatMap_singleton]

theorem gone_congr
    {lost lost' : ConnId → Option String}
    {h h' : List Obs}
    {n : Nat}
    (hSame : ∀ conn < n, lost' conn = lost conn ∧
      writtenOn conn h' = writtenOn conn h) :
    gone lost' h' n = gone lost h n := by
  unfold gone
  refine List.flatMap_congr fun conn hMem => ?_
  rcases hSame conn (List.mem_range.mp hMem) with
    ⟨hLost, hWritten⟩
  rw [hLost, hWritten]

variable {queued rest : List String}
variable {lost : ConnId → Option String}

/- A step that has nothing to do with the queue. -/
theorem Sent.of_same
    (hSent : Sent debugLogged queued lost rest h s)
    (hUpstream : s'.upstream = s.upstream)
    (hQueue : s'.upstreamTx = s.upstreamTx)
    (hConnections : s'.connections = s.connections)
    (hWritten : ∀ conn, writtenOn conn o = []) :
    Sent debugLogged queued lost rest (h ++ o) s' := by
  have hSame (conn : ConnId) :
      writtenOn conn (h ++ o) = writtenOn conn h := by
    rw [writtenOn_append, hWritten, List.append_nil]
  refine ⟨?_, ?_, ?_, ?_, ?_, ?_⟩
  · rw [hUpstream, hConnections,
      gone_congr fun conn _ => ⟨rfl, hSame conn⟩]
    exact hSent.order
  · rw [hUpstream, hQueue]
    exact hSent.waiting
  · rw [hUpstream, hConnections]
    exact hSent.halted
  · rw [hUpstream, hQueue]
    exact hSent.open_iff
  · rw [hUpstream, hConnections]
    exact hSent.current
  · intro conn hLater
    rw [hConnections] at hLater
    rw [hSame]
    exact hSent.unmade conn hLater

/- A step of the upstream task that writes nothing. -/
theorem Sent.of_move
    {rest' : List String}
    (hSent : Sent debugLogged queued lost rest h s)
    (hOrder : s'.upstream.inHand ++ rest' =
      s.upstream.inHand ++ rest)
    (hCurrent : ∀ conn, s'.upstream.current? = some conn →
      s.upstream.current? = some conn)
    (hRuns : s'.upstream ≠ .stopped)
    (hQueue : rest' = s'.upstreamTx.queue)
    (hOpen : s'.upstreamTx.isOpen = true)
    (hConnections : s'.connections = s.connections) :
    Sent debugLogged queued lost rest' (h ++ []) s' := by
  rw [List.append_nil]
  refine ⟨?_, fun _ => hQueue, fun hStopped => ?_,
    iff_of_true hOpen hRuns, ?_, ?_⟩
  · rw [hConnections, hOrder]
    exact hSent.order
  · exact absurd hStopped hRuns
  · intro conn hNext
    rw [hConnections]
    exact hSent.current conn (hCurrent conn hNext)
  · rw [hConnections]
    exact hSent.unmade

/- A command gets into the queue. -/
theorem Sent.of_send
    {msg : String}
    {channel : Channel String 256}
    (hSent : Sent debugLogged queued lost rest h s)
    (hSend : s.upstreamTx.trySend msg = .sent channel)
    (hUpstream : s'.upstream = s.upstream)
    (hQueue : s'.upstreamTx = channel)
    (hConnections : s'.connections = s.connections)
    (hWritten : ∀ conn, writtenOn conn o = []) :
    Sent debugLogged (queued ++ [msg]) lost (rest ++ [msg])
      (h ++ o) s' := by
  rcases Channel.trySend_sent_iff.mp hSend with
    ⟨hAccepts, hAppended, hOpen⟩
  have hRuns := hSent.open_iff.mp hAccepts.1
  have hSame (conn : ConnId) :
      writtenOn conn (h ++ o) = writtenOn conn h := by
    rw [writtenOn_append, hWritten, List.append_nil]
  refine ⟨?_, fun _ => ?_, ?_, ?_, ?_, ?_⟩
  · rw [hUpstream, hConnections,
      gone_congr fun conn _ => ⟨rfl, hSame conn⟩,
      hSent.order]
    simp only [List.append_assoc]
  · rw [hQueue, hAppended, hSent.waiting hRuns]
  · rw [hUpstream, hConnections]
    exact hSent.halted
  · rw [hUpstream, hQueue]
    exact iff_of_true hOpen hRuns
  · rw [hUpstream, hConnections]
    exact hSent.current
  · intro conn hLater
    rw [hConnections] at hLater
    rw [hSame]
    exact hSent.unmade conn hLater

/- The command in hand is lost with its connection. -/
theorem gone_lose
    {msg : String}
    {conn : ConnId}
    (hNone : lost conn = none) :
    gone (Function.update lost conn (some msg)) h (conn + 1) =
      gone lost h (conn + 1) ++ [msg] := by
  have hEarlier :
      gone (Function.update lost conn (some msg)) h conn =
        gone lost h conn := by
    refine gone_congr fun other hOther => ⟨?_, rfl⟩
    exact Function.update_of_ne (Nat.ne_of_lt hOther) _ _
  rw [gone_succ, gone_succ, hEarlier, Function.update_self,
    hNone]
  simp

theorem gone_write
    {msg : String}
    {conn : ConnId}
    (hNone : lost conn = none) :
    gone lost (h ++ [.command conn msg]) (conn + 1) =
      gone lost h (conn + 1) ++ [msg] := by
  have hEarlier :
      gone lost (h ++ [.command conn msg]) conn =
        gone lost h conn := by
    refine gone_congr fun other hOther => ⟨rfl, ?_⟩
    rw [writtenOn_append]
    simp [writtenOn, Obs.written?, Nat.ne_of_gt hOther]
  rw [gone_succ, gone_succ, hEarlier, writtenOn_append, hNone]
  simp [writtenOn, Obs.written?]

/- The upstream task is done with the command in hand. -/
theorem Sent.of_lose
    {conn : ConnId}
    {msg : String}
    {dropped : List String}
    (hSent : Sent debugLogged queued lost rest h s)
    (hCurrent : s.upstream.current? = some conn)
    (hOrder : s.upstream.inHand ++ rest = msg :: dropped)
    (hHand : s'.upstream.inHand = [])
    (hNext : s'.upstream.current? = none)
    (hWaiting : s'.upstream ≠ .stopped →
      dropped = s'.upstreamTx.queue)
    (hHalted : s'.upstream = .stopped →
      Control.previewPanics debugLogged msg 200 = true)
    (hOpen : s'.upstreamTx.isOpen = true ↔
      s'.upstream ≠ .stopped)
    (hConnections : s'.connections = s.connections) :
    Sent debugLogged queued
      (Function.update lost conn (some msg)) dropped
      (h ++ []) s' := by
  rcases hSent.current conn hCurrent with ⟨hLast, hNone⟩
  rw [List.append_nil]
  refine ⟨?_, hWaiting, fun hStopped => ?_, hOpen, ?_, ?_⟩
  · rw [hConnections, ← hLast, gone_lose hNone, hHand,
      hSent.order, hOrder, ← hLast]
    simp
  · refine ⟨conn, msg, ?_, Function.update_self ..,
      hHalted hStopped⟩
    rw [hConnections]
    exact hLast
  · intro other hOther
    rw [hNext] at hOther
    cases hOther
  · intro other hLater
    rw [hConnections] at hLater
    have hEarlier : conn < other := by
      rw [← hLast] at hLater
      exact hLater
    have hOther : other ≠ conn := Nat.ne_of_gt hEarlier
    rw [Function.update_of_ne hOther]
    exact hSent.unmade other hLater

/- The command in hand is written. -/
theorem Sent.of_write
    {conn : ConnId}
    {msg : String}
    (hSent : Sent debugLogged queued lost rest h s)
    (hAt : s.upstream = .writing conn msg)
    (hNext : s'.upstream = .selecting conn)
    (hQueue : s'.upstreamTx = s.upstreamTx)
    (hConnections : s'.connections = s.connections) :
    Sent debugLogged queued lost rest
      (h ++ [.command conn msg]) s' := by
  have hCurrent : s.upstream.current? = some conn := by
    rw [hAt]
    rfl
  rcases hSent.current conn hCurrent with ⟨hLast, hNone⟩
  have hRuns : s.upstream ≠ .stopped := by
    rw [hAt]
    exact Upstream.noConfusion
  have hRuns' : s'.upstream ≠ .stopped := by
    rw [hNext]
    exact Upstream.noConfusion
  refine ⟨?_, fun _ => ?_, fun hStopped => ?_, ?_, ?_, ?_⟩
  · rw [hConnections, ← hLast, gone_write hNone, hNext,
      hSent.order, hAt, ← hLast]
    simp [Upstream.inHand]
  · rw [hQueue]
    exact hSent.waiting hRuns
  · exact absurd hStopped hRuns'
  · rw [hQueue]
    exact iff_of_true (hSent.open_iff.mpr hRuns) hRuns'
  · intro other hOther
    rw [hNext] at hOther
    cases hOther
    rw [hConnections]
    exact ⟨hLast, hNone⟩
  · intro other hLater
    rw [hConnections] at hLater
    have hEarlier : conn < other := by
      rw [← hLast] at hLater
      exact hLater
    have hOther : conn ≠ other := Nat.ne_of_lt hEarlier
    rcases hSent.unmade other hLater with ⟨hKept, hBefore⟩
    refine ⟨hKept, ?_⟩
    rw [writtenOn_append, hBefore]
    simp [writtenOn, Obs.written?, hOther]

/- A new connection has got nothing yet. -/
theorem Sent.of_connect
    (hSent : Sent debugLogged queued lost rest h s)
    (hAt : s.upstream = .connecting)
    (hNext : s'.upstream = .selecting s.connections)
    (hQueue : s'.upstreamTx = s.upstreamTx)
    (hConnections : s'.connections = s.connections + 1) :
    Sent debugLogged queued lost rest (h ++ []) s' := by
  rcases hSent.unmade s.connections (Nat.le_refl _) with
    ⟨hNone, hNothing⟩
  have hRuns : s.upstream ≠ .stopped := by
    rw [hAt]
    exact Upstream.noConfusion
  have hRuns' : s'.upstream ≠ .stopped := by
    rw [hNext]
    exact Upstream.noConfusion
  rw [List.append_nil]
  refine ⟨?_, fun _ => ?_, fun hStopped => ?_, ?_, ?_, ?_⟩
  · rw [hConnections, gone_succ, hNone, hNothing, hNext,
      hSent.order, hAt]
    simp [Upstream.inHand]
  · rw [hQueue]
    exact hSent.waiting hRuns
  · exact absurd hStopped hRuns'
  · rw [hQueue]
    exact iff_of_true (hSent.open_iff.mpr hRuns) hRuns'
  · intro conn hCurrent
    rw [hNext] at hCurrent
    cases hCurrent
    exact ⟨hConnections.symm, hNone⟩
  · intro conn hLater
    exact hSent.unmade conn (by omega)

/- What the upstream task does to the queued commands. -/
theorem Sent.of_upstream
    {event : UpstreamEvent}
    (hTask : CommandStep debugLogged s (.upstream event) s' o)
    (hSent : Sent debugLogged queued lost rest h s) :
    ∃ lost' rest',
      Sent debugLogged queued lost' rest' (h ++ o) s' := by
  have hOpen (hRuns : s.upstream ≠ .stopped) :
      s.upstreamTx.isOpen = true :=
    hSent.open_iff.mpr hRuns
  cases hTask with
  | other hLine _ _ hWritten =>
      exact ⟨lost, rest, hSent.of_same hLine.upstream
        hLine.upstreamTx hLine.connections hWritten⟩
  | started hAt =>
      have hRuns : s.upstream ≠ .stopped := by simp [hAt]
      exact ⟨lost, rest, hSent.of_move (by rw [hAt]; rfl)
        (by simp [Upstream.current?]) (by simp)
        (hSent.waiting hRuns) (hOpen hRuns) rfl⟩
  | connected hAt =>
      exact ⟨lost, rest, hSent.of_connect hAt rfl rfl rfl⟩
  | @took conn msg channel hAt hRecv =>
      have hRuns : s.upstream ≠ .stopped := by simp [hAt]
      rcases Channel.recv_some_iff.mp hRecv with
        ⟨hQueue, hSame⟩
      refine ⟨lost, channel.queue, hSent.of_move ?_ ?_
        (by simp) rfl (hSame.trans (hOpen hRuns)) rfl⟩
      · rw [hAt, hSent.waiting hRuns, hQueue]
        rfl
      · intro other hOther
        rw [hAt]
        exact hOther
  | @stopped conn msg channel hAt hRecv hPanics =>
      have hRuns : s.upstream ≠ .stopped := by simp [hAt]
      rcases Channel.recv_some_iff.mp hRecv with ⟨hQueue, -⟩
      refine ⟨Function.update lost conn (some msg),
        channel.queue, hSent.of_lose (by rw [hAt]; rfl) ?_ rfl
          rfl (fun hNot => ?_) (fun _ => hPanics) ?_ rfl⟩
      · rw [hAt, hSent.waiting hRuns, hQueue]
        rfl
      · exact absurd rfl hNot
      · simp
  | @wrote conn msg hAt =>
      exact ⟨lost, rest, hSent.of_write hAt rfl rfl rfl⟩
  | @lost conn msg hAt =>
      have hRuns : s.upstream ≠ .stopped := by simp [hAt]
      refine ⟨Function.update lost conn (some msg), rest,
        hSent.of_lose (by rw [hAt]; rfl) ?_ rfl rfl
          (fun _ => hSent.waiting hRuns) ?_ ?_ rfl⟩
      · rw [hAt]
        rfl
      · exact fun hStopped => by simp at hStopped
      · exact iff_of_true (hOpen hRuns) (by simp)
  | @readerDead conn hAt =>
      have hRuns : s.upstream ≠ .stopped := by simp [hAt]
      exact ⟨lost, rest, hSent.of_move (by rw [hAt]; rfl)
        (by simp [Upstream.current?]) (by simp)
        (hSent.waiting hRuns) (hOpen hRuns) rfl⟩

------------------------------------------------------------
-- Clients and Heartbeats
------------------------------------------------------------

/- How far the heartbeat task is. -/
def BeatsAt (s : State) (n : Nat) : Prop :=
  match s.heartbeat with
  | .sleeping => s.heartbeatId = UInt64.ofNat (n + 1)
  | .sending msg =>
      msg = Control.heartbeatLine (UInt64.ofNat (n + 1)) ∧
        s.heartbeatId = UInt64.ofNat (n + 2)
  | .ended => True

/-
  What the clients sent is queued in order, up to what their
  handlers have in hand. Once the queue's task has stopped,
  the lines that it does not take are dropped.
-/
structure Fed
    (es : List Event)
    (h : List Obs)
    (s : State) : Prop where
  order : ∀ c, ∃ dropped,
    es.filterMap (Event.command? c) =
        queuedBy c h ++ dropped ∧
      (s.upstream ≠ .stopped →
        dropped = (s.handler c).inHand)
  absent : ∀ c, s.clients ≤ c → s.handler c = .absent

variable {es : List Event} {e : Event}

/- A step that is no step of a handler. -/
theorem Fed.of_other
    (hFed : Fed es h s)
    (hEvent : ∀ c, e.command? c = none)
    (hQueued : ∀ c, queuedBy c o = [])
    (hRuns : s'.upstream ≠ .stopped → s.upstream ≠ .stopped)
    (hHandler : ∀ c, (s'.handler c).inHand =
      (s.handler c).inHand)
    (hAbsent : ∀ c, s'.clients ≤ c → s'.handler c = .absent) :
    Fed (es ++ [e]) (h ++ o) s' := by
  refine ⟨fun c => ?_, hAbsent⟩
  rcases hFed.order c with ⟨dropped, hOrder, hHand⟩
  refine ⟨dropped, ?_, fun hStill => ?_⟩
  · rw [List.filterMap_append, hOrder, queuedBy_append,
      hQueued, List.append_nil, List.filterMap_cons, hEvent]
    exact List.append_nil _
  · rw [hHandler]
    exact hHand (hRuns hStill)

/- What one client sends is no command of another. -/
theorem command_of_ne
    {other : ClientId}
    {event : HandlerEvent}
    (hOther : other ≠ c) :
    (Event.client c event).command? other = none := by
  cases event with
  | line text => simp [Event.command?, Ne.symm hOther]
  | _ => rfl

/- A step of the handler of one client. -/
theorem Fed.of_handler
    {event : HandlerEvent}
    {handler : Handler}
    (hFed : Fed es h s)
    (hPresent : s.handler c ≠ .absent)
    (hHandler : s'.handler =
      Function.update s.handler c handler)
    (hClients : s'.clients = s.clients)
    (hRuns : s'.upstream = s.upstream)
    (hOrder : ∀ before,
      es.filterMap (Event.command? c) =
          queuedBy c h ++ before →
      (s.upstream ≠ .stopped →
        before = (s.handler c).inHand) →
      ∃ dropped,
        (es ++ [Event.client c event]).filterMap
            (Event.command? c) =
          queuedBy c (h ++ o) ++ dropped ∧
        (s.upstream ≠ .stopped → dropped = handler.inHand))
    (hOthers : ∀ other, other ≠ c → queuedBy other o = []) :
    Fed (es ++ [Event.client c event]) (h ++ o) s' := by
  refine ⟨fun other => ?_, fun other hLater => ?_⟩
  · rcases hFed.order other with ⟨before, hBefore, hHand⟩
    rw [hRuns, hHandler]
    by_cases hOther : other = c
    · subst hOther
      rw [Function.update_self]
      exact hOrder before hBefore hHand
    · rw [Function.update_of_ne hOther]
      refine ⟨before, ?_, hHand⟩
      rw [List.filterMap_append, hBefore, queuedBy_append,
        hOthers other hOther, List.append_nil,
        List.filterMap_cons, command_of_ne hOther]
      exact List.append_nil _
  · rw [hClients] at hLater
    rw [hHandler]
    have hOther : other ≠ c := by
      rintro rfl
      exact hPresent (hFed.absent other hLater)
    rw [Function.update_of_ne hOther]
    exact hFed.absent other hLater

/- What a step of a handler does to the client's commands. -/
theorem Fed.handler_step
    {event : HandlerEvent}
    (hFed : Fed es h s)
    (hOpen : s.upstreamTx.isOpen = true ↔
      s.upstream ≠ .stopped)
    (hTask : HandlerStep s c event s' o) :
    Fed (es ++ [Event.client c event]) (h ++ o) s' := by
  have hNoEvent (before : List String)
      (hNone : (Event.client c event).command? c = none)
      (hBefore : es.filterMap (Event.command? c) =
        queuedBy c h ++ before) :
      (es ++ [Event.client c event]).filterMap
          (Event.command? c) =
        queuedBy c (h ++ []) ++ before := by
    rw [List.filterMap_append, hBefore, List.filterMap_cons,
      hNone, List.append_nil]
    exact List.append_nil _
  have hQuiet : ∀ other, other ≠ c →
      queuedBy other [] = [] := fun _ _ => rfl
  cases hTask with
  | @blank text hAt hBlank =>
      refine hFed.of_handler (by simp [hAt])
        (Function.update_eq_self c s.handler).symm rfl rfl ?_
        hQuiet
      intro before hBefore hHand
      exact ⟨before, hNoEvent before
        (by simp [Event.command?, hBlank]) hBefore, hHand⟩
  | @command text hAt hText =>
      refine hFed.of_handler (by simp [hAt]) rfl rfl rfl ?_
        hQuiet
      intro before hBefore hHand
      refine ⟨before ++ [Text.trim text], ?_, fun hRuns => ?_⟩
      · rw [List.filterMap_append, hBefore, List.append_nil,
          List.append_assoc]
        simp [Event.command?, hText]
      · rw [hHand hRuns, hAt]
        rfl
  | @queued trimmed channel hAt hSend =>
      have hRuns := hOpen.mp
        (Channel.trySend_sent_iff.mp hSend).1.1
      refine hFed.of_handler (by simp [hAt]) rfl rfl rfl ?_
        fun other hOther => ?_
      · intro before hBefore hHand
        refine ⟨[], ?_, fun _ => rfl⟩
        rw [List.filterMap_append, hBefore, hHand hRuns, hAt,
          queuedBy_append, queuedBy_queued]
        simp [Event.command?, Handler.inHand]
      · simp [queuedBy, Obs.queued?, Ne.symm hOther]
  | @refused trimmed hAt hClosed =>
      refine hFed.of_handler (by simp [hAt]) rfl rfl rfl ?_
        hQuiet
      intro before hBefore _
      refine ⟨before, hNoEvent before rfl hBefore,
        fun hRuns => ?_⟩
      rw [hOpen.mpr hRuns] at hClosed
      cases hClosed
  | closed hAt =>
      refine hFed.of_handler (by simp [hAt]) rfl rfl rfl ?_
        hQuiet
      intro before hBefore hHand
      refine ⟨before, hNoEvent before rfl hBefore,
        fun hRuns => ?_⟩
      rw [hHand hRuns, hAt]
      rfl
  | failed hAt =>
      refine hFed.of_handler (by simp [hAt]) rfl rfl rfl ?_
        hQuiet
      intro before hBefore hHand
      refine ⟨before, hNoEvent before rfl hBefore,
        fun hRuns => ?_⟩
      rw [hHand hRuns, hAt]
      rfl

------------------------------------------------------------
-- Whole Runs
------------------------------------------------------------

/-
  What becomes of the commands of a run. That all of them are
  queued, and that what is left is still queued, holds while
  the queue's task runs.
-/
structure Delivered
    (debugLogged : Bool)
    (es : List Event)
    (h : List Obs)
    (s : State)
    (queued : List (Sender × String))
    (lost : ConnId → Option String)
    (rest : List String) : Prop where
  clients : ∀ c, commandsOf (.client c) queued = queuedBy c h
  fed : Fed es h s
  beats : ∃ n, commandsOf .heartbeat queued = heartbeats n ∧
    BeatsAt s n
  sent : Sent debugLogged (queued.map Prod.snd) lost rest h s

variable {sends : List (Sender × String)}

theorem commandsOf_append
    (sender sender' : Sender)
    (queued : List (Sender × String))
    (msg : String) :
    commandsOf sender (queued ++ [(sender', msg)]) =
      commandsOf sender queued ++
        if sender' = sender then [msg] else [] := by
  unfold commandsOf
  rw [List.filter_append, List.map_append]
  by_cases hSame : sender' = sender
  · simp [hSame]
  · simp [hSame]

theorem heartbeats_succ (n : Nat) :
    heartbeats (n + 1) = heartbeats n ++
      [Control.heartbeatLine (UInt64.ofNat (n + 1))] := by
  unfold heartbeats
  rw [List.range_succ, List.map_append]
  rfl

theorem BeatsAt.of_same
    {n : Nat}
    (hBeats : BeatsAt s n)
    (hHeartbeat : s'.heartbeat = s.heartbeat)
    (hId : s'.heartbeatId = s.heartbeatId) :
    BeatsAt s' n := by
  unfold BeatsAt at *
  rw [hHeartbeat, hId]
  exact hBeats

/- The clients' part when nothing of a client moves. -/
theorem Delivered.clients_of_quiet
    (hDelivered : Delivered debugLogged es h s sends lost rest)
    (hQueued : ∀ c, queuedBy c o = [])
    (c : ClientId) :
    commandsOf (.client c) sends = queuedBy c (h ++ o) := by
  rw [queuedBy_append, hQueued, List.append_nil]
  exact hDelivered.clients c

/- A step that leaves what carries commands as it is. -/
theorem Delivered.of_other
    (hDelivered : Delivered debugLogged es h s sends lost rest)
    (hLine : SameLine s s')
    (hEvent : ∀ c, e.command? c = none)
    (hQueued : ∀ c, queuedBy c o = [])
    (hWritten : ∀ conn, writtenOn conn o = []) :
    Delivered debugLogged (es ++ [e]) (h ++ o) s' sends lost
      rest := by
  rcases hDelivered.beats with ⟨n, hBeats, hAt⟩
  refine ⟨hDelivered.clients_of_quiet hQueued, ?_,
    ⟨n, hBeats, hAt.of_same hLine.heartbeat
      hLine.heartbeatId⟩, ?_⟩
  · refine hDelivered.fed.of_other hEvent hQueued ?_ ?_ ?_
    · rw [hLine.upstream]
      exact id
    · intro c
      rw [hLine.handler]
    · rw [hLine.clients, hLine.handler]
      exact hDelivered.fed.absent
  · exact hDelivered.sent.of_same hLine.upstream
      hLine.upstreamTx hLine.connections hWritten

/- A new client has sent nothing. -/
theorem Delivered.of_accept
    (hDelivered : Delivered debugLogged es h s sends lost rest) :
    Delivered debugLogged (es ++ [.accept]) (h ++ [])
      (acceptClient s) sends lost rest := by
  rcases hDelivered.beats with ⟨n, hBeats, hAt⟩
  refine ⟨hDelivered.clients_of_quiet fun _ => rfl, ?_,
    ⟨n, hBeats, hAt.of_same rfl rfl⟩, ?_⟩
  · refine hDelivered.fed.of_other (fun _ => rfl)
      (fun _ => rfl) id (fun c => ?_) (fun c hLater => ?_)
    · by_cases hNew : c = s.clients
      · subst hNew
        rw [hDelivered.fed.absent s.clients (Nat.le_refl _)]
        simp [acceptClient, Handler.inHand]
      · simp [acceptClient, hNew]
    · have hOther : c ≠ s.clients := Nat.ne_of_gt hLater
      have hAbsent := hDelivered.fed.absent c
        (Nat.le_of_lt hLater)
      simpa [acceptClient, hOther] using hAbsent
  · exact hDelivered.sent.of_same rfl rfl rfl fun _ => rfl

/- A step of a handler queues at most one command. -/
theorem Delivered.of_handler
    {event : HandlerEvent}
    (hDelivered : Delivered debugLogged es h s sends lost rest)
    (hTask : HandlerStep s c event s' o) :
    ∃ sends' rest',
      Delivered debugLogged (es ++ [Event.client c event])
        (h ++ o) s' sends' lost rest' := by
  have hFed := hDelivered.fed.handler_step
    hDelivered.sent.open_iff hTask
  rcases hDelivered.beats with ⟨n, hBeats, hAt⟩
  cases hTask with
  | @queued trimmed channel hHandler hSend =>
      refine ⟨sends ++ [(.client c, trimmed)],
        rest ++ [trimmed], ?_, hFed, ⟨n, ?_, hAt⟩, ?_⟩
      · intro other
        rw [commandsOf_append, hDelivered.clients other,
          queuedBy_append]
        by_cases hOther : c = other
        · subst hOther
          rw [if_pos rfl, queuedBy_queued]
        · simp [hOther, queuedBy, Obs.queued?]
      · rw [commandsOf_append, hBeats]
        simp
      · rw [List.map_append]
        exact hDelivered.sent.of_send hSend rfl rfl rfl
          fun _ => rfl
  | _ =>
      exact ⟨sends, rest,
        hDelivered.clients_of_quiet fun _ => rfl, hFed,
        ⟨n, hBeats, hAt⟩,
        hDelivered.sent.of_same rfl rfl rfl fun _ => rfl⟩

/- The heartbeat task queues its lines one after the other. -/
theorem Delivered.of_heartbeat
    {event : HeartbeatEvent}
    (hDelivered : Delivered debugLogged es h s sends lost rest)
    (hTask : CommandStep debugLogged s (.heartbeat event) s' o) :
    ∃ sends' rest',
      Delivered debugLogged (es ++ [.heartbeat event]) (h ++ o)
        s' sends' lost rest' := by
  rcases hDelivered.beats with ⟨n, hBeats, hAt⟩
  have hFed {s₁ : State}
      (hUpstream : s₁.upstream = s.upstream)
      (hHandler : s₁.handler = s.handler)
      (hClients : s₁.clients = s.clients) :
      Fed (es ++ [.heartbeat event]) (h ++ []) s₁ := by
    refine hDelivered.fed.of_other (fun _ => rfl)
      (fun _ => rfl) ?_ ?_ ?_
    · rw [hUpstream]
      exact id
    · intro c
      rw [hHandler]
    · rw [hHandler, hClients]
      exact hDelivered.fed.absent
  cases hTask with
  | other hLine hEvent hQueued hWritten =>
      exact ⟨sends, rest,
        hDelivered.of_other hLine hEvent hQueued hWritten⟩
  | woke hSleeping =>
      refine ⟨sends, rest,
        hDelivered.clients_of_quiet fun _ => rfl,
        hFed rfl rfl rfl, ⟨n, hBeats, ?_⟩,
        hDelivered.sent.of_same rfl rfl rfl fun _ => rfl⟩
      unfold BeatsAt at hAt ⊢
      rw [hSleeping] at hAt
      dsimp only at hAt ⊢
      rw [hAt]
      refine ⟨rfl, ?_⟩
      rw [← UInt64.ofNat_one, ← UInt64.ofNat_add]
  | @beat msg channel hSending hSend =>
      unfold BeatsAt at hAt
      rw [hSending] at hAt
      rcases hAt with ⟨hMsg, hNext⟩
      refine ⟨sends ++ [(.heartbeat, msg)], rest ++ [msg],
        fun c => ?_, hFed rfl rfl rfl, ⟨n + 1, ?_, hNext⟩, ?_⟩
      · rw [commandsOf_append, hDelivered.clients c]
        simp
      · rw [commandsOf_append, if_pos rfl, hBeats,
          heartbeats_succ, hMsg]
      · rw [List.map_append]
        exact hDelivered.sent.of_send hSend rfl rfl rfl
          fun _ => rfl
  | stilled _ =>
      exact ⟨sends, rest,
        hDelivered.clients_of_quiet fun _ => rfl,
        hFed rfl rfl rfl, ⟨n, hBeats, trivial⟩,
        hDelivered.sent.of_same rfl rfl rfl fun _ => rfl⟩

/- The upstream task writes what was queued. -/
theorem Delivered.of_upstream
    {event : UpstreamEvent}
    (hDelivered : Delivered debugLogged es h s sends lost rest)
    (hTask : CommandStep debugLogged s (.upstream event) s' o) :
    ∃ lost' rest',
      Delivered debugLogged (es ++ [.upstream event]) (h ++ o)
        s' sends lost' rest' := by
  rcases Sent.of_upstream hTask hDelivered.sent with
    ⟨lost', rest', hSent⟩
  rcases hDelivered.beats with ⟨n, hBeats, hAt⟩
  have hAside : s'.handler = s.handler ∧
      s'.clients = s.clients ∧
      s'.heartbeat = s.heartbeat ∧
      s'.heartbeatId = s.heartbeatId ∧
      (∀ c, queuedBy c o = []) ∧
      (s'.upstream ≠ .stopped → s.upstream ≠ .stopped) := by
    cases hTask with
    | other hLine _ hQueued _ =>
        refine ⟨hLine.handler, hLine.clients, hLine.heartbeat,
          hLine.heartbeatId, hQueued, ?_⟩
        rw [hLine.upstream]
        exact id
    | started hUpstream | connected hUpstream
    | took hUpstream | stopped hUpstream | wrote hUpstream
    | lost hUpstream | readerDead hUpstream =>
        exact ⟨rfl, rfl, rfl, rfl, fun _ => rfl,
          fun _ => by simp [hUpstream]⟩
  rcases hAside with
    ⟨hHandler, hClients, hHeartbeat, hId, hQueued, hRuns⟩
  refine ⟨lost', rest', hDelivered.clients_of_quiet hQueued,
    ?_, ⟨n, hBeats, hAt.of_same hHeartbeat hId⟩, hSent⟩
  refine hDelivered.fed.of_other (fun _ => rfl) hQueued hRuns
    ?_ ?_
  · intro c
    rw [hHandler]
  · rw [hHandler, hClients]
    exact hDelivered.fed.absent

/- What one step keeps. -/
theorem Delivered.step
    (hDelivered : Delivered debugLogged es h s sends lost rest)
    (hTask : CommandStep debugLogged s e s' o) :
    ∃ sends' lost' rest',
      Delivered debugLogged (es ++ [e]) (h ++ o) s' sends' lost'
        rest' := by
  cases e with
  | upstream event =>
      rcases hDelivered.of_upstream hTask with
        ⟨lost', rest', hNext⟩
      exact ⟨sends, lost', rest', hNext⟩
  | heartbeat event =>
      rcases hDelivered.of_heartbeat hTask with
        ⟨sends', rest', hNext⟩
      exact ⟨sends', lost, rest', hNext⟩
  | client c event =>
      cases hTask with
      | handler hHandler =>
          rcases hDelivered.of_handler hHandler with
            ⟨sends', rest', hNext⟩
          exact ⟨sends', lost, rest', hNext⟩
      | other hLine hEvent hQueued hWritten =>
          exact ⟨sends, lost, rest,
            hDelivered.of_other hLine hEvent hQueued hWritten⟩
  | accept =>
      cases hTask with
      | accepted =>
          exact ⟨sends, lost, rest, hDelivered.of_accept⟩
      | other hLine hEvent hQueued hWritten =>
          exact ⟨sends, lost, rest,
            hDelivered.of_other hLine hEvent hQueued hWritten⟩
  | _ =>
      cases hTask with
      | other hLine hEvent hQueued hWritten =>
          exact ⟨sends, lost, rest,
            hDelivered.of_other hLine hEvent hQueued hWritten⟩

end Imaging

end SeestarProxy
