import SeestarProxy.Control.Tasks

/-
  What a step of each task can do.

  The relations list the outcomes of the task functions with
  the guard each one needs, the state it leads to and what
  it shows. Every invariant is proved from them, one case
  for each outcome, without unfolding the tasks again.

  Main declarations:
    * `HandlerStep`, `WriterStep`, `HeartbeatStep`,
      `UpstreamStep`, `ReaderStep` and `ProxyStep`
    * `step_cases`
-/

------------------------------------------------------------
-- Client Handler
------------------------------------------------------------

namespace SeestarProxy

namespace Control

open Library Protocol

/- The request whose id the handler drew and still holds. -/
def Handler.seq? : Handler → Option Nat
| .registering seq _ _ _ _ => some seq
| .refusing seq _ => some seq
| .queueing seq _ _ _ => some seq
| .unregistering seq _ => some seq
| _ => none

/- Program counters with nothing to forward. -/
def Handler.IsIdle : Handler → Prop
| .reading | .replying _ | .ended | .failed => True
| _ => False

/- The outcomes of one step of a client's handler. -/
inductive HandlerStep
    (env : Env)
    (s : State)
    (c : ClientId) :
    HandlerEvent → State → List Obs → Prop
| idle {event : HandlerEvent} {next : Handler}
    (hRunning : s.Running c)
    (hBefore : (s.handler c).seq? = none)
    (hAfter : next.IsIdle)
    (hEvent : event ≠ .register) :
    HandlerStep env s c event
      { s with handler := Function.update s.handler c next }
      []
| parsed {text trimmed : String} {sent : Value}
    (hAt : s.handler c = .reading) :
    HandlerStep env s c (.line text)
      { s with
        handler := Function.update s.handler c
          (.hooking trimmed sent) }
      [.line c sent]
| notifying {action : HookAction} {trimmed : String}
    {sent msg : Value} {forwarded : String}
    (hAt : s.handler c = .hooking trimmed sent)
    (hId : getId msg = none) :
    HandlerStep env s c (.onRequest action)
      { s with
        handler := Function.update s.handler c
          (.forwarding msg forwarded) }
      []
| allocated {action : HookAction} {trimmed : String}
    {sent msg originalId : Value} {next : Handler}
    (hAt : s.handler c = .hooking trimmed sent)
    (hHook : hookProcessed env sent action = some msg)
    (hId : getId msg = some originalId)
    (hNext :
      next = .reading ∨
        ∃ forwarded,
          env.serde.toStr (setJsonRpcId msg s.nextId) =
            some forwarded ∧
          next = .registering s.allocated s.nextId
            originalId (setJsonRpcId msg s.nextId)
            forwarded) :
    HandlerStep env s c (.onRequest action)
      { s with
        nextId := s.nextId + 1
        allocated := s.allocated + 1
        handler := Function.update s.handler c next }
      [.request c sent action msg originalId s.allocated
        s.nextId]
| hookReplied {reply : String}
    {channel : Channel String 64}
    (hAt : s.handler c = .replying reply)
    (hSend : (s.responseTx c).trySend reply =
      .sent channel) :
    HandlerStep env s c .sendReply
      { s with
        handler := Function.update s.handler c .reading
        responseTx :=
          Function.update s.responseTx c channel }
      [.hookReply c reply]
| registered {seq : Nat} {id : UInt64}
    {originalId msg : Value} {forwarded : String}
    (hAt : s.handler c =
      .registering seq id originalId msg forwarded)
    (hLock : s.lock = none)
    (hRoom : s.pending.size < maxPendingRequests) :
    HandlerStep env s c .register
      { s with
        pending := s.pending.insert id
          { clientTx := c
            originalId := originalId
            seq := seq }
        handler := Function.update s.handler c
          (.queueing seq id msg forwarded) }
      [.registered c seq]
| refusedSent {seq : Nat} {id : UInt64}
    {originalId msg : Value} {forwarded : String}
    {channel : Channel String 64}
    (hAt : s.handler c =
      .registering seq id originalId msg forwarded)
    (hLock : s.lock = none)
    (hFull : maxPendingRequests ≤ s.pending.size)
    (hSend : (s.responseTx c).trySend
        (env.serde.toStrOrDefault
          (tooManyPending originalId)) =
      .sent channel) :
    HandlerStep env s c .register
      { s with
        handler := Function.update s.handler c .reading
        responseTx :=
          Function.update s.responseTx c channel }
      [.refused c seq,
        .reply .overflow c seq
          (env.serde.toStrOrDefault
            (tooManyPending originalId))]
| refusedClosed {seq : Nat} {id : UInt64}
    {originalId msg : Value} {forwarded : String}
    (hAt : s.handler c =
      .registering seq id originalId msg forwarded)
    (hLock : s.lock = none)
    (hFull : maxPendingRequests ≤ s.pending.size)
    (hClosed : (s.responseTx c).isOpen = false) :
    HandlerStep env s c .register
      { s with
        handler := Function.update s.handler c .reading }
      [.refused c seq]
| refusedBlocked {seq : Nat} {id : UInt64}
    {originalId msg : Value} {forwarded : String}
    (hAt : s.handler c =
      .registering seq id originalId msg forwarded)
    (hLock : s.lock = none)
    (hFull : maxPendingRequests ≤ s.pending.size)
    (hBlocks : (s.responseTx c).Blocks) :
    HandlerStep env s c .register
      { s with
        handler := Function.update s.handler c
          (.refusing seq
            (env.serde.toStrOrDefault
              (tooManyPending originalId)))
        lock := some (.handler c) }
      [.refused c seq]
| refusalSent {seq : Nat} {error : String}
    {channel : Channel String 64}
    (hAt : s.handler c = .refusing seq error)
    (hSend : (s.responseTx c).trySend error =
      .sent channel) :
    HandlerStep env s c .sendRefusal
      { s with
        handler := Function.update s.handler c .reading
        lock := none
        responseTx :=
          Function.update s.responseTx c channel }
      [.reply .overflow c seq error]
| refusalClosed {seq : Nat} {error : String}
    (hAt : s.handler c = .refusing seq error)
    (hClosed : (s.responseTx c).isOpen = false) :
    HandlerStep env s c .sendRefusal
      { s with
        handler := Function.update s.handler c .reading
        lock := none }
      []
| requestQueued {seq : Nat} {id : UInt64}
    {msg : Value} {forwarded : String}
    {channel : Channel Message 256}
    (hAt : s.handler c = .queueing seq id msg forwarded)
    (hSend : s.upstreamTx.trySend
        ⟨forwarded, msg, .request c seq⟩ =
      .sent channel) :
    HandlerStep env s c .sendUpstream
      { s with
        handler := Function.update s.handler c .reading
        upstreamTx := channel }
      [.queued ⟨forwarded, msg, .request c seq⟩]
| requestFailed {seq : Nat} {id : UInt64}
    {msg : Value} {forwarded : String}
    (hAt : s.handler c = .queueing seq id msg forwarded)
    (hClosed : s.upstreamTx.isOpen = false) :
    HandlerStep env s c .sendUpstream
      { s with
        handler := Function.update s.handler c
          (.unregistering seq id) }
      []
| notificationQueued {msg : Value} {forwarded : String}
    {channel : Channel Message 256}
    (hAt : s.handler c = .forwarding msg forwarded)
    (hSend : s.upstreamTx.trySend
        ⟨forwarded, msg, .notification c⟩ =
      .sent channel) :
    HandlerStep env s c .sendUpstream
      { s with
        handler := Function.update s.handler c .reading
        upstreamTx := channel }
      [.queued ⟨forwarded, msg, .notification c⟩]
| unregistered {seq : Nat} {id : UInt64}
    (hAt : s.handler c = .unregistering seq id)
    (hLock : s.lock = none) :
    HandlerStep env s c .unregister
      { s with
        pending := s.pending.erase id
        handler := Function.update s.handler c .ended }
      [.unregistered c seq]

/- A handler step that leaves the state as it is. -/
private theorem HandlerStep.stay
    {env : Env}
    {s : State}
    {c : ClientId}
    {event : HandlerEvent}
    (hAt : s.handler c = .reading)
    (hEvent : event ≠ .register) :
    HandlerStep env s c event s [] := by
  have hIdle :
      HandlerStep env s c event
        { s with
          handler :=
            Function.update s.handler c .reading } [] :=
    .idle (by simp [State.Running, hAt])
      (by simp [hAt, Handler.seq?]) trivial hEvent
  rwa [← hAt, Function.update_eq_self] at hIdle

/- A message after the hook draws an id or is passed on. -/
private theorem forwardMessage_cases
    {env : Env}
    {s : State}
    {c : ClientId}
    {trimmed : String}
    {sent msg : Value}
    {action : HookAction}
    (hAt : s.handler c = .hooking trimmed sent)
    (hHook : hookProcessed env sent action = some msg) :
    HandlerStep env s c (.onRequest action)
      (forwardMessage env s c sent action msg).1
      (forwardMessage env s c sent action msg).2 := by
  unfold forwardMessage
  cases hId : getId msg with
  | none =>
      cases hText : env.serde.toStr msg with
      | none =>
          exact .idle (by simp [State.Running, hAt])
            (by simp [hAt, Handler.seq?]) trivial nofun
      | some forwarded => exact .notifying hAt hId
  | some originalId =>
      apply HandlerStep.allocated hAt hHook hId
      cases hText :
          env.serde.toStr (setJsonRpcId msg s.nextId) with
      | none => exact Or.inl rfl
      | some forwarded =>
          exact Or.inr ⟨forwarded, rfl, rfl⟩

theorem handleClient_cases
    {env : Env}
    {s s' : State}
    {c : ClientId}
    {event : HandlerEvent}
    {o : List Obs}
    (hStep : handleClient env s c event = some (s', o)) :
    HandlerStep env s c event s' o := by
  unfold handleClient at hStep
  split at hStep
  · rename_i text hAt
    simp only at hStep
    split at hStep
    · cases hStep
      exact .stay hAt nofun
    · split at hStep
      · split at hStep
        · cases hStep
          exact .idle (by simp [State.Running, hAt])
            (by simp [hAt, Handler.seq?]) trivial nofun
        · cases hStep
          exact .stay hAt nofun
      · cases hStep
        exact .parsed hAt
  · rename_i action trimmed sent hAt
    split at hStep
    · cases hStep
    · have hRunning : s.Running c := by
        simp [State.Running, hAt]
      have hSeq : (s.handler c).seq? = none := by
        simp [hAt, Handler.seq?]
      split at hStep
      · have hHook :
            hookProcessed env sent .forward = some sent :=
          rfl
        have hNext := forwardMessage_cases hAt hHook
        rwa [Option.some.inj hStep] at hNext
      · rename_i json _
        have hHook :
            hookProcessed env sent (.modify json) =
              some ((env.serde.fromStr json).getD sent) :=
          rfl
        have hNext := forwardMessage_cases hAt hHook
        rwa [Option.some.inj hStep] at hNext
      · cases hStep
        refine .idle hRunning hSeq ?_ nofun
        split <;> trivial
      · cases hStep
        refine .idle hRunning hSeq ?_ nofun
        split <;> trivial
  · rename_i reply hAt
    split at hStep
    · rename_i channel hSend
      cases hStep
      exact .hookReplied hAt hSend
    · cases hStep
      exact .idle (by simp [State.Running, hAt])
        (by simp [hAt, Handler.seq?]) trivial nofun
    · cases hStep
  · rename_i seq id originalId msg forwarded hAt
    split at hStep
    · cases hStep
    · rename_i hLock
      have hFree : s.lock = none := not_not.mp hLock
      split at hStep
      · rename_i hFull
        simp only at hStep
        split at hStep
        · rename_i channel hSend
          cases hStep
          exact .refusedSent hAt hFree hFull hSend
        · rename_i hSend
          cases hStep
          exact .refusedClosed hAt hFree hFull
            (Channel.trySend_closed_iff.mp hSend)
        · rename_i hSend
          cases hStep
          exact .refusedBlocked hAt hFree hFull
            (Channel.trySend_full_iff.mp hSend)
      · rename_i hRoom
        cases hStep
        exact .registered hAt hFree (not_le.mp hRoom)
  · rename_i seq error hAt
    split at hStep
    · rename_i channel hSend
      cases hStep
      exact .refusalSent hAt hSend
    · rename_i hSend
      cases hStep
      exact .refusalClosed hAt
        (Channel.trySend_closed_iff.mp hSend)
    · cases hStep
  · rename_i seq id msg forwarded hAt
    simp only at hStep
    split at hStep
    · rename_i channel hSend
      cases hStep
      exact .requestQueued hAt hSend
    · rename_i hSend
      cases hStep
      exact .requestFailed hAt
        (Channel.trySend_closed_iff.mp hSend)
    · cases hStep
  · rename_i msg forwarded hAt
    simp only at hStep
    split at hStep
    · rename_i channel hSend
      cases hStep
      exact .notificationQueued hAt hSend
    · cases hStep
      exact .idle (by simp [State.Running, hAt])
        (by simp [hAt, Handler.seq?]) trivial nofun
    · cases hStep
  · rename_i seq id hAt
    split at hStep
    · cases hStep
    · rename_i hLock
      cases hStep
      exact .unregistered hAt (not_not.mp hLock)
  · rename_i hAt
    cases hStep
    exact .idle (by simp [State.Running, hAt])
      (by simp [hAt, Handler.seq?]) trivial nofun
  · rename_i hAt
    cases hStep
    exact .idle (by simp [State.Running, hAt])
      (by simp [hAt, Handler.seq?]) trivial nofun
  · cases hStep

------------------------------------------------------------
-- Client Writer
------------------------------------------------------------

/- The outcomes of one step of a client's writer. -/
inductive WriterStep
    (s : State)
    (c : ClientId) :
    WriterEvent → State → List Obs → Prop
| received {text : String} {channel : Channel String 64}
    (hAt : s.writer c = .selecting)
    (hRecv : (s.responseTx c).recv =
      some (text, channel)) :
    WriterStep s c .recvResponse
      { s with
        writer :=
          Function.update s.writer c (.writing text)
        responseTx :=
          Function.update s.responseTx c channel }
      []
| lagged
    (hAt : s.writer c = .selecting)
    (hLag : s.eventRx c + 256 < s.events.length) :
    WriterStep s c .recvEvent
      { s with
        eventRx := Function.update s.eventRx c
          (s.events.length - 256) }
      []
| eventRead {conn : ConnId} {text : String}
    (hAt : s.writer c = .selecting)
    (hEvent :
      s.events[s.eventRx c]? = some (conn, text)) :
    WriterStep s c .recvEvent
      { s with
        writer :=
          Function.update s.writer c (.writing text)
        eventRx := Function.update s.eventRx c
          (s.eventRx c + 1) }
      [.eventRead c conn text]
| wrote {text : String}
    (hAt : s.writer c = .writing text) :
    WriterStep s c (.write true)
      { s with
        writer := Function.update s.writer c .selecting }
      [.delivered c text]
| ended {event : WriterEvent}
    (hAt : s.writer c = .selecting ∨
      ∃ text, s.writer c = .writing text) :
    WriterStep s c event
      { s with
        writer := Function.update s.writer c .ended
        responseTx := Function.update s.responseTx c
          (s.responseTx c).close }
      []

theorem clientWriter_cases
    {s s' : State}
    {c : ClientId}
    {event : WriterEvent}
    {o : List Obs}
    (hStep : clientWriter s c event = some (s', o)) :
    WriterStep s c event s' o := by
  unfold clientWriter at hStep
  split at hStep
  · rename_i hAt
    split at hStep
    · cases hStep
    · rename_i text channel hRecv
      cases hStep
      exact .received hAt hRecv
  · rename_i hAt
    split at hStep
    · rename_i hLag
      cases hStep
      exact .lagged hAt hLag
    · split at hStep
      · cases hStep
      · rename_i conn text hEvent
        cases hStep
        exact .eventRead hAt hEvent
  · rename_i text hAt
    cases hStep
    exact .wrote hAt
  · rename_i text hAt
    cases hStep
    exact .ended (Or.inr ⟨text, hAt⟩)
  · rename_i hAt
    split at hStep
    · cases hStep
      exact .ended (Or.inl hAt)
    · cases hStep
  · rename_i text hAt
    split at hStep
    · cases hStep
      exact .ended (Or.inr ⟨text, hAt⟩)
    · cases hStep
  · cases hStep

------------------------------------------------------------
-- Heartbeat
------------------------------------------------------------

/- The outcomes of one step of the heartbeat task. -/
inductive HeartbeatStep (s : State) :
    HeartbeatEvent → State → List Obs → Prop
| slept
    (hAt : s.heartbeat = .sleeping) :
    HeartbeatStep s .wake s []
| checked
    (hAt : s.heartbeat = .sleeping)
    (hDone : s.handshakeDone = true) :
    HeartbeatStep s .wake
      { s with heartbeat := .checked } []
| allocated
    (hAt : s.heartbeat = .checked) :
    HeartbeatStep s .allocate
      { s with
        nextId := s.nextId + 1
        allocated := s.allocated + 1
        heartbeat := .sending
          ⟨heartbeatLine s.nextId,
            heartbeatValue s.nextId,
            .heartbeat s.allocated⟩ }
      [.heartbeat s.allocated]
| queued {message : Message}
    {channel : Channel Message 256}
    (hAt : s.heartbeat = .sending message)
    (hSend : s.upstreamTx.trySend message =
      .sent channel) :
    HeartbeatStep s .send
      { s with
        upstreamTx := channel
        heartbeat := .sleeping }
      [.queued message]
| ended {message : Message}
    (hAt : s.heartbeat = .sending message) :
    HeartbeatStep s .send
      { s with heartbeat := .ended } []

theorem heartbeatTask_cases
    {s s' : State}
    {event : HeartbeatEvent}
    {o : List Obs}
    (hStep : heartbeatTask s event = some (s', o)) :
    HeartbeatStep s event s' o := by
  unfold heartbeatTask at hStep
  split at hStep
  · rename_i hAt
    split at hStep
    · rename_i hDone
      cases hStep
      exact .checked hAt hDone
    · cases hStep
      exact .slept hAt
  · rename_i hAt
    cases hStep
    exact .allocated hAt
  · rename_i message hAt
    split at hStep
    · rename_i channel hSend
      cases hStep
      exact .queued hAt hSend
    · cases hStep
      exact .ended hAt
    · cases hStep
  · cases hStep

------------------------------------------------------------
-- Upstream Task
------------------------------------------------------------

/- The outcomes of one step of the upstream task. -/
inductive UpstreamStep
    (env : Env)
    (s : State) :
    UpstreamEvent → State → List Obs → Prop
| started
    (hAt : s.upstream = .waiting) :
    UpstreamStep env s .start
      { s with
        upstream := .connecting
        heartbeat := .sleeping }
      []
| connected
    (hAt : s.upstream = .connecting) :
    UpstreamStep env s .connect
      { s with upstream := .connected } []
| reset
    (hAt : s.upstream = .connected) :
    UpstreamStep env s .resetHandshake
      { s with
        handshakeDone := false
        upstream := .locking }
      []
| locked
    (hAt : s.upstream = .locking)
    (hLock : s.lock = none) :
    UpstreamStep env s .lockPending
      { s with
        lock := some .upstream
        upstream := .draining }
      []
| drainSent {key : UInt64} {pending : PendingRequest}
    {channel : Channel String 64}
    (hAt : s.upstream = .draining)
    (hEntry : s.pending.lookup key = some pending)
    (hSend : (s.responseTx pending.clientTx).trySend
        (env.serde.toStrOrDefault
          (telescopeReconnecting pending.originalId)) =
      .sent channel) :
    UpstreamStep env s (.drain key)
      { s with
        pending := s.pending.erase key
        responseTx := Function.update s.responseTx
          pending.clientTx channel }
      [.drained pending.clientTx pending.seq
          (decide (s.Running pending.clientTx)),
        .reply .drain pending.clientTx pending.seq
          (env.serde.toStrOrDefault
            (telescopeReconnecting pending.originalId))]
| drainLost {key : UInt64} {pending : PendingRequest}
    (hAt : s.upstream = .draining)
    (hEntry : s.pending.lookup key = some pending)
    (hRefused :
      ¬ (s.responseTx pending.clientTx).Accepts) :
    UpstreamStep env s (.drain key)
      { s with pending := s.pending.erase key }
      [.drained pending.clientTx pending.seq
        (decide (s.Running pending.clientTx))]
| unlocked
    (hAt : s.upstream = .draining)
    (hEmpty : s.pending.size = 0) :
    UpstreamStep env s .unlockPending
      { s with
        lock := none
        upstream := .hooking }
      []
| spawned
    (hAt : s.upstream = .hooking) :
    UpstreamStep env s .spawnReader
      { s with
        connections := s.connections + 1
        reader :=
          Function.update s.reader s.connections .spawned
        upstream := .selecting s.connections }
      []
| took {conn : ConnId} {message : Message}
    {channel : Channel Message 256}
    (hAt : s.upstream = .selecting conn)
    (hRecv : s.upstreamTx.recv =
      some (message, channel)) :
    UpstreamStep env s .recv
      { s with
        upstreamTx := channel
        upstream := .writing conn message }
      [.taken message]
| stopped {conn : ConnId}
    (hAt : s.upstream = .selecting conn) :
    UpstreamStep env s .recv
      { s with
        upstreamTx := s.upstreamTx.close
        upstream := .stopped }
      []
| wrote {conn : ConnId} {message : Message}
    (hAt : s.upstream = .writing conn message) :
    UpstreamStep env s (.write true)
      { s with
        written := Function.update s.written conn
          (s.written conn ++ [message])
        upstream := .selecting conn }
      [.written conn message]
| lost {conn : ConnId} {message : Message}
    (hAt : s.upstream = .writing conn message) :
    UpstreamStep env s (.write false)
      { s with upstream := .connecting }
      [.lost message]
| readerDead {conn : ConnId}
    (hAt : s.upstream = .selecting conn)
    (hOver : (s.reader conn).IsOver) :
    UpstreamStep env s .readerDead
      { s with upstream := .connecting } []

theorem upstreamTask_cases
    {env : Env}
    {s s' : State}
    {event : UpstreamEvent}
    {o : List Obs}
    (hStep : upstreamTask env s event = some (s', o)) :
    UpstreamStep env s event s' o := by
  unfold upstreamTask at hStep
  split at hStep
  · rename_i hAt
    split at hStep
    · cases hStep
      exact .started hAt
    · cases hStep
  · rename_i hAt
    cases hStep
    exact .connected hAt
  · rename_i hAt
    cases hStep
    exact .reset hAt
  · rename_i hAt
    split at hStep
    · cases hStep
    · rename_i hLock
      cases hStep
      exact .locked hAt (not_not.mp hLock)
  · rename_i key hAt
    split at hStep
    · cases hStep
    · rename_i pending hEntry
      simp only at hStep
      split at hStep
      · rename_i channel hSend
        cases hStep
        exact .drainSent hAt hEntry hSend
      · rename_i hSend
        cases hStep
        have hBlocks := Channel.trySend_full_iff.mp hSend
        exact .drainLost hAt hEntry
          (fun hAccepts => hAccepts.not_blocks hBlocks)
      · rename_i hSend
        cases hStep
        have hClosed := Channel.trySend_closed_iff.mp hSend
        refine .drainLost hAt hEntry fun hAccepts => ?_
        rw [hAccepts.1] at hClosed
        cases hClosed
  · rename_i hAt
    split at hStep
    · rename_i hEmpty
      cases hStep
      exact .unlocked hAt hEmpty
    · cases hStep
  · rename_i hAt
    cases hStep
    exact .spawned hAt
  · rename_i conn hAt
    split at hStep
    · cases hStep
    · rename_i message channel hRecv
      split at hStep
      · cases hStep
        exact .stopped hAt
      · cases hStep
        exact .took hAt hRecv
  · rename_i conn message hAt
    cases hStep
    exact .wrote hAt
  · rename_i conn message hAt
    cases hStep
    exact .lost hAt
  · rename_i conn hAt
    split at hStep
    · rename_i hOver
      cases hStep
      exact .readerDead hAt hOver
    · cases hStep
  · cases hStep

------------------------------------------------------------
-- Upstream Reader
------------------------------------------------------------

/- The outcomes of one step of a connection's reader. -/
inductive ReaderStep
    (env : Env)
    (s : State)
    (conn : ConnId) :
    ReaderEvent → State → List Obs → Prop
| started
    (hAt : s.reader conn = .spawned) :
    ReaderStep env s conn .start
      { s with
        reader := Function.update s.reader conn .reading
        upstreamControlUp := true }
      []
| skipped {text : String}
    (hAt : s.reader conn = .reading) :
    ReaderStep env s conn (.line text) s []
| panicked {text : String}
    (hAt : s.reader conn = .reading) :
    ReaderStep env s conn (.line text)
      { s with
        reader := Function.update s.reader conn .panicked }
      []
| received {text trimmed : String}
    (hAt : s.reader conn = .reading)
    (hTrim : trimmed = Text.trim text)
    (hText : trimmed ≠ "") :
    ReaderStep env s conn (.line text)
      { s with
        handshakeDone := true
        reader := Function.update s.reader conn
          (routeLine env trimmed) }
      [.received conn trimmed]
| hooked {action : HookAction} {trimmed : String}
    (hAt : s.reader conn = .eventHook trimmed ∨
      s.reader conn = .responseHook trimmed) :
    ReaderStep env s conn (.hook action)
      { s with
        reader := Function.update s.reader conn
          (afterHook trimmed action) }
      []
| removed {id : UInt64} {msg : Value}
    {trimmed : String} {pending : PendingRequest}
    (hAt : s.reader conn = .removing id msg trimmed)
    (hLock : s.lock = none)
    (hEntry : s.pending.lookup id = some pending) :
    ReaderStep env s conn .remove
      { s with
        pending := s.pending.erase id
        reader := Function.update s.reader conn
          (.delivering pending.clientTx pending.seq trimmed
            (env.serde.toStrOrDefault
              (setJsonRpcIdValue msg
                pending.originalId))) }
      [.removed conn pending.clientTx pending.seq]
| missed {id : UInt64} {msg : Value} {trimmed : String}
    (hAt : s.reader conn = .removing id msg trimmed)
    (hLock : s.lock = none)
    (hEntry : s.pending.lookup id = none) :
    ReaderStep env s conn .remove
      { s with
        reader := Function.update s.reader conn
          (.responseHook trimmed) }
      []
| broadcast {trimmed : String}
    (hAt : s.reader conn = .broadcasting trimmed) :
    ReaderStep env s conn .broadcast
      { s with
        events := s.events ++ [(conn, trimmed)]
        reader := Function.update s.reader conn .reading }
      [.broadcast conn trimmed]
| delivered {c : ClientId} {seq : Nat}
    {trimmed text : String} {channel : Channel String 64}
    (hAt : s.reader conn = .delivering c seq trimmed text)
    (hSend : (s.responseTx c).trySend text =
      .sent channel) :
    ReaderStep env s conn .deliver
      { s with
        responseTx :=
          Function.update s.responseTx c channel
        reader := Function.update s.reader conn .reading }
      [.reply (.reader conn trimmed) c seq text]
| undelivered {c : ClientId} {seq : Nat}
    {trimmed text : String}
    (hAt : s.reader conn = .delivering c seq trimmed text)
    (hClosed : (s.responseTx c).isOpen = false) :
    ReaderStep env s conn .deliver
      { s with
        reader := Function.update s.reader conn .reading }
      [.undelivered c seq]
| stopped
    (hAt : s.reader conn = .reading) :
    ReaderStep env s conn .stop
      { s with
        reader := Function.update s.reader conn .done
        upstreamControlUp := false }
      []

theorem upstreamReaderTask_cases
    {env : Env}
    {s s' : State}
    {conn : ConnId}
    {event : ReaderEvent}
    {o : List Obs}
    (hStep : upstreamReaderTask env s conn event =
      some (s', o)) :
    ReaderStep env s conn event s' o := by
  unfold upstreamReaderTask at hStep
  split at hStep
  · rename_i hAt
    cases hStep
    exact .started hAt
  · rename_i text hAt
    simp only at hStep
    split at hStep
    · cases hStep
    · split at hStep
      · cases hStep
        exact .skipped hAt
      · rename_i hText
        split at hStep
        · cases hStep
          exact .panicked hAt
        · cases hStep
          exact .received hAt rfl hText
  · rename_i action trimmed hAt
    split at hStep
    · cases hStep
    · cases hStep
      exact .hooked (Or.inl hAt)
  · rename_i action trimmed hAt
    split at hStep
    · cases hStep
    · cases hStep
      exact .hooked (Or.inr hAt)
  · rename_i id msg trimmed hAt
    split at hStep
    · cases hStep
    · rename_i hLock
      have hFree : s.lock = none := not_not.mp hLock
      split at hStep
      · rename_i pending hEntry
        cases hStep
        exact .removed hAt hFree hEntry
      · rename_i hEntry
        cases hStep
        exact .missed hAt hFree hEntry
  · rename_i trimmed hAt
    cases hStep
    exact .broadcast hAt
  · rename_i c seq trimmed text hAt
    split at hStep
    · rename_i channel hSend
      cases hStep
      exact .delivered hAt hSend
    · rename_i hSend
      cases hStep
      exact .undelivered hAt
        (Channel.trySend_closed_iff.mp hSend)
    · cases hStep
  · rename_i hAt
    cases hStep
    exact .stopped hAt
  · cases hStep

------------------------------------------------------------
-- The Proxy
------------------------------------------------------------

/- The outcomes of one step of the proxy. -/
inductive ProxyStep
    (env : Env)
    (s : State) :
    Event → State → List Obs → Prop
| notified :
    ProxyStep env s .notify
      { s with upstreamStarted := true } []
| accepted :
    ProxyStep env s .accept (acceptClient s) []
| client {c : ClientId} {event : HandlerEvent}
    {s' : State} {o : List Obs}
    (hTask : HandlerStep env s c event s' o) :
    ProxyStep env s (.client c event) s' o
| writer {c : ClientId} {event : WriterEvent}
    {s' : State} {o : List Obs}
    (hTask : WriterStep s c event s' o) :
    ProxyStep env s (.writer c event) s' o
| heartbeat {event : HeartbeatEvent}
    {s' : State} {o : List Obs}
    (hTask : HeartbeatStep s event s' o) :
    ProxyStep env s (.heartbeat event) s' o
| upstream {event : UpstreamEvent}
    {s' : State} {o : List Obs}
    (hTask : UpstreamStep env s event s' o) :
    ProxyStep env s (.upstream event) s' o
| reader {conn : ConnId} {event : ReaderEvent}
    {s' : State} {o : List Obs}
    (hTask : ReaderStep env s conn event s' o) :
    ProxyStep env s (.reader conn event) s' o
| hookSent {value : Value} {line : String}
    {channel : Channel Message 256}
    (hSend : s.upstreamTx.trySend ⟨line, value, .hook⟩ =
      .sent channel) :
    ProxyStep env s (.hookSend value)
      { s with upstreamTx := channel }
      [.queued ⟨line, value, .hook⟩]
| hookIgnored {value : Value} :
    ProxyStep env s (.hookSend value) s []

/- Every step of the proxy has one of the outcomes. -/
theorem step_cases
    {env : Env}
    {s s' : State}
    {e : Event}
    {o : List Obs}
    (hStep : (proxy env).step s e = some (s', o)) :
    ProxyStep env s e s' o := by
  change step env s e = some (s', o) at hStep
  cases e with
  | notify =>
      cases hStep
      exact .notified
  | accept =>
      simp only [step] at hStep
      split at hStep
      · cases hStep
        exact .accepted
      · cases hStep
  | client c event =>
      exact .client (handleClient_cases hStep)
  | writer c event =>
      exact .writer (clientWriter_cases hStep)
  | heartbeat event =>
      exact .heartbeat (heartbeatTask_cases hStep)
  | upstream event =>
      exact .upstream (upstreamTask_cases hStep)
  | reader conn event =>
      exact .reader (upstreamReaderTask_cases hStep)
  | hookSend value =>
      simp only [step, hookSend] at hStep
      split at hStep
      · cases hStep
      · split at hStep
        · cases hStep
          exact .hookIgnored
        · split at hStep
          · rename_i channel hSend
            cases hStep
            exact .hookSent hSend
          · cases hStep
            exact .hookIgnored
          · cases hStep
            exact .hookIgnored

end Control

end SeestarProxy
