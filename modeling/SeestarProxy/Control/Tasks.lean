import SeestarProxy.Control.State
import SeestarProxy.Library.Machine

/-
  The tasks of the control proxy, one step at a time.

  Each task is a function from its next event to the state
  after one step and what the step shows; `none` means that
  the task cannot take that step now. A step makes at most
  one access to shared data, so any order of steps is an
  interleaving of the program.

  Main declarations:
    * `handleClient` and `clientWriter`
    * `heartbeatTask` and `upstreamTask`
    * `upstreamReaderTask`
    * `Event`, `step` and `proxy`
-/

------------------------------------------------------------
-- Texts
------------------------------------------------------------

namespace SeestarProxy

namespace Control

open Library Protocol

/- A logged preview slice that panics. -/
def previewPanics
    (logged : Bool)
    (text : String)
    (n : Nat) : Bool :=
  logged && (Text.preview text.toList n).isNone

/- The peek at a telescope line for the log; may panic. -/
def methodHint (trimmed : String) : Option (List Char) :=
  let chars := trimmed.toList
  if Text.byteLen chars > 20 then
    match Text.findFrom "\"method\"".toList chars with
    | some found => Text.preview found 50
    | none =>
        match Text.findFrom "\"Event\"".toList chars with
        | some found => Text.preview found 40
        | none => Text.preview chars 60
  else
    some chars

/- The error for a request above the pending limit. -/
def tooManyPending (originalId : Value) : Value :=
  Value.ofMembers
    [("id", originalId),
      ("code", .number (.negInt (-32000))),
      ("error", .string "too many pending requests")]

/- The error for a request cut off by a reconnect. -/
def telescopeReconnecting (originalId : Value) : Value :=
  Value.ofMembers
    [("id", originalId),
      ("code", .number (.negInt (-1))),
      ("error", .string "telescope reconnecting")]

/- The line of a heartbeat. -/
def heartbeatLine (id : UInt64) : String :=
  "\x7b\"id\":" ++ toString id.toNat ++
    ",\"method\":\"test_connection\"" ++
    ",\"params\":\"verify\"\x7d"

/- The JSON value that the heartbeat line spells. -/
def heartbeatValue (id : UInt64) : Value :=
  Value.ofMembers
    [("id", .number (.posInt id)),
      ("method", .string "test_connection"),
      ("params", .string "verify")]

------------------------------------------------------------
-- Client Handler
------------------------------------------------------------

/- What the handler of a client does next. -/
inductive HandlerEvent where
| line (text : String)
| onRequest (action : HookAction)
| sendReply
| register
| sendRefusal
| sendUpstream
| unregister
| close
| readError

/-
  The message that the request hook lets through: a modified
  message that is not JSON is replaced by the original one.
-/
def hookProcessed
    (env : Env)
    (sent : Value) :
    HookAction → Option Value
| .forward => some sent
| .modify json => some ((env.serde.fromStr json).getD sent)
| .block | .reply _ => none

/-
  Forward a message after the hook. A message with an id
  draws the next upstream id and waits for the pending map;
  a message without one goes to the upstream channel as it
  is.
-/
def forwardMessage
    (env : Env)
    (s : State)
    (c : ClientId)
    (sent : Value)
    (action : HookAction)
    (msg : Value) : State × List Obs :=
  match getId msg with
  | some originalId =>
      let remapped := setJsonRpcId msg s.nextId
      let next :=
        match env.serde.toStr remapped with
        | some forwarded =>
            .registering s.allocated s.nextId originalId
              remapped forwarded
        | none => .reading
      ({ s with
          nextId := s.nextId + 1
          allocated := s.allocated + 1
          handler := Function.update s.handler c next },
        [.request c sent action msg originalId
          s.allocated s.nextId])
  | none =>
      let next :=
        match env.serde.toStr msg with
        | some forwarded => .forwarding msg forwarded
        | none => .failed
      ({ s with
          handler := Function.update s.handler c next }, [])

/- One step of `handle_client` for client `c`. -/
def handleClient
    (env : Env)
    (s : State)
    (c : ClientId)
    (event : HandlerEvent) :
    Option (State × List Obs) :=
  match event, s.handler c with
  | .line text, .reading =>
      let trimmed := Text.trim text
      if trimmed = "" then
        some (s, [])
      else
        match env.serde.fromStr trimmed with
        | none =>
            if previewPanics env.warnLogged trimmed 100 then
              some ({ s with
                handler :=
                  Function.update s.handler c .failed }, [])
            else
              some (s, [])
        | some sent =>
            some ({ s with
              handler := Function.update s.handler c
                (.hooking trimmed sent) }, [.line c sent])
  | .onRequest action, .hooking trimmed sent =>
      if env.hooks = false ∧ action ≠ .forward then
        none
      else
        match action with
        | .forward =>
            some (forwardMessage env s c sent action sent)
        | .modify json =>
            some (forwardMessage env s c sent action
              ((env.serde.fromStr json).getD sent))
        | .block =>
            let next :=
              if previewPanics env.debugLogged trimmed 100
              then .failed else .reading
            some ({ s with
              handler :=
                Function.update s.handler c next }, [])
        | .reply json =>
            let next :=
              if previewPanics env.debugLogged json 100
              then .failed else .replying json
            some ({ s with
              handler :=
                Function.update s.handler c next }, [])
  | .sendReply, .replying reply =>
      match (s.responseTx c).trySend reply with
      | .sent channel =>
          some ({ s with
            handler := Function.update s.handler c .reading
            responseTx :=
              Function.update s.responseTx c channel },
            [.hookReply c reply])
      | .closed =>
          some ({ s with
            handler :=
              Function.update s.handler c .reading }, [])
      | .full => none
  | .register, .registering seq id originalId msg forwarded =>
      if s.lock ≠ none then
        none
      else if maxPendingRequests ≤ s.pending.size then
        let error := env.serde.toStrOrDefault
          (tooManyPending originalId)
        -- The mutex stays held while the error is sent.
        match (s.responseTx c).trySend error with
        | .sent channel =>
            some ({ s with
              handler :=
                Function.update s.handler c .reading
              responseTx :=
                Function.update s.responseTx c channel },
              [.refused c seq,
                .reply .overflow c seq error])
        | .closed =>
            some ({ s with
              handler :=
                Function.update s.handler c .reading },
              [.refused c seq])
        | .full =>
            some ({ s with
              handler := Function.update s.handler c
                (.refusing seq error)
              lock := some (.handler c) },
              [.refused c seq])
      else
        some ({ s with
          pending := s.pending.insert id
            { clientTx := c
              originalId := originalId
              seq := seq }
          handler := Function.update s.handler c
            (.queueing seq id msg forwarded) },
          [.registered c seq])
  | .sendRefusal, .refusing seq error =>
      match (s.responseTx c).trySend error with
      | .sent channel =>
          some ({ s with
            handler := Function.update s.handler c .reading
            lock := none
            responseTx :=
              Function.update s.responseTx c channel },
            [.reply .overflow c seq error])
      | .closed =>
          some ({ s with
            handler := Function.update s.handler c .reading
            lock := none }, [])
      | .full => none
  | .sendUpstream, .queueing seq id msg forwarded =>
      let message : Message :=
        ⟨forwarded, msg, .request c seq⟩
      match s.upstreamTx.trySend message with
      | .sent channel =>
          some ({ s with
            handler := Function.update s.handler c .reading
            upstreamTx := channel }, [.queued message])
      | .closed =>
          some ({ s with
            handler := Function.update s.handler c
              (.unregistering seq id) }, [])
      | .full => none
  | .sendUpstream, .forwarding msg forwarded =>
      let message : Message :=
        ⟨forwarded, msg, .notification c⟩
      match s.upstreamTx.trySend message with
      | .sent channel =>
          some ({ s with
            handler := Function.update s.handler c .reading
            upstreamTx := channel }, [.queued message])
      | .closed =>
          some ({ s with
            handler :=
              Function.update s.handler c .ended }, [])
      | .full => none
  | .unregister, .unregistering seq id =>
      if s.lock ≠ none then
        none
      else
        some ({ s with
          pending := s.pending.erase id
          handler := Function.update s.handler c .ended },
          [.unregistered c seq])
  | .close, .reading =>
      some ({ s with
        handler := Function.update s.handler c .ended }, [])
  | .readError, .reading =>
      some ({ s with
        handler := Function.update s.handler c .failed }, [])
  | _, _ => none

------------------------------------------------------------
-- Client Writer
------------------------------------------------------------

/- What the writer of a client does next. -/
inductive WriterEvent where
| recvResponse
| recvEvent
| write (ok : Bool)
| abort

/-
  One step of the task that writes to client `c`. A receiver
  that is more than 256 events behind skips to the oldest
  one that is kept.
-/
def clientWriter
    (s : State)
    (c : ClientId)
    (event : WriterEvent) :
    Option (State × List Obs) :=
  match event, s.writer c with
  | .recvResponse, .selecting =>
      match (s.responseTx c).recv with
      | none => none
      | some (text, channel) =>
          some ({ s with
            writer :=
              Function.update s.writer c (.writing text)
            responseTx :=
              Function.update s.responseTx c channel }, [])
  | .recvEvent, .selecting =>
      if s.eventRx c + 256 < s.events.length then
        some ({ s with
          eventRx := Function.update s.eventRx c
            (s.events.length - 256) }, [])
      else
        match s.events[s.eventRx c]? with
        | none => none
        | some (conn, text) =>
            some ({ s with
              writer :=
                Function.update s.writer c (.writing text)
              eventRx := Function.update s.eventRx c
                (s.eventRx c + 1) },
              [.eventRead c conn text])
  | .write true, .writing text =>
      some ({ s with
        writer := Function.update s.writer c .selecting },
        [.delivered c text])
  | .write false, .writing _ =>
      some ({ s with
        writer := Function.update s.writer c .ended
        responseTx := Function.update s.responseTx c
          (s.responseTx c).close }, [])
  | .abort, .selecting | .abort, .writing _ =>
      if s.handler c = .ended then
        some ({ s with
          writer := Function.update s.writer c .ended
          responseTx := Function.update s.responseTx c
            (s.responseTx c).close }, [])
      else
        none
  | _, _ => none

------------------------------------------------------------
-- Heartbeat
------------------------------------------------------------

/- What the heartbeat task does next. -/
inductive HeartbeatEvent where
| wake
| allocate
| send

/- One step of the heartbeat task. -/
def heartbeatTask
    (s : State)
    (event : HeartbeatEvent) :
    Option (State × List Obs) :=
  match event, s.heartbeat with
  | .wake, .sleeping =>
      if s.handshakeDone = true then
        some ({ s with heartbeat := .checked }, [])
      else
        some (s, [])
  | .allocate, .checked =>
      let message : Message :=
        ⟨heartbeatLine s.nextId, heartbeatValue s.nextId,
          .heartbeat s.allocated⟩
      some ({ s with
        nextId := s.nextId + 1
        allocated := s.allocated + 1
        heartbeat := .sending message },
        [.heartbeat s.allocated])
  | .send, .sending message =>
      match s.upstreamTx.trySend message with
      | .sent channel =>
          some ({ s with
            upstreamTx := channel
            heartbeat := .sleeping }, [.queued message])
      | .closed => some ({ s with heartbeat := .ended }, [])
      | .full => none
  | _, _ => none

------------------------------------------------------------
-- Upstream Task
------------------------------------------------------------

/- What the upstream task does next. -/
inductive UpstreamEvent where
| start
| connect
| resetHandshake
| lockPending
| drain (key : UInt64)
| unlockPending
| spawnReader
| recv
| write (ok : Bool)
| readerDead

/- One step of the upstream task of `run`. -/
def upstreamTask
    (env : Env)
    (s : State)
    (event : UpstreamEvent) :
    Option (State × List Obs) :=
  match event, s.upstream with
  | .start, .waiting =>
      if s.upstreamStarted = true then
        some ({ s with
          upstream := .connecting
          heartbeat := .sleeping }, [])
      else
        none
  | .connect, .connecting =>
      some ({ s with upstream := .connected }, [])
  | .resetHandshake, .connected =>
      some ({ s with
        handshakeDone := false
        upstream := .locking }, [])
  | .lockPending, .locking =>
      if s.lock ≠ none then
        none
      else
        some ({ s with
          lock := some .upstream
          upstream := .draining }, [])
  | .drain key, .draining =>
      match s.pending.lookup key with
      | none => none
      | some pending =>
          let c := pending.clientTx
          let drained : Obs := .drained c pending.seq
            (decide (s.Running c))
          let error := env.serde.toStrOrDefault
            (telescopeReconnecting pending.originalId)
          match (s.responseTx c).trySend error with
          | .sent channel =>
              some ({ s with
                pending := s.pending.erase key
                responseTx :=
                  Function.update s.responseTx c channel },
                [drained,
                  .reply .drain c pending.seq error])
          | .full | .closed =>
              some ({ s with
                pending := s.pending.erase key }, [drained])
  | .unlockPending, .draining =>
      if s.pending.size = 0 then
        some ({ s with
          lock := none
          upstream := .hooking }, [])
      else
        none
  | .spawnReader, .hooking =>
      some ({ s with
        connections := s.connections + 1
        reader :=
          Function.update s.reader s.connections .spawned
        upstream := .selecting s.connections }, [])
  | .recv, .selecting conn =>
      match s.upstreamTx.recv with
      | none => none
      | some (message, channel) =>
          if previewPanics env.debugLogged message.line 200
          then
            some ({ s with
              upstreamTx := s.upstreamTx.close
              upstream := .stopped }, [])
          else
            some ({ s with
              upstreamTx := channel
              upstream := .writing conn message },
              [.taken message])
  | .write true, .writing conn message =>
      some ({ s with
        written := Function.update s.written conn
          (s.written conn ++ [message])
        upstream := .selecting conn },
        [.written conn message])
  | .write false, .writing _ message =>
      some ({ s with upstream := .connecting },
        [.lost message])
  | .readerDead, .selecting conn =>
      if (s.reader conn).IsOver then
        some ({ s with upstream := .connecting }, [])
      else
        none
  | _, _ => none

------------------------------------------------------------
-- Upstream Reader
------------------------------------------------------------

/- What the reader of a connection does next. -/
inductive ReaderEvent where
| start
| line (text : String)
| hook (action : HookAction)
| remove
| broadcast
| deliver
| stop

/-
  Where the reader goes with a line: an event passes the
  event hook, a message with an unsigned id looks for its
  pending request, and other JSON is broadcast.
-/
def routeLine (env : Env) (trimmed : String) : Reader :=
  match env.serde.fromStr trimmed with
  | none =>
      if previewPanics env.warnLogged trimmed 100 then
        .panicked
      else
        .reading
  | some msg =>
      if isEvent msg = true then
        .eventHook trimmed
      else
        match jsonRpcId msg with
        | some id => .removing id msg trimmed
        | none => .broadcasting trimmed

/-
  Where the reader goes after the event or response hook. A
  modified message or a reply is broadcast unchanged.
-/
def afterHook
    (trimmed : String) :
    HookAction → Reader
| .block => .reading
| .forward | .modify _ | .reply _ => .broadcasting trimmed

/-
  One step of `upstream_reader_task` for a connection. The
  text of a line is what stands before a line feed.
-/
def upstreamReaderTask
    (env : Env)
    (s : State)
    (conn : ConnId)
    (event : ReaderEvent) :
    Option (State × List Obs) :=
  match event, s.reader conn with
  | .start, .spawned =>
      some ({ s with
        reader := Function.update s.reader conn .reading
        upstreamControlUp := true }, [])
  | .line text, .reading =>
      let trimmed := Text.trim text
      if '\n' ∈ text.toList then
        none
      else if trimmed = "" then
        some (s, [])
      else if (methodHint trimmed).isNone then
        some ({ s with
          reader :=
            Function.update s.reader conn .panicked }, [])
      else
        some ({ s with
          handshakeDone := true
          reader := Function.update s.reader conn
            (routeLine env trimmed) },
          [.received conn trimmed])
  | .hook action, .eventHook trimmed
  | .hook action, .responseHook trimmed =>
      if env.hooks = false ∧ action ≠ .forward then
        none
      else
        some ({ s with
          reader := Function.update s.reader conn
            (afterHook trimmed action) }, [])
  | .remove, .removing id msg trimmed =>
      if s.lock ≠ none then
        none
      else
        match s.pending.lookup id with
        | some pending =>
            let response :=
              setJsonRpcIdValue msg pending.originalId
            some ({ s with
              pending := s.pending.erase id
              reader := Function.update s.reader conn
                (.delivering pending.clientTx pending.seq
                  trimmed
                  (env.serde.toStrOrDefault response)) },
              [.removed conn pending.clientTx pending.seq])
        | none =>
            some ({ s with
              reader := Function.update s.reader conn
                (.responseHook trimmed) }, [])
  | .broadcast, .broadcasting trimmed =>
      some ({ s with
        events := s.events ++ [(conn, trimmed)]
        reader := Function.update s.reader conn .reading },
        [.broadcast conn trimmed])
  | .deliver, .delivering c seq trimmed text =>
      match (s.responseTx c).trySend text with
      | .sent channel =>
          some ({ s with
            responseTx :=
              Function.update s.responseTx c channel
            reader :=
              Function.update s.reader conn .reading },
            [.reply (.reader conn trimmed) c seq text])
      | .closed =>
          some ({ s with
            reader :=
              Function.update s.reader conn .reading },
            [.undelivered c seq])
      | .full => none
  | .stop, .reading =>
      some ({ s with
        reader := Function.update s.reader conn .done
        upstreamControlUp := false }, [])
  | _, _ => none

------------------------------------------------------------
-- The Proxy
------------------------------------------------------------

/-
  One step of the proxy. `notify` is the first connection of
  any client; `accept` starts the tasks of a client.
  `hookSend` is a hook script calling `telescope.send`.
-/
inductive Event where
| notify
| accept
| client (c : ClientId) (event : HandlerEvent)
| writer (c : ClientId) (event : WriterEvent)
| heartbeat (event : HeartbeatEvent)
| upstream (event : UpstreamEvent)
| reader (conn : ConnId) (event : ReaderEvent)
| hookSend (value : Value)

/- The accept loop of `run`. -/
def acceptClient (s : State) : State :=
  { s with
    clients := s.clients + 1
    handler := Function.update s.handler s.clients .reading
    writer := Function.update s.writer s.clients .selecting
    responseTx := Function.update s.responseTx s.clients
      (Channel.empty String 64)
    eventRx :=
      Function.update s.eventRx s.clients s.events.length }

/- `telescope.send` of a hook script. -/
def hookSend
    (env : Env)
    (s : State)
    (value : Value) : Option (State × List Obs) :=
  if env.hooks = false then
    none
  else
    match env.serde.toStr value with
    | none => some (s, [])
    | some line =>
        match s.upstreamTx.trySend ⟨line, value, .hook⟩ with
        | .sent channel =>
            some ({ s with upstreamTx := channel },
              [.queued ⟨line, value, .hook⟩])
        | .full | .closed => some (s, [])

/- One step of the control proxy. -/
def step
    (env : Env)
    (s : State) :
    Event → Option (State × List Obs)
| .notify => some ({ s with upstreamStarted := true }, [])
| .accept =>
    if s.upstreamStarted = true then
      some (acceptClient s, [])
    else
      none
| .client c event => handleClient env s c event
| .writer c event => clientWriter s c event
| .heartbeat event => heartbeatTask s event
| .upstream event => upstreamTask env s event
| .reader conn event => upstreamReaderTask env s conn event
| .hookSend value => hookSend env s value

/- The control proxy as a machine. -/
def proxy (env : Env) : Machine State Event Obs where
  init := State.init
  step := step env

end Control

end SeestarProxy
