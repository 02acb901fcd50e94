import SeestarProxy.Imaging.Tasks

/-
  What a step of the imaging proxy can do.

  The relations list the outcomes of the reader, the fan-out
  task and the handler of a client with the guard each one
  needs. The steps that touch neither streams nor frames nor
  what is written to a client are one outcome, `aside`.

  Main declarations:
    * `ReaderStep`, `FanoutStep`, `HandlerStep` and
      `ProxyStep`
    * `step_cases`
    * `Numbered` and `numbered_of_run`
-/

------------------------------------------------------------
-- Upstream Reader
------------------------------------------------------------

namespace SeestarProxy

namespace Imaging

open Library Protocol

/- The payload length that a header declares. -/
def sizeOf (header : HeaderBuf) : Nat :=
  (FrameHeader.parse header).size.toNat

/- The outcomes of one step of a connection's reader. -/
inductive ReaderStep
    (s : State)
    (conn : ConnId) :
    ReaderEvent → State → List Obs → Prop
| started
    (hAt : s.reader conn = .spawned) :
    ReaderStep s conn .start
      { s with
        reader := Function.update s.reader conn .reading
        upstreamImagingUp := true }
      []
| headerRead {header : HeaderBuf}
    (hAt : s.reader conn = .reading)
    (hHeader : headerOf (s.unread conn) = some header)
    (hSize : sizeOf header ≤ maxFrameSize) :
    ReaderStep s conn .header
      { s with
        consumed := Function.update s.consumed conn
          (s.consumed conn + headerSize)
        reader := Function.update s.reader conn
          (.payload header) }
      []
| oversized {header : HeaderBuf}
    (hAt : s.reader conn = .reading)
    (hHeader : headerOf (s.unread conn) = some header)
    (hSize : maxFrameSize < sizeOf header) :
    ReaderStep s conn .header
      { s with
        consumed := Function.update s.consumed conn
          (s.consumed conn + headerSize)
        reader := Function.update s.reader conn .broken }
      []
| payloadRead {header : HeaderBuf}
    (hAt : s.reader conn = .payload header)
    (hLength : sizeOf header ≤ (s.unread conn).length) :
    ReaderStep s conn .payload
      { s with
        consumed := Function.update s.consumed conn
          (s.consumed conn + sizeOf header)
        reader := Function.update s.reader conn
          (.sending (header.toList ++
            (s.unread conn).take (sizeOf header))) }
      []
| failed {wanted : Nat}
    (hAt : (s.reader conn).wanted = some wanted)
    (hClosed : s.closed conn = true)
    (hShort : (s.unread conn).length < wanted) :
    ReaderStep s conn .readError
      { s with
        reader := Function.update s.reader conn .broken }
      []
| broadcast {frame : Bytes}
    (hAt : s.reader conn = .sending frame) :
    ReaderStep s conn .broadcast
      { s with
        frames := s.frames ++ [(conn, frame)]
        reader := Function.update s.reader conn .reading }
      [.broadcast conn frame]
| stopped
    (hAt : s.reader conn = .broken) :
    ReaderStep s conn .stop
      { s with
        reader := Function.update s.reader conn .done
        upstreamImagingUp := false }
      []

theorem upstreamReaderTask_cases
    {s s' : State}
    {conn : ConnId}
    {event : ReaderEvent}
    {o : List Obs}
    (hStep : upstreamReaderTask s conn event =
      some (s', o)) :
    ReaderStep s conn event s' o := by
  unfold upstreamReaderTask at hStep
  split at hStep
  · rename_i hAt
    cases hStep
    exact .started hAt
  · rename_i hAt
    split at hStep
    · cases hStep
    · rename_i header hHeader
      simp only at hStep
      split at hStep
      · rename_i hSize
        cases hStep
        exact .oversized hAt hHeader hSize
      · rename_i hSize
        cases hStep
        exact .headerRead hAt hHeader (not_lt.mp hSize)
  · rename_i header hAt
    simp only at hStep
    split at hStep
    · cases hStep
    · rename_i hLength
      cases hStep
      exact .payloadRead hAt (not_lt.mp hLength)
  · split at hStep
    · cases hStep
    · rename_i wanted hWanted
      split at hStep
      · rename_i hGuard
        cases hStep
        exact .failed hWanted hGuard.1 hGuard.2
      · cases hStep
  · rename_i frame hAt
    cases hStep
    exact .broadcast hAt
  · rename_i hAt
    cases hStep
    exact .stopped hAt
  · cases hStep

/- A reader's step leaves the other readers alone. -/
theorem ReaderStep.reader_of_ne
    {s s' : State}
    {conn conn' : ConnId}
    {event : ReaderEvent}
    {o : List Obs}
    (hStep : ReaderStep s conn event s' o)
    (hConn : conn' ≠ conn) :
    s'.reader conn' = s.reader conn' := by
  cases hStep <;> exact Function.update_of_ne hConn _ _

/- Only a reader that was started takes steps. -/
theorem ReaderStep.isPresent
    {s s' : State}
    {conn : ConnId}
    {event : ReaderEvent}
    {o : List Obs}
    (hStep : ReaderStep s conn event s' o) :
    s.reader conn ≠ .absent := by
  cases hStep with
  | failed hAt =>
      intro hAbsent
      rw [hAbsent] at hAt
      cases hAt
  | started hAt | headerRead hAt | oversized hAt
  | payloadRead hAt | broadcast hAt | stopped hAt =>
      simp [hAt]

------------------------------------------------------------
-- Fan-Out
------------------------------------------------------------

/- The outcomes of one step of a client's fan-out task. -/
inductive FanoutStep
    (s : State)
    (c : ClientId) :
    FanoutEvent → State → List Obs → Prop
| received {conn : ConnId} {frame : Bytes} {position : Nat}
    (hAt : s.fanout c = .receiving)
    (hRecv : Broadcast.recv 32 s.frames (s.frameRx c) =
      .received (conn, frame) position) :
    FanoutStep s c .recv
      { s with
        fanout := Function.update s.fanout c (.writing frame)
        frameRx := Function.update s.frameRx c position }
      []
| lagged {position : Nat}
    (hAt : s.fanout c = .receiving)
    (hRecv : Broadcast.recv 32 s.frames (s.frameRx c) =
      .lagged position) :
    FanoutStep s c .recv
      { s with
        frameRx := Function.update s.frameRx c position }
      []
| wrote {frame : Bytes}
    (hAt : s.fanout c = .writing frame) :
    FanoutStep s c .write
      { s with
        fanout := Function.update s.fanout c .receiving
        received := Function.update s.received c
          (s.received c ++ frame) }
      []
| cut {event : FanoutEvent} {frame : Bytes}
    (written : Nat)
    (hAt : s.fanout c = .writing frame) :
    FanoutStep s c event
      { s with
        fanout := Function.update s.fanout c .ended
        received := Function.update s.received c
          (s.received c ++ frame.take written) }
      []
| stopped {event : FanoutEvent}
    (hAt : s.fanout c = .receiving) :
    FanoutStep s c event
      { s with
        fanout := Function.update s.fanout c .ended }
      []

theorem fanoutTask_cases
    {s s' : State}
    {c : ClientId}
    {event : FanoutEvent}
    {o : List Obs}
    (hStep : fanoutTask s c event = some (s', o)) :
    FanoutStep s c event s' o := by
  unfold fanoutTask at hStep
  split at hStep
  · rename_i hAt
    split at hStep
    · rename_i hRecv
      cases hStep
      exact .received hAt hRecv
    · rename_i hRecv
      cases hStep
      exact .lagged hAt hRecv
    · cases hStep
  · rename_i frame hAt
    cases hStep
    exact .wrote hAt
  · rename_i written frame hAt
    split at hStep
    · cases hStep
      exact .cut written hAt
    · cases hStep
  · rename_i hAt
    split at hStep
    · cases hStep
      exact .stopped hAt
    · cases hStep
  · rename_i written frame hAt
    split at hStep
    · cases hStep
      exact .cut written hAt
    · cases hStep
  · cases hStep

------------------------------------------------------------
-- Client Handler
------------------------------------------------------------

/- The outcomes of one step of a client's handler. -/
inductive HandlerStep
    (s : State)
    (c : ClientId) :
    HandlerEvent → State → List Obs → Prop
| blank {text : String}
    (hAt : s.handler c = .reading)
    (hBlank : Text.trim text = "") :
    HandlerStep s c (.line text) s []
| command {text : String}
    (hAt : s.handler c = .reading)
    (hText : Text.trim text ≠ "") :
    HandlerStep s c (.line text)
      { s with
        handler := Function.update s.handler c
          (.sending (Text.trim text)) } []
| queued {trimmed : String} {channel : Channel String 256}
    (hAt : s.handler c = .sending trimmed)
    (hSend : s.upstreamTx.trySend trimmed = .sent channel) :
    HandlerStep s c .send
      { s with
        handler := Function.update s.handler c .reading
        upstreamTx := channel } [.queued c trimmed]
| refused {trimmed : String}
    (hAt : s.handler c = .sending trimmed)
    (hClosed : s.upstreamTx.isOpen = false) :
    HandlerStep s c .send
      { s with
        handler := Function.update s.handler c .ended } []
| closed
    (hAt : s.handler c = .reading) :
    HandlerStep s c .close
      { s with
        handler := Function.update s.handler c .ended } []
| failed
    (hAt : s.handler c = .reading) :
    HandlerStep s c .readError
      { s with
        handler := Function.update s.handler c .failed } []

theorem handleClient_cases
    {s s' : State}
    {c : ClientId}
    {event : HandlerEvent}
    {o : List Obs}
    (hStep : handleClient s c event = some (s', o)) :
    HandlerStep s c event s' o := by
  unfold handleClient at hStep
  split at hStep
  · next hAt =>
      dsimp only at hStep
      split at hStep
      · next hBlank =>
          cases hStep
          exact .blank hAt hBlank
      · next hText =>
          cases hStep
          exact .command hAt hText
  · next hAt =>
      split at hStep
      · next hSend =>
          cases hStep
          exact .queued hAt hSend
      · next hClosed =>
          cases hStep
          exact .refused hAt
            (Channel.trySend_closed_iff.mp hClosed)
      · cases hStep
  · next hAt =>
      cases hStep
      exact .closed hAt
  · next hAt =>
      cases hStep
      exact .failed hAt
  · cases hStep

------------------------------------------------------------
-- The Proxy
------------------------------------------------------------

/-
  The step touches commands, handlers and the upstream task
  only; it is not the connect of a new connection.
-/
structure Aside (s s' : State) : Prop where
  connections : s'.connections = s.connections
  stream : s'.stream = s.stream
  closed : s'.closed = s.closed
  consumed : s'.consumed = s.consumed
  reader : s'.reader = s.reader
  frames : s'.frames = s.frames
  clients : s'.clients = s.clients
  fanout : s'.fanout = s.fanout
  frameRx : s'.frameRx = s.frameRx
  subscribed : s'.subscribed = s.subscribed
  received : s'.received = s.received
  up : s'.upstreamImagingUp = s.upstreamImagingUp

/- The outcomes of one step of the proxy. -/
inductive ProxyStep
    (s : State) :
    Event → State → List Obs → Prop
| accepted :
    ProxyStep s .accept (acceptClient s) []
| arrived {conn : ConnId} {bytes : Bytes}
    (hConn : conn < s.connections)
    (hOpen : s.closed conn = false) :
    ProxyStep s (.arrive conn bytes)
      { s with
        stream := Function.update s.stream conn
          (s.stream conn ++ bytes) }
      []
| hungUp {conn : ConnId}
    (hConn : conn < s.connections) :
    ProxyStep s (.hangUp conn)
      { s with
        closed := Function.update s.closed conn true }
      []
| connected :
    ProxyStep s (.upstream .connect)
      { s with
        connections := s.connections + 1
        reader :=
          Function.update s.reader s.connections .spawned
        upstream := .selecting s.connections }
      []
| reader {conn : ConnId} {event : ReaderEvent}
    {s' : State} {o : List Obs}
    (hTask : ReaderStep s conn event s' o) :
    ProxyStep s (.reader conn event) s' o
| fanout {c : ClientId} {event : FanoutEvent}
    {s' : State} {o : List Obs}
    (hTask : FanoutStep s c event s' o) :
    ProxyStep s (.fanout c event) s' o
| aside {e : Event} {s' : State} {o : List Obs}
    (hAside : Aside s s')
    (hOther : ∀ conn event, e ≠ .reader conn event) :
    ProxyStep s e s' o

/- What the handler and the heartbeat do is aside. -/
private theorem aside_of_handler
    {s s' : State}
    {c : ClientId}
    {event : HandlerEvent}
    {o : List Obs}
    (hStep : handleClient s c event = some (s', o)) :
    Aside s s' := by
  cases handleClient_cases hStep with
  | _ => constructor <;> rfl

private theorem aside_of_heartbeat
    {s s' : State}
    {event : HeartbeatEvent}
    {o : List Obs}
    (hStep : imagingHeartbeatTask s event = some (s', o)) :
    Aside s s' := by
  unfold imagingHeartbeatTask at hStep
  split at hStep
  · cases hStep
    constructor <;> rfl
  · split at hStep
    · cases hStep
      constructor <;> rfl
    · cases hStep
      constructor <;> rfl
    · cases hStep
  · cases hStep

/- The upstream task connects, or what it does is aside. -/
private theorem upstreamTask_cases
    {debugLogged : Bool}
    {s s' : State}
    {event : UpstreamEvent}
    {o : List Obs}
    (hStep : upstreamTask debugLogged s event =
      some (s', o)) :
    ProxyStep s (.upstream event) s' o := by
  unfold upstreamTask at hStep
  split at hStep
  · split at hStep
    · cases hStep
      exact .aside (by constructor <;> rfl) (by simp)
    · cases hStep
  · cases hStep
    exact .connected
  · split at hStep
    · cases hStep
    · split at hStep
      · cases hStep
        exact .aside (by constructor <;> rfl) (by simp)
      · cases hStep
        exact .aside (by constructor <;> rfl) (by simp)
  · cases hStep
    exact .aside (by constructor <;> rfl) (by simp)
  · cases hStep
    exact .aside (by constructor <;> rfl) (by simp)
  · split at hStep
    · cases hStep
      exact .aside (by constructor <;> rfl) (by simp)
    · cases hStep
  · cases hStep

/- Every step of the proxy has one of the outcomes. -/
theorem step_cases
    {debugLogged : Bool}
    {s s' : State}
    {e : Event}
    {o : List Obs}
    (hStep : (proxy debugLogged).step s e = some (s', o)) :
    ProxyStep s e s' o := by
  change step debugLogged s e = some (s', o) at hStep
  cases e with
  | resolve =>
      cases hStep
      exact .aside (by constructor <;> rfl) (by simp)
  | accept =>
      cases hStep
      exact .accepted
  | arrive conn bytes =>
      simp only [step] at hStep
      split at hStep
      · rename_i hGuard
        cases hStep
        exact .arrived hGuard.1 hGuard.2
      · cases hStep
  | hangUp conn =>
      simp only [step] at hStep
      split at hStep
      · rename_i hConn
        cases hStep
        exact .hungUp hConn
      · cases hStep
  | client c event =>
      exact .aside (aside_of_handler hStep) (by simp)
  | fanout c event => exact .fanout (fanoutTask_cases hStep)
  | heartbeat event =>
      exact .aside (aside_of_heartbeat hStep) (by simp)
  | upstream event => exact upstreamTask_cases hStep
  | reader conn event =>
      exact .reader (upstreamReaderTask_cases hStep)

------------------------------------------------------------
-- Numbering
------------------------------------------------------------

/- A number that was not given out has nothing yet. -/
structure Numbered (s : State) : Prop where
  reader : ∀ conn, s.connections ≤ conn →
    s.reader conn = .absent
  stream : ∀ conn, s.connections ≤ conn →
    s.stream conn = [] ∧ s.closed conn = false

theorem numbered_of_run
    {debugLogged : Bool}
    {es : List Event}
    {h : List Obs}
    {s : State}
    (hRun : (proxy debugLogged).Run es h s) :
    Numbered s := by
  refine Machine.run_invariant
    (motive := fun _ s => Numbered s)
    ⟨fun _ _ => rfl, fun _ _ => ⟨rfl, rfl⟩⟩ ?_ hRun
  intro h s e s' o hNumbered hNext
  cases step_cases hNext with
  | accepted => exact ⟨hNumbered.reader, hNumbered.stream⟩
  | arrived hConn hOpen =>
      refine ⟨hNumbered.reader, ?_⟩
      intro conn hNew
      simp only [Function.update_of_ne
        (Nat.ne_of_gt (Nat.lt_of_lt_of_le hConn hNew))]
      exact hNumbered.stream conn hNew
  | hungUp hConn =>
      refine ⟨hNumbered.reader, ?_⟩
      intro conn hNew
      simp only [Function.update_of_ne
        (Nat.ne_of_gt (Nat.lt_of_lt_of_le hConn hNew))]
      exact hNumbered.stream conn hNew
  | connected =>
      refine ⟨?_, ?_⟩
      · intro conn hNew
        simp only [Function.update_of_ne
          (Nat.ne_of_gt (Nat.lt_of_succ_le hNew))]
        exact hNumbered.reader conn (Nat.le_of_succ_le hNew)
      · intro conn hNew
        exact hNumbered.stream conn (Nat.le_of_succ_le hNew)
  | @reader conn event s' o hTask =>
      have hSame : s'.connections = s.connections ∧
          s'.stream = s.stream ∧ s'.closed = s.closed := by
        cases hTask <;> exact ⟨rfl, rfl, rfl⟩
      rcases hSame with ⟨hConns, hStream, hClosed⟩
      refine ⟨?_, ?_⟩
      · intro conn' hNew
        rw [hConns] at hNew
        have hAbsent := hNumbered.reader conn' hNew
        have hOther : conn' ≠ conn := by
          rintro rfl
          exact hTask.isPresent hAbsent
        rw [hTask.reader_of_ne hOther]
        exact hAbsent
      · rw [hConns, hStream, hClosed]
        exact hNumbered.stream
  | fanout hTask =>
      cases hTask <;>
        exact ⟨hNumbered.reader, hNumbered.stream⟩
  | aside hAside hOther =>
      refine ⟨?_, ?_⟩
      · rw [hAside.connections, hAside.reader]
        exact hNumbered.reader
      · rw [hAside.connections, hAside.stream,
          hAside.closed]
        exact hNumbered.stream

end Imaging

end SeestarProxy
