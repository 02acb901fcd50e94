import SeestarProxy.Control.WireIntact
import SeestarProxy.Library.Reception

/-
  Events on their way to the clients of the control proxy.

  A client's writer takes events from the broadcast channel
  and lines from the response channel. It misses an event
  only when 256 newer ones were broadcast before it came to
  read it, and a client whose writer never falls that far
  behind is sent every event since it was accepted, once and
  in order.

  Main declarations:
    * `ClientStep` and `clientStep`
    * `eventReads`, `Wire.eventsPassed` and `KeepsUp`
    * `EventsServed` and `events_served`
-/

------------------------------------------------------------
-- Steps as a Client Sees Them
------------------------------------------------------------

namespace SeestarProxy

namespace Control

open Library Protocol

variable {env : Env} {h o : List Obs} {s s' : State}
variable {w w' : Wire} {e : WireEvent} {c : ClientId}

/- The event that a client's writer reads. -/
def Obs.eventRead?
    (c : ClientId) :
    Obs → Option (ConnId × String)
| .eventRead c' conn text =>
    if c' = c then some (conn, text) else none
| _ => none

/- The events that a client's writer has read, in order. -/
def eventReads
    (h : List Obs)
    (c : ClientId) : List (ConnId × String) :=
  h.filterMap (Obs.eventRead? c)

theorem eventReads_append :
    eventReads (h ++ o) c =
      eventReads h c ++ eventReads o c :=
  List.filterMap_append

/- What the events and a client's writer have to do. -/
structure ClientView where
  events : List (ConnId × String)
  subscribed : Nat
  eventRx : Nat
  writer : Writer
  down : List UInt8

def Wire.view
    (w : Wire)
    (c : ClientId) : ClientView where
  events := w.proxy.events
  subscribed := w.subscribed c
  eventRx := w.proxy.eventRx c
  writer := w.proxy.writer c
  down := w.down c

/- The client's writer turns to the broadcast channel. -/
def recvEvent (c : ClientId) : WireEvent :=
  .task (.writer c .recvEvent)

/-
  What a step is to a client, by what it changes of its view
  and which events its writer reads.
-/
inductive ClientStep
    (c : ClientId)
    (w : Wire)
    (e : WireEvent) :
    ClientView → List (ConnId × String) → Prop
| aside (new : List (ConnId × String))
    (hEvent : e ≠ recvEvent c) :
    ClientStep c w e
      { w.view c with events := w.proxy.events ++ new } []
| accepted
    (hClient : c = w.proxy.clients)
    (hEvent : e ≠ recvEvent c) :
    ClientStep c w e
      { w.view c with
        subscribed := w.proxy.events.length
        eventRx := w.proxy.events.length
        writer := .selecting } []
| received (text : String)
    (hAt : w.proxy.writer c = .selecting)
    (hEvent : e ≠ recvEvent c) :
    ClientStep c w e
      { w.view c with writer := .writing text } []
| lagged
    (hAt : w.proxy.writer c = .selecting)
    (hEvent : e = recvEvent c)
    (hLag : w.proxy.eventRx c + 256 <
      w.proxy.events.length) :
    ClientStep c w e
      { w.view c with
        eventRx := w.proxy.events.length - 256 } []
| read {conn : ConnId} {text : String}
    (hAt : w.proxy.writer c = .selecting)
    (hKept : w.proxy.events.length ≤
      w.proxy.eventRx c + 256)
    (hRead : w.proxy.events[w.proxy.eventRx c]? =
      some (conn, text)) :
    ClientStep c w e
      { w.view c with
        eventRx := w.proxy.eventRx c + 1
        writer := .writing text } [(conn, text)]
| wrote {text : String}
    (hAt : w.proxy.writer c = .writing text)
    (hEvent : e ≠ recvEvent c) :
    ClientStep c w e
      { w.view c with
        writer := .selecting
        down := w.down c ++ lineBytes text } []
| cut {text : String} (n : Nat)
    (hAt : w.proxy.writer c = .writing text)
    (hEvent : e ≠ recvEvent c) :
    ClientStep c w e
      { w.view c with
        writer := .ended
        down := w.down c ++ (lineBytes text).take n } []
| stopped
    (hAt : w.proxy.writer c = .selecting)
    (hEvent : e ≠ recvEvent c) :
    ClientStep c w e
      { w.view c with writer := .ended } []

/- The tasks but the writers only add events. -/
private theorem view_of_task
    {t : Event}
    (hStep : ProxyStep env s t s' o)
    (hAccept : t ≠ .accept)
    (hWriter : ∀ c event, t ≠ .writer c event) :
    (∃ new, s'.events = s.events ++ new) ∧
      eventReads o c = [] := by
  have hSame {s' : State}
      (hEvents : s'.events = s.events) :
      ∃ new, s'.events = s.events ++ new :=
    ⟨[], by rw [hEvents, List.append_nil]⟩
  cases hStep with
  | accepted => exact absurd rfl hAccept
  | writer hTask => exact absurd rfl (hWriter _ _)
  | client hTask => cases hTask <;> exact ⟨hSame rfl, rfl⟩
  | heartbeat hTask =>
      cases hTask <;> exact ⟨hSame rfl, rfl⟩
  | upstream hTask =>
      cases hTask <;> exact ⟨hSame rfl, rfl⟩
  | reader hTask =>
      cases hTask with
      | broadcast hAt => exact ⟨⟨_, rfl⟩, rfl⟩
      | _ => exact ⟨hSame rfl, rfl⟩
  | _ => exact ⟨hSame rfl, rfl⟩

/- A step that no client's writer takes. -/
private theorem clientStep_of_task
    {t : Event}
    (buf up : ConnId → List UInt8)
    (hStep : step env w.proxy t = some (s', o))
    (hAccept : t ≠ .accept)
    (hWriter : ∀ c event, t ≠ .writer c event)
    (hEvent : e ≠ recvEvent c) :
    ClientStep c w e
      ({ w with proxy := s', buf := buf, up := up }.view c)
      (eventReads o c) := by
  have hCases := step_cases hStep
  rcases view_of_task (c := c) hCases hAccept hWriter with
    ⟨⟨new, hEvents⟩, hReads⟩
  rcases hCases.writer_same hAccept hWriter with
    ⟨hSame, hEventRx⟩
  rw [hReads]
  simp only [Wire.view, hEvents, hSame, hEventRx]
  exact .aside new hEvent

/- A view in which nothing happened. -/
private theorem clientStep_of_same
    (hView : w'.view c = w.view c)
    (hReads : eventReads o c = [])
    (hEvent : e ≠ recvEvent c) :
    ClientStep c w e (w'.view c) (eventReads o c) := by
  have hAside : w'.view c =
      { w.view c with events := w.proxy.events ++ [] } := by
    rw [hView, List.append_nil]
    rfl
  rw [hAside, hReads]
  exact .aside [] hEvent

/- A step of the writer of another client. -/
private theorem clientStep_of_other
    {c' : ClientId}
    {event : WriterEvent}
    (hTask : WriterStep w.proxy c' event w'.proxy o)
    (hClient : c ≠ c')
    (hEvent : e ≠ recvEvent c)
    (hSubscribed : w'.subscribed c = w.subscribed c)
    (hDown : w'.down c = w.down c) :
    ClientStep c w e (w'.view c) (eventReads o c) := by
  have hView : w'.view c = w.view c := by
    unfold Wire.view
    rw [hSubscribed, hDown, hTask.writer_of_ne hClient]
    generalize w'.proxy = s' at hTask
    cases hTask with
    | lagged hAt hLag | eventRead hAt hRead =>
        simp only [Function.update_of_ne hClient]
    | _ => rfl
  have hReads : eventReads o c = [] := by
    generalize w'.proxy = s' at hTask
    cases hTask with
    | eventRead hAt hRead =>
        simp [eventReads, Obs.eventRead?, Ne.symm hClient]
    | _ => rfl
  exact clientStep_of_same hView hReads hEvent

/- A client's own writer takes a text or skips events. -/
private theorem clientStep_of_recv
    {event : WriterEvent}
    {s' : State}
    (hStep : clientWriter w.proxy c event = some (s', o))
    (hRecv : event = .recvResponse ∨ event = .recvEvent) :
    ClientStep c w (.task (.writer c event))
      ({ w with proxy := s' }.view c)
      (eventReads o c) := by
  cases hAt : w.proxy.writer c with
  | selecting =>
      rcases hRecv with rfl | rfl
      · simp only [clientWriter, hAt] at hStep
        split at hStep
        · cases hStep
        · rename_i text channel hText
          cases hStep
          simp only [Wire.view, Function.update_self]
          exact .received text hAt (by simp [recvEvent])
      · simp only [clientWriter, hAt] at hStep
        split at hStep
        · rename_i hLag
          cases hStep
          simp only [Wire.view, Function.update_self]
          exact .lagged hAt rfl hLag
        · rename_i hKept
          split at hStep
          · cases hStep
          · rename_i conn text hRead
            cases hStep
            simp only [Wire.view, Function.update_self,
              eventReads, Obs.eventRead?, if_true,
              List.filterMap_cons, List.filterMap_nil]
            exact .read hAt (not_lt.mp hKept) hRead
  | _ => rcases hRecv with rfl | rfl <;>
      simp [clientWriter, hAt] at hStep

/- What a client sees of a writer that stops. -/
private theorem clientStep_of_stop
    {event : WriterEvent}
    {s' : State}
    {text : String}
    (hStep : clientWriter w.proxy c event = some (s', o))
    (hAt : w.proxy.writer c = .writing text)
    (hStop : event = .write false ∨ event = .abort)
    (hEvent : e ≠ recvEvent c)
    (n : Nat) :
    ClientStep c w e
      ({ w.putDown c ((lineBytes text).take n) with
        proxy := s' }.view c)
      (eventReads o c) := by
  have hCut : ClientStep c w e _ [] := .cut n hAt hEvent
  rcases hStop with rfl | rfl
  · simp only [clientWriter, hAt, Option.some.injEq,
      Prod.mk.injEq] at hStep
    rcases hStep with ⟨rfl, rfl⟩
    simpa [Wire.view, Wire.putDown, eventReads] using hCut
  · simp only [clientWriter, hAt] at hStep
    split at hStep
    · cases hStep
      simpa [Wire.view, Wire.putDown, eventReads] using hCut
    · cases hStep

/- Every step on the wire is one of these to a client. -/
theorem clientStep
    (hStep : (wire env).step w e = some (w', o))
    (c : ClientId) :
    ClientStep c w e (w'.view c) (eventReads o c) := by
  change wireStep env w e = some (w', o) at hStep
  cases e with
  | arrive conn bytes =>
      simp only [wireStep] at hStep
      split at hStep
      · cases hStep
        exact clientStep_of_same rfl rfl (by simp [recvEvent])
      · cases hStep
  | telescopeLine conn =>
      simp only [wireStep] at hStep
      split at hStep
      · cases hStep
      · rcases run_some_iff.mp hStep with ⟨s', hNext, rfl⟩
        exact clientStep_of_task _ w.up hNext (by simp)
          (by simp) (by simp [recvEvent])
  | request c' call =>
      rcases run_some_iff.mp hStep with ⟨s', hNext, rfl⟩
      exact clientStep_of_task w.buf w.up hNext (by simp)
        (by simp) (by simp [recvEvent])
  | message conn call =>
      rcases run_some_iff.mp hStep with ⟨s', hNext, rfl⟩
      exact clientStep_of_task w.buf w.up hNext (by simp)
        (by simp) (by simp [recvEvent])
  | accept =>
      rcases run_some_iff.mp hStep with ⟨s', hNext, rfl⟩
      have hCases : ProxyStep env w.proxy .accept s' o :=
        step_cases hNext
      cases hCases with
      | accepted =>
          have hOther : WireEvent.accept ≠ recvEvent c := by
            simp [recvEvent]
          by_cases hClient : c = w.proxy.clients
          · have hAccepted :=
              ClientStep.accepted hClient hOther
            subst hClient
            simpa [Wire.view, acceptClient, eventReads]
              using hAccepted
          · refine clientStep_of_same ?_ rfl hOther
            simp [Wire.view, acceptClient, hClient]
  | writeUp =>
      simp only [wireStep] at hStep
      split at hStep
      · rcases run_some_iff.mp hStep with ⟨s', hNext, rfl⟩
        exact clientStep_of_task w.buf _ hNext (by simp)
          (by simp) (by simp [recvEvent])
      · cases hStep
  | failUp written =>
      simp only [wireStep] at hStep
      split at hStep
      · split at hStep
        · rcases run_some_iff.mp hStep with ⟨s', hNext, rfl⟩
          exact clientStep_of_task w.buf _ hNext (by simp)
            (by simp) (by simp [recvEvent])
        · cases hStep
      · cases hStep
  | writeDown c' =>
      simp only [wireStep] at hStep
      split at hStep
      · rename_i text hAt
        rcases run_some_iff.mp hStep with ⟨s', hNext, rfl⟩
        have hOther :
            WireEvent.writeDown c' ≠ recvEvent c := by
          simp [recvEvent]
        by_cases hClient : c = c'
        · subst hClient
          simp only [step, clientWriter, Wire.putDown, hAt,
            Option.some.injEq, Prod.mk.injEq] at hNext
          rcases hNext with ⟨rfl, rfl⟩
          have hReads :
              eventReads [.delivered c text] c = [] := rfl
          have hWrote := ClientStep.wrote hAt hOther
          simpa [Wire.view, Wire.putDown, hReads]
            using hWrote
        · exact clientStep_of_other
            (clientWriter_cases hNext) hClient hOther rfl
            (Function.update_of_ne hClient _ _)
      · cases hStep
  | failDown c' written =>
      simp only [wireStep] at hStep
      split at hStep
      · rename_i text hAt
        split at hStep
        · rcases run_some_iff.mp hStep with ⟨s', hNext, rfl⟩
          have hOther :
              WireEvent.failDown c' written ≠
                recvEvent c := by
            simp [recvEvent]
          by_cases hClient : c = c'
          · subst hClient
            have hFailed : clientWriter w.proxy c
                (.write false) = some (s', o) := hNext
            exact clientStep_of_stop hFailed hAt
              (Or.inl rfl) hOther written
          · exact clientStep_of_other
              (clientWriter_cases hNext) hClient hOther rfl
              (Function.update_of_ne hClient _ _)
        · cases hStep
      · cases hStep
  | abort c' written =>
      have hOther :
          WireEvent.abort c' written ≠ recvEvent c := by
        simp [recvEvent]
      simp only [wireStep] at hStep
      split at hStep
      · rename_i text hAt
        rcases run_some_iff.mp hStep with ⟨s', hNext, rfl⟩
        by_cases hClient : c = c'
        · subst hClient
          have hAborted : clientWriter w.proxy c .abort =
              some (s', o) := hNext
          exact clientStep_of_stop hAborted hAt
            (Or.inr rfl) hOther written
        · exact clientStep_of_other
            (clientWriter_cases hNext) hClient hOther rfl
            (Function.update_of_ne hClient _ _)
      · rename_i hNot
        rcases run_some_iff.mp hStep with ⟨s', hNext, rfl⟩
        by_cases hClient : c = c'
        · subst hClient
          cases clientWriter_cases hNext with
          | ended hAt =>
              have hSelecting :
                  w.proxy.writer c = .selecting := by
                rcases hAt with hAt | ⟨text, hAt⟩
                · exact hAt
                · exact absurd hAt (hNot text)
              simp only [Wire.view, Function.update_self]
              exact .stopped hSelecting hOther
        · exact clientStep_of_other
            (clientWriter_cases hNext) hClient hOther rfl rfl
  | task t =>
      simp only [wireStep] at hStep
      split at hStep
      · rename_i hTask
        rcases run_some_iff.mp hStep with ⟨s', hNext, rfl⟩
        by_cases hWriter : ∃ c' event, t = .writer c' event
        · rcases hWriter with ⟨c', event, rfl⟩
          by_cases hClient : c = c'
          · subst hClient
            refine clientStep_of_recv hNext ?_
            cases event with
            | recvResponse => exact Or.inl rfl
            | recvEvent => exact Or.inr rfl
            | write ok => cases hTask
            | abort => cases hTask
          · refine clientStep_of_other
              (clientWriter_cases hNext) hClient ?_ rfl rfl
            rintro hEq
            cases hEq
            exact hClient rfl
        · refine clientStep_of_task w.buf w.up hNext ?_ ?_ ?_
          · rintro rfl
            cases hTask
          · rintro c' event rfl
            exact hWriter ⟨c', event, rfl⟩
          · rintro hEq
            cases hEq
            exact hWriter ⟨c, .recvEvent, rfl⟩
      · cases hStep

------------------------------------------------------------
-- Receptions
------------------------------------------------------------

/-
  The client's writer reads while the next event is still
  kept: at most 256 events are waiting for it.
-/
def KeepsUp
    (c : ClientId)
    (w : Wire)
    (e : WireEvent) : Prop :=
  e = recvEvent c →
    w.proxy.events.length ≤ w.proxy.eventRx c + 256

/-
  The client's writer on the broadcast channel: what it has
  read, and whether it missed nothing.
-/
def Hears
    (view : ClientView)
    (reads : List (ConnId × String))
    (whole : Prop) : Prop :=
  Broadcast.Listens 256 view.events view.subscribed
    view.eventRx reads whole

/-
  What the client's writer has put out: texts that merge the
  events it read with what it took from its channel. One that
  has ended may have cut the last of them.
-/
def Writes
    (view : ClientView)
    (reads : List (ConnId × String)) : Prop :=
  ∃ responses texts,
    Output.Interleave responses (reads.map Prod.snd) texts ∧
      Output.Put lineBytes (fun _ => True) texts view.down
        view.writer.phase

variable {view : ClientView}
variable {reads new : List (ConnId × String)} {whole : Prop}

/- Every step keeps what a client hears. -/
private theorem hears_of_step
    (hHears : Hears (w.view c) reads whole)
    (hFresh : c = w.proxy.clients →
      w.proxy.eventRx c = w.subscribed c)
    (hStep : ClientStep c w e view new) :
    Hears view (reads ++ new)
      (whole ∧ KeepsUp c w e) := by
  have hSame (hEvent : e ≠ recvEvent c) :
      whole ↔ whole ∧ KeepsUp c w e :=
    (and_iff_left fun hRecv => absurd hRecv hEvent).symm
  cases hStep with
  | aside new hEvent =>
      rw [List.append_nil]
      exact (hHears.send new).congr (hSame hEvent)
  | accepted hClient hEvent =>
      -- The client had no writer that could have read.
      rw [List.append_nil]
      have hAgain := hHears.subscribe (hFresh hClient)
      exact hAgain.congr (hSame hEvent)
  | lagged hAt hEvent hLag =>
      rw [List.append_nil]
      have hRecv : Broadcast.recv 256 w.proxy.events
          (w.proxy.eventRx c) =
            .lagged (w.proxy.events.length - 256) :=
        if_pos hLag
      refine hHears.lagged hRecv ?_
      rintro ⟨-, hKept⟩
      exact absurd hLag (not_lt.mpr (hKept hEvent))
  | @read conn text hAt hKept hRead =>
      have hRecv : Broadcast.recv 256 w.proxy.events
          (w.proxy.eventRx c) =
            .received (conn, text)
              (w.proxy.eventRx c + 1) := by
        simp only [Broadcast.recv,
          if_neg (not_lt.mpr hKept), hRead]
      have hKeeps : KeepsUp c w e := fun _ => hKept
      exact (hHears.received hRecv).congr
        (and_iff_left hKeeps).symm
  | received text hAt hEvent | wrote hAt hEvent
  | cut n hAt hEvent | stopped hAt hEvent =>
      rw [List.append_nil]
      exact hHears.congr (hSame hEvent)

/- Every step keeps what was put out for a client. -/
private theorem writes_of_step
    (hWrites : Writes (w.view c) reads)
    (hAbsent : c = w.proxy.clients →
      w.proxy.writer c = .absent)
    (hStep : ClientStep c w e view new) :
    Writes view (reads ++ new) := by
  rcases hWrites with ⟨responses, texts, hMerge, hPut⟩
  have hWriter {writer : Writer}
      (hAt : w.proxy.writer c = writer) :
      Output.Put lineBytes (fun _ => True) texts (w.down c)
        writer.phase := by
    rw [← hAt]
    exact hPut
  cases hStep with
  | aside new hEvent =>
      rw [List.append_nil]
      exact ⟨responses, texts, hMerge, hPut⟩
  | accepted hClient hEvent =>
      rw [List.append_nil]
      have hIdle := hWriter (hAbsent hClient)
      exact ⟨responses, texts, hMerge, hIdle⟩
  | received text hAt hEvent =>
      rw [List.append_nil]
      exact ⟨responses ++ [text], texts ++ [text],
        hMerge.left text, (hWriter hAt).take text⟩
  | lagged hAt hEvent hLag =>
      rw [List.append_nil]
      exact ⟨responses, texts, hMerge, hPut⟩
  | @read conn text hAt hKept hRead =>
      refine ⟨responses, texts ++ [text], ?_,
        (hWriter hAt).take text⟩
      rw [List.map_append]
      exact hMerge.right text
  | wrote hAt hEvent =>
      rw [List.append_nil]
      exact ⟨responses, texts, hMerge, (hWriter hAt).wrote⟩
  | cut n hAt hEvent =>
      rw [List.append_nil]
      exact ⟨responses, texts, hMerge,
        (hWriter hAt).cut trivial n⟩
  | stopped hAt hEvent =>
      rw [List.append_nil]
      exact ⟨responses, texts, hMerge, (hWriter hAt).stop⟩

/- A client without a writer stays where it is. -/
private theorem unmoved_of_step
    (hUnmoved : w.proxy.writer c = .absent →
      w.proxy.eventRx c = w.subscribed c)
    (hStep : ClientStep c w e view new)
    (hWriter : view.writer = .absent) :
    view.eventRx = view.subscribed := by
  cases hStep with
  | aside new hEvent => exact hUnmoved hWriter
  | lagged hAt hEvent hLag =>
      have hNow := hAt.symm.trans hWriter
      cases hNow
  | _ => cases hWriter

/- Every client of a run is heard of and written to. -/
private theorem served_of_run
    {es : List WireEvent}
    (hPrints : env.serde.PrintsOneLine)
    (hRun : (wire env).Run es h w)
    (c : ClientId) :
    (w.proxy.writer c = .absent →
        w.proxy.eventRx c = w.subscribed c) ∧
      Hears (w.view c) (eventReads h c)
        ((wire env).Meets (KeepsUp c)
          (wire env).init es) ∧
      Writes (w.view c) (eventReads h c) := by
  refine Machine.run_induction
    (motive := fun es h w =>
      (w.proxy.writer c = .absent →
          w.proxy.eventRx c = w.subscribed c) ∧
        Hears (w.view c) (eventReads h c)
          ((wire env).Meets (KeepsUp c)
            (wire env).init es) ∧
        Writes (w.view c) (eventReads h c)) ?_ ?_ hRun
  · exact ⟨fun _ => rfl,
      Broadcast.Listens.fresh [] 256 trivial,
      [], [], .nil, rfl⟩
  · intro es h w e w' o hBefore ih hNext
    rcases ih with ⟨hUnmoved, hHears, hWrites⟩
    rcases proxy_run_of_wire hPrints hBefore with
      ⟨ts, hProxy, -⟩
    have hAbsent (hClient : c = w.proxy.clients) :
        w.proxy.writer c = .absent :=
      writer_absent_of_run hProxy c (Nat.le_of_eq hClient.symm)
    have hStep := clientStep hNext c
    rw [eventReads_append, Machine.meets_snoc_iff hBefore]
    refine ⟨?_, ?_, ?_⟩
    · intro hWriter
      exact unmoved_of_step hUnmoved hStep hWriter
    · exact hears_of_step hHears
        (fun hClient => hUnmoved (hAbsent hClient)) hStep
    · exact writes_of_step hWrites hAbsent hStep

------------------------------------------------------------
-- Events to a Client
------------------------------------------------------------

/- The events between a client's arrival and its receiver. -/
def Wire.eventsPassed
    (w : Wire)
    (c : ClientId) : List (ConnId × String) :=
  (w.proxy.events.take (w.proxy.eventRx c)).drop
    (w.subscribed c)

/- The events that were broadcast since a client came. -/
def Wire.eventsSince
    (w : Wire)
    (c : ClientId) : List (ConnId × String) :=
  w.proxy.events.drop (w.subscribed c)

/-
  What comes of the events for a client. Its writer reads
  some of them and puts out what it reads, it reads all of
  them exactly when it keeps up, and when it finds none to
  read it has passed all that were broadcast.
-/
structure EventsServed
    (env : Env)
    (es : List WireEvent)
    (h : List Obs)
    (w : Wire)
    (c : ClientId) : Prop where
  read : ∃ taken,
    Broadcast.ReadAt 256 w.proxy.events (w.subscribed c)
      (w.proxy.eventRx c) (eventReads h c) taken
  whole : eventReads h c = w.eventsPassed c ↔
    (wire env).Meets (KeepsUp c) (wire env).init es
  caughtUp : w.proxy.writer c = .selecting →
    clientWriter w.proxy c .recvEvent = none →
      w.eventsPassed c = w.eventsSince c
  written : Writes (w.view c) (eventReads h c)

/- A waiting writer finds nothing: all was passed. -/
private theorem recv_empty
    (hAt : s.writer c = .selecting)
    (hNone : clientWriter s c .recvEvent = none) :
    Broadcast.recv 256 s.events (s.eventRx c) = .empty := by
  unfold Broadcast.recv
  simp only [clientWriter, hAt] at hNone
  split
  · rename_i hLag
    rw [if_pos hLag] at hNone
    cases hNone
  · rename_i hKept
    rw [if_neg hKept] at hNone
    split
    · rename_i event hRead
      rw [hRead] at hNone
      cases hNone
    · rfl

/-
  In every run on the wire, each client's writer reads the
  broadcast events in order and puts them out whole, up to a
  last one that its end may cut. It misses one only when 256
  newer ones were there before it came to read it, and none
  as long as it keeps up.
-/
theorem events_served
    {es : List WireEvent}
    (hPrints : env.serde.PrintsOneLine)
    (hRun : (wire env).Run es h w)
    (c : ClientId) :
    EventsServed env es h w c := by
  rcases served_of_run hPrints hRun c with
    ⟨-, hHears, hWrites⟩
  refine ⟨hHears.readAt, hHears.got_eq_iff, ?_, hWrites⟩
  intro hAt hNone
  have hEnd : w.proxy.eventRx c = w.proxy.events.length :=
    hHears.position_of_empty (recv_empty hAt hNone)
  rw [Wire.eventsPassed, hEnd, List.take_length]
  rfl

/-
  The telescope sends an answer that nobody waits for, which
  is broadcast and written to the one client.
-/
def eventSession : List WireEvent :=
  ([.task .notify, .accept,
    .task (.upstream .start)] : List WireEvent) ++
  connectUpstream.map WireEvent.task ++
  ([.task (.reader 0 .start), .arrive 0 answerBytes,
    .telescopeLine 0, .task (.reader 0 .remove),
    .message 0 .undefined, .task (.reader 0 .broadcast),
    .task (.writer 0 .recvEvent),
    .writeDown 0] : List WireEvent)

theorem events_served_eventSession :
    ∃ h w, (wire parkEnv).Run eventSession h w ∧
      w.down 0 = answerBytes ∧
      eventReads h 0 = w.eventsSince 0 ∧
      EventsServed parkEnv eventSession h w 0 := by
  have hRun : (wire parkEnv).Run eventSession _ _ :=
    Machine.run_outcome (by decide +kernel)
  refine ⟨_, _, hRun, by decide +kernel,
    by decide +kernel, ?_⟩
  exact events_served (knowing_printsOneLine _) hRun 0

end Control

end SeestarProxy
