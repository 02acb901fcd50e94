import SeestarProxy.Control.Provenance

/-
  The numbering of clients and telescope connections.

  Clients and connections are numbered in order. A number
  that was not given out yet has no task and nothing written
  on it, and the upstream task works on the latest
  connection. What the state keeps of the lines written on a
  connection is what the history shows.

  Main declarations:
    * `HandlerStep.running`, `HandlerStep.handler_of_ne`
    * `ReaderStep.isPresent`, `ReaderStep.reader_of_ne`
    * `ProxyStep.handler_cases`, `ProxyStep.reader_cases`
    * `Numbered` and `numbered_of_run`
    * `Writer.IsLive` and `writer_absent_of_run`
    * `written_eq_of_run`
-/

------------------------------------------------------------
-- Frames
------------------------------------------------------------

namespace SeestarProxy

namespace Control

open Library Protocol

variable {env : Env} {h o : List Obs} {s s' : State}

/- Only a running handler takes steps. -/
theorem HandlerStep.running
    {c : ClientId}
    {event : HandlerEvent}
    (hStep : HandlerStep env s c event s' o) :
    s.Running c := by
  cases hStep with
  | idle hRunning => exact hRunning
  | parsed hAt | notifying hAt | allocated hAt
  | hookReplied hAt | registered hAt | refusedSent hAt
  | refusedClosed hAt | refusedBlocked hAt | refusalSent hAt
  | refusalClosed hAt | requestQueued hAt
  | requestFailed hAt | notificationQueued hAt
  | unregistered hAt =>
      simp [State.Running, hAt]

/- A handler's step leaves the other handlers alone. -/
theorem HandlerStep.handler_of_ne
    {c c' : ClientId}
    {event : HandlerEvent}
    (hStep : HandlerStep env s c event s' o)
    (hClient : c' ≠ c) :
    s'.handler c' = s.handler c' := by
  cases hStep <;> exact Function.update_of_ne hClient _ _

/- Only a reader that was started takes steps. -/
theorem ReaderStep.isPresent
    {conn : ConnId}
    {event : ReaderEvent}
    (hStep : ReaderStep env s conn event s' o) :
    s.reader conn ≠ .absent := by
  cases hStep with
  | hooked hAt =>
      rcases hAt with hAt | hAt
      · rw [hAt]
        nofun
      · rw [hAt]
        nofun
  | started hAt | skipped hAt | panicked hAt | received hAt
  | removed hAt | missed hAt | broadcast hAt
  | delivered hAt | undelivered hAt | stopped hAt =>
      rw [hAt]
      nofun

/- A reader's step leaves the other readers alone. -/
theorem ReaderStep.reader_of_ne
    {conn conn' : ConnId}
    {event : ReaderEvent}
    (hStep : ReaderStep env s conn event s' o)
    (hConn : conn' ≠ conn) :
    s'.reader conn' = s.reader conn' := by
  cases hStep with
  | skipped hAt => rfl
  | _ => exact Function.update_of_ne hConn _ _

/-
  After a step a handler is where it was, or it was just
  accepted, or the step is its own.
-/
theorem ProxyStep.handler_cases
    {e : Event}
    (hStep : ProxyStep env s e s' o)
    (c : ClientId) :
    s'.handler c = s.handler c ∨
      s'.handler c = .reading ∨
      ∃ event, e = .client c event ∧
        HandlerStep env s c event s' o := by
  cases hStep with
  | accepted =>
      by_cases hClient : c = s.clients
      · subst hClient
        exact Or.inr (Or.inl (Function.update_self ..))
      · exact Or.inl (Function.update_of_ne hClient _ _)
  | @client c' event s' o hTask =>
      by_cases hClient : c = c'
      · subst hClient
        exact Or.inr (Or.inr ⟨event, rfl, hTask⟩)
      · exact Or.inl (hTask.handler_of_ne hClient)
  | writer hTask => cases hTask <;> exact Or.inl rfl
  | heartbeat hTask => cases hTask <;> exact Or.inl rfl
  | upstream hTask => cases hTask <;> exact Or.inl rfl
  | reader hTask => cases hTask <;> exact Or.inl rfl
  | _ => exact Or.inl rfl

/-
  After a step a reader is where it was, or it was spawned
  on a new connection, or the step is its own.
-/
theorem ProxyStep.reader_cases
    {e : Event}
    (hStep : ProxyStep env s e s' o)
    (conn : ConnId) :
    s'.reader conn = s.reader conn ∨
      (conn = s.connections ∧ s'.reader conn = .spawned) ∨
      ∃ event, e = .reader conn event ∧
        ReaderStep env s conn event s' o := by
  cases hStep with
  | upstream hTask =>
      cases hTask with
      | spawned hAt =>
          by_cases hConn : conn = s.connections
          · subst hConn
            exact Or.inr (Or.inl
              ⟨rfl, Function.update_self ..⟩)
          · exact Or.inl (Function.update_of_ne hConn _ _)
      | _ => exact Or.inl rfl
  | @reader conn' event s' o hTask =>
      by_cases hConn : conn = conn'
      · subst hConn
        exact Or.inr (Or.inr ⟨event, rfl, hTask⟩)
      · exact Or.inl (hTask.reader_of_ne hConn)
  | client hTask => cases hTask <;> exact Or.inl rfl
  | writer hTask => cases hTask <;> exact Or.inl rfl
  | heartbeat hTask => cases hTask <;> exact Or.inl rfl
  | _ => exact Or.inl rfl

------------------------------------------------------------
-- Numbers Given Out
------------------------------------------------------------

/- The connection that the upstream task writes to. -/
def Upstream.conn? : Upstream → Option ConnId
| .selecting conn => some conn
| .writing conn _ => some conn
| _ => none

/- Numbers are given out in order. -/
structure Numbered (s : State) : Prop where
  handler : ∀ c, s.clients ≤ c → s.handler c = .absent
  reader : ∀ conn, s.connections ≤ conn →
    s.reader conn = .absent
  written : ∀ conn, s.connections ≤ conn →
    s.written conn = []
  current : ∀ conn, s.upstream.conn? = some conn →
    s.connections = conn + 1

theorem HandlerStep.numbered
    {c : ClientId}
    {event : HandlerEvent}
    (hNumbered : Numbered s)
    (hStep : HandlerStep env s c event s' o) :
    Numbered s' := by
  have hHandler : ∀ c', s.clients ≤ c' →
      s'.handler c' = .absent := by
    intro c' hNew
    have hAbsent := hNumbered.handler c' hNew
    have hClient : c' ≠ c := by
      rintro rfl
      exact hStep.running.1 hAbsent
    rw [hStep.handler_of_ne hClient]
    exact hAbsent
  cases hStep <;>
    exact ⟨hHandler, hNumbered.reader, hNumbered.written,
      hNumbered.current⟩

theorem ReaderStep.numbered
    {conn : ConnId}
    {event : ReaderEvent}
    (hNumbered : Numbered s)
    (hStep : ReaderStep env s conn event s' o) :
    Numbered s' := by
  have hReader : ∀ conn', s.connections ≤ conn' →
      s'.reader conn' = .absent := by
    intro conn' hNew
    have hAbsent := hNumbered.reader conn' hNew
    have hConn : conn' ≠ conn := by
      rintro rfl
      exact hStep.isPresent hAbsent
    rw [hStep.reader_of_ne hConn]
    exact hAbsent
  cases hStep <;>
    exact ⟨hNumbered.handler, hReader, hNumbered.written,
      hNumbered.current⟩

theorem UpstreamStep.numbered
    {event : UpstreamEvent}
    (hNumbered : Numbered s)
    (hStep : UpstreamStep env s event s' o) :
    Numbered s' := by
  cases hStep with
  | spawned hAt =>
      refine
        { handler := hNumbered.handler
          reader := ?_
          written := ?_
          current := ?_ }
      · intro conn hNew
        have hOther : conn ≠ s.connections :=
          Nat.ne_of_gt hNew
        have hOld : s.connections ≤ conn :=
          Nat.le_of_succ_le hNew
        simp only [Function.update_of_ne hOther]
        exact hNumbered.reader conn hOld
      · intro conn hNew
        exact hNumbered.written conn (Nat.le_of_succ_le hNew)
      · intro conn hConn
        cases hConn
        rfl
  | @took conn message channel hAt hRecv =>
      refine
        { hNumbered with
          current := ?_ }
      intro conn' hConn
      cases hConn
      exact hNumbered.current conn (by rw [hAt]; rfl)
  | @wrote conn message hAt =>
      have hCurrent :=
        hNumbered.current conn (by rw [hAt]; rfl)
      refine
        { handler := hNumbered.handler
          reader := hNumbered.reader
          written := ?_
          current := ?_ }
      · intro conn' hNew
        have hOther : conn' ≠ conn := by
          have hLt : s.connections ≤ conn' := hNew
          omega
        simp only [Function.update_of_ne hOther]
        exact hNumbered.written conn' hNew
      · intro conn' hConn
        cases hConn
        exact hCurrent
  | drainSent hAt hEntry hSend =>
      exact ⟨hNumbered.handler, hNumbered.reader,
        hNumbered.written, hNumbered.current⟩
  | drainLost hAt hEntry hRefused =>
      exact ⟨hNumbered.handler, hNumbered.reader,
        hNumbered.written, hNumbered.current⟩
  | _ =>
      exact ⟨hNumbered.handler, hNumbered.reader,
        hNumbered.written, nofun⟩

theorem ProxyStep.numbered
    {e : Event}
    (hNumbered : Numbered s)
    (hStep : ProxyStep env s e s' o) :
    Numbered s' := by
  cases hStep with
  | accepted =>
      refine
        { handler := ?_
          reader := hNumbered.reader
          written := hNumbered.written
          current := hNumbered.current }
      intro c hNew
      have hOther : c ≠ s.clients := Nat.ne_of_gt hNew
      have hOld : s.clients ≤ c := Nat.le_of_succ_le hNew
      simp only [acceptClient,
        Function.update_of_ne hOther]
      exact hNumbered.handler c hOld
  | client hTask => exact hTask.numbered hNumbered
  | upstream hTask => exact hTask.numbered hNumbered
  | reader hTask => exact hTask.numbered hNumbered
  | writer hTask =>
      cases hTask <;>
        exact ⟨hNumbered.handler, hNumbered.reader,
          hNumbered.written, hNumbered.current⟩
  | heartbeat hTask =>
      cases hTask <;>
        exact ⟨hNumbered.handler, hNumbered.reader,
          hNumbered.written, hNumbered.current⟩
  | _ =>
      exact ⟨hNumbered.handler, hNumbered.reader,
        hNumbered.written, hNumbered.current⟩

/- In every run numbers are given out in order. -/
theorem numbered_of_run
    {es : List Event}
    (hRun : (proxy env).Run es h s) :
    Numbered s :=
  Machine.run_induction
    (motive := fun _ _ s => Numbered s)
    ⟨fun _ _ => rfl, fun _ _ => rfl, fun _ _ => rfl,
      fun _ hConn => by cases hConn⟩
    (fun _ _ _ _ _ _ _ hNumbered hStep =>
      (step_cases hStep).numbered hNumbered)
    hRun

------------------------------------------------------------
-- Writers
------------------------------------------------------------

variable {c : ClientId} {e : Event}

/- The writer still takes texts for its client. -/
def Writer.IsLive : Writer → Prop
| .selecting | .writing _ => True
| .absent | .ended => False

instance (writer : Writer) : Decidable writer.IsLive :=
  match writer with
  | .selecting | .writing _ => instDecidableTrue
  | .absent | .ended => instDecidableFalse

/- A writer that takes steps is live. -/
theorem WriterStep.isLive
    {event : WriterEvent}
    (hStep : WriterStep s c event s' o) :
    (s.writer c).IsLive := by
  cases hStep with
  | received hAt | lagged hAt | eventRead hAt | wrote hAt =>
      rw [hAt]
      trivial
  | ended hAt =>
      rcases hAt with hAt | ⟨text, hAt⟩
      · rw [hAt]
        trivial
      · rw [hAt]
        trivial

/- A writer's step leaves the other writers alone. -/
theorem WriterStep.writer_of_ne
    {c' : ClientId}
    {event : WriterEvent}
    (hStep : WriterStep s c event s' o)
    (hClient : c' ≠ c) :
    s'.writer c' = s.writer c' := by
  cases hStep with
  | lagged hAt hLag => rfl
  | _ => exact Function.update_of_ne hClient _ _

/- The other tasks leave all writers alone. -/
theorem ProxyStep.writer_same
    (hStep : ProxyStep env s e s' o)
    (hAccept : e ≠ .accept)
    (hWriter : ∀ c event, e ≠ .writer c event) :
    s'.writer = s.writer ∧ s'.eventRx = s.eventRx := by
  cases hStep with
  | accepted => exact absurd rfl hAccept
  | writer hTask => exact absurd rfl (hWriter _ _)
  | client hTask => cases hTask <;> exact ⟨rfl, rfl⟩
  | heartbeat hTask => cases hTask <;> exact ⟨rfl, rfl⟩
  | upstream hTask => cases hTask <;> exact ⟨rfl, rfl⟩
  | reader hTask => cases hTask <;> exact ⟨rfl, rfl⟩
  | _ => exact ⟨rfl, rfl⟩

/- Only an accepted client has a writer. -/
theorem writer_absent_of_run
    {es : List Event}
    (hRun : (proxy env).Run es h s) :
    ∀ c, s.clients ≤ c → s.writer c = .absent := by
  refine Machine.run_invariant
    (motive := fun _ s =>
      ∀ c, s.clients ≤ c → s.writer c = .absent)
    (fun _ _ => rfl) ?_ hRun
  intro h s e s' o hInv hNext c hNew
  have hStep := step_cases hNext
  cases hStep with
  | accepted =>
      have hOther : c ≠ s.clients :=
        Nat.ne_of_gt (Nat.lt_of_succ_le hNew)
      simp only [acceptClient, Function.update_of_ne hOther]
      exact hInv c (Nat.le_of_succ_le hNew)
  | @writer c' event s' o hTask =>
      have hClients : s'.clients = s.clients := by
        cases hTask <;> rfl
      rw [hClients] at hNew
      have hAbsent := hInv c hNew
      have hOther : c ≠ c' := by
        rintro rfl
        have hLive := hTask.isLive
        rw [hAbsent] at hLive
        exact hLive
      rw [hTask.writer_of_ne hOther]
      exact hAbsent
  | client hTask => cases hTask <;> exact hInv c hNew
  | heartbeat hTask => cases hTask <;> exact hInv c hNew
  | upstream hTask => cases hTask <;> exact hInv c hNew
  | reader hTask => cases hTask <;> exact hInv c hNew
  | _ => exact hInv c hNew

------------------------------------------------------------
-- Lines Written on a Connection
------------------------------------------------------------

/- The message that an observation writes on a connection. -/
def Obs.writtenOn? (conn : ConnId) : Obs → Option Message
| .written conn' m => if conn' = conn then some m else none
| _ => none

/- The state keeps what the history shows as written. -/
theorem written_eq_of_run
    {es : List Event}
    (hRun : (proxy env).Run es h s)
    (conn : ConnId) :
    s.written conn = h.filterMap (Obs.writtenOn? conn) := by
  refine Machine.run_induction
    (motive := fun _ h s =>
      s.written conn = h.filterMap (Obs.writtenOn? conn))
    rfl ?_ hRun
  intro es h s e s' o _ hBefore hStep
  rw [List.filterMap_append, ← hBefore]
  have hNone (hSame : s'.written = s.written)
      (hNothing : o.filterMap (Obs.writtenOn? conn) = []) :
      s'.written conn =
        s.written conn ++
          o.filterMap (Obs.writtenOn? conn) := by
    rw [hSame, hNothing, List.append_nil]
  cases step_cases hStep with
  | client hTask => cases hTask <;> exact hNone rfl rfl
  | writer hTask => cases hTask <;> exact hNone rfl rfl
  | heartbeat hTask => cases hTask <;> exact hNone rfl rfl
  | reader hTask => cases hTask <;> exact hNone rfl rfl
  | upstream hTask =>
      cases hTask with
      | @wrote conn' message hAt =>
          by_cases hConn : conn' = conn
          · subst hConn
            simp [Obs.writtenOn?]
          · have hOther : conn ≠ conn' := fun h => hConn h.symm
            simp [Obs.writtenOn?, hConn, hOther]
      | _ => exact hNone rfl rfl
  | _ => exact hNone rfl rfl

end Control

end SeestarProxy
