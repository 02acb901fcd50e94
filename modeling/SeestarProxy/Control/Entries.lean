import SeestarProxy.Control.StaleLines

/-
  Where events and queued lines come from, and what became
  of the entries of queued requests.

  A client reads as an event only what was broadcast, and
  the telescope gets only what was queued. A request that
  was queued has its entry, or the entry was removed for an
  answer or by the drain.

  Main declarations:
    * `EventsShown` and `QueuedFirst`
    * `Accounted`, `ProxyStep.holds_cases`
    * `EntriesLast` and `entriesLast_of_run`
-/

------------------------------------------------------------
-- Where Events and Lines Come From
------------------------------------------------------------

namespace SeestarProxy

namespace Control

open Library Protocol

variable {env : Env} {h o : List Obs} {s s' : State}

/- Clients read as events what was broadcast. -/
structure EventsShown
    (h : List Obs)
    (s : State) : Prop where
  events : ∀ conn trimmed, (conn, trimmed) ∈ s.events →
    .broadcast conn trimmed ∈ h
  read : ∀ c conn trimmed, .eventRead c conn trimmed ∈ h →
    .broadcast conn trimmed ∈ h

/- What a step puts among the events and lets clients read. -/
private theorem ProxyStep.events_cases
    {e : Event}
    (hStep : ProxyStep env s e s' o) :
    (∀ conn trimmed, (conn, trimmed) ∈ s'.events →
      (conn, trimmed) ∈ s.events ∨
        .broadcast conn trimmed ∈ o) ∧
    ∀ c conn trimmed, .eventRead c conn trimmed ∈ o →
      (conn, trimmed) ∈ s.events := by
  have hSame (hEvents : s'.events = s.events)
      (conn : ConnId)
      (trimmed : String)
      (hMem : (conn, trimmed) ∈ s'.events) :
      (conn, trimmed) ∈ s.events ∨
        .broadcast conn trimmed ∈ o := by
    rw [hEvents] at hMem
    exact Or.inl hMem
  cases hStep with
  | client hTask =>
      refine ⟨hSame ?_, ?_⟩
      · cases hTask <;> rfl
      · cases hTask <;> simp
  | writer hTask =>
      refine ⟨hSame ?_, ?_⟩
      · cases hTask <;> rfl
      · cases hTask with
        | eventRead hAt hEvent =>
            intro c conn trimmed hMem
            simp only [List.mem_singleton,
              Obs.eventRead.injEq] at hMem
            rcases hMem with ⟨-, rfl, rfl⟩
            exact List.mem_of_getElem? hEvent
        | _ => simp
  | heartbeat hTask =>
      refine ⟨hSame ?_, ?_⟩
      · cases hTask <;> rfl
      · cases hTask <;> simp
  | upstream hTask =>
      refine ⟨hSame ?_, ?_⟩
      · cases hTask <;> rfl
      · cases hTask <;> simp
  | reader hTask =>
      cases hTask with
      | broadcast hAt =>
          refine ⟨?_, by simp⟩
          intro conn trimmed hMem
          simpa using hMem
      | _ => exact ⟨hSame rfl, by simp⟩
  | _ => exact ⟨hSame rfl, by simp⟩

theorem eventsShown_of_run
    {es : List Event}
    (hRun : (proxy env).Run es h s) :
    EventsShown h s := by
  refine Machine.run_invariant
    ⟨nofun, nofun⟩ ?_ hRun
  intro h s e s' o hShown hNext
  rcases (step_cases hNext).events_cases with
    ⟨hEvents, hRead⟩
  refine ⟨?_, ?_⟩
  · intro conn trimmed hMem
    rcases hEvents conn trimmed hMem with hOld | hNew
    · exact List.mem_append_left o
        (hShown.events conn trimmed hOld)
    · exact List.mem_append_right h hNew
  · intro c conn trimmed hMem
    rcases List.mem_append.mp hMem with hOld | hNew
    · exact List.mem_append_left o
        (hShown.read c conn trimmed hOld)
    · exact List.mem_append_left o
        (hShown.events conn trimmed (hRead c conn trimmed hNew))

/- Every message on its way to the telescope was queued. -/
structure QueuedFirst
    (h : List Obs)
    (s : State) : Prop where
  queue : ∀ m ∈ s.upstreamTx.queue, .queued m ∈ h
  upstream : ∀ conn m, s.upstream = .writing conn m →
    .queued m ∈ h
  written : ∀ conn m, .written conn m ∈ h → .queued m ∈ h

/- What a step puts on the way to the telescope. -/
private theorem ProxyStep.queued_cases
    {e : Event}
    (hStep : ProxyStep env s e s' o) :
    (∀ m ∈ s'.upstreamTx.queue,
      m ∈ s.upstreamTx.queue ∨ .queued m ∈ o) ∧
    ∀ conn m, s'.upstream = .writing conn m →
      s.upstream = .writing conn m ∨
        m ∈ s.upstreamTx.queue := by
  have hSent {message : Message}
      {channel : Channel Message 256}
      (hSend : s.upstreamTx.trySend message =
        .sent channel)
      (m : Message)
      (hMem : m ∈ channel.queue) :
      m ∈ s.upstreamTx.queue ∨ .queued m ∈
        [Obs.queued message] := by
    rcases Channel.mem_queue_of_sent hSend hMem with
      hOld | rfl
    · exact Or.inl hOld
    · exact Or.inr List.mem_cons_self
  cases hStep with
  | client hTask =>
      refine ⟨?_, ?_⟩
      · cases hTask with
        | requestQueued hAt hSend => exact hSent hSend
        | notificationQueued hAt hSend => exact hSent hSend
        | _ => exact fun m hMem => Or.inl hMem
      · cases hTask <;> exact fun _ _ hAt => Or.inl hAt
  | writer hTask =>
      cases hTask <;>
        exact ⟨fun _ hMem => Or.inl hMem,
          fun _ _ hAt => Or.inl hAt⟩
  | heartbeat hTask =>
      refine ⟨?_, ?_⟩
      · cases hTask with
        | queued hAt hSend => exact hSent hSend
        | _ => exact fun m hMem => Or.inl hMem
      · cases hTask <;> exact fun _ _ hAt => Or.inl hAt
  | upstream hTask =>
      cases hTask with
      | took hAt hRecv =>
          refine ⟨?_, ?_⟩
          · intro m hMem
            exact Or.inl
              (Channel.mem_queue_of_recv hRecv hMem)
          · intro conn m hWriting
            cases hWriting
            exact Or.inr (Channel.received_mem_queue hRecv)
      | stopped hAt => exact ⟨nofun, nofun⟩
      | drainSent hAt | drainLost hAt =>
          exact ⟨fun _ hMem => Or.inl hMem,
            fun _ _ hWriting => Or.inl hWriting⟩
      | _ =>
          exact ⟨fun _ hMem => Or.inl hMem, nofun⟩
  | reader hTask =>
      cases hTask <;>
        exact ⟨fun _ hMem => Or.inl hMem,
          fun _ _ hAt => Or.inl hAt⟩
  | hookSent hSend =>
      exact ⟨hSent hSend, fun _ _ hAt => Or.inl hAt⟩
  | _ =>
      exact ⟨fun _ hMem => Or.inl hMem,
        fun _ _ hAt => Or.inl hAt⟩

theorem queuedFirst_of_run
    {es : List Event}
    (hRun : (proxy env).Run es h s) :
    QueuedFirst h s := by
  refine Machine.run_invariant
    ⟨nofun, nofun, nofun⟩ ?_ hRun
  intro h s e s' o hFirst hNext
  have hStep := step_cases hNext
  rcases hStep.queued_cases with ⟨hQueue, hUpstream⟩
  refine ⟨?_, ?_, ?_⟩
  · intro m hMem
    rcases hQueue m hMem with hOld | hNew
    · exact List.mem_append_left o (hFirst.queue m hOld)
    · exact List.mem_append_right h hNew
  · intro conn m hWriting
    apply List.mem_append_left o
    rcases hUpstream conn m hWriting with hOld | hTaken
    · exact hFirst.upstream conn m hOld
    · exact hFirst.queue m hTaken
  · intro conn m hMem
    apply List.mem_append_left o
    rcases List.mem_append.mp hMem with hOld | hNew
    · exact hFirst.written conn m hOld
    · exact hFirst.upstream conn m
        (written_cases hStep hNew).2

------------------------------------------------------------
-- Entries Outlive Their Lines
------------------------------------------------------------

/-
  The request has its entry, or the entry was removed for an
  answer or by the drain.
-/
def Accounted
    (h : List Obs)
    (s : State)
    (seq : Nat) : Prop :=
  s.pending.Holds seq ∨
    (∃ conn c, .removed conn c seq ∈ h) ∨
      ∃ c running, .drained c seq running ∈ h

/- How a request can lose its entry. -/
theorem ProxyStep.holds_cases
    {e : Event}
    {seq : Nat}
    (hInv : Provenance env h s)
    (hKept : Control.replies.Kept h s)
    (hIds : s.allocated ≤ 2 ^ 64)
    (hStep : ProxyStep env s e s' o)
    (hHolds : s.pending.Holds seq) :
    s'.pending.Holds seq ∨
      (∃ conn c, .removed conn c seq ∈ o) ∨
      (∃ c running, .drained c seq running ∈ o) ∨
      ∃ c id, s.handler c = .unregistering seq id := by
  have hSame (hPending : s'.pending = s.pending) :
      s'.pending.Holds seq := by
    rw [hPending]
    exact hHolds
  rcases hHolds with ⟨key, entry, hEntry, rfl⟩
  -- An entry is lost only with its own key.
  have hErase {key' : UInt64} (hKey : key ≠ key') :
      PendingMap.Holds (s.pending.erase key') entry.seq := by
    refine ⟨key, entry, ?_, rfl⟩
    rw [AList.lookup_erase_ne hKey]
    exact hEntry
  cases hStep with
  | @client c event s' o hTask =>
      cases hTask with
      | registered hAt hLock hRoom =>
          have hNone :=
            lookup_eq_none_of_registering hInv hKept hIds hAt
          refine Or.inl ⟨key, entry, ?_, rfl⟩
          rw [AList.lookup_insert_ne]
          · exact hEntry
          · rintro rfl
            rw [hNone] at hEntry
            cases hEntry
      | @unregistered seq' id hAt hLock =>
          by_cases hKey : key = id
          · subst hKey
            have hKnown := hInv.handlers c
            rw [hAt] at hKnown
            rcases hKnown with ⟨originalId, msg, hReq⟩
            have hDrawn := hInv.requested hReq
            have hOld := hInv.entry_seq hEntry
            have hId : idOf seq' = idOf entry.seq := by
              rw [← hDrawn.2.2, ← hInv.entry_key hEntry]
            have hSeq : seq' = entry.seq :=
              idOf_inj (by omega) (by omega) hId
            rw [hSeq] at hAt
            exact Or.inr (Or.inr (Or.inr ⟨c, key, hAt⟩))
          · exact Or.inl (hErase hKey)
      | _ => exact Or.inl (hSame rfl)
  | writer hTask =>
      cases hTask <;> exact Or.inl (hSame rfl)
  | heartbeat hTask =>
      cases hTask <;> exact Or.inl (hSame rfl)
  | upstream hTask =>
      cases hTask with
      | @drainSent key' entry' channel hAt hFound hSend =>
          by_cases hKey : key = key'
          · subst hKey
            rw [hEntry] at hFound
            cases hFound
            exact Or.inr (Or.inr (Or.inl
              ⟨_, _, List.mem_cons_self⟩))
          · exact Or.inl (hErase hKey)
      | @drainLost key' entry' hAt hFound hRefused =>
          by_cases hKey : key = key'
          · subst hKey
            rw [hEntry] at hFound
            cases hFound
            exact Or.inr (Or.inr (Or.inl
              ⟨_, _, List.mem_cons_self⟩))
          · exact Or.inl (hErase hKey)
      | _ => exact Or.inl (hSame rfl)
  | reader hTask =>
      cases hTask with
      | @removed id msg trimmed entry' hAt hLock hFound =>
          by_cases hKey : key = id
          · subst hKey
            rw [hEntry] at hFound
            cases hFound
            exact Or.inr (Or.inl
              ⟨_, _, List.mem_cons_self⟩)
          · exact Or.inl (hErase hKey)
      | _ => exact Or.inl (hSame rfl)
  | _ => exact Or.inl (hSame rfl)

/-
  A request that was queued, or is about to be, is accounted
  for, and once it is queued no handler works on it.
-/
structure EntriesLast
    (h : List Obs)
    (s : State) : Prop where
  queueing : ∀ c seq id msg forwarded,
    s.handler c = .queueing seq id msg forwarded →
      Accounted h s seq
  queued : ∀ m c seq, .queued m ∈ h →
    m.origin = .request c seq →
      Accounted h s seq ∧
        ∀ c', (s.handler c').seq? ≠ some seq

/- A handler that holds a request drew its id. -/
private theorem requested_of_seq
    (hInv : Provenance env h s)
    {c : ClientId}
    {seq : Nat}
    (hAt : (s.handler c).seq? = some seq) :
    ∃ id originalId msg,
      Requested h c seq id originalId msg := by
  have hKnown := hInv.handlers c
  cases hHandler : s.handler c with
  | registering seq' id originalId remapped forwarded =>
      rw [hHandler] at hKnown hAt
      cases hAt
      rcases hKnown with ⟨msg, hReq, -⟩
      exact ⟨id, originalId, msg, hReq⟩
  | refusing seq' error =>
      rw [hHandler] at hKnown hAt
      cases hAt
      rcases hKnown with ⟨id, originalId, msg, hReq, -⟩
      exact ⟨id, originalId, msg, hReq⟩
  | queueing seq' id remapped forwarded =>
      rw [hHandler] at hKnown hAt
      cases hAt
      rcases hKnown with ⟨originalId, msg, hReq, -⟩
      exact ⟨id, originalId, msg, hReq⟩
  | unregistering seq' id =>
      rw [hHandler] at hKnown hAt
      cases hAt
      rcases hKnown with ⟨originalId, msg, hReq⟩
      exact ⟨id, originalId, msg, hReq⟩
  | _ =>
      rw [hHandler] at hAt
      cases hAt

/- A handler with nothing to forward holds no request. -/
private theorem Handler.seq?_of_isIdle
    {handler : Handler}
    (hIdle : handler.IsIdle) :
    handler.seq? = none := by
  cases handler <;> first
    | rfl
    | cases hIdle

/- A handler takes up only the request it draws now. -/
private theorem ProxyStep.seq_cases
    {e : Event}
    {c : ClientId}
    {seq : Nat}
    (hStep : ProxyStep env s e s' o)
    (hAfter : (s'.handler c).seq? = some seq) :
    (s.handler c).seq? = some seq ∨ seq = s.allocated := by
  rcases hStep.handler_cases c with
    hSame | hNew | ⟨event, rfl, hTask⟩
  · rw [hSame] at hAfter
    exact Or.inl hAfter
  · rw [hNew] at hAfter
    cases hAfter
  · cases hTask with
    | idle hRunning hBefore hIdle hEvent =>
        simp only [Function.update_self,
          Handler.seq?_of_isIdle hIdle] at hAfter
        cases hAfter
    | allocated hAt hHook hId hNext =>
        simp only [Function.update_self] at hAfter
        rcases hNext with rfl | ⟨text, -, rfl⟩
        · cases hAfter
        · cases hAfter
          exact Or.inr rfl
    | registered hAt | refusedBlocked hAt
    | requestFailed hAt =>
        simp only [Function.update_self] at hAfter
        cases hAfter
        rw [hAt]
        exact Or.inl rfl
    | _ =>
        simp only [Function.update_self] at hAfter
        cases hAfter

/- Only the handler of a request shows it as queued. -/
private theorem queued_request
    {e : Event}
    {m : Message}
    {c : ClientId}
    {seq : Nat}
    {es : List Event}
    (hRun : (proxy env).Run es h s)
    (hStep : ProxyStep env s e s' o)
    (hMem : .queued m ∈ o)
    (hOrigin : m.origin = .request c seq) :
    (∃ id msg forwarded, s.handler c =
        .queueing seq id msg forwarded) ∧
      s'.handler = Function.update s.handler c .reading := by
  cases hStep with
  | client hTask =>
      cases hTask with
      | requestQueued hAt hSend =>
          simp only [List.mem_singleton,
            Obs.queued.injEq] at hMem
          subst hMem
          cases hOrigin
          exact ⟨⟨_, _, _, hAt⟩, rfl⟩
      | notificationQueued hAt hSend =>
          simp only [List.mem_singleton,
            Obs.queued.injEq] at hMem
          subst hMem
          cases hOrigin
      | _ => simp at hMem
  | writer hTask => cases hTask <;> simp at hMem
  | heartbeat hTask =>
      cases hTask with
      | queued hAt hSend =>
          simp only [List.mem_singleton,
            Obs.queued.injEq] at hMem
          subst hMem
          -- The heartbeat holds no line that a client drew.
          have hMessage :=
            (provenance_of_run hRun).heartbeat m hAt
          rw [MessageOk, hOrigin] at hMessage
          rcases hMessage with
            ⟨id, originalId, msg, ⟨sent, action, hReq⟩, -⟩
          have hLine : LineHeld s seq .heartbeat := by
            rw [LineHeld, hAt]
            simp [Heartbeat.line?, Message.seq?, hOrigin]
          have hDrawn := heartbeat_of_line
            (linesKept_of_run hRun).kept hLine
          cases draw_unique hRun hDrawn hReq rfl rfl
      | _ => simp at hMem
  | upstream hTask => cases hTask <;> simp at hMem
  | reader hTask => cases hTask <;> simp at hMem
  | hookSent hSend =>
      simp only [List.mem_singleton,
        Obs.queued.injEq] at hMem
      subst hMem
      cases hOrigin
  | _ => simp at hMem

private theorem Accounted.step
    {e : Event}
    {seq : Nat}
    (hInv : Provenance env h s)
    (hKept : replies.Kept h s)
    (hIds : s.allocated ≤ 2 ^ 64)
    (hStep : ProxyStep env s e s' o)
    (hNot : ∀ c id, s.handler c ≠ .unregistering seq id)
    (hAccounted : Accounted h s seq) :
    Accounted (h ++ o) s' seq := by
  rcases hAccounted with
    hHolds | ⟨conn, c, hRemoved⟩ | ⟨c, running, hDrained⟩
  · rcases hStep.holds_cases hInv hKept hIds hHolds with
      hAfter | ⟨conn, c, hRemoved⟩ |
        ⟨c, running, hDrained⟩ | ⟨c, id, hAt⟩
    · exact Or.inl hAfter
    · exact Or.inr (Or.inl
        ⟨conn, c, List.mem_append_right h hRemoved⟩)
    · exact Or.inr (Or.inr
        ⟨c, running, List.mem_append_right h hDrained⟩)
    · exact absurd hAt (hNot c id)
  · exact Or.inr (Or.inl
      ⟨conn, c, List.mem_append_left o hRemoved⟩)
  · exact Or.inr (Or.inr
      ⟨c, running, List.mem_append_left o hDrained⟩)

/- A handler starts to queue what it has just registered. -/
private theorem queueing_cases
    {e : Event}
    {c : ClientId}
    {seq : Nat}
    {id : UInt64}
    {msg : Value}
    {forwarded : String}
    (hStep : ProxyStep env s e s' o)
    (hAfter : s'.handler c =
      .queueing seq id msg forwarded) :
    s.handler c = .queueing seq id msg forwarded ∨
      s'.pending.Holds seq := by
  rcases hStep.handler_cases c with
    hSame | hNew | ⟨event, rfl, hTask⟩
  · rw [hSame] at hAfter
    exact Or.inl hAfter
  · rw [hNew] at hAfter
    cases hAfter
  · cases hTask with
    | idle hRunning hBefore hIdle hEvent =>
        simp only [Function.update_self] at hAfter
        subst hAfter
        cases hIdle
    | allocated hAt hHook hId hNext =>
        simp only [Function.update_self] at hAfter
        subst hAfter
        rcases hNext with hNext | ⟨text, -, hNext⟩
        · cases hNext
        · cases hNext
    | registered hAt hLock hRoom =>
        simp only [Function.update_self] at hAfter
        cases hAfter
        exact Or.inr
          ⟨id, _, AList.lookup_insert s.pending, rfl⟩
    | _ => simp at hAfter

private theorem entriesLast_step
    {es : List Event}
    {e : Event}
    (hRun : (proxy env).Run es h s)
    (hIds : s.allocated ≤ 2 ^ 64)
    (hNext : (proxy env).step s e = some (s', o))
    (hLast : EntriesLast h s) :
    EntriesLast (h ++ o) s' := by
  have hStep := step_cases hNext
  have hInv := provenance_of_run hRun
  have hKept := repliesKept_of_run hRun
  -- Two handlers never hold one request.
  have hSame {c c' : ClientId} {seq : Nat}
      (hAt : (s.handler c).seq? = some seq)
      (hAt' : (s.handler c').seq? = some seq) : c = c' := by
    rcases requested_of_seq hInv hAt with
      ⟨id, originalId, msg, sent, action, hReq⟩
    rcases requested_of_seq hInv hAt' with
      ⟨id', originalId', msg', sent', action', hReq'⟩
    cases draw_unique hRun hReq hReq' rfl rfl
    rfl
  refine ⟨?_, ?_⟩
  · intro c seq id msg forwarded hAfter
    rcases queueing_cases hStep hAfter with hAt | hHolds
    · refine (hLast.queueing c seq id msg forwarded hAt).step
        hInv hKept hIds hStep ?_
      intro c' id' hAt'
      have hClient : c = c' :=
        hSame (by rw [hAt]; rfl) (by rw [hAt']; rfl)
      rw [← hClient, hAt] at hAt'
      cases hAt'
    · exact Or.inl hHolds
  · intro m c seq hMem hOrigin
    rcases List.mem_append.mp hMem with hOld | hNew
    · rcases hLast.queued m c seq hOld hOrigin with
        ⟨hAccounted, hNone⟩
      refine ⟨?_, ?_⟩
      · refine hAccounted.step hInv hKept hIds hStep ?_
        intro c' id hAt
        apply hNone c'
        rw [hAt]
        rfl
      · intro c' hAfter
        rcases hStep.seq_cases hAfter with hAt | rfl
        · exact hNone c' hAt
        · have hMessage : MessageOk env h m :=
            hInv.history _ hOld
          rw [MessageOk, hOrigin] at hMessage
          rcases hMessage with
            ⟨id, originalId, msg, hReq, -⟩
          exact absurd (hInv.requested hReq).2.1
            (Nat.lt_irrefl _)
    · rcases queued_request hRun hStep hNew hOrigin with
        ⟨⟨id, msg, forwarded, hAt⟩, hHandler⟩
      have hSeq : (s.handler c).seq? = some seq := by
        rw [hAt]
        rfl
      refine ⟨?_, ?_⟩
      · refine (hLast.queueing c seq id msg forwarded hAt).step
          hInv hKept hIds hStep ?_
        intro c' id' hAt'
        have hClient : c = c' :=
          hSame hSeq (by rw [hAt']; rfl)
        rw [← hClient, hAt] at hAt'
        cases hAt'
      · intro c' hAfter
        rw [hHandler] at hAfter
        by_cases hClient : c' = c
        · rw [hClient, Function.update_self] at hAfter
          cases hAfter
        · rw [Function.update_of_ne hClient] at hAfter
          exact hClient (hSame hAfter hSeq)

theorem entriesLast_of_run
    {es : List Event}
    (hRun : (proxy env).Run es h s)
    (hIds : s.allocated ≤ 2 ^ 64) :
    EntriesLast h s := by
  refine Machine.run_induction
    (motive := fun _ h s =>
      s.allocated ≤ 2 ^ 64 → EntriesLast h s)
    ?_ ?_ hRun hIds
  · intro hNone
    refine ⟨?_, ?_⟩
    · intro c seq id msg forwarded hAt
      cases hAt
    · intro m c seq hMem
      cases hMem
  · intro es h s e s' o hBefore ih hNext hIds'
    have hLe := (step_cases hNext).allocated_le
    have hIds := Nat.le_trans hLe hIds'
    exact entriesLast_step hBefore hIds hNext (ih hIds)

end Control

end SeestarProxy
