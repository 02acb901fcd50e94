import SeestarProxy.Control.Lines

/-
  Who owes the reply to a request.

  The duty to answer a request is with the handler that drew
  its id, with its entry of the pending map, or with the
  reader that removed the entry; then the request is
  answered. The ledger `replies` follows the duty, so no
  request is answered twice.

  Main declarations:
    * `ReplyPlace` and `replies`
    * `ProxyStep.replies` and `repliesKept_of_run`
-/

------------------------------------------------------------
-- Places of a Reply
------------------------------------------------------------

namespace SeestarProxy

namespace Control

open Library Protocol

/- Where the duty to answer a request can be. -/
inductive ReplyPlace where
| handler (client : ClientId)
| entry
| reader (conn : ConnId)
| answered
deriving DecidableEq, Repr

/- The request that a handler has not passed on yet. -/
def Handler.unanswered? : Handler → Option Nat
| .registering seq _ _ _ _ => some seq
| .refusing seq _ => some seq
| _ => none

/- A handler with nothing to forward owes no reply. -/
theorem Handler.unanswered?_of_isIdle
    {handler : Handler}
    (hIdle : handler.IsIdle) :
    handler.unanswered? = none := by
  cases handler <;> first
    | rfl
    | cases hIdle

/- The request whose answer a reader delivers. -/
def Reader.unanswered? : Reader → Option Nat
| .delivering _ seq _ _ => some seq
| _ => none

/- An entry of the map stands for the request. -/
def PendingMap.Holds
    (pending : PendingMap)
    (seq : Nat) : Prop :=
  ∃ key entry,
    pending.lookup key = some entry ∧ entry.seq = seq

/- The state owes the reply at the place. -/
def ReplyHeld (s : State) (seq : Nat) : ReplyPlace → Prop
| .handler c => (s.handler c).unanswered? = some seq
| .entry => s.pending.Holds seq
| .reader conn => (s.reader conn).unanswered? = some seq
| .answered => False

/- The place that an observation moves the duty to. -/
def replyMove : Obs → Option (Nat × ReplyPlace)
| .request c _ _ _ _ seq _ => some (seq, .handler c)
| .registered _ seq => some (seq, .entry)
| .removed conn _ seq => some (seq, .reader conn)
| .reply _ _ seq _ => some (seq, .answered)
| _ => none

/- The ledger of replies; an answered request stays so. -/
def replies : Ledger State Obs Nat ReplyPlace where
  assign := replyMove
  held := ReplyHeld
  issued := fun s seq => seq < s.allocated
  isCounted
  | .answered => true
  | _ => false
  not_counted := by
    intro s seq place hHeld
    cases place with
    | answered => cases hHeld
    | _ => rfl

------------------------------------------------------------
-- Steps that Move No Reply
------------------------------------------------------------

/- Every reply owed after a step was owed before. -/
structure RepliesStay (s s' : State) : Prop where
  handler : ∀ c seq,
      (s'.handler c).unanswered? = some seq →
        (s.handler c).unanswered? = some seq := by
    exact fun _ _ hHeld => hHeld
  entry : ∀ key entry,
      s'.pending.lookup key = some entry →
        s.pending.lookup key = some entry := by
    exact fun _ _ hHeld => hHeld
  reader : ∀ conn seq,
      (s'.reader conn).unanswered? = some seq →
        (s.reader conn).unanswered? = some seq := by
    exact fun _ _ hHeld => hHeld

variable {env : Env} {h o : List Obs} {s s' : State}

theorem RepliesStay.step
    (hStay : RepliesStay s s')
    (hMoves : replies.moves o = []) :
    replies.Step o s s' := by
  refine .stay hMoves ?_
  intro seq place hHeld
  cases place with
  | handler c => exact hStay.handler c seq hHeld
  | entry =>
      rcases hHeld with ⟨key, entry, hEntry, hSeq⟩
      exact ⟨key, entry, hStay.entry key entry hEntry, hSeq⟩
  | reader conn => exact hStay.reader conn seq hHeld
  | answered => exact hHeld

/- A handler that takes up no duty leaves all others alone. -/
theorem RepliesStay.ofHandler
    {c : ClientId}
    {next : Handler}
    (hNext : ∀ seq, next.unanswered? = some seq →
      (s.handler c).unanswered? = some seq)
    (c' : ClientId)
    (seq : Nat)
    (hHeld :
      (Function.update s.handler c next c').unanswered? =
        some seq) :
    (s.handler c').unanswered? = some seq :=
  of_update
    (fun _ (x : Handler) => x.unanswered? = some seq)
    (hNext seq) c' hHeld

theorem RepliesStay.ofNoReply
    {c : ClientId}
    {next : Handler}
    (hNext : next.unanswered? = none)
    (c' : ClientId)
    (seq : Nat)
    (hHeld :
      (Function.update s.handler c next c').unanswered? =
        some seq) :
    (s.handler c').unanswered? = some seq := by
  refine RepliesStay.ofHandler ?_ c' seq hHeld
  intro seq' hReply
  rw [hNext] at hReply
  cases hReply

/- A reader that takes up no duty leaves all others alone. -/
theorem RepliesStay.ofReader
    {conn : ConnId}
    {next : Reader}
    (hNext : next.unanswered? = none)
    (conn' : ConnId)
    (seq : Nat)
    (hHeld :
      (Function.update s.reader conn next conn').unanswered? =
        some seq) :
    (s.reader conn').unanswered? = some seq := by
  refine of_update
    (fun _ (x : Reader) => x.unanswered? = some seq)
    ?_ conn' hHeld
  intro hReply
  rw [hNext] at hReply
  cases hReply

/- Where a reader goes with a line owes no reply. -/
theorem routeLine_unanswered?
    (env : Env)
    (trimmed : String) :
    (routeLine env trimmed).unanswered? = none := by
  unfold routeLine
  cases env.serde.fromStr trimmed with
  | none =>
      simp only
      split <;> rfl
  | some msg =>
      simp only
      split
      · rfl
      · split <;> rfl

theorem afterHook_unanswered?
    (trimmed : String)
    (action : HookAction) :
    (afterHook trimmed action).unanswered? = none := by
  cases action <;> rfl

------------------------------------------------------------
-- Steps of the Tasks
------------------------------------------------------------

/- A handler's own reply leaves it. -/
private theorem handler_lets_go
    {c : ClientId}
    {next : Handler}
    {seq : Nat}
    {place : ReplyPlace}
    (hAt : (s.handler c).unanswered? = some seq)
    (hMoves : replies.moves o = [(seq, place)])
    (hNext : next.unanswered? = none)
    (hHandler : s'.handler = Function.update s.handler c next)
    (hHeld : ∀ seq' place', (∀ c', place' ≠ .handler c') →
      ReplyHeld s' seq' place' →
        (seq' = seq ∧ place' = place) ∨
          ReplyHeld s seq' place') :
    replies.Step o s s' := by
  have hFrom : replies.held s seq (.handler c) := hAt
  refine .move hFrom hMoves ?_
  intro seq' place' hNow
  by_cases hPlace : ∃ c', place' = .handler c'
  · rcases hPlace with ⟨c', rfl⟩
    have hOwed :
        (s'.handler c').unanswered? = some seq' := hNow
    rw [hHandler] at hOwed
    refine Or.inr
      ⟨RepliesStay.ofNoReply hNext c' seq' hOwed, ?_⟩
    intro hSame
    cases hSame
    rw [Function.update_self, hNext] at hOwed
    cases hOwed
  · have hOther : ∀ c', place' ≠ .handler c' :=
      fun c' hSame => hPlace ⟨c', hSame⟩
    rcases hHeld seq' place' hOther hNow with hNew | hOld
    · exact Or.inl hNew
    · exact Or.inr
        ⟨hOld, fun hSame => absurd hSame (hOther c)⟩

/- A handler passes its duty to an entry, or answers. -/
theorem HandlerStep.replies
    {c : ClientId}
    {event : HandlerEvent}
    (hStep : HandlerStep env s c event s' o) :
    replies.Step o s s' := by
  cases hStep with
  | idle hRunning hBefore hAfter hEvent =>
      refine RepliesStay.step { handler := ?_ } rfl
      apply RepliesStay.ofNoReply
      exact Handler.unanswered?_of_isIdle hAfter
  | parsed hAt =>
      exact RepliesStay.step
        { handler := RepliesStay.ofNoReply rfl } rfl
  | notifying hAt hId =>
      exact RepliesStay.step
        { handler := RepliesStay.ofNoReply rfl } rfl
  | @allocated action trimmed sent msg originalId next
      hAt hHook hId hNext =>
      refine .issue (Nat.lt_irrefl _) (Nat.lt_succ_self _)
        rfl ?_
      intro seq place hHeld
      cases place with
      | handler c' =>
          by_cases hClient : c' = c
          · subst hClient
            have hReply : next.unanswered? = some seq := by
              simpa [Control.replies, ReplyHeld] using hHeld
            rcases hNext with rfl | ⟨forwarded, -, rfl⟩
            · cases hReply
            · cases hReply
              exact Or.inl ⟨rfl, rfl⟩
          · refine Or.inr ?_
            simpa [Control.replies, ReplyHeld, hClient]
              using hHeld
      | _ => exact Or.inr hHeld
  | hookReplied hAt hSend =>
      exact RepliesStay.step
        { handler := RepliesStay.ofNoReply rfl } rfl
  | @registered seq id originalId msg forwarded
      hAt hLock hRoom =>
      have hOwes : (s.handler c).unanswered? = some seq := by
        rw [hAt]
        rfl
      refine handler_lets_go hOwes rfl rfl rfl ?_
      intro seq' place hPlace hHeld
      cases place with
      | handler c' => exact absurd rfl (hPlace c')
      | entry =>
          rcases hHeld with ⟨key, entry, hEntry, rfl⟩
          rcases PendingMap.lookup_insert_some hEntry with
            ⟨rfl, rfl⟩ | ⟨-, hOld⟩
          · exact Or.inl ⟨rfl, rfl⟩
          · exact Or.inr ⟨key, entry, hOld, rfl⟩
      | _ => exact Or.inr hHeld
  | @refusedSent seq id originalId msg forwarded channel
      hAt hLock hFull hSend =>
      have hOwes : (s.handler c).unanswered? = some seq := by
        rw [hAt]
        rfl
      refine handler_lets_go hOwes rfl rfl rfl ?_
      intro seq' place hPlace hHeld
      cases place with
      | handler c' => exact absurd rfl (hPlace c')
      | _ => exact Or.inr hHeld
  | refusedClosed hAt hLock hFull hClosed =>
      exact RepliesStay.step
        { handler := RepliesStay.ofNoReply rfl } rfl
  | refusedBlocked hAt hLock hFull hBlocks =>
      refine RepliesStay.step
        { handler := RepliesStay.ofHandler ?_ } rfl
      intro seq hReply
      rw [hAt]
      exact hReply
  | @refusalSent seq error channel hAt hSend =>
      have hOwes : (s.handler c).unanswered? = some seq := by
        rw [hAt]
        rfl
      refine handler_lets_go hOwes rfl rfl rfl ?_
      intro seq' place hPlace hHeld
      cases place with
      | handler c' => exact absurd rfl (hPlace c')
      | _ => exact Or.inr hHeld
  | refusalClosed hAt hClosed =>
      exact RepliesStay.step
        { handler := RepliesStay.ofNoReply rfl } rfl
  | requestQueued hAt hSend =>
      exact RepliesStay.step
        { handler := RepliesStay.ofNoReply rfl } rfl
  | requestFailed hAt hClosed =>
      exact RepliesStay.step
        { handler := RepliesStay.ofNoReply rfl } rfl
  | notificationQueued hAt hSend =>
      exact RepliesStay.step
        { handler := RepliesStay.ofNoReply rfl } rfl
  | unregistered hAt hLock =>
      exact RepliesStay.step
        { handler := RepliesStay.ofNoReply rfl
          entry := fun key entry hEntry =>
            (PendingMap.lookup_erase_some hEntry).2 } rfl

/-
  A request has at most one entry, since the key of an entry
  is the id of its request.
-/
theorem key_unique
    (hInv : Provenance env h s)
    {key key' : UInt64}
    {entry entry' : PendingRequest}
    (hEntry : s.pending.lookup key = some entry)
    (hEntry' : s.pending.lookup key' = some entry')
    (hSeq : entry'.seq = entry.seq) :
    key' = key := by
  have hKey := hInv.entry_key hEntry
  have hKey' := hInv.entry_key hEntry'
  rw [hKey, hKey', hSeq]

/- The duty of an entry leaves the map with it. -/
private theorem entry_lets_go
    (hInv : Provenance env h s)
    {key : UInt64}
    {entry : PendingRequest}
    {place : ReplyPlace}
    (hEntry : s.pending.lookup key = some entry)
    (hMoves : replies.moves o = [(entry.seq, place)])
    (hPending : s'.pending = s.pending.erase key)
    (hHeld : ∀ seq' place', place' ≠ .entry →
      ReplyHeld s' seq' place' →
        (seq' = entry.seq ∧ place' = place) ∨
          ReplyHeld s seq' place') :
    replies.Step o s s' := by
  have hFrom : replies.held s entry.seq .entry :=
    ⟨key, entry, hEntry, rfl⟩
  refine .move hFrom hMoves ?_
  intro seq' place' hNow
  by_cases hPlace : place' = .entry
  · subst hPlace
    rcases hNow with ⟨key', entry', hFound, rfl⟩
    rw [hPending] at hFound
    rcases PendingMap.lookup_erase_some hFound with
      ⟨hKey, hOld⟩
    refine Or.inr ⟨⟨key', entry', hOld, rfl⟩, ?_⟩
    intro _ hSeq
    exact hKey (key_unique hInv hEntry hOld hSeq)
  · rcases hHeld seq' place' hPlace hNow with hNew | hOld
    · exact Or.inl hNew
    · exact Or.inr
        ⟨hOld, fun hSame => absurd hSame hPlace⟩

/- The drain answers entries; the rest moves no reply. -/
theorem UpstreamStep.replies
    {event : UpstreamEvent}
    (hInv : Provenance env h s)
    (hStep : UpstreamStep env s event s' o) :
    replies.Step o s s' := by
  cases hStep with
  | drainSent hAt hEntry hSend =>
      refine entry_lets_go hInv hEntry rfl rfl ?_
      intro seq' place hPlace hHeld
      cases place with
      | entry => exact absurd rfl hPlace
      | _ => exact Or.inr hHeld
  | drainLost hAt hEntry hRefused =>
      exact RepliesStay.step
        { entry := fun key entry hEntry =>
            (PendingMap.lookup_erase_some hEntry).2 } rfl
  | spawned hAt =>
      exact RepliesStay.step
        { reader := RepliesStay.ofReader rfl } rfl
  | _ => exact RepliesStay.step { } rfl

/- A reader takes up the duty of an entry and answers. -/
theorem ReaderStep.replies
    {conn : ConnId}
    {event : ReaderEvent}
    (hInv : Provenance env h s)
    (hStep : ReaderStep env s conn event s' o) :
    replies.Step o s s' := by
  cases hStep with
  | received hAt hTrim hText =>
      exact RepliesStay.step
        { reader := RepliesStay.ofReader
            (routeLine_unanswered? env _) } rfl
  | hooked hAt =>
      exact RepliesStay.step
        { reader := RepliesStay.ofReader
            (afterHook_unanswered? _ _) } rfl
  | removed hAt hLock hEntry =>
      refine entry_lets_go hInv hEntry rfl rfl ?_
      intro seq' place hPlace hHeld
      cases place with
      | entry => exact absurd rfl hPlace
      | reader conn' =>
          by_cases hConn : conn' = conn
          · subst hConn
            simp only [ReplyHeld, Function.update_self]
              at hHeld
            cases hHeld
            exact Or.inl ⟨rfl, rfl⟩
          · refine Or.inr ?_
            simpa [ReplyHeld, hConn] using hHeld
      | _ => exact Or.inr hHeld
  | @delivered c seq trimmed text channel hAt hSend =>
      have hFrom :
          Control.replies.held s seq (.reader conn) := by
        change (s.reader conn).unanswered? = some seq
        rw [hAt]
        rfl
      refine .move hFrom rfl ?_
      intro seq' place hHeld
      cases place with
      | reader conn' =>
          refine Or.inr
            ⟨RepliesStay.ofReader rfl conn' seq' hHeld, ?_⟩
          intro hSame
          cases hSame
          simp [Control.replies, ReplyHeld,
            Reader.unanswered?] at hHeld
      | _ => exact Or.inr ⟨hHeld, by simp⟩
  | skipped hAt => exact RepliesStay.step { } rfl
  | _ =>
      exact RepliesStay.step
        { reader := RepliesStay.ofReader rfl } rfl

/- Every step of the proxy keeps the replies in order. -/
theorem ProxyStep.replies
    {e : Event}
    (hInv : Provenance env h s)
    (hStep : ProxyStep env s e s' o) :
    replies.Step o s s' := by
  cases hStep with
  | notified => exact RepliesStay.step { } rfl
  | accepted =>
      exact RepliesStay.step
        { handler := RepliesStay.ofNoReply rfl } rfl
  | client hTask => exact hTask.replies
  | writer hTask =>
      cases hTask <;> exact RepliesStay.step { } rfl
  | heartbeat hTask =>
      cases hTask with
      | allocated hAt => exact RepliesStay.step { } rfl
      | _ => exact RepliesStay.step { } rfl
  | upstream hTask => exact hTask.replies hInv
  | reader hTask => exact hTask.replies hInv
  | hookSent hSend => exact RepliesStay.step { } rfl
  | hookIgnored => exact RepliesStay.step { } rfl

------------------------------------------------------------
-- Runs
------------------------------------------------------------

theorem repliesKept_init :
    replies.Kept [] State.init where
  tracks := by
    intro seq place hHeld
    cases place with
    | entry =>
        rcases hHeld with ⟨key, entry, hEntry, -⟩
        simp [State.init] at hEntry
    | _ => cases hHeld
  issued := nofun
  once := List.nodup_nil
  closed := nofun

theorem repliesKept_step
    {e : Event}
    (hInv : Provenance env h s)
    (hKept : replies.Kept h s)
    (hStep : ProxyStep env s e s' o) :
    replies.Kept (h ++ o) s' :=
  hKept.advance
    (fun _ hIssued =>
      Nat.lt_of_lt_of_le hIssued hStep.allocated_le)
    (hStep.replies hInv)

/- In every run each reply is owed where the history says. -/
theorem repliesKept_of_run
    {es : List Event}
    (hRun : (proxy env).Run es h s) :
    replies.Kept h s :=
  Machine.run_induction
    (motive := fun _ h s => replies.Kept h s)
    repliesKept_init
    (fun _ _ _ _ _ _ hBefore hKept hStep =>
      repliesKept_step
        (provenance_of_run hBefore) hKept (step_cases hStep))
    hRun

end Control

end SeestarProxy
