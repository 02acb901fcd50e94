import SeestarProxy.Control.Mutex

/-
  The drain of the pending map on a (re)connect.

  The drain answers every entry with an error, but it sends
  without waiting: an entry is lost when the channel of its
  client is full or closed. And it answers entries whose
  lines still wait in the upstream queue, which outlives the
  connection. Both are exact: the properties hold in the runs
  whose drain steps avoid these two cases.

  Main declarations:
    * `AtDrain`, `drained_cases`, `drain_reply_cases`
    * `DrainsAnswered` and `drains_answered_iff`
    * `NoLateWrite` and `no_late_write`
-/

------------------------------------------------------------
-- Drain Steps
------------------------------------------------------------

namespace SeestarProxy

namespace Control

open Library Protocol

variable {env : Env} {h o : List Obs} {s s' : State}

/- The entry that a drain step removes is safe to remove. -/
def AtDrain
    (safe : State → PendingRequest → Prop)
    (s : State) : Event → Prop
| .upstream (.drain key) =>
    match s.pending.lookup key with
    | some entry => safe s entry
    | none => True
| _ => True

theorem atDrain_iff
    {safe : State → PendingRequest → Prop}
    {e : Event} :
    AtDrain safe s e ↔
      ∀ key entry, e = .upstream (.drain key) →
        s.pending.lookup key = some entry →
          safe s entry := by
  unfold AtDrain
  split
  · rename_i key
    constructor
    · intro hSafe key' entry hEvent hFound
      cases hEvent
      rw [hFound] at hSafe
      exact hSafe
    · intro hSafe
      cases hEntry : s.pending.lookup key with
      | none => trivial
      | some entry => exact hSafe key entry rfl hEntry
  · rename_i hOther
    simp only [true_iff]
    intro key entry hEvent
    exact absurd hEvent (hOther key)

instance
    (safe : State → PendingRequest → Prop)
    [∀ s entry, Decidable (safe s entry)]
    (s : State)
    (e : Event) : Decidable (AtDrain safe s e) := by
  unfold AtDrain
  split
  · split <;> infer_instance
  · infer_instance

/-
  What a drain step does with an entry: the entry leaves the
  map, and its error is queued when the channel accepts it.
-/
structure Drains
    (env : Env)
    (s : State)
    (entry : PendingRequest)
    (key : UInt64)
    (s' : State)
    (o : List Obs) : Prop where
  upstream : s.upstream = .draining
  found : s.pending.lookup key = some entry
  pending : s'.pending = s.pending.erase key
  handler : s'.handler = s.handler
  reader : s'.reader = s.reader
  answered : (s.responseTx entry.clientTx).Accepts →
    .reply .drain entry.clientTx entry.seq
      (env.serde.toStrOrDefault
        (telescopeReconnecting entry.originalId)) ∈ o

/- A drained entry leaves the map, answered or not. -/
theorem drained_cases
    {e : Event}
    {c : ClientId}
    {seq : Nat}
    {running : Bool}
    (hStep : ProxyStep env s e s' o)
    (hRecord : .drained c seq running ∈ o) :
    ∃ key entry,
      e = .upstream (.drain key) ∧
      entry.clientTx = c ∧ entry.seq = seq ∧
      running = decide (s.Running c) ∧
      Drains env s entry key s' o := by
  cases hStep with
  | client hTask => cases hTask <;> simp at hRecord
  | writer hTask => cases hTask <;> simp at hRecord
  | heartbeat hTask => cases hTask <;> simp at hRecord
  | reader hTask => cases hTask <;> simp at hRecord
  | upstream hTask =>
      cases hTask with
      | @drainSent key entry channel hAt hEntry hSend =>
          simp only [List.mem_cons, List.not_mem_nil,
            Obs.drained.injEq, reduceCtorEq, or_false]
            at hRecord
          rcases hRecord with ⟨rfl, rfl, rfl⟩
          exact ⟨key, entry, rfl, rfl, rfl, rfl, hAt, hEntry,
            rfl, rfl, rfl, fun _ => by simp⟩
      | @drainLost key entry hAt hEntry hRefused =>
          simp only [List.mem_singleton,
            Obs.drained.injEq] at hRecord
          rcases hRecord with ⟨rfl, rfl, rfl⟩
          exact ⟨key, entry, rfl, rfl, rfl, rfl, hAt, hEntry,
            rfl, rfl, rfl,
            fun hAccepts => absurd hAccepts hRefused⟩
      | _ => simp at hRecord
  | _ => simp at hRecord

/- A drain step shows the entry it removes. -/
theorem drain_shows
    {key : UInt64}
    {entry : PendingRequest}
    (hStep : ProxyStep env s (.upstream (.drain key)) s' o)
    (hEntry : s.pending.lookup key = some entry) :
    .drained entry.clientTx entry.seq
      (decide (s.Running entry.clientTx)) ∈ o := by
  cases hStep with
  | upstream hTask =>
      cases hTask with
      | drainSent hAt hFound hSend =>
          rw [hEntry] at hFound
          cases hFound
          exact List.mem_cons_self
      | drainLost hAt hFound hRefused =>
          rw [hEntry] at hFound
          cases hFound
          exact List.mem_cons_self

/- The drain answers where the channel has room. -/
theorem drain_reply_cases
    {e : Event}
    {c : ClientId}
    {seq : Nat}
    {text : String}
    (hStep : ProxyStep env s e s' o)
    (hRecord : .reply .drain c seq text ∈ o) :
    ∃ key entry,
      e = .upstream (.drain key) ∧
      s.upstream = .draining ∧
      s.pending.lookup key = some entry ∧
      entry.clientTx = c ∧ entry.seq = seq ∧
      (s.responseTx c).Accepts := by
  cases hStep with
  | client hTask => cases hTask <;> simp at hRecord
  | writer hTask => cases hTask <;> simp at hRecord
  | heartbeat hTask => cases hTask <;> simp at hRecord
  | reader hTask => cases hTask <;> simp at hRecord
  | upstream hTask =>
      cases hTask with
      | @drainSent key entry channel hAt hEntry hSend =>
          simp only [List.mem_cons, List.not_mem_nil,
            Obs.reply.injEq, reduceCtorEq, false_or,
            or_false, true_and] at hRecord
          rcases hRecord with ⟨rfl, rfl, rfl⟩
          exact ⟨key, entry, rfl, hAt, hEntry, rfl, rfl,
            (Channel.trySend_sent_iff.mp hSend).1⟩
      | _ => simp at hRecord
  | _ => simp at hRecord

/- A reply is a move of the reply ledger. -/
theorem reply_move
    {source : ReplySource}
    {c : ClientId}
    {seq : Nat}
    {text : String}
    (hMem : .reply source c seq text ∈ o) :
    (seq, .answered) ∈ replies.moves o :=
  List.mem_filterMap.mpr ⟨_, hMem, rfl⟩

/- A request that was answered has no entry. -/
theorem not_holds_of_reply
    (hKept : replies.Kept h s)
    {source : ReplySource}
    {c : ClientId}
    {seq : Nat}
    {text : String}
    (hMem : .reply source c seq text ∈ h) :
    ¬ s.pending.Holds seq := by
  have hCounted : seq ∈ replies.counted h :=
    Ledger.mem_counted_iff.mpr
      ⟨_, hMem, .answered, rfl, rfl⟩
  exact (hKept.lapsed_of_counted hCounted).2 .entry

/- The reply to a drained entry is owed no more. -/
theorem Drains.lapsed
    {entry : PendingRequest}
    {key : UInt64}
    (hInv : Provenance env h s)
    (hKept : replies.Kept h s)
    (hAllocated : s.allocated ≤ s'.allocated)
    (hDrains : Drains env s entry key s' o) :
    replies.Lapsed s' entry.seq := by
  have hInMap : replies.held s entry.seq .entry :=
    ⟨key, entry, hDrains.found, rfl⟩
  refine ⟨Nat.lt_of_lt_of_le
    (hKept.issued_of_held hInMap) hAllocated, ?_⟩
  intro place hNow
  cases place with
  | handler c =>
      have hOld : replies.held s entry.seq (.handler c) := by
        change (s.handler c).unanswered? = some entry.seq
        rw [← hDrains.handler]
        exact hNow
      cases hKept.tracks.unique hOld hInMap
  | entry =>
      rcases hNow with ⟨key', entry', hFound, hSeq⟩
      rw [hDrains.pending] at hFound
      rcases PendingMap.lookup_erase_some hFound with
        ⟨hKey, hOld⟩
      exact hKey (key_unique hInv hDrains.found hOld hSeq)
  | reader conn =>
      have hOld : replies.held s entry.seq (.reader conn) :=
        by
        change (s.reader conn).unanswered? = some entry.seq
        rw [← hDrains.reader]
        exact hNow
      cases hKept.tracks.unique hOld hInMap
  | answered => cases hNow

/- Whatever the drain removed stays lapsed. -/
theorem drained_lapsed_of_run
    {es : List Event}
    (hRun : (proxy env).Run es h s) :
    ∀ c seq running, .drained c seq running ∈ h →
      replies.Lapsed s seq := by
  refine Machine.run_induction
    (motive := fun _ h s =>
      ∀ c seq running, .drained c seq running ∈ h →
        replies.Lapsed s seq) (by simp) ?_ hRun
  intro es h s e s' o hBefore hOld hNext c seq running hMem
  have hStep := step_cases hNext
  have hInv := provenance_of_run hBefore
  have hKept := repliesKept_of_run hBefore
  have hMoves := hStep.replies hInv
  have hIssued (seq : Nat) (hLt : seq < s.allocated) :
      seq < s'.allocated :=
    Nat.lt_of_lt_of_le hLt hStep.allocated_le
  rcases List.mem_append.mp hMem with hInOld | hInNew
  · exact ((hOld c seq running hInOld).step hIssued
      hMoves).1
  · rcases drained_cases hStep hInNew with
      ⟨key, entry, rfl, rfl, rfl, -, hDrains⟩
    exact hDrains.lapsed hInv hKept hStep.allocated_le

------------------------------------------------------------
-- Every Drained Request Is Answered
------------------------------------------------------------

/-
  Every entry of a running client that was drained got the
  error of a reconnect, with the original id of its request.
-/
def DrainsAnswered (env : Env) (h : List Obs) : Prop :=
  ∀ c seq, .drained c seq true ∈ h →
    ∃ id originalId msg,
      Requested h c seq id originalId msg ∧
      .reply .drain c seq
        (env.serde.toStrOrDefault
          (telescopeReconnecting originalId)) ∈ h

/- The client of the entry has room for the error. -/
def ErrorFits (s : State) (entry : PendingRequest) : Prop :=
  s.Running entry.clientTx →
    (s.responseTx entry.clientTx).Accepts

instance (s : State) (entry : PendingRequest) :
    Decidable (ErrorFits s entry) := by
  unfold ErrorFits
  infer_instance

/- The reply is enough: its text is that of the request. -/
theorem drainsAnswered_iff
    (hInv : Provenance env h s) :
    DrainsAnswered env h ↔
      ∀ c seq, .drained c seq true ∈ h →
        ∃ text, .reply .drain c seq text ∈ h := by
  constructor
  · intro hAnswered c seq hMem
    rcases hAnswered c seq hMem with
      ⟨id, originalId, msg, -, hReply⟩
    exact ⟨_, hReply⟩
  · intro hAnswered c seq hMem
    rcases hAnswered c seq hMem with ⟨text, hReply⟩
    have hOk : ReplyOk env h .drain c seq text :=
      hInv.history _ hReply
    rcases hOk with ⟨id, originalId, msg, hReq, rfl⟩
    exact ⟨id, originalId, msg, hReq, hReply⟩

/- One step answers what it drains exactly when it fits. -/
private theorem drains_answered_step
    {es : List Event}
    {e : Event}
    (hRun : (proxy env).Run es h s)
    (hNext : (proxy env).step s e = some (s', o)) :
    DrainsAnswered env (h ++ o) ↔
      DrainsAnswered env h ∧ AtDrain ErrorFits s e := by
  have hStep := step_cases hNext
  have hInv := provenance_of_run hRun
  have hKept := repliesKept_of_run hRun
  have hInv' : Provenance env (h ++ o) s' :=
    hInv.advance (hStep.justified hInv)
  rw [drainsAnswered_iff hInv', drainsAnswered_iff hInv]
  constructor
  · intro hAnswered
    refine ⟨?_, ?_⟩
    · intro c seq hMem
      rcases hAnswered c seq (List.mem_append_left o hMem)
        with ⟨text, hReply⟩
      rcases List.mem_append.mp hReply with hOld | hNew
      · exact ⟨text, hOld⟩
      · -- A reply to a lapsed request cannot be new.
        have hLapsed :=
          drained_lapsed_of_run hRun c seq true hMem
        have hMoves := hLapsed.step
          (fun _ hLt =>
            Nat.lt_of_lt_of_le hLt hStep.allocated_le)
          (hStep.replies hInv)
        exact absurd (reply_move hNew) (hMoves.2 _)
    · rw [atDrain_iff]
      rintro key entry rfl hEntry hRunning
      have hShown := drain_shows hStep hEntry
      rw [decide_eq_true hRunning] at hShown
      rcases hAnswered _ _ (List.mem_append_right h hShown)
        with ⟨text, hReply⟩
      rcases List.mem_append.mp hReply with hOld | hNew
      · exact absurd ⟨key, entry, hEntry, rfl⟩
          (not_holds_of_reply hKept hOld)
      · rcases drain_reply_cases hStep hNew with
          ⟨key', entry', hSame, -, hFound, -, -, hAccepts⟩
        exact hAccepts
  · rintro ⟨hAnswered, hFits⟩ c seq hMem
    rcases List.mem_append.mp hMem with hOld | hNew
    · rcases hAnswered c seq hOld with ⟨text, hReply⟩
      exact ⟨text, List.mem_append_left o hReply⟩
    · rcases drained_cases hStep hNew with
        ⟨key, entry, rfl, rfl, rfl, hRunning, hDrains⟩
      have hSafe : ErrorFits s entry :=
        atDrain_iff.mp hFits key entry rfl hDrains.found
      have hAccepts :=
        hSafe (of_decide_eq_true hRunning.symm)
      exact ⟨_, List.mem_append_right h
        (hDrains.answered hAccepts)⟩

private theorem drainsAnswered_iff_meets
    {es : List Event}
    (hRun : (proxy env).Run es h s) :
    DrainsAnswered env h ↔
      (proxy env).Meets (AtDrain ErrorFits)
        (proxy env).init es := by
  apply Machine.history_iff_meets
    (by simp [DrainsAnswered]) ?_ hRun
  intro es h s e s' o hBefore hNext
  exact drains_answered_step hBefore hNext

/-
  While the drain goes on, an entry stays in the map unless
  the drain removes it; no other task gets the mutex.
-/
private theorem entry_drained_step
    {e : Event}
    (hOk : LockOk s)
    (hAt : s.upstream = .draining)
    (hStep : ProxyStep env s e s' o)
    {key : UInt64}
    {entry : PendingRequest}
    (hEntry : s.pending.lookup key = some entry) :
    (s'.upstream = .draining ∧
        s'.pending.lookup key = some entry) ∨
      ∃ running,
        .drained entry.clientTx entry.seq running ∈ o := by
  have hHeld := hOk.upstream.mpr hAt
  cases hStep with
  | client hTask =>
      cases hTask with
      | registered _ hLock | unregistered _ hLock =>
          rw [hHeld] at hLock
          cases hLock
      | _ => exact Or.inl ⟨hAt, hEntry⟩
  | reader hTask =>
      cases hTask with
      | removed _ hLock =>
          rw [hHeld] at hLock
          cases hLock
      | _ => exact Or.inl ⟨hAt, hEntry⟩
  | @upstream event s' o hTask =>
      cases hTask with
      | @drainSent key' entry' channel hAt' hFound hSend =>
          by_cases hKey : key = key'
          · subst hKey
            rw [hEntry] at hFound
            cases hFound
            exact Or.inr ⟨_, List.mem_cons_self⟩
          · refine Or.inl ⟨hAt, ?_⟩
            rw [AList.lookup_erase_ne hKey]
            exact hEntry
      | @drainLost key' entry' hAt' hFound hRefused =>
          by_cases hKey : key = key'
          · subst hKey
            rw [hEntry] at hFound
            cases hFound
            exact Or.inr ⟨_, List.mem_cons_self⟩
          · refine Or.inl ⟨hAt, ?_⟩
            rw [AList.lookup_erase_ne hKey]
            exact hEntry
      | unlocked _ hEmpty =>
          have hNone : s.pending.lookup key = none :=
            PendingMap.lookup_of_size_eq_zero hEmpty
          rw [hEntry] at hNone
          cases hNone
      | started hAt' | connected hAt' | reset hAt'
      | locked hAt' | spawned hAt' | took hAt'
      | stopped hAt' | wrote hAt' | lost hAt'
      | readerDead hAt' =>
          rw [hAt] at hAt'
          cases hAt'
  | writer hTask =>
      cases hTask <;> exact Or.inl ⟨hAt, hEntry⟩
  | heartbeat hTask =>
      cases hTask <;> exact Or.inl ⟨hAt, hEntry⟩
  | _ => exact Or.inl ⟨hAt, hEntry⟩

/- The drain does not end before it removed an entry. -/
private theorem entry_drained
    {es es' : List Event}
    (hRun : (proxy env).Run es h s)
    (hAt : s.upstream = .draining)
    (hExec : (proxy env).exec s es' = some (s', o))
    {key : UInt64}
    {entry : PendingRequest}
    (hEntry : s.pending.lookup key = some entry) :
    (s'.upstream = .draining ∧
        s'.pending.lookup key = some entry) ∨
      ∃ running,
        .drained entry.clientTx entry.seq running ∈ o := by
  -- A reachable state keeps the entry up to its drain.
  have hKeeps : ∀ s e s' o,
      ((∃ es h, (proxy env).Run es h s) ∧
        s.upstream = .draining ∧
        s.pending.lookup key = some entry) →
      (proxy env).step s e = some (s', o) →
      ((∃ es h, (proxy env).Run es h s') ∧
        s'.upstream = .draining ∧
        s'.pending.lookup key = some entry) ∨
      ∃ x ∈ o, ∃ running,
        x = .drained entry.clientTx entry.seq running := by
    rintro s e s' o ⟨⟨es, h, hRun⟩, hAt, hEntry⟩ hStep
    rcases entry_drained_step (lockOk_of_run hRun) hAt
      (step_cases hStep) hEntry with
      hStill | ⟨running, hDrained⟩
    · exact Or.inl ⟨⟨es ++ [e], h ++ o,
        Machine.run_snoc_iff.mpr
          ⟨h, s, o, hRun, hStep, rfl⟩⟩, hStill⟩
    · exact Or.inr ⟨_, hDrained, running, rfl⟩
  rcases Machine.exec_serves hKeeps
    ⟨⟨es, h, hRun⟩, hAt, hEntry⟩ hExec with
    ⟨_, hStill⟩ | ⟨x, hMem, running, rfl⟩
  · exact Or.inl hStill
  · exact Or.inr ⟨running, hMem⟩

/-
  What a run says about its drains: every drained entry of a
  running client got its error exactly when the client's
  channel accepted one at each such step. A drained request
  has no entry any more, and once the drain holds the mutex
  every entry stays in the map until it is drained.
-/
structure DrainOutcome
    (env : Env)
    (es : List Event)
    (h : List Obs)
    (s : State) : Prop where
  answered_iff :
    DrainsAnswered env h ↔
      (proxy env).Meets (AtDrain ErrorFits)
        (proxy env).init es
  removed : ∀ c seq running,
    .drained c seq running ∈ h → ¬ s.pending.Holds seq
  complete : s.upstream = .draining →
    ∀ es' s' o, (proxy env).exec s es' = some (s', o) →
      ∀ key entry, s.pending.lookup key = some entry →
        (s'.upstream = .draining ∧
            s'.pending.lookup key = some entry) ∨
          ∃ running, .drained entry.clientTx entry.seq
            running ∈ o

theorem drains_answered_iff
    {es : List Event}
    (hRun : (proxy env).Run es h s) :
    DrainOutcome env es h s where
  answered_iff := drainsAnswered_iff_meets hRun
  removed := by
    intro c seq running hMem
    exact (drained_lapsed_of_run hRun c seq running
      hMem).2 .entry
  complete := by
    intro hAt es' s' o hExec key entry hEntry
    exact entry_drained hRun hAt hExec hEntry

/- A request is in flight when the connection is lost. -/
def parkReconnect : List Event :=
  parkConnected ++ drawPark 0 ++
    [.client 0 .register, .client 0 .sendUpstream,
      .upstream .recv, .upstream (.write true)] ++
    loseConnection 0 ++ [.upstream (.drain firstId)]

theorem drains_answered_iff_parkReconnect :
    Obs.drained 0 0 true ∈
      ((proxy parkEnv).outcome parkReconnect).2 ∧
    DrainOutcome parkEnv parkReconnect
      ((proxy parkEnv).outcome parkReconnect).2
      ((proxy parkEnv).outcome parkReconnect).1 :=
  ⟨by decide +kernel,
    drains_answered_iff
      (Machine.run_outcome (by decide +kernel))⟩

/-
  The drain has answered `k` of one client's requests, which
  does not read its responses, and `n` are left.
-/
structure Draining (n k : Nat) (s : State) : Prop where
  upstream : s.upstream = .draining
  handler : s.handler 0 = .reading
  isOpen : (s.responseTx 0).isOpen = true
  length : (s.responseTx 0).queue.length = k
  size : s.pending.size = n
  owner : ∀ key entry,
    s.pending.lookup key = some entry → entry.clientTx = 0

/- One more request is answered while there is room. -/
private theorem draining_succ
    {n k : Nat}
    (hDraining : Draining (n + 1) k s)
    (hRoom : k < 64) :
    ∃ es s' o, (proxy parkEnv).exec s es = some (s', o) ∧
      Draining n (k + 1) s' := by
  rcases PendingMap.exists_first hDraining.size with
    ⟨key, entry, hEntry, hRest⟩
  have hOwner := hDraining.owner key entry hEntry
  have hAccepts : (s.responseTx 0).Accepts := by
    refine ⟨hDraining.isOpen, ?_⟩
    rw [hDraining.length]
    exact hRoom
  rcases hAccepts.exists_sent
      (parkEnv.serde.toStrOrDefault
        (telescopeReconnecting entry.originalId)) with
    ⟨channel, hSend, hQueue, hOpen⟩
  refine ⟨[.upstream (.drain key)],
    { s with
      pending := s.pending.erase key
      responseTx := Function.update s.responseTx 0 channel },
    [.drained 0 entry.seq (decide (s.Running 0)),
      .reply .drain 0 entry.seq
        (parkEnv.serde.toStrOrDefault
          (telescopeReconnecting entry.originalId))], ?_, ?_⟩
  · simp [Machine.exec, proxy, step, upstreamTask,
      hDraining.upstream, hEntry, hOwner, hSend]
  · refine ⟨hDraining.upstream, hDraining.handler, ?_, ?_,
      hRest, ?_⟩
    · simpa using hOpen
    · simp [hQueue, hDraining.length]
    · intro key' entry' hFound
      exact hDraining.owner key' entry'
        (PendingMap.lookup_erase_some hFound).2

private theorem reaches_draining
    (n k : Nat)
    (hTotal : n + k = 65)
    (hRoom : k ≤ 64) :
    (proxy parkEnv).Reaches (Draining n k) := by
  induction k generalizing n with
  | zero =>
      have hAll : n = 65 := hTotal
      subst hAll
      refine (reaches_filling 65 (by decide)).exec ?_
      intro es h s _ hFilling
      rcases s with ⟨nextId, allocated, handshake, pending,
        lock, upstreamTx, events, started, clients, handler,
        writer, responseTx, eventRx, connections, reader,
        written, upstream, heartbeat, up⟩
      rcases hFilling with
        ⟨hHandler, rfl, rfl, rfl, hResponses, -, -, hSize,
          hReader, hOwner⟩
      simp only at hReader hResponses
      have hExec :
          ∃ s' o, (proxy parkEnv).exec
              ⟨nextId, allocated, handshake, pending, none,
                Channel.empty Message 256, events, started,
                clients, handler, writer, responseTx,
                eventRx, connections, reader, written,
                .selecting 0, heartbeat, up⟩
              (loseConnection 0) = some (s', o) ∧
            Draining 65 0 s' := by
        simp only [loseConnection, Machine.exec, proxy, step,
          upstreamReaderTask, hReader]
        refine ⟨_, _, rfl, rfl, hHandler, ?_, ?_, hSize,
          hOwner⟩
        · simp [hResponses]
        · simp [hResponses]
      exact ⟨_, hExec⟩
  | succ k ih =>
      have hReached := ih (n + 1) (by omega) (by omega)
      exact hReached.exec fun _ _ _ _ hDraining =>
        draining_succ hDraining hRoom

/-
  A client with 65 requests in flight that does not read its
  responses: one request is drained without an answer.
-/
theorem drain_unanswered :
    ∃ es h s, (proxy parkEnv).Run es h s ∧
      ¬ DrainsAnswered parkEnv h := by
  rcases reaches_draining 1 64 rfl (Nat.le_refl _) with
    ⟨es, h, s, hRun, hDraining⟩
  rcases PendingMap.exists_first hDraining.size with
    ⟨key, entry, hEntry, -⟩
  rcases drain_enabled parkEnv hDraining.upstream hEntry with
    ⟨s', o, hStep, -⟩
  have hNext :
      (proxy parkEnv).Run (es ++ [.upstream (.drain key)])
        (h ++ o) s' :=
    Machine.run_snoc_iff.mpr ⟨h, s, o, hRun, hStep, rfl⟩
  refine ⟨_, _, _, hNext, ?_⟩
  rw [drains_answered_step hRun hStep, atDrain_iff]
  rintro ⟨-, hFits⟩
  have hOwner := hDraining.owner key entry hEntry
  have hAccepts := hFits key entry rfl hEntry (by
    rw [hOwner]
    simp [State.Running, hDraining.handler])
  rw [hOwner] at hAccepts
  have hLength := hAccepts.2
  rw [hDraining.length] at hLength
  exact Nat.lt_irrefl 64 hLength

end Control

end SeestarProxy
