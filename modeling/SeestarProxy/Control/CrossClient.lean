import SeestarProxy.Control.Entries

/-
  Answers reach nobody but the client that asked.

  A telescope line whose id has no entry in the pending map
  is broadcast to every client. So an entry has to outlive
  every line that can still be answered, and the drain is
  the only step that can break this: it removes entries
  whose line is still to be written, or whose line was
  written on a connection with a running reader.

  Main declarations:
    * `AnswersOnce`, `HookIdsForeign`, `Unanswerable`
    * `NoCrossDelivery` and `no_cross_delivery`
-/

------------------------------------------------------------
-- Questions and Answers
------------------------------------------------------------

namespace SeestarProxy

namespace Control

open Library Protocol

/- A telescope line is an answer with the id. -/
def isAnswer
    (env : Env)
    (id : UInt64)
    (trimmed : String) : Bool :=
  match env.serde.fromStr trimmed with
  | some msg =>
      !isEvent msg && decide (jsonRpcId msg = some id)
  | none => false

theorem isAnswer_iff
    {env : Env}
    {id : UInt64}
    {trimmed : String} :
    isAnswer env id trimmed = true ↔
      ∃ msg, env.serde.fromStr trimmed = some msg ∧
        isEvent msg = false ∧ jsonRpcId msg = some id := by
  unfold isAnswer
  cases env.serde.fromStr trimmed with
  | none => simp
  | some msg => simp

/- An answer with the id arrives on the connection. -/
def Obs.answers
    (env : Env)
    (conn : ConnId)
    (id : UInt64) : Obs → Bool
| .received conn' trimmed =>
    decide (conn' = conn) && isAnswer env id trimmed
| _ => false

/- A line with the id is written on the connection. -/
def Obs.asks (conn : ConnId) (id : UInt64) : Obs → Bool
| .written conn' m =>
    decide (conn' = conn) &&
      decide (jsonRpcId m.value = some id)
| _ => false

/- The id that an observation draws for a request. -/
def Obs.requestId? : Obs → Option UInt64
| .request _ _ _ _ _ _ id => some id
| _ => none

/- The message that an observation writes. -/
def Obs.written? : Obs → Option Message
| .written _ m => some m
| _ => none

/- The connection that an observation receives on. -/
def Obs.receivedOn? : Obs → Option ConnId
| .received conn _ => some conn
| _ => none

/-
  The telescope answers a line at most once, on the line's
  connection and with its id: at any time a connection has
  carried no more answers with the id of a request than
  lines with that id.
-/
def AnswersOnce (env : Env) (h : List Obs) : Prop :=
  ∀ before, before <+: h →
    ∀ id ∈ h.filterMap Obs.requestId?, ∀ conn,
      before.countP (Obs.answers env conn id) ≤
        before.countP (Obs.asks conn id)

/- Only connections that occur can break the rule. -/
theorem answersOnce_iff
    {env : Env}
    {h : List Obs} :
    AnswersOnce env h ↔
      ∀ before ∈ h.inits,
        ∀ id ∈ h.filterMap Obs.requestId?,
          ∀ conn ∈ h.filterMap Obs.receivedOn?,
            before.countP (Obs.answers env conn id) ≤
              before.countP (Obs.asks conn id) := by
  have hKeys (id : UInt64) : ∀ x ∈ h, ∀ conn,
      Obs.answers env conn id x = true →
        conn ∈ h.filterMap Obs.receivedOn? := by
    intro x hx conn hAnswers
    cases x with
    | received conn' trimmed =>
        simp only [Obs.answers, Bool.and_eq_true,
          decide_eq_true_eq] at hAnswers
        rw [← hAnswers.1]
        exact List.mem_filterMap.mpr ⟨_, hx, rfl⟩
    | _ => cases hAnswers
  have hIff (id : UInt64) :=
    History.countP_le_iff_of_keys
      (g := fun conn => Obs.asks conn id) (hKeys id)
  constructor
  · intro hOnce before hBefore id hId
    exact (hIff id).mp
      (fun before hBefore => hOnce before hBefore id hId)
      before hBefore
  · intro hOnce before hBefore id hId
    exact (hIff id).mpr
      (fun before hBefore => hOnce before hBefore id hId)
      before hBefore

instance (env : Env) (h : List Obs) :
    Decidable (AnswersOnce env h) :=
  -- Only the ids of the history are tried.
  letI _hIds (before : List Obs) :
      Decidable (∀ id ∈ h.filterMap Obs.requestId?,
        ∀ conn ∈ h.filterMap Obs.receivedOn?,
          before.countP (Obs.answers env conn id) ≤
            before.countP (Obs.asks conn id)) :=
    List.decidableBAll _ _
  decidable_of_iff _ answersOnce_iff.symm

/- Hook scripts use no id that was drawn for a request. -/
def HookIdsForeign (h : List Obs) : Prop :=
  ∀ m ∈ h.filterMap Obs.written?, m.origin = .hook →
    ∀ id ∈ h.filterMap Obs.requestId?,
      jsonRpcId m.value ≠ some id

instance (h : List Obs) : Decidable (HookIdsForeign h) := by
  unfold HookIdsForeign
  letI hIds (m : Message) :
      Decidable (∀ id ∈ h.filterMap Obs.requestId?,
        jsonRpcId m.value ≠ some id) :=
    List.decidableBAll _ _
  infer_instance

/-
  The telescope's answer to a request of one client is not
  delivered to another one, neither as an event nor through
  its response channel.
-/
def NoCrossDelivery (env : Env) (h : List Obs) : Prop :=
  ∀ a seq id originalId msg conn trimmed answer,
    Requested h a seq id originalId msg →
      AnswerReceived env h conn trimmed id answer →
        ∀ b, b ≠ a →
          .eventRead b conn trimmed ∉ h ∧
            ∀ seq' text,
              .reply (.reader conn trimmed) b seq' text ∉ h

/-
  No answer to the entry's request can arrive any more: its
  line is not on its way, and no connection that carried it
  has a reader at work.
-/
def Unanswerable
    (s : State)
    (entry : PendingRequest) : Prop :=
  ¬ s.LineWaits entry ∧
    ∀ conn < s.connections,
      (∃ m ∈ s.written conn, m.seq? = some entry.seq) →
        (s.reader conn).IsOver

instance (s : State) (entry : PendingRequest) :
    Decidable (Unanswerable s entry) := by
  unfold Unanswerable
  infer_instance

variable {env : Env} {h o : List Obs} {s s' : State}

------------------------------------------------------------
-- One Line, One Answer
------------------------------------------------------------

/- What is assumed of a whole run with history `full`. -/
private structure Whole
    (env : Env)
    (full : List Obs)
    (last : State) : Prop where
  run : ∃ es, (proxy env).Run es full last
  ids : last.allocated ≤ 2 ^ 64
  hooks : HookIdsForeign full
  once : AnswersOnce env full

section Whole

variable {full : List Obs} {last : State}
variable {es : List Event}
variable {c : ClientId} {seq : Nat} {id : UInt64}
variable {originalId request : Value}

/- Before its end a run has drawn no more ids. -/
private theorem allocated_le_of_prefix
    (hWhole : Whole env full last)
    (hRun : (proxy env).Run es h s)
    (hPrefix : h <+: full) :
    s.allocated ≤ 2 ^ 64 := by
  rcases hWhole.run with ⟨esFull, hFull⟩
  have hLe :=
    (hPrefix.filterMap Obs.draw?).length_le
  rw [draws_eq_range hRun, draws_eq_range hFull,
    List.length_range, List.length_range] at hLe
  exact Nat.le_trans hLe hWhole.ids

/- A heartbeat carries the id it drew. -/
theorem jsonRpcId_heartbeatValue (id : UInt64) :
    jsonRpcId (heartbeatValue id) = some id := by
  simp [jsonRpcId, heartbeatValue, Value.ofMembers,
    Value.get, Members.get_insert_of_ne, Value.asU64]

/- A request's id is among those drawn for requests. -/
private theorem mem_requestIds
    (hReq : Requested h c seq id originalId request) :
    id ∈ h.filterMap Obs.requestId? := by
  rcases hReq with ⟨sent, action, hMem⟩
  exact List.mem_filterMap.mpr ⟨_, hMem, rfl⟩

/- A written line with a request's id is the request's. -/
private theorem origin_of_asks
    (hWhole : Whole env full last)
    (hRun : (proxy env).Run es h s)
    (hPrefix : h <+: full)
    (hReq : Requested full c seq id originalId request)
    {conn : ConnId}
    {m : Message}
    (hMem : .written conn m ∈ h)
    (hId : jsonRpcId m.value = some id) :
    m.origin = .request c seq := by
  rcases hWhole.run with ⟨esFull, hFull⟩
  have hInv := provenance_of_run hFull
  have hDrawn := hInv.requested hReq
  have hIds := hWhole.ids
  have hMessage : MessageOk env h m :=
    (provenance_of_run hRun).history _ hMem
  rcases hReq with ⟨sent, action, hMemReq⟩
  cases hOrigin : m.origin with
  | request c' seq' =>
      rw [MessageOk, hOrigin] at hMessage
      rcases hMessage with
        ⟨id', originalId', msg, hReq', hValue, -⟩
      have hDrawn' :=
        hInv.requested (hReq'.mono hPrefix.subset)
      rw [hValue, jsonRpcId_setJsonRpcId
        (isObject_of_getId hDrawn'.1)] at hId
      have hSeq : seq' = seq := by
        apply idOf_inj (by omega) (by omega)
        rw [← hDrawn'.2.2, ← hDrawn.2.2]
        exact Option.some.inj hId
      subst hSeq
      rcases hReq' with ⟨sent', action', hMemReq'⟩
      cases draw_unique hFull
        (hPrefix.subset hMemReq') hMemReq rfl rfl
      rfl
  | notification c' =>
      rw [MessageOk, hOrigin] at hMessage
      rw [hMessage] at hId
      cases hId
  | heartbeat seq' =>
      rw [MessageOk, hOrigin] at hMessage
      rcases hMessage with ⟨hBeat, hValue⟩
      have hBeat' := hPrefix.subset hBeat
      have hLt : seq' < last.allocated :=
        hInv.history _ hBeat'
      rw [hValue, jsonRpcId_heartbeatValue] at hId
      have hSeq : seq' = seq := by
        apply idOf_inj (by omega) (by omega)
        rw [← hDrawn.2.2]
        exact Option.some.inj hId
      subst hSeq
      cases draw_unique hFull hBeat' hMemReq rfl rfl
  | hook =>
      have hWritten : m ∈ full.filterMap Obs.written? :=
        List.mem_filterMap.mpr
          ⟨_, hPrefix.subset hMem, rfl⟩
      exact absurd hId
        (hWhole.hooks m hWritten hOrigin id
          (mem_requestIds ⟨sent, action, hMemReq⟩))

/- A written line of a request is a counted move. -/
private theorem countedKey_of_origin
    {conn : ConnId}
    {m : Message}
    (hOrigin : m.origin = .request c seq) :
    lines.countedKey (.written conn m) = some seq := by
  have hSeq : m.seq? = some seq := by
    rw [Message.seq?, hOrigin]
  simp [Ledger.countedKey, lines, lineMove, hSeq]

/- A connection carries at most one line of a request. -/
private theorem asks_le_one
    (hWhole : Whole env full last)
    (hRun : (proxy env).Run es h s)
    (hPrefix : h <+: full)
    (hReq : Requested full c seq id originalId request)
    (conn : ConnId) :
    h.countP (Obs.asks conn id) ≤ 1 := by
  apply (linesKept_of_run hRun).kept.countP_le_one
  intro x hMem hAsks
  cases x with
  | written conn' m =>
      simp only [Obs.asks, Bool.and_eq_true,
        decide_eq_true_eq] at hAsks
      exact countedKey_of_origin
        (origin_of_asks hWhole hRun hPrefix hReq hMem hAsks.2)
  | _ => cases hAsks

/- What is answered was written on the connection before. -/
private theorem written_of_answer
    (hWhole : Whole env full last)
    (hRun : (proxy env).Run es h s)
    (hPrefix : h <+: full)
    (hReq : Requested full c seq id originalId request)
    {conn : ConnId}
    {trimmed : String}
    (hReceived : .received conn trimmed ∈ h)
    (hAnswer : isAnswer env id trimmed = true) :
    ∃ m, .written conn m ∈ h ∧
      m.origin = .request c seq := by
  have hAnswers :
      0 < h.countP (Obs.answers env conn id) := by
    rw [List.countP_pos_iff]
    exact ⟨_, hReceived, by simp [Obs.answers, hAnswer]⟩
  have hAsks := hWhole.once h hPrefix id
    (mem_requestIds hReq) conn
  rcases List.countP_pos_iff.mp
    (Nat.lt_of_lt_of_le hAnswers hAsks) with ⟨x, hx, hAsk⟩
  cases x with
  | written conn' m =>
      simp only [Obs.asks, Bool.and_eq_true,
        decide_eq_true_eq] at hAsk
      rcases hAsk with ⟨rfl, hId⟩
      exact ⟨m, hx,
        origin_of_asks hWhole hRun hPrefix hReq hx hId⟩
  | _ => cases hAsk

/- A request is answered on one connection only. -/
private theorem answer_conn_unique
    (hWhole : Whole env full last)
    (hRun : (proxy env).Run es h s)
    (hPrefix : h <+: full)
    (hReq : Requested full c seq id originalId request)
    {conn conn' : ConnId}
    {trimmed trimmed' : String}
    (hReceived : .received conn trimmed ∈ h)
    (hAnswer : isAnswer env id trimmed = true)
    (hReceived' : .received conn' trimmed' ∈ h)
    (hAnswer' : isAnswer env id trimmed' = true) :
    conn = conn' := by
  rcases written_of_answer hWhole hRun hPrefix hReq
    hReceived hAnswer with ⟨m, hMem, hOrigin⟩
  rcases written_of_answer hWhole hRun hPrefix hReq
    hReceived' hAnswer' with ⟨m', hMem', hOrigin'⟩
  have hSame :=
    (linesKept_of_run hRun).kept.counted_unique hMem hMem'
      (countedKey_of_origin hOrigin)
      (countedKey_of_origin hOrigin')
  cases hSame
  rfl

/- An answer that arrives now is the first one. -/
private theorem not_answered_before
    (hWhole : Whole env full last)
    {conn conn' : ConnId}
    {trimmed trimmed' : String}
    (hPrefix : h ++ [.received conn trimmed] <+: full)
    (hReq : Requested full c seq id originalId request)
    (hAnswer : isAnswer env id trimmed = true)
    (hReceived' : .received conn' trimmed' ∈ h)
    (hAnswer' : isAnswer env id trimmed' = true)
    (hRun : (proxy env).Run es
      (h ++ [.received conn trimmed]) s) :
    False := by
  have hConn : conn = conn' :=
    answer_conn_unique hWhole hRun hPrefix hReq
      (List.mem_append_right h List.mem_cons_self) hAnswer
      (List.mem_append_left _ hReceived') hAnswer'
  subst hConn
  have hOld : 0 < h.countP (Obs.answers env conn id) := by
    rw [List.countP_pos_iff]
    exact ⟨_, hReceived', by simp [Obs.answers, hAnswer']⟩
  have hTwo := hWhole.once _ hPrefix id
    (mem_requestIds hReq) conn
  have hOne := asks_le_one hWhole hRun hPrefix hReq conn
  rw [List.countP_append] at hTwo
  have hNew :
      [Obs.received conn trimmed].countP
        (Obs.answers env conn id) = 1 := by
    simp [Obs.answers, hAnswer]
  omega

end Whole

------------------------------------------------------------
-- Removed Entries
------------------------------------------------------------

/- What a reader looks up is an answer it received. -/
private theorem isAnswer_of_received
    {conn : ConnId}
    {trimmed : String}
    {id : UInt64}
    {msg : Value}
    (hAnswer : AnswerReceived env h conn trimmed id msg) :
    isAnswer env id trimmed = true :=
  isAnswer_iff.mpr
    ⟨msg, hAnswer.parsed, hAnswer.noEvent, hAnswer.hasId⟩

/- A reader removes an entry for the answer it looks up. -/
private theorem removed_cases
    {e : Event}
    {conn : ConnId}
    {c : ClientId}
    {seq : Nat}
    (hInv : Provenance env h s)
    (hStep : ProxyStep env s e s' o)
    (hRecord : .removed conn c seq ∈ o) :
    ∃ trimmed,
      .received conn trimmed ∈ h ∧
      isAnswer env (idOf seq) trimmed = true ∧
      ∀ id msg text,
        s'.reader conn ≠ .removing id msg text := by
  cases hStep with
  | client hTask => cases hTask <;> simp at hRecord
  | writer hTask => cases hTask <;> simp at hRecord
  | heartbeat hTask => cases hTask <;> simp at hRecord
  | upstream hTask => cases hTask <;> simp at hRecord
  | @reader conn' event s' o hTask =>
      cases hTask with
      | @removed id msg trimmed entry hAt hLock hEntry =>
          simp only [List.mem_singleton,
            Obs.removed.injEq] at hRecord
          rcases hRecord with ⟨rfl, rfl, rfl⟩
          have hKnown := hInv.readers conn
          rw [hAt] at hKnown
          have hAnswer :
              AnswerReceived env h conn trimmed id msg :=
            hKnown
          refine ⟨trimmed, hAnswer.received, ?_, by simp⟩
          rw [← hInv.entry_key hEntry]
          exact isAnswer_of_received hAnswer
      | _ => simp at hRecord
  | _ => simp at hRecord

/- Every removal of an entry has an answer before it. -/
private theorem removed_answer_of_run
    {es : List Event}
    (hRun : (proxy env).Run es h s) :
    ∀ conn c seq, .removed conn c seq ∈ h →
      ∃ trimmed, .received conn trimmed ∈ h ∧
        isAnswer env (idOf seq) trimmed = true := by
  refine Machine.run_induction
    (motive := fun _ h _ =>
      ∀ conn c seq, .removed conn c seq ∈ h →
        ∃ trimmed, .received conn trimmed ∈ h ∧
          isAnswer env (idOf seq) trimmed = true)
    (by simp) ?_ hRun
  intro es h s e s' o hBefore hOld hNext conn c seq hMem
  rcases List.mem_append.mp hMem with hInOld | hInNew
  · rcases hOld conn c seq hInOld with
      ⟨trimmed, hReceived, hAnswer⟩
    exact ⟨trimmed, List.mem_append_left o hReceived,
      hAnswer⟩
  · rcases removed_cases (provenance_of_run hBefore)
      (step_cases hNext) hInNew with
      ⟨trimmed, hReceived, hAnswer, -⟩
    exact ⟨trimmed, List.mem_append_left o hReceived,
      hAnswer⟩

------------------------------------------------------------
-- Drained Entries
------------------------------------------------------------

/- A reader that is over stays so. -/
private theorem over_step
    {e : Event}
    {conn : ConnId}
    (hNumbered : Numbered s)
    (hStep : ProxyStep env s e s' o)
    (hOver : (s.reader conn).IsOver) :
    (s'.reader conn).IsOver := by
  rcases hStep.reader_cases conn with
    hSame | ⟨hConn, -⟩ | ⟨event, rfl, hTask⟩
  · rw [hSame]
    exact hOver
  · rw [hNumbered.reader conn (Nat.le_of_eq hConn.symm)]
      at hOver
    exact hOver.elim
  · cases hTask with
    | skipped hAt => exact hOver
    | hooked hAt =>
        rcases hAt with hAt | hAt
        · rw [hAt] at hOver
          exact hOver.elim
        · rw [hAt] at hOver
          exact hOver.elim
    | started hAt | panicked hAt | received hAt
    | removed hAt | missed hAt | broadcast hAt
    | delivered hAt | undelivered hAt | stopped hAt =>
        rw [hAt] at hOver
        exact hOver.elim

/-
  No answer comes for a drained entry: its line is gone, and
  what was written was written for readers that are over.
-/
private def DrainsFinal (h : List Obs) (s : State) : Prop :=
  ∀ c seq running, .drained c seq running ∈ h →
    lines.Lapsed s seq ∧
      ∀ conn m, .written conn m ∈ h → m.seq? = some seq →
        (s.reader conn).IsOver

private theorem drainsFinal_step
    {es : List Event}
    {e : Event}
    (hRun : (proxy env).Run es h s)
    (hNext : (proxy env).step s e = some (s', o))
    (hSafe : AtDrain Unanswerable s e)
    (hFinal : DrainsFinal h s) :
    DrainsFinal (h ++ o) s' := by
  have hStep := step_cases hNext
  have hLines := linesKept_of_run hRun
  have hNumbered := numbered_of_run hRun
  have hMoves {seq : Nat} (hLapsed : lines.Lapsed s seq) :=
    hLapsed.step
      (fun _ hLt =>
        Nat.lt_of_lt_of_le hLt hStep.allocated_le)
      (hStep.lines hLines.nodup)
  intro c seq running hMem
  rcases List.mem_append.mp hMem with hOld | hNew
  · rcases hFinal c seq running hOld with ⟨hLapsed, hOver⟩
    refine ⟨(hMoves hLapsed).1, ?_⟩
    intro conn m hWritten hSeq
    rcases List.mem_append.mp hWritten with hIn | hNow
    · exact over_step hNumbered hStep
        (hOver conn m hIn hSeq)
    · exact absurd (written_move hNow hSeq)
        ((hMoves hLapsed).2 _)
  · rcases drained_cases hStep hNew with
      ⟨key, entry, rfl, rfl, rfl, -, hDrains⟩
    have hUnanswerable :=
      atDrain_iff.mp hSafe key entry rfl hDrains.found
    have hLapsed := lapsed_of_not_waits hRun
      hDrains.upstream hDrains.found hUnanswerable.1
    refine ⟨(hMoves hLapsed).1, ?_⟩
    intro conn m hWritten hSeq
    rcases List.mem_append.mp hWritten with hIn | hNow
    · have hKept : m ∈ s.written conn := by
        rw [written_eq_of_run hRun conn, List.mem_filterMap]
        exact ⟨_, hIn, by simp [Obs.writtenOn?]⟩
      have hConn : conn < s.connections := by
        apply Nat.lt_of_not_le
        intro hLe
        rw [hNumbered.written conn hLe] at hKept
        cases hKept
      rw [hDrains.reader]
      exact hUnanswerable.2 conn hConn ⟨m, hKept, hSeq⟩
    · exact absurd (written_move hNow hSeq)
        ((hMoves hLapsed).2 _)

------------------------------------------------------------
-- What the Readers Broadcast
------------------------------------------------------------

/- The line that a reader is going to broadcast. -/
def Reader.passes? : Reader → Option String
| .eventHook trimmed => some trimmed
| .responseHook trimmed => some trimmed
| .broadcasting trimmed => some trimmed
| _ => none

/- The line answers no request of the history. -/
private def NoAnswer
    (env : Env)
    (full : List Obs)
    (trimmed : String) : Prop :=
  ∀ c seq id originalId msg,
    Requested full c seq id originalId msg →
      isAnswer env id trimmed = false

/- A line that is passed on at once is no answer. -/
private theorem noAnswer_of_routeLine
    {full : List Obs}
    {line trimmed : String}
    (hRoute : (routeLine env line).passes? = some trimmed) :
    NoAnswer env full trimmed := by
  intro c seq id originalId request _
  unfold routeLine at hRoute
  cases hParse : env.serde.fromStr line with
  | none =>
      simp only [hParse] at hRoute
      split at hRoute <;> cases hRoute
  | some msg =>
      simp only [hParse] at hRoute
      split at hRoute
      · rename_i hEvent
        cases hRoute
        simp [isAnswer, hParse, hEvent]
      · cases hId : jsonRpcId msg with
        | none =>
            rw [hId] at hRoute
            cases hRoute
            simp [isAnswer, hParse, hId]
        | some id' =>
            rw [hId] at hRoute
            cases hRoute

/- A line whose entry is looked up is an answer. -/
private theorem answer_of_routeLine
    {line trimmed : String}
    {id : UInt64}
    {msg : Value}
    (hRoute : routeLine env line = .removing id msg trimmed) :
    line = trimmed ∧ isAnswer env id trimmed = true := by
  unfold routeLine at hRoute
  cases hParse : env.serde.fromStr line with
  | none =>
      simp only [hParse] at hRoute
      split at hRoute <;> cases hRoute
  | some msg' =>
      simp only [hParse] at hRoute
      split at hRoute
      · cases hRoute
      · rename_i hEvent
        cases hId : jsonRpcId msg' with
        | none =>
            rw [hId] at hRoute
            cases hRoute
        | some id' =>
            rw [hId] at hRoute
            cases hRoute
            simp [isAnswer, hParse, hId, hEvent]

/- How a reader comes to look up an entry. -/
private theorem removing_cases
    {e : Event}
    {conn : ConnId}
    {id : UInt64}
    {msg : Value}
    {trimmed : String}
    (hStep : ProxyStep env s e s' o)
    (hAfter : s'.reader conn = .removing id msg trimmed) :
    s.reader conn = .removing id msg trimmed ∨
      (s.reader conn = .reading ∧
        o = [.received conn trimmed] ∧
        isAnswer env id trimmed = true ∧
        s'.pending = s.pending) := by
  rcases hStep.reader_cases conn with
    hSame | ⟨-, hNew⟩ | ⟨event, rfl, hTask⟩
  · rw [hSame] at hAfter
    exact Or.inl hAfter
  · rw [hNew] at hAfter
    cases hAfter
  · cases hTask with
    | skipped hAt => exact Or.inl hAfter
    | received hAt hTrim hText =>
        simp only [Function.update_self] at hAfter
        rcases answer_of_routeLine hAfter with
          ⟨rfl, hAnswer⟩
        exact Or.inr ⟨hAt, rfl, hAnswer, rfl⟩
    | @hooked action =>
        simp only [Function.update_self] at hAfter
        cases action <;> cases hAfter
    | _ => simp at hAfter

/- How a reader comes to broadcast a line. -/
private theorem passes_cases
    {full : List Obs}
    {e : Event}
    {conn : ConnId}
    {trimmed : String}
    (hStep : ProxyStep env s e s' o)
    (hAfter : (s'.reader conn).passes? = some trimmed) :
    (s.reader conn).passes? = some trimmed ∨
      NoAnswer env full trimmed ∨
      ∃ id msg, s.reader conn = .removing id msg trimmed ∧
        s.pending.lookup id = none := by
  rcases hStep.reader_cases conn with
    hSame | ⟨-, hNew⟩ | ⟨event, rfl, hTask⟩
  · rw [hSame] at hAfter
    exact Or.inl hAfter
  · rw [hNew] at hAfter
    cases hAfter
  · cases hTask with
    | skipped hAt => exact Or.inl hAfter
    | received hAt hTrim hText =>
        simp only [Function.update_self] at hAfter
        exact Or.inr (Or.inl (noAnswer_of_routeLine hAfter))
    | @hooked action trimmed' hAt =>
        simp only [Function.update_self] at hAfter
        have hPasses :
            (s.reader conn).passes? = some trimmed' := by
          rcases hAt with hAt | hAt
          · rw [hAt]
            rfl
          · rw [hAt]
            rfl
        cases action <;> cases hAfter <;>
          exact Or.inl hPasses
    | missed hAt hLock hEntry =>
        simp only [Function.update_self] at hAfter
        cases hAfter
        exact Or.inr (Or.inr ⟨_, _, hAt, hEntry⟩)
    | _ => simp [Reader.passes?] at hAfter

/- What is broadcast was with the reader before. -/
private theorem broadcast_cases
    {e : Event}
    {conn : ConnId}
    {trimmed : String}
    (hStep : ProxyStep env s e s' o)
    (hRecord : .broadcast conn trimmed ∈ o) :
    (s.reader conn).passes? = some trimmed := by
  cases hStep with
  | client hTask => cases hTask <;> simp at hRecord
  | writer hTask => cases hTask <;> simp at hRecord
  | heartbeat hTask => cases hTask <;> simp at hRecord
  | upstream hTask => cases hTask <;> simp at hRecord
  | reader hTask =>
      cases hTask with
      | broadcast hAt =>
          simp only [List.mem_singleton,
            Obs.broadcast.injEq] at hRecord
          rcases hRecord with ⟨rfl, rfl⟩
          rw [hAt]
          rfl
      | _ => simp at hRecord
  | _ => simp at hRecord

------------------------------------------------------------
-- No Answer Is Broadcast
------------------------------------------------------------

/-
  Before the end of a run with history `full`, an answer
  that is looked up finds its entry, and no line that is
  broadcast is an answer.
-/
private structure Silent
    (env : Env)
    (full h : List Obs)
    (s : State) : Prop where
  drains : DrainsFinal h s
  removing : ∀ conn id msg trimmed,
    s.reader conn = .removing id msg trimmed →
      ∀ c seq originalId request,
        Requested full c seq id originalId request →
          s.pending.Holds seq
  passing : ∀ conn trimmed,
    (s.reader conn).passes? = some trimmed →
      NoAnswer env full trimmed
  broadcast : ∀ conn trimmed, .broadcast conn trimmed ∈ h →
    NoAnswer env full trimmed

section Silent

variable {full : List Obs} {last : State}
variable {es : List Event} {e : Event}

/- The request of a new answer still has its entry. -/
private theorem holds_of_answer
    (hWhole : Whole env full last)
    (hRun : (proxy env).Run es h s)
    (hSilent : Silent env full h s)
    {conn : ConnId}
    {trimmed : String}
    {c : ClientId}
    {seq : Nat}
    {id : UInt64}
    {originalId request : Value}
    (hReading : s.reader conn = .reading)
    (hAnswer : isAnswer env id trimmed = true)
    (hReq : Requested full c seq id originalId request)
    (hPrefix : h ++ [.received conn trimmed] <+: full)
    (hRun' : (proxy env).Run (es ++ [e])
      (h ++ [.received conn trimmed]) s') :
    s.pending.Holds seq := by
  have hBefore : h <+: full :=
    (List.prefix_append h _).trans hPrefix
  have hIds := allocated_le_of_prefix hWhole hRun hBefore
  rcases written_of_answer hWhole hRun' hPrefix hReq
    (List.mem_append_right h List.mem_cons_self) hAnswer with
    ⟨m, hWritten, hOrigin⟩
  have hWritten : .written conn m ∈ h := by
    simpa using hWritten
  have hQueued :=
    (queuedFirst_of_run hRun).written conn m hWritten
  have hAccounted :=
    ((entriesLast_of_run hRun hIds).queued m c seq hQueued
      hOrigin).1
  rcases hAccounted with
    hHolds | ⟨conn', c', hRemoved⟩ | ⟨c', running, hDrained⟩
  · exact hHolds
  · -- The entry went to an answer: there would be two.
    rcases removed_answer_of_run hRun conn' c' seq hRemoved
      with ⟨trimmed', hReceived', hAnswer'⟩
    rcases hWhole.run with ⟨esFull, hFull⟩
    have hId :=
      ((provenance_of_run hFull).requested hReq).2.2
    rw [← hId] at hAnswer'
    exact (not_answered_before hWhole hPrefix hReq hAnswer
      hReceived' hAnswer' hRun').elim
  · -- The drain left no reader at work for this line.
    have hSeq : m.seq? = some seq := by
      rw [Message.seq?, hOrigin]
    have hOver :=
      (hSilent.drains c' seq running hDrained).2 conn m
        hWritten hSeq
    rw [hReading] at hOver
    exact hOver.elim

/- An entry stays while a reader is about to look it up. -/
private theorem holds_of_removing
    (hWhole : Whole env full last)
    (hRun : (proxy env).Run es h s)
    (hBefore : h <+: full)
    (hStep : ProxyStep env s e s' o)
    (hSafe : AtDrain Unanswerable s e)
    {conn : ConnId}
    {id : UInt64}
    {msg : Value}
    {trimmed : String}
    (hAt : s.reader conn = .removing id msg trimmed)
    (hAfter : s'.reader conn = .removing id msg trimmed)
    {c : ClientId}
    {seq : Nat}
    {originalId request : Value}
    (hReq : Requested full c seq id originalId request)
    (hHolds : s.pending.Holds seq) :
    s'.pending.Holds seq := by
  have hInv := provenance_of_run hRun
  have hIds := allocated_le_of_prefix hWhole hRun hBefore
  have hKnown := hInv.readers conn
  rw [hAt] at hKnown
  have hAnswer : AnswerReceived env h conn trimmed id msg :=
    hKnown
  rcases written_of_answer hWhole hRun hBefore hReq
    hAnswer.received (isAnswer_of_received hAnswer) with
    ⟨m, hWritten, hOrigin⟩
  have hSeq : m.seq? = some seq := by
    rw [Message.seq?, hOrigin]
  rcases hStep.holds_cases hInv (repliesKept_of_run hRun)
    hIds hHolds with
    hSame | ⟨conn', c', hRemoved⟩ |
      ⟨c', running, hDrained⟩ | ⟨c', id', hUnregister⟩
  · exact hSame
  · -- Another reader took the entry for its own answer.
    rcases removed_cases hInv hStep hRemoved with
      ⟨trimmed', hReceived', hAnswer', hGone⟩
    rcases hWhole.run with ⟨esFull, hFull⟩
    have hId :=
      ((provenance_of_run hFull).requested hReq).2.2
    rw [← hId] at hAnswer'
    have hConn := answer_conn_unique hWhole hRun hBefore hReq
      hAnswer.received (isAnswer_of_received hAnswer)
      hReceived' hAnswer'
    rw [← hConn] at hGone
    exact absurd hAfter (hGone id msg trimmed)
  · -- The drain waits until this reader is over.
    rcases drained_cases hStep hDrained with
      ⟨key, entry, rfl, rfl, hEntry, -, hDrains⟩
    have hUnanswerable :=
      atDrain_iff.mp hSafe key entry rfl hDrains.found
    have hKept : m ∈ s.written conn := by
      rw [written_eq_of_run hRun conn, List.mem_filterMap]
      exact ⟨_, hWritten, by simp [Obs.writtenOn?]⟩
    have hConn : conn < s.connections := by
      apply Nat.lt_of_not_le
      intro hLe
      rw [(numbered_of_run hRun).written conn hLe] at hKept
      cases hKept
    have hOver := hUnanswerable.2 conn hConn
      ⟨m, hKept, by rw [hSeq, hEntry]⟩
    rw [hAt] at hOver
    exact hOver.elim
  · -- The request was queued, so it is not taken back.
    have hQueued :=
      (queuedFirst_of_run hRun).written conn m hWritten
    have hNone :=
      ((entriesLast_of_run hRun hIds).queued m c seq hQueued
        hOrigin).2 c'
    rw [hUnregister] at hNone
    exact absurd rfl hNone

private theorem silent_step
    (hWhole : Whole env full last)
    (hRun : (proxy env).Run es h s)
    (hNext : (proxy env).step s e = some (s', o))
    (hSafe : AtDrain Unanswerable s e)
    (hPrefix : h ++ o <+: full)
    (hSilent : Silent env full h s) :
    Silent env full (h ++ o) s' := by
  have hStep := step_cases hNext
  have hBefore : h <+: full :=
    (List.prefix_append h o).trans hPrefix
  have hRun' : (proxy env).Run (es ++ [e]) (h ++ o) s' :=
    Machine.run_snoc_iff.mpr ⟨h, s, o, hRun, hNext, rfl⟩
  refine
    { drains :=
        drainsFinal_step hRun hNext hSafe hSilent.drains
      removing := ?_
      passing := ?_
      broadcast := ?_ }
  · intro conn id msg trimmed hAfter c seq originalId request
      hReq
    rcases removing_cases hStep hAfter with
      hAt | ⟨hReading, rfl, hAnswer, hSame⟩
    · exact holds_of_removing hWhole hRun hBefore hStep hSafe
        hAt hAfter hReq
        (hSilent.removing conn id msg trimmed hAt c seq
          originalId request hReq)
    · rw [hSame]
      exact holds_of_answer hWhole hRun hSilent hReading
        hAnswer hReq hPrefix hRun'
  · intro conn trimmed hAfter
    rcases passes_cases hStep hAfter with
      hOld | hNo | ⟨id, msg, hAt, hNone⟩
    · exact hSilent.passing conn trimmed hOld
    · exact hNo
    · -- A looked-up answer to a request finds its entry.
      intro c seq id' originalId request hReq
      have hKnown := (provenance_of_run hRun).readers conn
      rw [hAt] at hKnown
      have hAnswer :
          AnswerReceived env h conn trimmed id msg := hKnown
      by_contra hIs
      rw [Bool.not_eq_false, isAnswer_iff] at hIs
      rcases hIs with ⟨msg', hParse, -, hId⟩
      rw [hAnswer.parsed] at hParse
      cases hParse
      rw [hAnswer.hasId] at hId
      cases hId
      rcases hSilent.removing conn id msg trimmed hAt c seq
        originalId request hReq with
        ⟨key, entry, hEntry, hSeq⟩
      rcases hWhole.run with ⟨esFull, hFull⟩
      have hDrawn :=
        (provenance_of_run hFull).requested hReq
      rw [(provenance_of_run hRun).entry_key hEntry, hSeq,
        ← hDrawn.2.2, hNone] at hEntry
      cases hEntry
  · intro conn trimmed hMem
    rcases List.mem_append.mp hMem with hOld | hNew
    · exact hSilent.broadcast conn trimmed hOld
    · exact hSilent.passing conn trimmed
        (broadcast_cases hStep hNew)

end Silent

/-
  Let the telescope answer each line at most once and hook
  scripts use ids of their own. In every run in which the
  drain removes only entries that can not be answered any
  more, no answer reaches another client.
-/
theorem no_cross_delivery
    {es : List Event}
    (hRun : (proxy env).Run es h s)
    (hIds : s.allocated ≤ 2 ^ 64)
    (hHooks : HookIdsForeign h)
    (hOnce : AnswersOnce env h)
    (hMeets : (proxy env).Meets (AtDrain Unanswerable)
      (proxy env).init es) :
    NoCrossDelivery env h := by
  have hWhole : Whole env h s :=
    ⟨⟨es, hRun⟩, hIds, hHooks, hOnce⟩
  have hSilent : Silent env h h s := by
    refine Machine.guarded_induction
      (motive := fun _ h' s' =>
        h' <+: h → Silent env h h' s')
      ?_ ?_ hRun hMeets (List.prefix_refl h)
    · intro _
      refine
        { drains := nofun
          removing := ?_
          passing := ?_
          broadcast := nofun }
      · intro conn id msg trimmed hAt
        cases hAt
      · intro conn trimmed hAt
        cases hAt
    · intro es h' s' e s'' o hBefore ih hSafe hNext hPrefix
      have hShorter : h' <+: h :=
        (List.prefix_append h' o).trans hPrefix
      exact silent_step hWhole hBefore hNext hSafe hPrefix
        (ih hShorter)
  have hInv := provenance_of_run hRun
  intro a seq id originalId msg conn trimmed answer hReq
    hAnswer b hOther
  have hIs := isAnswer_of_received hAnswer
  refine ⟨?_, ?_⟩
  · intro hRead
    have hShown :=
      (eventsShown_of_run hRun).read b conn trimmed hRead
    have hNot := hSilent.broadcast conn trimmed hShown a seq
      id originalId msg hReq
    rw [hIs] at hNot
    cases hNot
  · intro seq' text hReply
    rcases hInv.history _ hReply with
      ⟨id', originalId', msg', hReq', answer', hAnswer', -⟩
    have hParse := hAnswer'.parsed
    rw [hAnswer.parsed] at hParse
    cases hParse
    have hId := hAnswer'.hasId
    rw [hAnswer.hasId] at hId
    cases hId
    have hDrawn := hInv.requested hReq
    have hDrawn' := hInv.requested hReq'
    have hSeq : seq' = seq := by
      apply idOf_inj (by omega) (by omega)
      rw [← hDrawn'.2.2, ← hDrawn.2.2]
    subst hSeq
    rcases hReq with ⟨sent, action, hMem⟩
    rcases hReq' with ⟨sent', action', hMem'⟩
    cases draw_unique hRun hMem' hMem rfl rfl
    exact hOther rfl

/- The telescope's answer to the sample request. -/
def parkReply : String :=
  lineOf (parkAnswer (.number (.posInt firstId)))

/- Two clients; the request of the first one is answered. -/
def parkTwoClients : List Event :=
  [.notify, .accept, .accept, .upstream .start] ++
    connectUpstream ++ drawPark 0 ++
    [.client 0 .register, .client 0 .sendUpstream,
      .upstream .recv, .upstream (.write true),
      .reader 0 .start, .reader 0 (.line parkReply),
      .reader 0 .remove, .reader 0 .deliver] ++
    loseConnection 0 ++ drawPark 0

theorem no_cross_delivery_parkTwoClients :
    Obs.received 0 parkReply ∈
      ((proxy parkEnv).outcome parkTwoClients).2 ∧
    NoCrossDelivery parkEnv
      ((proxy parkEnv).outcome parkTwoClients).2 :=
  ⟨by decide +kernel,
    no_cross_delivery
      (Machine.run_outcome (by decide +kernel))
      (by decide +kernel) (by decide +kernel)
      (by decide +kernel) (by decide +kernel)⟩

/-
  The drain gives up the request of the first client, which
  is then written; its answer is broadcast to the second.
-/
def parkCrossed : List Event :=
  parkBeforeConnect ++
    [.accept, .reader 0 .start, .reader 0 (.line parkReply),
      .reader 0 .remove, .reader 0 (.hook .forward),
      .reader 0 .broadcast, .writer 1 .recvEvent]

theorem cross_delivery_reached :
    ∃ h s, (proxy parkEnv).Run parkCrossed h s ∧
      s.allocated ≤ 2 ^ 64 ∧ HookIdsForeign h ∧
      AnswersOnce parkEnv h ∧ ¬ NoCrossDelivery parkEnv h := by
  refine ⟨_, _, Machine.run_outcome (by decide +kernel),
    by decide +kernel, by decide +kernel, by decide +kernel,
    ?_⟩
  intro hNo
  have hRequested :
      Requested ((proxy parkEnv).outcome parkCrossed).2 0 0
        firstId (.string "a")
        (parkRequest (.string "a")) :=
    ⟨parkRequest (.string "a"), .forward, by decide +kernel⟩
  have hAnswer :
      AnswerReceived parkEnv
        ((proxy parkEnv).outcome parkCrossed).2 0 parkReply
        firstId (parkAnswer (.number (.posInt firstId))) :=
    { received := by decide +kernel
      parsed := by decide +kernel
      noEvent := by decide +kernel
      hasId := by decide +kernel }
  have hRead :
      Obs.eventRead 1 0 parkReply ∈
        ((proxy parkEnv).outcome parkCrossed).2 := by
    decide +kernel
  exact (hNo 0 0 firstId _ _ 0 parkReply _ hRequested hAnswer
    1 (by decide)).1 hRead

end Control

end SeestarProxy
