import SeestarProxy.Control.Connections
import SeestarProxy.Control.Routing

/-
  What the reader does with one line of the telescope.

  A line is an event, an answer with an unsigned id, or
  neither, and the test for an event comes first: a message
  with an `Event` and an id is an event. Only an answer
  whose id is pending when the reader has the map takes an
  entry out of it and puts a line on a response channel;
  every other line leaves the map and the channels alone.

  Main declarations:
    * `readerSteps` and `Event.inTurn`
    * `Quiet`, `Removes`, `Delivers` and `Answering`
    * `quiet_turn` and `removing_turn`
    * `responses_by_id` and `event_with_pending_id`
-/

------------------------------------------------------------
-- The Turn of a Line
------------------------------------------------------------

namespace SeestarProxy

namespace Control

open Library Protocol

/- The events of the reader of a connection. -/
def Event.ofReader (conn : ConnId) : Event → Bool
| .reader conn' _ => decide (conn' = conn)
| _ => false

/- What the reader does between two reads. -/
def ReaderEvent.inTurn : ReaderEvent → Bool
| .hook _ | .remove | .broadcast | .deliver => true
| .start | .line _ | .stop => false

/- The other tasks may do anything during a turn. -/
def Event.inTurn (conn : ConnId) : Event → Bool
| .reader conn' event => conn' != conn || event.inTurn
| _ => true

/- The steps of the reader among those of all the tasks. -/
def readerSteps
    (env : Env)
    (conn : ConnId)
    (s : State)
    (es : List Event) : List (Machine.Taken State Obs) :=
  (proxy env).stepsOf (Event.ofReader conn) s es

/- A step that leaves the map and the response channels. -/
structure Quiet (step : Machine.Taken State Obs) : Prop where
  map : step.after.pending = step.before.pending
  responseTx : step.after.responseTx = step.before.responseTx

/- A step that only takes the entry of an id. -/
structure Removes
    (id : UInt64)
    (pending : PendingRequest)
    (step : Machine.Taken State Obs) : Prop where
  entry : step.before.pending.lookup id = some pending
  erased : step.after.pending = step.before.pending.erase id
  responseTx : step.after.responseTx = step.before.responseTx
  events : step.after.events = step.before.events

/-
  A step that puts a line on the response channel of the
  owner, unless the owner is gone, and does nothing else.
-/
structure Delivers
    (pending : PendingRequest)
    (text : String)
    (step : Machine.Taken State Obs) : Prop where
  map : step.after.pending = step.before.pending
  events : step.after.events = step.before.events
  put : (∃ channel,
      (step.before.responseTx pending.clientTx).trySend text =
        .sent channel ∧
      step.after.responseTx =
        Function.update step.before.responseTx
          pending.clientTx channel) ∨
    ((step.before.responseTx pending.clientTx).isOpen =
        false ∧
      step.after.responseTx = step.before.responseTx)

/-
  The steps for an answer with an id: the reader waits for
  the map, finds no entry, or takes the one it finds and
  delivers the answer with its original id to the owner.
-/
inductive Answering
    (env : Env)
    (id : UInt64)
    (msg : Value)
    (complete : Prop) :
    List (Machine.Taken State Obs) → Prop
| waiting
    (hOpen : ¬ complete) :
    Answering env id msg complete []
| unknown
    {removal : Machine.Taken State Obs}
    {rest : List (Machine.Taken State Obs)}
    (hEntry : removal.before.pending.lookup id = none)
    (hQuiet : ∀ step ∈ removal :: rest, Quiet step) :
    Answering env id msg complete (removal :: rest)
| removed
    {removal : Machine.Taken State Obs}
    {pending : PendingRequest}
    (hRemoves : Removes id pending removal)
    (hOpen : ¬ complete) :
    Answering env id msg complete [removal]
| answered
    {removal delivery : Machine.Taken State Obs}
    {pending : PendingRequest}
    (hRemoves : Removes id pending removal)
    (hDelivers : Delivers pending
      (env.serde.toStrOrDefault
        (setJsonRpcIdValue msg pending.originalId))
      delivery) :
    Answering env id msg complete [removal, delivery]

------------------------------------------------------------
-- The Other Tasks
------------------------------------------------------------

variable {env : Env} {conn : ConnId} {s s' : State}
variable {e : Event} {es : List Event} {h o : List Obs}
variable {phase : Reader} {id : UInt64} {msg : Value}

/-
  The reader is where it was. Only a connection that is made
  anew under its number would start another one.
-/
def WaitsAt
    (conn : ConnId)
    (phase : Reader)
    (s : State) : Prop :=
  s.reader conn = phase ∨ s.reader conn = .spawned

theorem reader_of_others
    (hStep : (proxy env).step s e = some (s', o))
    (hOther : e.ofReader conn = false) :
    s'.reader conn = s.reader conn ∨
      s'.reader conn = .spawned := by
  rcases (step_cases hStep).reader_cases conn with
    hSame | ⟨-, hNew⟩ | ⟨event, rfl, -⟩
  · exact .inl hSame
  · exact .inr hNew
  · exact absurd rfl (of_decide_eq_false hOther)

theorem waitsAt_of_others
    (hWaits : WaitsAt conn phase s)
    (hOther : e.ofReader conn = false)
    (hStep : (proxy env).step s e = some (s', o)) :
    WaitsAt conn phase s' := by
  rcases reader_of_others hStep hOther with hSame | hNew
  · unfold WaitsAt
    rw [hSame]
    exact hWaits
  · exact .inr hNew

/- An event of the reader in its turn. -/
theorem event_of_mine
    (hMine : e.ofReader conn = true)
    (hTurn : e.inTurn conn = true) :
    ∃ event, e = .reader conn event ∧
      event.inTurn = true := by
  cases e with
  | reader conn' event =>
      have hSame : conn' = conn := of_decide_eq_true hMine
      subst hSame
      refine ⟨event, rfl, ?_⟩
      unfold Event.inTurn at hTurn
      simpa using hTurn
  | _ => cases hMine

/- A step of the reader in its turn has one of the outcomes. -/
theorem readerStep_of_mine
    (hMine : e.ofReader conn = true)
    (hTurn : e.inTurn conn = true)
    (hStep : (proxy env).step s e = some (s', o)) :
    ∃ event, event.inTurn = true ∧
      ReaderStep env s conn event s' o := by
  rcases event_of_mine hMine hTurn with
    ⟨event, rfl, hInTurn⟩
  cases step_cases hStep with
  | reader hTask => exact ⟨event, hInTurn, hTask⟩

------------------------------------------------------------
-- Quiet Turns
------------------------------------------------------------

/- The reader has nothing to do with the map. -/
def Reader.IsQuiet : Reader → Prop
| .removing .. | .delivering .. => False
| _ => True

theorem isQuiet_afterHook
    (trimmed : String)
    (action : HookAction) :
    (afterHook trimmed action).IsQuiet := by
  cases action <;> trivial

/- A step of a quiet reader is quiet and leaves it so. -/
theorem quiet_step
    {event : ReaderEvent}
    (hQuiet : (s.reader conn).IsQuiet)
    (hTurn : event.inTurn = true)
    (hStep : ReaderStep env s conn event s' o) :
    (s'.reader conn).IsQuiet ∧ Quiet ⟨s, s', o⟩ := by
  cases hStep with
  | hooked hAt =>
      refine ⟨?_, rfl, rfl⟩
      dsimp only
      rw [Function.update_self]
      exact isQuiet_afterHook _ _
  | removed hAt | missed hAt =>
      rw [hAt] at hQuiet
      exact hQuiet.elim
  | delivered hAt | undelivered hAt =>
      rw [hAt] at hQuiet
      exact hQuiet.elim
  | broadcast hAt =>
      refine ⟨?_, rfl, rfl⟩
      dsimp only
      rw [Function.update_self]
      trivial
  | _ => cases hTurn

/- All the steps of a quiet reader are quiet ones. -/
theorem quiet_turn
    (hQuiet : (s.reader conn).IsQuiet)
    (hTurn : ∀ e ∈ es, e.inTurn conn = true) :
    ∀ step ∈ readerSteps env conn s es, Quiet step := by
  have hKeeps : ∀ s e s' o, (s.reader conn).IsQuiet →
      e.inTurn conn = true →
      (proxy env).step s e = some (s', o) →
      (s'.reader conn).IsQuiet ∧
        (e.ofReader conn = true → Quiet ⟨s, s', o⟩) := by
    intro s e s' o hQuiet hTurn hStep
    cases hMine : e.ofReader conn with
    | true =>
        rcases readerStep_of_mine hMine hTurn hStep with
          ⟨event, hInTurn, hTask⟩
        rcases quiet_step hQuiet hInTurn hTask with
          ⟨hAfter, hGood⟩
        exact ⟨hAfter, fun _ => hGood⟩
    | false =>
        refine ⟨?_, nofun⟩
        rcases reader_of_others hStep hMine with
          hSame | hNew
        · rw [hSame]
          exact hQuiet
        · rw [hNew]
          trivial
  exact Machine.stepsOf_all hKeeps hTurn hQuiet

------------------------------------------------------------
-- Turns with an Answer
------------------------------------------------------------

/- The reader is not in the turn of a line. -/
def Reader.IsBetween : Reader → Prop
| .reading | .spawned | .panicked => True
| _ => False

theorem ReaderStep.not_between
    {event : ReaderEvent}
    (hTurn : event.inTurn = true)
    (hStep : ReaderStep env s conn event s' o) :
    ¬ (s.reader conn).IsBetween := by
  cases hStep with
  | hooked hAt =>
      rcases hAt with hAt | hAt
      · rw [hAt]
        exact id
      · rw [hAt]
        exact id
  | removed hAt | missed hAt | broadcast hAt
  | delivered hAt | undelivered hAt =>
      rw [hAt]
      exact id
  | _ => cases hTurn

/-
  The reader takes no step, or its first one where it was;
  the rest of its turn goes on from there.
-/
theorem turn_first
    (hAt : WaitsAt conn phase s)
    (hTurn : ∀ e ∈ es, e.inTurn conn = true)
    (hExec : (proxy env).exec s es = some (s', h)) :
    (readerSteps env conn s es = [] ∧
        WaitsAt conn phase s') ∨
      ∃ t event t' o es' h', t.reader conn = phase ∧
        event.inTurn = true ∧
        ReaderStep env t conn event t' o ∧
        (∀ e ∈ es', e.inTurn conn = true) ∧
        (proxy env).exec t' es' = some (s', h') ∧
        readerSteps env conn s es =
          ⟨t, t', o⟩ :: readerSteps env conn t' es' := by
  rcases Machine.stepsOf_first
    (fun _ _ _ _ hWaits => waitsAt_of_others hWaits) hAt
    hExec with hNone | ⟨t, e, t', o, es', h', hWaits, hMem,
      hMine, hStep, hSub, hRest, hSteps⟩
  · exact .inl hNone
  · rcases readerStep_of_mine hMine (hTurn e hMem) hStep with
      ⟨event, hInTurn, hTask⟩
    have hThere : t.reader conn = phase := by
      refine hWaits.resolve_right fun hNew => ?_
      apply hTask.not_between hInTurn
      rw [hNew]
      trivial
    exact .inr ⟨t, event, t', o, es', h', hThere, hInTurn,
      hTask, fun e hLater => hTurn e (hSub hLater), hRest,
      hSteps⟩

/- Between two lines the reader takes no step of a turn. -/
theorem no_steps
    (hAt : s.reader conn = phase)
    (hBetween : phase.IsBetween)
    (hTurn : ∀ e ∈ es, e.inTurn conn = true)
    (hExec : (proxy env).exec s es = some (s', h)) :
    readerSteps env conn s es = [] ∧
      WaitsAt conn phase s' := by
  rcases turn_first (.inl hAt) hTurn hExec with
    hNone | ⟨t, event, t', o, es', h', hThere, hInTurn,
      hTask, _⟩
  · exact hNone
  · exact absurd (hThere ▸ hBetween)
      (hTask.not_between hInTurn)

theorem not_reading_of_waitsAt
    (hWaits : WaitsAt conn phase s)
    (hPhase : phase ≠ .reading) :
    s.reader conn ≠ .reading := by
  intro hReading
  rcases hWaits with hAt | hAt
  · exact hPhase (hAt.symm.trans hReading)
  · cases hAt.symm.trans hReading

/- A reader with an answer for a client delivers it. -/
theorem delivering_turn
    {pending : PendingRequest}
    {trimmed text : String}
    (hAt : s.reader conn = .delivering pending.clientTx
      pending.seq trimmed text)
    (hTurn : ∀ e ∈ es, e.inTurn conn = true)
    (hExec : (proxy env).exec s es = some (s', h)) :
    (readerSteps env conn s es = [] ∧
        s'.reader conn ≠ .reading) ∨
      ∃ delivery,
        readerSteps env conn s es = [delivery] ∧
          Delivers pending text delivery := by
  rcases turn_first (.inl hAt) hTurn hExec with
    ⟨hNone, hWaits⟩ | ⟨t, event, t', o, es', h', hThere,
      hInTurn, hTask, hLater, hRest, hSteps⟩
  · exact .inl ⟨hNone, not_reading_of_waitsAt hWaits nofun⟩
  · right
    have hLast : t'.reader conn = .reading →
        readerSteps env conn s es = [⟨t, t', o⟩] := by
      intro hReading
      rw [hSteps,
        (no_steps hReading trivial hLater hRest).1]
    cases hTask with
    | delivered hHere hSend =>
        cases hHere.symm.trans hThere
        exact ⟨_, hLast (Function.update_self ..), rfl, rfl,
          .inl ⟨_, hSend, rfl⟩⟩
    | undelivered hHere hClosed =>
        cases hHere.symm.trans hThere
        exact ⟨_, hLast (Function.update_self ..), rfl, rfl,
          .inr ⟨hClosed, rfl⟩⟩
    | hooked hHere =>
        rcases hHere with hHere | hHere
        · cases hHere.symm.trans hThere
        · cases hHere.symm.trans hThere
    | removed hHere | missed hHere | broadcast hHere =>
        cases hHere.symm.trans hThere
    | _ => cases hInTurn

/- A reader with an answer looks for its entry. -/
theorem removing_turn
    {trimmed : String}
    (hAt : s.reader conn = .removing id msg trimmed)
    (hTurn : ∀ e ∈ es, e.inTurn conn = true)
    (hExec : (proxy env).exec s es = some (s', h)) :
    Answering env id msg (s'.reader conn = .reading)
      (readerSteps env conn s es) := by
  rcases turn_first (.inl hAt) hTurn hExec with
    ⟨hNone, hWaits⟩ | ⟨t, event, t', o, es', h', hThere,
      hInTurn, hTask, hLater, hRest, hSteps⟩
  · rw [hNone]
    exact .waiting (not_reading_of_waitsAt hWaits nofun)
  · rw [hSteps]
    cases hTask with
    | removed hHere hLock hEntry =>
        cases hHere.symm.trans hThere
        rcases delivering_turn (Function.update_self ..)
          hLater hRest with
          ⟨hNone, hOpen⟩ | ⟨delivery, hOne, hDelivers⟩
        · rw [hNone]
          exact .removed ⟨hEntry, rfl, rfl, rfl⟩ hOpen
        · rw [hOne]
          exact .answered ⟨hEntry, rfl, rfl, rfl⟩ hDelivers
    | missed hHere hLock hEntry =>
        cases hHere.symm.trans hThere
        refine .unknown hEntry fun step hMem => ?_
        rcases List.mem_cons.mp hMem with rfl | hOther
        · exact ⟨rfl, rfl⟩
        · refine quiet_turn ?_ hLater step hOther
          dsimp only
          rw [Function.update_self]
          trivial
    | hooked hHere =>
        rcases hHere with hHere | hHere
        · cases hHere.symm.trans hThere
        · cases hHere.symm.trans hThere
    | delivered hHere | undelivered hHere
    | broadcast hHere =>
        cases hHere.symm.trans hThere
    | _ => cases hInTurn

------------------------------------------------------------
-- Responses by Id
------------------------------------------------------------

/-
  The reader can answer now: it reads, its log preview fits,
  the map is free and has an entry, and there is room on the
  response channel of the owner, or the owner is gone.
-/
structure CanAnswer
    (conn : ConnId)
    (text : String)
    (id : UInt64)
    (pending : PendingRequest)
    (s : State) : Prop where
  reading : s.reader conn = .reading
  oneLine : '\n' ∉ text.toList
  hint : (methodHint (Text.trim text)).isSome = true
  free : s.lock = none
  entry : s.pending.lookup id = some pending
  ready : (s.responseTx pending.clientTx).Accepts ∨
    (s.responseTx pending.clientTx).isOpen = false

/-
  What the reader does with a line, in any state and among
  any steps of the other tasks: with an event or a message
  without an unsigned id it leaves the map and the channels,
  any other one it answers, and it can finish doing so. It
  gets to the line unless its log preview panics.
-/
structure HandlesById
    (env : Env)
    (conn : ConnId)
    (text : String)
    (msg : Value) : Prop where
  turn : ∀ {s s' es h},
    (∀ e ∈ es, e.inTurn conn = true) →
    (proxy env).exec s (.reader conn (.line text) :: es) =
      some (s', h) →
    ∃ first rest,
      readerSteps env conn s
          (.reader conn (.line text) :: es) =
        first :: rest ∧
      Quiet first ∧
      first.after.events = first.before.events ∧
      ((methodHint (Text.trim text)).isSome = true →
        first.after.reader conn =
          routeLine env (Text.trim text)) ∧
      ((isEvent msg = true ∨ jsonRpcId msg = none) →
        ∀ step ∈ rest, Quiet step) ∧
      (∀ id, isEvent msg = false →
        jsonRpcId msg = some id →
        Answering env id msg (s'.reader conn = .reading)
          rest)
  completes : ∀ {s id pending},
    isEvent msg = false →
    jsonRpcId msg = some id →
    CanAnswer conn text id pending s →
    ∃ s' h,
      (proxy env).exec s
          [.reader conn (.line text), .reader conn .remove,
            .reader conn .deliver] =
        some (s', h) ∧
      s'.reader conn = .reading ∧
      s'.pending = s.pending.erase id

/- The first step of a turn leads where the line is routed. -/
theorem line_step
    {text : String}
    (hText : Text.trim text ≠ "")
    (hStep : (proxy env).step s
      (.reader conn (.line text)) = some (s', o)) :
    Quiet ⟨s, s', o⟩ ∧ s'.events = s.events ∧
      ((methodHint (Text.trim text)).isSome = true →
        s'.reader conn = routeLine env (Text.trim text)) ∧
      (s'.reader conn = .panicked ∨
        s'.reader conn =
          routeLine env (Text.trim text)) := by
  have hAt : s.reader conn = .reading := by
    cases step_cases hStep with
    | reader hTask => cases hTask <;> assumption
  change upstreamReaderTask env s conn (.line text) =
    some (s', o) at hStep
  unfold upstreamReaderTask at hStep
  rw [hAt] at hStep
  dsimp only at hStep
  split at hStep
  · cases hStep
  · split at hStep
    · rename_i hNone
      cases hStep
      refine ⟨⟨rfl, rfl⟩, rfl, ?_,
        .inl (Function.update_self ..)⟩
      intro hHint
      rw [Option.isNone_iff_eq_none.mp hNone] at hHint
      cases hHint
    · cases hStep
      exact ⟨⟨rfl, rfl⟩, rfl,
        fun _ => Function.update_self ..,
        .inr (Function.update_self ..)⟩

/- Where a line that is JSON is routed. -/
theorem routeLine_event
    {trimmed : String}
    (hMsg : env.serde.fromStr trimmed = some msg)
    (hEvent : isEvent msg = true) :
    routeLine env trimmed = .eventHook trimmed := by
  unfold routeLine
  rw [hMsg]
  exact if_pos hEvent

theorem routeLine_answer
    {trimmed : String}
    (hMsg : env.serde.fromStr trimmed = some msg)
    (hEvent : isEvent msg = false)
    (hId : jsonRpcId msg = some id) :
    routeLine env trimmed = .removing id msg trimmed := by
  unfold routeLine
  rw [hMsg]
  dsimp only
  rw [if_neg (by rw [hEvent]; nofun), hId]

theorem routeLine_other
    {trimmed : String}
    (hMsg : env.serde.fromStr trimmed = some msg)
    (hEvent : isEvent msg = false)
    (hId : jsonRpcId msg = none) :
    routeLine env trimmed = .broadcasting trimmed := by
  unfold routeLine
  rw [hMsg]
  dsimp only
  rw [if_neg (by rw [hEvent]; nofun), hId]

/- What is not an answer is routed to a quiet turn. -/
theorem isQuiet_routeLine
    {trimmed : String}
    (hMsg : env.serde.fromStr trimmed = some msg)
    (hOther : isEvent msg = true ∨ jsonRpcId msg = none) :
    (routeLine env trimmed).IsQuiet := by
  cases hEvent : isEvent msg with
  | true =>
      rw [routeLine_event hMsg hEvent]
      trivial
  | false =>
      rw [hEvent] at hOther
      rw [routeLine_other hMsg hEvent
        (hOther.resolve_left nofun)]
      trivial

/- A reader that can answer does so in three steps. -/
theorem answer_completes
    {text : String}
    {pending : PendingRequest}
    (hText : Text.trim text ≠ "")
    (hRoute : routeLine env (Text.trim text) =
      .removing id msg (Text.trim text))
    (hCan : CanAnswer conn text id pending s) :
    ∃ s' h,
      (proxy env).exec s
          [.reader conn (.line text), .reader conn .remove,
            .reader conn .deliver] =
        some (s', h) ∧
      s'.reader conn = .reading ∧
      s'.pending = s.pending.erase id := by
  let answer := env.serde.toStrOrDefault
    (setJsonRpcIdValue msg pending.originalId)
  let s₁ : State := { s with
    handshakeDone := true
    reader := Function.update s.reader conn
      (.removing id msg (Text.trim text)) }
  let s₂ : State := { s₁ with
    pending := s.pending.erase id
    reader := Function.update s₁.reader conn
      (.delivering pending.clientTx pending.seq
        (Text.trim text) answer) }
  have hLine : (proxy env).step s (.reader conn (.line text)) =
      some (s₁, [.received conn (Text.trim text)]) := by
    change upstreamReaderTask env s conn (.line text) = _
    unfold upstreamReaderTask
    rw [hCan.reading]
    dsimp only
    rw [if_neg hCan.oneLine, if_neg hText, if_neg, hRoute]
    rw [Option.isNone_iff_eq_none]
    exact Option.isSome_iff_ne_none.mp hCan.hint
  have hRemove : (proxy env).step s₁ (.reader conn .remove) =
      some (s₂,
        [.removed conn pending.clientTx pending.seq]) := by
    change upstreamReaderTask env s₁ conn .remove = _
    unfold upstreamReaderTask
    rw [show s₁.reader conn = _ from
      Function.update_self ..]
    dsimp only
    rw [if_neg (not_not.mpr hCan.free), hCan.entry]
  have hAt : s₂.reader conn = .delivering pending.clientTx
      pending.seq (Text.trim text) answer :=
    Function.update_self ..
  have hDeliver : ∃ s₃ o,
      (proxy env).step s₂ (.reader conn .deliver) =
        some (s₃, o) ∧
      s₃.reader conn = .reading ∧
      s₃.pending = s.pending.erase id := by
    simp only [proxy, step, upstreamReaderTask, hAt]
    rcases hCan.ready with hAccepts | hClosed
    · rcases hAccepts.exists_sent answer with
        ⟨channel, hSend, _⟩
      rw [show (s₂.responseTx pending.clientTx).trySend
        answer = _ from hSend]
      exact ⟨_, _, rfl, Function.update_self .., rfl⟩
    · rw [show (s₂.responseTx pending.clientTx).trySend
        answer = _ from
          Channel.trySend_closed_iff.mpr hClosed]
      exact ⟨_, _, rfl, Function.update_self .., rfl⟩
  rcases hDeliver with ⟨s₃, o, hNext, hReading, hErased⟩
  have hLast := Machine.exec_cons hRemove
    (Machine.exec_one hNext)
  exact ⟨s₃, _, Machine.exec_cons hLine hLast,
    hReading, hErased⟩

/-
  The telescope's lines are told apart by their `Event` and
  then by their id. Only a line with an unsigned id and
  without an `Event` can take the entry of a request, which
  it does if the id is pending: then the answer goes to the
  owner with its original id and is not broadcast.
-/
theorem responses_by_id
    (env : Env)
    (conn : ConnId)
    (text : String)
    (msg : Value)
    (hText : Text.trim text ≠ "")
    (hMsg : env.serde.fromStr (Text.trim text) =
      some msg) :
    HandlesById env conn text msg where
  turn := by
    intro s s' es h hTurn hExec
    rcases Machine.exec_cons_iff.mp hExec with
      ⟨s₁, o, o', hLine, hRest, _⟩
    rcases line_step hText hLine with
      ⟨hQuiet, hEvents, hReached, hNext⟩
    have hMine :
        (Event.reader conn (.line text)).ofReader conn =
          true := decide_eq_true rfl
    refine ⟨⟨s, s₁, o⟩, readerSteps env conn s₁ es, ?_,
      hQuiet, hEvents, hReached, ?_, ?_⟩
    · unfold readerSteps
      rw [Machine.stepsOf_cons hLine, if_pos hMine]
    · intro hOther
      refine quiet_turn ?_ hTurn
      rcases hNext with hPanicked | hRouted
      · rw [hPanicked]
        trivial
      · rw [hRouted]
        exact isQuiet_routeLine hMsg hOther
    · intro id hEvent hId
      rcases hNext with hPanicked | hRouted
      · rcases no_steps hPanicked trivial hTurn hRest with
          ⟨hNone, hWaits⟩
        rw [hNone]
        exact .waiting
          (not_reading_of_waitsAt hWaits nofun)
      · rw [routeLine_answer hMsg hEvent hId] at hRouted
        exact removing_turn hRouted hTurn hRest
  completes := by
    intro s id pending hEvent hId hCan
    exact answer_completes hText
      (routeLine_answer hMsg hEvent hId) hCan

theorem responses_by_id_parkAnswer :
    HandlesById parkEnv 0
      (lineOf (parkAnswer (.number (.posInt firstId))))
      (parkAnswer (.number (.posInt firstId))) :=
  responses_by_id parkEnv 0 _ _ (by decide +kernel)
    (by decide +kernel)

/- An event with the id of the request that is pending. -/
def pendingAlert : Value :=
  Value.ofMembers
    [("Event", .string "Alert"),
      ("id", .number (.posInt firstId))]

def alertEnv : Env :=
  { parkEnv with
    serde := Serde.knowing
      [parkRequest (.string "a"), pendingAlert] }

/- A request waits for its answer. -/
def awaitAnswer : List Event :=
  [.notify, .accept, .upstream .start] ++
    connectUpstream ++ drawPark 0 ++
    [.client 0 .register, .client 0 .sendUpstream,
      .upstream .recv, .upstream (.write true),
      .reader 0 .start]

/- The reader with the event, from one read to the next. -/
def alertTurn : List Event :=
  [.reader 0 (.line (lineOf pendingAlert)),
    .reader 0 (.hook .forward), .reader 0 .broadcast]

/-
  The event is an object with an id that is pending. It is
  broadcast, the request stays pending, and its owner gets
  nothing on the response channel.
-/
theorem event_with_pending_id :
    jsonRpcId pendingAlert = some firstId ∧
    (((proxy alertEnv).outcome awaitAnswer).1.pending.lookup
        firstId).map (·.clientTx) = some 0 ∧
    ∃ h s, (proxy alertEnv).Run (awaitAnswer ++ alertTurn)
        h s ∧
      (s.pending.lookup firstId).map (·.clientTx) = some 0 ∧
      (s.responseTx 0).queue = [] ∧
      Obs.broadcast 0 (lineOf pendingAlert) ∈ h ∧
      s.reader 0 = .reading :=
  ⟨by decide +kernel, by decide +kernel,
    Machine.exists_run (by decide +kernel)⟩

end Control

end SeestarProxy
