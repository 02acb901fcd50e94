import SeestarProxy.Control.StepCases

/-
  Where the data held by the tasks comes from.

  Whatever a handler, a reader, the pending map or a queue
  holds about a request agrees with the record the history
  keeps of the step in which the request drew its id.
  `Provenance` collects these facts; `provenance_of_run`
  says that they hold in every run.

  Main declarations:
    * `Requested` and `ReplyOk`
    * `HandlerOk`, `ReaderOk`, `EntryOk`, `MessageOk`
    * `Provenance`, `Justified` and `Provenance.advance`
    * `provenance_of_run`
-/

------------------------------------------------------------
-- What the History Records
------------------------------------------------------------

namespace SeestarProxy

namespace Control

open Library Protocol

/- Client `c` drew upstream id `id` for message `msg`. -/
def Requested
    (h : List Obs)
    (c : ClientId)
    (seq : Nat)
    (id : UInt64)
    (originalId msg : Value) : Prop :=
  ∃ sent action,
    .request c sent action msg originalId seq id ∈ h

theorem Requested.mono
    {h h' : List Obs}
    {c : ClientId}
    {seq : Nat}
    {id : UInt64}
    {originalId msg : Value}
    (hSubset : h ⊆ h')
    (hRequested : Requested h c seq id originalId msg) :
    Requested h' c seq id originalId msg := by
  rcases hRequested with ⟨sent, action, hMem⟩
  exact ⟨sent, action, hSubset hMem⟩

/-
  The telescope line `trimmed`, received on a connection, is
  the message `msg` with the unsigned id `id` and no
  `Event` member.
-/
structure AnswerReceived
    (env : Env)
    (h : List Obs)
    (conn : ConnId)
    (trimmed : String)
    (id : UInt64)
    (msg : Value) : Prop where
  received : .received conn trimmed ∈ h
  parsed : env.serde.fromStr trimmed = some msg
  noEvent : isEvent msg = false
  hasId : jsonRpcId msg = some id

theorem AnswerReceived.mono
    {env : Env}
    {h h' : List Obs}
    {conn : ConnId}
    {trimmed : String}
    {id : UInt64}
    {msg : Value}
    (hSubset : h ⊆ h')
    (hAnswer : AnswerReceived env h conn trimmed id msg) :
    AnswerReceived env h' conn trimmed id msg :=
  { hAnswer with received := hSubset hAnswer.received }

/-
  A reply of client `c` to its request `seq`: the text is
  that of the error of its path, or that of the telescope's
  message, each with the original id of the request.
-/
def ReplyOk
    (env : Env)
    (h : List Obs)
    (source : ReplySource)
    (c : ClientId)
    (seq : Nat)
    (text : String) : Prop :=
  ∃ id originalId msg,
    Requested h c seq id originalId msg ∧
      match source with
      | .overflow =>
          text = env.serde.toStrOrDefault
            (tooManyPending originalId)
      | .drain =>
          text = env.serde.toStrOrDefault
            (telescopeReconnecting originalId)
      | .reader conn trimmed =>
          ∃ answer,
            AnswerReceived env h conn trimmed id answer ∧
              text = env.serde.toStrOrDefault
                (setJsonRpcIdValue answer originalId)

theorem ReplyOk.mono
    {env : Env}
    {h h' : List Obs}
    {source : ReplySource}
    {c : ClientId}
    {seq : Nat}
    {text : String}
    (hSubset : h ⊆ h')
    (hReply : ReplyOk env h source c seq text) :
    ReplyOk env h' source c seq text := by
  rcases hReply with ⟨id, originalId, msg, hReq, hText⟩
  refine ⟨id, originalId, msg, hReq.mono hSubset, ?_⟩
  cases source with
  | overflow => exact hText
  | drain => exact hText
  | reader conn trimmed =>
      rcases hText with ⟨answer, hAnswer, hEq⟩
      exact ⟨answer, hAnswer.mono hSubset, hEq⟩

------------------------------------------------------------
-- What the Tasks Hold
------------------------------------------------------------

/-
  A message for the telescope: a request is the client's
  message with its id replaced by the one it drew, printed;
  a notification asks for no answer; a heartbeat is the
  heartbeat of the id it drew.
-/
def MessageOk
    (env : Env)
    (h : List Obs)
    (m : Message) : Prop :=
  match m.origin with
  | .request c seq =>
      ∃ id originalId msg,
        Requested h c seq id originalId msg ∧
          m.value = setJsonRpcId msg id ∧
            env.serde.toStr m.value = some m.line
  | .notification _ => jsonRpcId m.value = none
  | .heartbeat seq =>
      .heartbeat seq ∈ h ∧
        m.value = heartbeatValue (idOf seq)
  | .hook => True

theorem MessageOk.mono
    {env : Env}
    {h h' : List Obs}
    {m : Message}
    (hSubset : h ⊆ h')
    (hMessage : MessageOk env h m) :
    MessageOk env h' m := by
  unfold MessageOk at hMessage ⊢
  split at hMessage
  · rcases hMessage with
      ⟨id, originalId, msg, hReq, hValue⟩
    exact ⟨id, originalId, msg, hReq.mono hSubset, hValue⟩
  · exact hMessage
  · exact ⟨hSubset hMessage.1, hMessage.2⟩
  · trivial

/- What a handler at its program counter knows. -/
def HandlerOk
    (env : Env)
    (h : List Obs)
    (c : ClientId) :
    Handler → Prop
| .hooking _ sent => .line c sent ∈ h
| .registering seq id originalId remapped forwarded =>
    ∃ msg, Requested h c seq id originalId msg ∧
      remapped = setJsonRpcId msg id ∧
        env.serde.toStr remapped = some forwarded
| .refusing seq error =>
    ∃ id originalId msg,
      Requested h c seq id originalId msg ∧
        error = env.serde.toStrOrDefault
          (tooManyPending originalId)
| .queueing seq id remapped forwarded =>
    ∃ originalId msg,
      Requested h c seq id originalId msg ∧
        remapped = setJsonRpcId msg id ∧
          env.serde.toStr remapped = some forwarded
| .forwarding msg _ => jsonRpcId msg = none
| .unregistering seq id =>
    ∃ originalId msg, Requested h c seq id originalId msg
| _ => True

theorem HandlerOk.mono
    {env : Env}
    {h h' : List Obs}
    {c : ClientId}
    {handler : Handler}
    (hSubset : h ⊆ h')
    (hHandler : HandlerOk env h c handler) :
    HandlerOk env h' c handler := by
  cases handler with
  | hooking trimmed sent => exact hSubset hHandler
  | registering seq id originalId remapped forwarded =>
      rcases hHandler with ⟨msg, hReq, hRest⟩
      exact ⟨msg, hReq.mono hSubset, hRest⟩
  | refusing seq error =>
      rcases hHandler with
        ⟨id, originalId, msg, hReq, hRest⟩
      exact ⟨id, originalId, msg, hReq.mono hSubset, hRest⟩
  | queueing seq id remapped forwarded =>
      rcases hHandler with ⟨originalId, msg, hReq, hRest⟩
      exact ⟨originalId, msg, hReq.mono hSubset, hRest⟩
  | forwarding msg forwarded => exact hHandler
  | unregistering seq id =>
      rcases hHandler with ⟨originalId, msg, hReq⟩
      exact ⟨originalId, msg, hReq.mono hSubset⟩
  | _ => trivial

/- A handler with nothing to forward knows nothing. -/
theorem HandlerOk.of_isIdle
    {env : Env}
    {h : List Obs}
    {c : ClientId}
    {handler : Handler}
    (hIdle : handler.IsIdle) :
    HandlerOk env h c handler := by
  cases handler <;> trivial

/- What a reader at its program counter knows. -/
def ReaderOk
    (env : Env)
    (h : List Obs)
    (conn : ConnId) :
    Reader → Prop
| .removing id msg trimmed =>
    AnswerReceived env h conn trimmed id msg
| .delivering c seq trimmed text =>
    ReplyOk env h (.reader conn trimmed) c seq text
| .eventHook trimmed | .responseHook trimmed
| .broadcasting trimmed => .received conn trimmed ∈ h
| _ => True

theorem ReaderOk.mono
    {env : Env}
    {h h' : List Obs}
    {conn : ConnId}
    {reader : Reader}
    (hSubset : h ⊆ h')
    (hReader : ReaderOk env h conn reader) :
    ReaderOk env h' conn reader := by
  cases reader with
  | removing id msg trimmed =>
      exact AnswerReceived.mono hSubset hReader
  | delivering c seq trimmed text =>
      have hReply :
          ReplyOk env h (.reader conn trimmed) c seq text :=
        hReader
      exact hReply.mono hSubset
  | eventHook trimmed => exact hSubset hReader
  | responseHook trimmed => exact hSubset hReader
  | broadcasting trimmed => exact hSubset hReader
  | _ => trivial

/- The reader knows what it received. -/
theorem readerOk_routeLine
    {env : Env}
    {h : List Obs}
    {conn : ConnId}
    {trimmed : String}
    (hReceived : .received conn trimmed ∈ h) :
    ReaderOk env h conn (routeLine env trimmed) := by
  unfold routeLine
  cases hParse : env.serde.fromStr trimmed with
  | none =>
      simp only
      split <;> trivial
  | some msg =>
      simp only
      split
      · exact hReceived
      · rename_i hEvent
        cases hId : jsonRpcId msg with
        | none => exact hReceived
        | some id =>
            exact
              { received := hReceived
                parsed := hParse
                noEvent := by simpa using hEvent
                hasId := hId }

/- What an entry of the pending map stands for. -/
def EntryOk
    (h : List Obs)
    (key : UInt64)
    (pending : PendingRequest) : Prop :=
  ∃ msg, Requested h pending.clientTx pending.seq key
    pending.originalId msg

/- What the history records of a step that showed `x`. -/
def ObsOk
    (env : Env)
    (h : List Obs)
    (allocated : Nat) :
    Obs → Prop
| .request c sent action msg originalId seq id =>
    .line c sent ∈ h ∧
      hookProcessed env sent action = some msg ∧
        getId msg = some originalId ∧
          seq < allocated ∧ id = idOf seq
| .heartbeat seq => seq < allocated
| .reply source c seq text =>
    ReplyOk env h source c seq text
| .queued m | .taken m | .lost m | .written _ m =>
    MessageOk env h m
| .broadcast conn trimmed => .received conn trimmed ∈ h
| _ => True

theorem ObsOk.mono
    {env : Env}
    {h h' : List Obs}
    {allocated allocated' : Nat}
    {x : Obs}
    (hSubset : h ⊆ h')
    (hLe : allocated ≤ allocated')
    (hObs : ObsOk env h allocated x) :
    ObsOk env h' allocated' x := by
  cases x with
  | request c sent action msg originalId seq id =>
      rcases hObs with ⟨hLine, hHook, hGet, hSeq, hId⟩
      exact ⟨hSubset hLine, hHook, hGet,
        Nat.lt_of_lt_of_le hSeq hLe, hId⟩
  | heartbeat seq => exact Nat.lt_of_lt_of_le hObs hLe
  | reply source c seq text =>
      exact ReplyOk.mono hSubset hObs
  | queued m => exact MessageOk.mono hSubset hObs
  | taken m => exact MessageOk.mono hSubset hObs
  | lost m => exact MessageOk.mono hSubset hObs
  | written conn m => exact MessageOk.mono hSubset hObs
  | broadcast conn trimmed => exact hSubset hObs
  | _ => trivial

------------------------------------------------------------
-- The Invariant
------------------------------------------------------------

/- Everything in the state agrees with the history. -/
structure Provenance
    (env : Env)
    (h : List Obs)
    (s : State) : Prop where
  nextId : s.nextId = idOf s.allocated
  history : ∀ x ∈ h, ObsOk env h s.allocated x
  handlers : ∀ c, HandlerOk env h c (s.handler c)
  readers : ∀ conn, ReaderOk env h conn (s.reader conn)
  entries : ∀ key pending,
    s.pending.lookup key = some pending →
      EntryOk h key pending
  queue : ∀ m ∈ s.upstreamTx.queue, MessageOk env h m
  upstream : ∀ conn m,
    s.upstream = .writing conn m → MessageOk env h m
  heartbeat : ∀ m,
    s.heartbeat = .sending m → MessageOk env h m

/-
  What a step has to justify: everything it puts in the
  state, and everything it shows, agrees with the history.
  The parts that a step leaves alone need no argument.
-/
structure Justified
    (env : Env)
    (h o : List Obs)
    (s s' : State) : Prop where
  history : ∀ x ∈ o, ObsOk env (h ++ o) s'.allocated x := by
    intro x hx
    cases hx
  nextId : s.nextId = idOf s.allocated →
      s'.nextId = idOf s'.allocated := by
    exact fun hNextId => hNextId
  allocated : s.allocated ≤ s'.allocated := by
    exact Nat.le_refl _
  handlers : ∀ c, s'.handler c = s.handler c ∨
      HandlerOk env (h ++ o) c (s'.handler c) := by
    exact fun _ => Or.inl rfl
  readers : ∀ conn, s'.reader conn = s.reader conn ∨
      ReaderOk env (h ++ o) conn (s'.reader conn) := by
    exact fun _ => Or.inl rfl
  entries : ∀ key pending,
      s'.pending.lookup key = some pending →
        s.pending.lookup key = some pending ∨
          EntryOk (h ++ o) key pending := by
    exact fun _ _ hEntry => Or.inl hEntry
  queue : ∀ m ∈ s'.upstreamTx.queue,
      m ∈ s.upstreamTx.queue ∨
        MessageOk env (h ++ o) m := by
    exact fun _ hMem => Or.inl hMem
  upstream : ∀ conn m, s'.upstream = .writing conn m →
      s.upstream = .writing conn m ∨
        MessageOk env (h ++ o) m := by
    exact fun _ _ hAt => Or.inl hAt
  heartbeat : ∀ m, s'.heartbeat = .sending m →
      s.heartbeat = .sending m ∨
        MessageOk env (h ++ o) m := by
    exact fun _ hAt => Or.inl hAt

/- A justified step keeps the invariant. -/
theorem Provenance.advance
    {env : Env}
    {h o : List Obs}
    {s s' : State}
    (hInv : Provenance env h s)
    (hStep : Justified env h o s s') :
    Provenance env (h ++ o) s' := by
  have hSubset : h ⊆ h ++ o := List.subset_append_left h o
  refine ⟨hStep.nextId hInv.nextId,
    ?_, ?_, ?_, ?_, ?_, ?_, ?_⟩
  · intro x hx
    rcases List.mem_append.mp hx with hOld | hNew
    · exact (hInv.history x hOld).mono hSubset hStep.allocated
    · exact hStep.history x hNew
  · intro c
    rcases hStep.handlers c with hOld | hNew
    · rw [hOld]
      exact (hInv.handlers c).mono hSubset
    · exact hNew
  · intro conn
    rcases hStep.readers conn with hOld | hNew
    · rw [hOld]
      exact (hInv.readers conn).mono hSubset
    · exact hNew
  · intro key pending hEntry
    rcases hStep.entries key pending hEntry with hOld | hNew
    · rcases hInv.entries key pending hOld with ⟨msg, hReq⟩
      exact ⟨msg, hReq.mono hSubset⟩
    · exact hNew
  · intro m hMem
    rcases hStep.queue m hMem with hOld | hNew
    · exact (hInv.queue m hOld).mono hSubset
    · exact hNew
  · intro conn m hAt
    rcases hStep.upstream conn m hAt with hOld | hNew
    · exact (hInv.upstream conn m hOld).mono hSubset
    · exact hNew
  · intro m hAt
    rcases hStep.heartbeat m hAt with hOld | hNew
    · exact (hInv.heartbeat m hOld).mono hSubset
    · exact hNew

theorem provenance_init (env : Env) :
    Provenance env [] State.init where
  nextId := by simp [State.init, idOf]
  history := fun _ hx => by cases hx
  handlers := fun _ => trivial
  readers := fun _ => trivial
  entries := fun key pending hEntry => by
    simp [State.init] at hEntry
  queue := fun _ hMem => by cases hMem
  upstream := fun _ _ hAt => by cases hAt
  heartbeat := fun _ hAt => by cases hAt

------------------------------------------------------------
-- Preservation
------------------------------------------------------------

variable {env : Env} {h o : List Obs} {s s' : State}

/- A handler step is justified by what the handler knows. -/
theorem HandlerStep.justified
    {c : ClientId}
    {event : HandlerEvent}
    (hInv : Provenance env h s)
    (hStep : HandlerStep env s c event s' o) :
    Justified env h o s s' := by
  have hKnown := hInv.handlers c
  have hSubset : h ⊆ h ++ o := List.subset_append_left h o
  cases hStep with
  | idle hRunning hBefore hAfter hEvent =>
      exact
        { handlers := update_eq_or (HandlerOk.of_isIdle hAfter) }
  | parsed hAt =>
      exact
        { history := by simp [ObsOk]
          handlers := update_eq_or (by simp [HandlerOk]) }
  | notifying hAt hId =>
      have hNoAnswer := jsonRpcId_eq_none_of_getId hId
      exact { handlers := update_eq_or hNoAnswer }
  | @allocated action trimmed sent msg originalId next
      hAt hHook hId hNext =>
      rw [hAt] at hKnown
      have hLine : .line c sent ∈ h := hKnown
      have hRequested :
          Requested
            (h ++ [.request c sent action msg originalId
              s.allocated s.nextId])
            c s.allocated s.nextId originalId msg :=
        ⟨sent, action, by simp⟩
      refine
        { history := ?_
          nextId := ?_
          allocated := Nat.le_succ _
          handlers := update_eq_or ?_ }
      · exact List.forall_mem_singleton.mpr
          ⟨hSubset hLine, hHook, hId,
            Nat.lt_succ_self _, hInv.nextId⟩
      · intro hNextId
        simp only [hNextId, idOf_succ]
      · rcases hNext with rfl | ⟨forwarded, hText, rfl⟩
        · trivial
        · exact ⟨msg, hRequested, rfl, hText⟩
  | hookReplied hAt hSend =>
      exact
        { history := by simp [ObsOk]
          handlers := update_eq_or trivial }
  | @registered seq id originalId remapped forwarded
      hAt hLock hRoom =>
      rw [hAt] at hKnown
      rcases hKnown with ⟨msg, hReq, hValue⟩
      refine
        { history := by simp [ObsOk]
          handlers := update_eq_or
            ⟨originalId, msg, hReq.mono hSubset, hValue⟩
          entries := ?_ }
      intro key pending hEntry
      rcases PendingMap.lookup_insert_some hEntry with
        ⟨rfl, rfl⟩ | ⟨hOther, hOld⟩
      · exact Or.inr ⟨msg, hReq.mono hSubset⟩
      · exact Or.inl hOld
  | @refusedSent seq id originalId remapped forwarded channel
      hAt hLock hFull hSend =>
      rw [hAt] at hKnown
      rcases hKnown with ⟨msg, hReq, hValue⟩
      refine
        { history := ?_
          handlers := update_eq_or trivial }
      simp only [List.mem_cons, List.not_mem_nil, or_false]
      rintro x (rfl | rfl)
      · trivial
      · exact ⟨id, originalId, msg, hReq.mono hSubset, rfl⟩
  | refusedClosed hAt hLock hFull hClosed =>
      exact
        { history := by simp [ObsOk]
          handlers := update_eq_or trivial }
  | @refusedBlocked seq id originalId remapped forwarded
      hAt hLock hFull hBlocks =>
      rw [hAt] at hKnown
      rcases hKnown with ⟨msg, hReq, hValue⟩
      exact
        { history := by simp [ObsOk]
          handlers := update_eq_or
            ⟨id, originalId, msg, hReq.mono hSubset, rfl⟩ }
  | @refusalSent seq error channel hAt hSend =>
      rw [hAt] at hKnown
      rcases hKnown with ⟨id, originalId, msg, hReq, hText⟩
      exact
        { history := List.forall_mem_singleton.mpr
            ⟨id, originalId, msg, hReq.mono hSubset, hText⟩
          handlers := update_eq_or trivial }
  | refusalClosed hAt hClosed =>
      exact { handlers := update_eq_or trivial }
  | @requestQueued seq id remapped forwarded channel
      hAt hSend =>
      rw [hAt] at hKnown
      rcases hKnown with ⟨originalId, msg, hReq, hValue⟩
      have hMessage :
          MessageOk env
            (h ++ [.queued
              ⟨forwarded, remapped, .request c seq⟩])
            ⟨forwarded, remapped, .request c seq⟩ :=
        ⟨id, originalId, msg, hReq.mono hSubset, hValue⟩
      exact
        { history := List.forall_mem_singleton.mpr hMessage
          handlers := update_eq_or trivial
          queue := fun m hMem =>
            (Channel.mem_queue_of_sent hSend hMem).imp_right
              fun hNew => by rwa [hNew] }
  | requestFailed hAt hClosed =>
      rw [hAt] at hKnown
      rcases hKnown with ⟨originalId, msg, hReq, hValue⟩
      exact
        { handlers := update_eq_or
            ⟨originalId, msg, hReq.mono hSubset⟩ }
  | @notificationQueued msg forwarded channel hAt hSend =>
      rw [hAt] at hKnown
      have hMessage :
          MessageOk env
            (h ++ [.queued ⟨forwarded, msg, .notification c⟩])
            ⟨forwarded, msg, .notification c⟩ :=
        hKnown
      exact
        { history := List.forall_mem_singleton.mpr hMessage
          handlers := update_eq_or trivial
          queue := fun m hMem =>
            (Channel.mem_queue_of_sent hSend hMem).imp_right
              fun hNew => by rwa [hNew] }
  | unregistered hAt hLock =>
      exact
        { history := by simp [ObsOk]
          handlers := update_eq_or trivial
          entries := fun key pending hEntry =>
            Or.inl (PendingMap.lookup_erase_some hEntry).2 }

/- A writer step changes nothing that has to be justified. -/
theorem WriterStep.justified
    {c : ClientId}
    {event : WriterEvent}
    (hStep : WriterStep s c event s' o) :
    Justified env h o s s' := by
  cases hStep with
  | received hAt hRecv => exact { }
  | lagged hAt hLag => exact { }
  | eventRead hAt hEvent =>
      exact { history := by simp [ObsOk] }
  | wrote hAt => exact { history := by simp [ObsOk] }
  | ended hAt => exact { }

/- A heartbeat carries the id that its step drew. -/
theorem HeartbeatStep.justified
    {event : HeartbeatEvent}
    (hInv : Provenance env h s)
    (hStep : HeartbeatStep s event s' o) :
    Justified env h o s s' := by
  have hSubset : h ⊆ h ++ o := List.subset_append_left h o
  cases hStep with
  | slept hAt => exact { }
  | checked hAt hDone =>
      exact { heartbeat := fun m hSending => by cases hSending }
  | allocated hAt =>
      refine
        { history := List.forall_mem_singleton.mpr
            (Nat.lt_succ_self _)
          nextId := ?_
          allocated := Nat.le_succ _
          heartbeat := ?_ }
      · intro hNextId
        simp only [hNextId, idOf_succ]
      · intro m hSending
        cases hSending
        refine Or.inr ⟨by simp, ?_⟩
        rw [hInv.nextId]
  | @queued message channel hAt hSend =>
      have hMessage :=
        (hInv.heartbeat message hAt).mono hSubset
      exact
        { history := List.forall_mem_singleton.mpr hMessage
          heartbeat := fun m hSending => by cases hSending
          queue := fun m hMem =>
            (Channel.mem_queue_of_sent hSend hMem).imp_right
              fun hNew => by rwa [hNew] }
  | ended hAt =>
      exact { heartbeat := fun m hSending => by cases hSending }

/- The upstream task answers entries and moves messages. -/
theorem UpstreamStep.justified
    {event : UpstreamEvent}
    (hInv : Provenance env h s)
    (hStep : UpstreamStep env s event s' o) :
    Justified env h o s s' := by
  have hSubset : h ⊆ h ++ o := List.subset_append_left h o
  cases hStep with
  | started hAt =>
      exact
        { upstream := fun conn m hWriting => by cases hWriting
          heartbeat := fun m hSending => by cases hSending }
  | connected hAt =>
      exact
        { upstream := fun conn m hWriting => by cases hWriting }
  | reset hAt =>
      exact
        { upstream := fun conn m hWriting => by cases hWriting }
  | locked hAt hLock =>
      exact
        { upstream := fun conn m hWriting => by cases hWriting }
  | @drainSent key pending channel hAt hEntry hSend =>
      rcases hInv.entries key pending hEntry with ⟨msg, hReq⟩
      refine
        { history := ?_
          entries := fun key pending hFound =>
            Or.inl (PendingMap.lookup_erase_some hFound).2 }
      simp only [List.mem_cons, List.not_mem_nil, or_false]
      rintro x (rfl | rfl)
      · trivial
      · exact ⟨key, pending.originalId, msg,
          hReq.mono hSubset, rfl⟩
  | drainLost hAt hEntry hRefused =>
      exact
        { history := by simp [ObsOk]
          entries := fun key pending hFound =>
            Or.inl (PendingMap.lookup_erase_some hFound).2 }
  | unlocked hAt hEmpty =>
      exact
        { upstream := fun conn m hWriting => by cases hWriting }
  | spawned hAt =>
      exact
        { readers := update_eq_or trivial
          upstream := fun conn m hWriting => by cases hWriting }
  | @took conn message channel hAt hRecv =>
      have hMem := Channel.received_mem_queue hRecv
      have hMessage := (hInv.queue message hMem).mono hSubset
      refine
        { history := List.forall_mem_singleton.mpr hMessage
          queue := fun m hWaiting =>
            Or.inl (Channel.mem_queue_of_recv hRecv hWaiting)
          upstream := ?_ }
      intro conn' m hWriting
      cases hWriting
      exact Or.inr hMessage
  | stopped hAt =>
      exact
        { queue := fun m hMem => by cases hMem
          upstream := fun conn m hWriting => by cases hWriting }
  | @wrote conn message hAt =>
      have hMessage :=
        (hInv.upstream conn message hAt).mono hSubset
      exact
        { history := List.forall_mem_singleton.mpr hMessage
          upstream := fun conn m hWriting => by cases hWriting }
  | @lost conn message hAt =>
      have hMessage :=
        (hInv.upstream conn message hAt).mono hSubset
      exact
        { history := List.forall_mem_singleton.mpr hMessage
          upstream := fun conn m hWriting => by cases hWriting }
  | readerDead hAt hOver =>
      exact
        { upstream := fun conn m hWriting => by cases hWriting }

/- A reader answers with the entry of the id it received. -/
theorem ReaderStep.justified
    {conn : ConnId}
    {event : ReaderEvent}
    (hInv : Provenance env h s)
    (hStep : ReaderStep env s conn event s' o) :
    Justified env h o s s' := by
  have hKnown := hInv.readers conn
  have hSubset : h ⊆ h ++ o := List.subset_append_left h o
  cases hStep with
  | started hAt => exact { readers := update_eq_or trivial }
  | skipped hAt => exact { }
  | panicked hAt => exact { readers := update_eq_or trivial }
  | received hAt hTrim hText =>
      exact
        { history := by simp [ObsOk]
          readers := update_eq_or
            (readerOk_routeLine (by simp)) }
  | @hooked action trimmed hAt =>
      have hReceived : .received conn trimmed ∈ h := by
        rcases hAt with hAt | hAt
        · rw [hAt] at hKnown
          exact hKnown
        · rw [hAt] at hKnown
          exact hKnown
      refine { readers := update_eq_or ?_ }
      cases action with
      | block => trivial
      | _ => exact hSubset hReceived
  | @removed id msg trimmed pending hAt hLock hEntry =>
      rw [hAt] at hKnown
      have hAnswer :
          AnswerReceived env h conn trimmed id msg := hKnown
      rcases hInv.entries id pending hEntry with
        ⟨request, hReq⟩
      exact
        { history := by simp [ObsOk]
          readers := update_eq_or
            ⟨id, pending.originalId, request,
              hReq.mono hSubset,
              msg, hAnswer.mono hSubset, rfl⟩
          entries := fun key pending hFound =>
            Or.inl (PendingMap.lookup_erase_some hFound).2 }
  | @missed id msg trimmed hAt hLock hEntry =>
      rw [hAt] at hKnown
      have hAnswer :
          AnswerReceived env h conn trimmed id msg := hKnown
      exact
        { readers := update_eq_or (hSubset hAnswer.received) }
  | broadcast hAt =>
      rw [hAt] at hKnown
      exact
        { history :=
            List.forall_mem_singleton.mpr (hSubset hKnown)
          readers := update_eq_or trivial }
  | @delivered c seq trimmed text channel hAt hSend =>
      rw [hAt] at hKnown
      have hReply :
          ReplyOk env h (.reader conn trimmed) c seq text :=
        hKnown
      exact
        { history := List.forall_mem_singleton.mpr
            (hReply.mono hSubset)
          readers := update_eq_or trivial }
  | undelivered hAt hClosed =>
      exact
        { history := by simp [ObsOk]
          readers := update_eq_or trivial }
  | stopped hAt => exact { readers := update_eq_or trivial }

/- Every step of the proxy is justified. -/
theorem ProxyStep.justified
    {e : Event}
    (hInv : Provenance env h s)
    (hStep : ProxyStep env s e s' o) :
    Justified env h o s s' := by
  cases hStep with
  | notified => exact { }
  | accepted => exact { handlers := update_eq_or trivial }
  | client hTask => exact hTask.justified hInv
  | writer hTask => exact hTask.justified
  | heartbeat hTask => exact hTask.justified hInv
  | upstream hTask => exact hTask.justified hInv
  | reader hTask => exact hTask.justified hInv
  | hookSent hSend =>
      exact
        { history := List.forall_mem_singleton.mpr trivial
          queue := fun m hMem =>
            (Channel.mem_queue_of_sent hSend hMem).imp_right
              fun hNew => by rw [hNew]; trivial }
  | hookIgnored => exact { }

/- In every run the state agrees with the history. -/
theorem provenance_of_run
    {es : List Event}
    (hRun : (proxy env).Run es h s) :
    Provenance env h s :=
  Machine.run_invariant (provenance_init env)
    (fun _ _ _ _ _ hInv hStep =>
      hInv.advance ((step_cases hStep).justified hInv))
    hRun

------------------------------------------------------------
-- Consequences
------------------------------------------------------------

/- What is known of a request that drew an id. -/
theorem Provenance.requested
    (hInv : Provenance env h s)
    {c : ClientId}
    {seq : Nat}
    {id : UInt64}
    {originalId msg : Value}
    (hRequested : Requested h c seq id originalId msg) :
    getId msg = some originalId ∧ seq < s.allocated ∧
      id = idOf seq := by
  rcases hRequested with ⟨sent, action, hMem⟩
  exact (hInv.history _ hMem).2.2

/- The key of an entry is the id that its request drew. -/
theorem Provenance.entry_key
    (hInv : Provenance env h s)
    {key : UInt64}
    {entry : PendingRequest}
    (hEntry : s.pending.lookup key = some entry) :
    key = idOf entry.seq := by
  rcases hInv.entries key entry hEntry with ⟨msg, hReq⟩
  exact (hInv.requested hReq).2.2

end Control

end SeestarProxy
