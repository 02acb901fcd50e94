import SeestarProxy.Control.CrossClient
import SeestarProxy.Control.Entries
import SeestarProxy.Control.Routing

/-
  The ids of the requests that reach the telescope.

  A client line that is an object with an id is a request:
  its id is replaced by one from the counter. A line that is
  an array has no id of its own and goes on as it is, with
  the ids that the client chose. Without hooks and without
  such batches every id that reaches the telescope was drawn
  for its line, and none does so twice.

  Main declarations:
    * `IsRequest`, `requestsIn` and `requestIds`
    * `IdsAllocated` and `SingleRequests`
    * `Forwarded` and `forwards_of_run`
    * `ids_allocated` and `batch_ids_reached`
-/

------------------------------------------------------------
-- Requests of a Line
------------------------------------------------------------

namespace SeestarProxy

namespace Control

open Library Protocol

/- A request: an object with a method and an id. -/
def IsRequest (v : Value) : Prop :=
  methodName v ≠ none ∧ getId v ≠ none

instance (v : Value) : Decidable (IsRequest v) := by
  unfold IsRequest
  infer_instance

/- The requests of a line: the line itself, or its items. -/
def requestsIn : Value → List Value
| .array items => items.filter fun v => IsRequest v
| v => [v].filter fun v => IsRequest v

/- The messages that were written, in order. -/
def writtenMessages (h : List Obs) : List Message :=
  h.filterMap Obs.written?

/- The ids of all requests of the messages. -/
def requestIds (messages : List Message) :
    List (Option Value) :=
  messages.flatMap fun m =>
    (requestsIn m.value).map fun v => v.get "id"

/-
  The id of every request written to the telescope was
  drawn, and no two requests have the same id. The line that
  is written spells the message.
-/
structure IdsAllocated
    (env : Env)
    (h : List Obs) : Prop where
  drawn : ∀ id ∈ requestIds (writtenMessages h),
    ∃ seq ∈ h.filterMap Obs.draw?,
      id = some (.number (.posInt (idOf seq)))
  once : (requestIds (writtenMessages h)).Nodup
  spelled : ∀ m ∈ writtenMessages h,
    env.serde.toStr m.value = some m.line ∨
      ∃ id, m.line = heartbeatLine id ∧
        m.value = heartbeatValue id

/- The value is not an array with a request in it. -/
def NoBatch : Value → Prop
| .array items => ∀ v ∈ items, ¬ IsRequest v
| _ => True

instance : ∀ v, Decidable (NoBatch v)
| .array items =>
    inferInstanceAs (Decidable (∀ v ∈ items, ¬ IsRequest v))
| .null | .bool _ | .number _ | .string _ | .object _ =>
    isTrue trivial

/-
  No client sends a batch with a request, and the counter
  has not wrapped.
-/
def SingleRequests
    (env : Env)
    (s : State)
    (e : Event) : Prop :=
  s.allocated < 2 ^ 64 ∧
    match e with
    | .client _ (.line text) =>
        ∀ sent ∈ env.serde.fromStr (Text.trim text),
          NoBatch sent
    | _ => True

instance (env : Env) (s : State) :
    ∀ e, Decidable (SingleRequests env s e)
| .client _ (.line text) =>
    inferInstanceAs (Decidable
      (s.allocated < 2 ^ 64 ∧
        ∀ sent ∈ env.serde.fromStr (Text.trim text),
          NoBatch sent))
| .client _ (.onRequest _) | .client _ .sendReply
| .client _ .register | .client _ .sendRefusal
| .client _ .sendUpstream | .client _ .unregister
| .client _ .close | .client _ .readError
| .notify | .accept | .writer _ _ | .heartbeat _
| .upstream _ | .reader _ _ | .hookSend _ =>
    inferInstanceAs (Decidable (s.allocated < 2 ^ 64 ∧ True))

------------------------------------------------------------
-- What Is Forwarded
------------------------------------------------------------

variable {env : Env} {h o : List Obs} {s s' : State}
variable {e : Event} {es : List Event} {c : ClientId}

/- What a message stands for when there are no hooks. -/
def Forwarded
    (env : Env)
    (h : List Obs)
    (m : Message) : Prop :=
  match m.origin with
  | .request _ _ => True
  | .notification c =>
      .line c m.value ∈ h ∧ getId m.value = none ∧
        env.serde.toStr m.value = some m.line
  | .heartbeat seq => m.line = heartbeatLine (idOf seq)
  | .hook => False

/- What the tasks are about to forward. -/
structure Forwards
    (env : Env)
    (h : List Obs)
    (s : State) : Prop where
  handlers : ∀ c msg line,
    s.handler c = .forwarding msg line →
      Forwarded env h ⟨line, msg, .notification c⟩
  heartbeat : ∀ m, s.heartbeat = .sending m →
    Forwarded env h m
  queued : ∀ m, .queued m ∈ h → Forwarded env h m

theorem Forwarded.mono
    {h' : List Obs}
    {m : Message}
    (hSubset : h ⊆ h')
    (hMessage : Forwarded env h m) :
    Forwarded env h' m := by
  unfold Forwarded at hMessage ⊢
  split at hMessage
  · trivial
  · exact ⟨hSubset hMessage.1, hMessage.2⟩
  · exact hMessage
  · exact hMessage

/-
  Without hooks a notification is the line that the client
  sent.
-/
private theorem forwarding_of_request
    {action : HookAction}
    {trimmed line : String}
    {sent msg : Value}
    (hHooks : env.hooks = false)
    (hAt : s.handler c = .hooking trimmed sent)
    (hStep : handleClient env s c (.onRequest action) =
      some (s', o))
    (hNext : s'.handler c = .forwarding msg line) :
    msg = sent ∧ getId sent = none ∧
      env.serde.toStr sent = some line := by
  simp only [handleClient, hAt, hHooks, true_and] at hStep
  split at hStep
  · cases hStep
  · rename_i hForward
    rw [not_not.mp hForward] at hStep
    have hState : (forwardMessage env s c sent .forward
        sent).1 = s' :=
      congrArg Prod.fst (Option.some.inj hStep)
    rw [← hState] at hNext
    unfold forwardMessage at hNext
    cases hId : getId sent with
    | some originalId =>
        simp only [hId, Function.update_self] at hNext
        split at hNext <;> cases hNext
    | none =>
        simp only [hId, Function.update_self] at hNext
        cases hText : env.serde.toStr sent with
        | none =>
            rw [hText] at hNext
            cases hNext
        | some forwarded =>
            rw [hText] at hNext
            cases hNext
            exact ⟨rfl, rfl, rfl⟩

/- Where a notification that is about to be queued is from. -/
private theorem forwarding_cases
    {event : HandlerEvent}
    {d : ClientId}
    {msg : Value}
    {line : String}
    (hTask : HandlerStep env s c event s' o)
    (hNext : s'.handler d = .forwarding msg line) :
    s.handler d = .forwarding msg line ∨
      (d = c ∧ ∃ action trimmed sent,
        event = .onRequest action ∧
          s.handler c = .hooking trimmed sent) := by
  by_cases hOther : d = c
  · subst hOther
    right
    refine ⟨rfl, ?_⟩
    cases hTask with
    | @idle event next hRunning hBefore hAfter hEvent =>
        simp only [Function.update_self] at hNext
        rw [hNext] at hAfter
        cases hAfter
    | notifying hAt hId => exact ⟨_, _, _, rfl, hAt⟩
    | allocated hAt hHook hId hMoved =>
        exact ⟨_, _, _, rfl, hAt⟩
    | _ =>
        simp only [Function.update_self] at hNext
        cases hNext
  · left
    rw [← hTask.handler_of_ne hOther]
    exact hNext

/- What a step queues was about to be queued. -/
private theorem queued_forwarded
    {m : Message}
    (hHooks : env.hooks = false)
    (hForwards : Forwards env h s)
    (hStep : (proxy env).step s e = some (s', o))
    (hMem : .queued m ∈ o) :
    Forwarded env h m := by
  cases step_cases hStep with
  | client hTask =>
      cases hTask with
      | requestQueued hAt hSend =>
          cases List.mem_singleton.mp hMem
          trivial
      | notificationQueued hAt hSend =>
          cases List.mem_singleton.mp hMem
          exact hForwards.handlers _ _ _ hAt
      | _ => simp at hMem
  | heartbeat hTask =>
      cases hTask with
      | queued hAt hSend =>
          cases List.mem_singleton.mp hMem
          exact hForwards.heartbeat _ hAt
      | _ => simp at hMem
  | writer hTask => cases hTask <;> simp at hMem
  | upstream hTask => cases hTask <;> simp at hMem
  | reader hTask => cases hTask <;> simp at hMem
  | hookSent hSend =>
      simp only [proxy, step, hookSend, hHooks, if_true]
        at hStep
      cases hStep
  | _ => cases hMem

/- Without hooks all messages are those of the clients. -/
theorem forwards_of_run
    (hHooks : env.hooks = false)
    (hRun : (proxy env).Run es h s) :
    Forwards env h s := by
  refine Machine.run_induction
    (motive := fun _ h s => Forwards env h s)
    { handlers := fun _ _ _ hAt => by cases hAt
      heartbeat := fun _ hAt => by cases hAt
      queued := fun _ hMem => by cases hMem }
    ?_ hRun
  intro es h s e s' o hBefore hForwards hNext
  have hInv := provenance_of_run hBefore
  have hSubset : h ⊆ h ++ o := List.subset_append_left h o
  refine ⟨?_, ?_, ?_⟩
  · intro c msg line hAt
    have hSame (hHandler : s'.handler = s.handler) :
        Forwarded env (h ++ o)
          ⟨line, msg, .notification c⟩ := by
      rw [hHandler] at hAt
      exact (hForwards.handlers c msg line hAt).mono hSubset
    cases step_cases hNext with
    | @client d event s' o hTask =>
        rcases forwarding_cases hTask hAt with
          hOld | ⟨rfl, action, trimmed, sent, rfl, hHooking⟩
        · exact (hForwards.handlers c msg line hOld).mono
            hSubset
        · rcases forwarding_of_request hHooks hHooking hNext
            hAt with ⟨rfl, hId, hText⟩
          have hLine := hInv.handlers c
          rw [hHooking] at hLine
          exact ⟨hSubset hLine, hId, hText⟩
    | accepted =>
        simp only [acceptClient] at hAt
        by_cases hNew : c = s.clients
        · rw [hNew, Function.update_self] at hAt
          cases hAt
        · rw [Function.update_of_ne hNew] at hAt
          exact (hForwards.handlers c msg line hAt).mono
            hSubset
    | writer hTask =>
        apply hSame
        cases hTask <;> rfl
    | heartbeat hTask =>
        apply hSame
        cases hTask <;> rfl
    | upstream hTask =>
        apply hSame
        cases hTask <;> rfl
    | reader hTask =>
        apply hSame
        cases hTask <;> rfl
    | _ => exact hSame rfl
  · intro m hAt
    have hSame (hBeat : s'.heartbeat = s.heartbeat) :
        Forwarded env (h ++ o) m := by
      rw [hBeat] at hAt
      exact (hForwards.heartbeat m hAt).mono hSubset
    cases step_cases hNext with
    | heartbeat hTask =>
        cases hTask with
        | slept => exact hSame rfl
        | allocated =>
            cases hAt
            exact congrArg heartbeatLine hInv.nextId
        | _ => cases hAt
    | upstream hTask =>
        cases hTask with
        | started => cases hAt
        | _ => exact hSame rfl
    | client hTask =>
        apply hSame
        cases hTask <;> rfl
    | writer hTask =>
        apply hSame
        cases hTask <;> rfl
    | reader hTask =>
        apply hSame
        cases hTask <;> rfl
    | _ => exact hSame rfl
  · intro m hMem
    rcases List.mem_append.mp hMem with hOld | hNew
    · exact (hForwards.queued m hOld).mono hSubset
    · exact (queued_forwarded hHooks hForwards hNext
        hNew).mono hSubset

------------------------------------------------------------
-- Runs without Batches
------------------------------------------------------------

/- The line of a client is what its text spells. -/
private theorem sent_of_text
    {d : ClientId}
    {text : String}
    {sent : Value}
    (hStep : handleClient env s d (.line text) =
      some (s', o))
    (hMem : .line c sent ∈ o) :
    d = c ∧ env.serde.fromStr (Text.trim text) =
      some sent := by
  cases hAt : s.handler d with
  | reading =>
      simp only [handleClient, hAt] at hStep
      split at hStep
      · cases hStep
        cases hMem
      · split at hStep
        · split at hStep
          · cases hStep
            cases hMem
          · cases hStep
            cases hMem
        · rename_i found hParse
          cases hStep
          cases List.mem_singleton.mp hMem
          exact ⟨rfl, hParse⟩
  | _ =>
      simp only [handleClient, hAt] at hStep
      cases hStep

private theorem sent_of_line
    {sent : Value}
    (hStep : (proxy env).step s e = some (s', o))
    (hMem : .line c sent ∈ o) :
    ∃ text, e = .client c (.line text) ∧
      env.serde.fromStr (Text.trim text) = some sent := by
  cases e with
  | client d event =>
      cases event with
      | line text =>
          rcases sent_of_text hStep hMem with ⟨rfl, hText⟩
          exact ⟨text, rfl, hText⟩
      | _ => cases handleClient_cases hStep <;> simp at hMem
  | writer d event =>
      cases clientWriter_cases hStep <;> simp at hMem
  | heartbeat event =>
      cases heartbeatTask_cases hStep <;> simp at hMem
  | upstream event =>
      cases upstreamTask_cases hStep <;> simp at hMem
  | reader conn event =>
      cases upstreamReaderTask_cases hStep <;> simp at hMem
  | _ => cases step_cases hStep <;> simp at hMem

/- What is known of a run without batches. -/
private theorem single_of_run
    (hRun : (proxy env).Run es h s)
    (hMeets : (proxy env).Meets (SingleRequests env)
      (proxy env).init es) :
    s.allocated ≤ 2 ^ 64 ∧
      ∀ c sent, .line c sent ∈ h → NoBatch sent := by
  refine Machine.guarded_induction
    (motive := fun _ h s => s.allocated ≤ 2 ^ 64 ∧
      ∀ c sent, .line c sent ∈ h → NoBatch sent)
    ⟨Nat.zero_le _, nofun⟩ ?_ hRun hMeets
  intro es h s e s' o _ ih hCond hNext
  constructor
  · rcases (step_cases hNext).draws with
      ⟨-, hSame⟩ | ⟨-, hNew⟩
    · rw [hSame]
      exact ih.1
    · rw [hNew]
      exact hCond.1
  · intro c sent hMem
    rcases List.mem_append.mp hMem with hOld | hNew
    · exact ih.2 c sent hOld
    · rcases sent_of_line hNext hNew with ⟨text, rfl, hText⟩
      exact hCond.2 sent hText

/-
  A written message has no request in it, or is itself the
  request with the id that was drawn for it.
-/
private theorem carried_of_written
    {conn : ConnId}
    {m : Message}
    (hHooks : env.hooks = false)
    (hRun : (proxy env).Run es h s)
    (hLines : ∀ c sent, .line c sent ∈ h → NoBatch sent)
    (hMem : .written conn m ∈ h) :
    requestsIn m.value = [] ∨
      ∃ seq ∈ h.filterMap Obs.draw?, m.seq? = some seq ∧
        requestsIn m.value = [m.value] ∧
        m.value.get "id" =
          some (.number (.posInt (idOf seq))) := by
  have hInv := provenance_of_run hRun
  have hMessage : MessageOk env h m := hInv.history _ hMem
  have hQueued := (queuedFirst_of_run hRun).written conn m hMem
  have hForwarded :=
    (forwards_of_run hHooks hRun).queued m hQueued
  -- An object is its own request, or is none.
  have hObject {id : Value}
      (hId : m.value.get "id" = some id) :
      requestsIn m.value = [] ∨
        requestsIn m.value = [m.value] := by
    have hIs := Value.isObject_of_get_some hId
    cases hValue : m.value with
    | object members =>
        unfold requestsIn
        by_cases hRequest : IsRequest (.object members)
        · exact Or.inr (by simp [hRequest])
        · exact Or.inl (by simp [hRequest])
    | _ =>
        rw [hValue] at hIs
        cases hIs
  cases hOrigin : m.origin with
  | request c seq =>
      rw [MessageOk, hOrigin] at hMessage
      rcases hMessage with
        ⟨id, originalId, msg, hReq, hValue, -⟩
      have hDrawn := hInv.requested hReq
      rcases hReq with ⟨sent, action, hRequest⟩
      have hId : m.value.get "id" =
          some (.number (.posInt (idOf seq))) := by
        rw [hValue, ← hDrawn.2.2]
        exact (idReplaced_setJsonRpcId
          (isObject_of_getId hDrawn.1) id).newId
      rcases hObject hId with hNone | hSelf
      · exact Or.inl hNone
      · refine Or.inr ⟨seq, ?_, ?_, hSelf, hId⟩
        · exact List.mem_filterMap.mpr ⟨_, hRequest, rfl⟩
        · rw [Message.seq?, hOrigin]
  | heartbeat seq =>
      rw [MessageOk, hOrigin] at hMessage
      rcases hMessage with ⟨hBeat, hValue⟩
      have hId : m.value.get "id" =
          some (.number (.posInt (idOf seq))) := by
        rw [hValue]
        simp [heartbeatValue, Value.ofMembers, Value.get,
          Members.get_insert_of_ne]
      rcases hObject hId with hNone | hSelf
      · exact Or.inl hNone
      · refine Or.inr ⟨seq, ?_, ?_, hSelf, hId⟩
        · exact List.mem_filterMap.mpr ⟨_, hBeat, rfl⟩
        · rw [Message.seq?, hOrigin]
  | notification c =>
      left
      rw [Forwarded, hOrigin] at hForwarded
      rcases hForwarded with ⟨hLine, hNone, -⟩
      have hSingle := hLines c m.value hLine
      cases hValue : m.value with
      | array items =>
          rw [hValue] at hSingle
          have hItems : ∀ v ∈ items, ¬ IsRequest v := hSingle
          simpa [requestsIn] using hItems
      | _ =>
          rw [hValue] at hNone
          simp [requestsIn, IsRequest, hNone]
  | hook =>
      rw [Forwarded, hOrigin] at hForwarded
      exact absurd hForwarded id

/- Only the ids that were drawn for their lines are left. -/
private theorem requestIds_sublist
    {messages : List Message}
    (hCarried : ∀ m ∈ messages,
      requestsIn m.value = [] ∨
        ∃ seq, m.seq? = some seq ∧
          requestsIn m.value = [m.value] ∧
          m.value.get "id" =
            some (.number (.posInt (idOf seq)))) :
    List.Sublist (requestIds messages)
      ((messages.filterMap Message.seq?).map fun seq =>
        some (Value.number (.posInt (idOf seq)))) := by
  induction messages with
  | nil => exact List.Sublist.refl []
  | cons m messages ih =>
      have hRest := ih fun m' hMem =>
        hCarried m' (List.mem_cons_of_mem m hMem)
      have hSplit : requestIds (m :: messages) =
          (requestsIn m.value).map (fun v => v.get "id") ++
            requestIds messages := rfl
      rw [hSplit]
      rcases hCarried m List.mem_cons_self with
        hNone | ⟨seq, hSeq, hSelf, hId⟩
      · rw [hNone, List.map_nil, List.nil_append]
        refine hRest.trans (List.Sublist.map _ ?_)
        exact (List.sublist_cons_self m messages).filterMap _
      · rw [hSelf, List.map_singleton, hId,
          List.filterMap_cons_some hSeq, List.map_cons]
        exact List.Sublist.cons_cons _ hRest

/- What one function picks is also picked by another. -/
private theorem filterMap_sublist
    {α β : Type}
    {f g : α → Option β}
    (hPicks : ∀ x y, f x = some y → g x = some y)
    (xs : List α) :
    List.Sublist (xs.filterMap f) (xs.filterMap g) := by
  induction xs with
  | nil => exact List.Sublist.refl []
  | cons x xs ih =>
      cases hPick : f x with
      | none =>
          rw [List.filterMap_cons_none hPick]
          exact ih.trans
            ((List.sublist_cons_self x xs).filterMap g)
      | some y =>
          rw [List.filterMap_cons_some hPick,
            List.filterMap_cons_some (hPicks x y hPick)]
          exact List.Sublist.cons_cons y ih

/- The draws of written messages are counted lines. -/
private theorem written_counted (h : List Obs) :
    List.Sublist
      ((writtenMessages h).filterMap Message.seq?)
      (lines.counted h) := by
  rw [Ledger.counted_eq_filterMap, writtenMessages,
    List.filterMap_filterMap]
  apply filterMap_sublist
  intro x seq hSeq
  cases x with
  | written conn m =>
      have hMessage : m.seq? = some seq := hSeq
      simp [Ledger.countedKey, lines, lineMove, hMessage]
  | _ => cases hSeq

/- Each draw is written at most once. -/
private theorem nodup_written
    (hRun : (proxy env).Run es h s) :
    ((writtenMessages h).filterMap Message.seq?).Nodup ∧
      ∀ seq ∈ (writtenMessages h).filterMap Message.seq?,
        seq < s.allocated := by
  have hKept := (linesKept_of_run hRun).kept
  refine ⟨hKept.once.sublist (written_counted h), ?_⟩
  intro seq hMem
  rcases hKept.closed seq ((written_counted h).subset hMem)
    with ⟨place, hLast, -⟩
  exact hKept.issued seq place hLast

/- The line of a written message spells its value. -/
private theorem spelled_of_written
    {conn : ConnId}
    {m : Message}
    (hHooks : env.hooks = false)
    (hRun : (proxy env).Run es h s)
    (hMem : .written conn m ∈ h) :
    env.serde.toStr m.value = some m.line ∨
      ∃ id, m.line = heartbeatLine id ∧
        m.value = heartbeatValue id := by
  have hMessage : MessageOk env h m :=
    (provenance_of_run hRun).history _ hMem
  have hForwarded :=
    (forwards_of_run hHooks hRun).queued m
      ((queuedFirst_of_run hRun).written conn m hMem)
  cases hOrigin : m.origin with
  | request c seq =>
      rw [MessageOk, hOrigin] at hMessage
      rcases hMessage with ⟨id, originalId, msg, -, -, hText⟩
      exact Or.inl hText
  | heartbeat seq =>
      rw [MessageOk, hOrigin] at hMessage
      rw [Forwarded, hOrigin] at hForwarded
      exact Or.inr ⟨idOf seq, hForwarded, hMessage.2⟩
  | notification c =>
      rw [Forwarded, hOrigin] at hForwarded
      exact Or.inl hForwarded.2.2
  | hook =>
      rw [Forwarded, hOrigin] at hForwarded
      exact absurd hForwarded id

/- A written message is shown by the write of it. -/
private theorem written_of_mem
    {m : Message}
    (hMem : m ∈ writtenMessages h) :
    ∃ conn, .written conn m ∈ h := by
  rcases List.mem_filterMap.mp hMem with ⟨x, hx, hWritten⟩
  cases x with
  | written conn m' =>
      cases hWritten
      exact ⟨conn, hx⟩
  | _ => cases hWritten

/-
  In a run without hooks in which no client sends a batch
  with a request, the id of every request that reaches the
  telescope was drawn from the counter, and no two of them
  have the same id.
-/
theorem ids_allocated
    (env : Env)
    (es : List Event)
    (h : List Obs)
    (s : State)
    (hHooks : env.hooks = false)
    (hRun : (proxy env).Run es h s)
    (hMeets : (proxy env).Meets (SingleRequests env)
      (proxy env).init es) :
    IdsAllocated env h := by
  rcases single_of_run hRun hMeets with ⟨hIds, hLines⟩
  have hCarried : ∀ m ∈ writtenMessages h,
      requestsIn m.value = [] ∨
        ∃ seq ∈ h.filterMap Obs.draw?,
          m.seq? = some seq ∧
          requestsIn m.value = [m.value] ∧
          m.value.get "id" =
            some (.number (.posInt (idOf seq))) := by
    intro m hMem
    rcases written_of_mem hMem with ⟨conn, hWritten⟩
    exact carried_of_written hHooks hRun hLines hWritten
  refine ⟨?_, ?_, ?_⟩
  · intro id hMem
    rcases List.mem_flatMap.mp hMem with ⟨m, hm, hId⟩
    rcases List.mem_map.mp hId with ⟨v, hv, rfl⟩
    rcases hCarried m hm with
      hNone | ⟨seq, hDraw, -, hSelf, hGet⟩
    · rw [hNone] at hv
      cases hv
    · rw [hSelf] at hv
      rw [List.mem_singleton.mp hv]
      exact ⟨seq, hDraw, hGet⟩
  · have hEach : ∀ m ∈ writtenMessages h,
        requestsIn m.value = [] ∨
          ∃ seq, m.seq? = some seq ∧
            requestsIn m.value = [m.value] ∧
            m.value.get "id" =
              some (.number (.posInt (idOf seq))) := by
      intro m hMem
      rcases hCarried m hMem with
        hNone | ⟨seq, -, hSeq, hSelf, hId⟩
      · exact Or.inl hNone
      · exact Or.inr ⟨seq, hSeq, hSelf, hId⟩
    refine List.Nodup.sublist (requestIds_sublist hEach) ?_
    rcases nodup_written hRun with ⟨hNodup, hDrawn⟩
    refine hNodup.map_on ?_
    intro seq hSeq seq' hSeq' hSame
    have hLt := hDrawn seq hSeq
    have hLt' := hDrawn seq' hSeq'
    apply idOf_inj (by omega) (by omega)
    exact Number.posInt.inj
      (Value.number.inj (Option.some.inj hSame))
  · intro m hMem
    rcases written_of_mem hMem with ⟨conn, hWritten⟩
    exact spelled_of_written hHooks hRun hWritten

theorem ids_allocated_parkSession :
    requestIds (writtenMessages
        ((proxy parkEnv).outcome parkSession).2) =
        [some (.number (.posInt firstId))] ∧
      IdsAllocated parkEnv
        ((proxy parkEnv).outcome parkSession).2 :=
  ⟨by decide +kernel,
    ids_allocated parkEnv parkSession _ _ (by decide)
      (Machine.run_outcome (by decide +kernel))
      (by decide +kernel)⟩

/- A batch of one request, with an id of the client's own. -/
def parkBatch : Value :=
  .array [parkRequest (.number (.posInt 7))]

def batchEnv : Env :=
  { parkEnv with serde := Serde.knowing [parkBatch] }

/- A client sends the batch, which is written. -/
def sendBatch (c : ClientId) : List Event :=
  [.client c (.line (lineOf parkBatch)),
    .client c (.onRequest .forward),
    .client c .sendUpstream,
    .upstream .recv, .upstream (.write true)]

/- Two clients send the same batch. -/
def parkBatches : List Event :=
  [.notify, .accept, .accept, .upstream .start] ++
    connectUpstream ++ sendBatch 0 ++ sendBatch 1

/-
  The requests in the batches of two clients reach the
  telescope with the same id, which nothing has drawn.
-/
theorem batch_ids_reached :
    ∃ h s, (proxy batchEnv).Run parkBatches h s ∧
      s.allocated = 0 ∧
      requestIds (writtenMessages h) =
        [some (.number (.posInt 7)),
          some (.number (.posInt 7))] ∧
      ¬ IdsAllocated batchEnv h := by
  have hIds : requestIds (writtenMessages
      ((proxy batchEnv).outcome parkBatches).2) =
        [some (.number (.posInt 7)),
          some (.number (.posInt 7))] := by
    decide +kernel
  refine ⟨_, _, Machine.run_outcome (by decide +kernel),
    by decide +kernel, hIds, ?_⟩
  intro hAllocated
  have hOnce := hAllocated.once
  rw [hIds] at hOnce
  revert hOnce
  decide

end Control

end SeestarProxy
