import SeestarProxy.Control.CrossClient
import SeestarProxy.Control.Handshake

/-
  What a client gets is an answer to one of its requests.

  A client is written what waits on its response channel and
  the events that it has not read yet. Every reply on the
  channel belongs to a request of the client, while a line
  whose id is not pending is broadcast as it is. Heartbeats
  draw ids and are never pending, so their answers go this
  way. Only a broadcast that no client hears is harmless.

  Main declarations:
    * `answeredId`, `IdTransparent`, `HeartbeatsUnheard`
    * `Audience`, `Unread` and `BroadcastsUnheard`
    * `id_transparent`
-/

------------------------------------------------------------
-- Answers
------------------------------------------------------------

namespace SeestarProxy

namespace Control

open Library Protocol

/- The number that a message has as its `id`. -/
def numericId (msg : Value) : Option Number :=
  match msg.get "id" with
  | some (.number n) => some n
  | _ => none

/- The numeric id of a text that is no event. -/
def answeredId (env : Env) (text : String) : Option Number :=
  match env.serde.fromStr text with
  | some msg =>
      if isEvent msg = true then none else numericId msg
  | none => none

/-
  Every text with a numeric id and no `Event` member that a
  client gets is the reply to a request of this client.
-/
def IdTransparent (env : Env) (h : List Obs) : Prop :=
  ∀ c text, .delivered c text ∈ h →
    answeredId env text ≠ none →
      ∃ source seq, ReplyOk env h source c seq text

/- No answer to a heartbeat reaches a client. -/
def HeartbeatsUnheard (env : Env) (h : List Obs) : Prop :=
  ∀ seq conn trimmed, .heartbeat seq ∈ h →
    answeredId env trimmed = some (.posInt (idOf seq)) →
      ∀ c, .eventRead c conn trimmed ∉ h ∧
        ∀ seq' text,
          .reply (.reader conn trimmed) c seq' text ∉ h

/- An answer with the numeric id arrives. -/
def Obs.givesAnswer
    (env : Env)
    (conn : ConnId)
    (n : Number) : Obs → Bool
| .received conn' trimmed =>
    decide (conn' = conn) &&
      decide (answeredId env trimmed = some n)
| _ => false

/- A line with the numeric id is written. -/
def Obs.givesId (conn : ConnId) (n : Number) : Obs → Bool
| .written conn' m =>
    decide (conn' = conn) &&
      decide (numericId m.value = some n)
| _ => false

/-
  The telescope answers each id it received at most once, on
  the connection on which it received it.
-/
def TelescopeOnce (env : Env) (h : List Obs) : Prop :=
  ∀ before, before <+: h → ∀ conn n,
    before.countP (Obs.givesAnswer env conn n) ≤
      before.countP (Obs.givesId conn n)

------------------------------------------------------------
-- Who Hears a Broadcast
------------------------------------------------------------

/- Some client has a writer at work. -/
def State.Audience (s : State) : Prop :=
  ∃ c < s.clients, (s.writer c).IsLive

instance (s : State) : Decidable s.Audience := by
  unfold State.Audience
  infer_instance

/- An event that the writer of the client has yet to read. -/
def State.Unread
    (s : State)
    (c : ClientId)
    (conn : ConnId)
    (text : String) : Prop :=
  (s.writer c).IsLive ∧
    ∃ i, s.eventRx c ≤ i ∧
      s.events[i]? = some (conn, text)

/-
  An answer that the reader is about to broadcast, since its
  id is not pending, is heard by no client.
-/
def BroadcastsUnheard (env : Env) (s : State) : Event → Prop
| .reader conn .broadcast =>
    match s.reader conn with
    | .broadcasting trimmed =>
        answeredId env trimmed = none ∨ ¬ s.Audience
    | _ => True
| _ => True

instance (env : Env) (s : State) (e : Event) :
    Decidable (BroadcastsUnheard env s e) := by
  unfold BroadcastsUnheard
  split
  · split <;> infer_instance
  · infer_instance

variable {env : Env} {h o : List Obs} {s s' : State}
variable {e : Event} {c : ClientId}

------------------------------------------------------------
-- What Reaches a Client
------------------------------------------------------------

/-
  What waits for a client waited before, or the step put it
  on the client's channel.
-/
private theorem response_cases
    {text : String}
    (hStep : ProxyStep env s e s' o)
    (hMem : text ∈ (s'.responseTx c).queue) :
    text ∈ (s.responseTx c).queue ∨
      (∃ source seq, .reply source c seq text ∈ o) ∨
        .hookReply c text ∈ o := by
  -- A send touches one channel only.
  have hSent
      {c' : ClientId}
      {sent : String}
      {channel : Channel String 64}
      (hSend : (s.responseTx c').trySend sent =
        .sent channel)
      (hMem : text ∈
        (Function.update s.responseTx c' channel c).queue) :
      text ∈ (s.responseTx c).queue ∨
        c = c' ∧ text = sent := by
    by_cases hClient : c = c'
    · subst hClient
      rw [Function.update_self] at hMem
      rcases Channel.mem_queue_of_sent hSend hMem with
        hOld | hNew
      · exact Or.inl hOld
      · exact Or.inr ⟨rfl, hNew⟩
    · rw [Function.update_of_ne hClient] at hMem
      exact Or.inl hMem
  cases hStep with
  | accepted =>
      by_cases hClient : c = s.clients
      · subst hClient
        simp [acceptClient] at hMem
      · simp only [acceptClient,
          Function.update_of_ne hClient] at hMem
        exact Or.inl hMem
  | client hTask =>
      cases hTask with
      | hookReplied hAt hSend =>
          rcases hSent hSend hMem with hOld | ⟨rfl, rfl⟩
          · exact Or.inl hOld
          · exact Or.inr (Or.inr List.mem_cons_self)
      | refusedSent hAt hLock hFull hSend =>
          rcases hSent hSend hMem with hOld | ⟨rfl, rfl⟩
          · exact Or.inl hOld
          · exact Or.inr (Or.inl ⟨_, _,
              List.mem_cons_of_mem _ List.mem_cons_self⟩)
      | refusalSent hAt hSend =>
          rcases hSent hSend hMem with hOld | ⟨rfl, rfl⟩
          · exact Or.inl hOld
          · exact Or.inr (Or.inl ⟨_, _, List.mem_cons_self⟩)
      | _ => exact Or.inl hMem
  | @writer c' event s' o hTask =>
      cases hTask with
      | received hAt hRecv =>
          by_cases hClient : c = c'
          · subst hClient
            simp only [Function.update_self] at hMem
            exact Or.inl
              (Channel.mem_queue_of_recv hRecv hMem)
          · simp only [Function.update_of_ne hClient] at hMem
            exact Or.inl hMem
      | ended hAt =>
          by_cases hClient : c = c'
          · subst hClient
            simp at hMem
          · simp only [Function.update_of_ne hClient] at hMem
            exact Or.inl hMem
      | _ => exact Or.inl hMem
  | heartbeat hTask => cases hTask <;> exact Or.inl hMem
  | upstream hTask =>
      cases hTask with
      | drainSent hAt hEntry hSend =>
          rcases hSent hSend hMem with hOld | ⟨rfl, rfl⟩
          · exact Or.inl hOld
          · exact Or.inr (Or.inl ⟨_, _,
              List.mem_cons_of_mem _ List.mem_cons_self⟩)
      | _ => exact Or.inl hMem
  | reader hTask =>
      cases hTask with
      | delivered hAt hSend =>
          rcases hSent hSend hMem with hOld | ⟨rfl, rfl⟩
          · exact Or.inl hOld
          · exact Or.inr (Or.inl ⟨_, _, List.mem_cons_self⟩)
      | _ => exact Or.inl hMem
  | _ => exact Or.inl hMem

/- What a writer writes came from its channel or an event. -/
private theorem writing_cases
    {text : String}
    (hStep : ProxyStep env s e s' o)
    (hAt' : s'.writer c = .writing text) :
    s.writer c = .writing text ∨
      text ∈ (s.responseTx c).queue ∨
        ∃ conn, .eventRead c conn text ∈ o := by
  by_cases hAccept : e = .accept
  · subst hAccept
    cases hStep with
    | accepted =>
        by_cases hClient : c = s.clients
        · subst hClient
          simp [acceptClient] at hAt'
        · simp only [acceptClient,
            Function.update_of_ne hClient] at hAt'
          exact Or.inl hAt'
  · by_cases hWriter : ∃ c event, e = .writer c event
    · rcases hWriter with ⟨c', event, rfl⟩
      cases hStep with
      | writer hTask =>
          by_cases hClient : c = c'
          · subst hClient
            cases hTask with
            | received hAt hRecv =>
                simp only [Function.update_self] at hAt'
                cases hAt'
                exact Or.inr (Or.inl
                  (Channel.received_mem_queue hRecv))
            | lagged hAt hLag => exact Or.inl hAt'
            | eventRead hAt hEvent =>
                simp only [Function.update_self] at hAt'
                cases hAt'
                exact Or.inr (Or.inr
                  ⟨_, List.mem_cons_self⟩)
            | wrote hAt => simp at hAt'
            | ended hAt => simp at hAt'
          · rw [hTask.writer_of_ne hClient] at hAt'
            exact Or.inl hAt'
    · have hSame := hStep.writer_same hAccept
        (fun c' event hEvent => hWriter ⟨c', event, hEvent⟩)
      rw [hSame.1] at hAt'
      exact Or.inl hAt'

/- Only what its writer holds is delivered to a client. -/
private theorem delivered_cases
    {text : String}
    (hStep : ProxyStep env s e s' o)
    (hMem : .delivered c text ∈ o) :
    s.writer c = .writing text := by
  cases hStep with
  | client hTask => cases hTask <;> simp at hMem
  | heartbeat hTask => cases hTask <;> simp at hMem
  | upstream hTask => cases hTask <;> simp at hMem
  | reader hTask => cases hTask <;> simp at hMem
  | writer hTask =>
      cases hTask with
      | wrote hAt =>
          simp only [List.mem_singleton,
            Obs.delivered.injEq] at hMem
          rcases hMem with ⟨rfl, rfl⟩
          exact hAt
      | _ => simp at hMem
  | _ => simp at hMem

------------------------------------------------------------
-- Unread Events
------------------------------------------------------------

/-
  An event that is still to be read was so before the step,
  or it is broadcast now and the client is listening.
-/
private theorem unread_cases
    {conn : ConnId}
    {text : String}
    (hStep : ProxyStep env s e s' o)
    (hUnread : s'.Unread c conn text) :
    s.Unread c conn text ∨
      (s.writer c).IsLive ∧ e = .reader conn .broadcast ∧
        s.reader conn = .broadcasting text := by
  rcases hUnread with ⟨hLive, i, hFrom, hEvent⟩
  cases hStep with
  | accepted =>
      by_cases hClient : c = s.clients
      · -- A new client starts after the last event.
        subst hClient
        simp only [acceptClient, Function.update_self]
          at hFrom hEvent
        rw [List.getElem?_eq_none hFrom] at hEvent
        cases hEvent
      · simp only [acceptClient,
          Function.update_of_ne hClient] at hLive hFrom
        exact Or.inl ⟨hLive, i, hFrom, hEvent⟩
  | @writer c' event s' o hTask =>
      by_cases hClient : c = c'
      · subst hClient
        have hBefore := hTask.isLive
        left
        cases hTask with
        | received hAt hRecv =>
            exact ⟨hBefore, i, hFrom, hEvent⟩
        | lagged hAt hLag =>
            simp only [Function.update_self] at hFrom
            exact ⟨hBefore, i, by omega, hEvent⟩
        | eventRead hAt hRead =>
            simp only [Function.update_self] at hFrom
            exact ⟨hBefore, i, by omega, hEvent⟩
        | wrote hAt => exact ⟨hBefore, i, hFrom, hEvent⟩
        | ended hAt => exact ⟨hBefore, i, hFrom, hEvent⟩
      · rw [hTask.writer_of_ne hClient] at hLive
        left
        refine ⟨hLive, i, ?_, ?_⟩
        · cases hTask <;>
            simpa only [Function.update_of_ne hClient]
              using hFrom
        · cases hTask <;> exact hEvent
  | client hTask =>
      cases hTask <;> exact Or.inl ⟨hLive, i, hFrom, hEvent⟩
  | heartbeat hTask =>
      cases hTask <;> exact Or.inl ⟨hLive, i, hFrom, hEvent⟩
  | upstream hTask =>
      cases hTask <;> exact Or.inl ⟨hLive, i, hFrom, hEvent⟩
  | reader hTask =>
      cases hTask with
      | broadcast hAt =>
          by_cases hOld : i < s.events.length
          · rw [List.getElem?_append_left hOld] at hEvent
            exact Or.inl ⟨hLive, i, hFrom, hEvent⟩
          · rw [List.getElem?_append_right
              (Nat.le_of_not_lt hOld)] at hEvent
            have hNew := List.mem_of_getElem? hEvent
            simp only [List.mem_singleton,
              Prod.mk.injEq] at hNew
            rcases hNew with ⟨rfl, rfl⟩
            exact Or.inr ⟨hLive, rfl, hAt⟩
      | _ => exact Or.inl ⟨hLive, i, hFrom, hEvent⟩
  | _ => exact Or.inl ⟨hLive, i, hFrom, hEvent⟩

/- An event that is read was unread. -/
private theorem unread_of_read
    {conn : ConnId}
    {text : String}
    (hStep : ProxyStep env s e s' o)
    (hMem : .eventRead c conn text ∈ o) :
    s.Unread c conn text := by
  cases hStep with
  | client hTask => cases hTask <;> simp at hMem
  | heartbeat hTask => cases hTask <;> simp at hMem
  | upstream hTask => cases hTask <;> simp at hMem
  | reader hTask => cases hTask <;> simp at hMem
  | writer hTask =>
      have hLive := hTask.isLive
      cases hTask with
      | eventRead hAt hEvent =>
          simp only [List.mem_singleton,
            Obs.eventRead.injEq] at hMem
          rcases hMem with ⟨rfl, rfl, rfl⟩
          exact ⟨hLive, _, Nat.le_refl _, hEvent⟩
      | _ => simp at hMem
  | _ => simp at hMem

------------------------------------------------------------
-- Without Hook Scripts
------------------------------------------------------------

/- A message that is forwarded is not answered by a hook. -/
private theorem forwardMessage_not_replying
    {sent msg : Value}
    {action : HookAction}
    {reply : String} :
    (forwardMessage env s c sent action msg).1.handler c ≠
      .replying reply := by
  unfold forwardMessage
  cases getId msg with
  | none =>
      cases env.serde.toStr msg <;> simp
  | some originalId =>
      cases hText :
          env.serde.toStr (setJsonRpcId msg s.nextId) <;>
        simp [hText]

/- Only a hook script makes a handler reply. -/
private theorem hooks_of_replying
    {event : HandlerEvent}
    {reply : String}
    (hStep : handleClient env s c event = some (s', o))
    (hAfter : s'.handler c = .replying reply) :
    s.handler c = .replying reply ∨ env.hooks = true := by
  unfold handleClient at hStep
  split at hStep
  case h_2 action trimmed sent hAt =>
    by_cases hHooks : env.hooks = true
    · exact Or.inr hHooks
    · have hAction : action = .forward := by
        by_contra hOther
        simp [hHooks, hOther] at hStep
      subst hAction
      simp only [ne_eq, not_true_eq_false, and_false,
        if_false, Option.some.injEq] at hStep
      have hForward :
          (forwardMessage env s c sent .forward sent).1 =
            s' := by
        rw [hStep]
      rw [← hForward] at hAfter
      exact absurd hAfter forwardMessage_not_replying
  -- The other events lead to the other program counters.
  all_goals
    try dsimp only at hStep
    repeat' split at hStep
  all_goals cases hStep
  all_goals
    first
      | exact Or.inl hAfter
      | simp at hAfter

/- Without hook scripts no handler replies itself. -/
private theorem not_replying_of_run
    {es : List Event}
    (hHooks : env.hooks = false)
    (hRun : (proxy env).Run es h s) :
    ∀ c reply, s.handler c ≠ .replying reply := by
  refine Machine.run_invariant
    (motive := fun _ s =>
      ∀ c reply, s.handler c ≠ .replying reply)
    (fun _ _ hAt => by cases hAt) ?_ hRun
  intro h s e s' o hInv hNext c reply hAfter
  rcases (step_cases hNext).handler_cases c with
    hSame | hNew | ⟨event, rfl, hTask⟩
  · rw [hSame] at hAfter
    exact hInv c reply hAfter
  · rw [hNew] at hAfter
    cases hAfter
  · rcases hooks_of_replying hNext hAfter with
      hBefore | hSome
    · exact hInv c reply hBefore
    · rw [hHooks] at hSome
      cases hSome

/- A hook's reply was with the handler before. -/
private theorem hookReply_cases
    {text : String}
    (hStep : ProxyStep env s e s' o)
    (hMem : .hookReply c text ∈ o) :
    s.handler c = .replying text := by
  cases hStep with
  | writer hTask => cases hTask <;> simp at hMem
  | heartbeat hTask => cases hTask <;> simp at hMem
  | upstream hTask => cases hTask <;> simp at hMem
  | reader hTask => cases hTask <;> simp at hMem
  | client hTask =>
      cases hTask with
      | hookReplied hAt hSend =>
          simp only [List.mem_singleton,
            Obs.hookReply.injEq] at hMem
          rcases hMem with ⟨rfl, rfl⟩
          exact hAt
      | _ => simp at hMem
  | _ => simp at hMem

------------------------------------------------------------
-- Transparency
------------------------------------------------------------

/- The text is no answer, or it replies to the client. -/
private def Heard
    (env : Env)
    (h : List Obs)
    (c : ClientId)
    (text : String) : Prop :=
  answeredId env text ≠ none →
    ∃ source seq, ReplyOk env h source c seq text

private theorem Heard.mono
    {h' : List Obs}
    {text : String}
    (hSubset : h ⊆ h')
    (hHeard : Heard env h c text) :
    Heard env h' c text := by
  intro hId
  rcases hHeard hId with ⟨source, seq, hReply⟩
  exact ⟨source, seq, hReply.mono hSubset⟩

/-
  Everything on its way to a client is heard by the right
  one, and the events it has still to read are no answers.
-/
private structure Transparent
    (env : Env)
    (h : List Obs)
    (s : State) : Prop where
  responses : ∀ c, ∀ text ∈ (s.responseTx c).queue,
    Heard env h c text
  writing : ∀ c text, s.writer c = .writing text →
    Heard env h c text
  delivered : ∀ c text, .delivered c text ∈ h →
    Heard env h c text
  unread : ∀ c conn text, s.Unread c conn text →
    answeredId env text = none
  read : ∀ c conn text, .eventRead c conn text ∈ h →
    answeredId env text = none

private theorem transparent_step
    {es : List Event}
    (hHooks : env.hooks = false)
    (hRun : (proxy env).Run es h s)
    (hNext : (proxy env).step s e = some (s', o))
    (hUnheard : BroadcastsUnheard env s e)
    (hInv : Transparent env h s) :
    Transparent env (h ++ o) s' := by
  have hStep := step_cases hNext
  have hSubset : h ⊆ h ++ o := List.subset_append_left h o
  have hReplies : ∀ x ∈ o, ObsOk env (h ++ o) s'.allocated x :=
    (hStep.justified (provenance_of_run hRun)).history
  have hRead : ∀ c conn text, .eventRead c conn text ∈ o →
      answeredId env text = none := by
    intro c conn text hMem
    exact hInv.unread c conn text (unread_of_read hStep hMem)
  refine
    { responses := ?_
      writing := ?_
      delivered := ?_
      unread := ?_
      read := ?_ }
  · intro c text hMem
    rcases response_cases hStep hMem with
      hOld | ⟨source, seq, hReply⟩ | hHook
    · exact (hInv.responses c text hOld).mono hSubset
    · intro _
      exact ⟨source, seq, hReplies _ hReply⟩
    · exact absurd (hookReply_cases hStep hHook)
        (not_replying_of_run hHooks hRun c text)
  · intro c text hAt
    rcases writing_cases hStep hAt with
      hOld | hWaits | ⟨conn, hEvent⟩
    · exact (hInv.writing c text hOld).mono hSubset
    · exact (hInv.responses c text hWaits).mono hSubset
    · intro hId
      exact absurd (hRead c conn text hEvent) hId
  · intro c text hMem
    rcases List.mem_append.mp hMem with hOld | hNew
    · exact (hInv.delivered c text hOld).mono hSubset
    · exact (hInv.writing c text
        (delivered_cases hStep hNew)).mono hSubset
  · intro c conn text hUnread
    rcases unread_cases hStep hUnread with
      hOld | ⟨hLive, rfl, hAt⟩
    · exact hInv.unread c conn text hOld
    · -- The broadcast has an audience: the client itself.
      simp only [BroadcastsUnheard, hAt] at hUnheard
      rcases hUnheard with hNone | hNobody
      · exact hNone
      · refine absurd ⟨c, ?_, hLive⟩ hNobody
        by_contra hNew
        rw [writer_absent_of_run hRun c
          (Nat.le_of_not_lt hNew)] at hLive
        exact hLive
  · intro c conn text hMem
    rcases List.mem_append.mp hMem with hOld | hNew
    · exact hInv.read c conn text hOld
    · exact hRead c conn text hNew

/- A reply that a reader sent has the id of a request. -/
private theorem not_reply_of_heartbeat
    {es : List Event}
    {seq seq' : Nat}
    {conn : ConnId}
    {trimmed text : String}
    (hRun : (proxy env).Run es h s)
    (hIds : s.allocated ≤ 2 ^ 64)
    (hBeat : .heartbeat seq ∈ h)
    (hAnswer : answeredId env trimmed =
      some (.posInt (idOf seq))) :
    .reply (.reader conn trimmed) c seq' text ∉ h := by
  intro hReply
  have hInv := provenance_of_run hRun
  rcases hInv.history _ hReply with
    ⟨id, originalId, msg, hReq, answer, hReceived, -⟩
  have hDrawn := hInv.requested hReq
  have hLt : seq < s.allocated := hInv.history _ hBeat
  -- Both ids are that of the answer, so the draws agree.
  have hId : id = idOf seq := by
    have hHas := hReceived.hasId
    simp only [answeredId, hReceived.parsed,
      hReceived.noEvent, numericId] at hAnswer
    unfold jsonRpcId at hHas
    cases hGet : answer.get "id" with
    | none => simp [hGet] at hHas
    | some v =>
        cases v with
        | number n =>
            simp only [hGet, Bool.false_eq_true, if_false,
              Option.some.injEq] at hAnswer
            simp [hGet, hAnswer, Value.asU64] at hHas
            exact hHas.symm
        | _ => simp [hGet, Value.asU64] at hHas
  have hSeq : seq' = seq := by
    apply idOf_inj (by omega) (by omega)
    rw [← hDrawn.2.2, hId]
  subst hSeq
  rcases hReq with ⟨sent, action, hMem⟩
  cases draw_unique hRun hBeat hMem rfl rfl

/-
  Without hook scripts, in every run that broadcasts no
  answer to an audience, each answer that a client gets is
  the reply to a request of this client, and while the
  counter has not wrapped no answer to a heartbeat reaches
  any client.
-/
theorem id_transparent
    {es : List Event}
    (hHooks : env.hooks = false)
    (hRun : (proxy env).Run es h s)
    (hMeets : (proxy env).Meets (BroadcastsUnheard env)
      (proxy env).init es) :
    IdTransparent env h ∧
      (s.allocated ≤ 2 ^ 64 → HeartbeatsUnheard env h) := by
  have hInv : Transparent env h s := by
    refine Machine.guarded_induction
      (motive := fun _ h s => Transparent env h s)
      ?_ ?_ hRun hMeets
    · exact
        { responses := nofun
          writing := nofun
          delivered := nofun
          unread := fun _ _ _ hUnread => hUnread.1.elim
          read := nofun }
    · intro es h s e s' o hBefore ih hUnheard hNext
      exact transparent_step hHooks hBefore hNext hUnheard ih
  refine ⟨hInv.delivered, ?_⟩
  intro hIds seq conn trimmed hBeat hAnswer c
  refine ⟨?_, fun seq' text =>
    not_reply_of_heartbeat hRun hIds hBeat hAnswer⟩
  intro hRead
  rw [hInv.read c conn trimmed hRead] at hAnswer
  cases hAnswer

/- A request id that a client picked itself. -/
def ownId : Value := .number (.posInt 7)

/- Surroundings that know the client's own messages. -/
def ownEnv : Env :=
  { parkEnv with
    serde := Serde.knowing
      [parkRequest ownId, parkAnswer ownId,
        parkAnswer (.number (.posInt firstId))] }

/- A client's request is answered and the reply written. -/
def ownSession : List Event :=
  [.notify, .accept, .upstream .start] ++
    connectUpstream ++
    [.client 0 (.line (lineOf (parkRequest ownId))),
      .client 0 (.onRequest .forward),
      .client 0 .register, .client 0 .sendUpstream] ++
    writeNext ++
    [.reader 0 .start, .reader 0 (.line parkReply),
      .reader 0 .remove, .reader 0 .deliver,
      .writer 0 .recvResponse, .writer 0 (.write true)]

theorem id_transparent_ownSession :
    (Obs.delivered 0 (lineOf (parkAnswer ownId)) ∈
        ((proxy ownEnv).outcome ownSession).2 ∧
      answeredId ownEnv (lineOf (parkAnswer ownId)) =
        some (.posInt 7)) ∧
    IdTransparent ownEnv
        ((proxy ownEnv).outcome ownSession).2 ∧
      (((proxy ownEnv).outcome ownSession).1.allocated ≤
          2 ^ 64 →
        HeartbeatsUnheard ownEnv
          ((proxy ownEnv).outcome ownSession).2) :=
  ⟨⟨by decide +kernel, by decide +kernel⟩,
    id_transparent rfl
      (Machine.run_outcome (by decide +kernel))
      (by decide +kernel)⟩

/- The answer to a heartbeat is written to a client. -/
def beatAnswered : List Event :=
  greeted ++ writeNext ++
    [.reader 0 (.line parkReply), .reader 0 .remove,
      .reader 0 (.hook .forward), .reader 0 .broadcast,
      .writer 0 .recvEvent, .writer 0 (.write true)]

/- The connection and the numeric id of an answer. -/
def Obs.answerKey?
    (env : Env) : Obs → Option (ConnId × Number)
| .received conn trimmed =>
    (answeredId env trimmed).map fun n => (conn, n)
| _ => none

/- Only ids that were answered can break the rule. -/
theorem telescopeOnce_iff :
    TelescopeOnce env h ↔
      ∀ before ∈ h.inits,
        ∀ k ∈ h.filterMap (Obs.answerKey? env),
          before.countP (Obs.givesAnswer env k.1 k.2) ≤
            before.countP (Obs.givesId k.1 k.2) := by
  rw [← History.countP_le_iff_of_keys]
  · constructor
    · intro hOnce before hBefore k
      exact hOnce before hBefore k.1 k.2
    · intro hOnce before hBefore conn n
      exact hOnce before hBefore (conn, n)
  · intro x hx k hGives
    cases x with
    | received conn trimmed =>
        simp only [Obs.givesAnswer, Bool.and_eq_true,
          decide_eq_true_eq] at hGives
        rcases hGives with ⟨hConn, hId⟩
        refine List.mem_filterMap.mpr ⟨_, hx, ?_⟩
        simp [Obs.answerKey?, hId, hConn]
    | _ => cases hGives

/-
  The answer to the first heartbeat is written to a client
  that has sent no request at all.
-/
theorem heartbeat_answer_reached :
    ∃ h s, (proxy parkEnv).Run beatAnswered h s ∧
      parkEnv.hooks = false ∧ TelescopeOnce parkEnv h ∧
      ¬ IdTransparent parkEnv h ∧
      ¬ HeartbeatsUnheard parkEnv h := by
  refine ⟨_, _, Machine.run_outcome (by decide +kernel),
    rfl, ?_, ?_, ?_⟩
  · rw [telescopeOnce_iff]
    decide +kernel
  · intro hTransparent
    rcases hTransparent 0 parkReply (by decide +kernel)
      (by decide +kernel) with
      ⟨source, seq, id, originalId, msg, hReq, -⟩
    rcases hReq with ⟨sent, action, hMem⟩
    have hNone :
        ((proxy parkEnv).outcome beatAnswered).2.filterMap
          Obs.requestId? = [] := by
      decide +kernel
    have hId : id ∈
        ((proxy parkEnv).outcome beatAnswered).2.filterMap
          Obs.requestId? :=
      List.mem_filterMap.mpr ⟨_, hMem, rfl⟩
    rw [hNone] at hId
    cases hId
  · intro hUnheard
    exact (hUnheard 0 0 parkReply (by decide +kernel)
      (by decide +kernel) 0).1 (by decide +kernel)

end Control

end SeestarProxy
