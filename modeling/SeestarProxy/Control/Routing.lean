import SeestarProxy.Control.Replies

/-
  Routing of requests and replies.

  A reply that a client receives answers a request that this
  client sent, with the request's own id; the line forwarded
  for a request is the request with another id; and no
  request is answered twice. This holds in every run,
  whatever the order in which clients, telescope, heartbeat
  and reconnects take their steps.

  Main declarations:
    * `draws_eq_range`
    * `ReplyTo` and `requests_routed`
-/

------------------------------------------------------------
-- Draws
------------------------------------------------------------

namespace SeestarProxy

namespace Control

open Library Protocol

/- The draw that an observation records. -/
def Obs.draw? : Obs → Option Nat
| .request _ _ _ _ _ seq _ => some seq
| .heartbeat seq => some seq
| _ => none

/- The request that an observation records. -/
def Obs.requestSeq? : Obs → Option Nat
| .request _ _ _ _ _ seq _ => some seq
| _ => none

/- The request that an observation answers. -/
def Obs.replySeq? : Obs → Option Nat
| .reply _ _ seq _ => some seq
| _ => none

variable {env : Env} {h o : List Obs} {s s' : State}

/- A step draws the next number or none. -/
theorem ProxyStep.draws
    {e : Event}
    (hStep : ProxyStep env s e s' o) :
    (o.filterMap Obs.draw? = [] ∧
        s'.allocated = s.allocated) ∨
      (o.filterMap Obs.draw? = [s.allocated] ∧
        s'.allocated = s.allocated + 1) := by
  cases hStep with
  | client hTask =>
      cases hTask with
      | allocated => exact Or.inr ⟨rfl, rfl⟩
      | _ => exact Or.inl ⟨rfl, rfl⟩
  | writer hTask =>
      cases hTask <;> exact Or.inl ⟨rfl, rfl⟩
  | heartbeat hTask =>
      cases hTask with
      | allocated => exact Or.inr ⟨rfl, rfl⟩
      | _ => exact Or.inl ⟨rfl, rfl⟩
  | upstream hTask =>
      cases hTask <;> exact Or.inl ⟨rfl, rfl⟩
  | reader hTask =>
      cases hTask <;> exact Or.inl ⟨rfl, rfl⟩
  | _ => exact Or.inl ⟨rfl, rfl⟩

/- The draws of a run are counted up without a gap. -/
theorem draws_eq_range
    {es : List Event}
    (hRun : (proxy env).Run es h s) :
    h.filterMap Obs.draw? = List.range s.allocated := by
  refine Machine.run_induction
    (motive := fun _ h s =>
      h.filterMap Obs.draw? = List.range s.allocated)
    rfl ?_ hRun
  intro es h s e s' o _ hBefore hStep
  rw [List.filterMap_append, hBefore]
  rcases (step_cases hStep).draws with
    ⟨hNone, hSame⟩ | ⟨hDraw, hNext⟩
  · rw [hNone, hSame, List.append_nil]
  · rw [hDraw, hNext, List.range_succ]

/- No two observations record the same draw. -/
theorem draw_unique
    {es : List Event}
    (hRun : (proxy env).Run es h s)
    {x y : Obs}
    {seq : Nat}
    (hx : x ∈ h)
    (hy : y ∈ h)
    (hDrawX : x.draw? = some seq)
    (hDrawY : y.draw? = some seq) :
    x = y := by
  have hNodup : (h.filterMap Obs.draw?).Nodup := by
    rw [draws_eq_range hRun]
    exact List.nodup_range
  exact History.eq_of_nodup_filterMap hNodup hx hy hDrawX
    hDrawY

/- No two requests share a draw. -/
theorem requestSeqs_nodup
    {es : List Event}
    (hRun : (proxy env).Run es h s) :
    (h.filterMap Obs.requestSeq?).Nodup := by
  have hDraws : (h.filterMap Obs.draw?).Nodup := by
    rw [draws_eq_range hRun]
    exact List.nodup_range
  have hSublist :
      List.Sublist (h.filterMap Obs.requestSeq?)
        (h.filterMap Obs.draw?) := by
    clear hRun hDraws
    induction h with
    | nil => exact List.Sublist.refl []
    | cons x h ih =>
        cases x with
        | request c sent action msg originalId seq id =>
            exact ih.cons_cons seq
        | heartbeat seq => exact ih.cons seq
        | _ => exact ih
  exact hDraws.sublist hSublist

/- The counted moves of the reply ledger are the replies. -/
theorem counted_replies (h : List Obs) :
    replies.counted h = h.filterMap Obs.replySeq? := by
  induction h with
  | nil => rfl
  | cons x h ih =>
      have hCons : x :: h = [x] ++ h := rfl
      rw [hCons, Ledger.counted_append, ih,
        List.filterMap_append]
      cases x <;> rfl

------------------------------------------------------------
-- Replies and Forwarded Lines
------------------------------------------------------------

@[simp] theorem tooManyPending_id (originalId : Value) :
    (tooManyPending originalId).get "id" =
      some originalId := by
  simp [tooManyPending, Value.ofMembers, Value.get,
    Members.get_insert_of_ne]

@[simp] theorem telescopeReconnecting_id
    (originalId : Value) :
    (telescopeReconnecting originalId).get "id" =
      some originalId := by
  simp [telescopeReconnecting, Value.ofMembers, Value.get,
    Members.get_insert_of_ne]

/-
  The JSON value of a reply to a request that drew `id`: the
  error of its path, or the telescope's message for that id
  with only its `id` replaced.
-/
def ReplyTo
    (env : Env)
    (h : List Obs)
    (id : UInt64)
    (originalId : Value) :
    ReplySource → Value → Prop
| .overflow, reply => reply = tooManyPending originalId
| .drain, reply => reply = telescopeReconnecting originalId
| .reader conn trimmed, reply =>
    ∃ answer, AnswerReceived env h conn trimmed id answer ∧
      IdReplaced answer originalId reply

/- Each reply has the value of its path and the id it needs. -/
theorem ReplyOk.exists_replyTo
    {source : ReplySource}
    {c : ClientId}
    {seq : Nat}
    {text : String}
    (hReply : ReplyOk env h source c seq text) :
    ∃ id originalId msg reply,
      Requested h c seq id originalId msg ∧
        text = env.serde.toStrOrDefault reply ∧
          reply.get "id" = some originalId ∧
            ReplyTo env h id originalId source reply := by
  rcases hReply with ⟨id, originalId, msg, hReq, hText⟩
  cases source with
  | overflow =>
      exact ⟨id, originalId, msg, _, hReq, hText,
        tooManyPending_id originalId, rfl⟩
  | drain =>
      exact ⟨id, originalId, msg, _, hReq, hText,
        telescopeReconnecting_id originalId, rfl⟩
  | reader conn trimmed =>
      rcases hText with ⟨answer, hAnswer, hEq⟩
      have hReplaced :=
        idReplaced_setJsonRpcIdValue
          (isObject_of_jsonRpcId hAnswer.hasId) originalId
      exact ⟨id, originalId, msg, _, hReq, hEq,
        hReplaced.newId, answer, hAnswer, hReplaced⟩

/- The message of a request, wherever it is on its way. -/
theorem MessageOk.forwarded
    {m : Message}
    {c : ClientId}
    {seq : Nat}
    (hInv : Provenance env h s)
    (hMessage : MessageOk env h m)
    (hOrigin : m.origin = .request c seq) :
    ∃ id originalId msg,
      Requested h c seq id originalId msg ∧
        IdReplaced msg (.number (.posInt id)) m.value ∧
          env.serde.toStr m.value = some m.line := by
  rw [MessageOk, hOrigin] at hMessage
  rcases hMessage with
    ⟨id, originalId, msg, hReq, hValue, hLine⟩
  refine ⟨id, originalId, msg, hReq, ?_, hLine⟩
  rw [hValue]
  exact idReplaced_setJsonRpcId
    (isObject_of_getId (hInv.requested hReq).1) id

/-
  Requests and replies are routed: a reply on a client's
  response channel answers a request which this client sent,
  with the non-null id of the request as the hook left it; a
  line queued or written for a request is that request with
  only its `id` replaced; no two requests share a draw, and
  no request has two replies.
-/
structure Routed (env : Env) (h : List Obs) : Prop where
  replies : ∀ source c seq text,
    .reply source c seq text ∈ h →
      ∃ sent action msg originalId id reply,
        .line c sent ∈ h ∧
        .request c sent action msg originalId seq id ∈ h ∧
        hookProcessed env sent action = some msg ∧
        msg.IsObject ∧
        msg.get "id" = some originalId ∧
        originalId ≠ .null ∧
        text = env.serde.toStrOrDefault reply ∧
        reply.get "id" = some originalId ∧
        ReplyTo env h id originalId source reply
  lines : ∀ m c seq,
    .queued m ∈ h ∨ (∃ conn, .written conn m ∈ h) →
      m.origin = .request c seq →
        ∃ sent action msg originalId id,
          .line c sent ∈ h ∧
          .request c sent action msg originalId seq id ∈ h ∧
          hookProcessed env sent action = some msg ∧
          IdReplaced msg (.number (.posInt id)) m.value ∧
          env.serde.toStr m.value = some m.line
  requestsOnce : (h.filterMap Obs.requestSeq?).Nodup
  repliesOnce : (h.filterMap Obs.replySeq?).Nodup

/- Every run routes its requests and replies. -/
theorem requests_routed
    {es : List Event}
    (hRun : (proxy env).Run es h s) :
    Routed env h := by
  have hInv := provenance_of_run hRun
  refine
    { replies := ?_
      lines := ?_
      requestsOnce := requestSeqs_nodup hRun
      repliesOnce := ?_ }
  · intro source c seq text hMem
    have hReply : ReplyOk env h source c seq text :=
      hInv.history _ hMem
    rcases hReply.exists_replyTo with
      ⟨id, originalId, msg, reply, ⟨sent, action, hReq⟩,
        hText, hId, hReplyTo⟩
    rcases hInv.history _ hReq with
      ⟨hLine, hHook, hGet, -, -⟩
    rcases getId_eq_some_iff.mp hGet with ⟨hMember, hNull⟩
    exact ⟨sent, action, msg, originalId, id, reply, hLine,
      hReq, hHook, isObject_of_getId hGet, hMember, hNull,
      hText, hId, hReplyTo⟩
  · intro m c seq hMem hOrigin
    have hMessage : MessageOk env h m := by
      rcases hMem with hQueued | ⟨conn, hWritten⟩
      · exact hInv.history _ hQueued
      · exact hInv.history _ hWritten
    rcases hMessage.forwarded hInv hOrigin with
      ⟨id, originalId, msg, ⟨sent, action, hReq⟩,
        hReplaced, hText⟩
    rcases hInv.history _ hReq with ⟨hLine, hHook, -⟩
    exact ⟨sent, action, msg, originalId, id, hLine, hReq,
      hHook, hReplaced, hText⟩
  · rw [← counted_replies]
    exact (repliesKept_of_run hRun).once

------------------------------------------------------------
-- A Sample Session
------------------------------------------------------------

/- A request to park the telescope. -/
def parkRequest (id : Value) : Value :=
  Value.ofMembers
    [("id", id), ("method", .string "scope_park")]

/- The telescope's answer to the request with an id. -/
def parkAnswer (id : Value) : Value :=
  Value.ofMembers [("id", id), ("result", .string "ok")]

/- The line that spells a value without floats. -/
def lineOf (v : Value) : String := v.print.getD ""

/- Surroundings without hooks that know the park messages. -/
def parkEnv : Env where
  serde := Serde.knowing
    [parkRequest (.string "a"),
      parkAnswer (.number (.posInt firstId))]
  hooks := false
  warnLogged := true
  debugLogged := false

/- A client sends the request, which draws an id. -/
def drawPark (c : ClientId) : List Event :=
  [.client c (.line (lineOf (parkRequest (.string "a")))),
    .client c (.onRequest .forward)]

/- The upstream task connects and drains an empty map. -/
def connectUpstream : List Event :=
  [.upstream .connect, .upstream .resetHandshake,
    .upstream .lockPending, .upstream .unlockPending,
    .upstream .spawnReader]

/- One client's request, forwarded and answered. -/
def parkSession : List Event :=
  [.notify, .accept, .upstream .start] ++
    connectUpstream ++ drawPark 0 ++
    [.client 0 .register, .client 0 .sendUpstream,
      .upstream .recv, .upstream (.write true),
      .reader 0 .start,
      .reader 0 (.line (lineOf
        (parkAnswer (.number (.posInt firstId))))),
      .reader 0 .remove, .reader 0 .deliver]

theorem requests_routed_parkSession :
    Obs.reply
        (.reader 0 (lineOf
          (parkAnswer (.number (.posInt firstId)))))
        0 0 (lineOf (parkAnswer (.string "a"))) ∈
      ((proxy parkEnv).outcome parkSession).2 ∧
    Routed parkEnv
      ((proxy parkEnv).outcome parkSession).2 :=
  ⟨by decide +kernel,
    requests_routed
      (Machine.run_outcome (by decide +kernel))⟩

/- What the handler holds after the request drew an id. -/
def parkDrawn (s : State) : Handler :=
  .registering s.allocated s.nextId (.string "a")
    (setJsonRpcId (parkRequest (.string "a")) s.nextId)
    (lineOf
      (setJsonRpcId (parkRequest (.string "a")) s.nextId))

/- The state after the sample request drew an id. -/
def afterDraw (s : State) (c : ClientId) : State :=
  { s with
    nextId := s.nextId + 1
    allocated := s.allocated + 1
    handler := Function.update s.handler c (parkDrawn s) }

/- The draw of the sample request from any state. -/
theorem exec_drawPark
    {c : ClientId}
    (hAt : s.handler c = .reading) :
    (proxy parkEnv).exec s (drawPark c) = some
      (afterDraw s c,
        [.line c (parkRequest (.string "a")),
          .request c (parkRequest (.string "a")) .forward
            (parkRequest (.string "a")) (.string "a")
            s.allocated s.nextId]) := by
  have hTrim :
      Text.trim (lineOf (parkRequest (.string "a"))) =
        lineOf (parkRequest (.string "a")) := by
    decide +kernel
  have hText : lineOf (parkRequest (.string "a")) ≠ "" := by
    decide +kernel
  have hParse :
      parkEnv.serde.fromStr
          (lineOf (parkRequest (.string "a"))) =
        some (parkRequest (.string "a")) := by
    decide +kernel
  have hId :
      getId (parkRequest (.string "a")) =
        some (.string "a") := by
    decide +kernel
  have hPrint :
      parkEnv.serde.toStr
          (setJsonRpcId (parkRequest (.string "a"))
            s.nextId) =
        some (lineOf
          (setJsonRpcId (parkRequest (.string "a"))
            s.nextId)) := rfl
  simp [drawPark, afterDraw, parkDrawn, Machine.exec, proxy,
    step, handleClient, hAt, hTrim, hText, hParse,
    forwardMessage, hId, hPrint]

end Control

end SeestarProxy
