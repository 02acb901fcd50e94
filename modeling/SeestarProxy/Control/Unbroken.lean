import SeestarProxy.Control.Connections
import SeestarProxy.Hooks
import SeestarProxy.Utf8

/-
  No message of the proxy contains a line feed.

  What a task prints comes from the JSON library on one
  line, what it passes on was cut from a line, and the rest
  is text of its own. So no producer of a queue can break
  the line that its message is written on.

  Main declarations:
    * `Serde.PrintsOneLine` and `Unbroken`
    * `queuedMessages` and `putOn`
    * `AllUnbroken` and `allUnbroken_of_run`
    * `unbroken_print` and `knowing_printsOneLine`
-/

------------------------------------------------------------
-- Unbroken Texts
------------------------------------------------------------

namespace SeestarProxy

/- The printer escapes line feeds. -/
def Serde.PrintsOneLine (serde : Serde) : Prop :=
  ∀ v text, serde.toStr v = some text →
    '\n' ∉ text.toList

namespace Control

open Library Protocol

variable {env : Env} {h o : List Obs} {s s' : State}
variable {e : Event} {c : ClientId} {conn : ConnId}

/- A text without a line feed. -/
def Unbroken (text : String) : Prop :=
  '\n' ∉ text.toList

theorem unbroken_empty : Unbroken "" := by
  simp [Unbroken]

theorem unbroken_append
    {text text' : String}
    (hFirst : Unbroken text)
    (hSecond : Unbroken text') :
    Unbroken (text ++ text') := by
  unfold Unbroken at hFirst hSecond ⊢
  rw [String.toList_append, List.mem_append, not_or]
  exact ⟨hFirst, hSecond⟩

theorem unbroken_toString (n : Nat) :
    Unbroken (toString n) := by
  intro hMem
  change '\n' ∈ n.repr.toList at hMem
  rw [Nat.toList_repr] at hMem
  have hDigit :=
    Nat.isDigit_of_mem_toDigits (by decide) (by decide) hMem
  cases hDigit

theorem unbroken_heartbeatLine (id : UInt64) :
    Unbroken (heartbeatLine id) := by
  unfold heartbeatLine
  refine unbroken_append (unbroken_append (unbroken_append
    ?_ (unbroken_toString _)) ?_) ?_
  all_goals
    unfold Unbroken
    decide

theorem unbroken_toStrOrDefault
    (hPrints : env.serde.PrintsOneLine)
    (v : Value) :
    Unbroken (env.serde.toStrOrDefault v) := by
  unfold Serde.toStrOrDefault
  cases hText : env.serde.toStr v with
  | none => exact unbroken_empty
  | some text => exact hPrints v text hText

------------------------------------------------------------
-- Texts on Their Way
------------------------------------------------------------

/- The texts that a handler is about to send on. -/
def Handler.Unbroken : Handler → Prop
| .replying text | .registering _ _ _ _ text
| .refusing _ text | .queueing _ _ _ text
| .forwarding _ text => Control.Unbroken text
| _ => True

/- The texts that a reader is about to send on. -/
def Reader.Unbroken : Reader → Prop
| .eventHook text | .removing _ _ text
| .responseHook text | .broadcasting text
| .delivering _ _ _ text => Control.Unbroken text
| _ => True

/- The messages that were queued for the telescope. -/
def Obs.queued? : Obs → Option Message
| .queued message => some message
| _ => none

def queuedMessages (h : List Obs) : List Message :=
  h.filterMap Obs.queued?

/- The text that a step puts on a client's channel. -/
def Obs.putOn? (c : ClientId) : Obs → Option String
| .reply _ c' _ text | .hookReply c' text =>
    if c' = c then some text else none
| _ => none

/- What was put on the response channel of a client. -/
def putOn (h : List Obs) (c : ClientId) : List String :=
  h.filterMap (Obs.putOn? c)

/- The text of an observation that is queued or put. -/
def Obs.text? : Obs → Option String
| .queued message => some message.line
| .reply _ _ _ text | .hookReply _ text => some text
| _ => none

/- A hook's reply is printed on one line. -/
def RepliesUnbroken (_ : State) : Event → Prop
| .client _ (.onRequest (.reply json)) => Unbroken json
| _ => True

/- No text that is on its way or was queued is broken. -/
structure AllUnbroken
    (h : List Obs)
    (s : State) : Prop where
  handler : ∀ c, (s.handler c).Unbroken
  reader : ∀ conn, (s.reader conn).Unbroken
  heartbeat : ∀ m, s.heartbeat = .sending m →
    Unbroken m.line
  events : ∀ conn text, (conn, text) ∈ s.events →
    Unbroken text
  texts : ∀ text ∈ h.filterMap Obs.text?, Unbroken text

------------------------------------------------------------
-- Steps
------------------------------------------------------------

/- A message is forwarded as the JSON library prints it. -/
private theorem forwardMessage_unbroken
    {sent msg : Value}
    {action : HookAction}
    (hPrints : env.serde.PrintsOneLine)
    (hNext :
      forwardMessage env s c sent action msg = (s', o)) :
    (s'.handler c).Unbroken := by
  have hState :
      (forwardMessage env s c sent action msg).1 = s' := by
    rw [hNext]
  rw [← hState]
  unfold forwardMessage
  cases getId msg with
  | none =>
      cases hText : env.serde.toStr msg with
      | none => simp [Handler.Unbroken]
      | some forwarded =>
          simp only [Function.update_self]
          exact hPrints _ _ hText
  | some originalId =>
      cases hText :
          env.serde.toStr (setJsonRpcId msg s.nextId) with
      | none => simp [hText, Handler.Unbroken]
      | some forwarded =>
          simp only [hText, Function.update_self]
          exact hPrints _ _ hText

/- What a handler holds after a step is unbroken. -/
private theorem handler_unbroken
    {event : HandlerEvent}
    (hPrints : env.serde.PrintsOneLine)
    (hReplies : RepliesUnbroken s (.client c event))
    (hBefore : (s.handler c).Unbroken)
    (hStep : handleClient env s c event = some (s', o)) :
    (s'.handler c).Unbroken := by
  unfold handleClient at hStep
  split at hStep
  case h_2 action trimmed sent hAt =>
    split at hStep
    · cases hStep
    · have hForward (action : HookAction) (msg : Value)
          (hNext : some
            (forwardMessage env s c sent action msg) =
              some (s', o)) :
          (s'.handler c).Unbroken :=
        forwardMessage_unbroken hPrints (Option.some.inj hNext)
      cases action with
      | forward => exact hForward _ _ hStep
      | modify json => exact hForward _ _ hStep
      | block =>
          cases hStep
          simp only [Function.update_self]
          split <;> trivial
      | reply json =>
          cases hStep
          simp only [Function.update_self]
          split
          · trivial
          · exact hReplies
  case h_4 seq id originalId msg forwarded hAt =>
    rw [hAt] at hBefore
    split at hStep
    · cases hStep
    · split at hStep
      · dsimp only at hStep
        split at hStep
        · cases hStep
          simp only [Function.update_self]
          trivial
        · cases hStep
          simp only [Function.update_self]
          trivial
        · cases hStep
          simp only [Function.update_self]
          exact unbroken_toStrOrDefault hPrints _
      · cases hStep
        simp only [Function.update_self]
        exact hBefore
  -- After the other events the handler has nothing to send.
  all_goals
    try dsimp only at hStep
    repeat' split at hStep
  all_goals cases hStep
  all_goals
    first
      | exact hBefore
      | simp only [Function.update_self]
        trivial

/- What a handler's step queues or puts is unbroken. -/
private theorem handler_texts
    {event : HandlerEvent}
    (hPrints : env.serde.PrintsOneLine)
    (hBefore : (s.handler c).Unbroken)
    (hStep : HandlerStep env s c event s' o) :
    ∀ text ∈ o.filterMap Obs.text?, Unbroken text := by
  cases hStep with
  | hookReplied hAt hSend =>
      rw [hAt] at hBefore
      simpa [Obs.text?, Handler.Unbroken] using hBefore
  | refusalSent hAt hSend =>
      rw [hAt] at hBefore
      simpa [Obs.text?, Handler.Unbroken] using hBefore
  | requestQueued hAt hSend =>
      rw [hAt] at hBefore
      simpa [Obs.text?, Handler.Unbroken] using hBefore
  | notificationQueued hAt hSend =>
      rw [hAt] at hBefore
      simpa [Obs.text?, Handler.Unbroken] using hBefore
  | refusedSent hAt hLock hFull hSend =>
      simpa [Obs.text?] using
        unbroken_toStrOrDefault hPrints _
  | _ => simp [Obs.text?]

/- Where a reader goes with an unbroken line. -/
private theorem routeLine_unbroken
    {trimmed : String}
    (hLine : Unbroken trimmed) :
    (routeLine env trimmed).Unbroken := by
  unfold routeLine
  split
  · split <;> trivial
  · split
    · exact hLine
    · split <;> exact hLine

/- What a reader holds after a step is unbroken. -/
private theorem reader_unbroken
    {event : ReaderEvent}
    (hPrints : env.serde.PrintsOneLine)
    (hBefore : (s.reader conn).Unbroken)
    (hNext : upstreamReaderTask env s conn event =
      some (s', o)) :
    (s'.reader conn).Unbroken := by
  cases upstreamReaderTask_cases hNext with
  | skipped hAt => exact hBefore
  | @received text trimmed hAt hTrim hNonempty =>
      simp only [Function.update_self]
      apply routeLine_unbroken
      rw [hTrim]
      -- The line was cut off before a line feed.
      apply Text.lineFeed_notMem_trim
      intro hFeed
      simp [upstreamReaderTask, hAt, hFeed] at hNext
  | @hooked action trimmed hAt =>
      simp only [Function.update_self]
      have hLine : Unbroken trimmed := by
        rcases hAt with hAt | hAt
        · rw [hAt] at hBefore
          exact hBefore
        · rw [hAt] at hBefore
          exact hBefore
      cases action with
      | block => trivial
      | _ => exact hLine
  | removed hAt hLock hEntry =>
      simp only [Function.update_self]
      exact unbroken_toStrOrDefault hPrints _
  | missed hAt hLock hEntry =>
      rw [hAt] at hBefore
      simp only [Function.update_self]
      exact hBefore
  | _ =>
      simp only [Function.update_self]
      trivial

------------------------------------------------------------
-- Runs
------------------------------------------------------------

/- A script injects what the JSON library prints. -/
private theorem hookSend_texts
    {value : Value}
    (hPrints : env.serde.PrintsOneLine)
    (hNext : hookSend env s value = some (s', o)) :
    ∀ text ∈ o.filterMap Obs.text?, Unbroken text := by
  unfold hookSend at hNext
  split at hNext
  · cases hNext
  · split at hNext
    · cases hNext
      simp
    · rename_i line hLine
      have hPrinted : Unbroken line :=
        hPrints value line hLine
      split at hNext
      · cases hNext
        simpa [Obs.text?] using hPrinted
      · cases hNext
        simp
      · cases hNext
        simp

/- The texts that a step queues or puts are unbroken. -/
private theorem texts_step
    (hPrints : env.serde.PrintsOneLine)
    (hInv : AllUnbroken h s)
    (hNext : (proxy env).step s e = some (s', o)) :
    ∀ text ∈ o.filterMap Obs.text?, Unbroken text := by
  cases step_cases hNext with
  | @client c event s' o hTask =>
      exact handler_texts hPrints (hInv.handler c) hTask
  | writer hTask => cases hTask <;> simp [Obs.text?]
  | heartbeat hTask =>
      cases hTask with
      | queued hAt hSend =>
          simpa [Obs.text?] using hInv.heartbeat _ hAt
      | _ => simp [Obs.text?]
  | upstream hTask =>
      cases hTask with
      | drainSent hAt hEntry hSend =>
          simpa [Obs.text?] using
            unbroken_toStrOrDefault hPrints _
      | _ => simp [Obs.text?]
  | @reader conn event s' o hTask =>
      have hBefore := hInv.reader conn
      cases hTask with
      | delivered hAt hSend =>
          rw [hAt] at hBefore
          simpa [Obs.text?, Reader.Unbroken] using hBefore
      | _ => simp [Obs.text?]
  | hookSent hSend => exact hookSend_texts hPrints hNext
  | _ => simp

/- A step keeps every text unbroken. -/
private theorem allUnbroken_step
    (hPrints : env.serde.PrintsOneLine)
    (hReplies : RepliesUnbroken s e)
    (hInv : AllUnbroken h s)
    (hNext : (proxy env).step s e = some (s', o)) :
    AllUnbroken (h ++ o) s' := by
  have hTexts : ∀ text ∈ (h ++ o).filterMap Obs.text?,
      Unbroken text := by
    intro text hMem
    rw [List.filterMap_append] at hMem
    rcases List.mem_append.mp hMem with hOld | hNew
    · exact hInv.texts text hOld
    · exact texts_step hPrints hInv hNext text hNew
  cases step_cases hNext with
  | accepted =>
      refine ⟨?_, hInv.reader, hInv.heartbeat, hInv.events,
        hTexts⟩
      intro c
      by_cases hClient : c = s.clients
      · subst hClient
        simp [acceptClient, Handler.Unbroken]
      · simp only [acceptClient,
          Function.update_of_ne hClient]
        exact hInv.handler c
  | @client c event s' o hTask =>
      have hHandler : ∀ c', (s'.handler c').Unbroken := by
        intro c'
        by_cases hClient : c' = c
        · subst hClient
          exact handler_unbroken hPrints hReplies
            (hInv.handler c') hNext
        · rw [hTask.handler_of_ne hClient]
          exact hInv.handler c'
      cases hTask <;>
        exact ⟨hHandler, hInv.reader, hInv.heartbeat,
          hInv.events, hTexts⟩
  | writer hTask =>
      cases hTask <;>
        exact ⟨hInv.handler, hInv.reader, hInv.heartbeat,
          hInv.events, hTexts⟩
  | heartbeat hTask =>
      refine ⟨?_, ?_, ?_, ?_, hTexts⟩
      · cases hTask <;> exact hInv.handler
      · cases hTask <;> exact hInv.reader
      · cases hTask with
        | allocated hAt =>
            rintro m ⟨⟩
            exact unbroken_heartbeatLine _
        | slept hAt => exact hInv.heartbeat
        | _ =>
            intro m hAt
            cases hAt
      · cases hTask <;> exact hInv.events
  | upstream hTask =>
      refine ⟨?_, ?_, ?_, ?_, hTexts⟩
      · cases hTask <;> exact hInv.handler
      · cases hTask with
        | spawned hAt =>
            intro conn
            by_cases hConn : conn = s.connections
            · subst hConn
              simp [Reader.Unbroken]
            · simp only [Function.update_of_ne hConn]
              exact hInv.reader conn
        | _ => exact hInv.reader
      · cases hTask with
        | started hAt =>
            intro m hSending
            cases hSending
        | _ => exact hInv.heartbeat
      · cases hTask <;> exact hInv.events
  | @reader conn event s' o hTask =>
      have hReader : ∀ conn', (s'.reader conn').Unbroken := by
        intro conn'
        by_cases hConn : conn' = conn
        · subst hConn
          exact reader_unbroken hPrints (hInv.reader conn')
            hNext
        · rw [hTask.reader_of_ne hConn]
          exact hInv.reader conn'
      refine ⟨?_, hReader, ?_, ?_, hTexts⟩
      · cases hTask <;> exact hInv.handler
      · cases hTask <;> exact hInv.heartbeat
      · cases hTask with
        | broadcast hAt =>
            intro conn' text hMem
            rcases List.mem_append.mp hMem with hOld | hNew
            · exact hInv.events conn' text hOld
            · have hBefore := hInv.reader conn
              rw [hAt] at hBefore
              cases List.mem_singleton.mp hNew
              exact hBefore
        | _ => exact hInv.events
  | _ =>
      exact ⟨hInv.handler, hInv.reader, hInv.heartbeat,
        hInv.events, hTexts⟩

/-
  No text is broken in a run whose hook replies are printed
  on one line.
-/
theorem allUnbroken_of_run
    {es : List Event}
    (hPrints : env.serde.PrintsOneLine)
    (hRun : (proxy env).Run es h s)
    (hMeets : (proxy env).Meets RepliesUnbroken
      (proxy env).init es) :
    AllUnbroken h s := by
  refine Machine.guarded_induction
    (motive := fun _ h s => AllUnbroken h s)
    ?_ ?_ hRun hMeets
  · exact
      { handler := fun _ => trivial
        reader := fun _ => trivial
        heartbeat := nofun
        events := nofun
        texts := nofun }
  · intro es h s e s' o _ hInv hReplies hNext
    exact allUnbroken_step hPrints hReplies hInv hNext

------------------------------------------------------------
-- A Printer
------------------------------------------------------------

theorem unbroken_intercalate
    {texts : List String}
    (hTexts : ∀ text ∈ texts, Unbroken text) :
    Unbroken (",".intercalate texts) := by
  induction texts with
  | nil => exact unbroken_empty
  | cons text texts ih =>
      cases texts with
      | nil =>
          rw [String.intercalate_singleton]
          exact hTexts text List.mem_cons_self
      | cons next texts =>
          rw [String.intercalate_cons_cons]
          refine unbroken_append (unbroken_append ?_ ?_) ?_
          · exact hTexts text List.mem_cons_self
          · unfold Unbroken
            decide
          · apply ih
            intro other hMem
            exact hTexts other (List.mem_cons_of_mem _ hMem)

theorem unbroken_printString (s : String) :
    Unbroken (printString s) := by
  unfold printString
  refine unbroken_append (unbroken_append ?_ ?_) ?_
  · unfold Unbroken
    decide
  · intro hMem
    rw [String.toList_join] at hMem
    rcases List.mem_flatMap.mp hMem with ⟨text, hText, hFeed⟩
    rcases List.mem_map.mp hText with ⟨c, -, rfl⟩
    revert hFeed
    unfold escapeChar
    repeat' split
    · decide
    · decide
    · decide
    · decide
    · decide
    · rename_i hChar _ _
      intro hFeed
      rw [String.toList_singleton, List.mem_singleton]
        at hFeed
      exact hChar hFeed.symm
  · unfold Unbroken
    decide

theorem unbroken_printNumber
    {n : Number}
    {text : String}
    (hText : printNumber n = some text) :
    Unbroken text := by
  cases n with
  | posInt n =>
      cases hText
      exact unbroken_toString _
  | negInt n =>
      cases hText
      cases n.toInt with
      | ofNat m => exact unbroken_toString m
      | negSucc m =>
          refine unbroken_append ?_ (unbroken_toString (m + 1))
          unfold Unbroken
          decide
  | float bits => cases hText

mutual

theorem unbroken_print :
    ∀ {v : Value} {text : String},
      v.print = some text → Unbroken text
| .null, _, hText => by
    cases hText
    unfold Unbroken
    decide
| .bool b, _, hText => by
    cases hText
    unfold Unbroken
    cases b <;> decide
| .number n, _, hText => unbroken_printNumber hText
| .string s, _, hText => by
    cases hText
    exact unbroken_printString s
| .array items, _, hText => by
    rcases Option.map_eq_some_iff.mp hText with
      ⟨texts, hItems, rfl⟩
    refine unbroken_append (unbroken_append ?_
      (unbroken_intercalate (unbroken_printItems hItems))) ?_
    all_goals
      unfold Unbroken
      decide
| .object members, _, hText => by
    rcases Option.map_eq_some_iff.mp hText with
      ⟨texts, hMembers, rfl⟩
    refine unbroken_append (unbroken_append ?_
      (unbroken_intercalate
        (unbroken_printMembers hMembers))) ?_
    all_goals
      unfold Unbroken
      decide

theorem unbroken_printItems :
    ∀ {items : List Value} {texts : List String},
      Value.printItems items = some texts →
        ∀ text ∈ texts, Unbroken text
| [], _, hTexts => by
    cases hTexts
    exact nofun
| v :: items, _, hTexts => by
    simp only [Value.printItems, Option.bind_eq_bind,
      Option.bind_eq_some_iff, Option.some.injEq] at hTexts
    rcases hTexts with ⟨first, hFirst, rest, hRest, rfl⟩
    intro text hMem
    rcases List.mem_cons.mp hMem with rfl | hMem
    · exact unbroken_print hFirst
    · exact unbroken_printItems hRest text hMem

theorem unbroken_printMembers :
    ∀ {members : Members} {texts : List String},
      Value.printMembers members = some texts →
        ∀ text ∈ texts, Unbroken text
| [], _, hTexts => by
    cases hTexts
    exact nofun
| (key, v) :: members, _, hTexts => by
    simp only [Value.printMembers, Option.bind_eq_bind,
      Option.bind_eq_some_iff, Option.some.injEq] at hTexts
    rcases hTexts with ⟨first, hFirst, rest, hRest, rfl⟩
    intro text hMem
    rcases List.mem_cons.mp hMem with rfl | hMem
    · refine unbroken_append (unbroken_append
        (unbroken_printString key) ?_)
        (unbroken_print hFirst)
      unfold Unbroken
      decide
    · exact unbroken_printMembers hRest text hMem

end

/- The compact form of a value is one line. -/
theorem knowing_printsOneLine (known : List Value) :
    (Serde.knowing known).PrintsOneLine :=
  fun _ _ hText => unbroken_print hText

end Control

end SeestarProxy
