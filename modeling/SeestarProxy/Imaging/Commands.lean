import SeestarProxy.Control.ClientLoop
import SeestarProxy.Imaging.StepCases

/-
  The commands of an imaging client.

  The handler of a client reads lines as those of the control
  proxy do, and queues what is not blank for the telescope
  without parsing it. The last bytes of a stream make a line
  like any other, so a fragment that the client never ended
  is queued unless it is blank or a line is too long.

  Main declarations:
    * `CommandEvent` and `commandLoop`
    * `commands` and `completeCommands`
    * `Handling` and `handling_of_run`
    * `FragmentSilent` and `only_complete_commands_iff`
-/

------------------------------------------------------------
-- The Handler over its Stream
------------------------------------------------------------

namespace SeestarProxy

namespace Imaging

open Library

open Control (ClientLoop ChunksOk Reading maxLineBytes
  readRound acceptedLines clientReader)

/-
  What the other tasks do to the upstream queue: the upstream
  task receives from it, another client or the heartbeat puts
  a message into it, or its receiver is dropped.
-/
inductive QueueEvent where
| recv
| send (message : String)
| close

def queueStep
    (channel : Channel String 256) :
    QueueEvent → Option (Channel String 256)
| .recv => channel.recv.map Prod.snd
| .send message =>
    match channel.trySend message with
    | .sent channel' => some channel'
    | .full | .closed => none
| .close => some channel.close

/-
  What happens next: a round of the read loop, the end of the
  wait for the upstream queue, or a step of another task.
-/
inductive CommandEvent where
| read
| send
| queue (event : QueueEvent)

/- A step of the handler, beside its read loop. -/
def handlerStep
    (c : ClientId)
    (s : State)
    (loop : ClientLoop)
    (event : HandlerEvent) :
    Option ((ClientLoop × State) × List Obs) :=
  match handleClient s c event with
  | none => none
  | some (s', o) => some ((loop, s'), o)

/-
  One step of the handler with its read loop. A line that is
  read is handled, and the end of the loop ends the handler.
-/
def commandStep
    (c : ClientId)
    (loop : ClientLoop)
    (s : State)
    (event : CommandEvent) :
    Option ((ClientLoop × State) × List Obs) :=
  match event with
  | .read =>
      if s.handler c ≠ .reading then
        none
      else
        match readRound maxLineBytes loop with
        | none => none
        | some (loop', []) =>
            if loop'.ended = none then
              some ((loop', s), [])
            else
              handlerStep c s loop' .close
        | some (loop', line :: _) =>
            handlerStep c s loop'
              (.line (Text.fromUtf8Lossy line))
  | .send => handlerStep c s loop .send
  | .queue event =>
      match queueStep s.upstreamTx event with
      | none => none
      | some channel =>
          some ((loop, { s with upstreamTx := channel }), [])

/- The handler of the client that is accepted next. -/
def commandLoop
    (s₀ : State)
    (chunks : List Bytes) :
    Machine (ClientLoop × State) CommandEvent Obs where
  init := (.start chunks, acceptClient s₀)
  step := fun (loop, s) event =>
    commandStep s₀.clients loop s event

/- What a client has queued for the telescope. -/
def Obs.queued? (c : ClientId) : Obs → Option String
| .queued c' trimmed => if c' = c then some trimmed else none
| _ => none

def queuedBy (c : ClientId) (h : List Obs) : List String :=
  h.filterMap (Obs.queued? c)

/- The decoded and trimmed text of a line. -/
def commandText (line : Bytes) : String :=
  Text.trim (Text.fromUtf8Lossy line)

/- The texts of some lines, without the blank ones. -/
def commands (lines : List Bytes) : List String :=
  (lines.map commandText).filter (· ≠ "")

/- The lines that a client ended, with their line feeds. -/
def completeLines (bytes : Bytes) : List Bytes :=
  (Lines.terminated Text.lf bytes).map fun line =>
    line ++ [Text.lf]

/- The commands before the first line that is too long. -/
def completeCommands (bytes : Bytes) : List String :=
  commands ((completeLines bytes).takeWhile fun line =>
    line.length ≤ maxLineBytes)

/-
  Only complete commands were queued, in their order, and all
  of them once the stream was read.
-/
structure OnlyComplete
    (c : ClientId)
    (bytes : Bytes)
    (h : List Obs)
    (loop : ClientLoop) : Prop where
  prefix_of : queuedBy c h <+: completeCommands bytes
  all : loop.ended ≠ none →
    queuedBy c h = completeCommands bytes

/-
  The fragment behind the last line feed is blank, or a line
  is too long: the fragment itself or one before it.
-/
def FragmentSilent (bytes : Bytes) : Prop :=
  commandText (Lines.fragment Text.lf bytes) = "" ∨
    maxLineBytes < (Lines.fragment Text.lf bytes).length ∨
    ∃ line ∈ completeLines bytes, maxLineBytes < line.length

------------------------------------------------------------
-- What the Lines Say
------------------------------------------------------------

variable {s₀ s s' : State} {loop loop' : ClientLoop}
variable {chunks lines : List Bytes} {bytes : Bytes}
variable {c : ClientId} {h o : List Obs} {C : Nat}

theorem commands_append (lines lines' : List Bytes) :
    commands (lines ++ lines') =
      commands lines ++ commands lines' := by
  unfold commands
  rw [List.map_append, List.filter_append]

theorem commands_blank
    {line : Bytes}
    (hBlank : commandText line = "") :
    commands [line] = [] := by
  simp [commands, hBlank]

theorem commands_text
    {line : Bytes}
    (hText : commandText line ≠ "") :
    commands [line] = [commandText line] := by
  simp [commands, hText]

@[simp] theorem queuedBy_nil : queuedBy c [] = [] := rfl

theorem queuedBy_append (h o : List Obs) :
    queuedBy c (h ++ o) = queuedBy c h ++ queuedBy c o :=
  List.filterMap_append

theorem queuedBy_queued (c : ClientId) (trimmed : String) :
    queuedBy c [.queued c trimmed] = [trimmed] := by
  simp [queuedBy, Obs.queued?]

/- The records are the complete lines and the fragment. -/
theorem records_eq (bytes : Bytes) :
    Lines.records Text.lf bytes =
      completeLines bytes ++
        if Lines.fragment Text.lf bytes = [] then []
        else [Lines.fragment Text.lf bytes] := rfl

theorem commandText_nil : commandText [] = "" := by
  decide

/- Lines up to one that is too long do not see the rest. -/
theorem takeWhile_of_long
    {line : Bytes}
    (hMem : line ∈ lines)
    (hLong : maxLineBytes < line.length)
    (rest : List Bytes) :
    (lines ++ rest).takeWhile
        (fun line => line.length ≤ maxLineBytes) =
      lines.takeWhile
        (fun line => line.length ≤ maxLineBytes) := by
  rw [List.takeWhile_append, if_neg]
  intro hAll
  have hWhole :=
    (List.takeWhile_prefix _).eq_of_length hAll
  have hShort :=
    List.takeWhile_eq_self_iff.mp hWhole line hMem
  have hBound := of_decide_eq_true hShort
  omega

/- A silent fragment adds nothing to the commands. -/
theorem commands_acceptedLines
    (hSilent : FragmentSilent bytes) :
    commands (acceptedLines bytes) =
      completeCommands bytes := by
  unfold acceptedLines completeCommands
  rw [records_eq]
  by_cases hLong :
      ∃ line ∈ completeLines bytes,
        maxLineBytes < line.length
  · rcases hLong with ⟨line, hMem, hLong⟩
    rw [takeWhile_of_long hMem hLong]
  have hShort : ∀ line ∈ completeLines bytes,
      line.length ≤ maxLineBytes := fun line hMem =>
    Nat.le_of_not_lt fun hMore => hLong ⟨line, hMem, hMore⟩
  have hWhole := Control.takeWhile_all hShort
  rw [Control.takeWhile_short hShort, hWhole,
    commands_append]
  split
  · rw [List.takeWhile_nil]
    exact List.append_nil _
  · rcases hSilent with hBlank | hMore | hOther
    · rw [List.takeWhile_cons]
      split
      · rw [List.takeWhile_nil, commands_blank hBlank,
          List.append_nil]
      · exact List.append_nil _
    · rw [List.takeWhile_cons_of_neg
        (by simpa using hMore)]
      exact List.append_nil _
    · exact absurd hOther hLong

/- Any other one is the last of the commands. -/
theorem commands_acceptedLines_fragment
    (hSpeaks : ¬ FragmentSilent bytes) :
    commands (acceptedLines bytes) =
      completeCommands bytes ++
        [commandText (Lines.fragment Text.lf bytes)] := by
  unfold FragmentSilent at hSpeaks
  rw [not_or, not_or] at hSpeaks
  rcases hSpeaks with ⟨hText, hFits, hLong⟩
  have hSome : Lines.fragment Text.lf bytes ≠ [] := by
    intro hNone
    rw [hNone] at hText
    exact hText commandText_nil
  have hShort : ∀ line ∈ completeLines bytes,
      line.length ≤ maxLineBytes := fun line hMem =>
    Nat.le_of_not_lt fun hMore => hLong ⟨line, hMem, hMore⟩
  have hWhole := Control.takeWhile_all hShort
  unfold acceptedLines completeCommands
  rw [records_eq, if_neg hSome,
    Control.takeWhile_short hShort, hWhole,
    commands_append, List.takeWhile_cons_of_pos
      (by simpa using hFits), List.takeWhile_nil,
    commands_text hText]

------------------------------------------------------------
-- What the Handler Has Done
------------------------------------------------------------

/- What was queued of the lines that were read. -/
def Handled
    (lines : List Bytes)
    (loop : ClientLoop)
    (queued : List String) : Handler → Prop
| .reading =>
    loop.ended = none ∧ queued = commands lines
| .sending trimmed =>
    loop.ended = none ∧
      queued ++ [trimmed] = commands lines
| .ended =>
    queued <+: commands lines ∧
      (loop.ended ≠ none → queued = commands lines)
| .absent | .failed => False

/- The lines that were read, and what was queued of them. -/
structure Handling
    (c : ClientId)
    (C : Nat)
    (bytes : Bytes)
    (lines : List Bytes)
    (h : List Obs)
    (loop : ClientLoop)
    (s : State) : Prop where
  reading : Reading C bytes lines loop
  short : ∀ line ∈ lines, line.length ≤ maxLineBytes
  handled : Handled lines loop (queuedBy c h) (s.handler c)

/- A round handles one line at most, and then goes on. -/
theorem readRound_lines
    {line : Bytes}
    {rest : List Bytes}
    (hRound : readRound maxLineBytes loop =
      some (loop', line :: rest)) :
    rest = [] ∧ loop'.ended = loop.ended := by
  have hRead : ∀ {start : ClientLoop},
      some (Control.lineRead start) =
        some (loop', line :: rest) →
      start.ended = loop.ended →
      rest = [] ∧ loop'.ended = loop.ended := by
    intro start hNext hSame
    unfold Control.lineRead at hNext
    split at hNext
    · cases hNext
    · split at hNext
      · cases hNext
      · cases hNext
        exact ⟨rfl, hSame⟩
  unfold readRound at hRound
  split at hRound
  · cases hRound
  · split at hRound
    · exact hRead hRound rfl
    · split at hRound
      · exact hRead hRound rfl
      · simp only at hRound
        split at hRound
        · exact hRead hRound rfl
        · cases hRound

/- The read loop stays as it is meanwhile. -/
theorem handlerStep_cases
    {event : HandlerEvent}
    (hStep : handlerStep c s loop event =
      some ((loop', s'), o)) :
    loop' = loop ∧ HandlerStep s c event s' o := by
  unfold handlerStep at hStep
  split at hStep
  · cases hStep
  · next hHandle =>
      cases hStep
      exact ⟨rfl, handleClient_cases hHandle⟩

/- A round of the read loop keeps the account. -/
theorem handling_read
    (hHandling : Handling c C bytes lines h loop s)
    (hStep : commandStep c loop s .read =
      some ((loop', s'), o)) :
    ∃ lines', Handling c C bytes lines' (h ++ o) loop' s' := by
  rcases hHandling with ⟨hReading, hShort, hHandled⟩
  unfold commandStep at hStep
  dsimp only at hStep
  split at hStep
  · cases hStep
  next hAt =>
  rw [not_not] at hAt
  rw [hAt] at hHandled
  rcases hHandled with ⟨hOpen, hQueued⟩
  split at hStep
  · cases hStep
  · next hRound =>
      have hNext := Control.reading_step hReading hRound
      rw [List.append_nil] at hNext
      split at hStep
      · next hEnded =>
          cases hStep
          refine ⟨lines, hNext, hShort, ?_⟩
          rw [List.append_nil, hAt]
          exact ⟨hEnded, hQueued⟩
      · rcases handlerStep_cases hStep with ⟨rfl, hCase⟩
        cases hCase with
        | closed =>
            refine ⟨lines, hNext, hShort, ?_⟩
            dsimp only
            rw [List.append_nil, Function.update_self,
              hQueued]
            exact ⟨List.prefix_refl _, fun _ => rfl⟩
  · next line rest hRound =>
      have hNext := Control.reading_step hReading hRound
      rcases readRound_lines hRound with ⟨rfl, hSame⟩
      rcases handlerStep_cases hStep with ⟨rfl, hCase⟩
      have hStill := hSame.trans hOpen
      refine ⟨lines ++ [line], hNext, ?_, ?_⟩
      · intro other hMem
        rcases List.mem_append.mp hMem with hOld | hNew
        · exact hShort other hOld
        · exact Control.readRound_short hRound hNew
      · cases hCase with
        | blank _ hBlank =>
            rw [List.append_nil, hAt, hQueued]
            refine ⟨hStill, ?_⟩
            rw [commands_append, commands_blank hBlank,
              List.append_nil]
        | command _ hText =>
            dsimp only
            rw [List.append_nil, Function.update_self,
              hQueued]
            refine ⟨hStill, ?_⟩
            rw [commands_append, commands_text hText]
            rfl

/- So do the other steps. -/
theorem handling_step
    {event : CommandEvent}
    (hHandling : Handling c C bytes lines h loop s)
    (hStep : commandStep c loop s event =
      some ((loop', s'), o)) :
    ∃ lines', Handling c C bytes lines' (h ++ o) loop' s' := by
  cases event with
  | read => exact handling_read hHandling hStep
  | queue event =>
      unfold commandStep at hStep
      dsimp only at hStep
      split at hStep
      · cases hStep
      · cases hStep
        rw [List.append_nil]
        exact ⟨lines, hHandling.reading, hHandling.short,
          hHandling.handled⟩
  | send =>
      rcases hHandling with ⟨hReading, hShort, hHandled⟩
      rcases handlerStep_cases hStep with ⟨rfl, hCase⟩
      refine ⟨lines, hReading, hShort, ?_⟩
      cases hCase with
      | queued hAt hSend =>
          rw [hAt] at hHandled
          dsimp only
          rw [queuedBy_append, queuedBy_queued,
            Function.update_self]
          exact hHandled
      | refused hAt hClosed =>
          rw [hAt] at hHandled
          dsimp only
          rw [List.append_nil, Function.update_self]
          refine ⟨⟨_, hHandled.2⟩, fun hEnded => ?_⟩
          exact absurd hHandled.1 hEnded

theorem handling_of_run
    {es : List CommandEvent}
    {x : ClientLoop × State}
    (hChunks : ChunksOk C chunks)
    (hRun : (commandLoop s₀ chunks).Run es h x) :
    ∃ lines, Handling s₀.clients C chunks.flatten lines h
      x.1 x.2 := by
  refine Machine.run_invariant
    (motive := fun h x =>
      ∃ lines, Handling s₀.clients C chunks.flatten lines h
        x.1 x.2) ?_ ?_ hRun
  · refine ⟨[], Control.reading_start hChunks, nofun, ?_⟩
    change Handled [] (.start chunks) []
      (Function.update s₀.handler s₀.clients .reading
        s₀.clients)
    rw [Function.update_self]
    exact ⟨rfl, rfl⟩
  · rintro h ⟨loop, s⟩ e ⟨loop', s'⟩ o
      ⟨lines, hHandling⟩ hStep
    exact handling_step hHandling hStep

theorem commands_mono
    {lines' : List Bytes}
    (hPrefix : lines <+: lines') :
    commands lines <+: commands lines' := by
  rcases hPrefix with ⟨rest, rfl⟩
  rw [commands_append]
  exact List.prefix_append _ _

/- What was queued are commands of the lines handled. -/
theorem queued_of_handled
    {queued : List String}
    {handler : Handler}
    (hHandled : Handled lines loop queued handler) :
    queued <+: commands lines ∧
      (loop.ended ≠ none → queued = commands lines) := by
  cases handler with
  | reading =>
      rcases hHandled with ⟨hOpen, hQueued⟩
      rw [hQueued]
      exact ⟨List.prefix_refl _, fun _ => rfl⟩
  | sending trimmed =>
      rcases hHandled with ⟨hOpen, hQueued⟩
      refine ⟨⟨[trimmed], hQueued⟩, fun hEnded => ?_⟩
      exact absurd hOpen hEnded
  | ended => exact hHandled
  | absent => exact hHandled.elim
  | failed => exact hHandled.elim

/-
  A handler queues the commands of the accepted lines in
  their order, and all of them before it ends with the loop.
-/
theorem queued_of_run
    {es : List CommandEvent}
    {x : ClientLoop × State}
    (hChunks : ChunksOk C chunks)
    (hRun : (commandLoop s₀ chunks).Run es h x) :
    queuedBy s₀.clients h <+:
        commands (acceptedLines chunks.flatten) ∧
      (x.1.ended ≠ none →
        queuedBy s₀.clients h =
          commands (acceptedLines chunks.flatten)) := by
  rcases handling_of_run hChunks hRun with ⟨lines, hHandling⟩
  rcases Control.accepted_of_reading hHandling.reading
    hHandling.short with ⟨hFirst, hAll⟩
  rcases queued_of_handled hHandling.handled with
    ⟨hQueued, hEvery⟩
  refine ⟨hQueued.trans (commands_mono hFirst), ?_⟩
  intro hEnded
  rw [hEvery hEnded, hAll hEnded]

------------------------------------------------------------
-- The Queue
------------------------------------------------------------

/- No step opens a closed queue or puts anything into it. -/
theorem handlerStep_closed
    {event : HandlerEvent}
    (hClosed : s.upstreamTx.isOpen = false)
    (hStep : handlerStep c s loop event =
      some ((loop', s'), o)) :
    s'.upstreamTx.isOpen = false ∧ o = [] := by
  rcases handlerStep_cases hStep with ⟨_, hCase⟩
  cases hCase with
  | queued _ hSend =>
      have hAccepts := (Channel.trySend_sent_iff.mp hSend).1
      rw [hAccepts.1] at hClosed
      cases hClosed
  | _ => exact ⟨hClosed, rfl⟩

theorem queueStep_closed
    {channel channel' : Channel String 256}
    {event : QueueEvent}
    (hClosed : channel.isOpen = false)
    (hStep : queueStep channel event = some channel') :
    channel'.isOpen = false := by
  cases event with
  | recv =>
      rcases Option.map_eq_some_iff.mp hStep with
        ⟨⟨message, next⟩, hRecv, rfl⟩
      rw [(Channel.recv_some_iff.mp hRecv).2]
      exact hClosed
  | send message =>
      unfold queueStep at hStep
      dsimp only at hStep
      rw [Channel.trySend_closed_iff.mpr hClosed] at hStep
      cases hStep
  | close =>
      cases hStep
      rfl

theorem commandStep_closed
    {event : CommandEvent}
    (hClosed : s.upstreamTx.isOpen = false)
    (hStep : commandStep c loop s event =
      some ((loop', s'), o)) :
    s'.upstreamTx.isOpen = false ∧ o = [] := by
  unfold commandStep at hStep
  cases event with
  | read =>
      dsimp only at hStep
      split at hStep
      · cases hStep
      split at hStep
      · cases hStep
      · split at hStep
        · cases hStep
          exact ⟨hClosed, rfl⟩
        · exact handlerStep_closed hClosed hStep
      · exact handlerStep_closed hClosed hStep
  | send => exact handlerStep_closed hClosed hStep
  | queue event =>
      dsimp only at hStep
      split at hStep
      · cases hStep
      · next hQueue =>
          cases hStep
          exact ⟨queueStep_closed hClosed hQueue, rfl⟩

theorem closed_of_run
    {es : List CommandEvent}
    {x : ClientLoop × State}
    (hClosed : s₀.upstreamTx.isOpen = false)
    (hRun : (commandLoop s₀ chunks).Run es h x) :
    h = [] := by
  have hKeeps : ∀ (x : ClientLoop × State) event x' o,
      x.2.upstreamTx.isOpen = false →
      (commandLoop s₀ chunks).step x event = some (x', o) →
      x'.2.upstreamTx.isOpen = false ∧ ∀ y ∈ o, False := by
    rintro ⟨loop, s⟩ event ⟨loop', s'⟩ o hBefore hStep
    rcases commandStep_closed hBefore hStep with
      ⟨hAfter, rfl⟩
    exact ⟨hAfter, nofun⟩
  have hNothing := Machine.exec_keeps hKeeps hClosed hRun
  exact List.eq_nil_iff_forall_not_mem.mpr hNothing.2

/-
  The handler can go on: its queue has a receiver, and it
  reads while the loop does.
-/
structure Ready
    (c : ClientId)
    (loop : ClientLoop)
    (x : ClientLoop × State) : Prop where
  same : x.1 = loop
  isOpen : x.2.upstreamTx.isOpen = true
  reads : loop.ended = none → x.2.handler c = .reading

/- A command goes into a queue with room. -/
theorem step_send
    {trimmed : String}
    (loop : ClientLoop)
    (hAccepts : s.upstreamTx.Accepts)
    (hAt : s.handler c = .sending trimmed) :
    ∃ s' o, commandStep c loop s .send =
        some ((loop, s'), o) ∧
      Ready c loop (loop, s') := by
  rcases hAccepts.exists_sent trimmed with
    ⟨channel, hSend, _, hOpen⟩
  refine ⟨{ s with
    handler := Function.update s.handler c .reading
    upstreamTx := channel }, [.queued c trimmed], ?_,
    rfl, hOpen, fun _ => Function.update_self ..⟩
  unfold commandStep handlerStep handleClient
  rw [hAt]
  dsimp only
  rw [hSend]

/- A full queue has room after one message is received. -/
theorem exec_send
    {trimmed : String}
    (chunks : List Bytes)
    (hOpen : s.upstreamTx.isOpen = true)
    (hAt : s.handler s₀.clients = .sending trimmed) :
    ∃ es x o, (commandLoop s₀ chunks).exec (loop, s) es =
        some (x, o) ∧
      Ready s₀.clients loop x := by
  by_cases hRoom : s.upstreamTx.queue.length < 256
  · rcases step_send loop ⟨hOpen, hRoom⟩ hAt with
      ⟨s', o, hStep, hReady⟩
    exact ⟨[.send], (loop, s'), o,
      Machine.exec_one hStep, hReady⟩
  · cases hQueue : s.upstreamTx.queue with
    | nil =>
        rw [hQueue] at hRoom
        exact absurd (by decide) hRoom
    | cons message rest =>
        rcases Channel.exists_recv hQueue with
          ⟨channel, hRecv, hRest, hStill⟩
        have hBound := s.upstreamTx.bounded
        rw [hQueue, List.length_cons] at hBound
        have hAccepts : channel.Accepts :=
          ⟨hStill.trans hOpen, by rw [hRest]; omega⟩
        rcases step_send loop
          (s := { s with upstreamTx := channel })
          hAccepts hAt with ⟨s', o, hStep, hReady⟩
        have hFirst :
            commandStep s₀.clients loop s (.queue .recv) =
              some ((loop,
                { s with upstreamTx := channel }), []) := by
          unfold commandStep queueStep
          rw [hRecv]
          rfl
        exact ⟨[.queue .recv, .send], (loop, s'), [] ++ o,
          Machine.exec_cons hFirst (Machine.exec_one hStep),
          hReady⟩

/- A round of the loop is a step of the handler. -/
theorem commandStep_read
    (hAt : s.handler c = .reading) :
    readRound maxLineBytes loop = some (loop', lines) →
    commandStep c loop s .read =
      match lines with
      | [] =>
          if loop'.ended = none then some ((loop', s), [])
          else handlerStep c s loop' .close
      | line :: _ =>
          handlerStep c s loop'
            (.line (Text.fromUtf8Lossy line)) := by
  intro hRound
  unfold commandStep
  dsimp only
  rw [if_neg (not_not.mpr hAt), hRound]
  cases lines <;> rfl

/- The handler can follow every round of the read loop. -/
theorem exec_round
    {x : ClientLoop × State}
    (hReady : Ready s₀.clients loop x)
    (hRound : readRound maxLineBytes loop =
      some (loop', lines)) :
    ∃ es x' o, (commandLoop s₀ chunks).exec x es =
        some (x', o) ∧
      Ready s₀.clients loop' x' := by
  rcases x with ⟨loop, s⟩
  rcases hReady with ⟨rfl, hOpen, hReads⟩
  dsimp only at hOpen hReads
  have hRunning : loop.ended = none := by
    by_contra hEnded
    unfold readRound at hRound
    rw [if_pos hEnded] at hRound
    cases hRound
  have hAt := hReads hRunning
  have hStep := commandStep_read hAt hRound
  cases lines with
  | nil =>
      dsimp only at hStep
      by_cases hMore : loop'.ended = none
      · rw [if_pos hMore] at hStep
        exact ⟨[.read], (loop', s), [],
          Machine.exec_one hStep, rfl, hOpen, fun _ => hAt⟩
      · unfold handlerStep handleClient at hStep
        rw [if_neg hMore, hAt] at hStep
        exact ⟨[.read], (loop', _), [],
          Machine.exec_one hStep, rfl, hOpen,
          fun hNone => absurd hNone hMore⟩
  | cons line rest =>
      unfold handlerStep handleClient at hStep
      rw [hAt] at hStep
      by_cases hBlank :
          Text.trim (Text.fromUtf8Lossy line) = ""
      · dsimp only at hStep
        rw [if_pos hBlank] at hStep
        exact ⟨[.read], (loop', s), [],
          Machine.exec_one hStep, rfl, hOpen, fun _ => hAt⟩
      · dsimp only at hStep
        rw [if_neg hBlank] at hStep
        rcases exec_send chunks
          (s := { s with
            handler := Function.update s.handler s₀.clients
              (.sending (commandText line)) })
          hOpen (Function.update_self ..) with
          ⟨es, x, o, hSend, hReady⟩
        exact ⟨.read :: es, x, [] ++ o,
          Machine.exec_cons hStep hSend, hReady⟩

/- With a receiver there, the stream can be read to its end. -/
theorem commandLoop_ends
    (hOpen : s₀.upstreamTx.isOpen = true)
    (hChunks : ChunksOk C chunks) :
    ∃ es h x, (commandLoop s₀ chunks).Run es h x ∧
      x.1.ended ≠ none := by
  have hEnds : ∃ es loop o,
      (clientReader chunks).exec (.start chunks) es =
        some (loop, o) ∧ loop.ended ≠ none :=
    Control.reading_ends hChunks
  rcases hEnds with ⟨ds, loop, o, hExec, hEnded⟩
  have hReady : Ready s₀.clients (.start chunks)
      (commandLoop s₀ chunks).init :=
    ⟨rfl, hOpen, fun _ => Function.update_self ..⟩
  have hFollows : ∀ loop x event loop' lines,
      Ready s₀.clients loop x →
      (clientReader chunks).step loop event =
        some (loop', lines) →
      ∃ es x' o, (commandLoop s₀ chunks).exec x es =
          some (x', o) ∧
        Ready s₀.clients loop' x' :=
    fun _ _ _ _ _ => exec_round
  rcases Machine.exec_simulates hFollows hReady hExec with
    ⟨es, x, h, hRun, hAfter⟩
  exact ⟨es, h, x, hRun, hAfter.same ▸ hEnded⟩

------------------------------------------------------------
-- Only Complete Commands
------------------------------------------------------------

/- Chunks that are not empty are of some length at most. -/
theorem chunksOk_flatten
    (hChunks : ∀ chunk ∈ chunks, chunk ≠ []) :
    ChunksOk chunks.flatten.length chunks :=
  fun chunk hMem => ⟨hChunks chunk hMem,
    (List.sublist_flatten_of_mem hMem).length_le⟩

/-
  The handler of a client queues only complete commands, in
  every run over a stream in whatever chunks, exactly when
  the fragment at the end of the stream is silent, or when
  the queue is closed from the beginning.
-/
theorem only_complete_commands_iff
    (s₀ : State)
    (chunks : List Bytes)
    (hChunks : ∀ chunk ∈ chunks, chunk ≠ []) :
    (∀ es h x, (commandLoop s₀ chunks).Run es h x →
      OnlyComplete s₀.clients chunks.flatten h x.1) ↔
    s₀.upstreamTx.isOpen = false ∨
      FragmentSilent chunks.flatten := by
  have hOk := chunksOk_flatten hChunks
  constructor
  · intro hOnly
    by_contra hNot
    rw [not_or, Bool.not_eq_false] at hNot
    rcases hNot with ⟨hOpen, hSpeaks⟩
    rcases commandLoop_ends hOpen hOk with
      ⟨es, h, x, hRun, hEnded⟩
    have hAll := (hOnly es h x hRun).all hEnded
    have hEvery := (queued_of_run hOk hRun).2 hEnded
    rw [hAll, commands_acceptedLines_fragment hSpeaks] at hEvery
    simp at hEvery
  · rintro (hClosed | hSilent) es h x hRun
    · have hNone := closed_of_run hClosed hRun
      subst hNone
      refine ⟨List.nil_prefix, fun hEnded => ?_⟩
      have hEvery := (queued_of_run hOk hRun).2 hEnded
      by_cases hSilent : FragmentSilent chunks.flatten
      · rw [hEvery, commands_acceptedLines hSilent]
      · -- The fragment could not be queued.
        rw [queuedBy_nil,
          commands_acceptedLines_fragment hSilent] at hEvery
        have hText := List.append_eq_nil_iff.mp hEvery.symm
        cases hText.2
    · rcases queued_of_run hOk hRun with ⟨hFirst, hAll⟩
      rw [commands_acceptedLines hSilent] at hFirst hAll
      exact ⟨hFirst, hAll⟩

/- The only command, in two chunks, and its line feed. -/
theorem only_complete_commands_iff_terminated :
    (∀ es h x, (commandLoop State.init
        [[123], [125, 10]]).Run es h x →
      OnlyComplete 0 [123, 125, 10] h x.1) ↔
    State.init.upstreamTx.isOpen = false ∨
      FragmentSilent [123, 125, 10] :=
  only_complete_commands_iff State.init [[123], [125, 10]]
    (by decide)

/-
  The client is cut off behind the third byte of a command.
  The handler queues them, and no line was ever ended.
-/
theorem fragment_is_queued :
    completeCommands [123, 34, 105] = [] ∧
    ∃ es h x, (commandLoop State.init
        [[123, 34, 105]]).Run es h x ∧
      h = [.queued 0 "\x7b\"i"] ∧
      ¬ OnlyComplete 0 [123, 34, 105] h x.1 := by
  have hNone : completeCommands [123, 34, 105] = [] := by
    decide
  refine ⟨hNone, [.read, .read, .send], _, _, rfl, ?_, ?_⟩
  · decide
  · intro hOnly
    have hPrefix := hOnly.prefix_of
    rw [hNone] at hPrefix
    exact absurd hPrefix (by decide)

end Imaging

end SeestarProxy
