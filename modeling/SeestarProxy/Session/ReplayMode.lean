import SeestarProxy.Control.EventDelivery
import SeestarProxy.Session.Replay

/-
  The control proxy in replay mode.

  There is no telescope: one task plays the recorded lines
  back to all clients, another one takes whatever is queued
  for the telescope and throws it away. Clients are accepted
  and served by the same tasks as in a live proxy, so their
  requests enter the pending map, from which nothing takes
  them out again.

  The waits between the recorded lines are left out: the
  next line may come at any time.

  Main declarations:
    * `Stage`, `ReplayEvent`, `replayProxy` and `ReplayStep`
    * `FromHere` and `Spent`
    * `ReplayServed` and `replay_served`
-/

------------------------------------------------------------
-- The Replaying Proxy
------------------------------------------------------------

namespace SeestarProxy

namespace Session

open Control (ClientId ConnId Env Event HandlerEvent Message
  Obs WriterEvent Writer)
open Library Protocol

/-
  The state of the replaying proxy: that of its client tasks,
  the lines that are not played yet, and where each client
  subscribed, which is only recorded.
-/
structure Stage where
  proxy : Control.State
  left : List ControlEntry
  subscribed : ClientId → Nat

def Stage.init (entries : List ControlEntry) : Stage where
  proxy := Control.State.init
  left := entries
  subscribed := fun _ => 0

/- One step of the replaying proxy. -/
inductive ReplayEvent where
| accept
| client (c : ClientId) (event : HandlerEvent)
| writer (c : ClientId) (event : WriterEvent)
| hookSend (value : Value)
| drain
| play

/- A step of a task that serves the clients. -/
def Stage.next
    (s : Stage)
    (step : Option (Control.State × List Obs)) :
    Option (Stage × List Obs) :=
  step.map fun next => ({ s with proxy := next.1 }, next.2)

/- The task that takes what is queued for the telescope. -/
def replayDrain
    (env : Env)
    (s : Stage) : Option (Stage × List Obs) :=
  match s.proxy.upstreamTx.recv with
  | none => none
  | some (message, channel) =>
      if Control.previewPanics env.debugLogged
          message.line 120 then
        some ({ s with
          proxy := { s.proxy with
            upstreamTx := s.proxy.upstreamTx.close } }, [])
      else
        some ({ s with
          proxy := { s.proxy with upstreamTx := channel } },
          [.taken message])

/- The task that plays the next recorded line. -/
def replayNext (s : Stage) : Option (Stage × List Obs) :=
  match s.left with
  | [] => none
  | entry :: rest =>
      some ({ s with
        left := rest
        proxy := { s.proxy with
          handshakeDone := true
          events := s.proxy.events ++ [(0, entry.raw)] } },
        [.broadcast 0 entry.raw])

def replayStep
    (env : Env)
    (s : Stage) :
    ReplayEvent → Option (Stage × List Obs)
| .accept =>
    some ({ s with
      proxy := Control.acceptClient s.proxy
      subscribed := Function.update s.subscribed
        s.proxy.clients s.proxy.events.length }, [])
| .client c event =>
    s.next (Control.handleClient env s.proxy c event)
| .writer c event =>
    s.next (Control.clientWriter s.proxy c event)
| .hookSend value =>
    s.next (Control.hookSend env s.proxy value)
| .drain => replayDrain env s
| .play => replayNext s

/- `run` with a session to replay. -/
def replayProxy
    (env : Env)
    (entries : List ControlEntry) :
    Machine Stage ReplayEvent Obs where
  init := Stage.init entries
  step := replayStep env

------------------------------------------------------------
-- Steps
------------------------------------------------------------

variable {env : Env} {entries : List ControlEntry}
variable {h o : List Obs} {s s' : Stage}
variable {p p' : Control.State} {c : ClientId}

/- The outcomes of one step of the replaying proxy. -/
inductive ReplayStep
    (env : Env)
    (s : Stage) :
    ReplayEvent → Stage → List Obs → Prop
| accepted :
    ReplayStep env s .accept
      { s with
        proxy := Control.acceptClient s.proxy
        subscribed := Function.update s.subscribed
          s.proxy.clients s.proxy.events.length } []
| client {c : ClientId} {event : HandlerEvent}
    {p : Control.State} {o : List Obs}
    (hTask : Control.HandlerStep env s.proxy c event p o) :
    ReplayStep env s (.client c event)
      { s with proxy := p } o
| writer {c : ClientId} {event : WriterEvent}
    {p : Control.State} {o : List Obs}
    (hTask : Control.clientWriter s.proxy c event =
      some (p, o)) :
    ReplayStep env s (.writer c event)
      { s with proxy := p } o
| hookSent {value : Value} {message : Message}
    {channel : Channel Message 256}
    (hSend : s.proxy.upstreamTx.trySend message =
      .sent channel) :
    ReplayStep env s (.hookSend value)
      { s with
        proxy := { s.proxy with upstreamTx := channel } }
      [.queued message]
| hookIgnored {value : Value} :
    ReplayStep env s (.hookSend value) s []
| drained {message : Message} {channel : Channel Message 256}
    (hRecv : s.proxy.upstreamTx.recv =
      some (message, channel)) :
    ReplayStep env s .drain
      { s with
        proxy := { s.proxy with upstreamTx := channel } }
      [.taken message]
| drainStopped :
    ReplayStep env s .drain
      { s with
        proxy := { s.proxy with
          upstreamTx := s.proxy.upstreamTx.close } } []
| played {entry : ControlEntry} {rest : List ControlEntry}
    (hLeft : s.left = entry :: rest) :
    ReplayStep env s .play
      { s with
        left := rest
        proxy := { s.proxy with
          handshakeDone := true
          events := s.proxy.events ++ [(0, entry.raw)] } }
      [.broadcast 0 entry.raw]

theorem replayStep_cases
    {e : ReplayEvent}
    (hStep : replayStep env s e = some (s', o)) :
    ReplayStep env s e s' o := by
  cases e with
  | accept =>
      cases hStep
      exact .accepted
  | client c event =>
      rcases Option.map_eq_some_iff.mp hStep with
        ⟨⟨p, o'⟩, hTask, hEq⟩
      cases hEq
      exact .client (Control.handleClient_cases hTask)
  | writer c event =>
      rcases Option.map_eq_some_iff.mp hStep with
        ⟨⟨p, o'⟩, hTask, hEq⟩
      cases hEq
      exact .writer hTask
  | hookSend value =>
      rcases Option.map_eq_some_iff.mp hStep with
        ⟨⟨p, o'⟩, hTask, hEq⟩
      cases hEq
      unfold Control.hookSend at hTask
      split at hTask
      · cases hTask
      · split at hTask
        · cases hTask
          exact .hookIgnored
        · split at hTask
          · rename_i channel hSend
            cases hTask
            exact .hookSent hSend
          · cases hTask
            exact .hookIgnored
          · cases hTask
            exact .hookIgnored
  | drain =>
      simp only [replayStep, replayDrain] at hStep
      split at hStep
      · cases hStep
      · rename_i message channel hRecv
        split at hStep
        · cases hStep
          exact .drainStopped
        · cases hStep
          exact .drained hRecv
  | play =>
      simp only [replayStep, replayNext] at hStep
      split at hStep
      · cases hStep
      · rename_i entry rest hLeft
        cases hStep
        exact .played hLeft

------------------------------------------------------------
-- What Is Played
------------------------------------------------------------

/- What was broadcast and what is left are the recording. -/
theorem played_of_run
    {es : List ReplayEvent}
    (hRun : (replayProxy env entries).Run es h s) :
    s.proxy.events.map Prod.snd ++
        s.left.map ControlEntry.raw =
      entries.map ControlEntry.raw := by
  refine Machine.run_invariant
    (motive := fun _ s =>
      s.proxy.events.map Prod.snd ++
          s.left.map ControlEntry.raw =
        entries.map ControlEntry.raw) rfl ?_ hRun
  intro h s e s' o hInv hNext
  have hStep : ReplayStep env s e s' o :=
    replayStep_cases hNext
  cases hStep with
  | client hTask => cases hTask <;> exact hInv
  | writer hTask =>
      cases Control.clientWriter_cases hTask <;> exact hInv
  | played hLeft =>
      rw [← hInv, hLeft]
      simp
  | _ => exact hInv

------------------------------------------------------------
-- Requests
------------------------------------------------------------

/-
  A request was refused, so the map is full, unless the task
  that throws the queue away has panicked. Only then a
  handler takes a request back.
-/
structure Spent (h : List Obs) (p : Control.State) : Prop where
  closing : ∀ c seq key,
    p.handler c = .unregistering seq key →
      p.upstreamTx.isOpen = false
  full : (∃ c seq, .refused c seq ∈ h) →
    p.upstreamTx.isOpen = true →
      Control.maxPendingRequests ≤ p.pending.size

/- A handler moves on. -/
private theorem Spent.of_handler
    {next : Control.Handler}
    (hSpent : Spent h p)
    (hHandler :
      p'.handler = Function.update p.handler c next)
    (hNext : ∀ seq key, next = .unregistering seq key →
      p.upstreamTx.isOpen = false)
    (hOpen : p'.upstreamTx.isOpen = p.upstreamTx.isOpen)
    (hFull : (∃ c seq, .refused c seq ∈ h ++ o) →
      p.upstreamTx.isOpen = true →
        Control.maxPendingRequests ≤ p'.pending.size) :
    Spent (h ++ o) p' where
  closing := by
    intro c' seq key hAt
    rw [hOpen]
    rw [hHandler] at hAt
    by_cases hClient : c' = c
    · subst hClient
      rw [Function.update_self] at hAt
      exact hNext seq key hAt
    · rw [Function.update_of_ne hClient] at hAt
      exact hSpent.closing c' seq key hAt
  full := by
    rw [hOpen]
    exact hFull

/- A step that refuses nothing and takes nothing back. -/
private theorem Spent.full_of_quiet
    (hSpent : Spent h p)
    (hQuiet : ∀ c seq, .refused c seq ∉ o)
    (hSize : p.pending.size ≤ p'.pending.size) :
    (∃ c seq, .refused c seq ∈ h ++ o) →
      p.upstreamTx.isOpen = true →
        Control.maxPendingRequests ≤ p'.pending.size := by
  rintro ⟨c, seq, hMem⟩ hOpen
  rcases List.mem_append.mp hMem with hOld | hNew
  · exact (hSpent.full ⟨c, seq, hOld⟩ hOpen).trans hSize
  · exact absurd hNew (hQuiet c seq)

/- The handlers keep count of what they were refused. -/
private theorem spent_of_handler
    {event : HandlerEvent}
    (hSpent : Spent h p)
    (hTask : Control.HandlerStep env p c event p' o) :
    Spent (h ++ o) p' := by
  cases hTask with
  | idle hRunning hBefore hAfter hEvent =>
      refine hSpent.of_handler rfl ?_ rfl
        (hSpent.full_of_quiet (by simp) le_rfl)
      rintro seq key rfl
      exact hAfter.elim
  | allocated hAt hHook hId hNext =>
      refine hSpent.of_handler rfl ?_ rfl
        (hSpent.full_of_quiet (by simp) le_rfl)
      rintro seq key rfl
      rcases hNext with hNext | ⟨forwarded, -, hNext⟩
      · cases hNext
      · cases hNext
  | parsed hAt | notifying hAt hId | hookReplied hAt hSend
  | refusalSent hAt hSend | refusalClosed hAt hClosed =>
      exact hSpent.of_handler rfl (by simp) rfl
        (hSpent.full_of_quiet (by simp) le_rfl)
  | registered hAt hLock hRoom =>
      exact hSpent.of_handler rfl (by simp) rfl
        (hSpent.full_of_quiet (by simp)
          Control.PendingMap.size_le_insert)
  | refusedSent hAt hLock hFull hSend
  | refusedClosed hAt hLock hFull hClosed
  | refusedBlocked hAt hLock hFull hBlocks =>
      exact hSpent.of_handler rfl (by simp) rfl
        (fun _ _ => hFull)
  | requestQueued hAt hSend | notificationQueued hAt hSend =>
      have hSent := Channel.trySend_sent_iff.mp hSend
      refine hSpent.of_handler rfl (by simp) ?_
        (hSpent.full_of_quiet (by simp) le_rfl)
      exact hSent.2.2.trans hSent.1.1.symm
  | requestFailed hAt hClosed =>
      exact hSpent.of_handler rfl (fun _ _ _ => hClosed) rfl
        (hSpent.full_of_quiet (by simp) le_rfl)
  | unregistered hAt hLock =>
      have hClosed := hSpent.closing _ _ _ hAt
      refine hSpent.of_handler rfl (by simp) rfl ?_
      intro _ hOpen
      rw [hClosed] at hOpen
      cases hOpen

/- A step that leaves handlers and pending map alone. -/
private theorem Spent.of_same
    (hSpent : Spent h p)
    (hHandler : p'.handler = p.handler)
    (hPending : p'.pending = p.pending)
    (hOpen : p'.upstreamTx.isOpen = true →
      p.upstreamTx.isOpen = true)
    (hQuiet : ∀ c seq, .refused c seq ∉ o) :
    Spent (h ++ o) p' where
  closing := by
    intro c seq key hAt
    rw [hHandler] at hAt
    have hClosed := hSpent.closing c seq key hAt
    by_contra hNot
    rw [hOpen (Bool.of_not_eq_false hNot)] at hClosed
    cases hClosed
  full := by
    intro hRefused hNow
    exact hSpent.full_of_quiet hQuiet
      (Nat.le_of_eq (by rw [hPending])) hRefused (hOpen hNow)

theorem spent_of_run
    {es : List ReplayEvent}
    (hRun : (replayProxy env entries).Run es h s) :
    Spent h s.proxy := by
  refine Machine.run_invariant
    (motive := fun h s => Spent h s.proxy) ?_ ?_ hRun
  · exact ⟨nofun, nofun⟩
  intro h s e s' o hSpent hNext
  have hStep : ReplayStep env s e s' o :=
    replayStep_cases hNext
  cases hStep with
  | accepted =>
      exact hSpent.of_handler rfl (by simp) rfl
        (hSpent.full_of_quiet (by simp) le_rfl)
  | client hTask => exact spent_of_handler hSpent hTask
  | writer hTask =>
      cases Control.clientWriter_cases hTask <;>
        exact hSpent.of_same rfl rfl (fun hNow => hNow)
          (by simp)
  | hookSent hSend =>
      exact hSpent.of_same rfl rfl
        (fun _ => (Channel.trySend_sent_iff.mp hSend).1.1)
        (by simp)
  | hookIgnored =>
      exact hSpent.of_same rfl rfl (fun hNow => hNow)
        (by simp)
  | drained hRecv =>
      refine hSpent.of_same rfl rfl ?_ (by simp)
      rw [(Channel.recv_some_iff.mp hRecv).2]
      exact fun hNow => hNow
  | drainStopped =>
      exact hSpent.of_same rfl rfl nofun (by simp)
  | played hLeft =>
      exact hSpent.of_same rfl rfl (fun hNow => hNow)
        (by simp)

------------------------------------------------------------
-- What a Client Is Sent
------------------------------------------------------------

/- A text that was put on the client's response channel. -/
def Answer
    (h : List Obs)
    (c : ClientId)
    (text : String) : Prop :=
  .hookReply c text ∈ h ∨
    ∃ seq, .reply .overflow c seq text ∈ h

/- A text for a client: a recorded line, or an answer. -/
def FromHere
    (h : List Obs)
    (c : ClientId)
    (text : String) : Prop :=
  (∃ conn, .eventRead c conn text ∈ h) ∨ Answer h c text

theorem Answer.append
    {text : String}
    (hAnswer : Answer h c text) :
    Answer (h ++ o) c text := by
  rcases hAnswer with hHook | ⟨seq, hRefusal⟩
  · exact Or.inl (List.mem_append_left _ hHook)
  · exact Or.inr ⟨seq, List.mem_append_left _ hRefusal⟩

theorem FromHere.append
    {text : String}
    (hFrom : FromHere h c text) :
    FromHere (h ++ o) c text := by
  rcases hFrom with ⟨conn, hRead⟩ | hAnswer
  · exact Or.inl ⟨conn, List.mem_append_left _ hRead⟩
  · exact Or.inr hAnswer.append

/- A step that is no telescope's doing. -/
def NoTelescope : Obs → Prop
| .received _ _ | .removed _ _ _ | .written _ _
| .drained _ _ _ => False
| .reply source _ _ _ => source = .overflow
| _ => True

/-
  The texts on the channels, in the hands of the writers and
  delivered to the clients all come from the proxy.
-/
structure Sourced
    (h : List Obs)
    (p : Control.State) : Prop where
  queued : ∀ c, ∀ text ∈ (p.responseTx c).queue,
    Answer h c text
  writing : ∀ c text, p.writer c = .writing text →
    FromHere h c text
  delivered : ∀ c text, .delivered c text ∈ h →
    FromHere h c text
  fromHere : ∀ x ∈ h, NoTelescope x

/- A step that leaves channels and writers alone. -/
private theorem Sourced.of_same
    (hSourced : Sourced h p)
    (hQueue : p'.responseTx = p.responseTx)
    (hWriter : p'.writer = p.writer)
    (hNone : ∀ c text, .delivered c text ∉ o)
    (hLocal : ∀ x ∈ o, NoTelescope x) :
    Sourced (h ++ o) p' where
  queued := by
    rw [hQueue]
    intro c text hMem
    exact (hSourced.queued c text hMem).append
  writing := by
    rw [hWriter]
    intro c text hAt
    exact (hSourced.writing c text hAt).append
  delivered := by
    intro c text hMem
    rcases List.mem_append.mp hMem with hOld | hNew
    · exact (hSourced.delivered c text hOld).append
    · exact absurd hNew (hNone c text)
  fromHere := by
    intro x hMem
    rcases List.mem_append.mp hMem with hOld | hNew
    · exact hSourced.fromHere x hOld
    · exact hLocal x hNew

/- An answer is put on a client's channel. -/
private theorem Sourced.of_sent
    {text : String}
    {channel : Channel String 64}
    (hSourced : Sourced h p)
    (hSend : (p.responseTx c).trySend text = .sent channel)
    (hQueue : p'.responseTx =
      Function.update p.responseTx c channel)
    (hWriter : p'.writer = p.writer)
    (hAnswer : Answer o c text)
    (hNone : ∀ c text, .delivered c text ∉ o)
    (hLocal : ∀ x ∈ o, NoTelescope x) :
    Sourced (h ++ o) p' where
  queued := by
    rw [hQueue]
    intro c' text' hMem
    by_cases hClient : c' = c
    · subst hClient
      rw [Function.update_self] at hMem
      rcases Channel.mem_queue_of_sent hSend hMem with
        hOld | rfl
      · exact (hSourced.queued c' text' hOld).append
      · rcases hAnswer with hHook | ⟨seq, hRefusal⟩
        · exact Or.inl (List.mem_append_right _ hHook)
        · exact Or.inr
            ⟨seq, List.mem_append_right _ hRefusal⟩
    · rw [Function.update_of_ne hClient] at hMem
      exact (hSourced.queued c' text' hMem).append
  writing := by
    rw [hWriter]
    intro c text hAt
    exact (hSourced.writing c text hAt).append
  delivered := by
    intro c text hMem
    rcases List.mem_append.mp hMem with hOld | hNew
    · exact (hSourced.delivered c text hOld).append
    · exact absurd hNew (hNone c text)
  fromHere := by
    intro x hMem
    rcases List.mem_append.mp hMem with hOld | hNew
    · exact hSourced.fromHere x hOld
    · exact hLocal x hNew

/- A handler answers for the proxy alone. -/
private theorem sourced_of_handler
    {event : HandlerEvent}
    (hSourced : Sourced h p)
    (hTask : Control.HandlerStep env p c event p' o) :
    Sourced (h ++ o) p' := by
  cases hTask with
  | hookReplied hAt hSend =>
      exact hSourced.of_sent hSend rfl rfl
        (Or.inl List.mem_cons_self) (by simp)
        (by simp [NoTelescope])
  | refusedSent hAt hLock hFull hSend =>
      exact hSourced.of_sent hSend rfl rfl
        (Or.inr ⟨_, List.mem_cons_of_mem _
          List.mem_cons_self⟩) (by simp)
        (by simp [NoTelescope])
  | refusalSent hAt hSend =>
      exact hSourced.of_sent hSend rfl rfl
        (Or.inr ⟨_, List.mem_cons_self⟩) (by simp)
        (by simp [NoTelescope])
  | _ =>
      exact hSourced.of_same rfl rfl (by simp)
        (by simp [NoTelescope])

/- A writer hands on what it took. -/
private theorem sourced_of_writer
    {event : WriterEvent}
    (hSourced : Sourced h p)
    (hTask : Control.WriterStep p c event p' o) :
    Sourced (h ++ o) p' := by
  have hQueued {channel : Channel String 64}
      (hFewer : ∀ text ∈ channel.queue,
        text ∈ (p.responseTx c).queue)
      (c' : ClientId) (text : String)
      (hMem : text ∈ (Function.update p.responseTx c
        channel c').queue) :
      Answer (h ++ o) c' text := by
    by_cases hClient : c' = c
    · subst hClient
      rw [Function.update_self] at hMem
      exact (hSourced.queued c' text
        (hFewer text hMem)).append
    · rw [Function.update_of_ne hClient] at hMem
      exact (hSourced.queued c' text hMem).append
  have hWriting {next : Writer}
      (hNext : ∀ text, next = .writing text →
        FromHere (h ++ o) c text)
      (c' : ClientId) (text : String)
      (hAt : Function.update p.writer c next c' =
        .writing text) :
      FromHere (h ++ o) c' text := by
    by_cases hClient : c' = c
    · subst hClient
      rw [Function.update_self] at hAt
      exact hNext text hAt
    · rw [Function.update_of_ne hClient] at hAt
      exact (hSourced.writing c' text hAt).append
  have hOld (c' : ClientId) (text : String)
      (hMem : .delivered c' text ∈ h) :
      FromHere (h ++ o) c' text :=
    (hSourced.delivered c' text hMem).append
  cases hTask with
  | @received text channel hAt hRecv =>
      refine ⟨hQueued fun _ => Channel.mem_queue_of_recv hRecv,
        hWriting ?_, ?_, by simpa using hSourced.fromHere⟩
      · rintro text' hEq
        cases hEq
        exact Or.inr (hSourced.queued c text
          (Channel.received_mem_queue hRecv)).append
      · intro c' text' hMem
        exact hOld c' text' (by simpa using hMem)
  | lagged hAt hLag =>
      exact hSourced.of_same rfl rfl (by simp) (by simp)
  | @eventRead conn text hAt hEvent =>
      refine ⟨fun c' text' hMem =>
          (hSourced.queued c' text' hMem).append,
        hWriting ?_, ?_, ?_⟩
      · rintro text' hEq
        cases hEq
        exact Or.inl ⟨conn, List.mem_append_right _
          List.mem_cons_self⟩
      · intro c' text' hMem
        exact hOld c' text' (by simpa using hMem)
      · intro x hMem
        rcases List.mem_append.mp hMem with hIn | hNew
        · exact hSourced.fromHere x hIn
        · rw [List.mem_singleton.mp hNew]
          trivial
  | @wrote text hAt =>
      refine ⟨fun c' text' hMem =>
          (hSourced.queued c' text' hMem).append,
        hWriting (by simp), ?_, ?_⟩
      · intro c' text' hMem
        rcases List.mem_append.mp hMem with hIn | hNew
        · exact hOld c' text' hIn
        · cases List.mem_singleton.mp hNew
          exact (hSourced.writing c text hAt).append
      · intro x hMem
        rcases List.mem_append.mp hMem with hIn | hNew
        · exact hSourced.fromHere x hIn
        · rw [List.mem_singleton.mp hNew]
          trivial
  | ended hAt =>
      refine ⟨hQueued (by simp), hWriting (by simp), ?_,
        by simpa using hSourced.fromHere⟩
      intro c' text' hMem
      exact hOld c' text' (by simpa using hMem)

theorem sourced_of_run
    {es : List ReplayEvent}
    (hRun : (replayProxy env entries).Run es h s) :
    Sourced h s.proxy := by
  refine Machine.run_invariant
    (motive := fun h s => Sourced h s.proxy) ?_ ?_ hRun
  · exact ⟨fun _ _ hMem => absurd hMem (by
      simp [replayProxy, Stage.init, Control.State.init]),
      nofun, nofun, nofun⟩
  intro h s e s' o hSourced hNext
  have hStep : ReplayStep env s e s' o :=
    replayStep_cases hNext
  cases hStep with
  | accepted =>
      rw [List.append_nil]
      refine ⟨?_, ?_, hSourced.delivered, hSourced.fromHere⟩
      · intro c text hMem
        simp only [Control.acceptClient] at hMem
        by_cases hNew : c = s.proxy.clients
        · subst hNew
          simp at hMem
        · rw [Function.update_of_ne hNew] at hMem
          exact hSourced.queued c text hMem
      · intro c text hAt
        simp only [Control.acceptClient] at hAt
        by_cases hNew : c = s.proxy.clients
        · subst hNew
          simp at hAt
        · rw [Function.update_of_ne hNew] at hAt
          exact hSourced.writing c text hAt
  | client hTask => exact sourced_of_handler hSourced hTask
  | writer hTask =>
      exact sourced_of_writer hSourced
        (Control.clientWriter_cases hTask)
  | _ =>
      exact hSourced.of_same rfl rfl (by simp)
        (by simp [NoTelescope])

------------------------------------------------------------
-- What a Client Hears
------------------------------------------------------------

/-
  The client's writer reads while the next line is still
  kept: at most 256 lines are waiting for it.
-/
def KeepsUp
    (c : ClientId)
    (s : Stage)
    (e : ReplayEvent) : Prop :=
  e = .writer c .recvEvent →
    s.proxy.events.length ≤ s.proxy.eventRx c + 256

/- The client's writer on the broadcast channel. -/
def Hears
    (s : Stage)
    (c : ClientId)
    (h : List Obs)
    (whole : Prop) : Prop :=
  Broadcast.Listens 256 s.proxy.events (s.subscribed c)
    (s.proxy.eventRx c) (Control.eventReads h c) whole

/- A client that is not there yet has not moved. -/
structure Unmoved (s : Stage) : Prop where
  absent : ∀ c, s.proxy.clients ≤ c →
    s.proxy.writer c = .absent
  start : ∀ c, s.proxy.writer c = .absent →
    s.proxy.eventRx c = s.subscribed c

/- What the writers and the channel look like after a step. -/
private theorem writers_same
    {event : HandlerEvent}
    (hTask : Control.HandlerStep env p c event p' o) :
    p'.events = p.events ∧ p'.eventRx = p.eventRx ∧
      p'.writer = p.writer ∧ p'.clients = p.clients ∧
        ∀ c, Control.eventReads o c = [] := by
  cases hTask <;>
    exact ⟨rfl, rfl, rfl, rfl, fun _ => rfl⟩

theorem unmoved_of_run
    {es : List ReplayEvent}
    (hRun : (replayProxy env entries).Run es h s) :
    Unmoved s := by
  refine Machine.run_invariant
    (motive := fun _ s => Unmoved s)
    ⟨fun _ _ => rfl, fun _ _ => rfl⟩ ?_ hRun
  intro h s e s' o hUnmoved hNext
  have hStep : ReplayStep env s e s' o :=
    replayStep_cases hNext
  cases hStep with
  | accepted =>
      refine ⟨?_, ?_⟩
      · intro c hNew
        have hOther : c ≠ s.proxy.clients :=
          Nat.ne_of_gt (Nat.lt_of_succ_le hNew)
        simp only [Control.acceptClient,
          Function.update_of_ne hOther]
        exact hUnmoved.absent c (Nat.le_of_succ_le hNew)
      · intro c hAbsent
        simp only [Control.acceptClient] at hAbsent ⊢
        by_cases hNew : c = s.proxy.clients
        · subst hNew
          simp at hAbsent
        · rw [Function.update_of_ne hNew] at hAbsent ⊢
          rw [Function.update_of_ne hNew]
          exact hUnmoved.start c hAbsent
  | client hTask =>
      rcases writers_same hTask with
        ⟨-, hRx, hWriter, hClients, -⟩
      refine ⟨?_, ?_⟩
      · rw [hClients, hWriter]
        exact hUnmoved.absent
      · rw [hWriter, hRx]
        exact hUnmoved.start
  | @writer c event p o hTask =>
      have hCases := Control.clientWriter_cases hTask
      have hClients : p.clients = s.proxy.clients := by
        cases hCases <;> rfl
      have hLive := hCases.isLive
      refine ⟨?_, ?_⟩
      · intro c' hNew
        simp only [hClients] at hNew
        have hAbsent := hUnmoved.absent c' hNew
        have hOther : c' ≠ c := by
          rintro rfl
          rw [hAbsent] at hLive
          exact hLive
        exact (hCases.writer_of_ne hOther).trans hAbsent
      · intro c' hAbsent
        by_cases hClient : c' = c
        · subst hClient
          cases hCases with
          | lagged hAt hLag =>
              have hNow := hAt.symm.trans hAbsent
              cases hNow
          | _ => simp at hAbsent
        · have hBefore := hUnmoved.start c'
            ((hCases.writer_of_ne hClient).symm.trans hAbsent)
          cases hCases with
          | lagged hAt hLag =>
              simp only [Function.update_of_ne hClient]
              exact hBefore
          | eventRead hAt hEvent =>
              simp only [Function.update_of_ne hClient]
              exact hBefore
          | _ => exact hBefore
  | _ => exact ⟨hUnmoved.absent, hUnmoved.start⟩

/- A client's own writer turns to the broadcast channel. -/
private theorem hears_of_recv
    {whole : Prop}
    (hHears : Hears s c h whole)
    (hTask : Control.clientWriter s.proxy c .recvEvent =
      some (p, o)) :
    Hears { s with proxy := p } c (h ++ o)
      (whole ∧ KeepsUp c s (.writer c .recvEvent)) := by
  unfold Hears
  rw [Control.eventReads_append]
  cases hAt : s.proxy.writer c with
  | selecting =>
      simp only [Control.clientWriter, hAt] at hTask
      split at hTask
      · rename_i hLag
        cases hTask
        have hRecv : Broadcast.recv 256 s.proxy.events
            (s.proxy.eventRx c) =
              .lagged (s.proxy.events.length - 256) :=
          if_pos hLag
        simp only [Function.update_self, Control.eventReads,
          List.filterMap_nil, List.append_nil]
        refine hHears.lagged hRecv ?_
        rintro ⟨-, hKept⟩
        exact absurd hLag (not_lt.mpr (hKept rfl))
      · rename_i hLag
        split at hTask
        · cases hTask
        · rename_i conn text hRead
          cases hTask
          have hRecv : Broadcast.recv 256 s.proxy.events
              (s.proxy.eventRx c) =
                .received (conn, text)
                  (s.proxy.eventRx c + 1) := by
            simp only [Broadcast.recv, if_neg hLag, hRead]
          have hKeeps :
              KeepsUp c s (.writer c .recvEvent) :=
            fun _ => not_lt.mp hLag
          have hRead : Control.eventReads
              [.eventRead c conn text] c =
                [(conn, text)] := by
            simp [Control.eventReads,
              Control.Obs.eventRead?]
          rw [hRead]
          simp only [Function.update_self]
          exact (hHears.received hRecv).congr
            (and_iff_left hKeeps).symm
  | _ => simp [Control.clientWriter, hAt] at hTask

/- Every other step of a writer leaves the channel alone. -/
private theorem writer_same
    {event : WriterEvent}
    (hTask : Control.clientWriter p c event = some (p', o))
    (hEvent : event ≠ .recvEvent) :
    p'.events = p.events ∧ p'.eventRx = p.eventRx ∧
      ∀ c', Control.eventReads o c' = [] := by
  cases Control.clientWriter_cases hTask with
  | lagged hAt hLag => exact absurd rfl hEvent
  | eventRead hAt hRead => exact absurd rfl hEvent
  | _ => exact ⟨rfl, rfl, fun _ => rfl⟩

/- Another client's writer leaves a client where it is. -/
private theorem writer_other
    {c' : ClientId}
    {event : WriterEvent}
    (hTask : Control.clientWriter p c' event =
      some (p', o))
    (hClient : c ≠ c') :
    p'.events = p.events ∧ p'.eventRx c = p.eventRx c ∧
      Control.eventReads o c = [] := by
  cases Control.clientWriter_cases hTask with
  | lagged hAt hLag =>
      exact ⟨rfl, Function.update_of_ne hClient _ _, rfl⟩
  | @eventRead conn text hAt hRead =>
      refine ⟨rfl, Function.update_of_ne hClient _ _, ?_⟩
      simp [Control.eventReads, Control.Obs.eventRead?,
        Ne.symm hClient]
  | _ => exact ⟨rfl, rfl, rfl⟩

/- Lines are only added, and the client stays where it is. -/
private theorem Hears.of_same
    {e : ReplayEvent}
    {whole : Prop}
    (hHears : Hears s c h whole)
    (hEvents : ∃ new, s'.proxy.events = s.proxy.events ++ new)
    (hStart : s'.subscribed c = s.subscribed c)
    (hRx : s'.proxy.eventRx c = s.proxy.eventRx c)
    (hReads : Control.eventReads o c = [])
    (hEvent : e ≠ .writer c .recvEvent) :
    Hears s' c (h ++ o) (whole ∧ KeepsUp c s e) := by
  rcases hEvents with ⟨new, hEvents⟩
  have hSame : whole ↔ whole ∧ KeepsUp c s e :=
    (and_iff_left fun hRecv => absurd hRecv hEvent).symm
  unfold Hears
  rw [Control.eventReads_append, hReads, List.append_nil,
    hEvents, hStart, hRx]
  exact (hHears.send new).congr hSame

/- Every step keeps what a client hears. -/
private theorem hears_of_step
    {e : ReplayEvent}
    {whole : Prop}
    (hUnmoved : Unmoved s)
    (hHears : Hears s c h whole)
    (hStep : ReplayStep env s e s' o) :
    Hears s' c (h ++ o) (whole ∧ KeepsUp c s e) := by
  have hNone {events : List (ConnId × String)} :
      ∃ new, events = events ++ new :=
    ⟨[], (List.append_nil _).symm⟩
  cases hStep with
  | accepted =>
      by_cases hNew : c = s.proxy.clients
      · subst hNew
        have hFresh := hUnmoved.start s.proxy.clients
          (hUnmoved.absent s.proxy.clients le_rfl)
        unfold Hears
        simp only [List.append_nil, Control.acceptClient,
          Function.update_self]
        exact (hHears.subscribe hFresh).congr
          (and_iff_left (by simp [KeepsUp])).symm
      · refine hHears.of_same hNone ?_ ?_ rfl (by simp)
        · exact Function.update_of_ne hNew _ _
        · exact Function.update_of_ne hNew _ _
  | client hTask =>
      rcases writers_same hTask with
        ⟨hEvents, hRx, -, -, hReads⟩
      exact hHears.of_same ⟨[], by simp [hEvents]⟩ rfl
        (by rw [hRx]) (hReads c) (by simp)
  | @writer c' event p o hTask =>
      by_cases hClient : c = c'
      · subst hClient
        by_cases hEvent : event = .recvEvent
        · subst hEvent
          exact hears_of_recv hHears hTask
        · rcases writer_same hTask hEvent with
            ⟨hEvents, hRx, hReads⟩
          refine hHears.of_same ⟨[], by simp [hEvents]⟩ rfl
            (by rw [hRx]) (hReads c) ?_
          rintro hEq
          cases hEq
          exact hEvent rfl
      · rcases writer_other hTask hClient with
          ⟨hEvents, hRx, hReads⟩
        refine hHears.of_same ⟨[], by simp [hEvents]⟩ rfl
          hRx hReads ?_
        rintro hEq
        cases hEq
        exact hClient rfl
  | played hLeft =>
      exact hHears.of_same ⟨_, rfl⟩ rfl rfl rfl (by simp)
  | _ => exact hHears.of_same hNone rfl rfl rfl (by simp)

theorem hears_of_run
    {es : List ReplayEvent}
    (hRun : (replayProxy env entries).Run es h s)
    (c : ClientId) :
    Hears s c h ((replayProxy env entries).Meets (KeepsUp c)
      (replayProxy env entries).init es) := by
  refine Machine.run_induction
    (motive := fun es h s => Hears s c h
      ((replayProxy env entries).Meets (KeepsUp c)
        (replayProxy env entries).init es)) ?_ ?_ hRun
  · exact Broadcast.Listens.fresh [] 256 trivial
  · intro es h s e s' o hBefore hHears hNext
    rw [Machine.meets_snoc_iff hBefore]
    exact hears_of_step (unmoved_of_run hBefore) hHears
      (replayStep_cases hNext)

------------------------------------------------------------
-- Every Run
------------------------------------------------------------

/- The lines between a client's arrival and its receiver. -/
def Stage.linesPassed
    (s : Stage)
    (c : ClientId) : List (ConnId × String) :=
  (s.proxy.events.take (s.proxy.eventRx c)).drop
    (s.subscribed c)

/-
  What a run in replay mode is. The recorded lines are
  broadcast in order, each once; each client reads them in
  order and misses one only when 256 newer ones were there,
  so none if it keeps up. All that it is sent is such a line,
  the reply of a hook or a refusal. Once a request was
  refused, no request of any client is taken again, unless
  the task that throws them away has panicked.
-/
structure ReplayServed
    (env : Env)
    (entries : List ControlEntry)
    (es : List ReplayEvent)
    (h : List Obs)
    (s : Stage) : Prop where
  played : s.proxy.events.map Prod.snd ++
      s.left.map ControlEntry.raw =
    entries.map ControlEntry.raw
  read : ∀ c, ∃ taken,
    Broadcast.ReadAt 256 s.proxy.events (s.subscribed c)
      (s.proxy.eventRx c) (Control.eventReads h c) taken
  whole : ∀ c, Control.eventReads h c = s.linesPassed c ↔
    (replayProxy env entries).Meets (KeepsUp c)
      (replayProxy env entries).init es
  sent : ∀ c text, .delivered c text ∈ h → FromHere h c text
  silent : ∀ x ∈ h, NoTelescope x
  spent : (∃ c seq, .refused c seq ∈ h) →
    s.proxy.upstreamTx.isOpen = true →
      ∀ e s' o, replayStep env s e = some (s', o) →
        ∀ c seq, .registered c seq ∉ o

/- A full map takes no request. -/
private theorem not_registered
    {e : ReplayEvent}
    (hFull : Control.maxPendingRequests ≤
      s.proxy.pending.size)
    (hStep : ReplayStep env s e s' o) :
    ∀ c seq, .registered c seq ∉ o := by
  cases hStep with
  | client hTask =>
      cases hTask with
      | registered hAt hLock hRoom =>
          exact absurd hRoom (not_lt.mpr hFull)
      | _ => simp
  | writer hTask =>
      cases Control.clientWriter_cases hTask <;> simp
  | _ => simp

/- Every run in replay mode, whatever the clients do. -/
theorem replay_served
    {es : List ReplayEvent}
    (hRun : (replayProxy env entries).Run es h s) :
    ReplayServed env entries es h s where
  played := played_of_run hRun
  read c := (hears_of_run hRun c).readAt
  whole c := (hears_of_run hRun c).got_eq_iff
  sent := (sourced_of_run hRun).delivered
  silent := (sourced_of_run hRun).fromHere
  spent := by
    intro hRefused hOpen e s' o hStep
    have hFull := (spent_of_run hRun).full hRefused hOpen
    exact not_registered hFull (replayStep_cases hStep)

/- Two lines are played, and the one client is sent one. -/
def twoLines : List ControlEntry :=
  [⟨.zero, "first"⟩, ⟨.zero, "second"⟩]

def playedToOne : List ReplayEvent :=
  [.accept, .play, .writer 0 .recvEvent,
    .writer 0 (.write true), .play]

theorem replay_served_playedToOne :
    ∃ h s, (replayProxy Control.parkEnv twoLines).Run
        playedToOne h s ∧
      .delivered 0 "first" ∈ h ∧
      ReplayServed Control.parkEnv twoLines playedToOne
        h s := by
  have hRun : (replayProxy Control.parkEnv twoLines).Run
      playedToOne _ _ :=
    Machine.run_outcome (by decide +kernel)
  exact ⟨_, _, hRun, by decide +kernel,
    replay_served hRun⟩

end Session

end SeestarProxy
