import SeestarProxy.Control.Connections
import SeestarProxy.Control.Pending

/-
  The mutex of the pending map.

  The mutex is held at two await points only: by the drain,
  which never waits, and by a handler that sends a refusal on
  a full response channel, which waits for its client. The
  runs in which no task waits for a channel while it holds
  the mutex are the runs in which every refusal fits.

  Main declarations:
    * `LockOk` and `lockOk_of_run`
    * `State.AwaitsSend` and `State.NoSendUnderLock`
    * `RefusalFits`, `MutexOutcome`, `no_send_under_lock_iff`
    * `send_under_lock_reached` and `parkLocked`
-/

------------------------------------------------------------
-- Who Holds the Mutex
------------------------------------------------------------

namespace SeestarProxy

namespace Control

open Library Protocol

/- The handler sends a refusal inside the critical section. -/
def Handler.IsRefusing : Handler → Prop
| .refusing _ _ => True
| _ => False

instance (handler : Handler) :
    Decidable handler.IsRefusing := by
  cases handler <;> unfold Handler.IsRefusing <;>
    infer_instance

/- The holder of the mutex is where it holds the mutex. -/
structure LockOk (s : State) : Prop where
  upstream : s.lock = some .upstream ↔ s.upstream = .draining
  handler : ∀ c, s.lock = some (.handler c) ↔
    (s.handler c).IsRefusing

variable {env : Env} {h o : List Obs} {s s' : State}

/- A handler step outside the critical section. -/
theorem LockOk.ofHandler
    {c : ClientId}
    {next : Handler}
    (hOk : LockOk s)
    (hBefore : ¬ (s.handler c).IsRefusing)
    (hNext : ¬ next.IsRefusing)
    (hLock : s'.lock = s.lock)
    (hUpstream : s'.upstream = s.upstream)
    (hHandler :
      s'.handler = Function.update s.handler c next) :
    LockOk s' where
  upstream := by
    rw [hLock, hUpstream]
    exact hOk.upstream
  handler := by
    intro c'
    rw [hLock, hHandler]
    by_cases hClient : c' = c
    · subst hClient
      rw [Function.update_self]
      have hFree := mt (hOk.handler c').mp hBefore
      exact ⟨fun h => absurd h hFree,
        fun h => absurd h hNext⟩
    · rw [Function.update_of_ne hClient]
      exact hOk.handler c'

/- A handler that refused lets the mutex go. -/
theorem LockOk.ofRefused
    {c : ClientId}
    {next : Handler}
    (hOk : LockOk s)
    (hBefore : (s.handler c).IsRefusing)
    (hNext : ¬ next.IsRefusing)
    (hLock : s'.lock = none)
    (hUpstream : s'.upstream = s.upstream)
    (hHandler :
      s'.handler = Function.update s.handler c next) :
    LockOk s' where
  upstream := by
    have hHeld := (hOk.handler c).mpr hBefore
    have hNot := mt hOk.upstream.mpr
      (by rw [hHeld]; exact nofun)
    rw [hLock, hUpstream]
    exact ⟨nofun, fun h => absurd h hNot⟩
  handler := by
    intro c'
    have hHeld := (hOk.handler c).mpr hBefore
    rw [hLock, hHandler]
    by_cases hClient : c' = c
    · subst hClient
      rw [Function.update_self]
      exact ⟨nofun, fun h => absurd h hNext⟩
    · rw [Function.update_of_ne hClient]
      refine ⟨nofun, fun hRefusing => ?_⟩
      have hAlso := (hOk.handler c').mpr hRefusing
      rw [hHeld] at hAlso
      cases hAlso
      exact absurd rfl hClient

theorem HandlerStep.lockOk
    {c : ClientId}
    {event : HandlerEvent}
    (hOk : LockOk s)
    (hStep : HandlerStep env s c event s' o) :
    LockOk s' := by
  cases hStep with
  | @idle _ next hRunning hBefore hAfter =>
      refine hOk.ofHandler ?_ ?_ rfl rfl rfl
      · intro hRefusing
        cases hAt : s.handler c <;>
          simp_all [Handler.IsRefusing, Handler.seq?]
      · cases next <;> first
          | exact id
          | cases hAfter
  | allocated hAt hHook hId hNext =>
      refine hOk.ofHandler (by rw [hAt]; exact id) ?_
        rfl rfl rfl
      rcases hNext with rfl | ⟨forwarded, -, rfl⟩
      · exact id
      · exact id
  | refusedBlocked hAt hLock hFull hBlocks =>
      refine ⟨?_, ?_⟩
      · have hNot := mt hOk.upstream.mpr
          (by rw [hLock]; simp)
        exact ⟨by simp, fun h => absurd h hNot⟩
      · intro c'
        by_cases hClient : c' = c
        · subst hClient
          simp [Handler.IsRefusing]
        · have hNot := mt (hOk.handler c').mpr
            (by rw [hLock]; simp)
          simp only [Function.update_of_ne hClient]
          refine ⟨fun h => ?_, fun h => absurd h hNot⟩
          cases h
          exact absurd rfl hClient
  | refusalSent hAt hSend =>
      exact hOk.ofRefused (by rw [hAt]; trivial) id
        rfl rfl rfl
  | refusalClosed hAt hClosed =>
      exact hOk.ofRefused (by rw [hAt]; trivial) id
        rfl rfl rfl
  | parsed hAt | notifying hAt | hookReplied hAt
  | registered hAt | refusedSent hAt | refusedClosed hAt
  | requestQueued hAt | requestFailed hAt
  | notificationQueued hAt | unregistered hAt =>
      exact hOk.ofHandler (by rw [hAt]; exact id) id
        rfl rfl rfl

theorem UpstreamStep.lockOk
    {event : UpstreamEvent}
    (hOk : LockOk s)
    (hStep : UpstreamStep env s event s' o) :
    LockOk s' := by
  have hElse (hAt : s.upstream ≠ .draining) :
      s.lock ≠ some .upstream :=
    mt hOk.upstream.mp hAt
  cases hStep with
  | locked hAt hLock =>
      refine ⟨by simp, fun c => ?_⟩
      have hNot := mt (hOk.handler c).mpr
        (by rw [hLock]; exact nofun)
      exact ⟨nofun, fun h => absurd h hNot⟩
  | unlocked hAt hEmpty =>
      have hHeld := hOk.upstream.mpr hAt
      refine ⟨⟨nofun, nofun⟩, fun c => ?_⟩
      have hNot := mt (hOk.handler c).mpr
        (by rw [hHeld]; exact nofun)
      exact ⟨nofun, fun h => absurd h hNot⟩
  | drainSent hAt hEntry hSend =>
      exact ⟨hOk.upstream, hOk.handler⟩
  | drainLost hAt hEntry hRefused =>
      exact ⟨hOk.upstream, hOk.handler⟩
  | started hAt | connected hAt | reset hAt | spawned hAt
  | took hAt | stopped hAt | wrote hAt | lost hAt
  | readerDead hAt =>
      have hFree := hElse (by rw [hAt]; exact nofun)
      exact ⟨⟨fun h => absurd h hFree, nofun⟩, hOk.handler⟩

theorem ProxyStep.lockOk
    {e : Event}
    (hNumbered : Numbered s)
    (hOk : LockOk s)
    (hStep : ProxyStep env s e s' o) :
    LockOk s' := by
  cases hStep with
  | accepted =>
      have hAbsent :=
        hNumbered.handler s.clients (Nat.le_refl _)
      exact hOk.ofHandler (by rw [hAbsent]; exact id) id
        rfl rfl rfl
  | client hTask => exact hTask.lockOk hOk
  | upstream hTask => exact hTask.lockOk hOk
  | writer hTask =>
      cases hTask <;> exact ⟨hOk.upstream, hOk.handler⟩
  | heartbeat hTask =>
      cases hTask <;> exact ⟨hOk.upstream, hOk.handler⟩
  | reader hTask =>
      cases hTask <;> exact ⟨hOk.upstream, hOk.handler⟩
  | _ => exact ⟨hOk.upstream, hOk.handler⟩

theorem lockOk_init : LockOk State.init where
  upstream := by simp [State.init]
  handler := by simp [State.init, Handler.IsRefusing]

/- In every run the holder is where it holds the mutex. -/
theorem lockOk_of_run
    {es : List Event}
    (hRun : (proxy env).Run es h s) :
    LockOk s :=
  Machine.run_induction
    (motive := fun _ _ s => LockOk s)
    lockOk_init
    (fun _ _ _ _ _ _ hBefore hOk hStep =>
      (step_cases hStep).lockOk (numbered_of_run hBefore)
        hOk)
    hRun

------------------------------------------------------------
-- The Drain Never Waits
------------------------------------------------------------

/- While the drain holds the mutex, it can always go on. -/
theorem drain_enabled
    (env : Env)
    {key : UInt64}
    {entry : PendingRequest}
    (hAt : s.upstream = .draining)
    (hEntry : s.pending.lookup key = some entry) :
    ∃ s' o, (proxy env).step s (.upstream (.drain key)) =
        some (s', o) ∧
      s'.upstream = .draining ∧
      s'.pending = s.pending.erase key ∧
      s'.handler = s.handler ∧ s'.reader = s.reader := by
  simp only [proxy, step, upstreamTask, hAt, hEntry]
  split
  · exact ⟨_, _, rfl, rfl, rfl, rfl, rfl⟩
  · exact ⟨_, _, rfl, rfl, rfl, rfl, rfl⟩
  · exact ⟨_, _, rfl, rfl, rfl, rfl, rfl⟩

/- Without help of other tasks the drain ends and unlocks. -/
theorem drain_ends
    (env : Env)
    (hAt : s.upstream = .draining) :
    ∃ es s' o, (proxy env).exec s es = some (s', o) ∧
      (∀ e ∈ es, ∃ event, e = .upstream event) ∧
      s'.lock = none ∧
      s'.handler = s.handler ∧ s'.reader = s.reader := by
  generalize hSize : s.pending.size = size
  induction size generalizing s with
  | zero =>
      refine ⟨[.upstream .unlockPending],
        { s with
          lock := none
          upstream := .hooking },
        [], ?_, ?_, rfl, rfl, rfl⟩
      · simp [Machine.exec, proxy, step, upstreamTask, hAt,
          hSize]
      · simp
  | succ size ih =>
      rcases PendingMap.exists_first hSize with
        ⟨key, entry, hEntry, hRest⟩
      rcases drain_enabled env hAt hEntry with
        ⟨s₁, o₁, hStep, hAt₁, hPending, hHandler, hReader⟩
      rw [← hPending] at hRest
      rcases ih hAt₁ hRest with
        ⟨es, s₂, o₂, hExec, hUpstream, hLock, hSame⟩
      refine ⟨.upstream (.drain key) :: es, s₂, o₁ ++ o₂,
        Machine.exec_cons hStep hExec, ?_, hLock, ?_⟩
      · intro e hMem
        rcases List.mem_cons.mp hMem with rfl | hRest'
        · exact ⟨_, rfl⟩
        · exact hUpstream e hRest'
      · rw [hSame.1, hSame.2]
        exact ⟨hHandler, hReader⟩

------------------------------------------------------------
-- Sends under the Mutex
------------------------------------------------------------

/-
  The task is at an await point that sends on a channel. The
  drain sends without waiting, so it has none.
-/
def State.AwaitsSend (s : State) : Holder → Prop
| .handler c =>
    match s.handler c with
    | .replying _ | .refusing _ _ | .queueing _ _ _ _
    | .forwarding _ _ => True
    | _ => False
| .upstream => False

/- No task waits to send while it holds the mutex. -/
def State.NoSendUnderLock (s : State) : Prop :=
  ∀ holder, s.lock = some holder → ¬ s.AwaitsSend holder

/-
  A request that is refused because the map is full does not
  have to wait for room on the client's response channel.
-/
def RefusalFits (s : State) : Event → Prop
| .client c .register =>
    s.pending.size < maxPendingRequests ∨
      ¬ (s.responseTx c).Blocks
| _ => True

instance (s : State) (e : Event) :
    Decidable (RefusalFits s e) := by
  unfold RefusalFits
  split <;> infer_instance

/- A holder that does not wait to send is the drain. -/
theorem noSendUnderLock_iff
    (hOk : LockOk s) :
    s.NoSendUnderLock ↔ ∀ c, s.lock ≠ some (.handler c) := by
  constructor
  · intro hGood c hLock
    have hRefusing := (hOk.handler c).mp hLock
    apply hGood (.handler c) hLock
    unfold State.AwaitsSend
    cases hAt : s.handler c <;>
      simp_all [Handler.IsRefusing]
  · intro hNone holder hLock
    cases holder with
    | handler c => exact absurd hLock (hNone c)
    | upstream => exact id

/- Only a refusal that waits takes the mutex along. -/
theorem handler_locks_iff
    {e : Event}
    (hStep : ProxyStep env s e s' o)
    (hFree : ∀ c, s.lock ≠ some (.handler c)) :
    (∀ c, s'.lock ≠ some (.handler c)) ↔
      RefusalFits s e := by
  cases hStep with
  | @client c event s' o hTask =>
      cases hTask with
      | idle hRunning hBefore hAfter hEvent =>
          refine iff_of_true hFree ?_
          cases event with
          | register => exact absurd rfl hEvent
          | _ => trivial
      | registered hAt hLock hRoom =>
          exact iff_of_true hFree (Or.inl hRoom)
      | refusedSent hAt hLock hFull hSend =>
          exact iff_of_true hFree (Or.inr
            (Channel.trySend_sent_iff.mp hSend).1.not_blocks)
      | refusedClosed hAt hLock hFull hClosed =>
          refine iff_of_true hFree (Or.inr ?_)
          rintro ⟨hOpen, -⟩
          rw [hClosed] at hOpen
          cases hOpen
      | refusedBlocked hAt hLock hFull hBlocks =>
          refine iff_of_false ?_ ?_
          · intro hNone
            exact hNone c rfl
          · rintro (hRoom | hFits)
            · exact Nat.not_lt.mpr hFull hRoom
            · exact hFits hBlocks
      | refusalSent hAt hSend =>
          exact iff_of_true (fun _ => nofun) trivial
      | refusalClosed hAt hClosed =>
          exact iff_of_true (fun _ => nofun) trivial
      | _ => exact iff_of_true hFree trivial
  | writer hTask =>
      cases hTask <;> exact iff_of_true hFree trivial
  | heartbeat hTask =>
      cases hTask <;> exact iff_of_true hFree trivial
  | reader hTask =>
      cases hTask <;> exact iff_of_true hFree trivial
  | upstream hTask =>
      cases hTask with
      | locked hAt hLock =>
          exact iff_of_true (fun _ => nofun) trivial
      | unlocked hAt hEmpty =>
          exact iff_of_true (fun _ => nofun) trivial
      | _ => exact iff_of_true hFree trivial
  | _ => exact iff_of_true hFree trivial

/-
  What a run says about the mutex: no task ever waits to
  send while it holds the mutex exactly when every refusal
  fits. If so, the mutex is free at the end of the run, or
  the drain frees it by its own steps alone.
-/
structure MutexOutcome
    (env : Env)
    (es : List Event)
    (s : State) : Prop where
  noSend_iff :
    (proxy env).Always State.NoSendUnderLock
        (proxy env).init es ↔
      (proxy env).Meets RefusalFits (proxy env).init es
  freed : (proxy env).Meets RefusalFits (proxy env).init es →
    ∃ es' s' o, (proxy env).exec s es' = some (s', o) ∧
      (∀ e ∈ es', ∃ event, e = .upstream event) ∧
      s'.lock = none ∧
      s'.handler = s.handler ∧ s'.reader = s.reader

/- Every run has this outcome, whatever the clients do. -/
theorem no_send_under_lock_iff
    {es : List Event}
    (hRun : (proxy env).Run es h s) :
    MutexOutcome env es s := by
  have hInit : State.NoSendUnderLock (proxy env).init :=
    (noSendUnderLock_iff lockOk_init).mpr fun _ => nofun
  have hIff :
      (proxy env).Always State.NoSendUnderLock
          (proxy env).init es ↔
        (proxy env).Meets RefusalFits (proxy env).init es :=
    by
    refine Machine.always_iff_meets hInit ?_ hRun
    intro es h s e s' o hBefore hGood hNext
    have hOk := lockOk_of_run hBefore
    have hStep := step_cases hNext
    have hOk' :=
      hStep.lockOk (numbered_of_run hBefore) hOk
    rw [noSendUnderLock_iff hOk']
    exact handler_locks_iff hStep
      ((noSendUnderLock_iff hOk).mp hGood)
  refine ⟨hIff, ?_⟩
  intro hMeets
  have hOk := lockOk_of_run hRun
  have hGood : s.NoSendUnderLock :=
    Machine.always_end hRun (hIff.mpr hMeets)
  cases hLock : s.lock with
  | none =>
      exact ⟨[], s, [], rfl, by simp, hLock, rfl, rfl⟩
  | some holder =>
      cases holder with
      | handler c =>
          have hFree := (noSendUnderLock_iff hOk).mp hGood c
          exact absurd hLock hFree
      | upstream =>
          exact drain_ends env (hOk.upstream.mp hLock)

/- The connection is lost and the next one is made. -/
def loseConnection (conn : ConnId) : List Event :=
  [.reader conn .stop, .upstream .readerDead,
    .upstream .connect, .upstream .resetHandshake,
    .upstream .lockPending]

/- A request is pending when the drain takes the mutex. -/
def parkLocked : List Event :=
  parkConnected ++ drawPark 0 ++
    [.client 0 .register, .client 0 .sendUpstream,
      .upstream .recv, .upstream (.write true)] ++
    loseConnection 0

theorem no_send_under_lock_iff_parkLocked :
    Obs.registered 0 0 ∈
      ((proxy parkEnv).outcome parkLocked).2 ∧
    ((proxy parkEnv).outcome parkLocked).1.lock =
      some .upstream ∧
    MutexOutcome parkEnv parkLocked
      ((proxy parkEnv).outcome parkLocked).1 :=
  ⟨by decide +kernel, by decide +kernel,
    no_send_under_lock_iff
      (Machine.run_outcome (by decide +kernel))⟩

------------------------------------------------------------
-- A Client that Stops Reading
------------------------------------------------------------

/-
  One client has sent `n` requests that the telescope does
  not answer; nothing waits for it on its channel.
-/
structure Filling (n : Nat) (s : State) : Prop where
  handler : s.handler 0 = .reading
  lock : s.lock = none
  queue : s.upstreamTx = Channel.empty Message 256
  upstream : s.upstream = .selecting 0
  responses : s.responseTx 0 = Channel.empty String 64
  writer : s.writer 0 = .selecting
  allocated : s.allocated = n
  size : s.pending.size = n
  reader : s.reader 0 = .reading
  owner : ∀ key entry,
    s.pending.lookup key = some entry → entry.clientTx = 0

/- One more request is forwarded. -/
theorem filling_succ
    {es : List Event}
    {n : Nat}
    (hRun : (proxy parkEnv).Run es h s)
    (hFilling : Filling n s)
    (hRoom : n < maxPendingRequests) :
    ∃ es' s' o, (proxy parkEnv).exec s es' = some (s', o) ∧
      Filling (n + 1) s' := by
  have hDraw := exec_drawPark hFilling.handler
  have hDrawn := hRun.append hDraw
  have hFresh : s.pending.lookup s.nextId = none := by
    refine lookup_eq_none_of_registering
      (provenance_of_run hDrawn) (repliesKept_of_run hDrawn)
      ?_ (Function.update_self _ _ _)
    have hAllocated := hFilling.allocated
    have hMax : maxPendingRequests = 1024 := rfl
    simp only [afterDraw]
    omega
  have hSize (entry : PendingRequest) :
      PendingMap.size (s.pending.insert s.nextId entry) =
        n + 1 := by
    rw [PendingMap.size_insert hFresh, hFilling.size]
  have hNotFull : ¬ maxPendingRequests ≤ s.pending.size := by
    rw [hFilling.size]
    exact Nat.not_le.mpr hRoom
  have hForward :
      ∃ s' o, (proxy parkEnv).exec (afterDraw s 0)
          [.client 0 .register, .client 0 .sendUpstream,
            .upstream .recv, .upstream (.write true)] =
            some (s', o) ∧
        Filling (n + 1) s' := by
    clear hRun hDraw hDrawn hFresh
    rcases s with ⟨nextId, allocated, handshake, pending,
      lock, upstreamTx, events, started, clients, handler,
      writer, responseTx, eventRx, connections, reader,
      written, upstream, heartbeat, up⟩
    rcases hFilling with
      ⟨hHandler, rfl, rfl, rfl, hResponses, hWriter, rfl, -,
        hReader, hOwner⟩
    simp only [Machine.exec, proxy, step, handleClient,
      afterDraw, parkDrawn, Function.update_self, ne_eq,
      not_true_eq_false, if_false, hNotFull]
    refine ⟨_, _, rfl, ?_⟩
    refine ⟨rfl, rfl, rfl, rfl, hResponses, hWriter, rfl,
      hSize _, hReader, ?_⟩
    intro key entry hEntry
    rcases PendingMap.lookup_insert_some hEntry with
      ⟨-, rfl⟩ | ⟨-, hOld⟩
    · rfl
    · exact hOwner key entry hOld
  rcases hForward with ⟨s', o, hExec, hNext⟩
  exact ⟨_, s', _, Machine.exec_append hDraw hExec, hNext⟩

/- The map fills up while no answer comes. -/
theorem reaches_filling
    (n : Nat)
    (hRoom : n ≤ maxPendingRequests) :
    (proxy parkEnv).Reaches (Filling n) := by
  induction n with
  | zero =>
      refine ⟨parkConnected, _, _,
        Machine.run_outcome (by decide +kernel), ?_⟩
      refine ⟨rfl, rfl, rfl, rfl, rfl, rfl, rfl, rfl, rfl, ?_⟩
      intro key entry hEntry
      cases hEntry
  | succ n ih =>
      have hReached := ih (Nat.le_of_succ_le hRoom)
      exact hReached.exec fun _ _ _ hRun hFilling =>
        filling_succ hRun hFilling hRoom

/-
  The map is full, the client's writer is stuck with one
  refusal, and `k` more wait on the client's channel.
-/
structure Stuck (k : Nat) (s : State) : Prop where
  handler : s.handler 0 = .reading
  lock : s.lock = none
  writer : ∃ text, s.writer 0 = .writing text
  isOpen : (s.responseTx 0).isOpen = true
  length : (s.responseTx 0).queue.length = k
  size : s.pending.size = maxPendingRequests

/- The refusal that the sample client gets. -/
def parkRefusal : String :=
  parkEnv.serde.toStrOrDefault
    (tooManyPending (.string "a"))

/- A further request is refused while its channel has room. -/
private theorem exec_refused
    {channel : Channel String 64}
    (hHandler : s.handler 0 = .reading)
    (hLock : s.lock = none)
    (hSize : s.pending.size = maxPendingRequests)
    (hSend : (s.responseTx 0).trySend parkRefusal =
      .sent channel) :
    ∃ o, (proxy parkEnv).exec s
        (drawPark 0 ++ [.client 0 .register]) = some
      ({ s with
          nextId := s.nextId + 1
          allocated := s.allocated + 1
          handler := Function.update s.handler 0 .reading
          responseTx :=
            Function.update s.responseTx 0 channel }, o) :=
  by
  rw [parkRefusal] at hSend
  have hRefused :
      (proxy parkEnv).exec (afterDraw s 0)
          [.client 0 .register] = some
        ({ s with
            nextId := s.nextId + 1
            allocated := s.allocated + 1
            handler := Function.update s.handler 0 .reading
            responseTx :=
              Function.update s.responseTx 0 channel },
          [.refused 0 s.allocated,
            .reply .overflow 0 s.allocated parkRefusal]) :=
    by
    simp [Machine.exec, proxy, step, handleClient, afterDraw,
      parkDrawn, hLock, hSize, hSend, parkRefusal]
  exact ⟨_, Machine.exec_append (exec_drawPark hHandler)
    hRefused⟩

private theorem reaches_stuck
    (k : Nat)
    (hRoom : k ≤ 64) :
    (proxy parkEnv).Reaches (Stuck k) := by
  induction k with
  | zero =>
      refine (reaches_filling maxPendingRequests
        (Nat.le_refl _)).exec ?_
      intro es h s _ hFilling
      have hSend :
          (s.responseTx 0).trySend parkRefusal =
            .sent
              { queue := [parkRefusal]
                isOpen := true
                bounded := by simp } := by
        rw [hFilling.responses]
        rfl
      rcases exec_refused hFilling.handler hFilling.lock
        hFilling.size hSend with ⟨o, hExec⟩
      have hTaken :
          ∃ s' o', (proxy parkEnv).exec
              { s with
                nextId := s.nextId + 1
                allocated := s.allocated + 1
                handler :=
                  Function.update s.handler 0 .reading
                responseTx :=
                  Function.update s.responseTx 0
                    { queue := [parkRefusal]
                      isOpen := true
                      bounded := by simp } }
              [.writer 0 .recvResponse] = some (s', o') ∧
            Stuck 0 s' := by
        simp only [Machine.exec, proxy, step, clientWriter,
          hFilling.writer]
        refine ⟨_, _, rfl, ?_⟩
        exact ⟨rfl, hFilling.lock, ⟨_, rfl⟩, rfl, rfl,
          hFilling.size⟩
      rcases hTaken with ⟨s', o', hExec', hStuck⟩
      exact ⟨_, s', _, Machine.exec_append hExec hExec',
        hStuck⟩
  | succ k ih =>
      refine (ih (Nat.le_of_succ_le hRoom)).exec ?_
      intro es h s _ hStuck
      have hAccepts : (s.responseTx 0).Accepts := by
        refine ⟨hStuck.isOpen, ?_⟩
        rw [hStuck.length]
        exact hRoom
      rcases hAccepts.exists_sent parkRefusal with
        ⟨channel, hSend, hQueue, hOpen⟩
      rcases exec_refused hStuck.handler hStuck.lock
        hStuck.size hSend with ⟨o, hExec⟩
      refine ⟨_, _, o, hExec, ?_⟩
      refine ⟨rfl, hStuck.lock, hStuck.writer, ?_, ?_,
        hStuck.size⟩
      · simpa using hOpen
      · simp [hQueue, hStuck.length]

/-
  A client that never reads: the map is full, so is its
  channel, and its handler waits for room with the mutex.
-/
theorem send_under_lock_reached :
    (proxy parkEnv).Reaches fun s =>
      s.lock = some (.handler 0) ∧
        s.AwaitsSend (.handler 0) ∧
        (s.responseTx 0).Blocks := by
  refine (reaches_stuck 64 (Nat.le_refl _)).exec ?_
  intro es h s _ hStuck
  have hBlocks : (s.responseTx 0).Blocks := by
    refine ⟨hStuck.isOpen, ?_⟩
    rw [hStuck.length]
    exact Nat.lt_irrefl 64
  have hSend :
      (s.responseTx 0).trySend
          (parkEnv.serde.toStrOrDefault
            (tooManyPending (.string "a"))) = .full :=
    Channel.trySend_full_iff.mpr hBlocks
  have hRefused :
      (proxy parkEnv).exec (afterDraw s 0)
          [.client 0 .register] = some
        ({ s with
            nextId := s.nextId + 1
            allocated := s.allocated + 1
            handler := Function.update s.handler 0
              (.refusing s.allocated parkRefusal)
            lock := some (.handler 0) },
          [.refused 0 s.allocated]) := by
    simp [Machine.exec, proxy, step, handleClient, afterDraw,
      parkDrawn, hStuck.lock, hStuck.size, hSend,
      parkRefusal]
  exact ⟨_, _, _, Machine.exec_append
    (exec_drawPark hStuck.handler) hRefused, rfl, trivial,
    hBlocks⟩

end Control

end SeestarProxy
