import SeestarProxy.Control.Routing
import SeestarProxy.Discovery.Bridge
import SeestarProxy.Library.History

/-
  Where the upstream task connects in transparent mode.

  The address of the telescope is not configured: the first
  accepted connection for which the kernel knows an original
  destination sets it, once. The kernel also knows one for a
  connection that was not redirected, the local address it
  came in on, and the upstream task takes an address of its
  own when none was set. It connects to the telescope
  exactly when the first connection that set the address was
  redirected.

  Main declarations:
    * `Host`, `Incoming` and `getOriginalDst`
    * `TransparentState`, `transparentStep` and `transparent`
    * `HeadedFirst` and `StartsRedirected`
    * `headed_first_iff` and `self_connect_reached`
-/

------------------------------------------------------------
-- Addresses and Connections
------------------------------------------------------------

namespace SeestarProxy

namespace Control

open Library Protocol Discovery

/- Where the proxy listens, and the addresses of its host. -/
structure Host where
  controlAddr : SocketAddr
  imagingAddr : SocketAddr
  localAddrs : List IpAddr

/- A listener on `bound` accepts connections to `addr`. -/
def Host.ListensOn
    (host : Host)
    (bound addr : SocketAddr) : Prop :=
  bound.port = addr.port ∧
    (bound.ip = addr.ip ∨
      (bound.ip.isUnspecified = true ∧
        addr.ip ∈ host.localAddrs))

/- One of the proxy's own listening addresses. -/
def Host.IsOwn (host : Host) (addr : SocketAddr) : Prop :=
  host.ListensOn host.controlAddr addr ∨
    host.ListensOn host.imagingAddr addr

instance (host : Host) (bound addr : SocketAddr) :
    Decidable (host.ListensOn bound addr) := by
  unfold Host.ListensOn
  infer_instance

instance (host : Host) (addr : SocketAddr) :
    Decidable (host.IsOwn addr) := by
  unfold Host.IsOwn
  infer_instance

/-
  An accepted control connection: redirected on its way to
  an address, direct to an address of the proxy, or without
  an original destination.
-/
inductive Incoming where
| redirected (dst : SocketAddr)
| direct (addr : SocketAddr)
| failing
deriving DecidableEq

/- What the listener can accept. -/
def Incoming.Possible (host : Host) : Incoming → Prop
| .redirected dst => ¬ host.IsOwn dst
| .direct addr => host.ListensOn host.controlAddr addr
| .failing => True

instance (host : Host) :
    ∀ conn : Incoming, Decidable (conn.Possible host)
| .redirected dst =>
    inferInstanceAs (Decidable (¬ host.IsOwn dst))
| .direct addr =>
    inferInstanceAs
      (Decidable (host.ListensOn host.controlAddr addr))
| .failing => isTrue trivial

/- `get_original_dst`: a direct connection has one as well. -/
def getOriginalDst : Incoming → Option SocketAddr
| .redirected dst => some dst
| .direct addr => some addr
| .failing => none

/- The address taken when none was resolved. -/
def unresolvedAddr : SocketAddr where
  ip := .v4 (ipv4Addr 127 0 0 1)
  port := 4700

------------------------------------------------------------
-- The Proxy in Transparent Mode
------------------------------------------------------------

/- Where the accept loop is within one round. -/
inductive AcceptLoop where
| listening
| resolved
| notified
deriving DecidableEq

/-
  The control proxy with the cell for the telescope's
  address and the address that the upstream task took from
  it. The accepted connections are only recorded.
-/
structure TransparentState where
  proxy : State
  resolvedUpstream : Option SocketAddr
  upstreamAddr : Option SocketAddr
  acceptLoop : AcceptLoop
  accepted : List Incoming

def TransparentState.init : TransparentState where
  proxy := State.init
  resolvedUpstream := none
  upstreamAddr := none
  acceptLoop := .listening
  accepted := []

/-
  A round of the accept loop takes a connection, notifies
  the upstream task and starts the tasks of the client. The
  upstream task connects when it starts and again at every
  `retry`; `other` is any other step of the proxy.
-/
inductive TransparentEvent where
| incoming (conn : Incoming)
| notify
| spawn
| start
| retry
| other (e : Event)

/- Steps of the proxy that no event above stands for. -/
def Event.IsOther : Event → Prop
| .notify | .accept | .upstream .start => False
| _ => True

instance : ∀ e : Event, Decidable e.IsOther
| .notify | .accept | .upstream .start =>
    isFalse fun hFalse => hFalse
| .upstream .connect | .upstream .resetHandshake
| .upstream .lockPending | .upstream (.drain _)
| .upstream .unlockPending | .upstream .spawnReader
| .upstream .recv | .upstream (.write _)
| .upstream .readerDead | .client _ _ | .writer _ _
| .heartbeat _ | .reader _ _ | .hookSend _ => isTrue trivial

/- What a step shows. -/
inductive TransparentObs where
| accepted (conn : Incoming)
| connect (addr : SocketAddr)
| inner (o : Obs)
deriving DecidableEq

/- One step of the proxy in transparent mode. -/
def transparentStep
    (host : Host)
    (env : Env)
    (s : TransparentState) :
    TransparentEvent →
      Option (TransparentState × List TransparentObs)
| .incoming conn =>
    if s.acceptLoop = .listening ∧ conn.Possible host then
      some ({ s with
        -- Only the first address that is set stays.
        resolvedUpstream :=
          s.resolvedUpstream.or (getOriginalDst conn)
        acceptLoop := .resolved
        accepted := s.accepted ++ [conn] },
        [.accepted conn])
    else
      none
| .notify =>
    if s.acceptLoop = .resolved then
      (step env s.proxy .notify).map fun (proxy, o) =>
        ({ s with
          proxy := proxy
          acceptLoop := .notified }, o.map .inner)
    else
      none
| .spawn =>
    if s.acceptLoop = .notified then
      (step env s.proxy .accept).map fun (proxy, o) =>
        ({ s with
          proxy := proxy
          acceptLoop := .listening }, o.map .inner)
    else
      none
| .start =>
    match upstreamTask env s.proxy .start with
    | none => none
    | some (proxy, _) =>
        let addr := s.resolvedUpstream.getD unresolvedAddr
        some ({ s with
          proxy := proxy
          resolvedUpstream := some addr
          upstreamAddr := some addr }, [.connect addr])
| .retry =>
    match s.upstreamAddr with
    | some addr =>
        if s.proxy.upstream = .connecting then
          some (s, [.connect addr])
        else
          none
    | none => none
| .other e =>
    if e.IsOther then
      (step env s.proxy e).map fun (proxy, o) =>
        ({ s with proxy := proxy }, o.map .inner)
    else
      none

/- The proxy in transparent mode as a machine. -/
def transparent
    (host : Host)
    (env : Env) :
    Machine TransparentState TransparentEvent
      TransparentObs where
  init := .init
  step := transparentStep host env

------------------------------------------------------------
-- Redirected Clients First
------------------------------------------------------------

/-
  A client was redirected on its way to the address that
  the upstream task connects to, which is not the proxy's.
-/
def HeadedTo (host : Host) :
    TransparentObs → TransparentObs → Prop
| .accepted (.redirected dst), .connect addr =>
    dst = addr ∧ ¬ host.IsOwn addr
| _, _ => False

theorem HeadedTo.foreign
    {host : Host}
    {x : TransparentObs}
    {addr : SocketAddr}
    (hHeaded : HeadedTo host x (.connect addr)) :
    ¬ host.IsOwn addr := by
  cases x with
  | accepted conn =>
      cases conn with
      | redirected dst => exact hHeaded.2
      | _ => cases hHeaded
  | _ => cases hHeaded

/- The upstream task connects. -/
def TransparentObs.IsConnect : TransparentObs → Prop
| .connect _ => True
| _ => False

/-
  The upstream task only connects to addresses that clients
  were redirected from, and never to the proxy itself.
-/
def HeadedFirst
    (host : Host)
    (h : List TransparentObs) : Prop :=
  History.Preceded (HeadedTo host)
    TransparentObs.IsConnect h

/- The first connection that has an original destination. -/
def firstResolved
    (accepted : List Incoming) : Option Incoming :=
  accepted.find? fun conn => (getOriginalDst conn).isSome

/- The connection was redirected. -/
def Incoming.IsRedirected : Incoming → Prop
| .redirected _ => True
| _ => False

instance : ∀ conn : Incoming, Decidable conn.IsRedirected
| .redirected _ => isTrue trivial
| .direct _ | .failing => isFalse fun hFalse => hFalse

/-
  The upstream task starts after a connection with an
  original destination, the first of which was redirected.
-/
def StartsRedirected
    (s : TransparentState) : TransparentEvent → Prop
| .start =>
    ∃ conn, firstResolved s.accepted = some conn ∧
      conn.IsRedirected
| _ => True

variable {host : Host} {env : Env}
variable {s s' : TransparentState} {e : TransparentEvent}
variable {h o : List TransparentObs}
variable {es : List TransparentEvent}

/- The state agrees with what was accepted. -/
structure Resolution
    (host : Host)
    (h : List TransparentObs)
    (s : TransparentState) : Prop where
  shown : ∀ conn, .accepted conn ∈ h ↔ conn ∈ s.accepted
  possible : ∀ conn ∈ s.accepted, conn.Possible host
  cell : s.upstreamAddr = none → s.resolvedUpstream =
    (firstResolved s.accepted).bind getOriginalDst
  taken : ∀ addr, s.upstreamAddr = some addr →
    .connect addr ∈ h
  waiting : s.proxy.upstream = .waiting ↔
    s.upstreamAddr = none

/- Only the start of the upstream task ends its waiting. -/
private theorem waiting_of_step
    {p p' : State}
    {shown : List Obs}
    (event : Event)
    (hOther : event ≠ .upstream .start)
    (hStep : step env p event = some (p', shown)) :
    p'.upstream = .waiting ↔ p.upstream = .waiting := by
  have hNext :
      (proxy env).step p event = some (p', shown) := hStep
  have hSame (hUpstream : p'.upstream = p.upstream) :
      p'.upstream = .waiting ↔ p.upstream = .waiting := by
    rw [hUpstream]
  cases step_cases hNext with
  | upstream hTask =>
      cases hTask with
      | started hAt => exact absurd rfl hOther
      | drainSent | drainLost => exact hSame rfl
      | connected hAt | reset hAt | locked hAt
      | unlocked hAt | spawned hAt | took hAt | stopped hAt
      | wrote hAt | lost hAt | readerDead hAt =>
          rw [hAt]
          exact iff_of_false nofun nofun
  | client hTask => cases hTask <;> exact hSame rfl
  | writer hTask => cases hTask <;> exact hSame rfl
  | heartbeat hTask => cases hTask <;> exact hSame rfl
  | reader hTask => cases hTask <;> exact hSame rfl
  | _ => exact hSame rfl

/- The upstream task starts from waiting. -/
private theorem start_cases
    {p p' : State}
    {shown : List Obs}
    (hStep : upstreamTask env p .start = some (p', shown)) :
    p.upstream = .waiting ∧ p'.upstream ≠ .waiting := by
  have hTask := upstreamTask_cases hStep
  cases hTask with
  | started hAt => exact ⟨hAt, nofun⟩

/- The outcomes of a step. -/
inductive TransparentStep
    (host : Host)
    (env : Env)
    (s : TransparentState) :
    TransparentEvent → TransparentState →
      List TransparentObs → Prop
| incoming {conn : Incoming}
    (hPossible : conn.Possible host) :
    TransparentStep host env s (.incoming conn)
      { s with
        resolvedUpstream :=
          s.resolvedUpstream.or (getOriginalDst conn)
        acceptLoop := .resolved
        accepted := s.accepted ++ [conn] }
      [.accepted conn]
| started {p : State}
    (hBefore : s.proxy.upstream = .waiting)
    (hAfter : p.upstream ≠ .waiting) :
    TransparentStep host env s .start
      { s with
        proxy := p
        resolvedUpstream :=
          some (s.resolvedUpstream.getD unresolvedAddr)
        upstreamAddr :=
          some (s.resolvedUpstream.getD unresolvedAddr) }
      [.connect (s.resolvedUpstream.getD unresolvedAddr)]
| retried {addr : SocketAddr}
    (hAddr : s.upstreamAddr = some addr) :
    TransparentStep host env s .retry s [.connect addr]
| inner {e : TransparentEvent} {p : State}
    {acceptLoop : AcceptLoop} {shown : List Obs}
    (hEvent : e ≠ .start)
    (hWaiting : p.upstream = .waiting ↔
      s.proxy.upstream = .waiting) :
    TransparentStep host env s e
      { s with
        proxy := p
        acceptLoop := acceptLoop }
      (shown.map .inner)

theorem transparent_cases
    (hStep : (transparent host env).step s e =
      some (s', o)) :
    TransparentStep host env s e s' o := by
  cases e with
  | incoming conn =>
      simp only [transparent, transparentStep] at hStep
      split at hStep
      · rename_i hGuard
        cases hStep
        exact .incoming hGuard.2
      · cases hStep
  | notify =>
      simp only [transparent, transparentStep] at hStep
      split at hStep
      · rcases Option.map_eq_some_iff.mp hStep with
          ⟨⟨p, shown⟩, hInner, hNext⟩
        cases hNext
        exact .inner nofun
          (waiting_of_step .notify nofun hInner)
      · cases hStep
  | spawn =>
      simp only [transparent, transparentStep] at hStep
      split at hStep
      · rcases Option.map_eq_some_iff.mp hStep with
          ⟨⟨p, shown⟩, hInner, hNext⟩
        cases hNext
        exact .inner nofun
          (waiting_of_step .accept nofun hInner)
      · cases hStep
  | start =>
      simp only [transparent, transparentStep] at hStep
      split at hStep
      · cases hStep
      · rename_i p shown hTask
        cases hStep
        rcases start_cases hTask with ⟨hBefore, hAfter⟩
        exact .started hBefore hAfter
  | retry =>
      simp only [transparent, transparentStep] at hStep
      split at hStep
      · rename_i addr hAddr
        split at hStep
        · cases hStep
          exact .retried hAddr
        · cases hStep
      · cases hStep
  | other event =>
      simp only [transparent, transparentStep] at hStep
      split at hStep
      · rename_i hOther
        rcases Option.map_eq_some_iff.mp hStep with
          ⟨⟨p, shown⟩, hInner, hNext⟩
        cases hNext
        refine .inner nofun (waiting_of_step event ?_ hInner)
        rintro rfl
        exact hOther
      · cases hStep

------------------------------------------------------------
-- What the Cell Holds
------------------------------------------------------------

theorem firstResolved_snoc
    (accepted : List Incoming)
    (conn : Incoming) :
    (firstResolved (accepted ++ [conn])).bind
        getOriginalDst =
      ((firstResolved accepted).bind getOriginalDst).or
        (getOriginalDst conn) := by
  unfold firstResolved
  rw [List.find?_append]
  cases hFirst : accepted.find? fun conn =>
      (getOriginalDst conn).isSome with
  | some first =>
      have hSome := List.find?_some hFirst
      cases hDst : getOriginalDst first with
      | none => simp [hDst] at hSome
      | some dst => simp [hDst]
  | none =>
      cases hDst : getOriginalDst conn with
      | none => simp [hDst]
      | some dst => simp [hDst]

theorem resolution_of_run
    (hRun : (transparent host env).Run es h s) :
    Resolution host h s := by
  refine Machine.run_invariant
    (motive := fun h s => Resolution host h s)
    ?_ ?_ hRun
  · exact
      { shown := fun _ => iff_of_false nofun nofun
        possible := nofun
        cell := fun _ => rfl
        taken := nofun
        waiting := iff_of_true rfl rfl }
  · intro h s e s' o hInv hNext
    cases transparent_cases hNext with
    | @incoming conn hPossible =>
        refine ⟨?_, ?_, ?_, ?_, hInv.waiting⟩
        · intro other
          simp [hInv.shown other]
        · intro other hMem
          rcases List.mem_append.mp hMem with hOld | hNew
          · exact hInv.possible other hOld
          · rw [List.mem_singleton.mp hNew]
            exact hPossible
        · intro hNone
          rw [firstResolved_snoc, ← hInv.cell hNone]
        · intro addr hAddr
          exact List.mem_append_left _
            (hInv.taken addr hAddr)
    | started hBefore hAfter =>
        refine ⟨?_, hInv.possible, nofun, ?_, ?_⟩
        · intro conn
          simp [hInv.shown conn]
        · intro addr hAddr
          cases hAddr
          simp
        · exact iff_of_false hAfter nofun
    | retried hAddr =>
        refine ⟨?_, hInv.possible, hInv.cell, ?_,
          hInv.waiting⟩
        · intro conn
          simp [hInv.shown conn]
        · intro addr hTaken
          exact List.mem_append_left _
            (hInv.taken addr hTaken)
    | inner hEvent hWaiting =>
        refine ⟨?_, hInv.possible, hInv.cell, ?_,
          hWaiting.trans hInv.waiting⟩
        · intro conn
          simp [hInv.shown conn]
        · intro addr hTaken
          exact List.mem_append_left _
            (hInv.taken addr hTaken)

/-
  Before it starts, the address that the upstream task will
  take is one that a client was redirected from, and not the
  proxy's, exactly when the first connection that set the
  cell was redirected.
-/
private theorem takes_redirected_iff
    (hInv : Resolution host h s)
    (hNone : s.upstreamAddr = none) :
    (∃ x ∈ h, HeadedTo host x
        (.connect
          (s.resolvedUpstream.getD unresolvedAddr))) ↔
      ∃ conn, firstResolved s.accepted = some conn ∧
        conn.IsRedirected := by
  rw [hInv.cell hNone]
  constructor
  · rintro ⟨x, hx, hHeaded⟩
    cases x with
    | accepted conn =>
        cases conn with
        | redirected dst =>
            rcases hHeaded with ⟨hDst, hForeign⟩
            have hMem := (hInv.shown _).mp hx
            cases hFirst : firstResolved s.accepted with
            | none =>
                have hNot :=
                  List.find?_eq_none.mp hFirst _ hMem
                exact absurd rfl hNot
            | some first =>
                refine ⟨first, rfl, ?_⟩
                have hPossible := hInv.possible first
                  (List.mem_of_find?_eq_some hFirst)
                cases first with
                | redirected dst' => trivial
                | direct addr =>
                    rw [hFirst] at hForeign
                    exact absurd (Or.inl hPossible) hForeign
                | failing =>
                    have hSome := List.find?_some hFirst
                    cases hSome
        | direct addr => cases hHeaded
        | failing => cases hHeaded
    | connect addr => cases hHeaded
    | inner shown => cases hHeaded
  · rintro ⟨conn, hFirst, hRedirected⟩
    cases conn with
    | redirected dst =>
        have hMem := List.mem_of_find?_eq_some hFirst
        refine ⟨.accepted (.redirected dst),
          (hInv.shown _).mpr hMem, ?_, ?_⟩
        · rw [hFirst]
          rfl
        · rw [hFirst]
          exact hInv.possible _ hMem
    | direct addr => cases hRedirected
    | failing => cases hRedirected

------------------------------------------------------------
-- Runs
------------------------------------------------------------

/-
  In transparent mode the upstream task only connects to
  addresses that clients were redirected from, and never to
  the proxy itself, exactly in the runs in which it starts
  after a connection with an original destination the first
  of which was redirected.
-/
theorem headed_first_iff
    (host : Host)
    (env : Env)
    (es : List TransparentEvent)
    (h : List TransparentObs)
    (s : TransparentState)
    (hRun : (transparent host env).Run es h s) :
    HeadedFirst host h ↔
      (transparent host env).Meets StartsRedirected
        (transparent host env).init es := by
  refine Machine.history_iff_meets History.preceded_nil
    ?_ hRun
  intro es h s e s' o hBefore hNext
  have hInv := resolution_of_run hBefore
  cases transparent_cases hNext with
  | incoming hPossible =>
      rw [History.preceded_quiet_iff]
      · exact (and_iff_left trivial).symm
      · intro y hy hConnect
        rw [List.mem_singleton.mp hy] at hConnect
        exact hConnect
  | started hStart hAfter =>
      rw [History.preceded_snoc_iff trivial,
        takes_redirected_iff hInv (hInv.waiting.mp hStart)]
      rfl
  | retried hAddr =>
      rw [History.preceded_snoc_iff trivial]
      constructor
      · exact fun hHeaded => ⟨hHeaded.1, trivial⟩
      · rintro ⟨hHeaded, -⟩
        exact ⟨hHeaded, hHeaded.exists_cause
          (hInv.taken _ hAddr) trivial⟩
  | inner hEvent hWaiting =>
      rw [History.preceded_quiet_iff]
      · cases e with
        | start => exact absurd rfl hEvent
        | _ => exact (and_iff_left trivial).symm
      · intro y hy hConnect
        rcases List.mem_map.mp hy with ⟨x, -, rfl⟩
        exact hConnect

/- An IPv4 address and the control port. -/
def controlOn (a b c d : UInt8) : SocketAddr where
  ip := .v4 (ipv4Addr a b c d)
  port := 4700

/- A host that listens on all its addresses. -/
def gateway : Host where
  controlAddr := controlOn 0 0 0 0
  imagingAddr := { controlOn 0 0 0 0 with port := 4800 }
  localAddrs :=
    [.v4 (ipv4Addr 127 0 0 1), .v4 (ipv4Addr 192 168 1 10)]

/- A client comes in and the upstream task starts. -/
def firstClient (conn : Incoming) : List TransparentEvent :=
  [.incoming conn, .notify, .start]

theorem headed_first_telescope :
    gateway.IsOwn unresolvedAddr ∧
      HeadedFirst gateway
        ((transparent gateway parkEnv).outcome
          (firstClient (.redirected
            (controlOn 10 0 0 1)))).2 := by
  refine ⟨by decide, ?_⟩
  rw [headed_first_iff gateway parkEnv _ _ _
    (Machine.run_outcome (by decide))]
  refine ⟨trivial, trivial, ?_, trivial⟩
  exact ⟨_, rfl, trivial⟩

/- A run that connects to the proxy is not headed there. -/
private theorem not_headed_of_own
    {addr : SocketAddr}
    (hConnect : .connect addr ∈ h)
    (hOwn : host.IsOwn addr) :
    ¬ HeadedFirst host h := by
  intro hHeaded
  rcases hHeaded.exists_cause hConnect trivial with
    ⟨x, -, hCause⟩
  exact hCause.foreign hOwn

/-
  The first client connects to the proxy itself, or its
  connection has no original destination: the upstream task
  connects to the proxy, and goes on doing so after a
  redirected client has come.
-/
theorem self_connect_reached :
    (∃ h s, (transparent gateway parkEnv).Run
        (firstClient (.direct (controlOn 192 168 1 10)) ++
          [.spawn, .incoming (.redirected
            (controlOn 10 0 0 1)), .retry]) h s ∧
      s.upstreamAddr = some (controlOn 192 168 1 10) ∧
      gateway.IsOwn (controlOn 192 168 1 10) ∧
      ¬ HeadedFirst gateway h) ∧
    ∃ h s, (transparent gateway parkEnv).Run
        (firstClient .failing) h s ∧
      s.upstreamAddr = some unresolvedAddr ∧
      gateway.IsOwn unresolvedAddr ∧
      ¬ HeadedFirst gateway h := by
  have hOwn : gateway.IsOwn (controlOn 192 168 1 10) := by
    decide
  have hFallback : gateway.IsOwn unresolvedAddr := by
    decide
  constructor
  · exact ⟨_, _, Machine.run_outcome (by decide),
      by decide, hOwn,
      not_headed_of_own (by decide) hOwn⟩
  · exact ⟨_, _, Machine.run_outcome (by decide),
      by decide, hFallback,
      not_headed_of_own (by decide) hFallback⟩

end Control

end SeestarProxy
