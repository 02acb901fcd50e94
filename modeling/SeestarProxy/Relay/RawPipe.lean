import SeestarProxy.Library.History
import SeestarProxy.Library.Machine
import SeestarProxy.Library.Pipe

/-
  The raw pipe mode, for one listener.

  `raw_pipe` accepts a client, connects to the telescope and
  runs two copying tasks until both have stopped; only then
  does it accept the next client. Any peer may send, close
  its stream and fail at any time, also a client that still
  waits in the backlog.

  Main declarations:
    * `Direction`, `State`, `Event`, `rawPipe` and `RawStep`
    * `session`, `Fits` and `Transparent`
    * `raw_pipe_transparent`
-/

------------------------------------------------------------
-- The Pipe
------------------------------------------------------------

namespace SeestarProxy

namespace RawPipe

open Library

/- Clients, in the order in which they connected. -/
abbrev ClientId := Nat

/- The two copying tasks of a session. -/
inductive Direction where
| clientToTelescope
| telescopeToClient
deriving DecidableEq, Repr

/- A direction of the session of a client. -/
abbrev Way := ClientId × Direction

/- Where `raw_pipe` is. -/
inductive Phase where
| binding
| accepting
| connecting (client : ClientId)
| joining (client : ClientId)
| returned
deriving DecidableEq, Repr

/- The client whose session is running. -/
def Phase.session? : Phase → Option ClientId
| .joining c => some c
| _ => none

/-
  The state of the pipe: the clients that have connected and
  those that were accepted, those with a connection to the
  telescope, and both directions of each session. The near
  end of a direction is the client or the telescope.
-/
structure State where
  phase : Phase
  arrived : Nat
  accepted : Nat
  connected : ClientId → Bool
  pipe : Way → Pipe UInt8

def State.init : State where
  phase := .binding
  arrived := 0
  accepted := 0
  connected := fun _ => false
  pipe := fun _ => Pipe.fresh UInt8

/- The size of the buffer of a copying task. -/
def bufferSize : Nat := 32 * 1024

/- What happens next. -/
inductive Event where
| bind (ok : Bool)
| arrive
| acceptError
| accept
| connect (ok : Bool)
| send (way : Way) (bytes : List UInt8)
| close (way : Way)
| copy (way : Way) (event : Pipe.CopyEvent)
| join
deriving DecidableEq, Repr

/- What the accept loop shows. -/
inductive Doing where
| accepted (c : ClientId)
| dropped (c : ClientId)
| opened (c : ClientId)
| closed (c : ClientId)
deriving DecidableEq, Repr

/- What a step shows. -/
abbrev Obs := Pipe.Shown Doing Way UInt8

/- The peer at the near end is there. -/
def State.Present (s : State) : Way → Prop
| (c, .clientToTelescope) => c < s.arrived
| (c, .telescopeToClient) => s.connected c = true

instance (s : State) (way : Way) :
    Decidable (s.Present way) := by
  rcases way with ⟨c, d⟩
  cases d <;> unfold State.Present <;> infer_instance

def State.setPipe
    (s : State)
    (way : Way)
    (p : Pipe UInt8) : State :=
  { s with pipe := Function.update s.pipe way p }

/-
  A copying task reads into an empty buffer, which is then
  written out before the next read.
-/
def MayCopy
    (p : Pipe UInt8)
    (event : Pipe.CopyEvent) : Prop :=
  ∀ n ∈ event.reads, p.buffer = [] ∧ n ≤ bufferSize

instance (p : Pipe UInt8) (event : Pipe.CopyEvent) :
    Decidable (MayCopy p event) := by
  unfold MayCopy
  infer_instance

/- Both copying tasks of a client have stopped. -/
def State.BothOver (s : State) (c : ClientId) : Prop :=
  (s.pipe (c, .clientToTelescope)).phase.IsOver ∧
    (s.pipe (c, .telescopeToClient)).phase.IsOver

instance (s : State) (c : ClientId) :
    Decidable (s.BothOver c) := by
  unfold State.BothOver
  infer_instance

/-
  One step. A bind error returns; an accept error and a
  failed connection go on with the next client, the latter
  dropping the one in hand.
-/
def step
    (s : State) :
    Event → Option (State × List Obs)
| .bind ok =>
    if s.phase = .binding then
      some ({ s with
        phase := if ok then .accepting else .returned }, [])
    else
      none
| .arrive => some ({ s with arrived := s.arrived + 1 }, [])
| .acceptError =>
    if s.phase = .accepting then some (s, []) else none
| .accept =>
    if s.phase = .accepting ∧ s.accepted < s.arrived then
      some ({ s with
        accepted := s.accepted + 1
        phase := .connecting s.accepted },
        [.own (.accepted s.accepted)])
    else
      none
| .connect false =>
    match s.phase with
    | .connecting c =>
        some ({ s with phase := .accepting }, [.own (.dropped c)])
    | _ => none
| .connect true =>
    match s.phase with
    | .connecting c =>
        match (s.pipe (c, .clientToTelescope)).start,
            (s.pipe (c, .telescopeToClient)).start with
        | some c2t, some t2c =>
            some ({ (s.setPipe (c, .clientToTelescope)
                c2t).setPipe (c, .telescopeToClient) t2c with
              phase := .joining c
              connected :=
                Function.update s.connected c true },
              [.own (.opened c)])
        | _, _ => none
    | _ => none
| .send way bytes =>
    if s.Present way then
      ((s.pipe way).send bytes).map fun p =>
        (s.setPipe way p, [.traffic (.sent way bytes)])
    else
      none
| .close way =>
    if s.Present way then
      some (s.setPipe way (s.pipe way).close, [])
    else
      none
| .copy way event =>
    if MayCopy (s.pipe way) event then
      (Pipe.copy way (s.pipe way) event).map fun next =>
        (s.setPipe way next.1, next.2.map .traffic)
    else
      none
| .join =>
    match s.phase with
    | .joining c =>
        if s.BothOver c then
          some ({ s with phase := .accepting }, [.own (.closed c)])
        else
          none
    | _ => none

/- The raw pipe of one listener, as a machine. -/
def rawPipe : Machine State Event Obs where
  init := State.init
  step := step

------------------------------------------------------------
-- Steps
------------------------------------------------------------

variable {s s' : State} {e : Event} {h o : List Obs}
variable {c : ClientId} {way : Way} {p : Pipe UInt8}

/- The outcomes of a step. -/
inductive RawStep (s : State) : State → List Obs → Prop
| listening (phase : Phase) (arrived : Nat)
    (hBefore : phase = s.phase ∨
      s.phase = .binding ∧ phase.session? = none ∧
        ∀ c, phase ≠ .connecting c) :
    RawStep s
      { s with phase := phase, arrived := arrived } []
| accepted
    (hAt : s.phase = .accepting) :
    RawStep s
      { s with
        accepted := s.accepted + 1
        phase := .connecting s.accepted }
      [.own (.accepted s.accepted)]
| dropped {c : ClientId}
    (hAt : s.phase = .connecting c) :
    RawStep s { s with phase := .accepting } [.own (.dropped c)]
| opened {c : ClientId} {c2t t2c : Pipe UInt8}
    (hAt : s.phase = .connecting c)
    (hC2t : (s.pipe (c, .clientToTelescope)).start =
      some c2t)
    (hT2c : (s.pipe (c, .telescopeToClient)).start =
      some t2c) :
    RawStep s
      { (s.setPipe (c, .clientToTelescope) c2t).setPipe
          (c, .telescopeToClient) t2c with
        phase := .joining c
        connected := Function.update s.connected c true }
      [.own (.opened c)]
| sent {way : Way} {bytes : List UInt8} {p : Pipe UInt8}
    (hSend : (s.pipe way).send bytes = some p) :
    RawStep s (s.setPipe way p)
      [.traffic (.sent way bytes)]
| closed (way : Way) :
    RawStep s (s.setPipe way (s.pipe way).close) []
| copied {way : Way} {p : Pipe UInt8}
    {event : Pipe.CopyEvent}
    {o : List (Pipe.Traffic Way UInt8)}
    (hCopy : Pipe.copy way (s.pipe way) event =
      some (p, o)) :
    RawStep s (s.setPipe way p) (o.map .traffic)
| joined {c : ClientId}
    (hAt : s.phase = .joining c)
    (hOver : s.BothOver c) :
    RawStep s { s with phase := .accepting } [.own (.closed c)]

theorem step_cases
    (hStep : step s e = some (s', o)) :
    RawStep s s' o := by
  cases e with
  | bind ok =>
      simp only [step] at hStep
      split at hStep
      · rename_i hAt
        cases hStep
        refine .listening _ s.arrived (.inr ⟨hAt, ?_⟩)
        cases ok
        · exact ⟨rfl, nofun⟩
        · exact ⟨rfl, nofun⟩
      · cases hStep
  | arrive =>
      cases hStep
      exact .listening s.phase _ (.inl rfl)
  | acceptError =>
      simp only [step] at hStep
      split at hStep
      · cases hStep
        exact .listening s.phase s.arrived (.inl rfl)
      · cases hStep
  | accept =>
      simp only [step] at hStep
      split at hStep
      · rename_i hGuard
        cases hStep
        exact .accepted hGuard.1
      · cases hStep
  | connect ok =>
      cases ok with
      | false =>
          simp only [step] at hStep
          split at hStep
          · rename_i c hAt
            cases hStep
            exact .dropped hAt
          · cases hStep
      | true =>
          simp only [step] at hStep
          split at hStep
          · rename_i c hAt
            split at hStep
            · rename_i c2t t2c hC2t hT2c
              cases hStep
              exact .opened hAt hC2t hT2c
            · cases hStep
          · cases hStep
  | send way bytes =>
      simp only [step] at hStep
      split at hStep
      · rcases Option.map_eq_some_iff.mp hStep with
          ⟨p, hSend, hEq⟩
        cases hEq
        exact .sent hSend
      · cases hStep
  | close way =>
      simp only [step] at hStep
      split at hStep
      · cases hStep
        exact .closed way
      · cases hStep
  | copy way event =>
      simp only [step] at hStep
      split at hStep
      · rcases Option.map_eq_some_iff.mp hStep with
          ⟨⟨p, shown⟩, hCopy, hEq⟩
        cases hEq
        exact .copied hCopy
      · cases hStep
  | join =>
      simp only [step] at hStep
      split at hStep
      · rename_i c hAt
        split at hStep
        · rename_i hOver
          cases hStep
          exact .joined hAt hOver
        · cases hStep
      · cases hStep

------------------------------------------------------------
-- What a History Says
------------------------------------------------------------

def accepted? : Obs → Option ClientId
| .own (.accepted c) => some c
| _ => none

/- How an observation changes whose session is running. -/
def session? : Obs → Option (Unit × Option ClientId)
| .own (.opened c) => some ((), some c)
| .own (.closed _) => some ((), none)
| _ => none

/- The client whose session is running. -/
def session (h : List Obs) : Option ClientId :=
  (History.last session? h ()).join

/-
  A client is accepted, dropped or connected only between
  sessions; bytes are copied only in the session of their
  client; a session ends after both directions have.
-/
def Fits (before : List Obs) : Obs → Prop
| .own (.accepted _) => session before = none
| .own (.dropped c) | .own (.opened c) =>
    session before = none ∧ .own (.accepted c) ∈ before
| .traffic (.sent _ _) => True
| .traffic (.wrote way _) | .traffic (.ended way _) =>
    session before = some way.1
| .own (.closed c) =>
    session before = some c ∧
      ∀ d, ∃ clean, .traffic (.ended (c, d) clean) ∈ before

/-
  The pipe is transparent: each far end gets the front of
  what its near end sent in the same session, all of it when
  the direction ended by itself; sessions never overlap, and
  clients are taken in the order in which they came.
-/
structure Transparent (h : List Obs) : Prop where
  front : ∀ way, Pipe.wroteOn way (Pipe.traffic h) <+:
    Pipe.sentOn way (Pipe.traffic h)
  whole : ∀ way, .traffic (.ended way true) ∈ h →
    Pipe.wroteOn way (Pipe.traffic h) =
      Pipe.sentOn way (Pipe.traffic h)
  apart : History.Guarded Fits h
  inTurn : ∃ n, h.filterMap accepted? = List.range n

theorem session_snoc_of_none
    {x : Obs}
    (hNone : session? x = none) :
    session (h ++ [x]) = session h := by
  unfold session
  rw [History.last_append_of_none]
  simp [History.last, hNone]

theorem session_snoc_of_some
    {x : Obs}
    {next : Option ClientId}
    (hSome : session? x = some ((), next)) :
    session (h ++ [x]) = next := by
  unfold session
  rw [History.last_append_of_some (v := next)]
  · rfl
  · simp [History.last, hSome]

------------------------------------------------------------
-- The Invariant
------------------------------------------------------------

/-
  The traffic is that of the pipes, bytes are copied only in
  the session of their client, and the history is that of
  sessions one after the other.
-/
structure Kept (h : List Obs) (s : State) : Prop where
  recorded : Pipe.Recorded (Pipe.traffic h) s.pipe
  copying : ∀ way, (s.pipe way).phase = .copying →
    s.phase = .joining way.1
  running : session h = s.phase.session?
  taken : ∀ c, s.phase = .connecting c →
    .own (.accepted c) ∈ h
  turns : h.filterMap accepted? = List.range s.accepted
  apart : History.Guarded Fits h

theorem kept_init : Kept [] State.init where
  recorded := Pipe.recorded_fresh
  copying := nofun
  running := rfl
  taken := nofun
  turns := rfl
  apart := History.guarded_nil

/- Nothing is copied unless a session is running. -/
theorem Kept.not_copying
    (hKept : Kept h s)
    (hAt : s.phase.session? = none)
    (way : Way) :
    (s.pipe way).phase ≠ .copying := by
  intro hCopying
  rw [hKept.copying way hCopying] at hAt
  cases hAt

/- A client is taken or dropped between two sessions. -/
private theorem Kept.between
    {x : Obs}
    {phase : Phase}
    {accepted : Nat}
    (hKept : Kept h s)
    (hAt : s.phase.session? = none)
    (hNext : phase.session? = none)
    (hNone : session? x = none)
    (hTraffic : x.traffic? = none)
    (hFits : Fits h x)
    (hTaken : ∀ c, phase = .connecting c →
      .own (.accepted c) ∈ h ++ [x])
    (hTurns : (h ++ [x]).filterMap accepted? =
      List.range accepted) :
    Kept (h ++ [x])
      { s with phase := phase, accepted := accepted } where
  recorded := by
    have hSame : Pipe.traffic (h ++ [x]) = Pipe.traffic h := by
      rw [Pipe.traffic_append]
      simp [Pipe.traffic, hTraffic]
    rw [hSame]
    exact hKept.recorded
  copying := fun way hCopying =>
    absurd hCopying (hKept.not_copying hAt way)
  running := by
    rw [session_snoc_of_none hNone, hKept.running, hAt,
      hNext]
  taken := hTaken
  turns := hTurns
  apart := History.guarded_snoc_iff.mpr
    ⟨hKept.apart, hFits⟩

/- One pipe changes and no session begins or ends. -/
private theorem Kept.piped
    {shown : List (Pipe.Traffic Way UInt8)}
    (hKept : Kept h s)
    (hChange : Pipe.Change way (s.pipe way) p shown)
    (hCopying : p.phase = .copying →
      (s.pipe way).phase = .copying)
    (hRunning :
      session (h ++ shown.map .traffic) = session h)
    (hApart :
      History.Guarded Fits (h ++ shown.map .traffic)) :
    Kept (h ++ shown.map .traffic) (s.setPipe way p) where
  recorded := by
    rw [Pipe.traffic_append, Pipe.traffic_map]
    exact hKept.recorded.change hChange
  copying := by
    intro way' hAfter
    by_cases hWay : way' = way
    · subst hWay
      simp only [State.setPipe,
        Function.update_self] at hAfter
      exact hKept.copying way' (hCopying hAfter)
    · simp only [State.setPipe,
        Function.update_of_ne hWay] at hAfter
      exact hKept.copying way' hAfter
  running := hRunning.trans hKept.running
  taken := fun c hAt =>
    List.mem_append_left _ (hKept.taken c hAt)
  turns := by
    have hNone :
        (shown.map fun t => (.traffic t : Obs)).filterMap
          accepted? = [] := by
      simp [List.filterMap_map, Function.comp_def,
        accepted?]
    rw [List.filterMap_append, hNone, List.append_nil]
    exact hKept.turns
  apart := hApart

/- Both directions start when the session is opened. -/
private theorem Kept.opened
    {c2t t2c : Pipe UInt8}
    (hKept : Kept h s)
    (hAt : s.phase = .connecting c)
    (hC2t : (s.pipe (c, .clientToTelescope)).start =
      some c2t)
    (hT2c : (s.pipe (c, .telescopeToClient)).start =
      some t2c) :
    Kept (h ++ [.own (.opened c)])
      { (s.setPipe (c, .clientToTelescope) c2t).setPipe
          (c, .telescopeToClient) t2c with
        phase := .joining c
        connected := Function.update s.connected c true } where
  recorded := by
    have hNone : Pipe.traffic (h ++ [.own (.opened c)]) =
        Pipe.traffic h ++ [] ++ [] := by
      rw [Pipe.traffic_append, List.append_nil]
      rfl
    have hOther :
        (s.setPipe (c, .clientToTelescope) c2t).pipe
          (c, .telescopeToClient) =
            s.pipe (c, .telescopeToClient) :=
      Function.update_of_ne (by simp) _ _
    rw [hNone]
    refine (hKept.recorded.change
      (Pipe.start_change _ hC2t)).change ?_
    change Pipe.Change _ ((s.setPipe _ c2t).pipe _) _ _
    rw [hOther]
    exact Pipe.start_change _ hT2c
  copying := by
    rintro ⟨c', d⟩ hCopying
    by_cases hClient : c' = c
    · subst hClient
      rfl
    · have hOther {d' : Direction} : (c', d) ≠ (c, d') := by
        simp [hClient]
      simp only [State.setPipe,
        Function.update_of_ne hOther] at hCopying
      have hRunning := hKept.copying _ hCopying
      rw [hAt] at hRunning
      cases hRunning
  running := session_snoc_of_some rfl
  taken := nofun
  turns := by
    rw [List.filterMap_append, hKept.turns]
    exact List.append_nil _
  apart := by
    refine History.guarded_snoc_iff.mpr
      ⟨hKept.apart, ?_, hKept.taken c hAt⟩
    rw [hKept.running, hAt]
    rfl

/- The session ends when both directions are over. -/
private theorem Kept.joined
    (hKept : Kept h s)
    (hAt : s.phase = .joining c)
    (hOver : s.BothOver c) :
    Kept (h ++ [.own (.closed c)])
      { s with phase := .accepting } where
  recorded := by
    have hSame : Pipe.traffic (h ++ [.own (.closed c)]) =
        Pipe.traffic h := by
      rw [Pipe.traffic_append]
      exact List.append_nil _
    rw [hSame]
    exact hKept.recorded
  copying := by
    rintro ⟨c', d⟩ hCopying
    have hHere := hKept.copying _ hCopying
    rw [hAt] at hHere
    cases hHere
    cases d with
    | clientToTelescope =>
        have hBoth := hOver.1
        rw [show (s.pipe _).phase = _ from hCopying] at hBoth
        cases hBoth
    | telescopeToClient =>
        have hBoth := hOver.2
        rw [show (s.pipe _).phase = _ from hCopying] at hBoth
        cases hBoth
  running := session_snoc_of_some rfl
  taken := nofun
  turns := by
    rw [List.filterMap_append, hKept.turns]
    exact List.append_nil _
  apart := by
    refine History.guarded_snoc_iff.mpr
      ⟨hKept.apart, ?_, ?_⟩
    · rw [hKept.running, hAt]
      rfl
    · intro d
      have hEnded : ∃ clean,
          .ended (c, d) clean ∈ Pipe.traffic h := by
        cases d with
        | clientToTelescope =>
            exact hKept.recorded.exists_ended hOver.1
        | telescopeToClient =>
            exact hKept.recorded.exists_ended hOver.2
      rcases hEnded with ⟨clean, hMem⟩
      exact ⟨clean, Pipe.mem_traffic_iff.mp hMem⟩

/- A copying task takes a step in the running session. -/
private theorem Kept.copied
    {event : Pipe.CopyEvent}
    {shown : List (Pipe.Traffic Way UInt8)}
    (hKept : Kept h s)
    (hCopy : Pipe.copy way (s.pipe way) event =
      some (p, shown)) :
    Kept (h ++ shown.map .traffic) (s.setPipe way p) := by
  rcases Pipe.copy_change hCopy with ⟨hBefore, hChange⟩
  have hRunning : session h = some way.1 := by
    rw [hKept.running, hKept.copying way hBefore]
    rfl
  refine hKept.piped hChange (fun _ => hBefore) ?_ ?_
  · cases hChange with
    | quiet | started => exact congrArg _ (List.append_nil h)
    | sent | wrote | ended => exact session_snoc_of_none rfl
  · cases hChange with
    | quiet | started =>
        simpa using hKept.apart
    | sent bytes =>
        exact History.guarded_snoc_iff.mpr
          ⟨hKept.apart, trivial⟩
    | wrote bytes =>
        exact History.guarded_snoc_iff.mpr
          ⟨hKept.apart, hRunning⟩
    | ended clean =>
        exact History.guarded_snoc_iff.mpr
          ⟨hKept.apart, hRunning⟩

theorem Kept.step
    (hKept : Kept h s)
    (hStep : RawStep s s' o) :
    Kept (h ++ o) s' := by
  cases hStep with
  | listening phase arrived hBefore =>
      rw [List.append_nil]
      rcases hBefore with rfl | ⟨hAt, hNone, hOther⟩
      · exact { hKept with }
      · have hBetween : s.phase.session? = none := by
          rw [hAt]
          rfl
        refine
          { hKept with
            copying := ?_
            running := ?_
            taken := ?_ }
        · intro way hCopying
          exact absurd hCopying
            (hKept.not_copying hBetween way)
        · rw [hKept.running, hBetween, hNone]
        · intro c hAt'
          exact absurd hAt' (hOther c)
  | accepted hAt =>
      refine hKept.between (by rw [hAt]; rfl) rfl rfl rfl
        ?_ ?_ ?_
      · change session h = none
        rw [hKept.running, hAt]
        rfl
      · rintro c ⟨⟩
        exact List.mem_append_right h List.mem_cons_self
      · rw [List.filterMap_append, hKept.turns,
          List.range_succ]
        rfl
  | @dropped c hAt =>
      refine hKept.between (by rw [hAt]; rfl) rfl rfl rfl
        ⟨?_, hKept.taken c hAt⟩ ?_ ?_
      · rw [hKept.running, hAt]
        rfl
      · intro c' hNext
        cases hNext
      · rw [List.filterMap_append, hKept.turns]
        exact List.append_nil _
  | opened hAt hC2t hT2c => exact hKept.opened hAt hC2t hT2c
  | @sent way bytes p hSend =>
      have hChange := Pipe.send_change way hSend
      refine hKept.piped hChange ?_
        (session_snoc_of_none rfl)
        (History.guarded_snoc_iff.mpr
          ⟨hKept.apart, trivial⟩)
      cases hChange with
      | sent _ hSource hSink hPhase =>
          exact fun hCopying => hPhase ▸ hCopying
  | closed way =>
      refine hKept.piped (Pipe.close_change way _)
        (fun hCopying => hCopying) ?_ ?_
      · exact congrArg _ (List.append_nil h)
      · simpa using hKept.apart
  | copied hCopy => exact hKept.copied hCopy
  | joined hAt hOver => exact hKept.joined hAt hOver

theorem kept_of_run
    {es : List Event}
    (hRun : rawPipe.Run es h s) :
    Kept h s :=
  Machine.run_invariant kept_init
    (fun _ _ _ _ _ hKept hStep =>
      hKept.step (step_cases hStep)) hRun

------------------------------------------------------------
-- Every Run
------------------------------------------------------------

/-
  In every run, whatever the peers send and whenever a
  stream or a connection fails, the pipe is transparent.
-/
theorem raw_pipe_transparent
    {es : List Event}
    (hRun : rawPipe.Run es h s) :
    Transparent h := by
  have hKept := kept_of_run hRun
  exact
    { front := hKept.recorded.front
      whole := fun way hEnded =>
        hKept.recorded.whole (Pipe.mem_traffic_iff.mpr hEnded)
      apart := hKept.apart
      inTurn := ⟨s.accepted, hKept.turns⟩ }

/-
  Two clients connect, and the second one sends while it
  still waits. The telescope answers the first one, which
  has closed its stream; the telescope cannot be reached for
  the second one.
-/
def twoClients : List Event :=
  [.bind true, .arrive, .arrive, .accept, .connect true,
    .send (1, .clientToTelescope) [9],
    .send (0, .clientToTelescope) [1, 2, 3],
    .close (0, .clientToTelescope),
    .copy (0, .clientToTelescope) (.read 3),
    .copy (0, .clientToTelescope) (.write 2),
    .copy (0, .clientToTelescope) (.write 1),
    .copy (0, .clientToTelescope) .eof,
    .send (0, .telescopeToClient) [4],
    .copy (0, .telescopeToClient) (.read 1),
    .copy (0, .telescopeToClient) (.write 1),
    .close (0, .telescopeToClient),
    .copy (0, .telescopeToClient) .eof,
    .join, .accept, .connect false]

theorem raw_pipe_transparent_twoClients :
    ∃ h s, rawPipe.Run twoClients h s ∧
      Pipe.wroteOn (0, .clientToTelescope) (Pipe.traffic h) =
        [1, 2, 3] ∧
      Pipe.wroteOn (0, .telescopeToClient) (Pipe.traffic h) =
        [4] ∧
      Pipe.wroteOn (1, .clientToTelescope) (Pipe.traffic h) =
        [] ∧
      Transparent h := by
  have hRun : rawPipe.Run twoClients _ _ :=
    Machine.run_outcome (by decide +kernel)
  refine ⟨_, _, hRun, by decide +kernel, by decide +kernel,
    by decide +kernel, ?_⟩
  exact raw_pipe_transparent hRun

end RawPipe

end SeestarProxy
