import SeestarProxy.Library.History
import SeestarProxy.Library.Machine
import SeestarProxy.Library.Pipe

/-
  The accept loop of the Tailscale node, for one port.

  Each accepted connection gets a task of its own, which
  connects to the proxy's port on this host and copies in
  both directions with `tokio::io::copy`. The task ends with
  the first direction that ends; what the other direction
  has not written by then is lost.

  Main declarations:
    * `Task`, `State`, `Event`, `bridges` and `BridgesStep`
    * `Fits`, `Bridged` and `bridges_bridged`
-/

------------------------------------------------------------
-- The Bridges
------------------------------------------------------------

namespace SeestarProxy

namespace Tailscale

open Library

/- Connections, in the order in which they were accepted. -/
abbrev ConnId := Nat

/- The two directions that a bridge copies. -/
inductive Direction where
| tsToLocal
| localToTs
deriving DecidableEq, Repr

def Direction.other : Direction → Direction
| .tsToLocal => .localToTs
| .localToTs => .tsToLocal

/- A direction of a bridge. -/
abbrev Way := ConnId × Direction

/- The other direction of the same bridge. -/
def otherWay (way : Way) : Way := (way.1, way.2.other)

theorem otherWay_ne (way : Way) : otherWay way ≠ way := by
  rcases way with ⟨c, d⟩
  cases d <;> simp [otherWay, Direction.other]

theorem eq_or_eq_otherWay
    {way way' : Way}
    (hConn : way'.1 = way.1) :
    way' = way ∨ way' = otherWay way := by
  rcases way with ⟨c, d⟩
  rcases way' with ⟨c', d'⟩
  cases hConn
  cases d <;> cases d' <;> simp [otherWay, Direction.other]

/- Where the accept loop of a port is. -/
inductive Loop where
| listening
| accepting
| stopped
deriving DecidableEq, Repr

/- Where `bridge_to_local` is for a connection. -/
inductive Task where
| absent
| converting
| connecting
| copying
| closed
deriving DecidableEq, Repr

structure State where
  loop : Loop
  accepted : Nat
  task : ConnId → Task
  pipe : Way → Pipe UInt8

def State.init : State where
  loop := .listening
  accepted := 0
  task := fun _ => .absent
  pipe := fun _ => Pipe.fresh UInt8

/- What happens next. -/
inductive Event where
| listen (ok : Bool)
| accept
| acceptError
| convert (c : ConnId) (ok : Bool)
| connect (c : ConnId) (ok : Bool)
| send (way : Way) (bytes : List UInt8)
| close (way : Way)
| copy (way : Way) (event : Pipe.CopyEvent)
deriving DecidableEq, Repr

/- What the accept loop and the bridges show. -/
inductive Doing where
| accepted (c : ConnId)
| stopped
| dropped (c : ConnId)
| opened (c : ConnId)
deriving DecidableEq, Repr

/- What a step shows. -/
abbrev Obs := Pipe.Shown Doing Way UInt8

/- The peer at the near end is there. -/
def State.Present (s : State) : Way → Prop
| (c, .tsToLocal) => c < s.accepted
| (c, .localToTs) =>
    s.task c = .copying ∨ s.task c = .closed

instance (s : State) (way : Way) :
    Decidable (s.Present way) := by
  rcases way with ⟨c, d⟩
  cases d <;> unfold State.Present <;> infer_instance

def State.setPipe
    (s : State)
    (way : Way)
    (p : Pipe UInt8) : State :=
  { s with pipe := Function.update s.pipe way p }

def State.setTask
    (s : State)
    (c : ConnId)
    (task : Task) : State :=
  { s with task := Function.update s.task c task }

/- The copy reads as long as its buffer has room. -/
def MayCopy
    (bufSize : Nat)
    (p : Pipe UInt8)
    (event : Pipe.CopyEvent) : Prop :=
  ∀ n ∈ event.reads, p.buffer.length + n ≤ bufSize

instance
    (bufSize : Nat)
    (p : Pipe UInt8)
    (event : Pipe.CopyEvent) :
    Decidable (MayCopy bufSize p event) := by
  unfold MayCopy
  infer_instance

/-
  A step of one of the two copies. When the copy ends, the
  `select!` is over and drops the other one.
-/
def copyOrSelect
    (s : State)
    (way : Way)
    (event : Pipe.CopyEvent) :
    Option (State × List (Pipe.Traffic Way UInt8)) :=
  match Pipe.copy way (s.pipe way) event with
  | none => none
  | some (p, shown) =>
      if p.phase.IsOver then
        (s.pipe (otherWay way)).fail.map fun q =>
          (((s.setPipe way p).setPipe (otherWay way)
              q).setTask way.1 .closed,
            shown ++ [.ended (otherWay way) false])
      else
        some (s.setPipe way p, shown)

/- One step, for a copy buffer of the given size. -/
def step
    (bufSize : Nat)
    (s : State) :
    Event → Option (State × List Obs)
| .listen ok =>
    if s.loop = .listening then
      if ok = true then
        some ({ s with loop := .accepting }, [])
      else
        some ({ s with loop := .stopped }, [.own .stopped])
    else
      none
| .accept =>
    if s.loop = .accepting then
      some ({ s with
        accepted := s.accepted + 1
        task :=
          Function.update s.task s.accepted .converting },
        [.own (.accepted s.accepted)])
    else
      none
| .acceptError =>
    if s.loop = .accepting then
      some ({ s with loop := .stopped }, [.own .stopped])
    else
      none
| .convert c ok =>
    if s.task c = .converting then
      if ok = true then
        some (s.setTask c .connecting, [])
      else
        some (s.setTask c .closed, [.own (.dropped c)])
    else
      none
| .connect c ok =>
    if s.task c = .connecting then
      if ok = true then
        match (s.pipe (c, .tsToLocal)).start,
            (s.pipe (c, .localToTs)).start with
        | some toLocal, some toTs =>
            some (((s.setPipe (c, .tsToLocal)
                toLocal).setPipe (c, .localToTs)
                toTs).setTask c .copying, [.own (.opened c)])
        | _, _ => none
      else
        some (s.setTask c .closed, [.own (.dropped c)])
    else
      none
| .send way bytes =>
    if s.Present way then
      ((s.pipe way).send bytes).map fun p =>
        (s.setPipe way p, [.traffic (.sent way bytes)])
    else
      none
| .close way =>
    if s.Present way then
      some (s.setPipe way (s.pipe way).close, [])
    else
      none
| .copy way event =>
    if MayCopy bufSize (s.pipe way) event then
      (copyOrSelect s way event).map fun next =>
        (next.1, next.2.map .traffic)
    else
      none

/- The accept loop of a port and its bridges. -/
def bridges (bufSize : Nat) : Machine State Event Obs where
  init := State.init
  step := step bufSize

------------------------------------------------------------
-- Steps
------------------------------------------------------------

variable {bufSize : Nat} {s s' : State} {e : Event}
variable {h o : List Obs} {c : ConnId} {way : Way}
variable {p q : Pipe UInt8}

/- The outcomes of a step. -/
inductive BridgesStep (s : State) :
    State → List Obs → Prop
| bound (hAt : s.loop = .listening) :
    BridgesStep s { s with loop := .accepting } []
| stopped : BridgesStep s { s with loop := .stopped }
    [.own .stopped]
| accepted (hAt : s.loop = .accepting) :
    BridgesStep s
      { s with
        accepted := s.accepted + 1
        task :=
          Function.update s.task s.accepted .converting }
      [.own (.accepted s.accepted)]
| converted {c : ConnId} (hAt : s.task c = .converting) :
    BridgesStep s (s.setTask c .connecting) []
| dropped {c : ConnId}
    (hAt : s.task c = .converting ∨
      s.task c = .connecting) :
    BridgesStep s (s.setTask c .closed) [.own (.dropped c)]
| opened {c : ConnId} {toLocal toTs : Pipe UInt8}
    (hAt : s.task c = .connecting)
    (hToLocal : (s.pipe (c, .tsToLocal)).start =
      some toLocal)
    (hToTs : (s.pipe (c, .localToTs)).start = some toTs) :
    BridgesStep s
      (((s.setPipe (c, .tsToLocal) toLocal).setPipe
        (c, .localToTs) toTs).setTask c .copying)
      [.own (.opened c)]
| sent {way : Way} {bytes : List UInt8} {p : Pipe UInt8}
    (hSend : (s.pipe way).send bytes = some p) :
    BridgesStep s (s.setPipe way p)
      [.traffic (.sent way bytes)]
| closed (way : Way) :
    BridgesStep s (s.setPipe way (s.pipe way).close) []
| copied {way : Way} {p : Pipe UInt8}
    {event : Pipe.CopyEvent}
    {shown : List (Pipe.Traffic Way UInt8)}
    (hCopy : Pipe.copy way (s.pipe way) event =
      some (p, shown))
    (hRuns : ¬ p.phase.IsOver) :
    BridgesStep s (s.setPipe way p) (shown.map .traffic)
| selected {way : Way} {p q : Pipe UInt8}
    {event : Pipe.CopyEvent}
    {shown : List (Pipe.Traffic Way UInt8)}
    (hCopy : Pipe.copy way (s.pipe way) event =
      some (p, shown))
    (hOver : p.phase.IsOver)
    (hFail : (s.pipe (otherWay way)).fail = some q) :
    BridgesStep s
      (((s.setPipe way p).setPipe (otherWay way)
        q).setTask way.1 .closed)
      ((shown ++ [Pipe.Traffic.ended (otherWay way)
        false]).map .traffic)

theorem step_cases
    (hStep : step bufSize s e = some (s', o)) :
    BridgesStep s s' o := by
  cases e with
  | listen ok =>
      simp only [step] at hStep
      split at hStep
      · rename_i hAt
        split at hStep
        · cases hStep
          exact .bound hAt
        · cases hStep
          exact .stopped
      · cases hStep
  | accept =>
      simp only [step] at hStep
      split at hStep
      · rename_i hAt
        cases hStep
        exact .accepted hAt
      · cases hStep
  | acceptError =>
      simp only [step] at hStep
      split at hStep
      · cases hStep
        exact .stopped
      · cases hStep
  | convert c ok =>
      simp only [step] at hStep
      split at hStep
      · rename_i hAt
        split at hStep
        · cases hStep
          exact .converted hAt
        · cases hStep
          exact .dropped (.inl hAt)
      · cases hStep
  | connect c ok =>
      simp only [step] at hStep
      split at hStep
      · rename_i hAt
        split at hStep
        · split at hStep
          · rename_i toLocal toTs hToLocal hToTs
            cases hStep
            exact .opened hAt hToLocal hToTs
          · cases hStep
        · cases hStep
          exact .dropped (.inr hAt)
      · cases hStep
  | send way bytes =>
      simp only [step] at hStep
      split at hStep
      · rcases Option.map_eq_some_iff.mp hStep with
          ⟨p, hSend, hEq⟩
        cases hEq
        exact .sent hSend
      · cases hStep
  | close way =>
      simp only [step] at hStep
      split at hStep
      · cases hStep
        exact .closed way
      · cases hStep
  | copy way event =>
      simp only [step] at hStep
      split at hStep
      · rcases Option.map_eq_some_iff.mp hStep with
          ⟨next, hCopy, hEq⟩
        cases hEq
        unfold copyOrSelect at hCopy
        split at hCopy
        · cases hCopy
        · rename_i p shown hTask
          split at hCopy
          · rename_i hOver
            rcases Option.map_eq_some_iff.mp hCopy with
              ⟨q, hFail, hEq⟩
            cases hEq
            exact .selected hTask hOver hFail
          · rename_i hRuns
            cases hCopy
            exact .copied hTask hRuns
      · cases hStep

------------------------------------------------------------
-- What a History Says
------------------------------------------------------------

/- No direction of the bridge has ended. -/
def NotEnded (h : List Obs) (c : ConnId) : Prop :=
  ∀ d clean, .traffic (.ended (c, d) clean) ∉ h

/-
  Nothing is accepted after an accept error; a bridge writes
  only after it was opened and before a direction of it has
  ended.
-/
def Fits (before : List Obs) : Obs → Prop
| .own (.accepted _) => .own .stopped ∉ before
| .own (.opened c) | .own (.dropped c) =>
    .own (.accepted c) ∈ before
| .traffic (.wrote way _) =>
    .own (.opened way.1) ∈ before ∧ NotEnded before way.1
| .traffic (.ended way _) => .own (.opened way.1) ∈ before
| .traffic (.sent _ _) | .own .stopped => True

/-
  What the bridges do: each far end gets the front of what
  its near end sent, all of it when the direction ended by
  itself; both directions end together, and nothing is
  written after that.
-/
structure Bridged (h : List Obs) : Prop where
  front : ∀ way, Pipe.wroteOn way (Pipe.traffic h) <+:
    Pipe.sentOn way (Pipe.traffic h)
  whole : ∀ way, .traffic (.ended way true) ∈ h →
    Pipe.wroteOn way (Pipe.traffic h) =
      Pipe.sentOn way (Pipe.traffic h)
  apart : History.Guarded Fits h
  together : ∀ way clean, .traffic (.ended way clean) ∈ h →
    ∃ clean', .traffic (.ended (otherWay way) clean') ∈ h
  notBoth : ∀ way, .traffic (.ended way true) ∈ h →
    .traffic (.ended (otherWay way) true) ∉ h

------------------------------------------------------------
-- The Invariant
------------------------------------------------------------

/-
  The traffic is that of the pipes, and the two pipes of a
  bridge run exactly while its task copies. They are over
  together, and at most one of them was copied to its end.
-/
structure Kept (h : List Obs) (s : State) : Prop where
  recorded : Pipe.Recorded (Pipe.traffic h) s.pipe
  copying : ∀ way, (s.pipe way).phase = .copying ↔
    s.task way.1 = .copying
  dropped : ∀ way, (s.pipe way).phase.IsOver →
    (s.pipe (otherWay way)).phase.IsOver ∧
      ((s.pipe way).phase = .finished →
        (s.pipe (otherWay way)).phase ≠ .finished)
  opened : ∀ c, s.task c = .copying →
    .own (.opened c) ∈ h
  taken : ∀ c, s.task c = .converting ∨
    s.task c = .connecting → .own (.accepted c) ∈ h
  fresh : ∀ c, s.accepted ≤ c → s.task c = .absent
  loop : s.loop ≠ .stopped → .own .stopped ∉ h
  apart : History.Guarded Fits h

theorem kept_init : Kept [] State.init where
  recorded := Pipe.recorded_fresh
  copying := by
    intro way
    exact iff_of_false nofun nofun
  dropped := nofun
  opened := nofun
  taken := by
    rintro c (hAt | hAt)
    · cases hAt
    · cases hAt
  fresh := fun _ _ => rfl
  loop := fun _ => List.not_mem_nil
  apart := History.guarded_nil

/- While a bridge copies, none of its directions has ended. -/
theorem Kept.notEnded
    (hKept : Kept h s)
    (hCopying : s.task c = .copying) :
    NotEnded h c := by
  intro d clean hEnded
  have hOver := hKept.recorded.isOver
    (Pipe.mem_traffic_iff.mpr hEnded)
  rw [(hKept.copying (c, d)).mpr hCopying] at hOver
  cases hOver

/- The accept loop moves on, or a task does. -/
private theorem Kept.control
    {x : Doing}
    {loop : Loop}
    {accepted : Nat}
    {task : ConnId → Task}
    (hKept : Kept h s)
    (hCopying : ∀ c, task c = .copying ↔
      s.task c = .copying)
    (hTaken : ∀ c, task c = .converting ∨
      task c = .connecting →
        .own (.accepted c) ∈ h ++ [.own x])
    (hFresh : ∀ c, accepted ≤ c → task c = .absent)
    (hLoop : loop ≠ .stopped →
      s.loop ≠ .stopped ∧ x ≠ .stopped)
    (hFits : Fits h (.own x)) :
    Kept (h ++ [.own x])
      { s with
        loop := loop
        accepted := accepted
        task := task } where
  recorded := by
    rw [Pipe.traffic_append, Pipe.traffic_own,
      List.append_nil]
    exact hKept.recorded
  copying := fun way =>
    (hKept.copying way).trans (hCopying way.1).symm
  dropped := hKept.dropped
  opened := fun c hAt => List.mem_append_left _
    (hKept.opened c ((hCopying c).mp hAt))
  taken := hTaken
  fresh := hFresh
  loop := by
    intro hAt hMem
    rcases List.mem_append.mp hMem with hOld | hNew
    · exact hKept.loop (hLoop hAt).1 hOld
    · cases List.mem_singleton.mp hNew
      exact (hLoop hAt).2 rfl
  apart := History.guarded_snoc_iff.mpr
    ⟨hKept.apart, hFits⟩

/- A task that has not opened its bridge moves on or ends. -/
private theorem Kept.moved
    {next : Task}
    (hKept : Kept h s)
    (hAt : s.task c = .converting ∨ s.task c = .connecting)
    (hNext : next ≠ .copying) :
    Kept h (s.setTask c next) := by
  have hSelf : (s.setTask c next).task c = next :=
    Function.update_self _ _ _
  have hOther {c' : ConnId} (hConn : c' ≠ c) :
      (s.setTask c next).task c' = s.task c' :=
    Function.update_of_ne hConn _ _
  have hBefore :
      s.task c ≠ .copying ∧ s.task c ≠ .absent := by
    rcases hAt with hAt | hAt
    · simp [hAt]
    · simp [hAt]
  refine
    { hKept with
      copying := ?_
      opened := ?_
      taken := ?_
      fresh := ?_ }
  · intro way
    refine (hKept.copying way).trans ?_
    by_cases hConn : way.1 = c
    · rw [hConn, hSelf]
      exact iff_of_false hBefore.1 hNext
    · rw [hOther hConn]
  · intro c' hTask
    by_cases hConn : c' = c
    · rw [hConn, hSelf] at hTask
      exact absurd hTask hNext
    · rw [hOther hConn] at hTask
      exact hKept.opened c' hTask
  · intro c' hTask
    by_cases hConn : c' = c
    · rw [hConn]
      exact hKept.taken c hAt
    · rw [hOther hConn] at hTask
      exact hKept.taken c' hTask
  · intro c' hNew
    have hOld := hKept.fresh c' hNew
    have hConn : c' ≠ c := by
      rintro rfl
      exact hBefore.2 hOld
    rw [hOther hConn]
    exact hOld

/- One pipe changes, and its task goes on as it was. -/
private theorem Kept.piped
    {shown : List (Pipe.Traffic Way UInt8)}
    (hKept : Kept h s)
    (hChange : Pipe.Change way (s.pipe way) p shown)
    (hPhase : p.phase = (s.pipe way).phase)
    (hApart :
      History.Guarded Fits (h ++ shown.map .traffic)) :
    Kept (h ++ shown.map .traffic) (s.setPipe way p) := by
  have hSame (way' : Way) :
      ((s.setPipe way p).pipe way').phase =
        (s.pipe way').phase := by
    by_cases hWay : way' = way
    · subst hWay
      simpa [State.setPipe] using hPhase
    · simp [State.setPipe, Function.update_of_ne hWay]
  have hOwn (x : Doing) :
      .own x ∈ h ++ shown.map .traffic ↔ .own x ∈ h := by
    simp
  refine
    { recorded := ?_
      copying := ?_
      dropped := ?_
      opened := ?_
      taken := ?_
      fresh := hKept.fresh
      loop := ?_
      apart := hApart }
  · rw [Pipe.traffic_append, Pipe.traffic_map]
    exact hKept.recorded.change hChange
  · intro way'
    rw [hSame]
    exact hKept.copying way'
  · intro way'
    rw [hSame, hSame]
    exact hKept.dropped way'
  · intro c hAt
    exact (hOwn _).mpr (hKept.opened c hAt)
  · intro c hAt
    exact (hOwn _).mpr (hKept.taken c hAt)
  · intro hAt hMem
    exact hKept.loop hAt ((hOwn _).mp hMem)

/- A copy that does not end takes a step. -/
private theorem Kept.copied
    {event : Pipe.CopyEvent}
    {shown : List (Pipe.Traffic Way UInt8)}
    (hKept : Kept h s)
    (hCopy : Pipe.copy way (s.pipe way) event =
      some (p, shown))
    (hRuns : ¬ p.phase.IsOver) :
    Kept (h ++ shown.map .traffic) (s.setPipe way p) := by
  rcases Pipe.copy_change hCopy with ⟨hBefore, hChange⟩
  have hTask := (hKept.copying way).mp hBefore
  cases hChange with
  | quiet hSource hSink hPhase =>
      refine hKept.piped (.quiet hSource hSink hPhase)
        hPhase ?_
      simpa using hKept.apart
  | started hAbsent =>
      rw [hBefore] at hAbsent
      cases hAbsent
  | sent bytes hSource hSink hPhase =>
      exact hKept.piped (.sent bytes hSource hSink hPhase)
        hPhase
        (History.guarded_snoc_iff.mpr
          ⟨hKept.apart, trivial⟩)
  | wrote bytes hCopying hSource hSink hPhase =>
      refine hKept.piped
        (.wrote bytes hCopying hSource hSink hPhase)
        hPhase
        (History.guarded_snoc_iff.mpr ⟨hKept.apart, ?_⟩)
      exact ⟨hKept.opened way.1 hTask,
        hKept.notEnded hTask⟩
  | ended clean hCopying hSource hSink hPhase =>
      rw [hPhase] at hRuns
      cases clean <;> exact absurd trivial hRuns

/-
  Both directions of a bridge change together: its task goes
  on to copy, or both are over and it is closed.
-/
private theorem Kept.both
    {next : Task}
    {shown shown' : List (Pipe.Traffic Way UInt8)}
    (hKept : Kept h s)
    (hLive : s.task way.1 ≠ .absent)
    (hTaken : ¬ (next = .converting ∨ next = .connecting))
    (hHere : Pipe.Change way (s.pipe way) p shown)
    (hThere : Pipe.Change (otherWay way)
      (s.pipe (otherWay way)) q shown')
    (hCopying : p.phase = .copying ↔ next = .copying)
    (hCopying' : q.phase = .copying ↔ next = .copying)
    (hOver : p.phase.IsOver ↔ q.phase.IsOver)
    (hClean : p.phase = .finished → q.phase ≠ .finished)
    (hOpened : next = .copying →
      .own (.opened way.1) ∈ h ++ o)
    (hTraffic : Pipe.traffic o = shown ++ shown')
    (hStopped : .own .stopped ∉ o)
    (hApart : History.Guarded Fits (h ++ o)) :
    Kept (h ++ o) (((s.setPipe way p).setPipe
      (otherWay way) q).setTask way.1 next) := by
  have hOther : (s.setPipe way p).pipe (otherWay way) =
      s.pipe (otherWay way) :=
    Function.update_of_ne (otherWay_ne way) _ _
  have hBack : otherWay (otherWay way) = way := by
    rcases way with ⟨c, d⟩
    cases d <;> rfl
  have hFirst : (((s.setPipe way p).setPipe (otherWay way)
      q).setTask way.1 next).pipe way = p := by
    simp [State.setPipe, State.setTask,
      Function.update_of_ne (otherWay_ne way).symm]
  have hSecond : (((s.setPipe way p).setPipe (otherWay way)
      q).setTask way.1 next).pipe (otherWay way) = q := by
    simp [State.setPipe, State.setTask]
  have hOthers {way' : Way} (hConn : way'.1 ≠ way.1) :
      (((s.setPipe way p).setPipe (otherWay way)
        q).setTask way.1 next).pipe way' = s.pipe way' := by
    have hNe : way' ≠ way := by
      rintro rfl
      exact hConn rfl
    have hNe' : way' ≠ otherWay way := by
      rintro rfl
      exact hConn rfl
    simp [State.setPipe, State.setTask,
      Function.update_of_ne hNe, Function.update_of_ne hNe']
  have hTask : (((s.setPipe way p).setPipe (otherWay way)
      q).setTask way.1 next).task way.1 = next :=
    Function.update_self _ _ _
  have hTasks {c : ConnId} (hConn : c ≠ way.1) :
      (((s.setPipe way p).setPipe (otherWay way)
        q).setTask way.1 next).task c = s.task c :=
    Function.update_of_ne hConn _ _
  refine
    { recorded := ?_
      copying := ?_
      dropped := ?_
      opened := ?_
      taken := ?_
      fresh := ?_
      loop := ?_
      apart := hApart }
  · rw [Pipe.traffic_append, hTraffic, ← List.append_assoc]
    refine (hKept.recorded.change hHere).change ?_
    change Pipe.Change _ ((s.setPipe way p).pipe _) _ _
    rw [hOther]
    exact hThere
  · intro way'
    by_cases hConn : way'.1 = way.1
    · rw [hConn, hTask]
      rcases eq_or_eq_otherWay hConn with rfl | rfl
      · rw [hFirst]
        exact hCopying
      · rw [hSecond]
        exact hCopying'
    · rw [hOthers hConn, hTasks hConn]
      exact hKept.copying way'
  · intro way' hOver'
    by_cases hConn : way'.1 = way.1
    · rcases eq_or_eq_otherWay hConn with rfl | rfl
      · rw [hFirst] at hOver' ⊢
        rw [hSecond]
        exact ⟨hOver.mp hOver', hClean⟩
      · rw [hSecond] at hOver' ⊢
        rw [hBack, hFirst]
        exact ⟨hOver.mpr hOver',
          fun hFinished hFront => hClean hFront hFinished⟩
    · have hOld := hOthers hConn
      have hOld' := hOthers
        (show (otherWay way').1 ≠ way.1 from hConn)
      rw [hOld] at hOver'
      rw [hOld, hOld']
      exact hKept.dropped way' hOver'
  · intro c hAt
    by_cases hConn : c = way.1
    · rw [hConn] at hAt ⊢
      exact hOpened (hTask.symm.trans hAt)
    · rw [hTasks hConn] at hAt
      exact List.mem_append_left _ (hKept.opened c hAt)
  · intro c hAt
    by_cases hConn : c = way.1
    · rw [hConn, hTask] at hAt
      exact absurd hAt hTaken
    · rw [hTasks hConn] at hAt
      exact List.mem_append_left _ (hKept.taken c hAt)
  · intro c hNew
    have hOld := hKept.fresh c hNew
    have hConn : c ≠ way.1 := by
      rintro rfl
      exact hLive hOld
    rw [hTasks hConn]
    exact hOld
  · intro hLoop hMem
    rcases List.mem_append.mp hMem with hOld | hNew
    · exact hKept.loop hLoop hOld
    · exact hStopped hNew

/- Both directions start when the bridge is opened. -/
private theorem Kept.started
    {toLocal toTs : Pipe UInt8}
    (hKept : Kept h s)
    (hAt : s.task c = .connecting)
    (hToLocal : (s.pipe (c, .tsToLocal)).start =
      some toLocal)
    (hToTs : (s.pipe (c, .localToTs)).start = some toTs) :
    Kept (h ++ [.own (.opened c)])
      (((s.setPipe (c, .tsToLocal) toLocal).setPipe
        (c, .localToTs) toTs).setTask c .copying) := by
  have hLocal : toLocal.phase = .copying :=
    (Pipe.start_some hToLocal).2
  have hTs : toTs.phase = .copying :=
    (Pipe.start_some hToTs).2
  refine hKept.both ?_
    (by simp) (Pipe.start_change _ hToLocal)
    (Pipe.start_change _ hToTs) (iff_of_true hLocal rfl)
    (iff_of_true hTs rfl) (by rw [hLocal, hTs]) ?_ ?_ ?_ ?_ ?_
  · intro hAbsent
    rw [hAt] at hAbsent
    cases hAbsent
  · intro hFinished
    rw [hLocal] at hFinished
    cases hFinished
  · exact fun _ => List.mem_append_right h List.mem_cons_self
  · exact Pipe.traffic_own _
  · simp
  · exact History.guarded_snoc_iff.mpr
      ⟨hKept.apart, hKept.taken c (.inr hAt)⟩

/- One direction has ended, and the other one is dropped. -/
private theorem Kept.selected
    {event : Pipe.CopyEvent}
    {shown : List (Pipe.Traffic Way UInt8)}
    (hKept : Kept h s)
    (hCopy : Pipe.copy way (s.pipe way) event =
      some (p, shown))
    (hOver : p.phase.IsOver)
    (hFail : (s.pipe (otherWay way)).fail = some q) :
    Kept (h ++ (shown ++ [Pipe.Traffic.ended
        (otherWay way) false]).map .traffic)
      (((s.setPipe way p).setPipe (otherWay way)
        q).setTask way.1 .closed) := by
  rcases Pipe.copy_change hCopy with ⟨hBefore, hChange⟩
  rcases Pipe.fail_change (otherWay way) hFail with
    ⟨hFailed, hDropped⟩
  have hTask := (hKept.copying way).mp hBefore
  have hNot : p.phase ≠ .copying := by
    intro hCopying
    rw [hCopying] at hOver
    cases hOver
  -- What ended is shown alone, so the bridge shows two ends.
  have hShown : ∃ clean, shown = [.ended way clean] := by
    cases hChange with
    | ended clean => exact ⟨clean, rfl⟩
    | quiet hSource hSink hPhase
    | wrote bytes hCopying hSource hSink hPhase
    | sent bytes hSource hSink hPhase =>
        exact absurd (hPhase.trans hBefore) hNot
    | started hAbsent =>
        rw [hBefore] at hAbsent
        cases hAbsent
  refine hKept.both ?_ (by simp) hChange hDropped
    (iff_of_false hNot (by simp)) (by rw [hFailed]; simp) ?_ ?_
    (fun hCopying => by cases hCopying) ?_ (by simp) ?_
  · rw [hTask]
    simp
  · rw [hFailed]
    exact iff_of_true hOver trivial
  · rw [hFailed]
    simp
  · exact Pipe.traffic_map _
  · rcases hShown with ⟨clean, rfl⟩
    have hOpened := hKept.opened way.1 hTask
    have hFirst := History.guarded_snoc_iff.mpr
      ⟨hKept.apart, (show Fits h
        (.traffic (.ended way clean)) from hOpened)⟩
    have hBoth := History.guarded_snoc_iff.mpr
      ⟨hFirst, (show Fits _
        (.traffic (.ended (otherWay way) false)) from
          List.mem_append_left _ hOpened)⟩
    simpa using hBoth

theorem Kept.step
    (hKept : Kept h s)
    (hStep : BridgesStep s s' o) :
    Kept (h ++ o) s' := by
  cases hStep with
  | bound hAt =>
      rw [List.append_nil]
      exact
        { hKept with
          loop := fun _ => hKept.loop (by rw [hAt]; nofun) }
  | stopped =>
      exact hKept.control (fun _ => Iff.rfl)
        (fun c hAt =>
          List.mem_append_left _ (hKept.taken c hAt))
        hKept.fresh (fun hAt => absurd rfl hAt) trivial
  | accepted hAt =>
      have hFresh := hKept.fresh s.accepted le_rfl
      refine hKept.control ?_ ?_ ?_
        (fun hLoop => ⟨hLoop, nofun⟩)
        (hKept.loop (by rw [hAt]; nofun))
      · intro c
        by_cases hConn : c = s.accepted
        · subst hConn
          simp [hFresh]
        · rw [Function.update_of_ne hConn]
      · intro c hTask
        by_cases hConn : c = s.accepted
        · subst hConn
          exact List.mem_append_right h List.mem_cons_self
        · rw [Function.update_of_ne hConn] at hTask
          exact List.mem_append_left _
            (hKept.taken c hTask)
      · intro c hNew
        have hConn : c ≠ s.accepted := by omega
        rw [Function.update_of_ne hConn]
        exact hKept.fresh c (Nat.le_of_succ_le hNew)
  | converted hAt =>
      rw [List.append_nil]
      exact hKept.moved (.inl hAt) (by simp)
  | @dropped c hAt =>
      have hMoved : Kept h (s.setTask c .closed) :=
        hKept.moved hAt (by simp)
      exact hMoved.control (fun _ => Iff.rfl)
        (fun c' hTask =>
          List.mem_append_left _ (hMoved.taken c' hTask))
        hMoved.fresh (fun hLoop => ⟨hLoop, by simp⟩)
        (hKept.taken c hAt)
  | opened hAt hToLocal hToTs =>
      exact hKept.started hAt hToLocal hToTs
  | @sent way bytes p hSend =>
      have hChange := Pipe.send_change way hSend
      cases hChange with
      | sent _ hSource hSink hPhase =>
          exact hKept.piped (.sent bytes hSource hSink hPhase)
            hPhase
            (History.guarded_snoc_iff.mpr
              ⟨hKept.apart, trivial⟩)
  | closed way =>
      refine hKept.piped (Pipe.close_change way _) rfl ?_
      simpa using hKept.apart
  | copied hCopy hRuns => exact hKept.copied hCopy hRuns
  | selected hCopy hOver hFail =>
      exact hKept.selected hCopy hOver hFail

theorem kept_of_run
    {es : List Event}
    (hRun : (bridges bufSize).Run es h s) :
    Kept h s :=
  Machine.run_invariant kept_init
    (fun _ _ _ _ _ hKept hStep =>
      hKept.step (step_cases hStep)) hRun

------------------------------------------------------------
-- Every Run
------------------------------------------------------------

/-
  In every run, whatever the peers send and whenever
  something fails: what a bridge delivers is the front of
  what it was sent, and it stops in both directions as soon
  as one of them ends.
-/
theorem bridges_bridged
    {es : List Event}
    (hRun : (bridges bufSize).Run es h s) :
    Bridged h := by
  have hKept := kept_of_run hRun
  have hPhase {way : Way} {clean : Bool}
      (hEnded : .traffic (.ended way clean) ∈ h) :
      (s.pipe way).phase = Pipe.endPhase clean :=
    (hKept.recorded.ended way clean).mp
      (Pipe.mem_traffic_iff.mpr hEnded)
  refine
    { front := hKept.recorded.front
      whole := fun way hEnded =>
        hKept.recorded.whole (Pipe.mem_traffic_iff.mpr hEnded)
      apart := hKept.apart
      together := ?_
      notBoth := ?_ }
  · intro way clean hEnded
    have hOver : (s.pipe way).phase.IsOver := by
      rw [hPhase hEnded]
      cases clean <;> trivial
    rcases hKept.recorded.exists_ended
      (hKept.dropped way hOver).1 with ⟨clean', hMem⟩
    exact ⟨clean', Pipe.mem_traffic_iff.mp hMem⟩
  · intro way hEnded hOther
    have hFinished : (s.pipe way).phase = .finished :=
      hPhase hEnded
    have hOver : (s.pipe way).phase.IsOver := by
      rw [hFinished]
      trivial
    exact (hKept.dropped way hOver).2 hFinished
      (hPhase hOther)

/-
  A tailnet client sends a request and closes its stream. It
  is copied to its end, which ends the bridge: the answer is
  never delivered.
-/
def halfClosed : List Event :=
  [.listen true, .accept, .convert 0 true,
    .connect 0 true, .send (0, .tsToLocal) [1, 2],
    .copy (0, .tsToLocal) (.read 2),
    .copy (0, .tsToLocal) (.write 2),
    .close (0, .tsToLocal),
    .send (0, .localToTs) [3],
    .copy (0, .localToTs) (.read 1),
    .copy (0, .tsToLocal) .eof]

theorem bridges_bridged_halfClosed :
    ∃ h s, (bridges 8192).Run halfClosed h s ∧
      Pipe.wroteOn (0, .tsToLocal) (Pipe.traffic h) =
        [1, 2] ∧
      Pipe.sentOn (0, .localToTs) (Pipe.traffic h) = [3] ∧
      Pipe.wroteOn (0, .localToTs) (Pipe.traffic h) = [] ∧
      Bridged h := by
  have hRun : (bridges 8192).Run halfClosed _ _ :=
    Machine.run_outcome (by decide +kernel)
  refine ⟨_, _, hRun, by decide +kernel, by decide +kernel,
    by decide +kernel, ?_⟩
  exact bridges_bridged hRun

end Tailscale

end SeestarProxy
