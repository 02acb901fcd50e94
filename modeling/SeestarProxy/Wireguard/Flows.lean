import SeestarProxy.Wireguard.NetstackCases

/-
  The bytes of a connection, according to the history.

  `bytes` reads off how many bytes of a connection moved in
  one of the ways. Connections are numbered in order, and
  nothing moves before a connection is accepted.

  Main declarations:
    * `bytes` and its equations
    * `Numbered` and `numbered_of_run`
    * `bytes_of_fresh`
    * `Lossless`, `Passes` and `lossless_iff_meets`
-/

------------------------------------------------------------
-- Bytes that Moved
------------------------------------------------------------

namespace SeestarProxy

namespace Wireguard

namespace Netstack

open Library

/- The bytes that an observation moves. -/
def Obs.moved? (flow : Flow) (c : ConnId) :
    Obs → Option Bytes
| .moved flow' c' data =>
    if flow' = flow ∧ c' = c then some data else none
| _ => none

/- All bytes of a connection that moved in one way. -/
def bytes (flow : Flow) (c : ConnId) (h : List Obs) : Bytes :=
  (h.filterMap (Obs.moved? flow c)).flatten

variable {flow : Flow} {c : ConnId}

@[simp] theorem bytes_nil : bytes flow c [] = [] := rfl

@[simp] theorem bytes_append (h o : List Obs) :
    bytes flow c (h ++ o) =
      bytes flow c h ++ bytes flow c o := by
  unfold bytes
  rw [List.filterMap_append, List.flatten_append]

@[simp] theorem bytes_cons (x : Obs) (h : List Obs) :
    bytes flow c (x :: h) =
      (Obs.moved? flow c x).getD [] ++ bytes flow c h := by
  unfold bytes
  cases hMoved : Obs.moved? flow c x with
  | none => rw [List.filterMap_cons_none hMoved]; rfl
  | some data => rw [List.filterMap_cons_some hMoved]; rfl

/- What moves no bytes of the connection adds none. -/
theorem bytes_eq_nil
    {h : List Obs}
    (hNone : ∀ data, .moved flow c data ∉ h) :
    bytes flow c h = [] := by
  have hNil : h.filterMap (Obs.moved? flow c) = [] := by
    rw [List.filterMap_eq_nil_iff]
    intro x hMem
    cases x with
    | moved flow' c' data =>
        by_cases hSame : flow' = flow ∧ c' = c
        · rcases hSame with ⟨rfl, rfl⟩
          exact absurd hMem (hNone data)
        · simp [Obs.moved?, hSame]
    | _ => rfl
  rw [bytes, hNil]
  rfl

------------------------------------------------------------
-- Numbers Given Out
------------------------------------------------------------

/-
  Connections are numbered in order. A number that was not
  given out is not active or offered and has no bridge.
-/
structure Numbered (s : State) : Prop where
  active : ∀ handle c, s.active handle = some c →
    c < s.connections
  offered : ∀ c ∈ s.connTx.queue, c < s.connections
  bridge : ∀ c, s.connections ≤ c →
    (s.connection c).bridge = .dropped

variable {h o : List Obs} {s s' : State}

private theorem active_of_update
    {handle : Handle}
    {next : Option ConnId}
    {connections : Nat}
    (hActive : ∀ handle c, s.active handle = some c →
      c < s.connections)
    (hMore : s.connections ≤ connections)
    (hNext : ∀ c, next = some c → c < connections)
    (handle' : Handle)
    (c' : ConnId)
    (hAfter : Function.update s.active handle next handle' =
      some c') :
    c' < connections := by
  by_cases hHandle : handle' = handle
  · subst hHandle
    rw [Function.update_self] at hAfter
    exact hNext c' hAfter
  · rw [Function.update_of_ne hHandle] at hAfter
    exact Nat.lt_of_lt_of_le (hActive handle' c' hAfter)
      hMore

/- A change of a connection that was accepted before. -/
private theorem bridge_of_update
    {c : ConnId}
    {connection : Connection}
    {connections : Nat}
    (hBridge : ∀ c, s.connections ≤ c →
      (s.connection c).bridge = .dropped)
    (hMore : s.connections ≤ connections)
    (hOld : c < connections)
    (c' : ConnId)
    (hFresh : connections ≤ c') :
    (Function.update s.connection c connection c').bridge =
      .dropped := by
  have hOther : c' ≠ c := Nat.ne_of_gt
    (Nat.lt_of_lt_of_le hOld hFresh)
  rw [Function.update_of_ne hOther]
  exact hBridge c' (Nat.le_trans hMore hFresh)

theorem StackStep.numbered
    {event : StackEvent}
    (hNumbered : Numbered s)
    (hStep : StackStep s event s' o) :
    Numbered s' := by
  rcases hNumbered with ⟨hActive, hOffered, hBridge⟩
  cases hStep with
  | accepted hAt hIs hNew hSend =>
      refine ⟨?_, ?_, ?_⟩
      · exact active_of_update hActive (Nat.le_succ _)
          (fun c hSome => by
            cases hSome
            exact Nat.lt_succ_self _)
      · intro c hMem
        rcases Channel.mem_queue_of_sent hSend hMem with
          hOld | rfl
        · exact Nat.lt_succ_of_lt (hOffered c hOld)
        · exact Nat.lt_succ_self _
      · exact bridge_of_update hBridge (Nat.le_succ _)
          (Nat.lt_succ_self _)
  | refused hAt hIs hNew hRefused =>
      refine ⟨?_, ?_, ?_⟩
      · exact active_of_update hActive (Nat.le_succ _)
          (fun c hSome => by
            cases hSome
            exact Nat.lt_succ_self _)
      · exact fun c hMem => Nat.lt_succ_of_lt (hOffered c hMem)
      · exact bridge_of_update hBridge (Nat.le_succ _)
          (Nat.lt_succ_self _)
  | @put handle _ _ c _ hAt hIs hData hSend =>
      exact ⟨hActive, hOffered,
        bridge_of_update hBridge (Nat.le_refl _)
          (hActive handle c hIs)⟩
  | @handed handle _ _ c _ _ hAt hIs hRoom hRecv =>
      exact ⟨hActive, hOffered,
        bridge_of_update hBridge (Nat.le_refl _)
          (hActive handle c hIs)⟩
  | @removed handle _ c hAt hIs =>
      exact ⟨active_of_update hActive (Nat.le_refl _) nofun,
        hOffered,
        bridge_of_update hBridge (Nat.le_refl _)
          (hActive handle c hIs)⟩
  | _ => exact ⟨hActive, hOffered, hBridge⟩

/- Only connections that were accepted have a bridge. -/
theorem BridgeStep.lt_connections
    {c : ConnId}
    {event : BridgeEvent}
    (hNumbered : Numbered s)
    (hStep : BridgeStep s c event s' o) :
    c < s.connections := by
  have hSome : (s.connection c).bridge ≠ .dropped := by
    cases hStep with
    | connected hAt | failed hAt | received hAt | ended hAt
    | delivered hAt | writeFailed hAt | read hAt
    | readEnded hAt | queued hAt | sendFailed hAt =>
        rw [hAt]
        nofun
  apply Nat.lt_of_not_le
  intro hFresh
  exact hSome (hNumbered.bridge c hFresh)

theorem NetStep.numbered
    {e : Event}
    (hNumbered : Numbered s)
    (hStep : NetStep s e s' o) :
    Numbered s' := by
  cases hStep with
  | stack hTask => exact hTask.numbered hNumbered
  | bridge hTask =>
      have hOld := hTask.lt_connections hNumbered
      cases hTask <;>
        exact ⟨hNumbered.active, hNumbered.offered,
          bridge_of_update hNumbered.bridge (Nat.le_refl _)
            hOld⟩
  | @spawned c channel hRecv =>
      have hOld :=
        hNumbered.offered c (Channel.received_mem_queue hRecv)
      exact ⟨hNumbered.active,
        fun c hMem => hNumbered.offered c
          (Channel.mem_queue_of_recv hRecv hMem),
        bridge_of_update hNumbered.bridge (Nat.le_refl _)
          hOld⟩
  | _ =>
      exact ⟨hNumbered.active, hNumbered.offered,
        hNumbered.bridge⟩

/- In every run connections are numbered in order. -/
theorem numbered_of_run
    {es : List Event}
    (hRun : netstack.Run es h s) :
    Numbered s := by
  refine Machine.run_induction
    (motive := fun _ _ s => Numbered s) ?_ ?_ hRun
  · exact ⟨nofun, nofun, fun _ _ => rfl⟩
  · intro es h s e s' o _ hNumbered hNext
    exact (net_cases hNext).numbered hNumbered

/- A step moves bytes of accepted connections only. -/
theorem NetStep.moved_lt
    {e : Event}
    {data : Bytes}
    (hNumbered : Numbered s)
    (hStep : NetStep s e s' o)
    (hMem : .moved flow c data ∈ o) :
    c < s.connections := by
  cases hStep with
  | stack hTask =>
      cases hTask with
      | @put handle _ _ c' _ hAt hIs hData hSend =>
          have hSame : c = c' := by
            simp only [List.mem_cons, Obs.moved.injEq,
              List.not_mem_nil, or_false] at hMem
            rcases hMem with hTaken | hPut
            · exact hTaken.2.1
            · exact hPut.2.1
          rw [hSame]
          exact hNumbered.active handle c' hIs
      | @lost handle _ _ c' hAt hIs hData hRefused =>
          have hSame : c = c' := by
            simp only [List.mem_singleton,
              Obs.moved.injEq] at hMem
            exact hMem.2.1
          rw [hSame]
          exact hNumbered.active handle c' hIs
      | @handed handle _ _ c' _ _ hAt hIs hRoom hRecv =>
          have hSame : c = c' := by
            simp only [List.mem_cons, Obs.moved.injEq,
              List.not_mem_nil, or_false] at hMem
            rcases hMem with hHanded | hBuffered
            · exact hHanded.2.1
            · exact hBuffered.2.1
          rw [hSame]
          exact hNumbered.active handle c' hIs
      | _ => simp at hMem
  | bridge hTask =>
      have hOld := hTask.lt_connections hNumbered
      cases hTask with
      | delivered hAt | queued hAt =>
          simp only [List.mem_singleton,
            Obs.moved.injEq] at hMem
          rw [hMem.2.1]
          exact hOld
      | _ => simp at hMem
  | _ => simp at hMem

/- The number of connections never falls. -/
theorem NetStep.connections_le
    {e : Event}
    (hStep : NetStep s e s' o) :
    s.connections ≤ s'.connections := by
  cases hStep with
  | stack hTask =>
      cases hTask <;> first
        | exact Nat.le_refl _
        | exact Nat.le_succ _
  | bridge hTask => cases hTask <;> exact Nat.le_refl _
  | _ => exact Nat.le_refl _

/- Nothing moved on a connection that was not accepted. -/
theorem bytes_of_fresh
    {es : List Event}
    (hRun : netstack.Run es h s)
    (hFresh : s.connections ≤ c) :
    bytes flow c h = [] := by
  revert hFresh
  refine Machine.run_induction
    (motive := fun _ h s =>
      s.connections ≤ c → bytes flow c h = [])
    (fun _ => rfl) ?_ hRun
  intro es h s e s' o hBefore ih hNext hFresh
  have hStep := net_cases hNext
  have hOld : s.connections ≤ c :=
    Nat.le_trans hStep.connections_le hFresh
  rw [bytes_append, ih hOld, List.nil_append]
  apply bytes_eq_nil
  intro data hMem
  have hLt := hStep.moved_lt (numbered_of_run hBefore) hMem
  exact absurd hLt (Nat.not_lt.mpr hOld)

------------------------------------------------------------
-- Bytes Passed On
------------------------------------------------------------

/- All bytes of the first flow went on in the second one. -/
def Lossless (source target : Flow) (h : List Obs) : Prop :=
  ∀ c, bytes target c h = bytes source c h

/-
  A step passes on no more bytes than it has, and all of
  them exactly when the condition holds.
-/
structure Passes
    (source target : Flow)
    (o : List Obs)
    (cond : Prop) : Prop where
  le : ∀ c, (bytes target c o).length ≤
    (bytes source c o).length
  all_iff : Lossless source target o ↔ cond

/- A step that moves no bytes of the two flows. -/
theorem Passes.ofNone
    {source target : Flow}
    {cond : Prop}
    (hSource : ∀ c, bytes source c o = [])
    (hTarget : ∀ c, bytes target c o = [])
    (hCond : cond) :
    Passes source target o cond where
  le := by
    intro c
    apply Nat.le_of_eq
    rw [hSource, hTarget]
  all_iff := by
    refine iff_of_true ?_ hCond
    intro c
    rw [hSource, hTarget]

/- What a run passed on is never more than what it had. -/
private theorem length_le_of_run
    {source target : Flow}
    {cond : State → Event → Prop}
    (hPasses : ∀ s e s' o, NetStep s e s' o →
      Passes source target o (cond s e))
    {es : List Event}
    (hRun : netstack.Run es h s)
    (c : ConnId) :
    (bytes target c h).length ≤
      (bytes source c h).length := by
  refine Machine.run_induction
    (motive := fun _ h _ =>
      (bytes target c h).length ≤
        (bytes source c h).length)
    (Nat.le_refl _) ?_ hRun
  intro es h s e s' o _ hBefore hNext
  have hNew := (hPasses s e s' o (net_cases hNext)).le c
  rw [bytes_append, bytes_append, List.length_append,
    List.length_append]
  omega

/-
  If each step passes on all its bytes exactly when it meets
  the condition, a run has lost none exactly when all its
  steps meet the condition.
-/
theorem lossless_iff_meets
    {source target : Flow}
    {cond : State → Event → Prop}
    (hPasses : ∀ s e s' o, NetStep s e s' o →
      Passes source target o (cond s e))
    {es : List Event}
    (hRun : netstack.Run es h s) :
    Lossless source target h ↔
      netstack.Meets cond netstack.init es := by
  apply Machine.history_iff_meets (fun _ => rfl) ?_ hRun
  intro es h s e s' o hBefore hNext
  have hStep := hPasses s e s' o (net_cases hNext)
  rw [← hStep.all_iff]
  constructor
  · intro hAll
    -- Neither part can have lost what the other makes up for.
    have hSplit (c : ConnId) :
        bytes target c h = bytes source c h ∧
          bytes target c o = bytes source c o := by
      have hBoth := hAll c
      have hOld := length_le_of_run hPasses hBefore c
      have hNew := hStep.le c
      rw [bytes_append, bytes_append] at hBoth
      have hLength := congrArg List.length hBoth
      rw [List.length_append, List.length_append] at hLength
      exact List.append_inj hBoth (by omega)
    exact ⟨fun c => (hSplit c).1, fun c => (hSplit c).2⟩
  · rintro ⟨hOld, hNew⟩ c
    rw [bytes_append, bytes_append, hOld, hNew]

end Netstack

end Wireguard

end SeestarProxy
