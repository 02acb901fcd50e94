import SeestarProxy.Imaging.Rest

/-
  One reader at a time.

  The upstream task leaves a connection when its reader is
  done or when a command cannot be written; in the second
  case the reader may still run while the next connection is
  made. Without such a write no two readers ever run at
  once.

  Main declarations:
    * `Reader.inHand` and `State.readOn`
    * `Reader.IsLive`, `Upstream.conn?` and `Solo`
    * `solo_of_run`
-/

------------------------------------------------------------
-- Frames in Hand
------------------------------------------------------------

namespace SeestarProxy

namespace Imaging

open Library Protocol

/- The frame that a reader has read and not yet broadcast. -/
def Reader.inHand : Reader → List Bytes
| .sending frame => [frame]
| _ => []

/- The frames of a connection that were read whole. -/
def State.readOn (s : State) (conn : ConnId) : List Bytes :=
  s.framesOf conn ++ (s.reader conn).inHand

------------------------------------------------------------
-- Readers that Run
------------------------------------------------------------

/- The reader runs. -/
def Reader.IsLive (reader : Reader) : Prop :=
  reader ≠ .absent ∧ reader ≠ .done

/- The connection that the upstream task writes to. -/
def Upstream.conn? : Upstream → Option ConnId
| .selecting conn | .writing conn _ => some conn
| .waiting | .connecting | .stopped => none

/-
  No two readers run at once, and one that runs reads the
  connection that the upstream task writes to.
-/
structure Solo (s : State) : Prop where
  one : ∀ conn conn', (s.reader conn).IsLive →
    (s.reader conn').IsLive → conn = conn'
  current : s.upstream ≠ .stopped → ∀ conn,
    (s.reader conn).IsLive → s.upstream.conn? = some conn

variable {debugLogged : Bool} {h o : List Obs}
variable {s s' : State} {conn : ConnId} {e : Event}

/- Only the upstream task's own steps move it. -/
theorem upstream_same
    (hStep : (proxy debugLogged).step s e = some (s', o))
    (hOther : ∀ event, e ≠ .upstream event) :
    s'.upstream = s.upstream := by
  change step debugLogged s e = some (s', o) at hStep
  cases e with
  | resolve => cases hStep; rfl
  | accept => cases hStep; rfl
  | arrive conn bytes =>
      simp only [step] at hStep
      split at hStep
      · cases hStep; rfl
      · cases hStep
  | hangUp conn =>
      simp only [step] at hStep
      split at hStep
      · cases hStep; rfl
      · cases hStep
  | client c event =>
      cases handleClient_cases hStep <;> rfl
  | fanout c event => cases fanoutTask_cases hStep <;> rfl
  | heartbeat event =>
      cases heartbeatTask_cases hStep <;> rfl
  | upstream event => exact absurd rfl (hOther event)
  | reader conn event =>
      cases upstreamReaderTask_cases hStep <;> rfl

/- A reader that takes a step runs. -/
theorem ReaderStep.isLive
    {event : ReaderEvent}
    (hStep : ReaderStep s conn event s' o) :
    (s.reader conn).IsLive := by
  refine ⟨hStep.isPresent, ?_⟩
  cases hStep with
  | failed hAt =>
      intro hDone
      rw [hDone] at hAt
      cases hAt
  | started hAt | headerRead hAt | oversized hAt
  | payloadRead hAt | broadcast hAt | stopped hAt =>
      simp [hAt]

/- Only the upstream task starts a reader. -/
theorem isLive_of_step
    (hStep : (proxy debugLogged).step s e = some (s', o))
    (hOther : ∀ event, e ≠ .upstream event)
    (hLive : (s'.reader conn).IsLive) :
    (s.reader conn).IsLive := by
  cases step_cases hStep with
  | accepted => exact hLive
  | arrived hConn hOpen => exact hLive
  | hungUp hConn => exact hLive
  | connected => exact absurd rfl (hOther .connect)
  | @reader conn' event s' o hTask =>
      by_cases hSame : conn = conn'
      · subst hSame
        exact hTask.isLive
      · rwa [hTask.reader_of_ne hSame] at hLive
  | fanout hTask =>
      cases hTask <;> exact hLive
  | aside hAside hReader => rwa [hAside.reader] at hLive

/- A step of the upstream task that is not a failed write. -/
theorem UpstreamStep.solo
    {event : UpstreamEvent}
    (hSolo : Solo s)
    (hStep : UpstreamStep s event s')
    (hWrites : event ≠ .write false) :
    Solo s' := by
  have hNone
      (hNot : s.upstream ≠ .stopped)
      (hConn : s.upstream.conn? = none)
      (conn : ConnId) : ¬ (s.reader conn).IsLive := by
    intro hLive
    have hSome := hSolo.current hNot conn hLive
    rw [hConn] at hSome
    cases hSome
  cases hStep with
  | started hAt =>
      refine ⟨hSolo.one, fun _ conn hLive => ?_⟩
      exact absurd hLive
        (hNone (by simp [hAt]) (by rw [hAt]; rfl) conn)
  | connected hAt =>
      have hNew (conn : ConnId)
          (hLive : (Function.update s.reader s.connections
            .spawned conn).IsLive) :
          conn = s.connections := by
        by_contra hOther
        rw [Function.update_of_ne hOther] at hLive
        exact hNone (by simp [hAt]) (by rw [hAt]; rfl) conn
          hLive
      refine ⟨?_, ?_⟩
      · intro conn conn' hLive hLive'
        rw [hNew conn hLive, hNew conn' hLive']
      · intro _ conn hLive
        rw [hNew conn hLive]
        rfl
  | @took conn msg channel hAt hRecv =>
      refine ⟨hSolo.one, fun _ conn' hLive => ?_⟩
      have hConn :=
        hSolo.current (by simp [hAt]) conn' hLive
      rw [hAt] at hConn
      exact hConn
  | stopped hAt hRecv =>
      exact ⟨hSolo.one, fun hNot => absurd rfl hNot⟩
  | @wrote conn msg hAt =>
      refine ⟨hSolo.one, fun _ conn' hLive => ?_⟩
      have hConn :=
        hSolo.current (by simp [hAt]) conn' hLive
      rw [hAt] at hConn
      exact hConn
  | lost hAt => exact absurd rfl hWrites
  | @readerDead conn hAt hDone =>
      refine ⟨hSolo.one, fun _ conn' hLive => ?_⟩
      have hConn :=
        hSolo.current (by simp [hAt]) conn' hLive
      rw [hAt] at hConn
      cases hConn
      exact absurd hDone hLive.2

/- Without a failed write no two readers ever run at once. -/
theorem solo_of_run
    {es : List Event}
    (hRun : (proxy debugLogged).Run es h s)
    (hWrites : ∀ e ∈ es, e ≠ .upstream (.write false)) :
    Solo s := by
  revert hWrites
  refine Machine.run_induction
    (motive := fun es _ s =>
      (∀ e ∈ es, e ≠ .upstream (.write false)) → Solo s)
    ?_ ?_ hRun
  · refine fun _ => ⟨?_, ?_⟩
    · exact fun conn conn' hLive => absurd rfl hLive.1
    · exact fun _ conn hLive => absurd rfl hLive.1
  · intro es h s e s' o hBefore ih hNext hWrites
    have hSolo := ih fun e hMem =>
      hWrites e (List.mem_append_left _ hMem)
    by_cases hTask : ∃ event, e = .upstream event
    · rcases hTask with ⟨event, rfl⟩
      refine (upstream_cases hNext).solo hSolo ?_
      rintro rfl
      exact hWrites (.upstream (.write false)) (by simp) rfl
    · have hOther (event : UpstreamEvent) :
          e ≠ .upstream event :=
        fun hSame => hTask ⟨event, hSame⟩
      refine ⟨?_, ?_⟩
      · intro conn conn' hLive hLive'
        exact hSolo.one conn conn'
          (isLive_of_step hNext hOther hLive)
          (isLive_of_step hNext hOther hLive')
      · intro hNot conn hLive
        rw [upstream_same hNext hOther] at hNot ⊢
        exact hSolo.current hNot conn
          (isLive_of_step hNext hOther hLive)

end Imaging

end SeestarProxy
