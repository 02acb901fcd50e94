import SeestarProxy.Control.Status
import SeestarProxy.Imaging.StepCases

/-
  The status flag of the imaging connection, and of both.

  Imaging readers share `upstream_imaging_up` as the control
  readers share their flag. They do not panic, so the only
  step that can make the flag wrong is the stop of a reader
  while another one has started and is running.

  Main declarations:
    * `State.StatusOk` and `StatusSafe`
    * `status_iff`
-/

------------------------------------------------------------
-- Readers as Workers
------------------------------------------------------------

namespace SeestarProxy

namespace Imaging

open Library Protocol

/- What a reader has done, as far as the flag is concerned. -/
def Reader.phase : Reader → Beacon.Phase
| .absent => .absent
| .spawned => .spawned
| .reading | .payload _ | .sending _ | .broken => .started
| .done => .ended

/- The phases of all readers. -/
def State.phases (s : State) (conn : ConnId) : Beacon.Phase :=
  (s.reader conn).phase

/-
  The flag is up while a reader that has started is running,
  and down once no reader is running.
-/
def State.StatusOk (s : State) : Prop :=
  Beacon.Accurate s.phases s.upstreamImagingUp

/- A reader stops only when no other one is running. -/
def StatusSafe (s : State) : Event → Prop
| .reader conn .stop =>
    ∀ other < s.connections, other ≠ conn →
      s.phases other ≠ .started
| _ => True

instance (s : State) (e : Event) :
    Decidable (StatusSafe s e) := by
  unfold StatusSafe
  split <;> infer_instance

variable {debugLogged : Bool} {h o : List Obs}
variable {s s' : State} {e : Event} {conn : ConnId}

------------------------------------------------------------
-- Steps
------------------------------------------------------------

/- Moving one reader moves one phase. -/
private theorem phases_update
    (s : State)
    (conn : ConnId)
    (reader : Reader) :
    (fun other =>
      (Function.update s.reader conn reader other).phase) =
      Function.update s.phases conn reader.phase := by
  funext other
  by_cases hConn : other = conn
  · subst hConn
    simp
  · simp [State.phases, hConn]

/- The flag after one reader has moved. -/
private theorem statusOk_update
    {reader : Reader}
    {phase : Beacon.Phase}
    (hReader : s'.reader = Function.update s.reader conn reader)
    (hPhase : reader.phase = phase) :
    s'.StatusOk ↔
      Beacon.Accurate (Function.update s.phases conn phase)
        s'.upstreamImagingUp := by
  rw [← hPhase, ← phases_update]
  unfold State.StatusOk State.phases
  rw [hReader]

/- A reader that moves on within its phase. -/
private theorem statusOk_of_phase
    {reader : Reader}
    (hReader : s'.reader = Function.update s.reader conn reader)
    (hPhase : reader.phase = (s.reader conn).phase)
    (hUp : s'.upstreamImagingUp = s.upstreamImagingUp)
    (hGood : s.StatusOk) :
    s'.StatusOk := by
  rw [statusOk_update hReader hPhase, hUp]
  have hSame :
      Function.update s.phases conn (s.reader conn).phase =
        s.phases :=
    Function.update_eq_self conn s.phases
  rw [hSame]
  exact hGood

/- Whether a reader's step keeps the flag right. -/
private theorem reader_status
    {event : ReaderEvent}
    (hNumbered : Numbered s)
    (hGood : s.StatusOk)
    (hTask : ReaderStep s conn event s' o) :
    s'.StatusOk ↔ StatusSafe s (.reader conn event) := by
  cases hTask with
  | started hAt =>
      refine iff_of_true ?_ trivial
      exact (statusOk_update rfl rfl).mpr
        Beacon.accurate_start
  | headerRead hAt hHeader hSize =>
      refine iff_of_true ?_ trivial
      exact statusOk_of_phase rfl (by rw [hAt]; rfl) rfl hGood
  | oversized hAt hHeader hSize =>
      refine iff_of_true ?_ trivial
      exact statusOk_of_phase rfl (by rw [hAt]; rfl) rfl hGood
  | payloadRead hAt hLength =>
      refine iff_of_true ?_ trivial
      exact statusOk_of_phase rfl (by rw [hAt]; rfl) rfl hGood
  | failed hAt hClosed hShort =>
      refine iff_of_true ?_ trivial
      refine statusOk_of_phase rfl ?_ rfl hGood
      cases hReader : s.reader conn with
      | reading => rfl
      | payload header => rfl
      | _ => simp [hReader, Reader.wanted] at hAt
  | broadcast hAt =>
      refine iff_of_true ?_ trivial
      exact statusOk_of_phase rfl (by rw [hAt]; rfl) rfl hGood
  | stopped hAt =>
      have hEnded : Reader.phase .done = .ended := rfl
      rw [statusOk_update rfl hEnded,
        Beacon.accurate_stop_iff]
      constructor
      · intro hNone other _ hOther
        exact hNone other hOther
      · intro hSafe other hOther
        by_cases hOld : other < s.connections
        · exact hSafe other hOld hOther
        · simp [State.phases,
            hNumbered.reader other (Nat.le_of_not_lt hOld),
            Reader.phase]

/- Whether a step keeps the flag right. -/
private theorem status_step
    {es : List Event}
    (hRun : (proxy debugLogged).Run es h s)
    (hGood : s.StatusOk)
    (hNext : (proxy debugLogged).step s e = some (s', o)) :
    s'.StatusOk ↔ StatusSafe s e := by
  have hNumbered := numbered_of_run hRun
  cases step_cases hNext with
  | reader hTask => exact reader_status hNumbered hGood hTask
  | connected =>
      refine iff_of_true ?_ trivial
      have hAbsent : s.phases s.connections = .absent := by
        simp [State.phases,
          hNumbered.reader s.connections le_rfl,
          Reader.phase]
      exact (statusOk_update rfl rfl).mpr
        (Beacon.Accurate.spawn hGood hAbsent)
  | fanout hTask =>
      refine iff_of_true ?_ trivial
      cases hTask <;> exact hGood
  | aside hAside hOther =>
      refine iff_of_true ?_ ?_
      · unfold State.StatusOk State.phases
        rw [hAside.reader, hAside.up]
        exact hGood
      · unfold StatusSafe
        split
        · rename_i hEvent
          exact absurd rfl (hOther _ _)
        · trivial
  | _ => exact iff_of_true hGood trivial

/-
  On both sides the flag is right in every state of a run
  exactly when every step of the run is safe for it.
-/
theorem status_iff
    {env : Control.Env}
    {esControl : List Control.Event}
    {hControl : List Control.Obs}
    {sControl : Control.State}
    {es : List Event}
    (hRunControl :
      (Control.proxy env).Run esControl hControl sControl)
    (hRun : (proxy debugLogged).Run es h s) :
    ((Control.proxy env).Always Control.State.StatusOk
        (Control.proxy env).init esControl ↔
      (Control.proxy env).Meets (Control.StatusSafe env)
        (Control.proxy env).init esControl) ∧
    ((proxy debugLogged).Always State.StatusOk
        (proxy debugLogged).init es ↔
      (proxy debugLogged).Meets StatusSafe
        (proxy debugLogged).init es) := by
  refine ⟨Control.statusOk_iff_meets hRunControl, ?_⟩
  exact Machine.always_iff_meets Beacon.accurate_init
    (fun _ _ _ _ _ _ hBefore hGood hNext =>
      status_step hBefore hGood hNext) hRun

theorem status_iff_connectFirst :
    ((Control.proxy Control.parkEnv).Always
        Control.State.StatusOk
        (Control.proxy Control.parkEnv).init
        Control.parkConnected ↔
      (Control.proxy Control.parkEnv).Meets
        (Control.StatusSafe Control.parkEnv)
        (Control.proxy Control.parkEnv).init
        Control.parkConnected) ∧
    ((proxy true).Always State.StatusOk
        (proxy true).init connectFirst ↔
      (proxy true).Meets StatusSafe
        (proxy true).init connectFirst) :=
  status_iff
    (Machine.run_outcome (by decide +kernel))
    (Machine.run_outcome (by decide +kernel))

/-
  A write to the telescope fails, the next connection is
  made and its reader starts before the old one stops.
-/
def overlap : List Event :=
  connectFirst ++
    [.heartbeat .wake, .heartbeat .send, .upstream .recv,
      .upstream (.write false), .upstream .connect,
      .reader 1 .start, .hangUp 0, .reader 0 .readError,
      .reader 0 .stop]

/-
  On both sides the flag can be down while the reader of the
  live connection is running.
-/
theorem status_wrong_reached :
    (∃ hControl sControl,
      (Control.proxy Control.parkEnv).Run Control.overlap
          hControl sControl ∧
        ¬ (Control.proxy Control.parkEnv).Always
          Control.State.StatusOk
          (Control.proxy Control.parkEnv).init
          Control.overlap) ∧
    ∃ h s,
      (proxy true).Run overlap h s ∧
        ¬ (proxy true).Always State.StatusOk
          (proxy true).init overlap := by
  refine ⟨⟨_, _, Machine.run_outcome (by decide +kernel), ?_⟩,
    ⟨_, _, Machine.run_outcome (by decide +kernel), ?_⟩⟩
  · intro hAlways
    have hGood := Machine.always_end
      (Machine.run_outcome (by decide +kernel)) hAlways
    have hUp := hGood.raised ⟨1, by decide +kernel⟩
    have hDown :
        ((Control.proxy Control.parkEnv).outcome
          Control.overlap).1.upstreamControlUp = false := by
      decide +kernel
    rw [hDown] at hUp
    cases hUp
  · intro hAlways
    have hGood := Machine.always_end
      (Machine.run_outcome (by decide +kernel)) hAlways
    have hUp := hGood.raised ⟨1, by decide +kernel⟩
    have hDown :
        ((proxy true).outcome
          overlap).1.upstreamImagingUp = false := by
      decide +kernel
    rw [hDown] at hUp
    cases hUp

end Imaging

end SeestarProxy
