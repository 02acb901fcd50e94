import SeestarProxy.Control.Handshake
import SeestarProxy.Library.Beacon

/-
  The status flag of the control connection.

  Every reader raises `upstream_control_up` when it starts
  and lowers it when it stops. After a write error the next
  reader starts while the old one may still be running, so a
  stop is only right for the last started reader; and a
  reader that panics lowers nothing, which is only right
  while another one is running.

  Main declarations:
    * `State.StatusOk` and `StatusSafe`
    * `status_step`
-/

------------------------------------------------------------
-- Readers as Workers
------------------------------------------------------------

namespace SeestarProxy

namespace Control

open Library Protocol

/- What a reader has done, as far as the flag is concerned. -/
def Reader.phase : Reader → Beacon.Phase
| .absent => .absent
| .spawned => .spawned
| .reading | .eventHook _ | .removing _ _ _
| .responseHook _ | .broadcasting _ | .delivering _ _ _ _ =>
    .started
| .done | .panicked => .ended

/- The phases of all readers. -/
def State.phases (s : State) (conn : ConnId) : Beacon.Phase :=
  (s.reader conn).phase

/-
  The flag is up while a reader that has started is running,
  and down once no reader is running.
-/
def State.StatusOk (s : State) : Prop :=
  Beacon.Accurate s.phases s.upstreamControlUp

/- A line makes the reader panic. -/
def LinePanics (env : Env) (text : String) : Prop :=
  Text.trim text ≠ "" ∧
    (methodHint (Text.trim text) = none ∨
      routeLine env (Text.trim text) = .panicked)

instance (env : Env) (text : String) :
    Decidable (LinePanics env text) := by
  unfold LinePanics
  infer_instance

/-
  A reader stops only when no other one has started and is
  running; it panics only while another one is running.
-/
def StatusSafe (env : Env) (s : State) : Event → Prop
| .reader conn .stop =>
    ∀ other < s.connections, other ≠ conn →
      s.phases other ≠ .started
| .reader conn (.line text) =>
    LinePanics env text →
      ∃ other < s.connections, other ≠ conn ∧
        (s.phases other).IsRunning
| _ => True

instance (env : Env) (s : State) :
    ∀ e, Decidable (StatusSafe env s e)
| .reader conn .stop =>
    inferInstanceAs (Decidable
      (∀ other < s.connections, other ≠ conn →
        s.phases other ≠ .started))
| .reader conn (.line text) =>
    inferInstanceAs (Decidable
      (LinePanics env text →
        ∃ other < s.connections, other ≠ conn ∧
          (s.phases other).IsRunning))
| .reader _ .start | .reader _ (.hook _)
| .reader _ .remove | .reader _ .broadcast
| .reader _ .deliver | .notify | .accept | .client _ _
| .writer _ _ | .heartbeat _ | .upstream _
| .hookSend _ => isTrue trivial

variable {env : Env} {h o : List Obs} {s s' : State}
variable {e : Event} {conn : ConnId}

------------------------------------------------------------
-- Steps of a Reader
------------------------------------------------------------

/- Moving one reader moves one phase. -/
theorem phases_update
    (s : State)
    (conn : ConnId)
    (reader : Reader) :
    (fun other =>
      (Function.update s.reader conn reader other).phase) =
      Function.update s.phases conn reader.phase := by
  funext other
  by_cases hConn : other = conn
  · subst hConn
    simp
  · simp [State.phases, hConn]

/- A reader that moves on within its phase. -/
private theorem statusOk_of_phase
    {reader : Reader}
    (hReader : s'.reader = Function.update s.reader conn reader)
    (hPhase : reader.phase = (s.reader conn).phase)
    (hUp : s'.upstreamControlUp = s.upstreamControlUp) :
    s'.StatusOk ↔ s.StatusOk := by
  have hPhases : s'.phases = s.phases := by
    funext other
    have hMoved := congrFun
      (phases_update s conn reader) other
    rw [hPhase] at hMoved
    simp only [State.phases, hReader]
    rw [hMoved]
    by_cases hConn : other = conn
    · subst hConn
      simp
    · simp [State.phases, hConn]
  unfold State.StatusOk
  rw [hPhases, hUp]

/- Readers and flag are left alone. -/
private theorem statusOk_of_same
    (hReader : s'.reader = s.reader)
    (hUp : s'.upstreamControlUp = s.upstreamControlUp) :
    s'.StatusOk ↔ s.StatusOk := by
  unfold State.StatusOk State.phases
  rw [hReader, hUp]

/- Where the reader goes with a line, panics apart. -/
private theorem phase_routeLine
    (env : Env)
    (trimmed : String) :
    routeLine env trimmed = .panicked ∨
      (routeLine env trimmed).phase = .started := by
  unfold routeLine
  split
  · split
    · exact Or.inl rfl
    · exact Or.inr rfl
  · split
    · exact Or.inr rfl
    · split
      · exact Or.inr rfl
      · exact Or.inr rfl

/- A line ends the reader exactly when it makes it panic. -/
private theorem line_cases
    {text : String}
    (hStep : upstreamReaderTask env s conn (.line text) =
      some (s', o)) :
    s.reader conn = .reading ∧
      s'.upstreamControlUp = s.upstreamControlUp ∧
        ∃ reader,
          s'.reader = Function.update s.reader conn reader ∧
            (LinePanics env text ∧ reader.phase = .ended ∨
              ¬ LinePanics env text ∧
                reader.phase = .started) := by
  have hAt : s.reader conn = .reading := by
    cases upstreamReaderTask_cases hStep with
    | skipped hAt | panicked hAt | received hAt => exact hAt
  refine ⟨hAt, ?_⟩
  simp only [upstreamReaderTask, hAt] at hStep
  split at hStep
  · cases hStep
  · split at hStep
    · rename_i hBlank
      cases hStep
      refine ⟨rfl, .reading, ?_, Or.inr ⟨?_, rfl⟩⟩
      · rw [← hAt, Function.update_eq_self]
      · exact fun hPanics => hPanics.1 hBlank
    · rename_i hText
      split at hStep
      · rename_i hHint
        cases hStep
        refine ⟨rfl, .panicked, rfl, Or.inl ⟨?_, rfl⟩⟩
        exact ⟨hText, Or.inl (by simpa using hHint)⟩
      · rename_i hHint
        cases hStep
        refine ⟨rfl, _, rfl, ?_⟩
        rcases phase_routeLine env (Text.trim text) with
          hRoute | hRoute
        · exact Or.inl
            ⟨⟨hText, Or.inr hRoute⟩, by rw [hRoute]; rfl⟩
        · refine Or.inr ⟨?_, hRoute⟩
          rintro ⟨-, hNone | hPanics⟩
          · simp [hNone] at hHint
          · rw [hPanics] at hRoute
            cases hRoute

/- Whether a reader's step keeps the flag right. -/
private theorem reader_status
    {event : ReaderEvent}
    (hNumbered : Numbered s)
    (hGood : s.StatusOk)
    (hStep : upstreamReaderTask env s conn event =
      some (s', o)) :
    s'.StatusOk ↔
      StatusSafe env s (.reader conn event) := by
  -- Numbers that were not given out have no worker.
  have hAbsent (other : ConnId)
      (hNew : ¬ other < s.connections) :
      s.phases other = .absent := by
    simp [State.phases,
      hNumbered.reader other (Nat.le_of_not_lt hNew),
      Reader.phase]
  have hTrivial (hSame : s'.StatusOk ↔ s.StatusOk)
      (hSafe : StatusSafe env s (.reader conn event)) :
      s'.StatusOk ↔
        StatusSafe env s (.reader conn event) :=
    iff_of_true (hSame.mpr hGood) hSafe
  cases event with
  | line text =>
      rcases line_cases hStep with
        ⟨hAt, hUp, reader, hReader, hPanic⟩
      have hStarted : s.phases conn = .started := by
        simp [State.phases, hAt, Reader.phase]
      rcases hPanic with ⟨hPanics, hEnded⟩ | ⟨hFine, hStays⟩
      · have hOk : s'.StatusOk ↔
            Beacon.Accurate
              (Function.update s.phases conn .ended)
              s.upstreamControlUp := by
          unfold State.StatusOk
          rw [hUp, ← hEnded, ← phases_update]
          simp only [← hReader]
          rfl
        rw [hOk, Beacon.accurate_crash_iff hGood hStarted]
        constructor
        · rintro ⟨other, hOther, hRunning⟩ _
          refine ⟨other, ?_, hOther, hRunning⟩
          by_contra hNew
          rw [hAbsent other hNew] at hRunning
          exact hRunning
        · intro hSafe
          rcases hSafe hPanics with
            ⟨other, -, hOther, hRunning⟩
          exact ⟨other, hOther, hRunning⟩
      · refine hTrivial
          (statusOk_of_phase hReader ?_ hUp) ?_
        · rw [hStays, hAt]
          rfl
        · exact fun hPanics => absurd hPanics hFine
  | stop =>
      cases upstreamReaderTask_cases hStep with
      | stopped hAt =>
          have hOk : State.StatusOk
                { s with
                  reader :=
                    Function.update s.reader conn .done
                  upstreamControlUp := false } ↔
              Beacon.Accurate
                (Function.update s.phases conn .ended)
                false := by
            unfold State.StatusOk
            rw [← show Reader.phase .done = .ended from rfl,
              ← phases_update]
            rfl
          rw [hOk, Beacon.accurate_stop_iff]
          constructor
          · intro hNone other _ hOther
            exact hNone other hOther
          · intro hSafe other hOther
            by_cases hOld : other < s.connections
            · exact hSafe other hOld hOther
            · rw [hAbsent other hOld]
              nofun
  | start =>
      cases upstreamReaderTask_cases hStep with
      | started hAt =>
          refine iff_of_true ?_ trivial
          unfold State.StatusOk
          have hStart : Beacon.Accurate
              (Function.update s.phases conn .started)
              true := Beacon.accurate_start
          rw [← show Reader.phase .reading = .started
            from rfl, ← phases_update] at hStart
          exact hStart
  | hook action =>
      cases upstreamReaderTask_cases hStep with
      | @hooked action trimmed hAt =>
          refine hTrivial
            (statusOk_of_phase rfl ?_ rfl) trivial
          have hBefore : (s.reader conn).phase = .started := by
            rcases hAt with hAt | hAt
            · rw [hAt]
              rfl
            · rw [hAt]
              rfl
          rw [hBefore]
          cases action <;> rfl
  | remove =>
      cases upstreamReaderTask_cases hStep with
      | removed hAt hLock hEntry =>
          exact hTrivial
            (statusOk_of_phase rfl (by rw [hAt]; rfl) rfl)
            trivial
      | missed hAt hLock hEntry =>
          exact hTrivial
            (statusOk_of_phase rfl (by rw [hAt]; rfl) rfl)
            trivial
  | broadcast =>
      cases upstreamReaderTask_cases hStep with
      | broadcast hAt =>
          exact hTrivial
            (statusOk_of_phase rfl (by rw [hAt]; rfl) rfl)
            trivial
  | deliver =>
      cases upstreamReaderTask_cases hStep with
      | delivered hAt hSend =>
          exact hTrivial
            (statusOk_of_phase rfl (by rw [hAt]; rfl) rfl)
            trivial
      | undelivered hAt hClosed =>
          exact hTrivial
            (statusOk_of_phase rfl (by rw [hAt]; rfl) rfl)
            trivial

------------------------------------------------------------
-- Steps of the Proxy
------------------------------------------------------------

/- Whether a step keeps the flag right. -/
theorem status_step
    {es : List Event}
    (hRun : (proxy env).Run es h s)
    (hGood : s.StatusOk)
    (hNext : (proxy env).step s e = some (s', o)) :
    s'.StatusOk ↔ StatusSafe env s e := by
  have hNumbered := numbered_of_run hRun
  have hSame
      (hReader : s'.reader = s.reader)
      (hUp : s'.upstreamControlUp = s.upstreamControlUp)
      (hSafe : StatusSafe env s e) :
      s'.StatusOk ↔ StatusSafe env s e :=
    iff_of_true
      ((statusOk_of_same hReader hUp).mpr hGood) hSafe
  cases step_cases hNext with
  | reader hTask => exact reader_status hNumbered hGood hNext
  | client hTask =>
      apply hSame <;> cases hTask <;> first | rfl | trivial
  | writer hTask =>
      apply hSame <;> cases hTask <;> first | rfl | trivial
  | heartbeat hTask =>
      apply hSame <;> cases hTask <;> first | rfl | trivial
  | upstream hTask =>
      cases hTask with
      | spawned hAt =>
          refine iff_of_true ?_ trivial
          have hAbsent : s.phases s.connections = .absent := by
            simp [State.phases,
              hNumbered.reader s.connections le_rfl,
              Reader.phase]
          have hSpawned := Beacon.Accurate.spawn hGood hAbsent
          rw [← show Reader.phase .spawned = .spawned
            from rfl, ← phases_update] at hSpawned
          exact hSpawned
      | _ => exact hSame rfl rfl trivial
  | _ => exact hSame rfl rfl trivial

/-
  The flag is right in every state of a run exactly when
  every step of the run is safe for it.
-/
theorem statusOk_iff_meets
    {es : List Event}
    (hRun : (proxy env).Run es h s) :
    (proxy env).Always State.StatusOk (proxy env).init es ↔
      (proxy env).Meets (StatusSafe env) (proxy env).init es :=
  Machine.always_iff_meets Beacon.accurate_init
    (fun _ _ _ _ _ _ hBefore hGood hNext =>
      status_step hBefore hGood hNext) hRun

/-
  A write to the telescope fails, the next connection is
  made and its reader starts before the old one stops.
-/
def overlap : List Event :=
  greeted ++
    [.upstream .recv, .upstream (.write false)] ++
    connectUpstream ++
    [.reader 1 .start, .reader 0 .stop]

end Control

end SeestarProxy
