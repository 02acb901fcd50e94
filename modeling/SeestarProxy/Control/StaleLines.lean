import SeestarProxy.Control.Drain

/-
  Lines that outlive their request.

  The upstream queue survives the loss of a connection, the
  entries of the pending map do not: a request whose line is
  still on its way when the drain answers it is written to
  the telescope afterwards. Apart from that case, a request
  that was answered with an error is never written.

  Main declarations:
    * `State.LineWaits` and `lapsed_of_not_waits`
    * `NoLateWrite` and `no_late_write`
-/

------------------------------------------------------------
-- Lines on Their Way
------------------------------------------------------------

namespace SeestarProxy

namespace Control

open Library Protocol

/- The line of the entry's request is still to be written. -/
def State.LineWaits
    (s : State)
    (entry : PendingRequest) : Prop :=
  (s.handler entry.clientTx).line? = some entry.seq ∨
    entry.seq ∈ lineSeqs s.upstreamTx

instance (s : State) (entry : PendingRequest) :
    Decidable (s.LineWaits entry) := by
  unfold State.LineWaits
  infer_instance

variable {env : Env} {h o : List Obs} {s s' : State}

/- The draw of a line that a handler or the heartbeat holds. -/
private theorem draw_of_move
    {x : Obs}
    {seq : Nat}
    {place : LinePlace}
    (hMove : lineMove x = some (seq, place))
    (hPlace : place ≠ .queue)
    (hTaken : place ≠ .upstream)
    (hWritten : ∀ conn, place ≠ .written conn)
    (hLost : place ≠ .lost) :
    (∃ c sent action msg originalId id,
      place = .handler c ∧
        x = .request c sent action msg originalId seq id) ∨
      place = .heartbeat ∧ x = .heartbeat seq := by
  cases x with
  | request c sent action msg originalId seq' id =>
      cases hMove
      exact Or.inl ⟨c, sent, action, msg, originalId, id,
        rfl, rfl⟩
  | heartbeat seq' =>
      cases hMove
      exact Or.inr ⟨rfl, rfl⟩
  | queued m | taken m | written conn m | lost m =>
      cases hSeq : m.seq? with
      | none => simp [lineMove, hSeq] at hMove
      | some seq' =>
          simp only [lineMove, hSeq, Option.map_some,
            Option.some.injEq, Prod.mk.injEq] at hMove
          rcases hMove with ⟨-, rfl⟩
          first
            | exact absurd rfl hPlace
            | exact absurd rfl hTaken
            | exact absurd rfl (hWritten conn)
            | exact absurd rfl hLost
  | _ => cases hMove

/- A line at a handler was drawn by that handler. -/
theorem request_of_line
    (hKept : lines.Kept h s)
    {c : ClientId}
    {seq : Nat}
    (hHeld : LineHeld s seq (.handler c)) :
    ∃ sent action msg originalId id,
      .request c sent action msg originalId seq id ∈ h := by
  rcases History.exists_mem_of_last_eq_some
    (hKept.tracks seq (.handler c) hHeld) with
    ⟨x, hx, hMove⟩
  rcases draw_of_move hMove nofun nofun nofun nofun with
    ⟨c', sent, action, msg, originalId, id, hPlace, rfl⟩ |
      ⟨hPlace, -⟩
  · cases hPlace
    exact ⟨sent, action, msg, originalId, id, hx⟩
  · cases hPlace

/- A line at the heartbeat task was drawn by that task. -/
theorem heartbeat_of_line
    (hKept : lines.Kept h s)
    {seq : Nat}
    (hHeld : LineHeld s seq .heartbeat) :
    .heartbeat seq ∈ h := by
  rcases History.exists_mem_of_last_eq_some
    (hKept.tracks seq .heartbeat hHeld) with
    ⟨x, hx, hMove⟩
  rcases draw_of_move hMove nofun nofun nofun nofun with
    ⟨c', sent, action, msg, originalId, id, hPlace, -⟩ |
      ⟨-, rfl⟩
  · cases hPlace
  · exact hx

/-
  While the drain goes on, the line of an entry is nowhere
  when it is neither queued nor with its client's handler.
-/
theorem lapsed_of_not_waits
    {es : List Event}
    (hRun : (proxy env).Run es h s)
    (hAt : s.upstream = .draining)
    {key : UInt64}
    {entry : PendingRequest}
    (hEntry : s.pending.lookup key = some entry)
    (hNot : ¬ s.LineWaits entry) :
    lines.Lapsed s entry.seq := by
  have hInv := provenance_of_run hRun
  have hKept := (linesKept_of_run hRun).kept
  rcases hInv.entries key entry hEntry with
    ⟨msg, sent, action, hRequest⟩
  refine ⟨hInv.entry_seq hEntry, ?_⟩
  intro place hHeld
  cases place with
  | handler c =>
      rcases request_of_line hKept hHeld with
        ⟨sent', action', msg', originalId', id', hDrawn⟩
      have hSame := draw_unique hRun hDrawn hRequest rfl rfl
      cases hSame
      exact hNot (Or.inl hHeld)
  | heartbeat =>
      have hDrawn := heartbeat_of_line hKept hHeld
      have hSame := draw_unique hRun hDrawn hRequest rfl rfl
      cases hSame
  | queue => exact hNot (Or.inr hHeld)
  | upstream =>
      have hHand : s.upstream.line? = some entry.seq := hHeld
      rw [hAt] at hHand
      cases hHand
  | written conn => cases hHeld
  | lost => cases hHeld

------------------------------------------------------------
-- No Write after a Reported Failure
------------------------------------------------------------

/- `y` writes the line of a request that `x` gave up. -/
def LateWrite : Obs → Obs → Prop
| .reply .drain _ seq _, .written _ m => m.seq? = some seq
| _, _ => False

instance (x y : Obs) : Decidable (LateWrite x y) := by
  unfold LateWrite
  split <;> infer_instance

/- No line is written after its request was given up. -/
def NoLateWrite (h : List Obs) : Prop :=
  h.Pairwise fun x y => ¬ LateWrite x y

instance (h : List Obs) : Decidable (NoLateWrite h) := by
  unfold NoLateWrite
  infer_instance

/- The entry is answered only if its line was taken. -/
def StaleFree (s : State) (entry : PendingRequest) : Prop :=
  (s.responseTx entry.clientTx).Accepts →
    ¬ s.LineWaits entry

instance (s : State) (entry : PendingRequest) :
    Decidable (StaleFree s entry) := by
  unfold StaleFree
  infer_instance

/- A write is the only thing that its step shows. -/
theorem written_cases
    {e : Event}
    {conn : ConnId}
    {m : Message}
    (hStep : ProxyStep env s e s' o)
    (hRecord : .written conn m ∈ o) :
    o = [.written conn m] ∧ s.upstream = .writing conn m := by
  cases hStep with
  | client hTask => cases hTask <;> simp at hRecord
  | writer hTask => cases hTask <;> simp at hRecord
  | heartbeat hTask => cases hTask <;> simp at hRecord
  | reader hTask => cases hTask <;> simp at hRecord
  | upstream hTask =>
      cases hTask with
      | wrote hAt =>
          simp only [List.mem_singleton,
            Obs.written.injEq] at hRecord
          rcases hRecord with ⟨rfl, rfl⟩
          exact ⟨rfl, hAt⟩
      | _ => simp at hRecord
  | _ => simp at hRecord

/- A write is a move of the line ledger. -/
theorem written_move
    {conn : ConnId}
    {m : Message}
    {seq : Nat}
    (hMem : .written conn m ∈ o)
    (hSeq : m.seq? = some seq) :
    (seq, .written conn) ∈ lines.moves o := by
  refine List.mem_filterMap.mpr ⟨_, hMem, ?_⟩
  simp [lines, lineMove, hSeq]

/- The history so far, and the requests given up in it. -/
private structure GivenUp
    (h : List Obs)
    (s : State) : Prop where
  noLateWrite : NoLateWrite h
  lapsed : ∀ c seq text, .reply .drain c seq text ∈ h →
    lines.Lapsed s seq

private theorem givenUp_step
    {es : List Event}
    {e : Event}
    (hRun : (proxy env).Run es h s)
    (hNext : (proxy env).step s e = some (s', o))
    (hSafe : AtDrain StaleFree s e)
    (hGiven : GivenUp h s) :
    GivenUp (h ++ o) s' := by
  have hStep := step_cases hNext
  have hLines := linesKept_of_run hRun
  have hMoves {seq : Nat} (hLapsed : lines.Lapsed s seq) :=
    hLapsed.step
      (fun _ hLt =>
        Nat.lt_of_lt_of_le hLt hStep.allocated_le)
      (hStep.lines hLines.nodup)
  refine ⟨?_, ?_⟩
  · rw [NoLateWrite, List.pairwise_append]
    refine ⟨hGiven.noLateWrite, ?_, ?_⟩
    · -- A step that writes shows nothing else.
      by_cases hWrites : ∃ conn m, .written conn m ∈ o
      · rcases hWrites with ⟨conn, m, hMem⟩
        rw [(written_cases hStep hMem).1]
        exact List.pairwise_singleton _ _
      · apply List.pairwise_of_forall_mem_list
        intro x hx y hy hLate
        unfold LateWrite at hLate
        split at hLate
        · rename_i c seq text conn m
          exact hWrites ⟨conn, m, hy⟩
        · exact hLate
    · intro x hx y hy hLate
      unfold LateWrite at hLate
      split at hLate
      · rename_i c seq text conn m
        have hLapsed := hGiven.lapsed c seq text hx
        exact (hMoves hLapsed).2 _ (written_move hy hLate)
      · exact hLate
  · intro c seq text hMem
    rcases List.mem_append.mp hMem with hOld | hNew
    · exact (hMoves (hGiven.lapsed c seq text hOld)).1
    · rcases drain_reply_cases hStep hNew with
        ⟨key, entry, rfl, hAt, hEntry, rfl, rfl, hAccepts⟩
      have hNot :=
        atDrain_iff.mp hSafe key entry rfl hEntry hAccepts
      exact (hMoves
        (lapsed_of_not_waits hRun hAt hEntry hNot)).1

/-
  In every run whose drain answers only requests whose lines
  were taken from the queue, no line is written after its
  request was answered with the error.
-/
theorem no_late_write
    {es : List Event}
    (hRun : (proxy env).Run es h s)
    (hMeets : (proxy env).Meets (AtDrain StaleFree)
      (proxy env).init es) :
    NoLateWrite h := by
  have hGiven : GivenUp h s := by
    refine Machine.guarded_induction
      (motive := fun _ h s => GivenUp h s) ?_ ?_ hRun hMeets
    · exact ⟨List.Pairwise.nil, by simp⟩
    · intro es h s e s' o hBefore hGiven hSafe hNext
      exact givenUp_step hBefore hNext hSafe hGiven
  exact hGiven.noLateWrite

theorem no_late_write_parkReconnect :
    Obs.reply .drain 0 0
        (lineOf (telescopeReconnecting (.string "a"))) ∈
      ((proxy parkEnv).outcome parkReconnect).2 ∧
    NoLateWrite ((proxy parkEnv).outcome parkReconnect).2 :=
  ⟨by decide +kernel,
    no_late_write
      (Machine.run_outcome (by decide +kernel))
      (by decide +kernel)⟩

/-
  A request is queued before the first connection is made:
  the drain answers it with the error, and the new connection
  then carries its line.
-/
def parkBeforeConnect : List Event :=
  [.notify, .accept] ++ drawPark 0 ++
    [.client 0 .register, .client 0 .sendUpstream,
      .upstream .start, .upstream .connect,
      .upstream .resetHandshake, .upstream .lockPending,
      .upstream (.drain firstId), .upstream .unlockPending,
      .upstream .spawnReader, .upstream .recv,
      .upstream (.write true)]

theorem late_write_reached :
    ∃ h s, (proxy parkEnv).Run parkBeforeConnect h s ∧
      ¬ NoLateWrite h :=
  Machine.exists_run (by decide +kernel)

end Control

end SeestarProxy
