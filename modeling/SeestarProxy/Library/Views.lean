import SeestarProxy.Library.Machine

/-
  Views of the states of a machine.

  Where each step takes the view of a state to the next one
  by what the event says, or into a dead end, the view at
  the end of an execution is a fold over its events. Events
  that say nothing do not count: two executions whose other
  events agree end in the same view.

  Main declarations:
    * `Machine.Tracks` and `Tracks.exec`
    * `Tracks.exec_congr`
    * `Machine.countSteps` and `countSteps_le`
-/

namespace Library

namespace Machine

variable {σ ε ο τ γ : Type}
variable {M : Machine σ ε ο}
variable {view : σ → Option τ} {reads : ε → Option γ}
variable {next : τ → γ → τ}
variable {es es' : List ε} {h h' : List ο}
variable {s s' s'' : σ} {t t' t'' : τ}

------------------------------------------------------------
-- Views as Folds
------------------------------------------------------------

/- The view after an event, which may say nothing. -/
def advance
    (reads : ε → Option γ)
    (next : τ → γ → τ)
    (t : τ)
    (e : ε) : τ :=
  match reads e with
  | none => t
  | some x => next t x

/-
  A step from a state with a view leads to the next view, or
  to a state without one that has no steps.
-/
def Tracks
    (M : Machine σ ε ο)
    (view : σ → Option τ)
    (reads : ε → Option γ)
    (next : τ → γ → τ) : Prop :=
  ∀ s t e s' o, view s = some t →
    M.step s e = some (s', o) →
      view s' = some (advance reads next t e) ∨
        view s' = none ∧ ∀ e', M.step s' e' = none

/- Without steps an execution stays where it is. -/
theorem exec_of_dead
    (hDead : ∀ e, M.step s e = none)
    (hExec : M.exec s es = some (s', h)) :
    s' = s := by
  cases es with
  | nil =>
      cases hExec
      rfl
  | cons e es =>
      rcases exec_cons_iff.mp hExec with
        ⟨s₁, o, o', hStep, -, -⟩
      rw [hDead e] at hStep
      cases hStep

/- The view at the end is the fold of what was said. -/
theorem Tracks.exec
    (hTracks : M.Tracks view reads next)
    (hStart : view s = some t)
    (hExec : M.exec s es = some (s', h))
    (hEnd : view s' = some t') :
    t' = (es.filterMap reads).foldl next t := by
  induction es generalizing s t h with
  | nil =>
      cases hExec
      exact Option.some.inj (hEnd.symm.trans hStart)
  | cons e es ih =>
      rcases exec_cons_iff.mp hExec with
        ⟨s₁, o, o', hStep, hRest, -⟩
      rcases hTracks s t e s₁ o hStart hStep with
        hView | ⟨hNone, hDead⟩
      · rw [ih hView hRest]
        unfold advance
        cases hReads : reads e with
        | none => rw [List.filterMap_cons_none hReads]
        | some x =>
            rw [List.filterMap_cons_some hReads]
            rfl
      · rw [exec_of_dead hDead hRest, hNone] at hEnd
        cases hEnd

/- What says nothing makes no difference. -/
theorem Tracks.exec_congr
    (hTracks : M.Tracks view reads next)
    (hStart : view s = some t)
    (hExec : M.exec s es = some (s', h))
    (hExec' : M.exec s es' = some (s'', h'))
    (hEnd : view s' = some t')
    (hEnd' : view s'' = some t'')
    (hSame : es.filterMap reads = es'.filterMap reads) :
    t' = t'' := by
  rw [hTracks.exec hStart hExec hEnd,
    hTracks.exec hStart hExec' hEnd', hSame]

/- The view is there all the way to a state that has it. -/
theorem Tracks.view_of_exec
    (hTracks : M.Tracks view reads next)
    (hStart : view s = some t)
    (hExec : M.exec s es = some (s', h))
    (hRest : M.exec s' es' = some (s'', h'))
    (hEnd : (view s'').isSome = true) :
    ∃ t', view s' = some t' := by
  induction es generalizing s t h with
  | nil =>
      cases hExec
      exact ⟨t, hStart⟩
  | cons e es ih =>
      rcases exec_cons_iff.mp hExec with
        ⟨s₁, o, o', hStep, hNext, -⟩
      rcases hTracks s t e s₁ o hStart hStep with
        hView | ⟨hNone, hDead⟩
      · exact ih hView hNext
      · cases exec_of_dead hDead hNext
        rw [exec_of_dead hDead hRest, hNone] at hEnd
        cases hEnd

------------------------------------------------------------
-- Counting Steps
------------------------------------------------------------

/- How many steps of an execution are of a kind. -/
def countSteps
    (M : Machine σ ε ο)
    (kind : σ → σ → Bool) :
    σ → List ε → Nat
| _, [] => 0
| s, e :: es =>
    match M.step s e with
    | none => 0
    | some (s', _) =>
        (if kind s s' then 1 else 0) +
          M.countSteps kind s' es

/- Steps that use up a rank are at most as many. -/
theorem countSteps_le
    {kind : σ → σ → Bool}
    {rank : σ → Nat}
    (hStep : ∀ s e s' o, M.step s e = some (s', o) →
      rank s' + (if kind s s' then 1 else 0) ≤ rank s)
    (s : σ)
    (es : List ε) :
    M.countSteps kind s es ≤ rank s := by
  induction es generalizing s with
  | nil => exact Nat.zero_le _
  | cons e es ih =>
      rw [countSteps]
      cases hNext : M.step s e with
      | none => exact Nat.zero_le _
      | some last =>
          rcases last with ⟨s', o⟩
          have hFirst := hStep s e s' o hNext
          have hRest := ih s'
          dsimp only
          omega

end Machine

end Library
