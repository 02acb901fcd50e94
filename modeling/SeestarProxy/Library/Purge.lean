import SeestarProxy.Library.Machine

/-
  Runs that differ in events without effect.

  Some events of a machine may be left out of a run: those
  that are not kept. If, under a condition on the steps, such
  an event leaves the state as it is and shows nothing in a
  view of the history, then two runs that agree on the kept
  events agree on the view.

  Main declarations:
    * `Machine.Run.unique`
    * `Machine.Run.purge`
    * `Machine.view_eq_of_purge_eq`
-/

namespace Library

namespace Machine

variable {σ ε ο β : Type}

/- A run is determined by its events. -/
theorem Run.unique
    {M : Machine σ ε ο}
    {es : List ε}
    {h h' : List ο}
    {s s' : σ}
    (hRun : M.Run es h s)
    (hRun' : M.Run es h' s') :
    s = s' ∧ h = h' := by
  unfold Run at hRun hRun'
  rw [hRun] at hRun'
  have hPair := Option.some.inj hRun'
  rw [Prod.mk.injEq] at hPair
  exact hPair

/-
  Events that are not kept change nothing and are not seen,
  whenever they meet the condition.
-/
def Silent
    (M : Machine σ ε ο)
    (keep : ε → Bool)
    (view : ο → Option β)
    (cond : σ → ε → Prop) : Prop :=
  ∀ s e s' o, keep e = false → cond s e →
    M.step s e = some (s', o) →
      s' = s ∧ o.filterMap view = []

/- A run without the events that are not kept. -/
theorem Run.purge
    {M : Machine σ ε ο}
    {keep : ε → Bool}
    {view : ο → Option β}
    {cond : σ → ε → Prop}
    (hSilent : M.Silent keep view cond)
    {es : List ε}
    {h : List ο}
    {s : σ}
    (hRun : M.Run es h s)
    (hMeets : M.Meets cond M.init es) :
    ∃ h₀, M.Run (es.filter keep) h₀ s ∧
      h₀.filterMap view = h.filterMap view := by
  refine guarded_induction
    (motive := fun es h s =>
      ∃ h₀, M.Run (es.filter keep) h₀ s ∧
        h₀.filterMap view = h.filterMap view) ?_ ?_ hRun
    hMeets
  · exact ⟨[], run_nil_iff.mpr ⟨rfl, rfl⟩, rfl⟩
  · intro es h s e s' o _ ih hCond hNext
    rcases ih with ⟨h₀, hBefore, hView⟩
    rw [List.filter_append]
    cases hKeep : keep e with
    | false =>
        rcases hSilent s e s' o hKeep hCond hNext with
          ⟨rfl, hNone⟩
        refine ⟨h₀, ?_, ?_⟩
        · rw [List.filter_cons_of_neg (by simp [hKeep]),
            List.filter_nil, List.append_nil]
          exact hBefore
        · rw [List.filterMap_append, hNone, List.append_nil]
          exact hView
    | true =>
        refine ⟨h₀ ++ o, ?_, ?_⟩
        · rw [List.filter_cons_of_pos (by simp [hKeep]),
            List.filter_nil]
          exact run_snoc_iff.mpr
            ⟨h₀, s, o, hBefore, hNext, rfl⟩
        · rw [List.filterMap_append, List.filterMap_append,
            hView]

/- Two runs that agree on the kept events look the same. -/
theorem view_eq_of_purge_eq
    {M : Machine σ ε ο}
    {keep : ε → Bool}
    {view : ο → Option β}
    {cond : σ → ε → Prop}
    (hSilent : M.Silent keep view cond)
    {es es' : List ε}
    {h h' : List ο}
    {s s' : σ}
    (hRun : M.Run es h s)
    (hRun' : M.Run es' h' s')
    (hMeets : M.Meets cond M.init es)
    (hMeets' : M.Meets cond M.init es')
    (hSame : es.filter keep = es'.filter keep) :
    h.filterMap view = h'.filterMap view := by
  rcases hRun.purge hSilent hMeets with
    ⟨h₀, hPurged, hView⟩
  rcases hRun'.purge hSilent hMeets' with
    ⟨h₀', hPurged', hView'⟩
  rw [hSame] at hPurged
  rw [← hView, ← hView', (hPurged.unique hPurged').2]

end Machine

end Library
