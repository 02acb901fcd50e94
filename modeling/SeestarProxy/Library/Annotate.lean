import SeestarProxy.Library.Machine

/-
  Machines with notes beside their state.

  `annotate` runs a machine and updates notes at each step.
  The notes never change what the machine does, so its runs
  are exactly those of the machine with notes.

  Main declarations:
    * `Machine.annotate` and `annotate_step_iff`
    * `run_annotate_iff`
-/

------------------------------------------------------------
-- Notes
------------------------------------------------------------

namespace Library

namespace Machine

variable {σ τ ε ο : Type}

/-
  The machine with notes: `view` is the state that is noted
  upon, and `next` notes a step with what it shows.
-/
def annotate
    (M : Machine σ ε ο)
    (init : τ)
    (view : τ → σ)
    (next : τ → ε → σ → List ο → τ) :
    Machine τ ε ο where
  init := init
  step w e :=
    match M.step (view w) e with
    | none => none
    | some (s', o) => some (next w e s' o, o)

variable {M : Machine σ ε ο}
variable {init : τ} {view : τ → σ}
variable {next : τ → ε → σ → List ο → τ}

theorem annotate_step_iff
    {w w' : τ}
    {e : ε}
    {o : List ο} :
    (M.annotate init view next).step w e = some (w', o) ↔
      ∃ s', M.step (view w) e = some (s', o) ∧
        w' = next w e s' o := by
  change (match M.step (view w) e with
    | none => none
    | some (s', o) => some (next w e s' o, o)) = _ ↔ _
  cases hStep : M.step (view w) e with
  | none => simp
  | some last =>
      rcases last with ⟨s', o'⟩
      simp only [Option.some.injEq, Prod.mk.injEq]
      constructor
      · rintro ⟨rfl, rfl⟩
        exact ⟨s', ⟨rfl, rfl⟩, rfl⟩
      · rintro ⟨s'', ⟨rfl, rfl⟩, rfl⟩
        exact ⟨rfl, rfl⟩

/- Every run is noted, and notes are only of runs. -/
theorem run_annotate_iff
    (hInit : view init = M.init)
    (hNext : ∀ w e s' o, view (next w e s' o) = s')
    {es : List ε}
    {h : List ο}
    {s : σ} :
    M.Run es h s ↔
      ∃ w, (M.annotate init view next).Run es h w ∧
        view w = s := by
  induction es using List.reverseRecOn generalizing h s with
  | nil =>
      simp only [run_nil_iff]
      constructor
      · rintro ⟨rfl, rfl⟩
        exact ⟨init, ⟨rfl, rfl⟩, hInit⟩
      · rintro ⟨w, ⟨rfl, rfl⟩, rfl⟩
        exact ⟨hInit, rfl⟩
  | append_singleton es e ih =>
      simp only [run_snoc_iff]
      constructor
      · rintro ⟨h₀, s₀, o, hBefore, hStep, rfl⟩
        rcases ih.mp hBefore with ⟨w, hRun, rfl⟩
        exact ⟨next w e s o, ⟨h₀, w, o, hRun,
          annotate_step_iff.mpr ⟨s, hStep, rfl⟩, rfl⟩,
          hNext w e s o⟩
      · rintro ⟨w', ⟨h₀, w, o, hRun, hStep, rfl⟩, rfl⟩
        rcases annotate_step_iff.mp hStep with
          ⟨s', hAfter, rfl⟩
        rw [hNext]
        exact ⟨h₀, view w, o, ih.mpr ⟨w, hRun, rfl⟩,
          hAfter, rfl⟩

end Machine

end Library
