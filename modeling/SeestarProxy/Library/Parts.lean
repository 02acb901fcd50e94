import SeestarProxy.Library.Machine

/-
  Parts of a machine.

  A part sees some of the state of the whole and some of what
  the whole shows. A step of the whole is an execution of the
  part: none, one or several of its steps. What holds of all
  runs of the part then holds within every run of the whole.

  Main declarations:
    * `Machine.Part`
    * `Part.run` and `Part.invariant`
-/

------------------------------------------------------------
-- Parts
------------------------------------------------------------

namespace Library

namespace Machine

variable {σ τ ε δ ο π : Type}

/- A machine as a part of another one. -/
structure Part
    (M : Machine σ ε ο)
    (N : Machine τ δ π) where
  view : σ → τ
  events : σ → ε → List δ
  shown : ο → Option π
  init : view M.init = N.init
  step : ∀ s e s' o, M.step s e = some (s', o) →
    N.exec (view s) (events s e) =
      some (view s', o.filterMap shown)

variable {M : Machine σ ε ο} {N : Machine τ δ π}

/-
  A run of the whole is a run of the part, whose events each
  belong to an event of the whole.
-/
theorem Part.run
    (P : M.Part N)
    {es : List ε}
    {h : List ο}
    {s : σ}
    (hRun : M.Run es h s) :
    ∃ ds, N.Run ds (h.filterMap P.shown) (P.view s) ∧
      ∀ d ∈ ds, ∃ e ∈ es, ∃ s₀, d ∈ P.events s₀ e := by
  refine run_induction
    (motive := fun es h s =>
      ∃ ds, N.Run ds (h.filterMap P.shown) (P.view s) ∧
        ∀ d ∈ ds, ∃ e ∈ es, ∃ s₀, d ∈ P.events s₀ e)
    ?_ ?_ hRun
  · refine ⟨[], ?_, by simp⟩
    rw [run_nil_iff]
    exact ⟨P.init, rfl⟩
  · intro es h s e s' o _ ih hNext
    rcases ih with ⟨ds, hBefore, hEvents⟩
    refine ⟨ds ++ P.events s e, ?_, ?_⟩
    · rw [List.filterMap_append]
      exact hBefore.append (P.step s e s' o hNext)
    · intro d hMem
      rcases List.mem_append.mp hMem with hOld | hNew
      · rcases hEvents d hOld with ⟨e', hIn, s₀, hFrom⟩
        exact ⟨e', List.mem_append_left _ hIn, s₀, hFrom⟩
      · exact ⟨e, by simp, s, hNew⟩

/- What holds in every run of the part holds in the whole. -/
theorem Part.invariant
    (P : M.Part N)
    {good : List π → τ → Prop}
    (hGood : ∀ ds h t, N.Run ds h t → good h t)
    {es : List ε}
    {h : List ο}
    {s : σ}
    (hRun : M.Run es h s) :
    good (h.filterMap P.shown) (P.view s) := by
  rcases P.run hRun with ⟨ds, hPart, -⟩
  exact hGood ds _ _ hPart

end Machine

end Library
