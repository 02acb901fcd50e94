import Mathlib

/-
  A shared flag that reports whether any worker is at work.

  Workers are spawned, start, and end by stopping or by a
  crash. A start raises the flag, a stop lowers it, a crash
  leaves it. The flag is accurate when it is up while some
  worker has started and not ended, and down once none is
  left. For each of these steps this file says exactly when
  an accurate flag stays accurate.

  Main declarations:
    * `Phase` and `Accurate`
    * `accurate_stop_iff` and `accurate_crash_iff`
-/

namespace Library

namespace Beacon

/- What a worker has done so far. -/
inductive Phase where
| absent
| spawned
| started
| ended
deriving DecidableEq, Repr

/- The worker exists and has not ended. -/
def Phase.IsRunning : Phase → Prop
| .spawned | .started => True
| .absent | .ended => False

instance (phase : Phase) : Decidable phase.IsRunning :=
  match phase with
  | .spawned | .started => instDecidableTrue
  | .absent | .ended => instDecidableFalse

variable {ι : Type}

/-
  The flag is up while a started worker is running, and down
  once no worker is running.
-/
structure Accurate
    (phase : ι → Phase)
    (up : Bool) : Prop where
  raised : (∃ i, phase i = .started) → up = true
  lowered : (∀ i, ¬ (phase i).IsRunning) → up = false

theorem accurate_init :
    Accurate (fun _ : ι => Phase.absent) false where
  raised := fun ⟨_, hStarted⟩ => by cases hStarted
  lowered := fun _ => rfl

variable [DecidableEq ι]
variable {phase : ι → Phase} {up : Bool} {i : ι}

/- A worker is spawned. -/
theorem Accurate.spawn
    (hAccurate : Accurate phase up)
    (hAbsent : phase i = .absent) :
    Accurate (Function.update phase i .spawned) up where
  raised := by
    rintro ⟨j, hStarted⟩
    by_cases hIndex : j = i
    · subst hIndex
      simp at hStarted
    · rw [Function.update_of_ne hIndex] at hStarted
      exact hAccurate.raised ⟨j, hStarted⟩
  lowered := by
    intro hNone
    have hSelf := hNone i
    rw [Function.update_self] at hSelf
    exact absurd trivial hSelf

/- A start raises the flag. -/
theorem accurate_start :
    Accurate (Function.update phase i .started) true where
  raised := fun _ => rfl
  lowered := by
    intro hNone
    have hSelf := hNone i
    rw [Function.update_self] at hSelf
    exact absurd trivial hSelf

/-
  A stop keeps the flag accurate exactly when no other
  started worker is running.
-/
theorem accurate_stop_iff :
    Accurate (Function.update phase i .ended) false ↔
      ∀ j, j ≠ i → phase j ≠ .started := by
  constructor
  · intro hAccurate j hOther hStarted
    have hUp := hAccurate.raised
      ⟨j, by rw [Function.update_of_ne hOther, hStarted]⟩
    cases hUp
  · intro hOthers
    refine ⟨?_, fun _ => rfl⟩
    rintro ⟨j, hStarted⟩
    by_cases hIndex : j = i
    · subst hIndex
      simp at hStarted
    · rw [Function.update_of_ne hIndex] at hStarted
      exact absurd hStarted (hOthers j hIndex)

/-
  A crash of a started worker keeps the flag accurate
  exactly when another worker is running.
-/
theorem accurate_crash_iff
    (hAccurate : Accurate phase up)
    (hStarted : phase i = .started) :
    Accurate (Function.update phase i .ended) up ↔
      ∃ j, j ≠ i ∧ (phase j).IsRunning := by
  have hUp := hAccurate.raised ⟨i, hStarted⟩
  constructor
  · intro hAfter
    by_contra hNone
    have hDown : up = false := by
      apply hAfter.lowered
      intro j
      by_cases hIndex : j = i
      · subst hIndex
        rw [Function.update_self]
        exact fun hRunning => hRunning
      · rw [Function.update_of_ne hIndex]
        exact fun hRunning => hNone ⟨j, hIndex, hRunning⟩
    rw [hUp] at hDown
    cases hDown
  · rintro ⟨j, hOther, hRunning⟩
    refine ⟨fun _ => hUp, ?_⟩
    intro hNone
    have hNot := hNone j
    rw [Function.update_of_ne hOther] at hNot
    exact absurd hRunning hNot

end Beacon

end Library
