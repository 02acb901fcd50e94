import SeestarProxy.Library.Machine

/-
  Tasks that serve the clients of a machine.

  The machine accepts clients and ends their handlers. Each
  client has a task that counts it in a gauge, runs its
  handler and, once the handler has returned, takes the
  client off the gauge and says that it left. A task whose
  handler panics is gone before it gets there. What a
  handler that is over has to leave behind is a parameter.

  Main declarations:
    * `Task`, `Fate`, `Serving` and `served`
    * `Safe` and `Panics`
    * `task_of_over` and `Panics.safeExactly`
    * `Leaves`
-/

------------------------------------------------------------
-- Tasks
------------------------------------------------------------

namespace Library

namespace Served

/- Where the task of a client is. -/
inductive Task where
| absent
| serving
| returned
| left
| panicked
deriving DecidableEq, Repr

/- What a step of the machine means for the tasks. -/
inductive Fate where
| none
| accepted (c : Nat)
| returned (c : Nat)
| panicked (c : Nat)
deriving DecidableEq, Repr

/- A state of the machine, the tasks and the gauge. -/
structure Serving (σ : Type) where
  inner : σ
  task : Nat → Task
  gauge : Int

/- A step of the machine, or the rest of a task. -/
inductive Event (ε : Type) where
| inner (e : ε)
| leave (c : Nat)

/- What the machine shows, or that a client left. -/
inductive Obs (ο : Type) where
| inner (o : ο)
| left (c : Nat)

variable {σ ε ο : Type}

/- The tasks after a step of the machine. -/
def Serving.after
    (s : Serving σ)
    (inner : σ) : Fate → Serving σ
| .none => { s with inner := inner }
| .accepted c =>
    { inner := inner
      task := Function.update s.task c .serving
      gauge := s.gauge + 1 }
| .returned c =>
    { s with
      inner := inner
      task := Function.update s.task c .returned }
| .panicked c =>
    { s with
      inner := inner
      task := Function.update s.task c .panicked }

@[simp] theorem Serving.inner_after
    (s : Serving σ)
    (inner : σ)
    (fate : Fate) :
    (s.after inner fate).inner = inner := by
  cases fate <;> rfl

/- A machine together with the tasks of its clients. -/
def served
    (M : Machine σ ε ο)
    (fate : σ → ε → σ → Fate) :
    Machine (Serving σ) (Event ε) (Obs ο) where
  init :=
    { inner := M.init
      task := fun _ => .absent
      gauge := 0 }
  step := fun s event =>
    match event with
    | .inner e =>
        match M.step s.inner e with
        | none => none
        | some (inner, o) =>
            some (s.after inner (fate s.inner e inner),
              o.map .inner)
    | .leave c =>
        if s.task c = .returned then
          some ({ s with
            task := Function.update s.task c .left
            gauge := s.gauge - 1 }, [.left c])
        else
          none

/- The outcomes of one step. -/
inductive ServedStep
    (M : Machine σ ε ο)
    (fate : σ → ε → σ → Fate)
    (s : Serving σ) :
    Event ε → Serving σ → Prop
| inner {e : ε} {inner : σ} {o : List ο}
    (hStep : M.step s.inner e = some (inner, o)) :
    ServedStep M fate s (.inner e)
      (s.after inner (fate s.inner e inner))
| leave {c : Nat}
    (hReturned : s.task c = .returned) :
    ServedStep M fate s (.leave c)
      { s with
        task := Function.update s.task c .left
        gauge := s.gauge - 1 }

theorem served_cases
    {M : Machine σ ε ο}
    {fate : σ → ε → σ → Fate}
    {s s' : Serving σ}
    {event : Event ε}
    {o : List (Obs ο)}
    (hStep : (served M fate).step s event = some (s', o)) :
    ServedStep M fate s event s' := by
  cases event with
  | inner e =>
      simp only [served] at hStep
      split at hStep
      · cases hStep
      · rename_i hInner
        cases hStep
        exact .inner hInner
  | leave c =>
      simp only [served] at hStep
      split at hStep
      · rename_i hReturned
        cases hStep
        exact .leave hReturned
      · cases hStep

------------------------------------------------------------
-- Safe Service
------------------------------------------------------------

variable {M : Machine σ ε ο} {fate : σ → ε → σ → Fate}
variable {gone clean : σ → Nat → Prop} {stopped : σ → Prop}
variable {cond : σ → ε → Prop}
variable {es : List (Event ε)} {h : List (Obs ο)}
variable {s : Serving σ}

/-
  No task has panicked, each handler that is over has
  returned to its task and left all clean, and the machine
  has not stopped.
-/
structure Safe
    (gone clean : σ → Nat → Prop)
    (stopped : σ → Prop)
    (s : Serving σ) : Prop where
  noPanic : ∀ c, s.task c ≠ .panicked
  returned : ∀ c, gone s.inner c →
    s.task c = .returned ∨ s.task c = .left
  leftClean : ∀ c, gone s.inner c → clean s.inner c
  runs : ¬ stopped s.inner

/- A condition on the steps of the machine. -/
def Inner
    (cond : σ → ε → Prop)
    (s : Serving σ) : Event ε → Prop
| .inner e => cond s.inner e
| .leave _ => True

/-
  Handlers are over by these fates only, and a step makes no
  task panic, leaves all clean and does not stop the machine
  exactly when it meets the condition.
-/
structure Panics
    (M : Machine σ ε ο)
    (fate : σ → ε → σ → Fate)
    (gone clean : σ → Nat → Prop)
    (stopped : σ → Prop)
    (cond : σ → ε → Prop) : Prop where
  fresh : ∀ c, ¬ gone M.init c
  runs : ¬ stopped M.init
  gone_step : ∀ {s e s' o c},
    M.step s e = some (s', o) → gone s' c →
      fate s e s' ≠ .accepted c ∧
        (gone s c ∨ fate s e s' = .returned c ∨
          fate s e s' = .panicked c)
  step_iff : ∀ {s e s' o},
    (∀ c, gone s c → clean s c) → ¬ stopped s →
      M.step s e = some (s', o) →
        ((∀ c, fate s e s' ≠ .panicked c) ∧
            (∀ c, gone s' c → clean s' c) ∧ ¬ stopped s' ↔
          cond s e)

/-
  A condition for the tasks and the machine, with one for
  what is left behind if no task panics.
-/
theorem step_iff_of_parts
    {noPanic allClean runs fits cleans : Prop}
    (hTasks : noPanic ∧ runs ↔ fits)
    (hClean : noPanic → (allClean ↔ cleans)) :
    noPanic ∧ allClean ∧ runs ↔ fits ∧ cleans := by
  constructor
  · rintro ⟨hNone, hAll, hRuns⟩
    exact ⟨hTasks.mp ⟨hNone, hRuns⟩,
      (hClean hNone).mp hAll⟩
  · rintro ⟨hFits, hCleans⟩
    rcases hTasks.mpr hFits with ⟨hNone, hRuns⟩
    exact ⟨hNone, (hClean hNone).mpr hCleans, hRuns⟩

/- A task that moves on does not panic. -/
theorem not_panicked_update
    {task : Nat → Task}
    {c : Nat}
    {next : Task}
    (hTasks : ∀ d, task d ≠ .panicked)
    (hNext : next ≠ .panicked) :
    ∀ d, Function.update task c next d ≠ .panicked := by
  intro d
  by_cases hSame : d = c
  · rw [hSame, Function.update_self]
    exact hNext
  · rw [Function.update_of_ne hSame]
    exact hTasks d

/- No task panics after a fate that is no panic. -/
theorem not_panicked_after_iff
    {inner : σ}
    {next : Fate}
    (hTasks : ∀ c, s.task c ≠ .panicked) :
    (∀ c, (s.after inner next).task c ≠ .panicked) ↔
      ∀ c, next ≠ .panicked c := by
  cases next with
  | none => exact iff_of_true hTasks nofun
  | accepted c =>
      exact iff_of_true
        (not_panicked_update hTasks nofun) nofun
  | returned c =>
      exact iff_of_true
        (not_panicked_update hTasks nofun) nofun
  | panicked c =>
      apply iff_of_false
      · intro hNone
        exact hNone c (Function.update_self ..)
      · intro hNone
        exact hNone c rfl

/-
  The task of a client whose handler is over has returned,
  left or panicked.
-/
theorem task_of_over
    (hPanics : Panics M fate gone clean stopped cond)
    (hRun : (served M fate).Run es h s)
    {c : Nat}
    (hGone : gone s.inner c) :
    s.task c = .returned ∨ s.task c = .left ∨
      s.task c = .panicked := by
  refine Machine.run_invariant
    (motive := fun _ s => ∀ c, gone s.inner c →
      s.task c = .returned ∨ s.task c = .left ∨
        s.task c = .panicked)
    (fun c hGone => absurd hGone (hPanics.fresh c)) ?_ hRun c
    hGone
  intro h s event s' o ih hNext c hGone
  cases served_cases hNext with
  | inner hInner =>
      rw [Serving.inner_after] at hGone
      rcases hPanics.gone_step hInner hGone with ⟨hNew, hCause⟩
      rcases hCause with hBefore | hReturned | hPanicked
      · have hKept := ih c hBefore
        generalize hFate : fate s.inner _ _ = next at hNew
        cases next with
        | none => exact hKept
        | accepted d =>
            have hOther : c ≠ d := by
              rintro rfl
              exact hNew rfl
            simpa only [Serving.after,
              Function.update_of_ne hOther] using hKept
        | returned d =>
            by_cases hSame : c = d
            · subst hSame
              exact Or.inl (Function.update_self ..)
            · simpa only [Serving.after,
                Function.update_of_ne hSame] using hKept
        | panicked d =>
            by_cases hSame : c = d
            · subst hSame
              exact Or.inr (Or.inr (Function.update_self ..))
            · simpa only [Serving.after,
                Function.update_of_ne hSame] using hKept
      · rw [hReturned]
        exact Or.inl (Function.update_self ..)
      · rw [hPanicked]
        exact Or.inr (Or.inr (Function.update_self ..))
  | @leave d hReturned =>
      by_cases hSame : c = d
      · subst hSame
        exact Or.inr (Or.inl (Function.update_self ..))
      · simp only [Function.update_of_ne hSame]
        exact ih c hGone

/-
  The clients are safe in all states of a run exactly when
  all the steps of the machine meet the condition.
-/
def SafeExactly
    (M : Machine σ ε ο)
    (fate : σ → ε → σ → Fate)
    (gone clean : σ → Nat → Prop)
    (stopped : σ → Prop)
    (cond : σ → ε → Prop) : Prop :=
  ∀ es h s, (served M fate).Run es h s →
    ((served M fate).Always (Safe gone clean stopped)
        (served M fate).init es ↔
      (served M fate).Meets (Inner cond)
        (served M fate).init es)

theorem Panics.safeExactly
    (hPanics : Panics M fate gone clean stopped cond) :
    SafeExactly M fate gone clean stopped cond := by
  intro es h s hRun
  have hInit : Safe gone clean stopped (served M fate).init :=
    ⟨nofun, fun c hGone => absurd hGone (hPanics.fresh c),
      fun c hGone => absurd hGone (hPanics.fresh c),
      hPanics.runs⟩
  refine Machine.always_iff_meets hInit ?_ hRun
  intro es h s event s' o hBefore hGood hNext
  have hAfter : (served M fate).Run (es ++ [event])
      (h ++ o) s' :=
    Machine.run_snoc_iff.mpr
      ⟨h, s, o, hBefore, hNext, rfl⟩
  -- What is over has returned if it has not panicked.
  have hSafe : Safe gone clean stopped s' ↔
      (∀ c, s'.task c ≠ .panicked) ∧
        (∀ c, gone s'.inner c → clean s'.inner c) ∧
          ¬ stopped s'.inner := by
    constructor
    · exact fun hSafe =>
        ⟨hSafe.noPanic, hSafe.leftClean, hSafe.runs⟩
    · rintro ⟨hNone, hClean, hRuns⟩
      refine ⟨hNone, ?_, hClean, hRuns⟩
      intro c hGone
      rcases task_of_over hPanics hAfter hGone with
        hReturned | hLeft | hPanicked
      · exact Or.inl hReturned
      · exact Or.inr hLeft
      · exact absurd hPanicked (hNone c)
  rw [hSafe]
  cases served_cases hNext with
  | inner hInner =>
      rw [not_panicked_after_iff hGood.noPanic,
        Serving.inner_after,
        hPanics.step_iff hGood.leftClean hGood.runs hInner]
      rfl
  | @leave c hReturned =>
      exact iff_of_true
        ⟨not_panicked_update hGood.noPanic nofun,
          hGood.leftClean, hGood.runs⟩ trivial

------------------------------------------------------------
-- Leaving
------------------------------------------------------------

/-
  A client whose handler reads can close: its handler is
  over, and it is taken off the gauge and leaves.
-/
def Leaves
    (M : Machine σ ε ο)
    (fate : σ → ε → σ → Fate)
    (reading : σ → Nat → Prop)
    (close : Nat → ε)
    (ended : σ → Nat → Prop) : Prop :=
  ∀ (s : Serving σ) c, reading s.inner c →
    ∃ s' o, (served M fate).exec s
        [.inner (close c), .leave c] = some (s', o) ∧
      ended s'.inner c ∧ s'.task c = .left ∧
      s'.gauge = s.gauge - 1

theorem leaves_of_close
    {reading ended : σ → Nat → Prop}
    {close : Nat → ε}
    (hClose : ∀ {s c}, reading s c →
      ∃ s' o, M.step s (close c) = some (s', o) ∧
        fate s (close c) s' = .returned c ∧ ended s' c) :
    Leaves M fate reading close ended := by
  intro s c hReading
  rcases hClose hReading with
    ⟨inner, o, hStep, hFate, hEnded⟩
  refine ⟨{ inner := inner
            task := Function.update
              (Function.update s.task c .returned) c .left
            gauge := s.gauge - 1 },
    o.map .inner ++ [.left c], ?_, hEnded,
    Function.update_self .., rfl⟩
  simp [Machine.exec, served, hStep, hFate, Serving.after]

end Served

end Library
