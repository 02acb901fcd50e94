import Mathlib.Data.List.Induction
import Mathlib.Logic.Function.Basic

/-
  Event-driven machines with observable steps.

  A machine answers an event with its next state and the
  observations the step makes, or with `none` when the event
  is not enabled. A run collects the observations of all its
  steps in order, so a statement about a whole run is a
  statement about its event list, its history and the state
  it ends in.

  Main declarations:
    * `Machine.exec`, `Machine.Run`, `Machine.outcome` and
      `Machine.exists_run`
    * `Machine.exec_cons_iff`, `Machine.exec_append` and
      `Machine.exec_append_iff`
    * `Machine.Reaches` and `Reaches.exec`
    * `Machine.Meets` and `Machine.Always`
    * `Machine.run_induction`, `Machine.exec_keeps`,
      `Machine.exec_serves` and `Machine.exec_simulates`
    * `Machine.stepsOf`, `stepsOf_first` and `stepsOf_all`
    * `Machine.guarded_induction` and `Machine.meets_congr`
    * `Machine.history_iff_meets`
    * `Machine.always_iff_meets_of_invariant` and
      `Machine.always_iff_meets`
    * `update_eq_or` and `of_update`
-/

namespace Library

/- A machine over states `σ`, events `ε`, observations `ο`. -/
structure Machine (σ ε ο : Type) where
  init : σ
  step : σ → ε → Option (σ × List ο)

namespace Machine

variable {σ ε ο : Type}

------------------------------------------------------------
-- Runs
------------------------------------------------------------

/- Execute a list of events, collecting the observations. -/
def exec (M : Machine σ ε ο) :
    σ → List ε → Option (σ × List ο)
| s, [] => some (s, [])
| s, e :: es =>
    match M.step s e with
    | none => none
    | some (s', o) =>
        match M.exec s' es with
        | none => none
        | some (s'', o') => some (s'', o ++ o')

/- A run of the machine from its initial state. -/
def Run
    (M : Machine σ ε ο)
    (es : List ε)
    (h : List ο)
    (s : σ) : Prop :=
  M.exec M.init es = some (s, h)

/-
  Where a list of events leads and what it shows; nothing
  when some event is not enabled.
-/
def outcome
    (M : Machine σ ε ο)
    (es : List ε) : σ × List ο :=
  (M.exec M.init es).getD (M.init, [])

theorem run_outcome
    {M : Machine σ ε ο}
    {es : List ε}
    (hEnabled : (M.exec M.init es).isSome = true) :
    M.Run es (M.outcome es).2 (M.outcome es).1 := by
  rw [Run, outcome]
  cases hExec : M.exec M.init es with
  | none => simp [hExec] at hEnabled
  | some last => rfl

/- A run with a property, by evaluating the run once. -/
theorem exists_run
    {M : Machine σ ε ο}
    {es : List ε}
    {good : List ο → σ → Prop}
    [∀ h s, Decidable (good h s)]
    (hGood :
      ((M.exec M.init es).any fun last =>
        decide (good last.2 last.1)) = true) :
    ∃ h s, M.Run es h s ∧ good h s := by
  rcases (Option.any_eq_true_iff_get _ _).mp hGood with
    ⟨hSome, hDecide⟩
  refine ⟨_, _, ?_, of_decide_eq_true hDecide⟩
  exact (Option.some_get hSome).symm

theorem exec_snoc
    (M : Machine σ ε ο)
    (e : ε) :
    ∀ (es : List ε) (s : σ),
      M.exec s (es ++ [e]) =
        match M.exec s es with
        | none => none
        | some (s', o) =>
            match M.step s' e with
            | none => none
            | some (s'', o') => some (s'', o ++ o')
| [], s => by
    cases hStep : M.step s e with
    | none => simp [exec, hStep]
    | some next => simp [exec, hStep]
| e' :: es, s => by
    cases hStep : M.step s e' with
    | none => simp [exec, hStep]
    | some next =>
        simp only [List.cons_append, exec, hStep,
          M.exec_snoc e es next.1]
        cases hExec : M.exec next.1 es with
        | none => rfl
        | some middle =>
            cases hLast : M.step middle.1 e with
            | none => simp [hLast]
            | some last => simp [hLast, List.append_assoc]

theorem run_nil_iff
    {M : Machine σ ε ο}
    {h : List ο}
    {s : σ} :
    M.Run [] h s ↔ s = M.init ∧ h = [] := by
  simp only [Run, exec, Option.some.injEq, Prod.mk.injEq]
  constructor
  · rintro ⟨rfl, rfl⟩
    exact ⟨rfl, rfl⟩
  · rintro ⟨rfl, rfl⟩
    exact ⟨rfl, rfl⟩

/- A longer run is a run followed by one enabled step. -/
theorem run_snoc_iff
    {M : Machine σ ε ο}
    {es : List ε}
    {e : ε}
    {h : List ο}
    {s : σ} :
    M.Run (es ++ [e]) h s ↔
      ∃ h₀ s₀ o, M.Run es h₀ s₀ ∧
        M.step s₀ e = some (s, o) ∧ h = h₀ ++ o := by
  have hExec := exec_snoc M e es M.init
  constructor
  · intro hRun
    rw [Run, hExec] at hRun
    cases hBefore : M.exec M.init es with
    | none => simp [hBefore] at hRun
    | some middle =>
        obtain ⟨s₀, h₀⟩ := middle
        cases hStep : M.step s₀ e with
        | none => simp [hBefore, hStep] at hRun
        | some last =>
            obtain ⟨s', o⟩ := last
            simp only [hBefore, hStep, Option.some.injEq,
              Prod.mk.injEq] at hRun
            obtain ⟨rfl, rfl⟩ := hRun
            exact ⟨h₀, s₀, o, hBefore, hStep, rfl⟩
  · rintro ⟨h₀, s₀, o, hBefore, hStep, rfl⟩
    rw [Run] at hBefore
    rw [Run, hExec, hBefore]
    simp only [hStep]

/- Some run ends in a state with the property. -/
def Reaches
    (M : Machine σ ε ο)
    (good : σ → Prop) : Prop :=
  ∃ es h s, M.Run es h s ∧ good s

/- The first step of an execution, and the rest of it. -/
theorem exec_cons_iff
    {M : Machine σ ε ο}
    {e : ε}
    {es : List ε}
    {h : List ο}
    {s s' : σ} :
    M.exec s (e :: es) = some (s', h) ↔
      ∃ s₁ o o', M.step s e = some (s₁, o) ∧
        M.exec s₁ es = some (s', o') ∧ h = o ++ o' := by
  rw [exec]
  constructor
  · intro hExec
    cases hStep : M.step s e with
    | none =>
        rw [hStep] at hExec
        cases hExec
    | some next =>
        rw [hStep] at hExec
        dsimp only at hExec
        cases hRest : M.exec next.1 es with
        | none =>
            rw [hRest] at hExec
            cases hExec
        | some last =>
            rw [hRest] at hExec
            cases hExec
            exact ⟨next.1, next.2, last.2, rfl, hRest, rfl⟩
  · rintro ⟨s₁, o, o', hStep, hRest, rfl⟩
    rw [hStep]
    dsimp only
    rw [hRest]

theorem exec_cons
    {M : Machine σ ε ο}
    {e : ε}
    {es : List ε}
    {o o' : List ο}
    {s s₁ s' : σ}
    (hStep : M.step s e = some (s₁, o))
    (hRest : M.exec s₁ es = some (s', o')) :
    M.exec s (e :: es) = some (s', o ++ o') :=
  exec_cons_iff.mpr ⟨s₁, o, o', hStep, hRest, rfl⟩

/- Two executions in a row. -/
theorem exec_append
    {M : Machine σ ε ο}
    {es es' : List ε}
    {h o : List ο}
    {s s' s'' : σ}
    (hFirst : M.exec s es = some (s', h))
    (hSecond : M.exec s' es' = some (s'', o)) :
    M.exec s (es ++ es') = some (s'', h ++ o) := by
  induction es generalizing s h with
  | nil =>
      simp only [exec, Option.some.injEq,
        Prod.mk.injEq] at hFirst
      rcases hFirst with ⟨rfl, rfl⟩
      simpa using hSecond
  | cons e es ih =>
      rcases exec_cons_iff.mp hFirst with
        ⟨s₁, o₁, o₂, hStep, hRest, rfl⟩
      rw [List.append_assoc]
      exact exec_cons hStep (ih hRest)

/- A run goes on with the events that follow it. -/
theorem Run.append
    {M : Machine σ ε ο}
    {es es' : List ε}
    {h o : List ο}
    {s s' : σ}
    (hRun : M.Run es h s)
    (hExec : M.exec s es' = some (s', o)) :
    M.Run (es ++ es') (h ++ o) s' :=
  exec_append hRun hExec

/- A reachable state leads on to the next one. -/
theorem Reaches.exec
    {M : Machine σ ε ο}
    {good good' : σ → Prop}
    (hReaches : M.Reaches good)
    (hExec : ∀ es h s, M.Run es h s → good s →
      ∃ es' s' o, M.exec s es' = some (s', o) ∧ good' s') :
    M.Reaches good' := by
  rcases hReaches with ⟨es, h, s, hRun, hGood⟩
  rcases hExec es h s hRun hGood with
    ⟨es', s', o, hNext, hGood'⟩
  exact ⟨es ++ es', h ++ o, s', hRun.append hNext, hGood'⟩

/- Induction on the steps of a run, the last step outermost. -/
theorem run_induction
    {M : Machine σ ε ο}
    {motive : List ε → List ο → σ → Prop}
    (init : motive [] [] M.init)
    (step : ∀ es h s e s' o,
      M.Run es h s → motive es h s →
        M.step s e = some (s', o) →
          motive (es ++ [e]) (h ++ o) s') :
    ∀ {es h s}, M.Run es h s → motive es h s := by
  intro es
  induction es using List.reverseRecOn with
  | nil =>
      intro h s hRun
      obtain ⟨rfl, rfl⟩ := run_nil_iff.mp hRun
      exact init
  | append_singleton es e ih =>
      intro h s hRun
      obtain ⟨h₀, s₀, o, hBefore, hStep, rfl⟩ :=
        run_snoc_iff.mp hRun
      exact step es h₀ s₀ e s o hBefore (ih hBefore) hStep

/-
  A relation between history and state that holds initially
  and that every step keeps holds at the end of every run.
-/
theorem run_invariant
    {M : Machine σ ε ο}
    {motive : List ο → σ → Prop}
    (hInit : motive [] M.init)
    (hStep : ∀ h s e s' o, motive h s →
      M.step s e = some (s', o) → motive (h ++ o) s')
    {es : List ε}
    {h : List ο}
    {s : σ}
    (hRun : M.Run es h s) :
    motive h s :=
  run_induction (motive := fun _ h s => motive h s) hInit
    (fun _ h s e s' o _ hInv hNext =>
      hStep h s e s' o hInv hNext) hRun

/- An execution of two lists, one after the other. -/
theorem exec_append_iff
    {M : Machine σ ε ο}
    {es es' : List ε}
    {h : List ο}
    {s s'' : σ} :
    M.exec s (es ++ es') = some (s'', h) ↔
      ∃ s' o o', M.exec s es = some (s', o) ∧
        M.exec s' es' = some (s'', o') ∧ h = o ++ o' := by
  constructor
  · intro hExec
    induction es generalizing s h with
    | nil => exact ⟨s, [], h, rfl, hExec, rfl⟩
    | cons e es ih =>
        rcases exec_cons_iff.mp hExec with
          ⟨s₁, o₁, h₁, hStep, hRest, rfl⟩
        rcases ih hRest with
          ⟨s', o, o', hFirst, hSecond, rfl⟩
        exact ⟨s', o₁ ++ o, o', exec_cons hStep hFirst,
          hSecond, (List.append_assoc _ _ _).symm⟩
  · rintro ⟨s', o, o', hFirst, hSecond, rfl⟩
    exact exec_append hFirst hSecond

/- An execution after a step that is known. -/
theorem exec_of_cons
    {M : Machine σ ε ο}
    {e : ε}
    {es : List ε}
    {o h : List ο}
    {s s₁ s' : σ}
    (hStep : M.step s e = some (s₁, o))
    (hExec : M.exec s (e :: es) = some (s', h)) :
    ∃ o', M.exec s₁ es = some (s', o') ∧ h = o ++ o' := by
  rcases exec_cons_iff.mp hExec with
    ⟨s₂, p, o', hFirst, hRest, rfl⟩
  cases hStep.symm.trans hFirst
  exact ⟨o', hRest, rfl⟩

/- One step is an execution. -/
theorem exec_one
    {M : Machine σ ε ο}
    {e : ε}
    {o : List ο}
    {s s' : σ}
    (hStep : M.step s e = some (s', o)) :
    M.exec s [e] = some (s', o) := by
  rw [exec, hStep]
  exact congrArg (fun x => some (s', x)) (List.append_nil o)

/-
  What every step with such an event keeps is kept by an
  execution of such events, and what every such step shows
  of it, the execution shows.
-/
theorem exec_keeps_among
    {M : Machine σ ε ο}
    {among : ε → Prop}
    {keeps : σ → Prop}
    {shows : ο → Prop}
    (hStep : ∀ s e s' o, keeps s → among e →
      M.step s e = some (s', o) →
        keeps s' ∧ ∀ x ∈ o, shows x)
    {es : List ε}
    {h : List ο}
    {s s' : σ}
    (hAmong : ∀ e ∈ es, among e)
    (hKeeps : keeps s)
    (hExec : M.exec s es = some (s', h)) :
    keeps s' ∧ ∀ x ∈ h, shows x := by
  induction es generalizing s h with
  | nil =>
      cases hExec
      exact ⟨hKeeps, nofun⟩
  | cons e es ih =>
      rcases exec_cons_iff.mp hExec with
        ⟨s₁, o, o', hNext, hRest, rfl⟩
      rcases hStep s e s₁ o hKeeps
        (hAmong e List.mem_cons_self) hNext with
        ⟨hAfter, hFirst⟩
      rcases ih (fun e hMem =>
        hAmong e (List.mem_cons_of_mem _ hMem)) hAfter hRest
        with ⟨hEnd, hOthers⟩
      refine ⟨hEnd, fun x hMem => ?_⟩
      rcases List.mem_append.mp hMem with hOld | hNew
      · exact hFirst x hOld
      · exact hOthers x hNew

/- The same, where the events are not limited. -/
theorem exec_keeps
    {M : Machine σ ε ο}
    {keeps : σ → Prop}
    {shows : ο → Prop}
    (hStep : ∀ s e s' o, keeps s →
      M.step s e = some (s', o) →
        keeps s' ∧ ∀ x ∈ o, shows x)
    {es : List ε}
    {h : List ο}
    {s s' : σ}
    (hKeeps : keeps s)
    (hExec : M.exec s es = some (s', h)) :
    keeps s' ∧ ∀ x ∈ h, shows x :=
  exec_keeps_among
    (fun s e s' o hBefore _ hNext =>
      hStep s e s' o hBefore hNext)
    (fun _ _ => trivial) hKeeps hExec

/-
  What is pending stays so up to the step that serves it, if
  every step leaves it pending or serves it.
-/
theorem exec_serves
    {M : Machine σ ε ο}
    {pending : σ → Prop}
    {serves : ο → Prop}
    (hStep : ∀ s e s' o, pending s →
      M.step s e = some (s', o) →
        pending s' ∨ ∃ x ∈ o, serves x)
    {es : List ε}
    {h : List ο}
    {s s' : σ}
    (hPending : pending s)
    (hExec : M.exec s es = some (s', h)) :
    pending s' ∨ ∃ x ∈ h, serves x := by
  induction es generalizing s h with
  | nil =>
      cases hExec
      exact .inl hPending
  | cons e es ih =>
      rcases exec_cons_iff.mp hExec with
        ⟨s₁, o, o', hNext, hRest, rfl⟩
      rcases hStep s e s₁ o hPending hNext with
        hAfter | ⟨x, hMem, hServed⟩
      · rcases ih hAfter hRest with hEnd | ⟨x, hMem, hServed⟩
        · exact .inl hEnd
        · exact .inr
            ⟨x, List.mem_append_right _ hMem, hServed⟩
      · exact .inr ⟨x, List.mem_append_left _ hMem, hServed⟩

/-
  A machine that answers every step of another one with an
  execution answers all its executions.
-/
theorem exec_simulates
    {τ δ π : Type}
    {M : Machine σ ε ο}
    {N : Machine τ δ π}
    {related : τ → σ → Prop}
    (hStep : ∀ t s d t' p, related t s →
      N.step t d = some (t', p) →
        ∃ es s' o, M.exec s es = some (s', o) ∧ related t' s')
    {ds : List δ}
    {h : List π}
    {t t' : τ}
    {s : σ}
    (hRelated : related t s)
    (hExec : N.exec t ds = some (t', h)) :
    ∃ es s' o, M.exec s es = some (s', o) ∧
      related t' s' := by
  induction ds generalizing t s h with
  | nil =>
      cases hExec
      exact ⟨[], s, [], rfl, hRelated⟩
  | cons d ds ih =>
      rcases exec_cons_iff.mp hExec with
        ⟨t₁, p, p', hNext, hRest, _⟩
      rcases hStep t s d t₁ p hRelated hNext with
        ⟨es, s₁, o, hFirst, hMiddle⟩
      rcases ih hMiddle hRest with ⟨es', s', o', hLast, hEnd⟩
      exact ⟨es ++ es', s', o ++ o',
        exec_append hFirst hLast, hEnd⟩

------------------------------------------------------------
-- The Steps of One Task
------------------------------------------------------------

/- A step that was taken, and what it showed. -/
structure Taken (σ ο : Type) where
  before : σ
  after : σ
  shown : List ο

/-
  The steps with the events of one task, in an execution of
  its events among those of others.
-/
def stepsOf
    (M : Machine σ ε ο)
    (mine : ε → Bool) :
    σ → List ε → List (Taken σ ο)
| _, [] => []
| s, e :: es =>
    match M.step s e with
    | none => []
    | some (s', o) =>
        if mine e = true then
          ⟨s, s', o⟩ :: M.stepsOf mine s' es
        else
          M.stepsOf mine s' es

theorem stepsOf_cons
    {M : Machine σ ε ο}
    {mine : ε → Bool}
    {e : ε}
    {es : List ε}
    {s s' : σ}
    {o : List ο}
    (hStep : M.step s e = some (s', o)) :
    M.stepsOf mine s (e :: es) =
      if mine e = true then
        ⟨s, s', o⟩ :: M.stepsOf mine s' es
      else
        M.stepsOf mine s' es := by
  rw [stepsOf, hStep]

/-
  What the steps of the others keep holds up to the first
  step of the task, or to the end if it takes none.
-/
theorem stepsOf_first
    {M : Machine σ ε ο}
    {mine : ε → Bool}
    {waits : σ → Prop}
    (hOthers : ∀ s e s' o, waits s → mine e = false →
      M.step s e = some (s', o) → waits s')
    {es : List ε}
    {h : List ο}
    {s s' : σ}
    (hWaits : waits s)
    (hExec : M.exec s es = some (s', h)) :
    (M.stepsOf mine s es = [] ∧ waits s') ∨
      ∃ t e t' o es' h', waits t ∧ e ∈ es ∧ mine e = true ∧
        M.step t e = some (t', o) ∧ es' ⊆ es ∧
        M.exec t' es' = some (s', h') ∧
        M.stepsOf mine s es =
          ⟨t, t', o⟩ :: M.stepsOf mine t' es' := by
  induction es generalizing s h with
  | nil =>
      cases hExec
      exact .inl ⟨rfl, hWaits⟩
  | cons e es ih =>
      rcases exec_cons_iff.mp hExec with
        ⟨s₁, o, o', hStep, hRest, _⟩
      cases hMine : mine e with
      | true =>
          refine .inr ⟨s, e, s₁, o, es, o', hWaits,
            List.mem_cons_self, hMine, hStep,
            List.subset_cons_self e es, hRest, ?_⟩
          rw [stepsOf_cons hStep, if_pos hMine]
      | false =>
          have hSame : M.stepsOf mine s (e :: es) =
              M.stepsOf mine s₁ es := by
            rw [stepsOf_cons hStep, hMine]
            rfl
          rw [hSame]
          rcases ih (hOthers s e s₁ o hWaits hMine hStep)
            hRest with hNone | ⟨t, e', t', p, es', h', hAt,
              hMem, hFound, hFirst, hSub, hLast, hEq⟩
          · exact .inl hNone
          · exact .inr ⟨t, e', t', p, es', h', hAt,
              List.mem_cons_of_mem e hMem, hFound, hFirst,
              List.subset_cons_of_subset e hSub, hLast, hEq⟩

/-
  What every step keeps holds before every step of the task,
  so that each one is as the steps from such states are.
-/
theorem stepsOf_all
    {M : Machine σ ε ο}
    {mine among : ε → Bool}
    {keeps : σ → Prop}
    {good : Taken σ ο → Prop}
    (hStep : ∀ s e s' o, keeps s → among e = true →
      M.step s e = some (s', o) →
        keeps s' ∧ (mine e = true → good ⟨s, s', o⟩))
    {es : List ε}
    {s : σ}
    (hAmong : ∀ e ∈ es, among e = true)
    (hKeeps : keeps s) :
    ∀ step ∈ M.stepsOf mine s es, good step := by
  induction es generalizing s with
  | nil => nofun
  | cons e es ih =>
      intro step hMem
      rw [stepsOf] at hMem
      split at hMem
      · cases hMem
      · next s' o hNext =>
          rcases hStep s e s' o hKeeps
            (hAmong e List.mem_cons_self) hNext with
            ⟨hAfter, hGood⟩
          have hRest := ih (fun e' hOther =>
            hAmong e' (List.mem_cons_of_mem e hOther)) hAfter
          split at hMem
          · next hMine =>
              rcases List.mem_cons.mp hMem with rfl | hLater
              · exact hGood hMine
              · exact hRest step hLater
          · exact hRest step hMem

------------------------------------------------------------
-- Conditions on the Steps of a Run
------------------------------------------------------------

/-
  Every step of the execution is taken in a state in which
  the condition holds of the state and the event.
-/
def Meets
    (M : Machine σ ε ο)
    (cond : σ → ε → Prop) :
    σ → List ε → Prop
| _, [] => True
| s, e :: es =>
    cond s e ∧
      match M.step s e with
      | none => True
      | some (s', _) => M.Meets cond s' es

/- Every state of the execution has the property. -/
def Always
    (M : Machine σ ε ο)
    (good : σ → Prop) :
    σ → List ε → Prop
| s, [] => good s
| s, e :: es =>
    good s ∧
      match M.step s e with
      | none => True
      | some (s', _) => M.Always good s' es

instance decidableMeets
    (M : Machine σ ε ο)
    (cond : σ → ε → Prop)
    [∀ s e, Decidable (cond s e)] :
    ∀ s es, Decidable (M.Meets cond s es)
| _, [] => inferInstanceAs (Decidable True)
| s, e :: es =>
    match hStep : M.step s e with
    | none =>
        decidable_of_iff (cond s e) (by
          simp [Meets, hStep])
    | some (s', _) =>
        letI := decidableMeets M cond s' es
        decidable_of_iff
          (cond s e ∧ M.Meets cond s' es) (by
            simp [Meets, hStep])

theorem meets_snoc_iff
    {M : Machine σ ε ο}
    {cond : σ → ε → Prop}
    {e : ε}
    {s' : σ}
    {h : List ο} :
    ∀ {es : List ε} {s : σ},
      M.exec s es = some (s', h) →
        (M.Meets cond s (es ++ [e]) ↔
          M.Meets cond s es ∧ cond s' e) := by
  intro es
  induction es generalizing h with
  | nil =>
      intro s hExec
      simp only [exec, Option.some.injEq,
        Prod.mk.injEq] at hExec
      obtain ⟨rfl, -⟩ := hExec
      cases hStep : M.step s e with
      | none => simp [Meets, hStep]
      | some next => simp [Meets, hStep]
  | cons e' es ih =>
      intro s hExec
      rcases exec_cons_iff.mp hExec with
        ⟨s₁, o₁, o₂, hStep, hRest, -⟩
      simp only [List.cons_append, Meets, hStep, ih hRest,
        and_assoc]

theorem always_snoc_iff
    {M : Machine σ ε ο}
    {good : σ → Prop}
    {e : ε}
    {s' s'' : σ}
    {o : List ο}
    (hLast : M.step s' e = some (s'', o))
    {h : List ο} :
    ∀ {es : List ε} {s : σ},
      M.exec s es = some (s', h) →
        (M.Always good s (es ++ [e]) ↔
          M.Always good s es ∧ good s'') := by
  intro es
  induction es generalizing h with
  | nil =>
      intro s hExec
      simp only [exec, Option.some.injEq,
        Prod.mk.injEq] at hExec
      obtain ⟨rfl, -⟩ := hExec
      simp [Always, hLast]
  | cons e' es ih =>
      intro s hExec
      rcases exec_cons_iff.mp hExec with
        ⟨s₁, o₁, o₂, hStep, hRest, -⟩
      simp only [List.cons_append, Always, hStep, ih hRest,
        and_assoc]

/- What holds always holds at the end. -/
theorem always_end
    {M : Machine σ ε ο}
    {good : σ → Prop}
    {es : List ε}
    {h : List ο}
    {s : σ}
    (hRun : M.Run es h s)
    (hAlways : M.Always good M.init es) :
    good s := by
  refine run_induction
    (motive := fun es _ s =>
      M.Always good M.init es → good s)
    (fun hAlways => hAlways) ?_ hRun hAlways
  intro es h s e s' o hBefore _ hNext hAlways
  exact ((always_snoc_iff hNext hBefore).mp hAlways).2

/- Run induction when every step meets a condition. -/
theorem guarded_induction
    {M : Machine σ ε ο}
    {cond : σ → ε → Prop}
    {motive : List ε → List ο → σ → Prop}
    (init : motive [] [] M.init)
    (step : ∀ es h s e s' o,
      M.Run es h s → motive es h s → cond s e →
        M.step s e = some (s', o) →
          motive (es ++ [e]) (h ++ o) s') :
    ∀ {es h s}, M.Run es h s →
      M.Meets cond M.init es → motive es h s := by
  intro es h s hRun
  refine run_induction
    (motive := fun es h s =>
      M.Meets cond M.init es → motive es h s)
    (fun _ => init) ?_ hRun
  intro es h s e s' o hBefore ih hStep hMeets
  obtain ⟨hPrefix, hCond⟩ :=
    (meets_snoc_iff hBefore).mp hMeets
  exact step es h s e s' o hBefore (ih hPrefix) hCond hStep

/- What holds of all enabled steps holds along a run. -/
theorem meets_of_run
    {M : Machine σ ε ο}
    {cond : σ → ε → Prop}
    (hStep : ∀ s e s' o, M.step s e = some (s', o) →
      cond s e)
    {es : List ε}
    {h : List ο}
    {s : σ}
    (hRun : M.Run es h s) :
    M.Meets cond M.init es := by
  refine run_induction
    (motive := fun es _ _ => M.Meets cond M.init es)
    trivial ?_ hRun
  intro es h s e s' o hBefore ih hNext
  exact (meets_snoc_iff hBefore).mpr
    ⟨ih, hStep s e s' o hNext⟩

/- Conditions that agree on the steps of runs. -/
theorem meets_congr
    {M : Machine σ ε ο}
    {cond cond' : σ → ε → Prop}
    (hStep : ∀ s e s' o, M.step s e = some (s', o) →
      (cond s e ↔ cond' s e))
    {es : List ε}
    {h : List ο}
    {s : σ}
    (hRun : M.Run es h s) :
    M.Meets cond M.init es ↔ M.Meets cond' M.init es := by
  refine run_induction
    (motive := fun es _ _ =>
      M.Meets cond M.init es ↔ M.Meets cond' M.init es)
    (iff_of_true trivial trivial) ?_ hRun
  intro es h s e s' o hBefore ih hNext
  rw [meets_snoc_iff hBefore, meets_snoc_iff hBefore, ih,
    hStep s e s' o hNext]

/-
  When every step keeps a property of the history exactly
  when it meets the condition, the property holds of a run
  exactly when all its steps meet the condition.
-/
theorem history_iff_meets
    {M : Machine σ ε ο}
    {cond : σ → ε → Prop}
    {good : List ο → Prop}
    (hInit : good [])
    (hStep : ∀ es h s e s' o,
      M.Run es h s → M.step s e = some (s', o) →
        (good (h ++ o) ↔ good h ∧ cond s e))
    {es : List ε}
    {h : List ο}
    {s : σ}
    (hRun : M.Run es h s) :
    good h ↔ M.Meets cond M.init es := by
  refine run_induction
    (motive := fun es h _ =>
      good h ↔ M.Meets cond M.init es) ?_ ?_ hRun
  · exact iff_of_true hInit trivial
  · intro es h s e s' o hBefore ih hNext
    rw [meets_snoc_iff hBefore, ← ih]
    exact hStep es h s e s' o hBefore hNext

/-
  When the property holds initially and, from a good
  reachable state, a step leads to a good state exactly when
  it meets the condition, all states of a run are good
  exactly when all its steps meet the condition. The
  invariant is what runs through good states keep.
-/
theorem always_iff_meets_of_invariant
    {M : Machine σ ε ο}
    {cond : σ → ε → Prop}
    {good inv : σ → Prop}
    (hInit : good M.init)
    (hInv : inv M.init)
    (hStep : ∀ es h s e s' o,
      M.Run es h s → good s → inv s →
        M.step s e = some (s', o) →
          (good s' ↔ cond s e) ∧ (good s' → inv s'))
    {es : List ε}
    {h : List ο}
    {s : σ}
    (hRun : M.Run es h s) :
    M.Always good M.init es ↔
      M.Meets cond M.init es := by
  suffices hBoth :
      (M.Always good M.init es → good s ∧ inv s) ∧
        (M.Always good M.init es ↔
          M.Meets cond M.init es) from hBoth.2
  refine run_induction
    (motive := fun es _ s =>
      (M.Always good M.init es → good s ∧ inv s) ∧
        (M.Always good M.init es ↔
          M.Meets cond M.init es)) ?_ ?_ hRun
  · exact ⟨fun _ => ⟨hInit, hInv⟩,
      by simp [Always, Meets, hInit]⟩
  · intro es h s e s' o hBefore ih hNext
    have hIff (hAlways : M.Always good M.init es) :=
      hStep es h s e s' o hBefore (ih.1 hAlways).1
        (ih.1 hAlways).2 hNext
    rw [always_snoc_iff hNext hBefore,
      meets_snoc_iff hBefore]
    refine ⟨?_, ?_⟩
    · rintro ⟨hAlways, hGood⟩
      exact ⟨hGood, (hIff hAlways).2 hGood⟩
    · constructor
      · rintro ⟨hAlways, hGood⟩
        exact ⟨ih.2.mp hAlways, (hIff hAlways).1.mp hGood⟩
      · rintro ⟨hMeets, hCond⟩
        have hAlways := ih.2.mpr hMeets
        exact ⟨hAlways, (hIff hAlways).1.mpr hCond⟩

theorem always_iff_meets
    {M : Machine σ ε ο}
    {cond : σ → ε → Prop}
    {good : σ → Prop}
    (hInit : good M.init)
    (hStep : ∀ es h s e s' o,
      M.Run es h s → good s →
        M.step s e = some (s', o) →
          (good s' ↔ cond s e))
    {es : List ε}
    {h : List ο}
    {s : σ}
    (hRun : M.Run es h s) :
    M.Always good M.init es ↔
      M.Meets cond M.init es :=
  always_iff_meets_of_invariant hInit
    (show (fun _ => True) M.init from trivial)
    (fun es h s e s' o hBefore hGood _ hNext =>
      ⟨hStep es h s e s' o hBefore hGood hNext,
        fun _ => trivial⟩) hRun

end Machine

------------------------------------------------------------
-- Tables of Components
------------------------------------------------------------

/-
  After an update each component is the old one or, at the
  updated index, has the property of the new one.
-/
theorem update_eq_or
    {ι : Type}
    [DecidableEq ι]
    {α : Type}
    {f : ι → α}
    {i : ι}
    {x : α}
    {good : ι → α → Prop}
    (hNew : good i x)
    (j : ι) :
    Function.update f i x j = f j ∨
      good j (Function.update f i x j) := by
  by_cases hIndex : j = i
  · subst hIndex
    exact Or.inr (by simpa using hNew)
  · exact Or.inl (Function.update_of_ne hIndex x f)

/-
  What holds of a component after an update held before it,
  if this is so at the updated index.
-/
theorem of_update
    {ι : Type}
    [DecidableEq ι]
    {α : Type}
    {f : ι → α}
    {i : ι}
    {x : α}
    (good : ι → α → Prop)
    (hNew : good i x → good i (f i))
    (j : ι)
    (hAfter : good j (Function.update f i x j)) :
    good j (f j) := by
  by_cases hIndex : j = i
  · subst hIndex
    rw [Function.update_self] at hAfter
    exact hNew hAfter
  · rwa [Function.update_of_ne hIndex] at hAfter

end Library
