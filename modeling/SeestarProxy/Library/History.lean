import Mathlib.Data.List.Basic
import Mathlib.Data.List.Infix

/-
  Histories: the observations of a run, oldest first.

  `last` reads a history as a log of assignments and returns
  the latest value assigned to a key. It turns "each thing is
  in at most one place" into "the place that holds a thing is
  the last one the log moved it to", which `Tracks` states
  of a state and its history. `Preceded` states that every
  effect in a history has a cause before it, and `Guarded`
  that every observation fits all that came before it.

  Main declarations:
    * `last` and `last_append`
    * `Tracks`, `Tracks.unique` and `Tracks.advance`
    * `eq_of_nodup_filterMap`
    * `Preceded` and `preceded_append`
    * `Guarded` and `guarded_snoc_iff`
    * `countP_le_iff_of_keys`
-/

------------------------------------------------------------
-- Latest Assignments
------------------------------------------------------------

namespace Library

namespace History

variable {ο κ ν : Type}

section Last

variable [DecidableEq κ]

/- The latest value that a history assigns to a key. -/
def last (assign : ο → Option (κ × ν)) :
    List ο → κ → Option ν
| [], _ => none
| x :: h, k =>
    match last assign h k with
    | some v => some v
    | none =>
        match assign x with
        | some (k', v) => if k' = k then some v else none
        | none => none

variable {assign : ο → Option (κ × ν)}

@[simp] theorem last_nil (k : κ) :
    last assign [] k = none := rfl

/- A later part of the history decides first. -/
theorem last_append
    (h o : List ο)
    (k : κ) :
    last assign (h ++ o) k =
      match last assign o k with
      | some v => some v
      | none => last assign h k := by
  induction h with
  | nil => cases hLater : last assign o k <;> simp [hLater]
  | cons x h ih =>
      simp only [List.cons_append, last, ih]
      cases last assign o k <;> rfl

theorem last_append_of_none
    {h o : List ο}
    {k : κ}
    (hNone : last assign o k = none) :
    last assign (h ++ o) k = last assign h k := by
  rw [last_append, hNone]

theorem last_append_of_some
    {h o : List ο}
    {k : κ}
    {v : ν}
    (hSome : last assign o k = some v) :
    last assign (h ++ o) k = some v := by
  rw [last_append, hSome]

/- A history of observations that assign nothing. -/
theorem last_eq_none_of_forall
    {h : List ο}
    (hNone : ∀ x ∈ h, assign x = none)
    (k : κ) :
    last assign h k = none := by
  induction h with
  | nil => rfl
  | cons x h ih =>
      have hRest : last assign h k = none :=
        ih fun y hy => hNone y (List.mem_cons_of_mem x hy)
      have hHead : assign x = none :=
        hNone x List.mem_cons_self
      simp [last, hRest, hHead]

/- What is assigned last was assigned by an observation. -/
theorem exists_mem_of_last_eq_some
    {h : List ο}
    {k : κ}
    {v : ν}
    (hLast : last assign h k = some v) :
    ∃ x ∈ h, assign x = some (k, v) := by
  induction h with
  | nil => cases hLast
  | cons x h ih =>
      rw [last] at hLast
      cases hRest : last assign h k with
      | some w =>
          rw [hRest] at hLast
          cases hLast
          rcases ih hRest with ⟨y, hy, hAssign⟩
          exact ⟨y, List.mem_cons_of_mem x hy, hAssign⟩
      | none =>
          rw [hRest] at hLast
          cases hHead : assign x with
          | none => simp [hHead] at hLast
          | some pair =>
              rcases pair with ⟨k', w⟩
              simp only [hHead] at hLast
              split at hLast
              · rename_i hKey
                cases hLast
                subst hKey
                exact ⟨x, List.mem_cons_self, hHead⟩
              · cases hLast

------------------------------------------------------------
-- States that Follow the Latest Assignment
------------------------------------------------------------

/-
  Whatever a state holds for a key is the value the history
  assigned to that key last.
-/
def Tracks
    {σ : Type}
    (assign : ο → Option (κ × ν))
    (held : σ → κ → ν → Prop)
    (h : List ο)
    (s : σ) : Prop :=
  ∀ k v, held s k v → last assign h k = some v

variable {σ : Type} {held : σ → κ → ν → Prop}

/- A key is held for at most one value. -/
theorem Tracks.unique
    {h : List ο}
    {s : σ}
    (hTracks : Tracks assign held h s)
    {k : κ}
    {v w : ν}
    (hLeft : held s k v)
    (hRight : held s k w) :
    v = w := by
  have hBoth :=
    (hTracks k v hLeft).symm.trans (hTracks k w hRight)
  exact Option.some.inj hBoth

/-
  A step keeps track when all that is held after it was
  either assigned by the step, or held before and left
  alone.
-/
theorem Tracks.advance
    {h o : List ο}
    {s s' : σ}
    (hTracks : Tracks assign held h s)
    (hHeld : ∀ k v, held s' k v →
      last assign o k = some v ∨
        (last assign o k = none ∧ held s k v)) :
    Tracks assign held (h ++ o) s' := by
  intro k v hAfter
  rcases hHeld k v hAfter with hNew | ⟨hNone, hBefore⟩
  · exact last_append_of_some hNew
  · rw [last_append_of_none hNone]
    exact hTracks k v hBefore

end Last

------------------------------------------------------------
-- Keys Recorded Once
------------------------------------------------------------

/- A key that is recorded once belongs to one observation. -/
theorem eq_of_nodup_filterMap
    {f : ο → Option κ}
    {h : List ο}
    (hNodup : (h.filterMap f).Nodup)
    {x y : ο}
    {k : κ}
    (hx : x ∈ h)
    (hy : y ∈ h)
    (hKeyX : f x = some k)
    (hKeyY : f y = some k) :
    x = y := by
  induction h with
  | nil => cases hx
  | cons z h ih =>
      have hRest : (h.filterMap f).Nodup := by
        cases hHead : f z with
        | none => simpa [hHead] using hNodup
        | some k' =>
            rw [List.filterMap_cons_some hHead] at hNodup
            exact (List.nodup_cons.mp hNodup).2
      have hFresh (hHead : f z = some k) {w : ο}
          (hw : w ∈ h) : f w ≠ some k := by
        rw [List.filterMap_cons_some hHead] at hNodup
        intro hKey
        exact (List.nodup_cons.mp hNodup).1
          (List.mem_filterMap.mpr ⟨w, hw, hKey⟩)
      rcases List.mem_cons.mp hx with rfl | hxRest
      · rcases List.mem_cons.mp hy with rfl | hyRest
        · rfl
        · exact absurd hKeyY (hFresh hKeyX hyRest)
      · rcases List.mem_cons.mp hy with rfl | hyRest
        · exact absurd hKeyX (hFresh hKeyY hxRest)
        · exact ih hRest hxRest hyRest

------------------------------------------------------------
-- Causes and Effects
------------------------------------------------------------

/- Every effect of the history comes after one of its causes. -/
def Preceded
    (cause : ο → ο → Prop)
    (effect : ο → Prop)
    (h : List ο) : Prop :=
  ∀ before y after, h = before ++ y :: after → effect y →
    ∃ x ∈ before, cause x y

theorem preceded_nil
    {cause : ο → ο → Prop}
    {effect : ο → Prop} :
    Preceded cause effect [] := by
  intro before y after hSplit
  simp at hSplit

/-
  A history grows by observations whose effects have their
  causes in the part before.
-/
theorem preceded_append
    {cause : ο → ο → Prop}
    {effect : ο → Prop}
    {h o : List ο}
    (hBefore : Preceded cause effect h)
    (hNew : ∀ y ∈ o, effect y → ∃ x ∈ h, cause x y) :
    Preceded cause effect (h ++ o) := by
  intro before y after hSplit hEffect
  rcases List.append_eq_append_iff.mp hSplit with
    ⟨middle, rfl, hRest⟩ | ⟨middle, rfl, hRest⟩
  · have hMem : y ∈ o := by simp [hRest]
    obtain ⟨x, hx, hCause⟩ := hNew y hMem hEffect
    exact ⟨x, List.mem_append_left _ hx, hCause⟩
  · cases middle with
    | nil =>
        have hMem : y ∈ o := by
          simp only [List.nil_append] at hRest
          simp [← hRest]
        obtain ⟨x, hx, hCause⟩ := hNew y hMem hEffect
        exact ⟨x, by simpa using hx, hCause⟩
    | cons z middle =>
        simp only [List.cons_append,
          List.cons.injEq] at hRest
        obtain ⟨rfl, -⟩ := hRest
        exact hBefore before y middle rfl hEffect

/- A part at the front keeps its causes. -/
theorem Preceded.front
    {cause : ο → ο → Prop}
    {effect : ο → Prop}
    {h o : List ο}
    (hPreceded : Preceded cause effect (h ++ o)) :
    Preceded cause effect h := by
  intro before y after hSplit hEffect
  refine hPreceded before y (after ++ o) ?_ hEffect
  rw [hSplit, List.append_assoc, List.cons_append]

/- An effect at the end needs a cause before it. -/
theorem preceded_snoc_iff
    {cause : ο → ο → Prop}
    {effect : ο → Prop}
    {h : List ο}
    {y : ο}
    (hEffect : effect y) :
    Preceded cause effect (h ++ [y]) ↔
      Preceded cause effect h ∧ ∃ x ∈ h, cause x y := by
  constructor
  · intro hPreceded
    exact ⟨hPreceded.front, hPreceded h y [] rfl hEffect⟩
  · rintro ⟨hBefore, hCause⟩
    apply preceded_append hBefore
    intro z hz _
    rw [List.mem_singleton.mp hz]
    exact hCause

/- What has no effects needs no causes. -/
theorem preceded_quiet_iff
    {cause : ο → ο → Prop}
    {effect : ο → Prop}
    {h o : List ο}
    (hQuiet : ∀ y ∈ o, ¬ effect y) :
    Preceded cause effect (h ++ o) ↔
      Preceded cause effect h := by
  constructor
  · exact Preceded.front
  · intro hBefore
    apply preceded_append hBefore
    intro y hy hEffect
    exact absurd hEffect (hQuiet y hy)

/- Every effect in the history has a cause in it. -/
theorem Preceded.exists_cause
    {cause : ο → ο → Prop}
    {effect : ο → Prop}
    {h : List ο}
    (hPreceded : Preceded cause effect h)
    {y : ο}
    (hMem : y ∈ h)
    (hEffect : effect y) :
    ∃ x ∈ h, cause x y := by
  obtain ⟨before, after, rfl⟩ := List.append_of_mem hMem
  obtain ⟨x, hx, hCause⟩ :=
    hPreceded before y after rfl hEffect
  exact ⟨x, List.mem_append_left _ hx, hCause⟩

------------------------------------------------------------
-- What Fits the History Before It
------------------------------------------------------------

/- Every observation fits the part of the history before. -/
def Guarded
    (fits : List ο → ο → Prop)
    (h : List ο) : Prop :=
  ∀ before x after, h = before ++ x :: after →
    fits before x

theorem guarded_nil
    {fits : List ο → ο → Prop} :
    Guarded fits [] := by
  intro before x after hSplit
  simp at hSplit

/- One more observation has to fit all that came before. -/
theorem guarded_snoc_iff
    {fits : List ο → ο → Prop}
    {h : List ο}
    {x : ο} :
    Guarded fits (h ++ [x]) ↔
      Guarded fits h ∧ fits h x := by
  constructor
  · intro hGuarded
    refine ⟨?_, hGuarded h x [] rfl⟩
    intro before y after hSplit
    refine hGuarded before y (after ++ [x]) ?_
    rw [hSplit, List.append_assoc, List.cons_append]
  · rintro ⟨hGuarded, hFits⟩ before y after hSplit
    rcases List.eq_nil_or_concat after with
      rfl | ⟨rest, last, rfl⟩
    · obtain ⟨rfl, hLast⟩ :=
        List.append_inj' hSplit rfl
      cases hLast
      exact hFits
    · rw [List.concat_eq_append, ← List.cons_append,
        ← List.append_assoc] at hSplit
      obtain ⟨hFront, -⟩ := List.append_inj' hSplit rfl
      exact hGuarded before y rest hFront

------------------------------------------------------------
-- Counts by Key
------------------------------------------------------------

/-
  When only some keys are ever counted on the left, these
  keys and the prefixes of the history decide the bound.
-/
theorem countP_le_iff_of_keys
    {f g : κ → ο → Bool}
    {keys : List κ}
    {h : List ο}
    (hKeys : ∀ x ∈ h, ∀ k, f k x = true → k ∈ keys) :
    (∀ before, before <+: h → ∀ k,
      before.countP (f k) ≤ before.countP (g k)) ↔
      ∀ before ∈ h.inits, ∀ k ∈ keys,
        before.countP (f k) ≤ before.countP (g k) := by
  constructor
  · intro hAll before hBefore k _
    exact hAll before ((List.mem_inits _ _).mp hBefore) k
  · intro hAll before hBefore k
    by_cases hKey : k ∈ keys
    · exact hAll before ((List.mem_inits _ _).mpr hBefore) k
        hKey
    · have hNone : before.countP (f k) = 0 := by
        rw [List.countP_eq_zero]
        intro x hx hCounted
        exact hKey (hKeys x (hBefore.subset hx) k hCounted)
      rw [hNone]
      exact Nat.zero_le _

end History

end Library
