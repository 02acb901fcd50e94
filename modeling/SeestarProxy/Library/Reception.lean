import SeestarProxy.Library.Broadcast

/-
  What a receiver of a broadcast channel gets and misses.

  A reception names the positions of the messages that the
  receiver took. A message that it has passed and did not
  take was followed by as many others as the channel keeps,
  so a receiver that never falls that far behind gets every
  message since it subscribed, in order and once.

  Main declarations:
    * `Broadcast.Reception` with its operations
    * `Reception.IsWhole` and `Reception.got_eq_passed_iff`
    * `Broadcast.ReadAt`
    * `Broadcast.Listens` with its rules
-/

------------------------------------------------------------
-- Receptions
------------------------------------------------------------

namespace Library

namespace Broadcast

/-
  The messages sent, where the receiver subscribed, where it
  is, and the positions of the messages it took.
-/
structure Reception (α : Type) (cap : Nat) where
  sent : List α
  start : Nat
  position : Nat
  taken : List Nat
  started : start ≤ position
  bounded : position ≤ sent.length
  increasing : taken.Pairwise (· < ·)
  within : ∀ i ∈ taken, start ≤ i ∧ i < position
  outrun : ∀ i, start ≤ i → i < position → i ∉ taken →
    i + cap < sent.length

namespace Reception

variable {α : Type} {cap : Nat} {r : Reception α cap}
variable {sent : List α} {message : α}

/- A new receiver, behind all messages sent so far. -/
def subscribe
    (sent : List α)
    (cap : Nat) : Reception α cap where
  sent := sent
  start := sent.length
  position := sent.length
  taken := []
  started := Nat.le_refl _
  bounded := Nat.le_refl _
  increasing := List.Pairwise.nil
  within := by simp
  outrun := by
    intro i hStart hPosition
    exact absurd hStart (Nat.not_le_of_lt hPosition)

/- More messages are sent. -/
def send
    (r : Reception α cap)
    (messages : List α) : Reception α cap where
  sent := r.sent ++ messages
  start := r.start
  position := r.position
  taken := r.taken
  started := r.started
  bounded := by
    rw [List.length_append]
    exact Nat.le_add_right_of_le r.bounded
  increasing := r.increasing
  within := r.within
  outrun := by
    intro i hStart hPosition hMissed
    rw [List.length_append]
    exact Nat.lt_add_right _
      (r.outrun i hStart hPosition hMissed)

/- The receiver takes the message at its position. -/
def take
    (r : Reception α cap)
    (hLt : r.position < r.sent.length) :
    Reception α cap where
  sent := r.sent
  start := r.start
  position := r.position + 1
  taken := r.taken ++ [r.position]
  started := Nat.le_succ_of_le r.started
  bounded := hLt
  increasing := by
    rw [List.pairwise_append]
    refine ⟨r.increasing, List.pairwise_singleton _ _, ?_⟩
    intro i hTaken j hLast
    rw [List.mem_singleton.mp hLast]
    exact (r.within i hTaken).2
  within := by
    intro i hTaken
    rcases List.mem_append.mp hTaken with hOld | hLast
    · exact ⟨(r.within i hOld).1,
        Nat.lt_succ_of_lt (r.within i hOld).2⟩
    · rw [List.mem_singleton.mp hLast]
      exact ⟨r.started, Nat.lt_succ_self _⟩
  outrun := by
    intro i hStart hPosition hMissed
    rw [List.mem_append, List.mem_singleton, not_or]
      at hMissed
    have hLt : i < r.position := by omega
    exact r.outrun i hStart hLt hMissed.1

/- The receiver goes on with the oldest message kept. -/
def skip
    (r : Reception α cap)
    (hLag : r.position + cap < r.sent.length) :
    Reception α cap where
  sent := r.sent
  start := r.start
  position := r.sent.length - cap
  taken := r.taken
  started := r.started.trans (by omega)
  bounded := Nat.sub_le _ _
  increasing := r.increasing
  within := by
    intro i hTaken
    have hBefore := r.within i hTaken
    omega
  outrun := by
    intro i hStart hPosition hMissed
    omega

------------------------------------------------------------
-- What Was Got
------------------------------------------------------------

/- The messages that the receiver took. -/
def got (r : Reception α cap) : List α :=
  r.taken.filterMap fun i => r.sent[i]?

/- The messages sent between its start and its position. -/
def passed (r : Reception α cap) : List α :=
  (r.sent.take r.position).drop r.start

/- The receiver has taken all that it has passed. -/
def IsWhole (r : Reception α cap) : Prop :=
  ∀ i, r.start ≤ i → i < r.position → i ∈ r.taken

/- The positions from its start to its position. -/
def positions (r : Reception α cap) : List Nat :=
  List.range' r.start (r.position - r.start)

theorem mem_positions_iff {i : Nat} :
    i ∈ r.positions ↔ r.start ≤ i ∧ i < r.position := by
  have hStarted := r.started
  unfold positions
  rw [List.mem_range'_1]
  omega

/- The receiver took some of these positions, in order. -/
theorem taken_sublist (r : Reception α cap) :
    List.Sublist r.taken r.positions := by
  have hNodup : r.taken.Nodup :=
    r.increasing.imp Nat.ne_of_lt
  have hSubset : r.taken ⊆ r.positions := by
    intro i hTaken
    exact mem_positions_iff.mpr (r.within i hTaken)
  exact List.sublist_of_subperm_of_pairwise
    (List.subperm_of_subset hNodup hSubset)
    r.increasing List.pairwise_lt_range'

/- A whole reception took one position after the other. -/
theorem isWhole_iff_taken :
    r.IsWhole ↔ r.taken = r.positions := by
  constructor
  · intro hWhole
    have hNodup : r.positions.Nodup := List.nodup_range'
    have hSubset : r.positions ⊆ r.taken := by
      intro i hMem
      rcases mem_positions_iff.mp hMem with
        ⟨hStart, hPosition⟩
      exact hWhole i hStart hPosition
    exact r.taken_sublist.eq_of_length_le
      (List.subperm_of_subset hNodup hSubset).length_le
  · intro hTaken i hStart hPosition
    rw [hTaken]
    exact mem_positions_iff.mpr ⟨hStart, hPosition⟩

/- The messages at a stretch of positions. -/
theorem filterMap_range'
    (sent : List α)
    (start n : Nat) :
    (List.range' start n).filterMap (fun i => sent[i]?) =
      (sent.drop start).take n := by
  induction n generalizing start with
  | zero => simp
  | succ n ih =>
      rw [List.range'_succ, List.filterMap_cons, ih]
      by_cases hLt : start < sent.length
      · rw [List.getElem?_eq_getElem hLt,
          List.drop_eq_getElem_cons hLt]
        rfl
      · have hEnd : sent.length ≤ start := not_lt.mp hLt
        rw [List.getElem?_eq_none hEnd,
          List.drop_eq_nil_of_le hEnd,
          List.drop_eq_nil_of_le (Nat.le_succ_of_le hEnd)]
        simp

theorem passed_eq_filterMap :
    r.passed = r.positions.filterMap fun i => r.sent[i]? := by
  unfold passed positions
  rw [filterMap_range', List.drop_take]

theorem length_got : r.got.length = r.taken.length := by
  unfold got
  rw [List.length_filterMap_eq_countP,
    List.countP_eq_length]
  intro i hTaken
  have hLt := Nat.lt_of_lt_of_le (r.within i hTaken).2
    r.bounded
  rw [List.getElem?_eq_getElem hLt]
  rfl

theorem length_passed :
    r.passed.length = r.positions.length := by
  unfold passed positions
  rw [List.length_drop, List.length_take,
    Nat.min_eq_left r.bounded, List.length_range']

/- What the receiver got is in the order it was sent. -/
theorem got_sublist (r : Reception α cap) :
    List.Sublist r.got r.passed := by
  rw [passed_eq_filterMap]
  exact r.taken_sublist.filterMap _

/- The receiver got what it passed if it missed nothing. -/
theorem got_eq_passed_iff :
    r.got = r.passed ↔ r.IsWhole := by
  rw [isWhole_iff_taken]
  constructor
  · intro hGot
    have hLength : r.taken.length = r.positions.length := by
      rw [← length_got, hGot, length_passed]
    exact r.taken_sublist.eq_of_length hLength
  · intro hTaken
    rw [passed_eq_filterMap, ← hTaken, got]

/- A receiver that has not moved has taken nothing. -/
theorem taken_of_position_eq
    (hPosition : r.position = r.start) :
    r.taken = [] := by
  refine List.eq_nil_iff_forall_not_mem.mpr ?_
  intro i hTaken
  have hWithin := r.within i hTaken
  omega

------------------------------------------------------------
-- Steps
------------------------------------------------------------

theorem isWhole_subscribe :
    (subscribe sent cap).IsWhole := by
  intro i hStart hPosition
  exact absurd hStart (Nat.not_le_of_lt hPosition)

@[simp] theorem got_send
    (messages : List α) :
    (r.send messages).got = r.got := by
  unfold got send
  apply List.filterMap_congr
  intro i hTaken
  have hLt := Nat.lt_of_lt_of_le (r.within i hTaken).2
    r.bounded
  exact List.getElem?_append_left hLt

theorem got_take
    (hLt : r.position < r.sent.length) :
    (r.take hLt).got = r.got ++ [r.sent[r.position]] := by
  unfold got take
  rw [List.filterMap_append]
  simp [hLt]

theorem isWhole_take
    (hLt : r.position < r.sent.length) :
    (r.take hLt).IsWhole ↔ r.IsWhole := by
  constructor
  · intro hWhole i hStart hPosition
    have hTaken := hWhole i hStart
      (Nat.lt_succ_of_lt hPosition)
    rcases List.mem_append.mp hTaken with hOld | hLast
    · exact hOld
    · have hEq := List.mem_singleton.mp hLast
      omega
  · intro hWhole i hStart hPosition
    have hCases : i < r.position ∨ i = r.position :=
      Nat.lt_succ_iff_lt_or_eq.mp hPosition
    rcases hCases with hLt | rfl
    · exact List.mem_append_left _ (hWhole i hStart hLt)
    · exact List.mem_append_right _ List.mem_cons_self

/- What is skipped is never taken. -/
theorem not_isWhole_skip
    (hLag : r.position + cap < r.sent.length) :
    ¬ (r.skip hLag).IsWhole := by
  intro hWhole
  have hTaken := hWhole r.position r.started
    (show r.position < r.sent.length - cap by omega)
  exact absurd (r.within r.position hTaken).2
    (Nat.lt_irrefl _)

end Reception

------------------------------------------------------------
-- Receivers of a System
------------------------------------------------------------

/-
  The positions of the messages that a receiver got: a later
  one each time, all since it started, and what is left out
  was no longer kept.
-/
structure ReadAt
    {α : Type}
    (cap : Nat)
    (sent : List α)
    (start position : Nat)
    (got : List α)
    (taken : List Nat) : Prop where
  increasing : taken.Pairwise (· < ·)
  within : ∀ i ∈ taken, start ≤ i ∧ i < position
  read : got = taken.filterMap fun i => sent[i]?
  outrun : ∀ i, start ≤ i → i < position → i ∉ taken →
    i + cap < sent.length

/-
  A receiver of some system, by what was sent on its
  channel, where it started and is, and what it got. It has
  missed nothing exactly under the given condition.
-/
def Listens
    {α : Type}
    (cap : Nat)
    (sent : List α)
    (start position : Nat)
    (got : List α)
    (whole : Prop) : Prop :=
  ∃ r : Reception α cap,
    r.sent = sent ∧ r.start = start ∧
      r.position = position ∧ r.got = got ∧
      (r.IsWhole ↔ whole)

namespace Listens

variable {α : Type} {cap start position : Nat}
variable {sent got : List α} {message : α}
variable {whole whole' : Prop}

/- The condition may be put in another way. -/
theorem congr
    (hListens : Listens cap sent start position got whole)
    (hIff : whole ↔ whole') :
    Listens cap sent start position got whole' := by
  rcases hListens with
    ⟨r, hSent, hStart, hPosition, hGot, hWhole⟩
  exact ⟨r, hSent, hStart, hPosition, hGot,
    hWhole.trans hIff⟩

/- A receiver that has just subscribed. -/
theorem fresh
    (sent : List α)
    (cap : Nat)
    (hWhole : whole) :
    Listens cap sent sent.length sent.length [] whole :=
  ⟨.subscribe sent cap, rfl, rfl, rfl, rfl,
    iff_of_true Reception.isWhole_subscribe hWhole⟩

/- A receiver that has not moved may subscribe again. -/
theorem subscribe
    (hListens : Listens cap sent start position got whole)
    (hUnmoved : position = start) :
    Listens cap sent sent.length sent.length got whole := by
  rcases hListens with
    ⟨r, hSent, rfl, hPosition, hGot, hWhole⟩
  have hTaken := r.taken_of_position_eq
    (hPosition.trans hUnmoved)
  have hBefore : r.IsWhole := by
    intro i hFirst hLast
    omega
  have hNothing : got = [] := by
    rw [← hGot, Reception.got, hTaken]
    rfl
  refine ⟨.subscribe sent cap, rfl, rfl, rfl, ?_, ?_⟩
  · rw [hNothing]
    rfl
  · exact iff_of_true Reception.isWhole_subscribe
      (hWhole.mp hBefore)

/- More messages are sent. -/
theorem send
    (hListens : Listens cap sent start position got whole)
    (messages : List α) :
    Listens cap (sent ++ messages) start position got
      whole := by
  rcases hListens with
    ⟨r, rfl, hStart, hPosition, hGot, hWhole⟩
  refine ⟨r.send messages, rfl, hStart, hPosition, ?_,
    hWhole⟩
  rw [Reception.got_send, hGot]

/- A receive that got a message. -/
theorem received
    {position' : Nat}
    (hListens : Listens cap sent start position got whole)
    (hRecv : recv cap sent position =
      .received message position') :
    Listens cap sent start position' (got ++ [message])
      whole := by
  rcases hListens with ⟨r, rfl, hStart, rfl, rfl, hWhole⟩
  unfold recv at hRecv
  split at hRecv
  · cases hRecv
  · split at hRecv
    · rename_i hMessage
      rcases List.getElem?_eq_some_iff.mp hMessage with
        ⟨hLt, hGet⟩
      cases hRecv
      refine ⟨r.take hLt, rfl, hStart, rfl, ?_,
        (Reception.isWhole_take hLt).trans hWhole⟩
      rw [Reception.got_take, hGet]
    · cases hRecv

/- A receive that found the receiver too far behind. -/
theorem lagged
    {position' : Nat}
    (hListens : Listens cap sent start position got whole)
    (hRecv : recv cap sent position = .lagged position')
    (hNot : ¬ whole') :
    Listens cap sent start position' got whole' := by
  rcases hListens with ⟨r, rfl, hStart, rfl, rfl, -⟩
  unfold recv at hRecv
  split at hRecv
  · rename_i hLag
    cases hRecv
    exact ⟨r.skip hLag, rfl, hStart, rfl, rfl,
      iff_of_false (Reception.not_isWhole_skip hLag) hNot⟩
  · split at hRecv
    · cases hRecv
    · cases hRecv

/- A receive that found nothing: all was passed. -/
theorem position_of_empty
    (hListens : Listens cap sent start position got whole)
    (hRecv : recv cap sent position = .empty) :
    position = sent.length := by
  rcases hListens with ⟨r, rfl, -, rfl, -⟩
  unfold recv at hRecv
  split at hRecv
  · cases hRecv
  · split at hRecv
    · cases hRecv
    · rename_i hNone
      exact Nat.le_antisymm r.bounded
        (List.getElem?_eq_none_iff.mp hNone)

/- The receiver got what it passed if it missed nothing. -/
theorem got_eq_iff
    (hListens : Listens cap sent start position got whole) :
    got = (sent.take position).drop start ↔ whole := by
  rcases hListens with ⟨r, rfl, rfl, rfl, rfl, hWhole⟩
  exact Reception.got_eq_passed_iff.trans hWhole

/- Where the messages that the receiver got were. -/
theorem readAt
    (hListens : Listens cap sent start position got whole) :
    ∃ taken, ReadAt cap sent start position got taken := by
  rcases hListens with ⟨r, rfl, rfl, rfl, rfl, -⟩
  exact ⟨r.taken, r.increasing, r.within, rfl, r.outrun⟩

/- What the receiver got is in the order it was sent. -/
theorem sublist
    (hListens : Listens cap sent start position got whole) :
    List.Sublist got ((sent.take position).drop start) := by
  rcases hListens with ⟨r, rfl, rfl, rfl, rfl, -⟩
  exact r.got_sublist

end Listens

end Broadcast

end Library
