import Mathlib.Data.List.Basic

/-
  Bounded first-in first-out channels.

  A channel has a capacity, the messages that wait in it and
  a flag for its receiver. The bound on the waiting messages
  is a field, so a channel above its capacity cannot be
  built. A send on a closed or a full channel changes
  nothing; closing drops the waiting messages.

  Main declarations:
    * `Channel`, `Channel.trySend`, `Channel.recv`
    * `Channel.Accepts` and `Channel.Blocks`
    * `Channel.trySend_sent_iff`
-/

namespace Library

------------------------------------------------------------
-- Channels
------------------------------------------------------------

/- A channel for at most `cap` waiting messages. -/
structure Channel (α : Type) (cap : Nat) where
  queue : List α
  isOpen : Bool
  bounded : queue.length ≤ cap

/- What an attempt to send does. -/
inductive SendResult (α : Type) (cap : Nat) where
| sent (channel : Channel α cap)
| full
| closed

namespace Channel

variable {α : Type} {cap : Nat}

@[ext] theorem ext
    {c d : Channel α cap}
    (hQueue : c.queue = d.queue)
    (hOpen : c.isOpen = d.isOpen) :
    c = d := by
  cases c
  cases d
  cases hQueue
  cases hOpen
  rfl

/- A new channel with a receiver and no messages. -/
def empty (α : Type) (cap : Nat) : Channel α cap where
  queue := []
  isOpen := true
  bounded := Nat.zero_le cap

/- The channel after its receiver is dropped. -/
def close (_ : Channel α cap) : Channel α cap where
  queue := []
  isOpen := false
  bounded := Nat.zero_le cap

/- A send on the channel succeeds at once. -/
def Accepts (c : Channel α cap) : Prop :=
  c.isOpen = true ∧ c.queue.length < cap

/- A send on the channel has to wait for the receiver. -/
def Blocks (c : Channel α cap) : Prop :=
  c.isOpen = true ∧ ¬ c.queue.length < cap

instance (c : Channel α cap) : Decidable c.Accepts := by
  unfold Accepts
  infer_instance

instance (c : Channel α cap) : Decidable c.Blocks := by
  unfold Blocks
  infer_instance

/- Append a message when there is room for it. -/
def trySend
    (c : Channel α cap)
    (message : α) : SendResult α cap :=
  if c.isOpen = true then
    if hRoom : c.queue.length < cap then
      .sent
        { queue := c.queue ++ [message]
          isOpen := true
          bounded := by
            simpa using Nat.succ_le_of_lt hRoom }
    else
      .full
  else
    .closed

/- Take the oldest message. -/
def recv (c : Channel α cap) :
    Option (α × Channel α cap) :=
  match hQueue : c.queue with
  | [] => none
  | message :: rest =>
      some (message,
        { queue := rest
          isOpen := c.isOpen
          bounded := by
            have hBound := c.bounded
            rw [hQueue] at hBound
            exact Nat.le_of_succ_le hBound })

------------------------------------------------------------
-- Sending
------------------------------------------------------------

@[simp] theorem empty_queue :
    (empty α cap).queue = [] := rfl

@[simp] theorem empty_isOpen :
    (empty α cap).isOpen = true := rfl

@[simp] theorem close_queue (c : Channel α cap) :
    c.close.queue = [] := rfl

@[simp] theorem close_isOpen (c : Channel α cap) :
    c.close.isOpen = false := rfl

theorem trySend_sent_iff
    {c d : Channel α cap}
    {message : α} :
    c.trySend message = .sent d ↔
      c.Accepts ∧ d.queue = c.queue ++ [message] ∧
        d.isOpen = true := by
  unfold trySend Accepts
  by_cases hOpen : c.isOpen = true
  · by_cases hRoom : c.queue.length < cap
    · simp only [hOpen, hRoom, if_true, dif_pos,
        SendResult.sent.injEq, and_true, true_and]
      constructor
      · rintro rfl
        exact ⟨rfl, rfl⟩
      · rintro ⟨hQueue, hIsOpen⟩
        exact ext hQueue.symm hIsOpen.symm
    · simp [hOpen, hRoom]
  · simp [hOpen]

theorem trySend_full_iff
    {c : Channel α cap}
    {message : α} :
    c.trySend message = .full ↔ c.Blocks := by
  unfold trySend Blocks
  by_cases hOpen : c.isOpen = true
  · by_cases hRoom : c.queue.length < cap <;>
      simp [hOpen, hRoom]
  · simp [hOpen]

theorem trySend_closed_iff
    {c : Channel α cap}
    {message : α} :
    c.trySend message = .closed ↔ c.isOpen = false := by
  unfold trySend
  by_cases hOpen : c.isOpen = true
  · by_cases hRoom : c.queue.length < cap <;>
      simp [hOpen, hRoom]
  · simp [hOpen]

/- A channel that accepts a message does not block. -/
theorem Accepts.not_blocks
    {c : Channel α cap}
    (hAccepts : c.Accepts) :
    ¬ c.Blocks :=
  fun hBlocks => hBlocks.2 hAccepts.2

/- A channel with room takes a message at its end. -/
theorem Accepts.exists_sent
    {c : Channel α cap}
    (hAccepts : c.Accepts)
    (message : α) :
    ∃ d : Channel α cap, c.trySend message = .sent d ∧
      d.queue = c.queue ++ [message] ∧ d.isOpen = true := by
  cases hSend : c.trySend message with
  | sent d =>
      have hSent := trySend_sent_iff.mp hSend
      exact ⟨d, rfl, hSent.2⟩
  | full =>
      exact absurd (trySend_full_iff.mp hSend)
        hAccepts.not_blocks
  | closed =>
      have hClosed := trySend_closed_iff.mp hSend
      rw [hAccepts.1] at hClosed
      cases hClosed

/- What waits after a send waited before or was sent. -/
theorem mem_queue_of_sent
    {c d : Channel α cap}
    {message waiting : α}
    (hSend : c.trySend message = .sent d)
    (hWaiting : waiting ∈ d.queue) :
    waiting ∈ c.queue ∨ waiting = message := by
  rw [(trySend_sent_iff.mp hSend).2.1] at hWaiting
  simpa using hWaiting

------------------------------------------------------------
-- Receiving
------------------------------------------------------------

theorem recv_some_iff
    {c d : Channel α cap}
    {message : α} :
    c.recv = some (message, d) ↔
      c.queue = message :: d.queue ∧
        d.isOpen = c.isOpen := by
  unfold recv
  split
  · rename_i hQueue
    simp [hQueue]
  · rename_i head rest hQueue
    simp only [Option.some.injEq, Prod.mk.injEq, hQueue,
      List.cons.injEq]
    constructor
    · rintro ⟨rfl, rfl⟩
      exact ⟨⟨rfl, rfl⟩, rfl⟩
    · rintro ⟨⟨rfl, hRest⟩, hIsOpen⟩
      exact ⟨rfl, ext hRest hIsOpen.symm⟩

/- Nothing is received exactly when nothing waits. -/
theorem recv_none_iff
    {c : Channel α cap} :
    c.recv = none ↔ c.queue = [] := by
  unfold recv
  split
  · rename_i hQueue
    simp [hQueue]
  · rename_i head rest hQueue
    simp [hQueue]

/- A message at the front can be received. -/
theorem exists_recv
    {c : Channel α cap}
    {message : α}
    {rest : List α}
    (hQueue : c.queue = message :: rest) :
    ∃ d : Channel α cap, c.recv = some (message, d) ∧
      d.queue = rest ∧ d.isOpen = c.isOpen := by
  cases hRecv : c.recv with
  | none =>
      rw [recv_none_iff.mp hRecv] at hQueue
      cases hQueue
  | some next =>
      rcases next with ⟨first, d⟩
      rcases recv_some_iff.mp hRecv with ⟨hBoth, hOpen⟩
      rw [hQueue] at hBoth
      cases hBoth
      exact ⟨d, rfl, rfl, hOpen⟩

/- What waits after a receive waited before. -/
theorem mem_queue_of_recv
    {c d : Channel α cap}
    {message waiting : α}
    (hRecv : c.recv = some (message, d))
    (hWaiting : waiting ∈ d.queue) :
    waiting ∈ c.queue := by
  rw [(recv_some_iff.mp hRecv).1]
  exact List.mem_cons_of_mem message hWaiting

/- What is received waited before. -/
theorem received_mem_queue
    {c d : Channel α cap}
    {message : α}
    (hRecv : c.recv = some (message, d)) :
    message ∈ c.queue := by
  rw [(recv_some_iff.mp hRecv).1]
  exact List.mem_cons_self

end Channel

end Library
