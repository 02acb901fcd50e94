import Mathlib.Data.List.Basic
import Mathlib.Data.List.Infix

/-
  One direction of a byte stream through a copying task.

  A pipe has the stream that its near end sends, a position
  up to which the task has read it, the symbols that were
  read and not written yet, and the stream that its far end
  gets. What is written and what is in hand is what was
  read; this is a field, so that no operation can lose,
  repeat or reorder a symbol. A task that stops by itself at
  the end of its stream has written all of it; a task that
  fails or is cancelled leaves the rest.

  Main declarations:
    * `Pipe`, `Pipe.Phase` and `Pipe.fresh`
    * `Pipe.send`, `Pipe.close`, `Pipe.read`, `Pipe.write`,
      `Pipe.finish` and `Pipe.fail`
    * `Pipe.sink_front` and `Pipe.sink_of_finished`
-/

------------------------------------------------------------
-- Pipes
------------------------------------------------------------

namespace Library

namespace Pipe

/- What the copying task of a pipe is doing. -/
inductive Phase where
| absent
| copying
| finished
| failed
deriving DecidableEq, Repr

/- The task has stopped, at the end of its stream or not. -/
def Phase.IsOver : Phase → Prop
| .finished | .failed => True
| _ => False

instance (phase : Phase) : Decidable phase.IsOver := by
  cases phase <;> unfold Phase.IsOver <;> infer_instance

end Pipe

/- One direction of a stream, with its copying task. -/
structure Pipe (β : Type) where
  source : List β
  isClosed : Bool
  position : Nat
  buffer : List β
  sink : List β
  phase : Pipe.Phase
  bounded : position ≤ source.length
  carried : sink ++ buffer = source.take position
  complete : phase = .finished →
    isClosed = true ∧ buffer = [] ∧ position = source.length

namespace Pipe

variable {β : Type} {p p' : Pipe β}
variable {bytes : List β} {n : Nat}

/- A stream on which nothing was sent. -/
def fresh (β : Type) : Pipe β where
  source := []
  isClosed := false
  position := 0
  buffer := []
  sink := []
  phase := .absent
  bounded := Nat.le_refl 0
  carried := rfl
  complete := nofun

/- The near end sends, unless it has closed its stream. -/
def send
    (p : Pipe β)
    (bytes : List β) : Option (Pipe β) :=
  if hOpen : p.isClosed = false then
    some
      { p with
        source := p.source ++ bytes
        bounded := by
          rw [List.length_append]
          exact Nat.le_add_right_of_le p.bounded
        carried := by
          rw [List.take_append_of_le_length p.bounded]
          exact p.carried
        complete := by
          intro hFinished
          rw [(p.complete hFinished).1] at hOpen
          cases hOpen }
  else
    none

/- The near end closes its stream. -/
def close (p : Pipe β) : Pipe β where
  source := p.source
  isClosed := true
  position := p.position
  buffer := p.buffer
  sink := p.sink
  phase := p.phase
  bounded := p.bounded
  carried := p.carried
  complete := fun hFinished =>
    ⟨rfl, (p.complete hFinished).2⟩

/- The copying task is started. -/
def start (p : Pipe β) : Option (Pipe β) :=
  if p.phase = .absent then
    some { p with phase := .copying, complete := nofun }
  else
    none

/-
  The task reads the next `n` symbols, which have arrived,
  behind those it has in hand.
-/
def read
    (p : Pipe β)
    (n : Nat) : Option (Pipe β) :=
  if hRead : p.phase = .copying ∧ 0 < n ∧
      p.position + n ≤ p.source.length then
    some
      { p with
        position := p.position + n
        buffer := p.buffer ++
          (p.source.drop p.position).take n
        bounded := hRead.2.2
        carried := by
          rw [← List.append_assoc, p.carried, List.take_add]
        complete := by
          intro hFinished
          rw [hRead.1] at hFinished
          cases hFinished }
  else
    none

/- The task writes the first `n` symbols in hand. -/
def write
    (p : Pipe β)
    (n : Nat) : Option (Pipe β) :=
  if hWrite : p.phase = .copying ∧ 0 < n ∧
      n ≤ p.buffer.length then
    some
      { p with
        buffer := p.buffer.drop n
        sink := p.sink ++ p.buffer.take n
        carried := by
          rw [List.append_assoc, List.take_append_drop,
            p.carried]
        complete := by
          intro hFinished
          rw [hWrite.1] at hFinished
          cases hFinished }
  else
    none

/- The task stops at the end of its stream. -/
def finish (p : Pipe β) : Option (Pipe β) :=
  if hEnd : p.phase = .copying ∧ p.isClosed = true ∧
      p.buffer = [] ∧ p.position = p.source.length then
    some
      { p with
        phase := .finished
        complete := fun _ => hEnd.2 }
  else
    none

/- The task stops where it is. -/
def fail (p : Pipe β) : Option (Pipe β) :=
  if p.phase = .copying then
    some { p with phase := .failed, complete := nofun }
  else
    none

------------------------------------------------------------
-- What the Far End Gets
------------------------------------------------------------

/- The far end gets the front of what the near end sent. -/
theorem sink_front (p : Pipe β) :
    p.sink <+: p.source := by
  have hRead : p.sink <+: p.source.take p.position :=
    ⟨p.buffer, p.carried⟩
  exact hRead.trans (List.take_prefix _ _)

/- A stream that was copied to its end got through. -/
theorem sink_of_finished
    (hFinished : p.phase = .finished) :
    p.isClosed = true ∧ p.sink = p.source := by
  rcases p.complete hFinished with
    ⟨hClosed, hBuffer, hPosition⟩
  have hCarried := p.carried
  rw [hBuffer, hPosition, List.append_nil,
    List.take_length] at hCarried
  exact ⟨hClosed, hCarried⟩

------------------------------------------------------------
-- Traffic
------------------------------------------------------------

/- What happens on the pipes of a family. -/
inductive Traffic (κ β : Type) where
| sent (k : κ) (bytes : List β)
| wrote (k : κ) (bytes : List β)
| ended (k : κ) (clean : Bool)
deriving DecidableEq, Repr

/- The phase in which a task has ended. -/
def endPhase (clean : Bool) : Phase :=
  if clean = true then .finished else .failed

variable {κ : Type} {k : κ} {o : List (Traffic κ β)}

/- What an operation does to a pipe, and what it shows. -/
inductive Change
    (k : κ)
    (p p' : Pipe β) : List (Traffic κ β) → Prop
| quiet
    (hSource : p'.source = p.source)
    (hSink : p'.sink = p.sink)
    (hPhase : p'.phase = p.phase) :
    Change k p p' []
| started
    (hAbsent : p.phase = .absent)
    (hSource : p'.source = p.source)
    (hSink : p'.sink = p.sink)
    (hPhase : p'.phase = .copying) :
    Change k p p' []
| sent (bytes : List β)
    (hSource : p'.source = p.source ++ bytes)
    (hSink : p'.sink = p.sink)
    (hPhase : p'.phase = p.phase) :
    Change k p p' [.sent k bytes]
| wrote (bytes : List β)
    (hCopying : p.phase = .copying)
    (hSource : p'.source = p.source)
    (hSink : p'.sink = p.sink ++ bytes)
    (hPhase : p'.phase = p.phase) :
    Change k p p' [.wrote k bytes]
| ended (clean : Bool)
    (hCopying : p.phase = .copying)
    (hSource : p'.source = p.source)
    (hSink : p'.sink = p.sink)
    (hPhase : p'.phase = endPhase clean) :
    Change k p p' [.ended k clean]

/- A send adds to the source. -/
theorem send_change
    {bytes : List β}
    (k : κ)
    (hSend : p.send bytes = some p') :
    Change k p p' [.sent k bytes] := by
  unfold send at hSend
  split at hSend
  · cases hSend
    exact .sent bytes rfl rfl rfl
  · cases hSend

theorem close_change (k : κ) (p : Pipe β) :
    Change k p p.close [] :=
  .quiet rfl rfl rfl

/- A task that starts was not there before. -/
theorem start_some
    (hStart : p.start = some p') :
    p.phase = .absent ∧ p'.phase = .copying := by
  unfold start at hStart
  split at hStart
  · rename_i hAbsent
    cases hStart
    exact ⟨hAbsent, rfl⟩
  · cases hStart

theorem start_change
    (k : κ)
    (hStart : p.start = some p') :
    Change k p p' [] := by
  unfold start at hStart
  split at hStart
  · rename_i hAbsent
    cases hStart
    exact .started hAbsent rfl rfl rfl
  · cases hStart

/- A task that is dropped leaves the rest. -/
theorem fail_change
    (k : κ)
    (hFail : p.fail = some p') :
    p'.phase = .failed ∧
      Change k p p' [.ended k false] := by
  unfold fail at hFail
  split at hFail
  · rename_i hCopying
    cases hFail
    exact ⟨rfl, .ended false hCopying rfl rfl rfl⟩
  · cases hFail

------------------------------------------------------------
-- The Copying Task
------------------------------------------------------------

/- What a copying task does next. -/
inductive CopyEvent where
| read (n : Nat)
| write (n : Nat)
| eof
| fail
deriving DecidableEq, Repr

/- How much the task reads. -/
def CopyEvent.reads : CopyEvent → Option Nat
| .read n => some n
| .write _ | .eof | .fail => none

/- One step of the copying task of a pipe. -/
def copy
    (k : κ)
    (p : Pipe β) :
    CopyEvent → Option (Pipe β × List (Traffic κ β))
| .read n => (p.read n).map fun p' => (p', [])
| .write n =>
    (p.write n).map fun p' =>
      (p', [.wrote k (p.buffer.take n)])
| .eof => p.finish.map fun p' => (p', [.ended k true])
| .fail => p.fail.map fun p' => (p', [.ended k false])

/- The task copies, or stops, while it runs. -/
theorem copy_change
    {event : CopyEvent}
    (hCopy : copy k p event = some (p', o)) :
    p.phase = .copying ∧ Change k p p' o := by
  cases event with
  | read n =>
      rcases Option.map_eq_some_iff.mp hCopy with
        ⟨q, hRead, hEq⟩
      cases hEq
      unfold read at hRead
      split at hRead
      · rename_i hGuard
        cases hRead
        exact ⟨hGuard.1, .quiet rfl rfl rfl⟩
      · cases hRead
  | write n =>
      rcases Option.map_eq_some_iff.mp hCopy with
        ⟨q, hWrite, hEq⟩
      cases hEq
      unfold write at hWrite
      split at hWrite
      · rename_i hGuard
        cases hWrite
        exact ⟨hGuard.1, .wrote _ hGuard.1 rfl rfl rfl⟩
      · cases hWrite
  | eof =>
      rcases Option.map_eq_some_iff.mp hCopy with
        ⟨q, hFinish, hEq⟩
      cases hEq
      unfold finish at hFinish
      split at hFinish
      · rename_i hGuard
        cases hFinish
        exact ⟨hGuard.1, .ended true hGuard.1 rfl rfl rfl⟩
      · cases hFinish
  | fail =>
      rcases Option.map_eq_some_iff.mp hCopy with
        ⟨q, hFail, hEq⟩
      cases hEq
      have hChange := (fail_change k hFail).2
      cases hChange with
      | ended _ hCopying hSource hSink hPhase =>
          exact ⟨hCopying,
            .ended false hCopying hSource hSink hPhase⟩

------------------------------------------------------------
-- Programs with Pipes
------------------------------------------------------------

/- What a program shows: its own doings, or traffic. -/
inductive Shown (α κ β : Type) where
| own (x : α)
| traffic (t : Traffic κ β)
deriving DecidableEq, Repr

section Program

variable {α : Type} {h o : List (Shown α κ β)}

def Shown.traffic? : Shown α κ β → Option (Traffic κ β)
| .own _ => none
| .traffic t => some t

/- The traffic among all that a program shows. -/
def traffic (h : List (Shown α κ β)) : List (Traffic κ β) :=
  h.filterMap Shown.traffic?

@[simp] theorem traffic_append :
    traffic (h ++ o) = traffic h ++ traffic o :=
  List.filterMap_append

@[simp] theorem traffic_map (o : List (Traffic κ β)) :
    traffic (o.map fun t =>
      (.traffic t : Shown α κ β)) = o := by
  rw [traffic, List.filterMap_map]
  exact List.filterMap_some

@[simp] theorem traffic_own (x : α) :
    traffic [(.own x : Shown α κ β)] = [] := rfl

theorem mem_traffic_iff
    {t : Traffic κ β} :
    t ∈ traffic h ↔ .traffic t ∈ h := by
  rw [traffic, List.mem_filterMap]
  constructor
  · rintro ⟨x, hMem, hTraffic⟩
    cases x with
    | own x => cases hTraffic
    | traffic t' =>
        cases hTraffic
        exact hMem
  · intro hMem
    exact ⟨_, hMem, rfl⟩

end Program

------------------------------------------------------------
-- Families of Pipes
------------------------------------------------------------

section Family

variable [DecidableEq κ]
variable {h : List (Traffic κ β)} {pipe : κ → Pipe β}

/- What was sent on a pipe. -/
def sentOn (k : κ) (h : List (Traffic κ β)) : List β :=
  h.flatMap fun x =>
    match x with
    | .sent k' bytes => if k' = k then bytes else []
    | _ => []

/- What was written at the far end of a pipe. -/
def wroteOn (k : κ) (h : List (Traffic κ β)) : List β :=
  h.flatMap fun x =>
    match x with
    | .wrote k' bytes => if k' = k then bytes else []
    | _ => []

@[simp] theorem sentOn_append :
    sentOn k (h ++ o) = sentOn k h ++ sentOn k o :=
  List.flatMap_append

@[simp] theorem wroteOn_append :
    wroteOn k (h ++ o) = wroteOn k h ++ wroteOn k o :=
  List.flatMap_append

/- The traffic is that of the pipes. -/
structure Recorded
    (h : List (Traffic κ β))
    (pipe : κ → Pipe β) : Prop where
  sent : ∀ k, sentOn k h = (pipe k).source
  wrote : ∀ k, wroteOn k h = (pipe k).sink
  ended : ∀ k clean, .ended k clean ∈ h ↔
    (pipe k).phase = endPhase clean

theorem recorded_fresh :
    Recorded ([] : List (Traffic κ β))
      (fun _ => fresh β) where
  sent := fun _ => rfl
  wrote := fun _ => rfl
  ended := by
    intro k clean
    cases clean <;> simp [fresh, endPhase]

/- Each far end gets the front of what was sent to it. -/
theorem Recorded.front
    (hRecorded : Recorded h pipe)
    (k : κ) :
    wroteOn k h <+: sentOn k h := by
  rw [hRecorded.wrote k, hRecorded.sent k]
  exact (pipe k).sink_front

/- It gets all of it if the task ended by itself. -/
theorem Recorded.whole
    (hRecorded : Recorded h pipe)
    (hEnded : .ended k true ∈ h) :
    wroteOn k h = sentOn k h := by
  rw [hRecorded.wrote k, hRecorded.sent k]
  exact (sink_of_finished
    ((hRecorded.ended k true).mp hEnded)).2

/- A pipe that is over has ended in one of two ways. -/
theorem Recorded.exists_ended
    (hRecorded : Recorded h pipe)
    (hOver : (pipe k).phase.IsOver) :
    ∃ clean, .ended k clean ∈ h := by
  cases hPhase : (pipe k).phase with
  | finished =>
      exact ⟨true, (hRecorded.ended k true).mpr hPhase⟩
  | failed =>
      exact ⟨false, (hRecorded.ended k false).mpr hPhase⟩
  | absent | copying =>
      rw [hPhase] at hOver
      cases hOver

/- A pipe that has ended is over. -/
theorem Recorded.isOver
    {clean : Bool}
    (hRecorded : Recorded h pipe)
    (hEnded : .ended k clean ∈ h) :
    (pipe k).phase.IsOver := by
  rw [(hRecorded.ended k clean).mp hEnded]
  cases clean <;> trivial

/- One pipe of a recorded family changes. -/
theorem Recorded.change
    (hRecorded : Recorded h pipe)
    (hChange : Change k (pipe k) p' o) :
    Recorded (h ++ o) (Function.update pipe k p') where
  sent := by
    intro k'
    rw [sentOn_append, hRecorded.sent k']
    by_cases hKey : k' = k
    · subst hKey
      rw [Function.update_self]
      cases hChange with
      | quiet hSource => simp [sentOn, hSource]
      | started hAbsent hSource => simp [sentOn, hSource]
      | sent bytes hSource => simp [sentOn, hSource]
      | wrote bytes hCopying hSource =>
          simp [sentOn, hSource]
      | ended clean hCopying hSource =>
          simp [sentOn, hSource]
    · rw [Function.update_of_ne hKey]
      cases hChange <;> simp [sentOn, Ne.symm hKey]
  wrote := by
    intro k'
    rw [wroteOn_append, hRecorded.wrote k']
    by_cases hKey : k' = k
    · subst hKey
      rw [Function.update_self]
      cases hChange with
      | quiet hSource hSink => simp [wroteOn, hSink]
      | started hAbsent hSource hSink =>
          simp [wroteOn, hSink]
      | sent bytes hSource hSink => simp [wroteOn, hSink]
      | wrote bytes hCopying hSource hSink =>
          simp [wroteOn, hSink]
      | ended clean hCopying hSource hSink =>
          simp [wroteOn, hSink]
    · rw [Function.update_of_ne hKey]
      cases hChange <;> simp [wroteOn, Ne.symm hKey]
  ended := by
    intro k' clean
    rw [List.mem_append, hRecorded.ended k' clean]
    by_cases hKey : k' = k
    · subst hKey
      rw [Function.update_self]
      cases hChange with
      | quiet hSource hSink hPhase => simp [hPhase]
      | started hAbsent hSource hSink hPhase =>
          cases clean <;> simp [endPhase, hAbsent, hPhase]
      | sent bytes hSource hSink hPhase => simp [hPhase]
      | wrote bytes hCopying hSource hSink hPhase =>
          simp [hPhase]
      | ended clean' hCopying hSource hSink hPhase =>
          cases clean <;> cases clean' <;>
            simp [endPhase, hCopying, hPhase]
    · rw [Function.update_of_ne hKey]
      refine or_iff_left ?_
      intro hMem
      cases hChange with
      | quiet | started => cases hMem
      | sent | wrote => cases List.mem_singleton.mp hMem
      | ended =>
          cases List.mem_singleton.mp hMem
          exact hKey rfl

end Family

end Pipe

end Library
