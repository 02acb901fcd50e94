import SeestarProxy.Library.Annotate
import SeestarProxy.Library.Window

/-
  The traffic log of the dashboard and the stream that reads
  it.

  Any number of tasks push entries. Each takes a sequence
  number first and appends its entry later, under the lock;
  one event stream polls the log from the number after the
  last entry it got. Entries reach the stream exactly once,
  and the log stays ordered, exactly when entries are
  appended in the order of their numbers and no poll follows
  the last number that there is.

  Main declarations:
    * `LogEntry`, `Metrics` and `Metrics.logSince`
    * `Hub`, `hubStep` and `hub`
    * `Traced` and `traced`
    * `Sound`, `InOrder` and `log_exactly_once_iff`
    * `late_append_is_lost`
-/

------------------------------------------------------------
-- The Log
------------------------------------------------------------

namespace SeestarProxy

namespace Dashboard

open Library

/- The most entries that the log holds. -/
def logCapacity : Nat := 100

theorem two_le_logCapacity : 2 ≤ logCapacity := by decide

/- A single traffic log entry. -/
structure LogEntry where
  seq : UInt64
  elapsedMs : UInt64
  timestampMs : UInt64
  channel : String
  summary : String
  payload : Option String
deriving DecidableEq, Repr

/- The log of the metrics and its sequence counter. -/
structure Metrics where
  log : List LogEntry
  logSeq : UInt64

def Metrics.new : Metrics where
  log := []
  logSeq := 0

/- Take a sequence number; the counter wraps. -/
def Metrics.takeSeq (metrics : Metrics) : UInt64 × Metrics :=
  (metrics.logSeq,
    { metrics with logSeq := metrics.logSeq + 1 })

/- Append an entry, dropping the oldest one when full. -/
def Metrics.append
    (metrics : Metrics)
    (entry : LogEntry) : Metrics :=
  { metrics with
    log := pushBounded logCapacity metrics.log entry }

/- The entry has at least the number, if there is one. -/
def LogEntry.isSince
    (fromSeq : Option UInt64)
    (entry : LogEntry) : Bool :=
  match fromSeq with
  | none => true
  | some seq => decide (seq ≤ entry.seq)

/- The entries of the log from a number on, or all. -/
def Metrics.logSince
    (metrics : Metrics)
    (fromSeq : Option UInt64) : List LogEntry :=
  metrics.log.filter (LogEntry.isSince fromSeq)

/-
  Where the stream reads on after a poll; the addition wraps
  as it does in a release build.
-/
def nextLogSeq
    (fromSeq : Option UInt64)
    (entries : List LogEntry) : Option UInt64 :=
  match entries.getLast? with
  | some entry => some (entry.seq + 1)
  | none => some (fromSeq.getD 0)

------------------------------------------------------------
-- Tasks and the Stream
------------------------------------------------------------

abbrev Task := Nat

/-
  The metrics, the entries of the tasks that have a number
  and have not appended yet, and where the stream reads on.
-/
structure Hub where
  metrics : Metrics
  holding : Task → Option LogEntry
  nextLogSeq : Option UInt64

/- A task takes a number or appends; the stream polls. -/
inductive LogEvent where
| take (task : Task) (elapsedMs timestampMs : UInt64)
    (channel summary : String) (payload : Option String)
| append (task : Task)
| poll

/- One step; a poll shows the entries that it delivers. -/
def hubStep
    (s : Hub) : LogEvent → Option (Hub × List (List LogEntry))
| .take task elapsedMs timestampMs channel summary payload =>
    match s.holding task with
    | some _ => none
    | none =>
        let (seq, metrics) := s.metrics.takeSeq
        some ({ s with
          metrics := metrics
          holding := Function.update s.holding task
            (some ⟨seq, elapsedMs, timestampMs, channel,
              summary, payload⟩) }, [])
| .append task =>
    match s.holding task with
    | none => none
    | some entry =>
        some ({ s with
          metrics := s.metrics.append entry
          holding :=
            Function.update s.holding task none }, [])
| .poll =>
    let entries := s.metrics.logSince s.nextLogSeq
    some ({ s with
      nextLogSeq := nextLogSeq s.nextLogSeq entries },
      [entries])

/- The log with its writers and its reader. -/
def hub : Machine Hub LogEvent (List LogEntry) where
  init := ⟨Metrics.new, fun _ => none, none⟩
  step := hubStep

------------------------------------------------------------
-- Which Entry Is Delivered When
------------------------------------------------------------

/-
  The entries of the log numbered by their appends. `due`
  are the numbers of the entries that were in the log at the
  first poll after their append; `polls` are the numbered
  entries that each poll delivered.
-/
structure Traced where
  hub : Hub
  appended : Nat
  stored : List (Nat × LogEntry)
  polled : Nat
  due : List Nat
  polls : List (List (Nat × LogEntry))

/- Note an append or a poll. -/
def Traced.next
    (w : Traced)
    (s' : Hub) : LogEvent → Traced
| .take _ _ _ _ _ _ => { w with hub := s' }
| .append task =>
    match w.hub.holding task with
    | none => { w with hub := s' }
    | some entry =>
        { w with
          hub := s'
          appended := w.appended + 1
          stored := pushBounded logCapacity w.stored
            (w.appended, entry) }
| .poll =>
    { w with
      hub := s'
      polled := w.appended
      due := w.due ++
        (w.stored.filter fun p =>
          decide (w.polled ≤ p.1)).map Prod.fst
      polls := w.polls ++
        [w.stored.filter fun p =>
          p.2.isSince w.hub.nextLogSeq] }

/- The log with notes on its entries. -/
def traced : Machine Traced LogEvent (List LogEntry) :=
  hub.annotate ⟨hub.init, 0, [], 0, [], []⟩ Traced.hub
    (fun w e s' _ => w.next s' e)

/- The number of polls that delivered an entry. -/
def Traced.deliveries (w : Traced) (number : Nat) : Nat :=
  w.polls.countP fun entries =>
    decide (number ∈ entries.map Prod.fst)

/-
  The log is strictly increasing and bounded, and every
  entry that was still there at the first poll after its
  append has been delivered by exactly one poll.
-/
structure Sound (w : Traced) : Prop where
  increasing : w.hub.metrics.log.Pairwise
    fun a b => a.seq < b.seq
  bounded : w.hub.metrics.log.length ≤ logCapacity
  once : ∀ number ∈ w.due, w.deliveries number = 1

/-
  An entry is appended after all the entries with smaller
  numbers that were appended, and a poll does not follow one
  that delivered the last number.
-/
def InOrder (w : Traced) : LogEvent → Prop
| .take _ _ _ _ _ _ => True
| .append task =>
    ∀ entry, w.hub.holding task = some entry →
      ∀ last, w.hub.metrics.log.getLast? = some last →
        last.seq < entry.seq
| .poll => w.hub.nextLogSeq = some 0 → w.polled = 0

------------------------------------------------------------
-- Steps of the Log
------------------------------------------------------------

/- The outcomes of one step. -/
inductive HubStep (s : Hub) :
    LogEvent → Hub → List (List LogEntry) → Prop
| took {task : Task} {elapsedMs timestampMs : UInt64}
    {channel summary : String} {payload : Option String}
    (hFree : s.holding task = none) :
    HubStep s
      (.take task elapsedMs timestampMs channel summary
        payload)
      { s with
        metrics := s.metrics.takeSeq.2
        holding := Function.update s.holding task
          (some ⟨s.metrics.takeSeq.1, elapsedMs, timestampMs,
            channel, summary, payload⟩) }
      []
| appended {task : Task} {entry : LogEntry}
    (hHolding : s.holding task = some entry) :
    HubStep s (.append task)
      { s with
        metrics := s.metrics.append entry
        holding := Function.update s.holding task none }
      []
| polled :
    HubStep s .poll
      { s with
        nextLogSeq := nextLogSeq s.nextLogSeq
          (s.metrics.logSince s.nextLogSeq) }
      [s.metrics.logSince s.nextLogSeq]

variable {s s' : Hub} {w : Traced}
variable {h o : List (List LogEntry)}

theorem hub_cases
    {e : LogEvent}
    (hStep : hub.step s e = some (s', o)) :
    HubStep s e s' o := by
  change hubStep s e = some (s', o) at hStep
  unfold hubStep at hStep
  split at hStep
  · split at hStep
    · cases hStep
    · rename_i hFree
      cases hStep
      exact .took hFree
  · split at hStep
    · cases hStep
    · rename_i entry hHolding
      cases hStep
      exact .appended hHolding
  · cases hStep
    exact .polled

@[simp] theorem Traced.next_hub
    (w : Traced)
    (s' : Hub)
    (e : LogEvent) :
    (w.next s' e).hub = s' := by
  unfold Traced.next
  split
  · rfl
  · split
    · rfl
    · rfl
  · rfl

/- The notes are kept beside every run of the log. -/
theorem run_traced_iff
    {es : List LogEvent} :
    hub.Run es h s ↔
      ∃ w, traced.Run es h w ∧ w.hub = s := by
  unfold traced
  refine Machine.run_annotate_iff ?_ ?_
  · rfl
  · intro w e s' _
    exact w.next_hub s' e

/- What the next poll delivers. -/
def Traced.wanted (w : Traced) : List Nat :=
  (w.stored.filter fun p =>
    p.2.isSince w.hub.nextLogSeq).map Prod.fst

/- What the next poll has to deliver. -/
def Traced.fresh (w : Traced) : List Nat :=
  (w.stored.filter fun p =>
    decide (w.polled ≤ p.1)).map Prod.fst

theorem Traced.mem_wanted_iff
    {number : Nat} :
    number ∈ w.wanted ↔
      ∃ p ∈ w.stored,
        p.2.isSince w.hub.nextLogSeq = true ∧
          p.1 = number := by
  simp only [Traced.wanted, List.mem_map, List.mem_filter,
    and_assoc]

theorem Traced.mem_fresh_iff
    {number : Nat} :
    number ∈ w.fresh ↔
      ∃ p ∈ w.stored, w.polled ≤ p.1 ∧ p.1 = number := by
  simp only [Traced.fresh, List.mem_map, List.mem_filter,
    decide_eq_true_iff, and_assoc]

theorem Traced.deliveries_poll
    (w : Traced)
    (s' : Hub)
    (number : Nat) :
    (w.next s' .poll).deliveries number =
      w.deliveries number +
        if number ∈ w.wanted then 1 else 0 := by
  unfold Traced.deliveries
  change ((w.polls ++ [w.stored.filter fun p =>
    p.2.isSince w.hub.nextLogSeq]).countP _) = _
  rw [List.countP_append, List.countP_singleton]
  by_cases hMem : number ∈ w.wanted
  · rw [if_pos hMem]
    exact congrArg _ (if_pos (decide_eq_true hMem))
  · rw [if_neg hMem]
    exact congrArg _
      (if_neg fun hIn => hMem (of_decide_eq_true hIn))

/-
  The notes fit the log: entries are numbered in the order
  of their appends, and what was there at a poll was due.
-/
structure Numbered (w : Traced) : Prop where
  log : w.stored.map Prod.snd = w.hub.metrics.log
  bounded : w.hub.metrics.log.length ≤ logCapacity
  ordered : w.stored.Pairwise fun p q => p.1 < q.1
  below : ∀ p ∈ w.stored, p.1 < w.appended
  started : w.stored = [] → w.appended = 0
  behind : w.polled ≤ w.appended
  due : ∀ number ∈ w.due, number < w.polled
  seen : ∀ p ∈ w.stored, p.1 < w.polled → p.1 ∈ w.due
  undelivered : ∀ number, w.polled ≤ number →
    w.deliveries number = 0

theorem Traced.next_append
    {task : Task}
    {entry : LogEntry}
    (hHolding : w.hub.holding task = some entry)
    (s' : Hub) :
    w.next s' (.append task) =
      { w with
        hub := s'
        appended := w.appended + 1
        stored := pushBounded logCapacity w.stored
          (w.appended, entry) } := by
  unfold Traced.next
  simp only [hHolding]

theorem Numbered.step
    {e : LogEvent}
    (hNumbered : Numbered w)
    (hStep : HubStep w.hub e s' o) :
    Numbered (w.next s' e) := by
  cases hStep with
  | took hFree =>
      exact ⟨hNumbered.log, hNumbered.bounded,
        hNumbered.ordered, hNumbered.below,
        hNumbered.started, hNumbered.behind, hNumbered.due,
        hNumbered.seen, hNumbered.undelivered⟩
  | @appended task entry hHolding =>
      rw [Traced.next_append hHolding]
      refine ⟨?_, ?_, ?_, ?_, ?_, ?_, hNumbered.due, ?_,
        hNumbered.undelivered⟩
      · rw [map_pushBounded, hNumbered.log]
        rfl
      · exact length_pushBounded_le (by decide)
          hNumbered.bounded
      · refine (pairwise_pushBounded_iff two_le_logCapacity
          hNumbered.ordered
            fun _ _ _ => Nat.lt_trans).mpr ?_
        intro last hLast
        exact hNumbered.below last
          (List.mem_of_getLast? hLast)
      · intro p hMem
        rcases mem_pushBounded hMem with hOld | rfl
        · exact Nat.lt_succ_of_lt (hNumbered.below p hOld)
        · exact Nat.lt_succ_self _
      · intro hNone
        have hLast := congrArg List.getLast? hNone
        rw [getLast?_pushBounded] at hLast
        cases hLast
      · exact Nat.le_succ_of_le hNumbered.behind
      · intro p hMem hBefore
        rcases mem_pushBounded hMem with hOld | rfl
        · exact hNumbered.seen p hOld hBefore
        · exact absurd hBefore
            (Nat.not_lt_of_le hNumbered.behind)
  | polled =>
      refine ⟨hNumbered.log, hNumbered.bounded,
        hNumbered.ordered, hNumbered.below,
        hNumbered.started, Nat.le_refl _, ?_, ?_, ?_⟩
      · intro number hMem
        rcases List.mem_append.mp hMem with hOld | hNew
        · exact Nat.lt_of_lt_of_le
            (hNumbered.due number hOld) hNumbered.behind
        · rcases Traced.mem_fresh_iff.mp hNew with
            ⟨p, hStored, _, rfl⟩
          exact hNumbered.below p hStored
      · intro p hMem hBefore
        by_cases hOld : p.1 < w.polled
        · exact List.mem_append_left _
            (hNumbered.seen p hMem hOld)
        · exact List.mem_append_right _
            (Traced.mem_fresh_iff.mpr
              ⟨p, hMem, Nat.le_of_not_lt hOld, rfl⟩)
      · intro number hAfter
        have hNone : number ∉ w.wanted := by
          intro hMem
          rcases Traced.mem_wanted_iff.mp hMem with
            ⟨p, hStored, _, rfl⟩
          exact absurd (hNumbered.below p hStored)
            (Nat.not_lt_of_le hAfter)
        rw [Traced.deliveries_poll, if_neg hNone]
        exact hNumbered.undelivered number
          (Nat.le_trans hNumbered.behind hAfter)

------------------------------------------------------------
-- Where the Stream Reads On
------------------------------------------------------------

/-
  Nothing was delivered yet, or the stream reads on after
  the last number it got, which the entries delivered so far
  do not exceed.
-/
inductive Reading (w : Traced) : Prop
| start
    (hPolled : w.polled = 0)
    (hNext : w.hub.nextLogSeq = none ∨
      w.hub.nextLogSeq = some 0)
| after {last : UInt64}
    (hPolled : 0 < w.polled)
    (hNext : w.hub.nextLogSeq = some (last + 1))
    (hLast : ∀ p, w.stored.getLast? = some p →
      last ≤ p.2.seq)
    (hSplit : ∀ p ∈ w.stored,
      last < p.2.seq ↔ w.polled ≤ p.1)

/- A successor that does not wrap. -/
private theorem succ_le_iff
    {a b : UInt64}
    (hWraps : a + 1 ≠ 0) :
    a + 1 ≤ b ↔ a < b := by
  have hSucc : (a + 1).toNat = a.toNat + 1 := by
    rw [UInt64.toNat_add]
    refine Nat.mod_eq_of_lt ?_
    have hBound := a.toNat_lt
    by_contra hLarge
    refine hWraps (UInt64.toNat_inj.mp ?_)
    rw [UInt64.toNat_add]
    change (a.toNat + 1) % 2 ^ 64 = 0
    change ¬ a.toNat + 1 < 2 ^ 64 at hLarge
    omega
  rw [UInt64.le_iff_toNat_le, UInt64.lt_iff_toNat_lt, hSucc]
  exact Nat.succ_le_iff

/- No number comes after the one that wraps. -/
private theorem not_lt_of_succ_eq_zero
    {a b : UInt64}
    (hWraps : a + 1 = 0) :
    ¬ a < b := by
  have hLast : (a.toNat + 1) % 2 ^ 64 = 0 := by
    have hZero := congrArg UInt64.toNat hWraps
    rwa [UInt64.toNat_add] at hZero
  have hBound := b.toNat_lt
  rw [UInt64.lt_iff_toNat_lt]
  omega

private theorem isSince_zero
    (entry : LogEntry) :
    entry.isSince (some 0) = true := by
  change decide (0 ≤ entry.seq) = true
  exact decide_eq_true UInt64.zero_le

/- A later entry is delivered when an earlier one is. -/
private theorem isSince_mono
    {fromSeq : Option UInt64}
    {a b : LogEntry}
    (hSince : a.isSince fromSeq = true)
    (hLe : a.seq ≤ b.seq) :
    b.isSince fromSeq = true := by
  cases fromSeq with
  | none => rfl
  | some seq =>
      refine decide_eq_true (UInt64.le_trans ?_ hLe)
      exact of_decide_eq_true hSince

/- The poll delivers what it has to, unless it wraps. -/
private theorem isSince_iff
    (hReading : Reading w)
    (hOrder : InOrder w .poll)
    {p : Nat × LogEntry}
    (hMem : p ∈ w.stored) :
    p.2.isSince w.hub.nextLogSeq = true ↔
      w.polled ≤ p.1 := by
  cases hReading with
  | start hPolled hNext =>
      rw [hPolled]
      refine iff_of_true ?_ (Nat.zero_le _)
      rcases hNext with hNone | hZero
      · rw [hNone]
        rfl
      · rw [hZero]
        exact isSince_zero p.2
  | @after last hPolled hNext hLast hSplit =>
      have hWraps : last + 1 ≠ 0 := by
        intro hZero
        rw [hZero] at hNext
        exact absurd (hOrder hNext) (Nat.ne_of_gt hPolled)
      rw [hNext, ← hSplit p hMem]
      change decide (last + 1 ≤ p.2.seq) = true ↔ _
      rw [decide_eq_true_iff, succ_le_iff hWraps]

/- A window with an entry has a last one. -/
private theorem exists_getLast
    {stored : List (Nat × LogEntry)}
    (hSome : stored ≠ []) :
    ∃ p ∈ stored, stored.getLast? = some p := by
  refine ⟨stored.getLast hSome, List.getLast_mem hSome, ?_⟩
  exact List.getLast?_eq_some_getLast hSome

/- After an append in order the stream reads on as before. -/
private theorem Reading.append
    {task : Task}
    {entry : LogEntry}
    (hNumbered : Numbered w)
    (hReading : Reading w)
    (hHolding : w.hub.holding task = some entry)
    (hOrder : ∀ last, w.hub.metrics.log.getLast? = some last →
      last.seq < entry.seq)
    (hSame : s'.nextLogSeq = w.hub.nextLogSeq) :
    Reading (w.next s' (.append task)) := by
  rw [Traced.next_append hHolding]
  cases hReading with
  | start hPolled hNext =>
      exact .start hPolled (by rw [hSame]; exact hNext)
  | @after last hPolled hNext hLast hSplit =>
      have hStored : w.stored ≠ [] := by
        intro hNone
        have hBehind := hNumbered.behind
        rw [hNumbered.started hNone] at hBehind
        omega
      rcases exists_getLast hStored with ⟨p, hMem, hFinal⟩
      have hNewest : last < entry.seq := by
        refine UInt64.lt_of_le_of_lt (hLast p hFinal) ?_
        refine hOrder p.2 ?_
        rw [← hNumbered.log, List.getLast?_map, hFinal]
        rfl
      refine .after hPolled (hSame.trans hNext) ?_ ?_
      · intro q hAt
        rw [getLast?_pushBounded] at hAt
        cases hAt
        exact UInt64.le_of_lt hNewest
      · intro q hMem
        rcases mem_pushBounded hMem with hOld | rfl
        · exact hSplit q hOld
        · exact iff_of_true hNewest hNumbered.behind

/- After a poll the stream reads on after the last entry. -/
private theorem Reading.poll
    (hNumbered : Numbered w)
    (hIncreasing : w.hub.metrics.log.Pairwise
      fun a b => a.seq < b.seq)
    (hReading : Reading w)
    (hOrder : InOrder w .poll) :
    Reading (w.next
      { w.hub with
        nextLogSeq := nextLogSeq w.hub.nextLogSeq
          (w.hub.metrics.logSince w.hub.nextLogSeq) }
      .poll) := by
  have hOld {p : Nat × LogEntry} (hMem : p ∈ w.stored) :
      ¬ w.appended ≤ p.1 :=
    Nat.not_le_of_lt (hNumbered.below p hMem)
  have hLog {p : Nat × LogEntry} (hMem : p ∈ w.stored) :
      p.2 ∈ w.hub.metrics.log := by
    rw [← hNumbered.log]
    exact List.mem_map_of_mem hMem
  cases hEntries :
      (w.hub.metrics.logSince
        w.hub.nextLogSeq).getLast? with
  | none =>
      -- Nothing is new, so the stream stays where it is.
      have hNothing : ∀ p ∈ w.stored, ¬ w.polled ≤ p.1 := by
        intro p hMem hNew
        have hSince :=
          (isSince_iff hReading hOrder hMem).mpr hNew
        have hFound : p.2 ∈ w.hub.metrics.logSince
            w.hub.nextLogSeq :=
          List.mem_filter.mpr ⟨hLog hMem, hSince⟩
        rw [List.getLast?_eq_none_iff.mp hEntries] at hFound
        cases hFound
      cases hReading with
      | start hPolled hNext =>
          have hStored : w.stored = [] := by
            refine List.eq_nil_iff_forall_not_mem.mpr ?_
            intro p hMem
            exact hNothing p hMem
              (by rw [hPolled]; exact Nat.zero_le _)
          refine .start (hNumbered.started hStored)
            (Or.inr ?_)
          change nextLogSeq _ _ = _
          unfold nextLogSeq
          rw [hEntries]
          rcases hNext with hNone | hZero
          · rw [hNone]
            rfl
          · rw [hZero]
            rfl
      | @after last hPolled hNext hLast hSplit =>
          have hStays : nextLogSeq w.hub.nextLogSeq
              (w.hub.metrics.logSince w.hub.nextLogSeq) =
                some (last + 1) := by
            unfold nextLogSeq
            rw [hEntries, hNext]
            rfl
          refine .after
            (Nat.lt_of_lt_of_le hPolled hNumbered.behind)
            hStays hLast ?_
          · intro p hMem
            refine iff_of_false ?_ (hOld hMem)
            rw [hSplit p hMem]
            exact hNothing p hMem
  | some entry =>
      have hFound := List.mem_of_getLast? hEntries
      rcases List.mem_filter.mp hFound with ⟨hIn, hSince⟩
      have hAppended : 0 < w.appended := by
        rw [← hNumbered.log] at hIn
        rcases List.mem_map.mp hIn with ⟨p, hMem, _⟩
        exact Nat.lt_of_le_of_lt (Nat.zero_le _)
          (hNumbered.below p hMem)
      -- The last entry that was delivered is the newest.
      have hNewest {p : Nat × LogEntry}
          (hMem : p ∈ w.stored) : ¬ entry.seq < p.2.seq := by
        intro hLess
        have hLater : p.2.isSince w.hub.nextLogSeq = true :=
          isSince_mono hSince (UInt64.le_of_lt hLess)
        have hAlso : p.2 ∈ w.hub.metrics.logSince
            w.hub.nextLogSeq :=
          List.mem_filter.mpr ⟨hLog hMem, hLater⟩
        rcases rel_getLast (hIncreasing.filter _) hEntries
            hAlso with hSame | hBefore
        · rw [hSame] at hLess
          exact UInt64.lt_irrefl _ hLess
        · exact UInt64.lt_asymm hLess hBefore
      have hMoves : nextLogSeq w.hub.nextLogSeq
          (w.hub.metrics.logSince w.hub.nextLogSeq) =
            some (entry.seq + 1) := by
        unfold nextLogSeq
        rw [hEntries]
      refine .after hAppended hMoves ?_ ?_
      · intro p hLast
        have hFinal :
            w.hub.metrics.log.getLast? = some p.2 := by
          rw [← hNumbered.log, List.getLast?_map,
            show w.stored.getLast? = some p from hLast]
          rfl
        rcases rel_getLast hIncreasing hFinal hIn with
          rfl | hBefore
        · exact UInt64.le_refl _
        · exact UInt64.le_of_lt hBefore
      · intro p hMem
        exact iff_of_false (hNewest hMem) (hOld hMem)

------------------------------------------------------------
-- Delivered Exactly Once
------------------------------------------------------------

/- An append keeps the log ordered, or it comes too late. -/
private theorem sound_append
    {task : Task}
    {entry : LogEntry}
    (hSound : Sound w)
    (hHolding : w.hub.holding task = some entry)
    (hAfter : s'.metrics = w.hub.metrics.append entry) :
    Sound (w.next s' (.append task)) ↔
      InOrder w (.append task) := by
  have hOrdered :
      (pushBounded logCapacity w.hub.metrics.log
          entry).Pairwise (fun a b => a.seq < b.seq) ↔ _ :=
    pairwise_pushBounded_iff two_le_logCapacity
      hSound.increasing fun _ _ _ => UInt64.lt_trans
  have hLog : (w.next s' (.append task)).hub.metrics.log =
      pushBounded logCapacity w.hub.metrics.log entry := by
    rw [Traced.next_hub, hAfter]
    rfl
  constructor
  · intro hNext taken hTaken
    rw [hHolding] at hTaken
    cases hTaken
    have hIncreasing := hNext.increasing
    rw [hLog] at hIncreasing
    exact hOrdered.mp hIncreasing
  · intro hOrder
    refine ⟨?_, ?_, ?_⟩
    · rw [hLog]
      exact hOrdered.mpr (hOrder entry hHolding)
    · rw [hLog]
      exact length_pushBounded_le (by decide) hSound.bounded
    · rw [Traced.next_append hHolding]
      exact hSound.once

/- A poll delivers what is new, or it starts again. -/
private theorem sound_poll
    (hNumbered : Numbered w)
    (hReading : Reading w)
    (hSound : Sound w)
    (hLog : s'.metrics = w.hub.metrics) :
    Sound (w.next s' .poll) ↔ InOrder w .poll := by
  constructor
  · intro hNext hZero
    by_contra hPolled
    cases hReading with
    | start hNone => exact hPolled hNone
    | @after last hPositive hCursor hLast hSplit =>
        have hStored : w.stored ≠ [] := by
          intro hNone
          have hBehind := hNumbered.behind
          rw [hNumbered.started hNone] at hBehind
          omega
        rcases exists_getLast hStored with ⟨p, hMem, hFinal⟩
        -- The cursor wrapped, so no number exceeds the last.
        have hMax : ¬ last < p.2.seq := by
          rw [hCursor] at hZero
          exact not_lt_of_succ_eq_zero
            (Option.some.inj hZero)
        have hSeen : p.1 ∈ w.due :=
          hNumbered.seen p hMem (Nat.lt_of_not_le
            fun hNew => hMax ((hSplit p hMem).mpr hNew))
        have hWanted : p.1 ∈ w.wanted := by
          refine Traced.mem_wanted_iff.mpr
            ⟨p, hMem, ?_, rfl⟩
          rw [hZero]
          exact isSince_zero p.2
        have hTwice := hNext.once p.1
          (List.mem_append_left _ hSeen)
        rw [Traced.deliveries_poll, if_pos hWanted,
          hSound.once p.1 hSeen] at hTwice
        cases hTwice
  · intro hOrder
    refine ⟨?_, ?_, ?_⟩
    · rw [Traced.next_hub, hLog]
      exact hSound.increasing
    · rw [Traced.next_hub, hLog]
      exact hSound.bounded
    · intro number hMem
      rw [Traced.deliveries_poll]
      rcases List.mem_append.mp hMem with hOld | hNew
      · have hNot : number ∉ w.wanted := by
          intro hWanted
          rcases Traced.mem_wanted_iff.mp hWanted with
            ⟨p, hStored, hSince, rfl⟩
          exact absurd (hNumbered.due p.1 hOld)
            (Nat.not_lt_of_le ((isSince_iff hReading hOrder
              hStored).mp hSince))
        rw [if_neg hNot]
        exact hSound.once number hOld
      · rcases Traced.mem_fresh_iff.mp hNew with
          ⟨p, hStored, hLate, rfl⟩
        have hWanted : p.1 ∈ w.wanted :=
          Traced.mem_wanted_iff.mpr ⟨p, hStored,
            (isSince_iff hReading hOrder hStored).mpr hLate,
            rfl⟩
        rw [if_pos hWanted, hNumbered.undelivered p.1 hLate]

/- What good runs know of the log and its stream. -/
private structure Followed (w : Traced) : Prop where
  numbered : Numbered w
  reading : Reading w

private theorem followed_step
    {e : LogEvent}
    (hFollowed : Followed w)
    (hSound : Sound w)
    (hStep : HubStep w.hub e s' o) :
    (Sound (w.next s' e) ↔ InOrder w e) ∧
      (Sound (w.next s' e) → Followed (w.next s' e)) := by
  have hNumbered := hFollowed.numbered.step hStep
  cases hStep with
  | took hFree =>
      refine ⟨iff_of_true ⟨hSound.increasing,
        hSound.bounded, hSound.once⟩ trivial, ?_⟩
      intro _
      refine ⟨hNumbered, ?_⟩
      cases hFollowed.reading with
      | start hPolled hNext => exact .start hPolled hNext
      | after hPolled hNext hLast hSplit =>
          exact .after hPolled hNext hLast hSplit
  | @appended task entry hHolding =>
      have hIff : Sound (w.next
          { w.hub with
            metrics := w.hub.metrics.append entry
            holding :=
              Function.update w.hub.holding task none }
          (.append task)) ↔ _ :=
        sound_append hSound hHolding rfl
      refine ⟨hIff, ?_⟩
      intro hNext
      exact ⟨hNumbered, hFollowed.reading.append
        hFollowed.numbered hHolding
          (hIff.mp hNext entry hHolding) rfl⟩
  | polled =>
      have hIff : Sound (w.next
          { w.hub with
            nextLogSeq := nextLogSeq w.hub.nextLogSeq
              (w.hub.metrics.logSince w.hub.nextLogSeq) }
          .poll) ↔ _ :=
        sound_poll hFollowed.numbered hFollowed.reading
          hSound rfl
      refine ⟨hIff, ?_⟩
      intro hNext
      exact ⟨hNumbered, hFollowed.reading.poll
        hFollowed.numbered hSound.increasing
          (hIff.mp hNext)⟩

private theorem numbered_init : Numbered traced.init where
  log := rfl
  bounded := Nat.zero_le _
  ordered := List.Pairwise.nil
  below := fun _ hMem => by cases hMem
  started := fun _ => rfl
  behind := Nat.le_refl _
  due := fun _ hMem => by cases hMem
  seen := fun _ hMem => by cases hMem
  undelivered := fun _ _ => rfl

/- The notes are of the log and of what the polls show. -/
private theorem noted_of_run
    {es : List LogEvent}
    (hRun : traced.Run es h w) :
    Numbered w ∧ w.polls.map (List.map Prod.snd) = h := by
  refine Machine.run_invariant
    (motive := fun h w => Numbered w ∧
      w.polls.map (List.map Prod.snd) = h) ?_ ?_ hRun
  · exact ⟨numbered_init, rfl⟩
  · rintro h w e w' o ⟨hNumbered, hShown⟩ hNext
    rcases Machine.annotate_step_iff.mp hNext with
      ⟨s', hStep, rfl⟩
    have hCases := hub_cases hStep
    refine ⟨hNumbered.step hCases, ?_⟩
    cases hCases with
    | took hFree => rw [List.append_nil]; exact hShown
    | appended hHolding =>
        rw [List.append_nil, Traced.next_append hHolding]
        exact hShown
    | polled =>
        change (w.polls ++ [w.stored.filter fun p =>
          p.2.isSince w.hub.nextLogSeq]).map _ = _
        rw [List.map_append, hShown, List.map_singleton,
          Metrics.logSince, ← hNumbered.log, List.filter_map]
        rfl

/-
  What a run says about the log: in all its states the log
  is ordered and its entries are delivered exactly once,
  exactly when every append comes in the order of the
  numbers and no poll follows one that delivered the last
  number. The notes this is stated with are of the log
  itself and of the entries that the polls show.
-/
structure LogOutcome
    (es : List LogEvent)
    (h : List (List LogEntry))
    (s : Hub) : Prop where
  exactly_once_iff : traced.Always Sound traced.init es ↔
    traced.Meets InOrder traced.init es
  noted : ∃ w, traced.Run es h w ∧ w.hub = s ∧
    w.stored.map Prod.snd = s.metrics.log ∧
    w.polls.map (List.map Prod.snd) = h

theorem log_exactly_once_iff
    {es : List LogEvent}
    (hRun : hub.Run es h s) :
    LogOutcome es h s := by
  rcases run_traced_iff.mp hRun with ⟨w, hTraced, rfl⟩
  have hNoted := noted_of_run hTraced
  refine ⟨?_, ⟨w, hTraced, rfl, hNoted.1.log, hNoted.2⟩⟩
  refine Machine.always_iff_meets_of_invariant ?_
    (show Followed traced.init from ?_) ?_ hTraced
  · exact ⟨List.Pairwise.nil, Nat.zero_le _,
      fun _ hMem => by cases hMem⟩
  · exact ⟨numbered_init, .start rfl (Or.inl rfl)⟩
  · intro es h w e w' o hBefore hSound hFollowed hNext
    rcases Machine.annotate_step_iff.mp hNext with
      ⟨s', hStep, rfl⟩
    exact followed_step hFollowed hSound (hub_cases hStep)

/- A task takes the next number for an empty entry. -/
def takeNumber (task : Task) : LogEvent :=
  .take task 0 0 "ctrl-rx" "" none

theorem log_exactly_once_iff_twoTasks :
    LogOutcome
      [takeNumber 0, takeNumber 1, .append 0, .poll,
        .append 1, .poll]
      (hub.outcome [takeNumber 0, takeNumber 1, .append 0,
        .poll, .append 1, .poll]).2
      (hub.outcome [takeNumber 0, takeNumber 1, .append 0,
        .poll, .append 1, .poll]).1 :=
  log_exactly_once_iff (Machine.run_outcome (by decide))

/- The second of two tasks appends and is polled first. -/
def lateAppend : List LogEvent :=
  [takeNumber 0, takeNumber 1, .append 1, .poll, .append 0,
    .poll]

/-
  The log goes down, and the entry that came late, which the
  second poll finds in the log, is delivered by no poll.
-/
theorem late_append_is_lost :
    ∃ h w, traced.Run lateAppend h w ∧
      w.hub.metrics.log.map LogEntry.seq = [1, 0] ∧
      h.map (List.map LogEntry.seq) = [[1], []] ∧
      1 ∈ w.due ∧ w.deliveries 1 = 0 ∧ ¬ Sound w :=
  ⟨_, _, Machine.run_outcome (by decide), by decide,
    by decide, by decide, by decide,
    fun hSound => absurd (hSound.once 1 (by decide))
      (by decide)⟩

end Dashboard

end SeestarProxy
