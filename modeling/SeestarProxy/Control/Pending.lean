import SeestarProxy.Control.Connections
import SeestarProxy.Control.Routing

/-
  The pending map.

  Client handlers, the reader and the drain change the map
  under its mutex, while ids are drawn without it. In every
  run with fewer ids than the counter can hold, the map stays
  within its limit, its keys lie between the first id and
  the counter, no insertion overwrites an entry, and a
  request that is not forwarded leaves nothing behind.

  Main declarations:
    * `ProxyStep.pending_cases`
    * `size_le_of_run`, `lookup_eq_none_of_registering`
    * `Dropped` and `dropsKept_of_run`
    * `PendingOk`, `PendingStep`, `pending_map_ok`
-/

------------------------------------------------------------
-- What a Step Does to the Map
------------------------------------------------------------

namespace SeestarProxy

namespace Control

open Library Protocol

variable {env : Env} {h o : List Obs} {s s' : State}

/- The map is left alone, gains one entry or loses a key. -/
theorem ProxyStep.pending_cases
    {e : Event}
    (hStep : ProxyStep env s e s' o) :
    s'.pending = s.pending ∨
      (∃ c seq id originalId msg forwarded,
        s.handler c =
          .registering seq id originalId msg forwarded ∧
        s.pending.size < maxPendingRequests ∧
        o = [.registered c seq] ∧
        s'.pending = s.pending.insert id
          { clientTx := c
            originalId := originalId
            seq := seq }) ∨
      ∃ key, s'.pending = s.pending.erase key := by
  cases hStep with
  | @client c event s' o hTask =>
      cases hTask with
      | registered hAt hLock hRoom =>
          exact Or.inr (Or.inl
            ⟨c, _, _, _, _, _, hAt, hRoom, rfl, rfl⟩)
      | unregistered hAt hLock =>
          exact Or.inr (Or.inr ⟨_, rfl⟩)
      | _ => exact Or.inl rfl
  | writer hTask => cases hTask <;> exact Or.inl rfl
  | heartbeat hTask => cases hTask <;> exact Or.inl rfl
  | upstream hTask =>
      cases hTask with
      | drainSent => exact Or.inr (Or.inr ⟨_, rfl⟩)
      | drainLost => exact Or.inr (Or.inr ⟨_, rfl⟩)
      | _ => exact Or.inl rfl
  | reader hTask =>
      cases hTask with
      | removed => exact Or.inr (Or.inr ⟨_, rfl⟩)
      | _ => exact Or.inl rfl
  | _ => exact Or.inl rfl

/- The map never holds more than the limit. -/
theorem size_le_of_run
    {es : List Event}
    (hRun : (proxy env).Run es h s) :
    s.pending.size ≤ maxPendingRequests := by
  refine Machine.run_induction
    (motive := fun _ _ s =>
      s.pending.size ≤ maxPendingRequests)
    (Nat.zero_le _) ?_ hRun
  intro es h s e s' o _ hBound hStep
  rcases (step_cases hStep).pending_cases with
    hSame | ⟨c, seq, id, originalId, msg, forwarded, -,
      hRoom, -, hInsert⟩ | ⟨key, hErase⟩
  · rw [hSame]
    exact hBound
  · rw [hInsert]
    exact Nat.le_trans PendingMap.size_insert_le hRoom
  · rw [hErase]
    exact Nat.le_trans PendingMap.size_erase_le hBound

------------------------------------------------------------
-- Keys
------------------------------------------------------------

/- An entry stands for a request that drew its id before. -/
theorem Provenance.entry_seq
    (hInv : Provenance env h s)
    {key : UInt64}
    {entry : PendingRequest}
    (hEntry : s.pending.lookup key = some entry) :
    entry.seq < s.allocated := by
  rcases hInv.entries key entry hEntry with ⟨msg, hReq⟩
  exact (hInv.requested hReq).2.1

/- Before the counter wraps, keys lie below it. -/
theorem keys_lt_nextId
    (hInv : Provenance env h s)
    (hIds : s.allocated + 100000 < 2 ^ 64)
    {key : UInt64}
    {entry : PendingRequest}
    (hEntry : s.pending.lookup key = some entry) :
    100000 ≤ key.toNat ∧ key.toNat < s.nextId.toNat := by
  have hSeq := hInv.entry_seq hEntry
  rw [hInv.entry_key hEntry, hInv.nextId,
    toNat_idOf (by omega), toNat_idOf hIds]
  omega

/-
  The id of a request that waits for the map is not a key of
  it: the entry of that key would stand for the same draw,
  which is still with its handler.
-/
theorem lookup_eq_none_of_registering
    (hInv : Provenance env h s)
    (hKept : replies.Kept h s)
    (hIds : s.allocated ≤ 2 ^ 64)
    {c : ClientId}
    {seq : Nat}
    {id : UInt64}
    {originalId msg : Value}
    {forwarded : String}
    (hAt : s.handler c =
      .registering seq id originalId msg forwarded) :
    s.pending.lookup id = none := by
  cases hEntry : s.pending.lookup id with
  | none => rfl
  | some entry =>
      have hKnown := hInv.handlers c
      rw [hAt] at hKnown
      rcases hKnown with ⟨request, hReq, -⟩
      have hDrawn := hInv.requested hReq
      have hOld := hInv.entry_seq hEntry
      have hId : idOf entry.seq = idOf seq := by
        rw [← hInv.entry_key hEntry, hDrawn.2.2]
      have hSeq : entry.seq = seq :=
        idOf_inj (by omega) (by omega) hId
      have hInMap : replies.held s seq .entry :=
        ⟨id, entry, hEntry, hSeq⟩
      have hAtHandler : replies.held s seq (.handler c) := by
        change (s.handler c).unanswered? = some seq
        rw [hAt]
        rfl
      cases hKept.tracks.unique hInMap hAtHandler

------------------------------------------------------------
-- Requests that Are Not Forwarded
------------------------------------------------------------

/- A request that no task will forward and no entry holds. -/
def Dropped (s : State) (seq : Nat) : Prop :=
  lines.Lapsed s seq ∧ ¬ s.pending.Holds seq

/- A step without an insertion brings no entry. -/
theorem holds_of_step
    {e : Event}
    {seq : Nat}
    (hStep : ProxyStep env s e s' o)
    (hHolds : s'.pending.Holds seq) :
    s.pending.Holds seq ∨
      ∃ c, (s.handler c).line? = some seq := by
  rcases hHolds with ⟨key, entry, hEntry, hSeq⟩
  rcases hStep.pending_cases with
    hSame | ⟨c, seq', id, originalId, msg, forwarded, hAt,
      -, -, hInsert⟩ | ⟨key', hErase⟩
  · rw [hSame] at hEntry
    exact Or.inl ⟨key, entry, hEntry, hSeq⟩
  · rw [hInsert] at hEntry
    rcases PendingMap.lookup_insert_some hEntry with
      ⟨-, rfl⟩ | ⟨-, hOld⟩
    · refine Or.inr ⟨c, ?_⟩
      rw [hAt, ← hSeq]
      rfl
    · exact Or.inl ⟨key, entry, hOld, hSeq⟩
  · rw [hErase] at hEntry
    exact Or.inl ⟨key, entry,
      (PendingMap.lookup_erase_some hEntry).2, hSeq⟩

/- A dropped request stays dropped. -/
theorem Dropped.step
    {e : Event}
    {seq : Nat}
    (hLines : LinesKept h s)
    (hDropped : Dropped s seq)
    (hStep : ProxyStep env s e s' o) :
    Dropped s' seq := by
  rcases hDropped with ⟨hLapsed, hNone⟩
  refine ⟨?_, ?_⟩
  · exact (hLapsed.step
      (fun _ hIssued =>
        Nat.lt_of_lt_of_le hIssued hStep.allocated_le)
      (hStep.lines hLines.nodup)).1
  · intro hHolds
    rcases holds_of_step hStep hHolds with
      hOld | ⟨c, hLine⟩
    · exact hNone hOld
    · exact hLapsed.2 (.handler c) hLine

/-
  A line that its handler gives up without a move is held
  nowhere: it was with this handler only.
-/
private theorem lapsed_of_given_up
    {e : Event}
    {c : ClientId}
    {seq : Nat}
    (hLines : LinesKept h s)
    (hStep : ProxyStep env s e s' o)
    (hMoves : lines.moves o = [])
    (hBefore : (s.handler c).line? = some seq)
    (hAfter : (s'.handler c).line? = none) :
    lines.Lapsed s' seq := by
  have hHeld : lines.held s seq (.handler c) := hBefore
  have hIssued : seq < s.allocated :=
    hLines.kept.issued_of_held hHeld
  refine ⟨Nat.lt_of_lt_of_le hIssued hStep.allocated_le, ?_⟩
  intro place hNow
  have hOld : lines.held s seq place := by
    cases hStep.lines hLines.nodup with
    | stay _ hHeld' => exact hHeld' seq place hNow
    | move _ hMoves' _ => simp [hMoves] at hMoves'
    | issue _ _ hMoves' _ => simp [hMoves] at hMoves'
  have hPlace := hLines.kept.tracks.unique hOld hHeld
  subst hPlace
  have hNone : (s'.handler c).line? = some seq := hNow
  rw [hAfter] at hNone
  cases hNone

/-
  What the history says was refused or taken back is dropped,
  and so is the line of a request about to be taken back.
-/
structure DropsKept (h : List Obs) (s : State) : Prop where
  unregistering : ∀ c seq id,
    s.handler c = .unregistering seq id →
      lines.Lapsed s seq
  recorded : ∀ c seq,
    .refused c seq ∈ h ∨ .unregistered c seq ∈ h →
      Dropped s seq

/- The map does not hold what its handler still holds. -/
private theorem not_holds_of_unanswered
    (hKept : replies.Kept h s)
    {c : ClientId}
    {seq : Nat}
    (hAt : (s.handler c).unanswered? = some seq) :
    ¬ s.pending.Holds seq := by
  intro hHolds
  have hInMap : replies.held s seq .entry := hHolds
  have hAtHandler : replies.held s seq (.handler c) := hAt
  cases hKept.tracks.unique hInMap hAtHandler

/- A handler starts to take back only what it queues. -/
private theorem unregistering_cases
    {e : Event}
    {c : ClientId}
    {seq : Nat}
    {id : UInt64}
    (hStep : ProxyStep env s e s' o)
    (hAfter : s'.handler c = .unregistering seq id) :
    s.handler c = .unregistering seq id ∨
      ((s.handler c).line? = some seq ∧
        lines.moves o = []) := by
  rcases hStep.handler_cases c with
    hSame | hNew | ⟨event, rfl, hTask⟩
  · rw [hSame] at hAfter
    exact Or.inl hAfter
  · rw [hNew] at hAfter
    cases hAfter
  · cases hTask with
    | idle hRunning hBefore hIdle hEvent =>
        simp only [Function.update_self] at hAfter
        subst hAfter
        cases hIdle
    | allocated hAt hHook hId hNext =>
        simp only [Function.update_self] at hAfter
        subst hAfter
        rcases hNext with hNext | ⟨text, -, hNext⟩
        · cases hNext
        · cases hNext
    | requestFailed hAt hClosed =>
        simp only [Function.update_self] at hAfter
        cases hAfter
        refine Or.inr ⟨?_, rfl⟩
        rw [hAt]
        rfl
    | _ => simp at hAfter

/- A refusal happens at a full map and leaves it alone. -/
theorem refused_cases
    {e : Event}
    {c : ClientId}
    {seq : Nat}
    (hStep : ProxyStep env s e s' o)
    (hRecord : .refused c seq ∈ o) :
    (∃ id originalId msg forwarded, s.handler c =
        .registering seq id originalId msg forwarded) ∧
      maxPendingRequests ≤ s.pending.size ∧
      s'.pending = s.pending ∧
      (s'.handler c).line? = none ∧
      lines.moves o = [] := by
  cases hStep with
  | client hTask =>
      cases hTask with
      | refusedSent hAt hLock hFull hSend =>
          simp only [List.mem_cons, List.not_mem_nil,
            Obs.refused.injEq, reduceCtorEq, or_false]
            at hRecord
          rcases hRecord with ⟨rfl, rfl⟩
          exact ⟨⟨_, _, _, _, hAt⟩, hFull, rfl, by simp; rfl,
            rfl⟩
      | refusedClosed hAt hLock hFull hClosed =>
          simp only [List.mem_cons, List.not_mem_nil,
            Obs.refused.injEq, or_false] at hRecord
          rcases hRecord with ⟨rfl, rfl⟩
          exact ⟨⟨_, _, _, _, hAt⟩, hFull, rfl, by simp; rfl,
            rfl⟩
      | refusedBlocked hAt hLock hFull hBlocks =>
          simp only [List.mem_cons, List.not_mem_nil,
            Obs.refused.injEq, or_false] at hRecord
          rcases hRecord with ⟨rfl, rfl⟩
          exact ⟨⟨_, _, _, _, hAt⟩, hFull, rfl, by simp; rfl,
            rfl⟩
      | _ => simp at hRecord
  | writer hTask => cases hTask <;> simp at hRecord
  | heartbeat hTask => cases hTask <;> simp at hRecord
  | upstream hTask => cases hTask <;> simp at hRecord
  | reader hTask => cases hTask <;> simp at hRecord
  | _ => simp at hRecord

/- A request is taken back by removing its own key. -/
theorem unregistered_cases
    {e : Event}
    {c : ClientId}
    {seq : Nat}
    (hStep : ProxyStep env s e s' o)
    (hRecord : .unregistered c seq ∈ o) :
    ∃ id, s.handler c = .unregistering seq id ∧
      s'.pending = s.pending.erase id := by
  cases hStep with
  | client hTask =>
      cases hTask with
      | unregistered hAt hLock =>
          simp only [List.mem_singleton,
            Obs.unregistered.injEq] at hRecord
          rcases hRecord with ⟨rfl, rfl⟩
          exact ⟨_, hAt, rfl⟩
      | _ => simp at hRecord
  | writer hTask => cases hTask <;> simp at hRecord
  | heartbeat hTask => cases hTask <;> simp at hRecord
  | upstream hTask => cases hTask <;> simp at hRecord
  | reader hTask => cases hTask <;> simp at hRecord
  | _ => simp at hRecord

/- A refused request is dropped. -/
private theorem dropped_of_refused
    {e : Event}
    {c : ClientId}
    {seq : Nat}
    (hLines : LinesKept h s)
    (hKept : replies.Kept h s)
    (hStep : ProxyStep env s e s' o)
    (hRecord : .refused c seq ∈ o) :
    Dropped s' seq := by
  rcases refused_cases hStep hRecord with
    ⟨⟨id, originalId, msg, forwarded, hAt⟩, -, hPending,
      hAfter, hMoves⟩
  have hLine : (s.handler c).line? = some seq := by
    rw [hAt]
    rfl
  have hReply : (s.handler c).unanswered? = some seq := by
    rw [hAt]
    rfl
  refine ⟨lapsed_of_given_up hLines hStep hMoves hLine
    hAfter, ?_⟩
  rw [hPending]
  exact not_holds_of_unanswered hKept hReply

/- A request that was taken back is dropped. -/
private theorem dropped_of_unregistered
    {e : Event}
    {c : ClientId}
    {seq : Nat}
    (hInv : Provenance env h s)
    (hLines : LinesKept h s)
    (hDrops : DropsKept h s)
    (hStep : ProxyStep env s e s' o)
    (hRecord : .unregistered c seq ∈ o) :
    Dropped s' seq := by
  rcases unregistered_cases hStep hRecord with
    ⟨id, hAt, hErase⟩
  have hLapsed := hDrops.unregistering c seq id hAt
  refine ⟨?_, ?_⟩
  · exact (hLapsed.step
      (fun _ hIssued =>
        Nat.lt_of_lt_of_le hIssued hStep.allocated_le)
      (hStep.lines hLines.nodup)).1
  · rintro ⟨key, entry, hEntry, hSeq⟩
    rw [hErase] at hEntry
    rcases PendingMap.lookup_erase_some hEntry with
      ⟨hKey, hOld⟩
    have hKnown := hInv.handlers c
    rw [hAt] at hKnown
    rcases hKnown with ⟨originalId, msg, hReq⟩
    apply hKey
    rw [hInv.entry_key hOld, hSeq, (hInv.requested hReq).2.2]

theorem dropsKept_step
    {e : Event}
    (hInv : Provenance env h s)
    (hLines : LinesKept h s)
    (hKept : replies.Kept h s)
    (hDrops : DropsKept h s)
    (hStep : ProxyStep env s e s' o) :
    DropsKept (h ++ o) s' where
  unregistering := by
    intro c seq id hAfter
    rcases unregistering_cases hStep hAfter with
      hBefore | ⟨hLine, hMoves⟩
    · have hLapsed := hDrops.unregistering c seq id hBefore
      exact (hLapsed.step
        (fun _ hIssued =>
          Nat.lt_of_lt_of_le hIssued hStep.allocated_le)
        (hStep.lines hLines.nodup)).1
    · refine lapsed_of_given_up hLines hStep hMoves hLine ?_
      rw [hAfter]
      rfl
  recorded := by
    intro c seq hRecord
    rw [List.mem_append, List.mem_append] at hRecord
    rcases hRecord with
      (hOld | hRefused) | (hOld | hUnregistered)
    · exact (hDrops.recorded c seq (Or.inl hOld)).step
        hLines hStep
    · exact dropped_of_refused hLines hKept hStep hRefused
    · exact (hDrops.recorded c seq (Or.inr hOld)).step
        hLines hStep
    · exact dropped_of_unregistered hInv hLines hDrops hStep
        hUnregistered

/- In every run what was not forwarded is dropped. -/
theorem dropsKept_of_run
    {es : List Event}
    (hRun : (proxy env).Run es h s) :
    DropsKept h s := by
  refine Machine.run_induction
    (motive := fun _ h s => DropsKept h s) ?_ ?_ hRun
  · exact
      { unregistering := nofun
        recorded := by simp }
  · intro es h s e s' o hBefore hDrops hStep
    exact dropsKept_step (provenance_of_run hBefore)
      (linesKept_of_run hBefore) (repliesKept_of_run hBefore)
      hDrops (step_cases hStep)

------------------------------------------------------------
-- The Invariant of the Map
------------------------------------------------------------

/-
  The map is within its limit, its keys lie between the
  first id and the counter, and it holds no request that was
  refused or taken back.
-/
structure PendingOk (h : List Obs) (s : State) : Prop where
  bounded : s.pending.size ≤ maxPendingRequests
  keys : ∀ key entry,
    s.pending.lookup key = some entry →
      100000 ≤ key.toNat ∧ key.toNat < s.nextId.toNat
  dropped : ∀ c seq,
    .refused c seq ∈ h ∨ .unregistered c seq ∈ h →
      ¬ s.pending.Holds seq

/-
  A step never changes an entry that stays, and registers a
  request under an unused key. A request is refused exactly
  when the map is full at its critical section, and then the
  map stays as it is. Whatever a handler does, entries that
  are not its own request's stay as they are.
-/
structure PendingStep
    (s : State)
    (e : Event)
    (s' : State)
    (o : List Obs) : Prop where
  kept : ∀ key entry entry',
    s.pending.lookup key = some entry →
      s'.pending.lookup key = some entry' →
        entry' = entry
  registered : ∀ c seq, .registered c seq ∈ o →
    ∃ key originalId, s.pending.lookup key = none ∧
      s'.pending = s.pending.insert key
        { clientTx := c
          originalId := originalId
          seq := seq }
  decided : ∀ c seq id originalId msg forwarded,
    s.handler c =
        .registering seq id originalId msg forwarded →
      e = .client c .register →
        (.refused c seq ∈ o ↔
          s.pending.size = maxPendingRequests)
  refused : ∀ c seq, .refused c seq ∈ o →
    s'.pending = s.pending
  others : ∀ c event, e = .client c event →
    ∀ key entry, (s.handler c).seq? ≠ some entry.seq →
      (s'.pending.lookup key = some entry ↔
        s.pending.lookup key = some entry)

/- An entry that a step keeps is not overwritten. -/
private theorem entry_kept
    {e : Event}
    (hInv : Provenance env h s)
    (hKept : replies.Kept h s)
    (hIds : s.allocated ≤ 2 ^ 64)
    (hStep : ProxyStep env s e s' o)
    {key : UInt64}
    {entry entry' : PendingRequest}
    (hBefore : s.pending.lookup key = some entry)
    (hAfter : s'.pending.lookup key = some entry') :
    entry' = entry := by
  have hOld :
      s.pending.lookup key = some entry' := by
    rcases hStep.pending_cases with
      hSame | ⟨c, seq, id, originalId, msg, forwarded, hAt,
        -, -, hInsert⟩ | ⟨key', hErase⟩
    · rwa [hSame] at hAfter
    · rw [hInsert] at hAfter
      rcases PendingMap.lookup_insert_some hAfter with
        ⟨rfl, -⟩ | ⟨-, hOld⟩
      · have hNone := lookup_eq_none_of_registering hInv
          hKept hIds hAt
        rw [hBefore] at hNone
        cases hNone
      · exact hOld
    · rw [hErase] at hAfter
      exact (PendingMap.lookup_erase_some hAfter).2
  rw [hBefore] at hOld
  exact (Option.some.inj hOld).symm

/- A handler changes the entry of its own request only. -/
private theorem others_kept
    {c : ClientId}
    {event : HandlerEvent}
    (hInv : Provenance env h s)
    (hKept : replies.Kept h s)
    (hIds : s.allocated ≤ 2 ^ 64)
    (hStep : HandlerStep env s c event s' o)
    {key : UInt64}
    {entry : PendingRequest}
    (hOther : (s.handler c).seq? ≠ some entry.seq) :
    s'.pending.lookup key = some entry ↔
      s.pending.lookup key = some entry := by
  cases hStep with
  | @registered seq id originalId msg forwarded
      hAt hLock hRoom =>
      have hNone :=
        lookup_eq_none_of_registering hInv hKept hIds hAt
      rw [hAt] at hOther
      by_cases hKey : key = id
      · subst hKey
        rw [hNone]
        simp only [AList.lookup_insert, Option.some.injEq,
          reduceCtorEq, iff_false]
        rintro rfl
        exact hOther rfl
      · simp [AList.lookup_insert_ne hKey]
  | @unregistered seq id hAt hLock =>
      have hKnown := hInv.handlers c
      rw [hAt] at hKnown hOther
      rcases hKnown with ⟨originalId, msg, hReq⟩
      have hDrawn := hInv.requested hReq
      by_cases hKey : key = id
      · subst hKey
        simp only [AList.lookup_erase, reduceCtorEq,
          false_iff]
        intro hEntry
        have hOld := hInv.entry_seq hEntry
        have hSeq : entry.seq = seq :=
          idOf_inj (by omega) (by omega)
            (by rw [← hInv.entry_key hEntry, hDrawn.2.2])
        rw [hSeq] at hOther
        exact hOther rfl
      · simp [AList.lookup_erase_ne hKey]
  | _ => exact Iff.rfl

/- At its critical section a request is refused or enters. -/
private theorem refused_iff
    {c : ClientId}
    {seq : Nat}
    {id : UInt64}
    {originalId msg : Value}
    {forwarded : String}
    (hBound : s.pending.size ≤ maxPendingRequests)
    (hAt : s.handler c =
      .registering seq id originalId msg forwarded)
    (hStep : HandlerStep env s c .register s' o) :
    .refused c seq ∈ o ↔
      s.pending.size = maxPendingRequests := by
  have hFullEq
      (hFull : maxPendingRequests ≤ s.pending.size) :
      s.pending.size = maxPendingRequests :=
    Nat.le_antisymm hBound hFull
  cases hStep with
  | idle hRunning hBefore hAfter hEvent =>
      rw [hAt] at hBefore
      cases hBefore
  | registered hAt' hLock hRoom =>
      simp [Nat.ne_of_lt hRoom]
  | refusedSent hAt' hLock hFull hSend =>
      rw [hAt] at hAt'
      cases hAt'
      simp [hFullEq hFull]
  | refusedClosed hAt' hLock hFull hClosed =>
      rw [hAt] at hAt'
      cases hAt'
      simp [hFullEq hFull]
  | refusedBlocked hAt' hLock hFull hBlocks =>
      rw [hAt] at hAt'
      cases hAt'
      simp [hFullEq hFull]

/- A registered request gets an entry under a free key. -/
private theorem registered_cases
    {e : Event}
    {c : ClientId}
    {seq : Nat}
    (hStep : ProxyStep env s e s' o)
    (hRecord : .registered c seq ∈ o) :
    ∃ id originalId msg forwarded,
      s.handler c =
          .registering seq id originalId msg forwarded ∧
        s'.pending = s.pending.insert id
          { clientTx := c
            originalId := originalId
            seq := seq } := by
  cases hStep with
  | client hTask =>
      cases hTask with
      | registered hAt hLock hRoom =>
          simp only [List.mem_singleton,
            Obs.registered.injEq] at hRecord
          rcases hRecord with ⟨rfl, rfl⟩
          exact ⟨_, _, _, _, hAt, rfl⟩
      | _ => simp at hRecord
  | writer hTask => cases hTask <;> simp at hRecord
  | heartbeat hTask => cases hTask <;> simp at hRecord
  | upstream hTask => cases hTask <;> simp at hRecord
  | reader hTask => cases hTask <;> simp at hRecord
  | _ => simp at hRecord

/-
  With fewer than `2 ^ 64 - 100000` ids drawn, the map is in
  order in every reachable state and after every step.
-/
theorem pending_map_ok
    {es : List Event}
    (hRun : (proxy env).Run es h s)
    (hIds : s.allocated < 2 ^ 64 - 100000) :
    PendingOk h s ∧
      ∀ e s' o, (proxy env).step s e = some (s', o) →
        PendingStep s e s' o := by
  have hInv := provenance_of_run hRun
  have hKept := repliesKept_of_run hRun
  have hBound := size_le_of_run hRun
  refine ⟨?_, ?_⟩
  · exact
      { bounded := hBound
        keys := fun key entry hEntry =>
          keys_lt_nextId hInv (by omega) hEntry
        dropped := fun c seq hRecord =>
          ((dropsKept_of_run hRun).recorded c seq
            hRecord).2 }
  · intro e s' o hNext
    have hStep := step_cases hNext
    refine
      { kept := fun key entry entry' hBefore hAfter =>
          entry_kept hInv hKept (by omega) hStep hBefore
            hAfter
        registered := ?_
        decided := ?_
        refused := fun c seq hRecord =>
          (refused_cases hStep hRecord).2.2.1
        others := ?_ }
    · intro c seq hRecord
      rcases registered_cases hStep hRecord with
        ⟨id, originalId, msg, forwarded, hAt, hInsert⟩
      exact ⟨id, originalId,
        lookup_eq_none_of_registering hInv hKept (by omega)
          hAt, hInsert⟩
    · rintro c seq id originalId msg forwarded hAt rfl
      cases hStep with
      | client hTask => exact refused_iff hBound hAt hTask
    · rintro c event rfl key entry hOther
      cases hStep with
      | client hTask =>
          exact others_kept hInv hKept (by omega) hTask hOther

/- A connected proxy whose telescope has sent a line. -/
def parkConnected : List Event :=
  [.notify, .accept, .upstream .start] ++
    connectUpstream ++
    [.reader 0 .start, .reader 0 (.line "ready")]

theorem pending_map_ok_parkConnected :
    PendingOk
      ((proxy parkEnv).outcome
        (parkConnected ++ drawPark 0)).2
      ((proxy parkEnv).outcome
        (parkConnected ++ drawPark 0)).1 ∧
    ∀ e s' o,
      (proxy parkEnv).step
          ((proxy parkEnv).outcome
            (parkConnected ++ drawPark 0)).1 e =
        some (s', o) →
      PendingStep
        ((proxy parkEnv).outcome
          (parkConnected ++ drawPark 0)).1 e s' o :=
  pending_map_ok
    (Machine.run_outcome (by decide +kernel))
    (by decide +kernel)

------------------------------------------------------------
-- The Counter Wraps
------------------------------------------------------------

/-
  The heartbeat sleeps with the handshake done, after `n`
  draws; nothing is queued or pending.
-/
structure Beating (n : Nat) (s : State) : Prop where
  heartbeat : s.heartbeat = .sleeping
  handshake : s.handshakeDone = true
  queue : s.upstreamTx = Channel.empty Message 256
  upstream : s.upstream = .selecting 0
  handler : s.handler 0 = .reading
  lock : s.lock = none
  pending : s.pending = ∅
  allocated : s.allocated = n

/- A heartbeat is sent and the next one can follow. -/
private theorem beating_succ
    {n : Nat}
    (hBeating : Beating n s) :
    ∃ es s' o, (proxy parkEnv).exec s es = some (s', o) ∧
      Beating (n + 1) s' := by
  rcases s with ⟨nextId, allocated, handshake, pending,
    lock, upstreamTx, events, started, clients, handler,
    writer, responseTx, eventRx, connections, reader,
    written, upstream, heartbeat, up⟩
  rcases hBeating with
    ⟨rfl, rfl, rfl, rfl, hHandler, rfl, rfl, rfl⟩
  refine ⟨[.heartbeat .wake, .heartbeat .allocate,
    .heartbeat .send, .upstream .recv,
    .upstream (.write true)], _, _, rfl, ?_⟩
  exact ⟨rfl, rfl, rfl, rfl, hHandler, rfl, rfl, rfl⟩

private theorem reaches_beating (n : Nat) :
    (proxy parkEnv).Reaches (Beating n) := by
  induction n with
  | zero =>
      refine ⟨parkConnected, _, _,
        Machine.run_outcome (by decide +kernel), ?_⟩
      exact ⟨rfl, rfl, rfl, rfl, rfl, rfl, rfl, rfl⟩
  | succ n ih => exact ih.exec fun _ _ _ _ => beating_succ

/-
  After `2 ^ 64 - 100000` draws, fewer than `2 ^ 64`, the
  counter has wrapped to zero while the last request that
  drew an id is pending above it.
-/
theorem key_above_wrapped_counter :
    (proxy parkEnv).Reaches fun s =>
      s.allocated < 2 ^ 64 ∧
        ∃ key entry, s.pending.lookup key = some entry ∧
          ¬ key.toNat < s.nextId.toNat := by
  rcases reaches_beating (2 ^ 64 - 100001) with
    ⟨es, h, s, hRun, hBeating⟩
  have hDrawn :=
    hRun.append (exec_drawPark hBeating.handler)
  have hRegister :
      ∃ s' o, (proxy parkEnv).exec (afterDraw s 0)
          [.client 0 .register] = some (s', o) ∧
        s'.allocated = s.allocated + 1 ∧
        s'.nextId = s.nextId + 1 ∧
        s'.pending = s.pending.insert s.nextId
          { clientTx := 0
            originalId := .string "a"
            seq := s.allocated } := by
    simp [Machine.exec, proxy, step, handleClient,
      afterDraw, parkDrawn, hBeating.lock, hBeating.pending,
      PendingMap.size, maxPendingRequests]
  rcases hRegister with
    ⟨s', o, hExec, hAllocated, hNextId, hPending⟩
  have hNow : s.nextId = idOf (2 ^ 64 - 100001) := by
    rw [(provenance_of_run hRun).nextId, hBeating.allocated]
  refine ⟨_, _, s', hDrawn.append hExec, ?_, s.nextId,
    { clientTx := 0
      originalId := .string "a"
      seq := s.allocated }, ?_, ?_⟩
  · rw [hAllocated, hBeating.allocated]
    decide
  · rw [hPending]
    exact AList.lookup_insert _
  · rw [hNextId, hNow]
    decide

end Control

end SeestarProxy
