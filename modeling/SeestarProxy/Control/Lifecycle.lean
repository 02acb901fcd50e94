import SeestarProxy.Control.Entries
import SeestarProxy.Control.Pending

/-
  What becomes of every request.

  A request that draws an id is not forwarded because it
  cannot be printed, still waits for the pending map, was
  refused at the map, waits for its response, was taken back
  because the upstream task is gone, was answered by the
  telescope or was answered by the drain: in every run, at
  every time, exactly one of these. An answer that a reader
  took reaches the client's channel or finds it closed.

  Main declarations:
    * `Fate`, `HasFate` and `Accounting`
    * `fates`, the ledger of the fates
    * `Located` and `located_of_run`
    * `requests_accounted`
-/

------------------------------------------------------------
-- Fates
------------------------------------------------------------

namespace SeestarProxy

namespace Control

open Library Protocol

/- What has become of a request. -/
inductive Fate where
| unprintable
| undecided
| refused
| waiting
| withdrawn
| answered
| drained
deriving DecidableEq, Repr

/- The request that a handler has not put to the map yet. -/
def Handler.undecided? : Handler → Option Nat
| .registering seq _ _ _ _ => some seq
| _ => none

/- A reader has taken the response to the request. -/
def Answered
    (h : List Obs)
    (c : ClientId)
    (seq : Nat) : Prop :=
  ∃ conn, .removed conn c seq ∈ h

/- The drain has removed the request. -/
def DrainedOut
    (h : List Obs)
    (c : ClientId)
    (seq : Nat) : Prop :=
  ∃ running, .drained c seq running ∈ h

/- The line of a message cannot be printed under the id. -/
def Unprintable
    (env : Env)
    (msg : Value)
    (id : UInt64) : Prop :=
  env.serde.toStr (setJsonRpcId msg id) = none

/- The fate of the request that drew `id` as number `seq`. -/
def HasFate
    (env : Env)
    (h : List Obs)
    (s : State)
    (c : ClientId)
    (msg : Value)
    (seq : Nat)
    (id : UInt64) : Fate → Prop
| .unprintable => Unprintable env msg id
| .undecided => (s.handler c).undecided? = some seq
| .refused => .refused c seq ∈ h
| .waiting => s.pending.Holds seq
| .withdrawn =>
    .unregistered c seq ∈ h ∧ ¬ Answered h c seq ∧
      ¬ DrainedOut h c seq
| .answered => Answered h c seq
| .drained => DrainedOut h c seq

/-
  Every request has one fate. A response that a reader took
  is being delivered, is on its client's channel, or found
  that channel closed.
-/
structure Accounting
    (env : Env)
    (h : List Obs)
    (s : State) : Prop where
  fate : ∀ c sent action msg originalId seq id,
    .request c sent action msg originalId seq id ∈ h →
      ∃! fate, HasFate env h s c msg seq id fate
  delivery : ∀ conn c seq, .removed conn c seq ∈ h →
    (∃ trimmed text,
      s.reader conn = .delivering c seq trimmed text) ∨
    (∃ trimmed text,
      .reply (.reader conn trimmed) c seq text ∈ h) ∨
    .undelivered c seq ∈ h

------------------------------------------------------------
-- The Ledger of the Fates
------------------------------------------------------------

/- Where the decision on a request is, or what it was. -/
inductive FatePlace where
| handler (client : ClientId)
| entry
| unprintable
| refused
| answered
| drained
deriving DecidableEq, Repr

/- The state holds the decision at the place. -/
def FateHeld (s : State) (seq : Nat) : FatePlace → Prop
| .handler c => (s.handler c).undecided? = some seq
| .entry => s.pending.Holds seq
| _ => False

/- The place that an observation moves the decision to. -/
def fateMove (env : Env) : Obs → Option (Nat × FatePlace)
| .request c _ _ msg _ seq id =>
    some (seq,
      if (env.serde.toStr (setJsonRpcId msg id)).isSome then
        .handler c
      else
        .unprintable)
| .registered _ seq => some (seq, .entry)
| .refused _ seq => some (seq, .refused)
| .removed _ _ seq => some (seq, .answered)
| .drained _ seq _ => some (seq, .drained)
| _ => none

/- The ledger of fates; a decided request stays decided. -/
def fates (env : Env) :
    Ledger State Obs Nat FatePlace where
  assign := fateMove env
  held := FateHeld
  issued := fun s seq => seq < s.allocated
  isCounted
  | .handler _ | .entry => false
  | _ => true
  not_counted := by
    intro s seq place hHeld
    cases place with
    | handler c => rfl
    | entry => rfl
    | _ => cases hHeld

variable {env : Env} {h o : List Obs} {s s' : State}
variable {e : Event} {c : ClientId} {seq : Nat}
variable {id : UInt64} {msg : Value}

/- Idle handlers hold no undecided request. -/
theorem Handler.undecided?_of_isIdle
    {handler : Handler}
    (hIdle : handler.IsIdle) :
    handler.undecided? = none := by
  cases handler <;> first
    | rfl
    | cases hIdle

/- A handler that takes up nothing leaves the others alone. -/
private theorem undecided_of_update
    {next : Handler}
    (hNext : next.undecided? = none)
    (c' : ClientId)
    (hHeld :
      (Function.update s.handler c next c').undecided? =
        some seq) :
    (s.handler c').undecided? = some seq := by
  refine of_update
    (fun _ (x : Handler) => x.undecided? = some seq)
    ?_ c' hHeld
  intro hTaken
  rw [hNext] at hTaken
  cases hTaken

/- A step that moves nothing, by what it leaves alone. -/
private theorem fates_stay
    (hMoves : (fates env).moves o = [])
    (hHandler : ∀ c seq,
      (s'.handler c).undecided? = some seq →
        (s.handler c).undecided? = some seq)
    (hEntry : ∀ key entry,
      s'.pending.lookup key = some entry →
        s.pending.lookup key = some entry) :
    (fates env).Step o s s' := by
  refine .stay hMoves ?_
  intro seq place hHeld
  cases place with
  | handler c => exact hHandler c seq hHeld
  | entry =>
      rcases hHeld with ⟨key, entry, hFound, hSeq⟩
      exact ⟨key, entry, hEntry key entry hFound, hSeq⟩
  | _ => exact hHeld

/- The map decides on the request of a handler. -/
private theorem fates_decide
    {originalId : Value}
    {forwarded : String}
    {next : Handler}
    {place : FatePlace}
    (hAt : s.handler c =
      .registering seq id originalId msg forwarded)
    (hMoves : (fates env).moves o = [(seq, place)])
    (hNext : next.undecided? = none)
    (hHandler : s'.handler =
      Function.update s.handler c next)
    (hEntry : ∀ seq', s'.pending.Holds seq' →
      (seq' = seq ∧ place = .entry) ∨
        s.pending.Holds seq') :
    (fates env).Step o s s' := by
  have hFrom : (fates env).held s seq (.handler c) := by
    change (s.handler c).undecided? = some seq
    rw [hAt]
    rfl
  refine .move hFrom hMoves ?_
  intro seq' place' hHeld
  cases place' with
  | handler c' =>
      have hNow :
          (s'.handler c').undecided? = some seq' := hHeld
      rw [hHandler] at hNow
      refine .inr ⟨undecided_of_update hNext c' hNow, ?_⟩
      intro hSame
      cases hSame
      rw [Function.update_self, hNext] at hNow
      cases hNow
  | entry =>
      rcases hEntry seq' hHeld with ⟨hSeq, hPlace⟩ | hOld
      · exact .inl ⟨hSeq, hPlace.symm⟩
      · exact .inr ⟨hOld, nofun⟩
  | _ => cases hHeld

/- An entry leaves the map with its decision. -/
private theorem fates_take
    {key : UInt64}
    {entry : PendingRequest}
    {place : FatePlace}
    (hInv : Provenance env h s)
    (hEntry : s.pending.lookup key = some entry)
    (hMoves : (fates env).moves o = [(entry.seq, place)])
    (hPending : s'.pending = s.pending.erase key)
    (hHandler : s'.handler = s.handler) :
    (fates env).Step o s s' := by
  have hFrom : (fates env).held s entry.seq .entry :=
    ⟨key, entry, hEntry, rfl⟩
  refine .move hFrom hMoves ?_
  intro seq' place' hHeld
  cases place' with
  | handler c' =>
      have hNow :
          (s'.handler c').undecided? = some seq' := hHeld
      rw [hHandler] at hNow
      exact .inr ⟨hNow, nofun⟩
  | entry =>
      rcases hHeld with ⟨key', entry', hFound, rfl⟩
      rw [hPending] at hFound
      rcases PendingMap.lookup_erase_some hFound with
        ⟨hKey, hOld⟩
      refine .inr ⟨⟨key', entry', hOld, rfl⟩, ?_⟩
      intro _ hSeq
      exact hKey (key_unique hInv hEntry hOld hSeq)
  | _ => cases hHeld

/- Every step of a handler moves at most its own request. -/
theorem HandlerStep.fates
    {event : HandlerEvent}
    (hStep : HandlerStep env s c event s' o) :
    (fates env).Step o s s' := by
  have hQuiet {next : Handler}
      (hNext : next.undecided? = none) (c' : ClientId)
      (seq : Nat)
      (hHeld : (Function.update s.handler c next
        c').undecided? = some seq) :
      (s.handler c').undecided? = some seq :=
    undecided_of_update hNext c' hHeld
  cases hStep with
  | idle hRunning hBefore hAfter hEvent =>
      exact fates_stay rfl
        (hQuiet (Handler.undecided?_of_isIdle hAfter))
        (fun _ _ hFound => hFound)
  | @allocated action trimmed sent msg originalId next
      hAt hHook hId hNext =>
      refine .issue (Nat.lt_irrefl _) (Nat.lt_succ_self _)
        rfl ?_
      intro seq place hHeld
      cases place with
      | handler c' =>
          by_cases hClient : c' = c
          · subst hClient
            have hTaken : next.undecided? = some seq := by
              simpa [Control.fates, FateHeld] using hHeld
            rcases hNext with
              rfl | ⟨forwarded, hText, rfl⟩
            · cases hTaken
            · cases hTaken
              simp [hText]
          · refine .inr ?_
            simpa [Control.fates, FateHeld, hClient]
              using hHeld
      | _ => exact .inr hHeld
  | @registered seq id originalId msg forwarded
      hAt hLock hRoom =>
      refine fates_decide hAt rfl rfl rfl ?_
      rintro seq' ⟨key, entry, hFound, rfl⟩
      rcases PendingMap.lookup_insert_some hFound with
        ⟨-, rfl⟩ | ⟨-, hOld⟩
      · exact .inl ⟨rfl, rfl⟩
      · exact .inr ⟨key, entry, hOld, rfl⟩
  | refusedSent hAt hLock hFull hSend =>
      exact fates_decide hAt rfl rfl rfl
        (fun _ hHolds => .inr hHolds)
  | refusedClosed hAt hLock hFull hClosed =>
      exact fates_decide hAt rfl rfl rfl
        (fun _ hHolds => .inr hHolds)
  | refusedBlocked hAt hLock hFull hBlocks =>
      exact fates_decide hAt rfl rfl rfl
        (fun _ hHolds => .inr hHolds)
  | unregistered hAt hLock =>
      exact fates_stay rfl (hQuiet rfl)
        (fun key entry hFound =>
          (PendingMap.lookup_erase_some hFound).2)
  | _ =>
      exact fates_stay rfl (hQuiet rfl)
        (fun _ _ hFound => hFound)

/- Every step of the proxy keeps the fates in order. -/
theorem ProxyStep.fates
    (hInv : Provenance env h s)
    (hStep : ProxyStep env s e s' o) :
    (fates env).Step o s s' := by
  have hSame
      (hMoves : (Control.fates env).moves o = [])
      (hHandler : s'.handler = s.handler)
      (hPending : s'.pending = s.pending) :
      (Control.fates env).Step o s s' := by
    refine fates_stay hMoves ?_ ?_
    · intro c seq hTaken
      rwa [hHandler] at hTaken
    · intro key entry hFound
      rwa [hPending] at hFound
  cases hStep with
  | accepted =>
      exact fates_stay rfl
        (fun c' seq hHeld => undecided_of_update rfl c' hHeld)
        (fun _ _ hFound => hFound)
  | client hTask => exact hTask.fates
  | writer hTask => cases hTask <;> exact hSame rfl rfl rfl
  | heartbeat hTask =>
      cases hTask <;> exact hSame rfl rfl rfl
  | upstream hTask =>
      cases hTask with
      | drainSent hAt hEntry hSend =>
          exact fates_take hInv hEntry rfl rfl rfl
      | drainLost hAt hEntry hRefused =>
          exact fates_take hInv hEntry rfl rfl rfl
      | _ => exact hSame rfl rfl rfl
  | reader hTask =>
      cases hTask with
      | removed hAt hLock hEntry =>
          exact fates_take hInv hEntry rfl rfl rfl
      | _ => exact hSame rfl rfl rfl
  | _ => exact hSame rfl rfl rfl

/- In every run each request has at most one fate. -/
theorem fatesKept_of_run
    {es : List Event}
    (hRun : (proxy env).Run es h s) :
    (fates env).Kept h s := by
  refine Machine.run_induction
    (motive := fun _ h s => (fates env).Kept h s) ?_ ?_ hRun
  · refine
      { tracks := ?_
        issued := nofun
        once := List.nodup_nil
        closed := nofun }
    intro seq place hHeld
    cases place with
    | entry =>
        rcases hHeld with ⟨key, entry, hEntry, -⟩
        simp [proxy, State.init] at hEntry
    | _ => cases hHeld
  · intro es h s e s' o hBefore hKept hNext
    have hStep := step_cases hNext
    exact hKept.advance
      (fun _ hIssued =>
        Nat.lt_of_lt_of_le hIssued hStep.allocated_le)
      (hStep.fates (provenance_of_run hBefore))

------------------------------------------------------------
-- No Request Is Lost
------------------------------------------------------------

/- Somewhere a request leaves a trace. -/
def Located
    (env : Env)
    (h : List Obs)
    (s : State)
    (c : ClientId)
    (msg : Value)
    (seq : Nat)
    (id : UInt64) : Prop :=
  Unprintable env msg id ∨
    (s.handler c).undecided? = some seq ∨
      (∃ c', .refused c' seq ∈ h) ∨
        Accounted h s seq ∨ ∃ c', .unregistered c' seq ∈ h

/- A request that was drawn is printed for the map or not. -/
private theorem drawn_cases
    {sent originalId : Value}
    {action : HookAction}
    (hStep : step env s e = some (s', o))
    (hMem : .request c sent action msg originalId seq id ∈ o) :
    Unprintable env msg id ∨
      (s'.handler c).undecided? = some seq := by
  -- Only a handler that comes from its hook draws an id.
  have hEvent : ∃ action' trimmed sent',
      e = .client c (.onRequest action') ∧
        s.handler c = .hooking trimmed sent' := by
    cases step_cases hStep with
    | client hTask =>
        cases hTask with
        | allocated hAt hHook hId hNext =>
            cases List.mem_singleton.mp hMem
            exact ⟨_, _, _, rfl, hAt⟩
        | refusedSent => simp at hMem
        | _ => simp at hMem
    | writer hTask => cases hTask <;> simp at hMem
    | heartbeat hTask => cases hTask <;> simp at hMem
    | upstream hTask => cases hTask <;> simp at hMem
    | reader hTask => cases hTask <;> simp at hMem
    | _ => simp at hMem
  rcases hEvent with ⟨action', trimmed, sent', rfl, hAt⟩
  have hForward {sent' msg' : Value}
      (hEq : forwardMessage env s c sent' action' msg' =
        (s', o)) :
      Unprintable env msg id ∨
        (s'.handler c).undecided? = some seq := by
    unfold forwardMessage at hEq
    split at hEq
    · cases hEq
      cases List.mem_singleton.mp hMem
      simp only [Function.update_self]
      unfold Unprintable
      cases env.serde.toStr (setJsonRpcId msg s.nextId) with
      | none => exact .inl rfl
      | some forwarded => exact .inr rfl
    · cases hEq
      cases hMem
  simp only [step, handleClient, hAt] at hStep
  split at hStep
  · cases hStep
  · cases action' with
    | forward => exact hForward (Option.some.inj hStep)
    | modify json => exact hForward (Option.some.inj hStep)
    | block =>
        cases hStep
        cases hMem
    | reply json =>
        cases hStep
        cases hMem

/- The map decides on a request that waits for it. -/
private theorem undecided_step
    (hNumbered : Numbered s)
    (hStep : ProxyStep env s e s' o)
    (hTaken : (s.handler c).undecided? = some seq) :
    (s'.handler c).undecided? = some seq ∨
      .refused c seq ∈ o ∨ s'.pending.Holds seq := by
  have hAt : ∃ id originalId msg forwarded, s.handler c =
      .registering seq id originalId msg forwarded := by
    cases hHandler : s.handler c with
    | registering seq' id originalId msg forwarded =>
        rw [hHandler] at hTaken
        cases hTaken
        exact ⟨_, _, _, _, rfl⟩
    | _ =>
        rw [hHandler] at hTaken
        cases hTaken
  rcases hAt with ⟨id, originalId, msg, forwarded, hAt⟩
  have hPresent : c ≠ s.clients := by
    rintro rfl
    rw [hNumbered.handler _ le_rfl] at hAt
    cases hAt
  have hOwn : s'.handler c = s.handler c ∨
      ∃ event, HandlerStep env s c event s' o := by
    cases hStep with
    | accepted =>
        exact .inl (Function.update_of_ne hPresent _ _)
    | @client c' event s' o hTask =>
        by_cases hClient : c = c'
        · subst hClient
          exact .inr ⟨event, hTask⟩
        · exact .inl (hTask.handler_of_ne hClient)
    | writer hTask => cases hTask <;> exact .inl rfl
    | heartbeat hTask => cases hTask <;> exact .inl rfl
    | upstream hTask => cases hTask <;> exact .inl rfl
    | reader hTask => cases hTask <;> exact .inl rfl
    | _ => exact .inl rfl
  rcases hOwn with hSame | ⟨event, hTask⟩
  · rw [hSame]
    exact .inl hTaken
  · cases hTask with
    | idle hRunning hBefore hAfter hEvent =>
        rw [hAt] at hBefore
        cases hBefore
    | registered hAt' hLock hRoom =>
        rw [hAt] at hAt'
        cases hAt'
        exact .inr (.inr ⟨_, _, AList.lookup_insert _, rfl⟩)
    | refusedSent hAt' | refusedClosed hAt'
    | refusedBlocked hAt' =>
        rw [hAt] at hAt'
        cases hAt'
        exact .inr (.inl List.mem_cons_self)
    | parsed hAt' | notifying hAt' | allocated hAt'
    | hookReplied hAt' | refusalSent hAt'
    | refusalClosed hAt' | requestQueued hAt'
    | requestFailed hAt' | notificationQueued hAt'
    | unregistered hAt' =>
        rw [hAt] at hAt'
        cases hAt'

/- An entry leaves the map by one of three steps. -/
private theorem entry_step
    (hInv : Provenance env h s)
    (hKept : replies.Kept h s)
    (hIds : s.allocated ≤ 2 ^ 64)
    (hStep : ProxyStep env s e s' o)
    (hHolds : s.pending.Holds seq) :
    s'.pending.Holds seq ∨
      (∃ conn c, .removed conn c seq ∈ o) ∨
        (∃ c running, .drained c seq running ∈ o) ∨
          ∃ c, .unregistered c seq ∈ o := by
  by_cases hAfter : s'.pending.Holds seq
  · exact .inl hAfter
  rcases hHolds with ⟨key, entry, hEntry, rfl⟩
  have hKeeps (hFound : s'.pending.lookup key = some entry) :
      False :=
    hAfter ⟨key, entry, hFound, rfl⟩
  -- An entry is lost only with its own key.
  have hErased {key' : UInt64}
      (hPending : s'.pending = s.pending.erase key') :
      key = key' := by
    by_contra hKey
    refine hKeeps ?_
    rw [hPending, AList.lookup_erase_ne hKey]
    exact hEntry
  cases hStep with
  | @client c event s' o hTask =>
      cases hTask with
      | registered hAt hLock hRoom =>
          have hNone :=
            lookup_eq_none_of_registering hInv hKept hIds hAt
          refine (hKeeps ?_).elim
          rw [AList.lookup_insert_ne]
          · exact hEntry
          · rintro rfl
            rw [hNone] at hEntry
            cases hEntry
      | @unregistered seq' id hAt hLock =>
          have hKey := hErased rfl
          subst hKey
          have hKnown := hInv.handlers c
          rw [hAt] at hKnown
          rcases hKnown with ⟨originalId, msg, hReq⟩
          have hDrawn := hInv.requested hReq
          have hOld := hInv.entry_seq hEntry
          have hId : idOf seq' = idOf entry.seq := by
            rw [← hDrawn.2.2, ← hInv.entry_key hEntry]
          have hSeq : seq' = entry.seq :=
            idOf_inj (by omega) (by omega) hId
          subst hSeq
          exact .inr (.inr (.inr
            ⟨c, List.mem_cons_self⟩))
      | _ => exact (hKeeps hEntry).elim
  | writer hTask =>
      cases hTask <;> exact (hKeeps hEntry).elim
  | heartbeat hTask =>
      cases hTask <;> exact (hKeeps hEntry).elim
  | upstream hTask =>
      cases hTask with
      | drainSent hAt hFound hSend =>
          cases hErased rfl
          cases hEntry.symm.trans hFound
          exact .inr (.inr (.inl
            ⟨_, _, List.mem_cons_self⟩))
      | drainLost hAt hFound hRefused =>
          cases hErased rfl
          cases hEntry.symm.trans hFound
          exact .inr (.inr (.inl
            ⟨_, _, List.mem_cons_self⟩))
      | _ => exact (hKeeps hEntry).elim
  | reader hTask =>
      cases hTask with
      | removed hAt hLock hFound =>
          cases hErased rfl
          cases hEntry.symm.trans hFound
          exact .inr (.inl ⟨_, _, List.mem_cons_self⟩)
      | _ => exact (hKeeps hEntry).elim
  | _ => exact (hKeeps hEntry).elim

/- The request that the fate of an observation is about. -/
def Obs.about? : Obs → Option (ClientId × Nat)
| .registered c seq => some (c, seq)
| .refused c seq => some (c, seq)
| .unregistered c seq => some (c, seq)
| .removed _ c seq => some (c, seq)
| .drained c seq _ => some (c, seq)
| _ => none

/- What is shown of a request is about one that was drawn. -/
private theorem about_step
    {x : Obs}
    (hInv : Provenance env h s)
    (hStep : ProxyStep env s e s' o)
    (hMem : x ∈ o)
    (hAbout : x.about? = some (c, seq)) :
    ∃ id originalId msg,
      Requested h c seq id originalId msg := by
  have hHeld {c' : ClientId} {seq' : Nat} {id : UInt64}
      {originalId msg : Value} {forwarded : String}
      (hAt : s.handler c' =
        .registering seq' id originalId msg forwarded)
      (hSame : (c', seq') = (c, seq)) :
      ∃ id originalId msg,
        Requested h c seq id originalId msg := by
    cases hSame
    have hKnown := hInv.handlers c
    rw [hAt] at hKnown
    rcases hKnown with ⟨request, hReq, -⟩
    exact ⟨_, _, _, hReq⟩
  have hEntry {key : UInt64} {entry : PendingRequest}
      (hFound : s.pending.lookup key = some entry)
      (hSame : (entry.clientTx, entry.seq) = (c, seq)) :
      ∃ id originalId msg,
        Requested h c seq id originalId msg := by
    cases hSame
    rcases hInv.entries key entry hFound with ⟨msg, hReq⟩
    exact ⟨_, _, _, hReq⟩
  cases hStep with
  | @client c' event s' o hTask =>
      cases hTask with
      | registered hAt =>
          cases List.mem_singleton.mp hMem
          exact hHeld hAt (Option.some.inj hAbout)
      | refusedClosed hAt =>
          cases List.mem_singleton.mp hMem
          exact hHeld hAt (Option.some.inj hAbout)
      | refusedBlocked hAt =>
          cases List.mem_singleton.mp hMem
          exact hHeld hAt (Option.some.inj hAbout)
      | refusedSent hAt =>
          rcases List.mem_cons.mp hMem with rfl | hReply
          · exact hHeld hAt (Option.some.inj hAbout)
          · cases List.mem_singleton.mp hReply
            cases hAbout
      | @unregistered seq' id hAt hLock =>
          cases List.mem_singleton.mp hMem
          cases hAbout
          have hKnown := hInv.handlers c
          rw [hAt] at hKnown
          rcases hKnown with ⟨originalId, msg, hReq⟩
          exact ⟨_, _, _, hReq⟩
      | idle | notifying | requestFailed => cases hMem
      | parsed | allocated | hookReplied | refusalSent
      | requestQueued | notificationQueued =>
          cases List.mem_singleton.mp hMem
          cases hAbout
      | refusalClosed => cases hMem
  | writer hTask =>
      cases hTask <;> first
        | (cases List.mem_singleton.mp hMem; cases hAbout)
        | cases hMem
  | heartbeat hTask =>
      cases hTask <;> first
        | (cases List.mem_singleton.mp hMem; cases hAbout)
        | cases hMem
  | upstream hTask =>
      cases hTask with
      | drainSent hAt hFound hSend =>
          rcases List.mem_cons.mp hMem with rfl | hReply
          · exact hEntry hFound (Option.some.inj hAbout)
          · cases List.mem_singleton.mp hReply
            cases hAbout
      | drainLost hAt hFound hRefused =>
          cases List.mem_singleton.mp hMem
          exact hEntry hFound (Option.some.inj hAbout)
      | took | wrote | lost =>
          cases List.mem_singleton.mp hMem
          cases hAbout
      | _ => cases hMem
  | reader hTask =>
      cases hTask with
      | removed hAt hLock hFound =>
          cases List.mem_singleton.mp hMem
          exact hEntry hFound (Option.some.inj hAbout)
      | received | broadcast | delivered | undelivered =>
          cases List.mem_singleton.mp hMem
          cases hAbout
      | _ => cases hMem
  | hookSent =>
      cases List.mem_singleton.mp hMem
      cases hAbout
  | _ => cases hMem

/- In every run, fates are those of requests that were drawn. -/
theorem about_of_run
    {es : List Event}
    (hRun : (proxy env).Run es h s)
    {x : Obs}
    (hMem : x ∈ h)
    (hAbout : x.about? = some (c, seq)) :
    ∃ id originalId msg,
      Requested h c seq id originalId msg := by
  refine Machine.run_induction
    (motive := fun _ h _ => ∀ x ∈ h, ∀ c seq,
      x.about? = some (c, seq) →
        ∃ id originalId msg,
          Requested h c seq id originalId msg)
    nofun ?_ hRun x hMem c seq hAbout
  intro es h s e s' o hBefore ih hNext x hMem c seq hAbout
  have hSubset : h ⊆ h ++ o := List.subset_append_left h o
  rcases List.mem_append.mp hMem with hOld | hNew
  · rcases ih x hOld c seq hAbout with
      ⟨id, originalId, msg, hReq⟩
    exact ⟨id, originalId, msg, hReq.mono hSubset⟩
  · rcases about_step (provenance_of_run hBefore)
      (step_cases hNext) hNew hAbout with
      ⟨id, originalId, msg, hReq⟩
    exact ⟨id, originalId, msg, hReq.mono hSubset⟩

/- A request that left a trace still has one. -/
private theorem Located.step
    (hInv : Provenance env h s)
    (hKept : replies.Kept h s)
    (hNumbered : Numbered s)
    (hIds : s.allocated ≤ 2 ^ 64)
    (hStep : ProxyStep env s e s' o)
    (hLocated : Located env h s c msg seq id) :
    Located env (h ++ o) s' c msg seq id := by
  have hMono {x : Obs} (hMem : x ∈ h) : x ∈ h ++ o :=
    List.mem_append_left o hMem
  have hNew {x : Obs} (hMem : x ∈ o) : x ∈ h ++ o :=
    List.mem_append_right h hMem
  rcases hLocated with hNone | hTaken | ⟨c', hRefused⟩ |
    (hHolds | ⟨conn, c', hRemoved⟩ | ⟨c', running, hOut⟩) |
    ⟨c', hBack⟩
  · exact .inl hNone
  · rcases undecided_step hNumbered hStep hTaken with
      hStill | hRefused | hHolds
    · exact .inr (.inl hStill)
    · exact .inr (.inr (.inl ⟨c, hNew hRefused⟩))
    · exact .inr (.inr (.inr (.inl (.inl hHolds))))
  · exact .inr (.inr (.inl ⟨c', hMono hRefused⟩))
  · rcases entry_step hInv hKept hIds hStep hHolds with
      hStill | ⟨conn, c', hMem⟩ | ⟨c', running, hMem⟩ |
      ⟨c', hMem⟩
    · exact .inr (.inr (.inr (.inl (.inl hStill))))
    · exact .inr (.inr (.inr (.inl
        (.inr (.inl ⟨conn, c', hNew hMem⟩)))))
    · exact .inr (.inr (.inr (.inl
        (.inr (.inr ⟨c', running, hNew hMem⟩)))))
    · exact .inr (.inr (.inr (.inr ⟨c', hNew hMem⟩)))
  · exact .inr (.inr (.inr (.inl
      (.inr (.inl ⟨conn, c', hMono hRemoved⟩)))))
  · exact .inr (.inr (.inr (.inl
      (.inr (.inr ⟨c', running, hMono hOut⟩)))))
  · exact .inr (.inr (.inr (.inr ⟨c', hMono hBack⟩)))

/- In every run no request is lost. -/
theorem located_of_run
    {es : List Event}
    {sent originalId : Value}
    {action : HookAction}
    (hRun : (proxy env).Run es h s)
    (hIds : s.allocated ≤ 2 ^ 64)
    (hMem :
      .request c sent action msg originalId seq id ∈ h) :
    Located env h s c msg seq id := by
  refine Machine.run_induction
    (motive := fun _ h s => s.allocated ≤ 2 ^ 64 →
      ∀ c sent action msg originalId seq id,
        .request c sent action msg originalId seq id ∈ h →
          Located env h s c msg seq id)
    (fun _ _ _ _ _ _ _ _ hMem => by cases hMem) ?_ hRun
    hIds c sent action msg originalId seq id hMem
  intro es h s e s' o hBefore ih hNext hIds'
    c sent action msg originalId seq id hMem
  have hStep := step_cases hNext
  have hIds := Nat.le_trans hStep.allocated_le hIds'
  rcases List.mem_append.mp hMem with hOld | hNew
  · exact (ih hIds c sent action msg originalId seq id
      hOld).step (provenance_of_run hBefore)
        (repliesKept_of_run hBefore)
        (numbered_of_run hBefore) hIds hStep
  · rcases drawn_cases hNext hNew with hNone | hTaken
    · exact .inl hNone
    · exact .inr (.inl hTaken)

------------------------------------------------------------
-- One Fate Each
------------------------------------------------------------

/- The place of a fate in the ledger. -/
def Fate.place? (c : ClientId) : Fate → Option FatePlace
| .unprintable => some .unprintable
| .undecided => some (.handler c)
| .refused => some .refused
| .waiting => some .entry
| .withdrawn => none
| .answered => some .answered
| .drained => some .drained

/-
  A fate that has a place is the last place of the request:
  what the state holds is where the ledger says, and what
  was decided stays decided.
-/
private theorem last_of_fate
    {sent originalId : Value}
    {action : HookAction}
    {fate : Fate}
    {place : FatePlace}
    (hKept : (fates env).Kept h s)
    (hMem :
      .request c sent action msg originalId seq id ∈ h)
    (hFate : HasFate env h s c msg seq id fate)
    (hPlace : fate.place? c = some place) :
    History.last (fateMove env) h seq = some place := by
  cases fate with
  | unprintable =>
      cases hPlace
      refine hKept.last_of_counted hMem ?_ rfl
      have hNone : env.serde.toStr (setJsonRpcId msg id) =
          none := hFate
      simp [fates, fateMove, hNone]
  | undecided =>
      cases hPlace
      exact hKept.tracks seq (.handler c) hFate
  | refused =>
      cases hPlace
      exact hKept.last_of_counted hFate rfl rfl
  | waiting =>
      cases hPlace
      exact hKept.tracks seq .entry hFate
  | withdrawn => cases hPlace
  | answered =>
      cases hPlace
      rcases hFate with ⟨conn, hRemoved⟩
      exact hKept.last_of_counted hRemoved rfl rfl
  | drained =>
      cases hPlace
      rcases hFate with ⟨running, hOut⟩
      exact hKept.last_of_counted hOut rfl rfl

/- A request that was put into the map was printed. -/
private theorem printable_of_undecided
    {es : List Event}
    {sent originalId : Value}
    {action : HookAction}
    {c' : ClientId}
    (hRun : (proxy env).Run es h s)
    (hMem :
      .request c sent action msg originalId seq id ∈ h)
    (hTaken : (s.handler c').undecided? = some seq) :
    ¬ Unprintable env msg id := by
  intro hNone
  have hKept := fatesKept_of_run hRun
  have hLast := last_of_fate hKept hMem
    (show HasFate env h s c msg seq id .unprintable from
      hNone) rfl
  have hHeld : (fates env).held s seq (.handler c') := hTaken
  cases hLast.symm.trans (hKept.tracks _ _ hHeld)

/-
  What is known of a request that was registered: it was not
  refused, it can be printed, and it is undecided nowhere.
-/
structure Filed
    (env : Env)
    (h : List Obs)
    (s : State)
    (seq : Nat) : Prop where
  drawn : seq < s.allocated
  notRefused : ∀ c, .refused c seq ∉ h
  printable : ∀ c sent action msg originalId id,
    .request c sent action msg originalId seq id ∈ h →
      ¬ Unprintable env msg id
  decided : ∀ c, (s.handler c).undecided? ≠ some seq

/- The handlers past the map, and what they took back. -/
structure FiledAll
    (env : Env)
    (h : List Obs)
    (s : State) : Prop where
  registered : ∀ c seq, .registered c seq ∈ h →
    Filed env h s seq
  handlers : ∀ c seq id,
    (∃ msg forwarded,
      s.handler c = .queueing seq id msg forwarded) ∨
    s.handler c = .unregistering seq id →
      .registered c seq ∈ h
  unregistered : ∀ c seq, .unregistered c seq ∈ h →
    .registered c seq ∈ h

/- A request is undecided where it was, or it is new. -/
private theorem undecided_before
    (hStep : ProxyStep env s e s' o)
    (hTaken : (s'.handler c).undecided? = some seq) :
    (s.handler c).undecided? = some seq ∨
      seq = s.allocated := by
  rcases hStep.handler_cases c with
    hSame | hNew | ⟨event, rfl, hTask⟩
  · rw [hSame] at hTaken
    exact .inl hTaken
  · rw [hNew] at hTaken
    cases hTaken
  · cases hTask with
    | idle hRunning hBefore hAfter hEvent =>
        simp only [Function.update_self,
          Handler.undecided?_of_isIdle hAfter] at hTaken
        cases hTaken
    | allocated hAt hHook hId hNext =>
        simp only [Function.update_self] at hTaken
        rcases hNext with rfl | ⟨forwarded, -, rfl⟩
        · cases hTaken
        · cases hTaken
          exact .inr rfl
    | _ =>
        simp only [Function.update_self] at hTaken
        cases hTaken

/- The map decides on what its handler holds undecided. -/
private theorem decided_step
    (hStep : ProxyStep env s e s' o)
    (hMem : .refused c seq ∈ o ∨ .registered c seq ∈ o) :
    (s.handler c).undecided? = some seq ∧
      (s'.handler c).undecided? = none := by
  cases hStep with
  | client hTask =>
      cases hTask with
      | registered hAt | refusedSent hAt
      | refusedClosed hAt | refusedBlocked hAt =>
          simp only [List.mem_cons, Obs.refused.injEq,
            Obs.registered.injEq, reduceCtorEq,
            List.not_mem_nil, or_false, false_or] at hMem
          rcases hMem with ⟨rfl, rfl⟩
          simp [hAt, Handler.undecided?]
      | _ => simp at hMem
  | writer hTask => cases hTask <;> simp at hMem
  | heartbeat hTask => cases hTask <;> simp at hMem
  | upstream hTask => cases hTask <;> simp at hMem
  | reader hTask => cases hTask <;> simp at hMem
  | _ => simp at hMem

/- A request that was registered stays filed. -/
private theorem Filed.step
    (hNext : (proxy env).step s e = some (s', o))
    (hFiled : Filed env h s seq) :
    Filed env (h ++ o) s' seq := by
  have hStep := step_cases hNext
  refine
    { drawn := Nat.lt_of_lt_of_le hFiled.drawn
        hStep.allocated_le
      notRefused := ?_
      printable := ?_
      decided := ?_ }
  · intro c hMem
    rcases List.mem_append.mp hMem with hOld | hNew
    · exact hFiled.notRefused c hOld
    · exact hFiled.decided c
        (decided_step hStep (.inl hNew)).1
  · intro c sent action msg originalId id hMem
    rcases List.mem_append.mp hMem with hOld | hNew
    · exact hFiled.printable c sent action msg originalId id
        hOld
    · have hDraw : seq ∈ o.filterMap Obs.draw? :=
        List.mem_filterMap.mpr ⟨_, hNew, rfl⟩
      rcases hStep.draws with ⟨hNone, -⟩ | ⟨hOne, -⟩
      · rw [hNone] at hDraw
        cases hDraw
      · rw [hOne, List.mem_singleton] at hDraw
        exact absurd hFiled.drawn (by omega)
  · intro c hTaken
    rcases undecided_before hStep hTaken with hOld | hNew
    · exact hFiled.decided c hOld
    · exact absurd hFiled.drawn (by omega)

/- A request is filed when it is registered. -/
private theorem filed_of_registered
    {es : List Event}
    (hRun : (proxy env).Run es h s)
    (hNext : (proxy env).step s e = some (s', o))
    (hNew : .registered c seq ∈ o) :
    Filed env (h ++ o) s' seq := by
  have hStep := step_cases hNext
  have hKept := fatesKept_of_run hRun
  rcases decided_step hStep (.inr hNew) with
    ⟨hTaken, hGone⟩
  have hHeld : (fates env).held s seq (.handler c) := hTaken
  have hDrawn : seq < s.allocated :=
    hKept.issued_of_held hHeld
  refine
    { drawn := Nat.lt_of_lt_of_le hDrawn hStep.allocated_le
      notRefused := ?_
      printable := ?_
      decided := ?_ }
  · intro c' hMem
    rcases List.mem_append.mp hMem with hOld | hLater
    · have hLast := hKept.last_of_counted hOld
        (show (fates env).assign (.refused c' seq) =
          some (seq, .refused) from rfl) rfl
      cases hLast.symm.trans (hKept.tracks _ _ hHeld)
    · cases hStep with
      | client hTask =>
          cases hTask <;> simp at hNew hLater
      | writer hTask => cases hTask <;> simp at hNew
      | heartbeat hTask => cases hTask <;> simp at hNew
      | upstream hTask => cases hTask <;> simp at hNew
      | reader hTask => cases hTask <;> simp at hNew
      | _ => simp at hNew
  · intro c' sent action msg originalId id hMem
    rcases List.mem_append.mp hMem with hOld | hLater
    · exact printable_of_undecided hRun hOld hTaken
    · have hDraw : seq ∈ o.filterMap Obs.draw? :=
        List.mem_filterMap.mpr ⟨_, hLater, rfl⟩
      rcases hStep.draws with ⟨hNone, -⟩ | ⟨hOne, -⟩
      · rw [hNone] at hDraw
        cases hDraw
      · rw [hOne, List.mem_singleton] at hDraw
        exact absurd hDrawn (by omega)
  · intro c' hAfter
    rcases undecided_before hStep hAfter with
      hOld | hFresh
    · have hHeld' : (fates env).held s seq (.handler c') :=
        hOld
      cases hKept.tracks.unique hHeld hHeld'
      rw [hGone] at hAfter
      cases hAfter
    · exact absurd hDrawn (by omega)

/- A handler past the map has registered its request. -/
private theorem FiledAll.handlers_step
    (hFiled : FiledAll env h s)
    (hStep : ProxyStep env s e s' o)
    (hAt : (∃ msg forwarded,
        s'.handler c = .queueing seq id msg forwarded) ∨
      s'.handler c = .unregistering seq id) :
    .registered c seq ∈ h ++ o := by
  rcases hStep.handler_cases c with
    hSame | hNew | ⟨event, rfl, hTask⟩
  · rw [hSame] at hAt
    exact List.mem_append_left o
      (hFiled.handlers c seq id hAt)
  · rw [hNew] at hAt
    rcases hAt with ⟨msg, forwarded, hAt⟩ | hAt
    · cases hAt
    · cases hAt
  · cases hTask with
    | idle hRunning hBefore hAfter hEvent =>
        simp only [Function.update_self] at hAt
        rcases hAt with ⟨msg, forwarded, rfl⟩ | rfl
        · cases hAfter
        · cases hAfter
    | registered hAt' =>
        simp only [Function.update_self] at hAt
        rcases hAt with ⟨msg, forwarded, hAt⟩ | hAt
        · cases hAt
          exact List.mem_append_right h List.mem_cons_self
        · cases hAt
    | requestFailed hAt' hClosed =>
        simp only [Function.update_self] at hAt
        rcases hAt with ⟨msg, forwarded, hAt⟩ | hAt
        · cases hAt
        · cases hAt
          exact List.mem_append_left _
            (hFiled.handlers c seq id
              (.inl ⟨_, _, hAt'⟩))
    | allocated hAt' hHook hId hNext =>
        simp only [Function.update_self] at hAt
        rcases hNext with rfl | ⟨text, -, rfl⟩
        · rcases hAt with ⟨msg, forwarded, hAt⟩ | hAt
          · cases hAt
          · cases hAt
        · rcases hAt with ⟨msg, forwarded, hAt⟩ | hAt
          · cases hAt
          · cases hAt
    | _ =>
        simp only [Function.update_self] at hAt
        rcases hAt with ⟨msg, forwarded, hAt⟩ | hAt
        · cases hAt
        · cases hAt

theorem filedAll_of_run
    {es : List Event}
    (hRun : (proxy env).Run es h s) :
    FiledAll env h s := by
  refine Machine.run_induction
    (motive := fun _ h s => FiledAll env h s) ?_ ?_ hRun
  · refine
      { registered := nofun
        handlers := ?_
        unregistered := nofun }
    rintro c seq id (⟨msg, forwarded, hAt⟩ | hAt)
    · cases hAt
    · cases hAt
  · intro es h s e s' o hBefore hFiled hNext
    have hStep := step_cases hNext
    refine
      { registered := ?_
        handlers := ?_
        unregistered := ?_ }
    · intro c seq hMem
      rcases List.mem_append.mp hMem with hOld | hNew
      · exact (hFiled.registered c seq hOld).step hNext
      · exact filed_of_registered hBefore hNext hNew
    · exact fun c seq id hAt =>
        hFiled.handlers_step hStep hAt
    · intro c seq hMem
      rcases List.mem_append.mp hMem with hOld | hNew
      · exact List.mem_append_left o
          (hFiled.unregistered c seq hOld)
      · apply List.mem_append_left o
        cases hStep with
        | client hTask =>
            cases hTask with
            | unregistered hAt =>
                simp only [List.mem_singleton,
                  Obs.unregistered.injEq] at hNew
                rcases hNew with ⟨rfl, rfl⟩
                exact hFiled.handlers _ _ _ (.inr hAt)
            | _ => simp at hNew
        | writer hTask => cases hTask <;> simp at hNew
        | heartbeat hTask => cases hTask <;> simp at hNew
        | upstream hTask => cases hTask <;> simp at hNew
        | reader hTask => cases hTask <;> simp at hNew
        | _ => simp at hNew

/- Only the request's own client is told of its fate. -/
private theorem about_client
    {es : List Event}
    {sent originalId : Value}
    {action : HookAction}
    {x : Obs}
    {c' : ClientId}
    (hRun : (proxy env).Run es h s)
    (hReq :
      .request c sent action msg originalId seq id ∈ h)
    (hMem : x ∈ h)
    (hAbout : x.about? = some (c', seq)) :
    c' = c := by
  rcases about_of_run hRun hMem hAbout with
    ⟨id', originalId', msg', sent', action', hReq'⟩
  cases draw_unique hRun hReq hReq' rfl rfl
  rfl

/- A request has a fate. -/
private theorem exists_fate
    {es : List Event}
    {sent originalId : Value}
    {action : HookAction}
    (hRun : (proxy env).Run es h s)
    (hIds : s.allocated ≤ 2 ^ 64)
    (hReq :
      .request c sent action msg originalId seq id ∈ h) :
    ∃ fate, HasFate env h s c msg seq id fate := by
  rcases located_of_run hRun hIds hReq with
    hNone | hTaken | ⟨c', hRefused⟩ |
    (hHolds | ⟨conn, c', hRemoved⟩ | ⟨c', running, hOut⟩) |
    ⟨c', hBack⟩
  · exact ⟨.unprintable, hNone⟩
  · exact ⟨.undecided, hTaken⟩
  · cases about_client hRun hReq hRefused rfl
    exact ⟨.refused, hRefused⟩
  · exact ⟨.waiting, hHolds⟩
  · cases about_client hRun hReq hRemoved rfl
    exact ⟨.answered, conn, hRemoved⟩
  · cases about_client hRun hReq hOut rfl
    exact ⟨.drained, running, hOut⟩
  · cases about_client hRun hReq hBack rfl
    by_cases hAnswered : Answered h c seq
    · exact ⟨.answered, hAnswered⟩
    · by_cases hOut : DrainedOut h c seq
      · exact ⟨.drained, hOut⟩
      · exact ⟨.withdrawn, hBack, hAnswered, hOut⟩

/- What was taken back has no other fate. -/
private theorem fate_of_withdrawn
    {es : List Event}
    {sent originalId : Value}
    {action : HookAction}
    {fate : Fate}
    (hRun : (proxy env).Run es h s)
    (hReq :
      .request c sent action msg originalId seq id ∈ h)
    (hBack : HasFate env h s c msg seq id .withdrawn)
    (hFate : HasFate env h s c msg seq id fate) :
    fate = .withdrawn := by
  rcases hBack with ⟨hBack, hNotAnswered, hNotOut⟩
  have hAll := filedAll_of_run hRun
  have hFiled :=
    hAll.registered c seq (hAll.unregistered c seq hBack)
  cases fate with
  | unprintable =>
      exact absurd hFate (hFiled.printable _ _ _ _ _ _ hReq)
  | undecided => exact absurd hFate (hFiled.decided c)
  | refused => exact absurd hFate (hFiled.notRefused c)
  | waiting =>
      exact absurd hFate ((dropsKept_of_run hRun).recorded
        c seq (.inr hBack)).2
  | withdrawn => rfl
  | answered => exact absurd hFate hNotAnswered
  | drained => exact absurd hFate hNotOut

/- Fates with the same place are the same. -/
private theorem Fate.eq_of_place?
    {fate fate' : Fate}
    {place : FatePlace}
    (hPlace : fate.place? c = some place)
    (hPlace' : fate'.place? c = some place) :
    fate = fate' := by
  cases fate <;> cases hPlace <;> cases fate' <;> first
    | rfl
    | cases hPlace'

/- A request has at most one fate. -/
private theorem fate_unique
    {es : List Event}
    {sent originalId : Value}
    {action : HookAction}
    {fate fate' : Fate}
    (hRun : (proxy env).Run es h s)
    (hReq :
      .request c sent action msg originalId seq id ∈ h)
    (hFate : HasFate env h s c msg seq id fate)
    (hFate' : HasFate env h s c msg seq id fate') :
    fate = fate' := by
  have hKept := fatesKept_of_run hRun
  cases hPlace : fate.place? c with
  | none =>
      have hBack : fate = .withdrawn := by
        cases fate <;> first
          | rfl
          | cases hPlace
      subst hBack
      exact (fate_of_withdrawn hRun hReq hFate hFate').symm
  | some place =>
      cases hPlace' : fate'.place? c with
      | none =>
          have hBack : fate' = .withdrawn := by
            cases fate' <;> first
              | rfl
              | cases hPlace'
          subst hBack
          exact fate_of_withdrawn hRun hReq hFate' hFate
      | some place' =>
          have hLast := last_of_fate hKept hReq hFate hPlace
          have hLast' :=
            last_of_fate hKept hReq hFate' hPlace'
          cases hLast.symm.trans hLast'
          exact Fate.eq_of_place? hPlace hPlace'

/- A reader delivers a response before it takes another. -/
private theorem delivery_step
    {conn : ConnId}
    (hNumbered : Numbered s)
    (hStep : ProxyStep env s e s' o)
    (hDelivery :
      (∃ trimmed text,
        s.reader conn = .delivering c seq trimmed text) ∨
      (∃ trimmed text,
        .reply (.reader conn trimmed) c seq text ∈ h) ∨
      .undelivered c seq ∈ h) :
    (∃ trimmed text,
      s'.reader conn = .delivering c seq trimmed text) ∨
    (∃ trimmed text,
      .reply (.reader conn trimmed) c seq text ∈ h ++ o) ∨
    .undelivered c seq ∈ h ++ o := by
  rcases hDelivery with
    ⟨trimmed, text, hAt⟩ | ⟨trimmed, text, hMem⟩ | hMem
  · rcases hStep.reader_cases conn with
      hSame | ⟨hNew, -⟩ | ⟨event, rfl, hTask⟩
    · rw [hSame]
      exact .inl ⟨trimmed, text, hAt⟩
    · rw [hNumbered.reader conn (Nat.le_of_eq hNew.symm)]
        at hAt
      cases hAt
    · cases hTask with
      | delivered hAt' hSend =>
          cases hAt.symm.trans hAt'
          exact .inr (.inl ⟨trimmed, text,
            List.mem_append_right h List.mem_cons_self⟩)
      | undelivered hAt' =>
          cases hAt.symm.trans hAt'
          exact .inr (.inr
            (List.mem_append_right h List.mem_cons_self))
      | hooked hAt' =>
          rcases hAt' with hAt' | hAt'
          · cases hAt.symm.trans hAt'
          · cases hAt.symm.trans hAt'
      | started hAt' | skipped hAt' | panicked hAt'
      | received hAt' | removed hAt' | missed hAt'
      | broadcast hAt' | stopped hAt' =>
          cases hAt.symm.trans hAt'
  · exact .inr (.inl
      ⟨trimmed, text, List.mem_append_left o hMem⟩)
  · exact .inr (.inr (List.mem_append_left o hMem))

/- A reader that takes a response starts to deliver it. -/
private theorem delivery_new
    {conn : ConnId}
    (hStep : ProxyStep env s e s' o)
    (hMem : .removed conn c seq ∈ o) :
    ∃ trimmed text,
      s'.reader conn = .delivering c seq trimmed text := by
  cases hStep with
  | client hTask => cases hTask <;> simp at hMem
  | writer hTask => cases hTask <;> simp at hMem
  | heartbeat hTask => cases hTask <;> simp at hMem
  | upstream hTask => cases hTask <;> simp at hMem
  | reader hTask =>
      cases hTask with
      | removed =>
          simp only [List.mem_singleton,
            Obs.removed.injEq] at hMem
          rcases hMem with ⟨rfl, rfl, rfl⟩
          exact ⟨_, _, Function.update_self _ _ _⟩
      | _ => simp at hMem
  | _ => simp at hMem

/-
  In every run with fewer draws than ids, every request that
  drew an id has exactly one fate, and every response that
  was taken for a request is delivered to its client, unless
  that client is gone.
-/
theorem requests_accounted
    {es : List Event}
    (hRun : (proxy env).Run es h s)
    (hIds : s.allocated ≤ 2 ^ 64) :
    Accounting env h s := by
  refine
    { fate := ?_
      delivery := ?_ }
  · intro c sent action msg originalId seq id hReq
    rcases exists_fate hRun hIds hReq with ⟨fate, hFate⟩
    exact ⟨fate, hFate, fun fate' hFate' =>
      fate_unique hRun hReq hFate' hFate⟩
  · refine Machine.run_induction
      (motive := fun _ h s => ∀ conn c seq,
        .removed conn c seq ∈ h →
          (∃ trimmed text,
            s.reader conn =
              .delivering c seq trimmed text) ∨
          (∃ trimmed text,
            .reply (.reader conn trimmed) c seq text ∈ h) ∨
          .undelivered c seq ∈ h)
      nofun ?_ hRun
    intro es h s e s' o hBefore ih hNext conn c seq hMem
    have hStep := step_cases hNext
    rcases List.mem_append.mp hMem with hOld | hNew
    · exact delivery_step (numbered_of_run hBefore) hStep
        (ih conn c seq hOld)
    · exact .inl (delivery_new hStep hNew)

theorem requests_accounted_parkSession :
    ∃ h s, (proxy parkEnv).Run parkSession h s ∧
      Answered h 0 0 ∧ Accounting parkEnv h s := by
  have hRun : (proxy parkEnv).Run parkSession _ _ :=
    Machine.run_outcome (by decide +kernel)
  refine ⟨_, _, hRun, ⟨0, by decide +kernel⟩, ?_⟩
  exact requests_accounted hRun (by decide +kernel)

end Control

end SeestarProxy
