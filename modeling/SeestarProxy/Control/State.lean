import Mathlib
import SeestarProxy.Hooks
import SeestarProxy.Library.Channel
import SeestarProxy.Protocol
import SeestarProxy.Text

/-
  The state of the control proxy on port 4700.

  Every task has a program counter that names the await
  point it is at: one handler and one writer for each
  client, one reader for each telescope connection, the
  heartbeat, and the upstream task that connects, drains the
  pending map and writes. They share the id counter, the
  handshake flag, the mutex with the pending map, the
  upstream channel, the response channels and the event
  broadcast.

  A request that draws an id is known by the number of ids
  drawn before it, its `seq`. Sequence numbers, the origin
  and the value of a queued message, and the connection of a
  broadcast are only recorded: no step reads them.

  Main declarations:
    * `PendingRequest`, `PendingMap` and `Message`
    * `Handler`, `Writer`, `Reader`, `Upstream`, `Heartbeat`
    * `State`, `State.init` and `Obs`
-/

------------------------------------------------------------
-- Constants and Identities
------------------------------------------------------------

namespace SeestarProxy

namespace Control

open Library

/- Limit on requests that await a telescope response. -/
def maxPendingRequests : Nat := 1024

/- The first id that the proxy hands out. -/
def firstId : UInt64 := 100000

/- Clients, in the order in which they were accepted. -/
abbrev ClientId := Nat

/- Telescope connections, in the order they were made. -/
abbrev ConnId := Nat

/- The id drawn as the `seq`-th one; the counter wraps. -/
def idOf (seq : Nat) : UInt64 :=
  firstId + UInt64.ofNat seq

@[simp] theorem idOf_zero : idOf 0 = firstId := rfl

/- The counter moves to the next id. -/
theorem idOf_succ (seq : Nat) :
    idOf seq + 1 = idOf (seq + 1) := by
  rw [idOf, idOf, UInt64.ofNat_add, ← UInt64.add_assoc]
  rfl

/- Before the counter wraps, ids count up from the first. -/
theorem toNat_idOf
    {seq : Nat}
    (hSeq : seq + 100000 < 2 ^ 64) :
    (idOf seq).toNat = 100000 + seq := by
  have hFirst : firstId.toNat = 100000 := rfl
  rw [idOf, UInt64.toNat_add, UInt64.toNat_ofNat', hFirst]
  omega

/- Fewer than `2 ^ 64` draws have different ids. -/
theorem idOf_inj
    {seq seq' : Nat}
    (hSeq : seq < 2 ^ 64)
    (hSeq' : seq' < 2 ^ 64)
    (hId : idOf seq = idOf seq') :
    seq = seq' := by
  have hOf : UInt64.ofNat seq = UInt64.ofNat seq' := by
    rw [idOf, idOf] at hId
    exact (UInt64.add_right_inj firstId).mp hId
  have hNat := congrArg UInt64.toNat hOf
  rw [UInt64.toNat_ofNat', UInt64.toNat_ofNat'] at hNat
  omega

/-
  What surrounds the proxy: the JSON library, whether hook
  scripts are loaded, and which log levels are enabled.
-/
structure Env where
  serde : Serde
  hooks : Bool
  warnLogged : Bool
  debugLogged : Bool

------------------------------------------------------------
-- Shared Data
------------------------------------------------------------

/- A request that awaits its response. -/
structure PendingRequest where
  clientTx : ClientId
  originalId : Value
  seq : Nat

/- The pending map, from upstream ids to requests. -/
abbrev PendingMap := AList fun _ : UInt64 => PendingRequest

/- Number of entries of the pending map. -/
def PendingMap.size (pending : PendingMap) : Nat :=
  pending.entries.length

namespace PendingMap

variable {pending : PendingMap}
variable {key other : UInt64}
variable {entry found : PendingRequest}

/- An entry found after an insertion is new or was there. -/
theorem lookup_insert_some
    (hFound :
      (pending.insert key entry).lookup other =
        some found) :
    (other = key ∧ found = entry) ∨
      (other ≠ key ∧ pending.lookup other = some found) := by
  by_cases hKey : other = key
  · subst hKey
    rw [AList.lookup_insert] at hFound
    exact Or.inl ⟨rfl, (Option.some.inj hFound).symm⟩
  · rw [AList.lookup_insert_ne hKey] at hFound
    exact Or.inr ⟨hKey, hFound⟩

/- An entry found after a removal was there before. -/
theorem lookup_erase_some
    (hFound :
      (pending.erase key).lookup other = some found) :
    other ≠ key ∧ pending.lookup other = some found := by
  by_cases hKey : other = key
  · subst hKey
    simp at hFound
  · rw [AList.lookup_erase_ne hKey] at hFound
    exact ⟨hKey, hFound⟩

/- A new key makes the map larger by one. -/
theorem size_insert
    (hFresh : pending.lookup key = none) :
    size (pending.insert key entry) = size pending + 1 := by
  have hNotMem : key ∉ pending :=
    AList.lookup_eq_none.mp hFresh
  rw [size, AList.entries_insert_of_notMem hNotMem]
  rfl

/- An insertion makes the map larger by at most one. -/
theorem size_insert_le :
    size (pending.insert key entry) ≤ size pending + 1 := by
  have hSublist :
      List.Sublist (pending.erase key).entries
        pending.entries :=
    List.kerase_sublist key pending.entries
  exact Nat.succ_le_succ hSublist.length_le

/- Removing a key never makes the map larger. -/
theorem size_erase_le :
    size (pending.erase key) ≤ size pending := by
  have hSublist :
      List.Sublist (pending.erase key).entries
        pending.entries :=
    List.kerase_sublist key pending.entries
  exact hSublist.length_le

/- Removing a key of the map makes it smaller by one. -/
theorem size_erase
    (hFound : pending.lookup key = some entry) :
    size (pending.erase key) + 1 = size pending := by
  have hMem : key ∈ pending.keys :=
    AList.lookup_isSome.mp (by rw [hFound]; rfl)
  have hKeys := List.length_erase_add_one hMem
  rw [← AList.keys_erase] at hKeys
  simpa [AList.keys, List.keys, size] using hKeys

/- An insertion never makes the map smaller. -/
theorem size_le_insert :
    size pending ≤ size (pending.insert key entry) := by
  cases hFound : pending.lookup key with
  | none =>
      rw [size_insert hFound]
      exact Nat.le_succ _
  | some found =>
      rw [← size_erase hFound]
      exact Nat.le_refl _

/- A map of some size loses one entry with its first key. -/
theorem exists_first
    {n : Nat}
    (hSize : size pending = n + 1) :
    ∃ key entry, pending.lookup key = some entry ∧
      size (pending.erase key) = n := by
  rcases pending with ⟨entries, hNodup⟩
  cases entries with
  | nil => cases hSize
  | cons first rest =>
      rcases first with ⟨key, entry⟩
      refine ⟨key, entry, ?_, ?_⟩
      · simp [AList.lookup]
      · have hLength : rest.length = n := by
          simpa [size] using hSize
        simpa [size, AList.erase] using hLength

/- Only the empty map has size zero. -/
theorem lookup_of_size_eq_zero
    (hSize : size pending = 0) :
    pending.lookup key = none := by
  rw [AList.lookup_eq_none, AList.mem_keys]
  have hEmpty : pending.entries = [] :=
    List.length_eq_zero_iff.mp hSize
  simp [AList.keys, hEmpty]

end PendingMap

/- Where a message for the telescope comes from. -/
inductive Origin where
| request (client : ClientId) (seq : Nat)
| notification (client : ClientId)
| heartbeat (seq : Nat)
| hook
deriving DecidableEq, Repr

/- A message for the telescope: the line and its value. -/
structure Message where
  line : String
  value : Value
  origin : Origin
deriving DecidableEq, Repr

/- The tasks that can hold the mutex of the pending map. -/
inductive Holder where
| handler (client : ClientId)
| upstream
deriving DecidableEq, Repr

------------------------------------------------------------
-- Program Counters
------------------------------------------------------------

/-
  Where the handler of a client is. `failed` is a return by
  an error or a panic, which leaves the writer running;
  `ended` is the normal return, which aborts the writer.
-/
inductive Handler where
| absent
| reading
| hooking (trimmed : String) (sent : Value)
| replying (reply : String)
| registering (seq : Nat) (id : UInt64)
    (originalId msg : Value) (forwarded : String)
| refusing (seq : Nat) (error : String)
| queueing (seq : Nat) (id : UInt64)
    (msg : Value) (forwarded : String)
| forwarding (msg : Value) (forwarded : String)
| unregistering (seq : Nat) (id : UInt64)
| ended
| failed
deriving DecidableEq, Repr

/- Where the writer of a client is. -/
inductive Writer where
| absent
| selecting
| writing (text : String)
| ended
deriving DecidableEq, Repr

/-
  Where the reader of a connection is. `panicked` skips the
  code after the read loop.
-/
inductive Reader where
| absent
| spawned
| reading
| eventHook (trimmed : String)
| removing (id : UInt64) (msg : Value) (trimmed : String)
| responseHook (trimmed : String)
| broadcasting (trimmed : String)
| delivering (client : ClientId) (seq : Nat)
    (trimmed text : String)
| done
| panicked
deriving DecidableEq, Repr

/- The reader of a connection will process nothing more. -/
def Reader.IsOver : Reader → Prop
| .done | .panicked => True
| _ => False

instance (reader : Reader) : Decidable reader.IsOver := by
  cases reader <;> unfold Reader.IsOver <;> infer_instance

/-
  Where the upstream task is. `connecting` stands for the
  connect loop and its pauses.
-/
inductive Upstream where
| waiting
| connecting
| connected
| locking
| draining
| hooking
| selecting (conn : ConnId)
| writing (conn : ConnId) (message : Message)
| stopped
deriving DecidableEq, Repr

/- Where the heartbeat task is. -/
inductive Heartbeat where
| absent
| sleeping
| checked
| sending (message : Message)
| ended
deriving DecidableEq, Repr

------------------------------------------------------------
-- The State
------------------------------------------------------------

/- The state of the control proxy. -/
structure State where
  nextId : UInt64
  allocated : Nat
  handshakeDone : Bool
  pending : PendingMap
  lock : Option Holder
  upstreamTx : Channel Message 256
  events : List (ConnId × String)
  upstreamStarted : Bool
  clients : Nat
  handler : ClientId → Handler
  writer : ClientId → Writer
  responseTx : ClientId → Channel String 64
  eventRx : ClientId → Nat
  connections : Nat
  reader : ConnId → Reader
  written : ConnId → List Message
  upstream : Upstream
  heartbeat : Heartbeat
  upstreamControlUp : Bool

/- The state in which `run` has bound its listener. -/
def State.init : State where
  nextId := firstId
  allocated := 0
  handshakeDone := false
  pending := ∅
  lock := none
  upstreamTx := Channel.empty Message 256
  events := []
  upstreamStarted := false
  clients := 0
  handler := fun _ => .absent
  writer := fun _ => .absent
  responseTx := fun _ => Channel.empty String 64
  eventRx := fun _ => 0
  connections := 0
  reader := fun _ => .absent
  written := fun _ => []
  upstream := .waiting
  heartbeat := .absent
  upstreamControlUp := false

/- The task of a client's handler has not returned. -/
def State.Running (s : State) (c : ClientId) : Prop :=
  s.handler c ≠ .absent ∧ s.handler c ≠ .ended ∧
    s.handler c ≠ .failed

instance (s : State) (c : ClientId) :
    Decidable (s.Running c) := by
  unfold State.Running
  infer_instance

------------------------------------------------------------
-- Observations
------------------------------------------------------------

/- Which path put a reply on a response channel. -/
inductive ReplySource where
| reader (conn : ConnId) (trimmed : String)
| drain
| overflow
deriving DecidableEq, Repr

/-
  What a step shows. A request is recorded when it draws its
  id, with the value the client sent, the action of the
  request hook and the resulting message.
-/
inductive Obs where
| line (client : ClientId) (sent : Value)
| request (client : ClientId) (sent : Value)
    (action : HookAction) (msg originalId : Value)
    (seq : Nat) (id : UInt64)
| heartbeat (seq : Nat)
| registered (client : ClientId) (seq : Nat)
| refused (client : ClientId) (seq : Nat)
| unregistered (client : ClientId) (seq : Nat)
| queued (message : Message)
| taken (message : Message)
| lost (message : Message)
| written (conn : ConnId) (message : Message)
| received (conn : ConnId) (trimmed : String)
| removed (conn : ConnId) (client : ClientId) (seq : Nat)
| drained (client : ClientId) (seq : Nat) (running : Bool)
| reply (source : ReplySource) (client : ClientId)
    (seq : Nat) (text : String)
| undelivered (client : ClientId) (seq : Nat)
| hookReply (client : ClientId) (text : String)
| broadcast (conn : ConnId) (trimmed : String)
| eventRead (client : ClientId) (conn : ConnId)
    (trimmed : String)
| delivered (client : ClientId) (text : String)
deriving DecidableEq, Repr

end Control

end SeestarProxy
