import SeestarProxy.Wireguard.PacketLoop

/-
  How the packet loop drains boringtun.

  Boringtun keeps packets in a queue. When the result for a
  datagram goes to the network, it is to be called with empty
  datagrams until it is done, and each call takes one packet
  from the queue. Here the loop runs together with a tunnel
  that keeps this contract, so that an iteration of the loop
  is a datagram followed by the steps up to the next select.

  Main declarations:
    * `Tunnel`
    * `Turn`, `Call` and `tunnelLoop`
    * `DrainsOnce` and `drains_once_iff`
-/

------------------------------------------------------------
-- The Contract
------------------------------------------------------------

namespace SeestarProxy

namespace Wireguard

namespace PacketLoop

open Library

/-
  A tunnel, with the packets that it has queued. An empty
  datagram takes the first of them, if there is one.
-/
structure Tunnel (τ : Type) where
  decapsulate : τ → Bytes → TunnResult × τ
  encapsulate : τ → Bytes → TunnResult × τ
  updateTimers : τ → TunnResult × τ
  queue : τ → List Bytes
  done_of_nil : ∀ t, queue t = [] →
    (decapsulate t []).1 = .done ∧
      queue (decapsulate t []).2 = []
  next_of_cons : ∀ t packet packets,
    queue t = packet :: packets →
    (decapsulate t []).1 = .writeToNetwork packet ∧
      queue (decapsulate t []).2 = packets

------------------------------------------------------------
-- The Loop with a Tunnel
------------------------------------------------------------

/-
  What happens next, without the results of boringtun. A
  step within an iteration is `next`.
-/
inductive Turn where
| recvError
| datagram (src : SocketAddr) (data : Bytes)
| next
| egress (packet : Bytes)
| timer
| discovery
deriving DecidableEq, Repr

/- The calls of `decapsulate` that a step makes. -/
inductive Call where
| passed
| emptied
deriving DecidableEq, Repr

variable {τ : Type}

/- The event of a turn, with the result of the tunnel. -/
def Turn.toEvent
    (handlers : Handlers)
    (tunnel : Tunnel τ)
    (s : State)
    (t : τ) : Turn → Option (Event × τ)
| .recvError => some (.recvError, t)
| .datagram src data =>
    let (result, t') := tunnel.decapsulate t data
    some (.datagram src data result, t')
| .next =>
    match s.phase with
    | .selecting => none
    | .emptying _ _ =>
        let (result, t') := tunnel.decapsulate t []
        some (.decapsulate result, t')
    | .repeating _ data =>
        let (result, t') := tunnel.decapsulate t data
        some (.decapsulate result, t')
    | .responding _ response =>
        let (result, t') := tunnel.encapsulate t response
        some (.encapsulate result, t')
| .egress packet =>
    match s.peerAddr with
    | some _ =>
        let (result, t') := tunnel.encapsulate t packet
        some (.egress packet result, t')
    | none => some (.egress packet .done, t)
| .timer =>
    match s.peerAddr with
    | some _ =>
        let (result, t') := tunnel.updateTimers t
        some (.timer result, t')
    | none => some (.timer .done, t)
| .discovery =>
    match s.sessionActive, s.peerAddr with
    | true, some _ =>
        let (result, t') :=
          tunnel.encapsulate t handlers.discoveryPacket
        some (.discovery result, t')
    | _, _ => some (.discovery .done, t)

/- How `decapsulate` is called in a turn. -/
def Turn.calls (s : State) : Turn → List Call
| .datagram _ _ => [.passed]
| .next =>
    match s.phase with
    | .emptying _ _ => [.emptied]
    | .repeating _ _ => [.passed]
    | .selecting | .responding _ _ => []
| .recvError | .egress _ | .timer | .discovery => []

/- The packet loop with a tunnel as a machine. -/
def tunnelLoop
    (handlers : Handlers)
    (tunnel : Tunnel τ)
    (t₀ : τ) : Machine (State × τ) Turn Call where
  init := (State.init, t₀)
  step := fun (s, t) turn =>
    match turn.toEvent handlers tunnel s t with
    | none => none
    | some (event, t') =>
        match step handlers s event with
        | none => none
        | some (s', _) => some ((s', t'), turn.calls s)

variable {handlers : Handlers} {tunnel : Tunnel τ} {t₀ : τ}
variable {s s' : State} {t t' : τ} {calls : List Call}

/- A turn is a step of the packet loop. -/
theorem step_of_tunnelLoop
    {turn : Turn}
    (hStep : (tunnelLoop handlers tunnel t₀).step (s, t)
      turn = some ((s', t'), calls)) :
    ∃ event o,
      (packetLoop handlers).step s event = some (s', o) := by
  change (match turn.toEvent handlers tunnel s t with
    | none => none
    | some (event, t') =>
        match step handlers s event with
        | none => none
        | some (s', _) => some ((s', t'), turn.calls s)) = _
    at hStep
  cases hEvent : turn.toEvent handlers tunnel s t with
  | none =>
      rw [hEvent] at hStep
      cases hStep
  | some pair =>
      rcases pair with ⟨event, t''⟩
      rw [hEvent] at hStep
      dsimp only at hStep
      cases hNext : step handlers s event with
      | none =>
          rw [hNext] at hStep
          cases hStep
      | some next =>
          rcases next with ⟨s'', o⟩
          rw [hNext] at hStep
          cases hStep
          exact ⟨event, o, hNext⟩

------------------------------------------------------------
-- Iterations
------------------------------------------------------------

/- The result goes to the network. -/
def TunnResult.isWriteToNetwork : TunnResult → Bool
| .writeToNetwork _ => true
| _ => false

/- The turns of an iteration with `n` steps of its own. -/
def iteration
    (src : SocketAddr)
    (data : Bytes)
    (n : Nat) : List Turn :=
  .datagram src data :: List.replicate n .next

/-
  The iteration for a datagram ends in the select. It passed
  the datagram once, and it left no packet in the queue if
  the first result went to the network. There is no `next`
  in the select, so there is one such `n` at most.
-/
def DrainsOnce
    (handlers : Handlers)
    (tunnel : Tunnel τ)
    (s : State)
    (t : τ)
    (src : SocketAddr)
    (data : Bytes) : Prop :=
  ∃ n s' t' calls,
    (tunnelLoop handlers tunnel t).exec (s, t)
      (iteration src data n) = some ((s', t'), calls) ∧
    s'.phase = .selecting ∧
    calls.count .passed = 1 ∧
    ((tunnel.decapsulate t data).1.isWriteToNetwork = true →
      tunnel.queue t' = [])

/- No packet is queued behind a result for the network. -/
def NothingQueued
    (tunnel : Tunnel τ)
    (t : τ)
    (data : Bytes) : Prop :=
  (tunnel.decapsulate t data).1.isWriteToNetwork = true →
    tunnel.queue (tunnel.decapsulate t data).2 = []

------------------------------------------------------------
-- Steps of an Iteration
------------------------------------------------------------

variable {src peer : SocketAddr} {data response : Bytes}

/- Without a session, a datagram is only passed on. -/
theorem step_probe
    (src : SocketAddr)
    (data : Bytes)
    (hPhase : s.phase = .selecting)
    (hActive : s.sessionActive = false) :
    (tunnelLoop handlers tunnel t₀).step (s, t)
        (.datagram src data) =
      some ((⟨some src,
          (tunnel.decapsulate t data).1.isWriteToTunnelV4,
          (probe handlers src data
            (tunnel.decapsulate t data).1).1⟩,
        (tunnel.decapsulate t data).2), [.passed]) := by
  simp [tunnelLoop, Turn.toEvent, step, hPhase, hActive,
    Turn.calls]

/- With one, its result may start the inner loop. -/
theorem step_datagram
    (src : SocketAddr)
    (data : Bytes)
    (hPhase : s.phase = .selecting)
    (hActive : s.sessionActive = true) :
    (tunnelLoop handlers tunnel t₀).step (s, t)
        (.datagram src data) =
      some ((⟨some src, true,
          (decapsulateDatagram handlers src data
            (tunnel.decapsulate t data).1).1⟩,
        (tunnel.decapsulate t data).2), [.passed]) := by
  simp [tunnelLoop, Turn.toEvent, step, hPhase, hActive,
    Turn.calls]

theorem step_emptying
    (hPhase : s.phase = .emptying src data) :
    (tunnelLoop handlers tunnel t₀).step (s, t) .next =
      some (({ s with phase :=
          (decapsulateEmpty handlers src data
            (tunnel.decapsulate t []).1).1 },
        (tunnel.decapsulate t []).2), [.emptied]) := by
  simp [tunnelLoop, Turn.toEvent, step, hPhase, Turn.calls]

/- The datagram is passed once more. -/
theorem step_repeating
    (hPhase : s.phase = .repeating src data) :
    (tunnelLoop handlers tunnel t₀).step (s, t) .next =
      some (({ s with phase :=
          (decapsulateDatagram handlers src data
            (tunnel.decapsulate t data).1).1 },
        (tunnel.decapsulate t data).2), [.passed]) := by
  simp [tunnelLoop, Turn.toEvent, step, hPhase, Turn.calls]

theorem step_responding
    (hPhase : s.phase = .responding peer response) :
    (tunnelLoop handlers tunnel t₀).step (s, t) .next =
      some (({ s with phase := .selecting },
        (tunnel.encapsulate t response).2), []) := by
  simp [tunnelLoop, Turn.toEvent, step, hPhase, Turn.calls]

/- In the select there is no step of an iteration. -/
theorem step_selecting
    (hPhase : s.phase = .selecting) :
    (tunnelLoop handlers tunnel t₀).step (s, t) .next =
      none := by
  simp [tunnelLoop, Turn.toEvent, hPhase]

------------------------------------------------------------
-- Draining
------------------------------------------------------------

variable {n : Nat}

/- A handled packet takes one more step at most. -/
theorem exec_decrypted
    (pkt : Bytes)
    (peer : SocketAddr)
    (hPhase : s.phase =
      handleDecryptedPacket handlers pkt peer) :
    ∃ n s' t',
      (tunnelLoop handlers tunnel t₀).exec (s, t)
        (List.replicate n .next) = some ((s', t'), []) ∧
      s'.phase = .selecting := by
  have hCases : s.phase = .selecting ∨
      ∃ response, s.phase = .responding peer response := by
    rw [hPhase]
    unfold handleDecryptedPacket
    split
    · exact .inr ⟨_, rfl⟩
    · split
      · exact .inr ⟨_, rfl⟩
      · split
        · exact .inr ⟨_, rfl⟩
        · exact .inl rfl
  rcases hCases with hSelecting | ⟨response, hResponding⟩
  · exact ⟨0, s, t, rfl, hSelecting⟩
  · refine ⟨1, { s with phase := .selecting },
      (tunnel.encapsulate t response).2, ?_, rfl⟩
    change (tunnelLoop handlers tunnel t₀).exec (s, t)
      [.next] = _
    simp only [Machine.exec, step_responding hResponding,
      List.append_nil]

/- In the select, an iteration is over. -/
theorem eq_zero_of_selecting
    {x : State × τ}
    (hExec : (tunnelLoop handlers tunnel t₀).exec (s, t)
      (List.replicate n .next) = some (x, calls))
    (hPhase : s.phase = .selecting) :
    n = 0 := by
  cases n with
  | zero => rfl
  | succ n =>
      rw [List.replicate_succ] at hExec
      simp [Machine.exec, step_selecting hPhase] at hExec

/- What follows the first step decides an iteration. -/
theorem exec_iteration
    {x : State × τ}
    (hFirst : (tunnelLoop handlers tunnel t₀).step (s, t)
      (.datagram src data) = some ((s', t'), [.passed]))
    (hRest : (tunnelLoop handlers tunnel t₀).exec (s', t')
      (List.replicate n .next) = some (x, calls)) :
    (tunnelLoop handlers tunnel t₀).exec (s, t)
      (iteration src data n) = some (x, .passed :: calls) :=
  Machine.exec_cons hFirst hRest

theorem exec_of_iteration
    {x : State × τ}
    (hFirst : (tunnelLoop handlers tunnel t₀).step (s, t)
      (.datagram src data) = some ((s', t'), [.passed]))
    (hExec : (tunnelLoop handlers tunnel t₀).exec (s, t)
      (iteration src data n) = some (x, calls)) :
    ∃ rest, calls = .passed :: rest ∧
      (tunnelLoop handlers tunnel t₀).exec (s', t')
        (List.replicate n .next) = some (x, rest) := by
  rcases Machine.exec_of_cons hFirst hExec with
    ⟨rest, hRest, hCalls⟩
  exact ⟨rest, hCalls, hRest⟩

/- The step that takes a datagram. -/
theorem exists_first
    (handlers : Handlers)
    (tunnel : Tunnel τ)
    (t₀ t : τ)
    (src : SocketAddr)
    (data : Bytes)
    (hPhase : s.phase = .selecting) :
    ∃ s', (tunnelLoop handlers tunnel t₀).step (s, t)
        (.datagram src data) =
        some ((s', (tunnel.decapsulate t data).2),
          [.passed]) ∧
      s'.phase = if s.sessionActive = true then
          (decapsulateDatagram handlers src data
            (tunnel.decapsulate t data).1).1
        else
          (probe handlers src data
            (tunnel.decapsulate t data).1).1 := by
  cases hActive : s.sessionActive with
  | false => exact ⟨_, step_probe src data hPhase hActive, rfl⟩
  | true =>
      exact ⟨_, step_datagram src data hPhase hActive, rfl⟩

/- An empty queue ends the inner loop. -/
theorem exec_emptying_nil
    (handlers : Handlers)
    (t₀ : τ)
    (hPhase : s.phase = .emptying src data)
    (hQueue : tunnel.queue t = []) :
    (tunnelLoop handlers tunnel t₀).exec (s, t)
        (List.replicate 1 .next) =
      some (({ s with phase := .selecting },
        (tunnel.decapsulate t []).2), [.emptied]) := by
  change (tunnelLoop handlers tunnel t₀).exec (s, t) [.next] =
    _
  simp only [Machine.exec, step_emptying hPhase,
    (tunnel.done_of_nil t hQueue).1, decapsulateEmpty,
    processTunnResult, List.append_nil]

/- With nothing queued, the datagram is passed once. -/
theorem drainsOnce_of_nothingQueued
    (handlers : Handlers)
    (src : SocketAddr)
    (hPhase : s.phase = .selecting)
    (hNothing : NothingQueued tunnel t data) :
    DrainsOnce handlers tunnel s t src data := by
  rcases exists_first handlers tunnel t t src data hPhase with
    ⟨s', hFirst, hNext⟩
  unfold DrainsOnce
  unfold NothingQueued at hNothing
  cases hResult : (tunnel.decapsulate t data).1 with
  | writeToNetwork packet =>
      rw [hResult] at hNothing hNext
      have hEmpty := hNothing rfl
      rcases tunnel.done_of_nil _ hEmpty with ⟨hDone, hStill⟩
      cases hActive : s.sessionActive with
      | false =>
          rw [hActive] at hNext
          exact ⟨0, _, _, _, exec_iteration hFirst rfl, hNext,
            rfl, fun _ => hEmpty⟩
      | true =>
          rw [hActive] at hNext
          change s'.phase = .emptying src data at hNext
          have hRest := exec_emptying_nil handlers t hNext
            hEmpty
          exact ⟨1, _, _, _, exec_iteration hFirst hRest, rfl,
            rfl, fun _ => hStill⟩
  | writeToTunnelV4 pkt =>
      rw [hResult] at hNext
      have hHandled : s'.phase =
          handleDecryptedPacket handlers pkt src := by
        rw [hNext]
        split <;> rfl
      rcases exec_decrypted pkt src hHandled with
        ⟨n, s'', t'', hRest, hEnd⟩
      exact ⟨n, s'', t'', _, exec_iteration hFirst hRest, hEnd,
        rfl, nofun⟩
  | err error =>
      rw [hResult] at hNext
      refine ⟨0, _, _, _, exec_iteration hFirst rfl, ?_, rfl,
        nofun⟩
      rw [hNext]
      cases error <;> split <;> rfl
  | done | writeToTunnelV6 _ =>
      rw [hResult] at hNext
      refine ⟨0, _, _, _, exec_iteration hFirst rfl, ?_, rfl,
        nofun⟩
      rw [hNext]
      split <;> rfl

/- The steps of an execution, one after the other. -/
theorem exec_next
    {x : State × τ}
    {step : Call}
    (hExec : (tunnelLoop handlers tunnel t₀).exec (s, t)
      (List.replicate n .next) = some (x, calls))
    (hStep : (tunnelLoop handlers tunnel t₀).step (s, t)
      .next = some ((s', t'), [step]))
    (hGoesOn : x.1.phase ≠ s.phase) :
    ∃ m rest, calls = step :: rest ∧
      (tunnelLoop handlers tunnel t₀).exec (s', t')
        (List.replicate m .next) = some (x, rest) := by
  cases n with
  | zero =>
      cases hExec
      exact absurd rfl hGoesOn
  | succ n =>
      rcases Machine.exec_of_cons hStep hExec with
        ⟨rest, hRest, hCalls⟩
      exact ⟨n, rest, hCalls, hRest⟩

/- A queued packet makes the inner loop start again. -/
theorem passed_again
    {x : State × τ}
    {packet : Bytes}
    {packets : List Bytes}
    (hPhase : s.phase = .emptying src data)
    (hQueue : tunnel.queue t = packet :: packets)
    (hExec : (tunnelLoop handlers tunnel t₀).exec (s, t)
      (List.replicate n .next) = some (x, calls))
    (hEnd : x.1.phase = .selecting) :
    0 < calls.count .passed := by
  have hEmpty :
      (decapsulateEmpty handlers src data
        (tunnel.decapsulate t []).1).1 =
        .repeating src data := by
    rw [(tunnel.next_of_cons t packet packets hQueue).1]
    rfl
  rcases exec_next hExec (step_emptying hPhase)
    (by rw [hEnd, hPhase]; nofun) with
    ⟨m, rest, rfl, hRest⟩
  rw [hEmpty] at hRest
  rcases exec_next hRest (step_repeating rfl)
    (by rw [hEnd]; nofun) with
    ⟨_, rest, rfl, _⟩
  simp

/- A drained iteration had nothing to drain. -/
theorem nothingQueued_of_drainsOnce
    (hPhase : s.phase = .selecting)
    (hDrains : DrainsOnce handlers tunnel s t src data) :
    NothingQueued tunnel t data := by
  rcases hDrains with
    ⟨n, s', t', calls, hExec, hEnd, hOnce, hDrained⟩
  intro hNetwork
  rcases exists_first handlers tunnel t t src data hPhase with
    ⟨s₁, hFirst, hNext⟩
  rcases exec_of_iteration hFirst hExec with
    ⟨rest, rfl, hRest⟩
  cases hResult : (tunnel.decapsulate t data).1 with
  | writeToNetwork packet =>
      rw [hResult] at hNext
      cases hActive : s.sessionActive with
      | false =>
          -- The probe is the whole iteration.
          rw [hActive] at hNext
          have hZero := eq_zero_of_selecting hRest hNext
          rw [hZero] at hRest
          cases hRest
          exact hDrained hNetwork
      | true =>
          rw [hActive] at hNext
          change s₁.phase = .emptying src data at hNext
          cases hQueue :
            tunnel.queue (tunnel.decapsulate t data).2 with
          | nil => rfl
          | cons packet packets =>
              have hAgain :=
                passed_again hNext hQueue hRest hEnd
              rw [List.count_cons_self] at hOnce
              omega
  | done | err _ | writeToTunnelV4 _ | writeToTunnelV6 _ =>
      rw [hResult] at hNetwork
      cases hNetwork

/-
  An iteration passes its datagram once, and leaves nothing
  in the queue behind a result for the network, exactly when
  nothing was queued behind that result.
-/
theorem drains_once_iff
    (handlers : Handlers)
    (tunnel : Tunnel τ)
    (s : State)
    (t : τ)
    (src : SocketAddr)
    (data : Bytes)
    (hPhase : s.phase = .selecting) :
    DrainsOnce handlers tunnel s t src data ↔
      NothingQueued tunnel t data :=
  ⟨nothingQueued_of_drainsOnce hPhase,
    drainsOnce_of_nothingQueued handlers src hPhase⟩

------------------------------------------------------------
-- A Queued Packet
------------------------------------------------------------

/- A tunnel that answers each datagram with a handshake. -/
def handshakes : Tunnel (List Bytes) where
  decapsulate packets data :=
    match data, packets with
    | [], [] => (.done, [])
    | [], packet :: packets => (.writeToNetwork packet, packets)
    | _ :: _, packets => (.writeToNetwork [2], packets)
  encapsulate packets _ := (.done, packets)
  updateTimers packets := (.done, packets)
  queue packets := packets
  done_of_nil packets hQueue := by
    rw [hQueue]
    exact ⟨rfl, rfl⟩
  next_of_cons packets packet rest hQueue := by
    rw [hQueue]
    exact ⟨rfl, rfl⟩

/- No packet is answered. -/
def silentHandlers : Handlers where
  handleDnsQuery _ := none
  handleDiscovery _ := none
  handleIcmpEcho _ := none
  discoveryPacket := []

/- The select, with a session or without one. -/
def selecting (sessionActive : Bool) : State where
  peerAddr := none
  sessionActive := sessionActive
  phase := .selecting

/- An address that datagrams come from. -/
def remoteAddr : SocketAddr := .v4 0 51820

theorem drains_once_iff_handshake :
    DrainsOnce silentHandlers handshakes (selecting true) []
        remoteAddr [1] ↔
      NothingQueued handshakes [] [1] :=
  drains_once_iff silentHandlers handshakes (selecting true)
    [] remoteAddr [1] rfl

/-
  One packet is queued behind the response to a handshake.
  Without a session it stays there, and with one the datagram
  is passed to the tunnel again.
-/
theorem queued_packet_not_drained :
    (tunnelLoop silentHandlers handshakes [[7]]).exec
        (selecting false, [[7]]) (iteration remoteAddr [1] 0) =
      some ((⟨some remoteAddr, false, .selecting⟩, [[7]]),
        [.passed]) ∧
    (tunnelLoop silentHandlers handshakes [[7]]).exec
        (selecting true, [[7]]) (iteration remoteAddr [1] 3) =
      some ((⟨some remoteAddr, true, .selecting⟩, []),
        [.passed, .emptied, .passed, .emptied]) ∧
    ∀ sessionActive,
      ¬ DrainsOnce silentHandlers handshakes
        (selecting sessionActive) [[7]] remoteAddr [1] := by
  refine ⟨rfl, rfl, fun sessionActive hDrains => ?_⟩
  have hNothing := nothingQueued_of_drainsOnce rfl hDrains
  exact absurd (hNothing rfl) (by decide)

end PacketLoop

end Wireguard

end SeestarProxy
