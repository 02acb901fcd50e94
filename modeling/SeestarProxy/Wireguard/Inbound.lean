import SeestarProxy.Wireguard.Outbound

/-
  Bytes on their way from the tunnel to the local proxy.

  A read takes bytes out of the receive buffer before it is
  known whether the channel to the bridge has a free slot.
  The bytes put on the channel are those taken out of the
  buffer exactly when every read finds one.

  Main declarations:
    * `RoomForData` and `NetStep.puts`
    * `inbound_kept` and `inbound_lost`
-/

------------------------------------------------------------
-- Nothing Is Lost
------------------------------------------------------------

namespace SeestarProxy

namespace Wireguard

namespace Netstack

open Library

variable {h o : List Obs} {s s' : State}

/- Data that is read finds a free slot in its channel. -/
def RoomForData (s : State) : Event → Prop
| .stack .receive =>
    match s.loop with
    | .receiving handle _ _ =>
        match s.active handle with
        | some c =>
            (s.socket handle).canRecv = true →
              (s.connection c).fromTunnel.Accepts
        | none => True
    | _ => True
| _ => True

instance (s : State) (e : Event) :
    Decidable (RoomForData s e) := by
  cases e
  case stack event =>
    cases event
    case receive =>
      change Decidable
        (match s.loop with
        | .receiving handle _ _ =>
            match s.active handle with
            | some c =>
                (s.socket handle).canRecv = true →
                  (s.connection c).fromTunnel.Accepts
            | none => True
        | _ => True)
      refine match s.loop with
      | .receiving handle _ _ => ?_
      | .selecting | .polling | .accepting _
      | .transferring _ _ | .sending _ _ _ | .draining =>
          instDecidableTrue
      change Decidable
        (match s.active handle with
        | some c =>
            (s.socket handle).canRecv = true →
              (s.connection c).fromTunnel.Accepts
        | none => True)
      exact match s.active handle with
      | some _ => instDecidableForall
      | none => instDecidableTrue
    all_goals exact instDecidableTrue
  all_goals exact instDecidableTrue

/- A step puts all it takes when there is room. -/
theorem NetStep.puts
    {e : Event}
    (hStep : NetStep s e s' o) :
    Passes .taken .put o (RoomForData s e) := by
  cases hStep with
  | stack hTask =>
      cases hTask with
      | @put handle _ _ c channel hAt hActive hData hSend =>
          have hAccepts :=
            (Channel.trySend_sent_iff.mp hSend).1
          refine ⟨?_, ?_⟩
          · intro c'
            by_cases hConn : c = c'
            · simp [Obs.moved?, hConn]
            · simp [Obs.moved?, hConn]
          · apply iff_of_true
            · intro c'
              by_cases hConn : c = c'
              · simp [Obs.moved?, hConn]
              · simp [Obs.moved?, hConn]
            · simp [RoomForData, hAt, hActive, hAccepts]
      | @lost handle _ _ c hAt hActive hData hRefused =>
          refine ⟨?_, ?_⟩
          · intro c'
            simp [Obs.moved?]
          · apply iff_of_false
            · -- The bytes of this read are on no channel.
              intro hAll
              have hSame := hAll c
              simp only [bytes_cons, bytes_nil, Obs.moved?,
                reduceCtorEq, false_and, and_self, if_true,
                if_false, Option.getD_none,
                Option.getD_some, List.append_nil] at hSame
              exact Socket.recvSlice_ne_nil hData
                (by decide) hSame.symm
            · simp [RoomForData, hAt, hActive, hData,
                hRefused]
      | @noData handle _ _ c hAt hActive hData =>
          refine Passes.ofNone (fun _ => rfl) (fun _ => rfl) ?_
          simp [RoomForData, hAt, hActive, hData]
      | handed =>
          exact Passes.ofNone
            (fun _ => by simp [Obs.moved?])
            (fun _ => by simp [Obs.moved?]) trivial
      | _ =>
          exact Passes.ofNone (fun _ => rfl) (fun _ => rfl)
            trivial
  | bridge hTask =>
      cases hTask with
      | delivered | queued =>
          exact Passes.ofNone
            (fun _ => by simp [Obs.moved?])
            (fun _ => by simp [Obs.moved?]) trivial
      | _ =>
          exact Passes.ofNone (fun _ => rfl) (fun _ => rfl)
            trivial
  | _ =>
      exact Passes.ofNone (fun _ => rfl) (fun _ => rfl)
        trivial

/-
  What went on the channels is what left the receive buffers
  exactly when every read found a free slot.
-/
theorem inbound_kept
    {es : List Event}
    (hRun : netstack.Run es h s) :
    Lossless .taken .put h ↔
      netstack.Meets RoomForData netstack.init es := by
  apply lossless_iff_meets _ hRun
  intro s e s' o hStep
  exact hStep.puts

------------------------------------------------------------
-- A Slow Local Proxy
------------------------------------------------------------

/- An established connection that has received one byte. -/
def received (byte : UInt8) : Socket where
  state := .established
  rx := [byte]
  tx := []
  rxBounded := by simp [socketBuffer]
  txBounded := Nat.zero_le _

theorem inbound_kept_iteration :
    Obs.moved .put 0 [7] ∈
      (netstack.outcome
        (openBridge ++ iteration (received 7))).2 ∧
    (Lossless .taken .put
        (netstack.outcome
          (openBridge ++ iteration (received 7))).2 ↔
      netstack.Meets RoomForData netstack.init
        (openBridge ++ iteration (received 7))) :=
  ⟨by decide +kernel,
    inbound_kept (Machine.run_outcome (by decide +kernel))⟩

/-
  The bridge takes one byte and waits for the local proxy
  to read it. One byte arrives before each of the next 65
  polls.
-/
def slowProxy : List Event :=
  openBridge ++ iteration (received 7) ++
    [.bridge 0 .receive] ++
    (List.replicate 65 (iteration (received 7))).flatten

theorem inbound_lost :
    ∃ es h s, netstack.Run es h s ∧
      ¬ Lossless .taken .put h := by
  refine ⟨slowProxy, (netstack.outcome slowProxy).2,
    (netstack.outcome slowProxy).1,
    Machine.run_outcome (by decide +kernel), ?_⟩
  intro hAll
  have hSame := hAll 0
  revert hSame
  decide +kernel

end Netstack

end Wireguard

end SeestarProxy
