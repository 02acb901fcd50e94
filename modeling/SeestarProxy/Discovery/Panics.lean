import SeestarProxy.Discovery.ProxyIp

/-
  When the discovery bridge panics.

  Assigning the address by key panics where the `result` is
  a string, a number, a truth value or an array. What the
  proxy builds has an object there; the reply that the
  startup takes and the response that replaces the cache are
  patched as the network sent them. The fall-back over TCP
  asks for an object first.

  Main declarations:
    * `Ending` and `ending`
    * `stopped_iff_ending`
    * `TakesAddress` and `Assignable`
    * `never_panics_iff`
    * `pong_panics`
-/

------------------------------------------------------------
-- How a Step Ends
------------------------------------------------------------

namespace SeestarProxy

namespace Discovery

open Library Protocol

variable {serde : Serde} {config : Config}
variable {h o : List Obs} {s s' : Phase} {e : Event}
variable {ip : IpAddr} {v : Value} {cache : Cache}

/- How `run` is after a step: it may return or panic. -/
inductive Ending where
| running
| returned
| panicked
deriving DecidableEq

/- Putting the address of the proxy into a response. -/
def patchEnding (proxyIp : IpAddr) (info : Value) : Ending :=
  match patchIp proxyIp info with
  | none => .panicked
  | some _ => .running

/- How the step of a datagram ends. -/
def receiveEnding
    (serde : Serde)
    (config : Config)
    (cache : Cache)
    (src : SocketAddr)
    (text : Option String) : Ending :=
  match discoveryMessage serde text with
  | none => .running
  | some msg =>
      if isResponse msg then
        if replacesCache config cache src then
          patchEnding config.proxyIp msg
        else
          .running
      else
        match serde.toStr cache.deviceInfo with
        | none => .returned
        | some _ => .running

/- How a step of the bridge ends. -/
def ending
    (serde : Serde)
    (config : Config) : Phase → Event → Ending
| .starting, .start probe =>
    patchEnding config.proxyIp
      (startupInfo serde config probe)
| .listening cache, .receive src text _ =>
    receiveEnding serde config cache src text
| _, _ => .running

/- The bridge is stopped by a return or by a panic. -/
theorem stopped_iff_ending
    (hStep : bridgeStep serde config s e = some (s', o)) :
    s' = .stopped ↔
      ending serde config s e ≠ .running := by
  cases bridgeStep_cases hStep with
  | @started probe =>
      unfold startBridge ending patchEnding
      cases hPatch : patchIp config.proxyIp
          (startupInfo serde config probe) with
      | none => simp [hPatch]
      | some info => simp [hPatch]
  | @received cache src text sends =>
      unfold receiveDatagram ending receiveEnding
        takeResponse answer patchEnding
      grind

------------------------------------------------------------
-- What Takes an Address
------------------------------------------------------------

/- The `result`, where there is one, is an object or null. -/
def TakesAddress (info : Value) : Prop :=
  ∀ result, info.get "result" = some result →
    result = .null ∨ result.IsObject

/- What panics is what no address can be put into. -/
theorem patchEnding_panicked_iff :
    patchEnding ip v = .panicked ↔ ¬ TakesAddress v := by
  unfold patchEnding patchIp TakesAddress
  cases hResult : v.get "result" with
  | none => simp
  | some result =>
      cases result <;>
        simp [Value.setIndex, Value.IsObject]

/- An address fits into all that the proxy builds. -/
theorem takesAddress_discoveryResponse
    {result : Value}
    (hObject : result.IsObject) :
    TakesAddress (discoveryResponse result) := by
  intro result' hResult
  unfold discoveryResponse at hResult
  rw [Value.get_ofMembers] at hResult
  cases hResult
  exact Or.inr hObject

/-
  The reply that the startup takes, and every response that
  replaces the cache, takes an address.
-/
def Assignable
    (serde : Serde)
    (config : Config) : Phase → Event → Prop
| .starting, .start probe =>
    config.telescopeSn = none → ∀ v,
      awaitReply serde config.upstreamAddr
          probe.replies = some v →
        TakesAddress v
| .listening cache, .receive src text _ =>
    replacesCache config cache src = true → ∀ msg,
      discoveryMessage serde text = some msg →
        isResponse msg = true → TakesAddress msg
| _, _ => True

theorem receiveEnding_panicked_iff
    (src : SocketAddr)
    (text : Option String) :
    receiveEnding serde config cache src text = .panicked ↔
      replacesCache config cache src = true ∧
        ∃ msg, discoveryMessage serde text = some msg ∧
          isResponse msg = true ∧ ¬ TakesAddress msg := by
  unfold receiveEnding
  cases hMsg : discoveryMessage serde text with
  | none => simp
  | some msg =>
      simp only [Option.some.injEq, exists_eq_left']
      by_cases hResponse : isResponse msg = true
      · rw [if_pos hResponse]
        by_cases hReplaces :
            replacesCache config cache src = true
        · rw [if_pos hReplaces, patchEnding_panicked_iff]
          simp [hReplaces, hResponse]
        · rw [if_neg hReplaces]
          simp [hReplaces]
      · rw [if_neg hResponse]
        cases serde.toStr cache.deviceInfo <;>
          simp [hResponse]

/- A step panics exactly when something does not fit. -/
theorem ending_panicked_iff :
    ending serde config s e ≠ .panicked ↔
      Assignable serde config s e := by
  cases s with
  | starting =>
      cases e with
      | start probe =>
          unfold ending Assignable
          rw [Ne, patchEnding_panicked_iff, not_not]
          exact startupInfo_iff
            (fun result =>
              takesAddress_discoveryResponse) probe
      | receive src text sends => simp [ending, Assignable]
  | listening cache =>
      cases e with
      | start probe => simp [ending, Assignable]
      | receive src text sends =>
          unfold ending Assignable
          rw [Ne, receiveEnding_panicked_iff]
          grind
  | stopped =>
      cases e <;> simp [ending, Assignable]

------------------------------------------------------------
-- Runs
------------------------------------------------------------

/-
  No step of a run panics exactly when all that the startup
  takes and the cache is replaced with takes an address.
-/
theorem never_panics_iff
    {es : List Event}
    (hRun : (bridge serde config).Run es h s) :
    (bridge serde config).Meets
        (fun s e => ending serde config s e ≠ .panicked)
        (bridge serde config).init es ↔
      (bridge serde config).Meets (Assignable serde config)
        (bridge serde config).init es :=
  Machine.meets_congr
    (fun _ _ _ _ _ => ending_panicked_iff) hRun

/- A discovery response whose result is a text. -/
def pongReply : Value := discoveryResponse (.string "pong")

def pongSerde : Serde :=
  Serde.knowing [telescopeReply, pongReply]

/- The telescope answers the startup probe. -/
def startedWith (reply : Value) : Event :=
  .start ⟨[(telescope,
    .text (pongSerde.toStrOrDefault reply))], none⟩

/- Nothing answers the startup probe; then it responds. -/
def respondsLate (reply : Value) : List Event :=
  [.start ⟨[], none⟩,
    .receive telescope
      (some (pongSerde.toStrOrDefault reply)) allSent]

theorem never_panics_iff_late :
    ∃ h s,
      (bridge pongSerde lanConfig).Run
          (respondsLate telescopeReply) h s ∧
        ((bridge pongSerde lanConfig).Meets
            (fun s e =>
              ending pongSerde lanConfig s e ≠ .panicked)
            (bridge pongSerde lanConfig).init
            (respondsLate telescopeReply) ↔
          (bridge pongSerde lanConfig).Meets
            (Assignable pongSerde lanConfig)
            (bridge pongSerde lanConfig).init
            (respondsLate telescopeReply)) := by
  have hRun :
      (bridge pongSerde lanConfig).Run
        (respondsLate telescopeReply) _ _ :=
    Machine.run_outcome (by decide +kernel)
  exact ⟨_, _, hRun, never_panics_iff hRun⟩

/-
  Such a response panics where it replaces the cache, and
  where it answers the startup probe.
-/
theorem pong_panics :
    (∃ h s,
      (bridge pongSerde lanConfig).Run
          (respondsLate pongReply) h s ∧
        ¬ (bridge pongSerde lanConfig).Meets
          (fun s e =>
            ending pongSerde lanConfig s e ≠ .panicked)
          (bridge pongSerde lanConfig).init
          (respondsLate pongReply)) ∧
      ∃ h s,
        (bridge pongSerde lanConfig).Run
            [startedWith pongReply] h s ∧
          ¬ (bridge pongSerde lanConfig).Meets
            (fun s e =>
              ending pongSerde lanConfig s e ≠ .panicked)
            (bridge pongSerde lanConfig).init
            [startedWith pongReply] :=
  ⟨⟨_, _, Machine.run_outcome (by decide +kernel),
      by decide +kernel⟩,
    ⟨_, _, Machine.run_outcome (by decide +kernel),
      by decide +kernel⟩⟩

end Discovery

end SeestarProxy
