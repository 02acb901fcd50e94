import SeestarProxy.Discovery.Bridge

/-
  When discovery points at the proxy.

  The address is put into the device info at startup and
  into a response that replaces the cache, but only where
  there is a `result` to put it into. What is cached points
  at the proxy exactly when every value that gets there has
  one; a configured identity and the two fall-backs do.

  Main declarations:
    * `PointsAt` and `HasResult`
    * `pointsAt_patchIp_iff` and `startupInfo_iff`
    * `CacheOk` and `Patched`
    * `points_at_proxy_iff`
-/

------------------------------------------------------------
-- Putting the Address In
------------------------------------------------------------

namespace SeestarProxy

namespace Discovery

open Library Protocol

variable {serde : Serde} {config : Config}
variable {h o : List Obs} {s s' : Phase} {e : Event}
variable {ip : IpAddr} {v w : Value} {cache : Cache}

/- A response whose `result.ip` is an address. -/
def PointsAt (ip : IpAddr) (info : Value) : Prop :=
  ∃ result, info.get "result" = some result ∧
    result.get "ip" = some (.string ip.text)

/- A value with a member `result`. -/
def HasResult (info : Value) : Prop :=
  (info.get "result").isSome = true

theorem PointsAt.hasResult
    (hPoints : PointsAt ip v) :
    HasResult v := by
  rcases hPoints with ⟨result, hResult, -⟩
  unfold HasResult
  rw [hResult]
  rfl

/- Only a result that takes no member panics. -/
theorem hasResult_of_patchIp_none
    (hPatch : patchIp ip v = none) :
    HasResult v := by
  unfold patchIp at hPatch
  unfold HasResult
  cases hResult : v.get "result" with
  | none => simp [hResult] at hPatch
  | some result => rfl

/- What was patched points at the proxy if it has a result. -/
theorem pointsAt_patchIp_iff
    (hPatch : patchIp ip v = some w) :
    PointsAt ip w ↔ HasResult v := by
  unfold patchIp at hPatch
  cases hResult : v.get "result" with
  | none =>
      simp only [hResult, Option.some.injEq] at hPatch
      subst hPatch
      constructor
      · exact PointsAt.hasResult
      · intro hHas
        unfold HasResult at hHas
        rw [hResult] at hHas
        cases hHas
  | some result =>
      simp only [hResult] at hPatch
      rcases Option.map_eq_some_iff.mp hPatch with
        ⟨patched, hSet, rfl⟩
      have hObject := Value.isObject_of_get_some hResult
      constructor
      · intro _
        unfold HasResult
        rw [hResult]
        rfl
      · intro _
        refine ⟨patched, ?_, Value.get_setIndex_self hSet⟩
        exact Value.get_insert_self hObject _ _

/- Every response that the proxy builds has a result. -/
theorem hasResult_discoveryResponse (result : Value) :
    HasResult (discoveryResponse result) := by
  unfold HasResult discoveryResponse
  rw [Value.get_ofMembers]
  rfl

------------------------------------------------------------
-- What Gets into the Cache
------------------------------------------------------------

/- What the proxy builds has an object for its result. -/
theorem startupInfo_built
    {good : Value → Prop}
    (hBuilt : ∀ result, result.IsObject →
      good (discoveryResponse result))
    (probe : ProbeRun)
    (hReply : config.telescopeSn = none →
      awaitReply serde config.upstreamAddr
        probe.replies = none) :
    good (startupInfo serde config probe) := by
  unfold startupInfo
  cases hSn : config.telescopeSn with
  | some sn =>
      apply hBuilt
      cases config.telescopeBssid with
      | none => trivial
      | some bssid =>
          exact (Value.isObject_insert_iff _ _ _).mpr
            trivial
  | none =>
      unfold probeUpstream
      rw [hReply hSn]
      cases probe.deviceState with
      | some result => exact hBuilt _ trivial
      | none => exact hBuilt _ trivial

/-
  What holds of all that the proxy builds holds of the
  device info of the startup exactly when it holds of the
  reply that the startup takes.
-/
theorem startupInfo_iff
    {good : Value → Prop}
    (hBuilt : ∀ result, result.IsObject →
      good (discoveryResponse result))
    (probe : ProbeRun) :
    good (startupInfo serde config probe) ↔
      (config.telescopeSn = none → ∀ v,
        awaitReply serde config.upstreamAddr
            probe.replies = some v →
          good v) := by
  by_cases hTaken : config.telescopeSn = none ∧
      (awaitReply serde config.upstreamAddr
        probe.replies).isSome = true
  · rcases hTaken with ⟨hSn, hSome⟩
    rcases Option.isSome_iff_exists.mp hSome with
      ⟨v, hReply⟩
    have hInfo : startupInfo serde config probe = v := by
      unfold startupInfo
      rw [hSn]
      unfold probeUpstream
      rw [hReply]
    rw [hInfo]
    constructor
    · intro hGood _ w hSome'
      cases hReply.symm.trans hSome'
      exact hGood
    · intro hAll
      exact hAll hSn v hReply
  · have hNone (hSn : config.telescopeSn = none) :
        awaitReply serde config.upstreamAddr
          probe.replies = none :=
      Option.not_isSome_iff_eq_none.mp
        fun hSome => hTaken ⟨hSn, hSome⟩
    constructor
    · intro _ hSn v hReply
      cases (hNone hSn).symm.trans hReply
    · intro _
      exact startupInfo_built hBuilt probe hNone

/- The cached response points at the proxy. -/
def CacheOk (config : Config) : Phase → Prop
| .listening cache =>
    PointsAt config.proxyIp cache.deviceInfo
| .starting | .stopped => True

/-
  The reply that the startup takes, and every response that
  replaces the cache, has a result.
-/
def Patched
    (serde : Serde)
    (config : Config) : Phase → Event → Prop
| .starting, .start probe =>
    config.telescopeSn = none → ∀ v,
      awaitReply serde config.upstreamAddr
          probe.replies = some v →
        HasResult v
| .listening cache, .receive src text _ =>
    replacesCache config cache src = true → ∀ msg,
      discoveryMessage serde text = some msg →
        isResponse msg = true → HasResult msg
| _, _ => True

theorem cacheOk_start_iff (probe : ProbeRun) :
    CacheOk config (startBridge serde config probe) ↔
      Patched serde config .starting (.start probe) := by
  change _ ↔ (config.telescopeSn = none → ∀ v, _)
  rw [← startupInfo_iff
    fun result _ => hasResult_discoveryResponse result]
  unfold startBridge
  cases hPatch : patchIp config.proxyIp
      (startupInfo serde config probe) with
  | none =>
      constructor
      · intro _
        exact hasResult_of_patchIp_none hPatch
      · intro _
        trivial
  | some info => exact pointsAt_patchIp_iff hPatch

/- A response that is taken. -/
theorem cacheOk_takeResponse_iff
    (hCache : PointsAt config.proxyIp cache.deviceInfo)
    (src : SocketAddr)
    (msg : Value) :
    CacheOk config (takeResponse config cache src msg) ↔
      (replacesCache config cache src = true →
        HasResult msg) := by
  unfold takeResponse
  by_cases hReplaces : replacesCache config cache src = true
  · rw [if_pos hReplaces]
    cases hPatch : patchIp config.proxyIp msg with
    | none =>
        constructor
        · intro _ _
          exact hasResult_of_patchIp_none hPatch
        · intro _
          trivial
    | some updated =>
        have hIff := pointsAt_patchIp_iff hPatch
        constructor
        · intro hOk _
          exact hIff.mp hOk
        · intro hHas
          exact hIff.mpr (hHas hReplaces)
  · rw [if_neg hReplaces]
    constructor
    · intro _ hYes
      exact absurd hYes hReplaces
    · intro _
      exact hCache

theorem cacheOk_receive_iff
    (hCache : PointsAt config.proxyIp cache.deviceInfo)
    (src : SocketAddr)
    (text : Option String)
    (sends : Sends) :
    CacheOk config (receiveDatagram serde config cache src
        text sends).1 ↔
      Patched serde config (.listening cache)
        (.receive src text sends) := by
  unfold receiveDatagram Patched
  cases hMsg : discoveryMessage serde text with
  | none =>
      constructor
      · intro _ _ msg hSome
        rw [hMsg] at hSome
        cases hSome
      · intro _
        exact hCache
  | some msg =>
      by_cases hResponse : isResponse msg = true
      · simp only [hResponse, if_true]
        rw [cacheOk_takeResponse_iff hCache]
        constructor
        · intro hHas hReplaces msg' hSome _
          rw [hMsg] at hSome
          cases hSome
          exact hHas hReplaces
        · intro hAll hReplaces
          exact hAll hReplaces msg hMsg hResponse
      · simp only [hResponse, Bool.false_eq_true, if_false]
        constructor
        · intro _ _ msg' hSome hYes
          rw [hMsg] at hSome
          cases hSome
          exact absurd hYes hResponse
        · intro _
          unfold answer
          cases serde.toStr cache.deviceInfo with
          | none => trivial
          | some text => exact hCache

/- One step keeps the cache right exactly when patched. -/
theorem cacheOk_step
    (hCache : CacheOk config s)
    (hStep : bridgeStep serde config s e = some (s', o)) :
    CacheOk config s' ↔ Patched serde config s e := by
  cases bridgeStep_cases hStep with
  | @started probe => exact cacheOk_start_iff probe
  | @received cache src text sends =>
      exact cacheOk_receive_iff hCache src text sends

/- Responses are sent from the cache. -/
theorem response_of_step
    {dest : SocketAddr}
    {info : Value}
    {text : String}
    (hStep : bridgeStep serde config s e = some (s', o))
    (hMem : Obs.response dest info text ∈ o) :
    ∃ cache, s = .listening cache ∧
      info = cache.deviceInfo := by
  cases bridgeStep_cases hStep with
  | started => cases hMem
  | @received cache src text' sends =>
      refine ⟨cache, rfl, ?_⟩
      unfold receiveDatagram at hMem
      cases hMsg : discoveryMessage serde text' with
      | none => simp [hMsg] at hMem
      | some msg =>
          rw [hMsg] at hMem
          by_cases hResponse : isResponse msg = true
          · simp [hResponse] at hMem
          · simp only [hResponse, Bool.false_eq_true,
              if_false] at hMem
            unfold answer refreshProbe at hMem
            cases hText : serde.toStr cache.deviceInfo with
            | none => simp [hText] at hMem
            | some printed =>
                simp only [hText] at hMem
                grind

------------------------------------------------------------
-- Runs
------------------------------------------------------------

/-
  In every run the cached response points at the proxy all
  the time exactly when every value that gets into the cache
  has a result, and then so do all responses that are sent.
-/
theorem points_at_proxy_iff
    {es : List Event}
    (hRun : (bridge serde config).Run es h s) :
    ((bridge serde config).Always (CacheOk config)
        (bridge serde config).init es ↔
      (bridge serde config).Meets (Patched serde config)
        (bridge serde config).init es) ∧
      ((bridge serde config).Meets (Patched serde config)
          (bridge serde config).init es →
        ∀ dest info text, .response dest info text ∈ h →
          PointsAt config.proxyIp info) := by
  have hInit :
      CacheOk config (bridge serde config).init := trivial
  refine ⟨?_, ?_⟩
  · apply Machine.always_iff_meets hInit _ hRun
    intro es h s e s' o _ hCache hStep
    exact cacheOk_step hCache hStep
  · intro hMeets
    refine (Machine.guarded_induction
      (motive := fun _ h s => CacheOk config s ∧
        ∀ dest info text, .response dest info text ∈ h →
          PointsAt config.proxyIp info)
      ⟨hInit, ?_⟩ ?_ hRun hMeets).2
    · intro dest info text hMem
      cases hMem
    · rintro es h s e s' o _ ⟨hCache, hSent⟩ hPatched hStep
      refine ⟨(cacheOk_step hCache hStep).mpr hPatched, ?_⟩
      intro dest info text hMem
      rcases List.mem_append.mp hMem with hOld | hNew
      · exact hSent dest info text hOld
      · rcases response_of_step hStep hNew with
          ⟨cache, rfl, rfl⟩
        exact hCache

/- A proxy on the LAN between a telescope and a client. -/
def lanConfig : Config where
  bindAddr := .v4 (ipv4Addr 192 168 1 10)
  upstreamAddr := .v4 (ipv4Addr 10 0 0 1)
  routedAddr := .v4 (ipv4Addr 10 0 0 2)
  telescopeSn := none
  telescopeModel := none
  telescopeBssid := none

def lanClient : SocketAddr :=
  ⟨.v4 (ipv4Addr 192 168 1 20), 5000⟩

def telescope : SocketAddr :=
  ⟨lanConfig.upstreamAddr, discoveryPort⟩

/- A discovery request, a response and an error reply. -/
def clientRequest : Value :=
  .ofMembers [("id", natValue 201),
    ("method", .string "scan_iscope")]

def telescopeReply : Value :=
  discoveryResponse (.ofMembers [("sn", .string "SN1"),
    ("ip", .string "10.0.0.1")])

/- The response with the address of the proxy. -/
def patchedReply : Value :=
  discoveryResponse (.ofMembers [("sn", .string "SN1"),
    ("ip", .string "192.168.1.10")])

def errorReply : Value :=
  .ofMembers [("id", natValue 201), ("code", natValue 101),
    ("error", .string "Second root")]

def lanSerde : Serde :=
  Serde.knowing [clientRequest, telescopeReply, errorReply]

/- All sends of a step succeed. -/
def allSent : Sends := ⟨true, true, true⟩

/- The telescope replies, then a client asks. -/
def probedWith (reply : Value) : List Event :=
  [.start ⟨[(telescope,
      .text (lanSerde.toStrOrDefault reply))], none⟩,
    .receive lanClient
      (some (lanSerde.toStrOrDefault clientRequest))
      allSent]

theorem points_at_proxy_iff_probed :
    ∃ h s,
      (bridge lanSerde lanConfig).Run
          (probedWith telescopeReply) h s ∧
        .response lanClient patchedReply
          (lanSerde.toStrOrDefault patchedReply) ∈ h ∧
        (((bridge lanSerde lanConfig).Always
            (CacheOk lanConfig)
            (bridge lanSerde lanConfig).init
            (probedWith telescopeReply) ↔
          (bridge lanSerde lanConfig).Meets
            (Patched lanSerde lanConfig)
            (bridge lanSerde lanConfig).init
            (probedWith telescopeReply)) ∧
          ((bridge lanSerde lanConfig).Meets
              (Patched lanSerde lanConfig)
              (bridge lanSerde lanConfig).init
              (probedWith telescopeReply) →
            ∀ dest info text, .response dest info text ∈ h →
              PointsAt lanConfig.proxyIp info)) := by
  have hRun :
      (bridge lanSerde lanConfig).Run
        (probedWith telescopeReply) _ _ :=
    Machine.run_outcome (by decide +kernel)
  exact ⟨_, _, hRun, by decide +kernel,
    points_at_proxy_iff hRun⟩

/- An error reply is cached and sent to a client as it is. -/
theorem error_sent_to_client :
    ∃ h s dest info text,
      (bridge lanSerde lanConfig).Run
          (probedWith errorReply) h s ∧
        .response dest info text ∈ h ∧
          ¬ PointsAt lanConfig.proxyIp info := by
  refine ⟨_, _, lanClient, errorReply,
    lanSerde.toStrOrDefault errorReply,
    Machine.run_outcome (by decide +kernel),
    by decide +kernel, ?_⟩
  rintro ⟨result, hResult, -⟩
  unfold errorReply at hResult
  rw [Value.get_ofMembers] at hResult
  cases hResult

end Discovery

end SeestarProxy
