import SeestarProxy.Discovery.Storm
import SeestarProxy.Library.Views

/-
  What the discovery bridge has cached.

  Only datagrams of the telescope count for the cache: two
  executions that differ in others alone end with the same.
  The cache is replaced at most once, and never when it
  began with real device info. A request is answered with
  the cache as the last datagram of the telescope left it.

  Main declarations:
    * `fromUpstream` and `afterDatagram`
    * `listening_receive`
    * `tracks_cache`
    * `replaced` and `countSteps_replaced_le`
    * `AnsweredWith` and `cache_settles`
-/

------------------------------------------------------------
-- What Counts for the Cache
------------------------------------------------------------

namespace SeestarProxy

namespace Discovery

open Library Protocol

variable {serde : Serde} {config : Config}
variable {cache cache' : Cache}
variable {src : SocketAddr} {text : Option String}
variable {sends : Sends} {o : List Obs}
variable {s s' : Phase} {e : Event}

/- A datagram from the address of the telescope. -/
def fromUpstream
    (config : Config) :
    Event → Option (SocketAddr × Option String)
| .start _ => none
| .receive src text _ =>
    if src.ip = config.upstreamAddr then
      some (src, text)
    else
      none

theorem fromUpstream_eq_some
    (hUpstream : src.ip = config.upstreamAddr) :
    fromUpstream config (.receive src text sends) =
      some (src, text) :=
  if_pos hUpstream

theorem fromUpstream_eq_none
    (hUpstream : src.ip ≠ config.upstreamAddr) :
    fromUpstream config (.receive src text sends) = none :=
  if_neg hUpstream

/- What is cached, while the bridge listens. -/
def Phase.cache? : Phase → Option Cache
| .listening cache => some cache
| .starting | .stopped => none

/- The cache after a datagram that does not end `run`. -/
def afterDatagram
    (serde : Serde)
    (config : Config)
    (cache : Cache)
    (datagram : SocketAddr × Option String) : Cache :=
  (receiveDatagram serde config cache datagram.1 datagram.2
    allSent).1.cache?.getD cache

/- Which sends succeed makes no difference to the cache. -/
theorem phase_receiveDatagram :
    (receiveDatagram serde config cache src text sends).1 =
      (receiveDatagram serde config cache src text
        allSent).1 := by
  unfold receiveDatagram
  cases discoveryMessage serde text with
  | none => rfl
  | some msg =>
      by_cases hResponse : isResponse msg = true
      · simp only [hResponse, if_true]
      · simp only [hResponse, Bool.false_eq_true, if_false]
        unfold answer
        cases serde.toStr cache.deviceInfo <;> rfl

/-
  A datagram leaves the cache as it is, or it is from the
  telescope and puts real device info in.
-/
theorem listening_receive
    (hPhase : (receiveDatagram serde config cache src text
      sends).1 = .listening cache') :
    cache' = cache ∨
      replacesCache config cache src = true ∧
        cache'.haveRealInfo = true := by
  unfold receiveDatagram at hPhase
  cases hMsg : discoveryMessage serde text with
  | none =>
      rw [hMsg] at hPhase
      cases hPhase
      exact Or.inl rfl
  | some msg =>
      rw [hMsg] at hPhase
      by_cases hResponse : isResponse msg = true
      · simp only [hResponse, if_true] at hPhase
        unfold takeResponse at hPhase
        by_cases hReplaces :
            replacesCache config cache src = true
        · rw [if_pos hReplaces] at hPhase
          cases hPatch : patchIp config.proxyIp msg with
          | none =>
              rw [hPatch] at hPhase
              cases hPhase
          | some updated =>
              rw [hPatch] at hPhase
              cases hPhase
              exact Or.inr ⟨hReplaces, rfl⟩
        · rw [if_neg hReplaces] at hPhase
          cases hPhase
          exact Or.inl rfl
      · simp only [hResponse, Bool.false_eq_true, if_false]
          at hPhase
        unfold answer at hPhase
        cases hText : serde.toStr cache.deviceInfo with
        | none =>
            rw [hText] at hPhase
            cases hPhase
        | some printed =>
            rw [hText] at hPhase
            cases hPhase
            exact Or.inl rfl

/- A listening bridge goes on listening or stops. -/
theorem receive_listening_or_stopped :
    (∃ cache', (receiveDatagram serde config cache src text
      sends).1 = .listening cache') ∨
    (receiveDatagram serde config cache src text sends).1 =
      .stopped := by
  unfold receiveDatagram takeResponse answer
  grind

/- The cache moves by the telescope's datagrams alone. -/
theorem tracks_cache :
    (bridge serde config).Tracks Phase.cache?
      (fromUpstream config)
      (afterDatagram serde config) := by
  intro s cache e s' o hCache hStep
  cases bridgeStep_cases hStep with
  | started => cases hCache
  | @received cache₁ src text sends =>
      cases hCache
      rcases receive_listening_or_stopped with
        ⟨cache', hPhase⟩ | hStopped
      · left
        rw [hPhase]
        unfold Machine.advance
        by_cases hUpstream : src.ip = config.upstreamAddr
        · rw [fromUpstream_eq_some hUpstream]
          change some cache' = some (afterDatagram serde
            config cache (src, text))
          unfold afterDatagram
          rw [← phase_receiveDatagram, hPhase]
          rfl
        · rw [fromUpstream_eq_none hUpstream]
          rcases listening_receive hPhase with
            rfl | ⟨hReplaces, -⟩
          · rfl
          · unfold replacesCache at hReplaces
            simp [hUpstream] at hReplaces
      · right
        rw [hStopped]
        exact ⟨rfl, fun e' => by cases e' <;> rfl⟩

------------------------------------------------------------
-- How Often It Is Replaced
------------------------------------------------------------

/- The step changes what is cached. -/
def replaced : Phase → Phase → Bool
| .listening cache, .listening cache' =>
    decide (cache' ≠ cache)
| _, _ => false

/- How often the cache can still be replaced. -/
def Phase.pending : Phase → Nat
| .starting => 1
| .listening cache => if cache.haveRealInfo then 0 else 1
| .stopped => 0

theorem pending_step
    (hStep : bridgeStep serde config s e = some (s', o)) :
    s'.pending + (if replaced s s' then 1 else 0) ≤
      s.pending := by
  cases bridgeStep_cases hStep with
  | started =>
      unfold startBridge replaced Phase.pending
      grind
  | @received cache src text sends =>
      rcases receive_listening_or_stopped with
        ⟨cache', hPhase⟩ | hStopped
      · rw [hPhase]
        rcases listening_receive hPhase with
          rfl | ⟨hReplaces, hReal⟩
        · simp [replaced]
        · have hOpen : cache.haveRealInfo = false := by
            unfold replacesCache at hReplaces
            simpa using (Bool.and_eq_true_iff.mp
              hReplaces).2
          simp only [Phase.pending, hReal, hOpen, if_true,
            Bool.false_eq_true, if_false]
          split <;> omega
      · rw [hStopped]
        simp [replaced, Phase.pending]

theorem countSteps_replaced_le
    (s : Phase)
    (es : List Event) :
    (bridge serde config).countSteps replaced s es ≤
      s.pending := by
  apply Machine.countSteps_le
  intro s e s' o hStep
  exact pending_step hStep

------------------------------------------------------------
-- What Requests Are Answered With
------------------------------------------------------------

/-
  The device info is sent to the source of a request and
  broadcast, and no other device info is sent.
-/
def AnsweredWith
    (serde : Serde)
    (info : Value)
    (src : SocketAddr)
    (o : List Obs) : Prop :=
  ∃ text, serde.toStr info = some text ∧
    o.filterMap Obs.response? =
      [(info, text), (info, text)] ∧
    .response src info text ∈ o ∧
    .response broadcastDest info text ∈ o

/- A request that the bridge survives is answered. -/
theorem answered_receive
    (hAsks : asks serde text = true)
    (hPhase : (receiveDatagram serde config cache src text
      allSent).1 ≠ .stopped) :
    (receiveDatagram serde config cache src text
        allSent).1 = .listening cache ∧
      AnsweredWith serde cache.deviceInfo src
        (receiveDatagram serde config cache src text
          allSent).2 := by
  have hResponses :
      (receiveDatagram serde config cache src text
          allSent).2.filterMap Obs.response? =
        responsesTo serde cache text allSent :=
    responses_receiveDatagram
  unfold responsesTo at hResponses
  rw [hAsks] at hResponses
  unfold asks at hAsks
  cases hMsg : discoveryMessage serde text with
  | none => simp [hMsg] at hAsks
  | some msg =>
      have hRequest : isResponse msg = false := by
        simpa [hMsg] using hAsks
      have hAnswer :
          receiveDatagram serde config cache src text
              allSent =
            answer serde config cache src allSent := by
        unfold receiveDatagram
        simp [hMsg, hRequest]
      rw [hAnswer] at hPhase hResponses ⊢
      cases hText : serde.toStr cache.deviceInfo with
      | none => simp [answer, hText] at hPhase
      | some printed =>
          rw [hText] at hResponses
          refine ⟨?_, printed, hText, hResponses, ?_, ?_⟩
          · simp [answer, hText]
          · simp [answer, hText, allSent]
          · simp [answer, hText, allSent]

------------------------------------------------------------
-- Runs
------------------------------------------------------------

variable {cache₀ : Cache} {es es' : List Event}
variable {h h' : List Obs}

/- A bridge that listens in the end listened all along. -/
theorem listening_of_exec
    (hExec : (bridge serde config).exec (.listening cache₀)
      es = some (s, h))
    (hRest : (bridge serde config).exec s es' =
      some (.listening cache, h')) :
    ∃ cache', s = .listening cache' := by
  rcases tracks_cache.view_of_exec rfl hExec hRest rfl with
    ⟨cache', hCache⟩
  cases s with
  | listening cache₁ => exact ⟨cache₁, rfl⟩
  | starting => cases hCache
  | stopped => cases hCache

/- Datagrams of others leave what is cached. -/
theorem cache_of_others
    (hExec : (bridge serde config).exec (.listening cache)
      es = some (.listening cache', h))
    (hOthers : ∀ e ∈ es, fromUpstream config e = none) :
    cache' = cache := by
  rw [tracks_cache.exec rfl hExec rfl,
    List.filterMap_eq_nil_iff.mpr hOthers]
  rfl

/- A request in a run is answered with what was cached. -/
theorem answered_of_exec
    {before after rest : List Event}
    (hExec : (bridge serde config).exec (.listening cache₀)
      (before ++ after ++ .receive src text allSent :: rest) =
        some (.listening cache, h))
    (hOthers : ∀ e ∈ after, fromUpstream config e = none)
    (hAsks : asks serde text = true) :
    ∃ seen h₁ h₂ o h₃,
      (bridge serde config).exec (.listening cache₀) before =
          some (.listening seen, h₁) ∧
        (bridge serde config).exec (.listening seen) after =
          some (.listening seen, h₂) ∧
        (bridge serde config).step (.listening seen)
            (.receive src text allSent) =
          some (.listening seen, o) ∧
        AnsweredWith serde seen.deviceInfo src o ∧
        h = h₁ ++ h₂ ++ o ++ h₃ := by
  rw [List.append_assoc] at hExec
  rcases Machine.exec_append_iff.mp hExec with
    ⟨s₁, h₁, h₂₃, hBefore, hRest, rfl⟩
  rcases listening_of_exec hBefore hRest with ⟨seen, rfl⟩
  rcases Machine.exec_append_iff.mp hRest with
    ⟨s₂, h₂, h₃', hAfter, hLast, rfl⟩
  rcases listening_of_exec hAfter hLast with ⟨seen', rfl⟩
  cases cache_of_others hAfter hOthers
  rcases Machine.exec_cons_iff.mp hLast with
    ⟨s₃, o, h₃, hStep, hEnd, rfl⟩
  rcases listening_of_exec (Machine.exec_one hStep) hEnd
    with ⟨seen', rfl⟩
  have hReceive := Option.some.inj hStep
  have hAnswered := @answered_receive serde config seen src
    text hAsks
  rw [hReceive] at hAnswered
  rcases hAnswered nofun with ⟨hSame, hAnswered⟩
  cases hSame
  refine ⟨seen, h₁, h₂, o, h₃, hBefore, hAfter, hStep,
    hAnswered, ?_⟩
  simp only [List.append_assoc]

/-
  Two executions whose datagrams of the telescope are the
  same end with the same cache. In each the cache is
  replaced at most once, and never when it began with real
  device info, and a request is answered with the cache that
  the datagrams up to the telescope's last one left.
-/
theorem cache_settles
    (hExec : (bridge serde config).exec (.listening cache₀)
      es = some (.listening cache, h))
    (hExec' : (bridge serde config).exec (.listening cache₀)
      es' = some (.listening cache', h'))
    (hSame : es.filterMap (fromUpstream config) =
      es'.filterMap (fromUpstream config)) :
    cache = cache' ∧
      (bridge serde config).countSteps replaced
          (.listening cache₀) es ≤
        (if cache₀.haveRealInfo then 0 else 1) ∧
      ∀ before after src text rest,
        es = before ++ after ++
            .receive src text allSent :: rest →
          (∀ e ∈ after, fromUpstream config e = none) →
          asks serde text = true →
            ∃ seen h₁ h₂ o h₃,
              (bridge serde config).exec
                  (.listening cache₀) before =
                some (.listening seen, h₁) ∧
              (bridge serde config).exec
                  (.listening seen) after =
                some (.listening seen, h₂) ∧
              (bridge serde config).step (.listening seen)
                  (.receive src text allSent) =
                some (.listening seen, o) ∧
              AnsweredWith serde seen.deviceInfo src o ∧
              h = h₁ ++ h₂ ++ o ++ h₃ := by
  refine ⟨?_, ?_, ?_⟩
  · exact tracks_cache.exec_congr rfl hExec hExec' rfl rfl
      hSame
  · exact countSteps_replaced_le (.listening cache₀) es
  · rintro before after src text rest rfl hOthers hAsks
    exact answered_of_exec hExec hOthers hAsks

/- A discovery response that another device makes up. -/
def forgedReply : Value :=
  discoveryResponse (.ofMembers [("sn", .string "SN2")])

def cacheSerde : Serde :=
  Serde.knowing [clientRequest, telescopeReply, forgedReply]

def datagram (src : SocketAddr) (v : Value) : Event :=
  .receive src (some (cacheSerde.toStrOrDefault v)) allSent

/- The telescope was not found at the start. -/
def minimalCache : Cache := ⟨minimalResponse, false⟩

/- The telescope responds, and a forger before and after. -/
def untilTelescope : List Event :=
  [datagram lanClient forgedReply,
    datagram telescope telescopeReply]

def amidOthers : List Event :=
  untilTelescope ++ [datagram lanClient forgedReply] ++
    datagram lanClient clientRequest :: []

theorem cache_settles_amid :
    ∃ h h',
      (bridge cacheSerde lanConfig).exec
          (.listening minimalCache) amidOthers =
        some (.listening ⟨patchedReply, true⟩, h) ∧
      (bridge cacheSerde lanConfig).exec
          (.listening minimalCache)
          [datagram telescope telescopeReply] =
        some (.listening ⟨patchedReply, true⟩, h') ∧
      (bridge cacheSerde lanConfig).countSteps replaced
        (.listening minimalCache) amidOthers ≤ 1 ∧
      ∃ seen h₁ o,
        (bridge cacheSerde lanConfig).exec
            (.listening minimalCache) untilTelescope =
          some (.listening seen, h₁) ∧
        (bridge cacheSerde lanConfig).step (.listening seen)
            (datagram lanClient clientRequest) =
          some (.listening seen, o) ∧
        AnsweredWith cacheSerde seen.deviceInfo lanClient
          o := by
  have hEnd :
      ((bridge cacheSerde lanConfig).exec
        (.listening minimalCache) amidOthers).map Prod.fst =
      some (.listening ⟨patchedReply, true⟩) := by
    decide +kernel
  have hEnd' :
      ((bridge cacheSerde lanConfig).exec
        (.listening minimalCache)
        [datagram telescope telescopeReply]).map Prod.fst =
      some (.listening ⟨patchedReply, true⟩) := by
    decide +kernel
  rcases Option.map_eq_some_iff.mp hEnd with
    ⟨⟨s, h⟩, hExec, rfl⟩
  rcases Option.map_eq_some_iff.mp hEnd' with
    ⟨⟨s', h'⟩, hExec', hState⟩
  cases hState
  rcases cache_settles hExec hExec' (by decide +kernel) with
    ⟨-, hOnce, hAnswered⟩
  rcases hAnswered untilTelescope
    [datagram lanClient forgedReply] lanClient _ [] rfl
    (by decide +kernel) (by decide +kernel) with
    ⟨seen, h₁, _, o, _, hBefore, -, hStep, hInfo, -⟩
  exact ⟨h, h', hExec, hExec', hOnce, seen, h₁, o, hBefore,
    hStep, hInfo⟩

end Discovery

end SeestarProxy
