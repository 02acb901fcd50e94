import SeestarProxy.Discovery.ProxyIp

/-
  Discovery responses that bridges receive back.

  A bridge broadcasts its responses to the port it listens
  on, so it and every other bridge may receive them. They
  are answered only where the cached value they were made
  from is itself a discovery request, which only a reply to
  the startup probe can be. Otherwise at most two responses
  are sent for each datagram that is none of them.

  A probe of a bridge is a request like that of a client; it
  is counted apart from what comes from outside.

  Main declarations:
    * `Net`, `NetEvent`, `netStep` and `network`
    * `isRequest`, `PrintsBack` and `responsesTo`
    * `NoRequestBack`, `NoProbeBack` and `CleanStart`
    * `answered`, `responses` and `received`
    * `StormOutcome` and `no_storm_iff`
    * `echo_is_answered`
-/

------------------------------------------------------------
-- A Network of Bridges
------------------------------------------------------------

namespace SeestarProxy

namespace Discovery

open Library Protocol

abbrev BridgeId := Nat

/- Where a datagram that a bridge receives comes from. -/
inductive Origin where
| outside
| probe
| response
deriving DecidableEq, Repr

/-
  The bridges and the responses they have sent, each with
  the cached value it was made from.
-/
structure Net where
  phase : BridgeId → Phase
  sent : List (Value × String)

/-
  A bridge starts, or it receives a datagram from outside,
  the probe of a bridge at an address, or a response that a
  bridge has sent, by its place among the sent ones.
-/
inductive NetEvent where
| start (b : BridgeId) (probe : ProbeRun)
| outside (b : BridgeId) (src : SocketAddr)
    (text : Option String) (sends : Sends)
| probe (b : BridgeId) (src : SocketAddr) (ip : IpAddr)
    (sends : Sends)
| echo (b : BridgeId) (src : SocketAddr) (i : Nat)
    (sends : Sends)

/- A datagram is received, or sent after one of the origin. -/
inductive NetObs where
| received (origin : Origin)
| sent (origin : Origin) (o : Obs)

/- A response with what it was made from. -/
def Obs.response? : Obs → Option (Value × String)
| .response _ info text => some (info, text)
| .probe _ _ => none

/- The receive buffer of a bridge. -/
def recvBufSize : Nat := 16384

/-
  The text of a datagram as it is received; a longer one is
  cut off, and what is left of it is no JSON text.
-/
def cutOff (text : String) : Option String :=
  if text.utf8ByteSize ≤ recvBufSize then some text else none

variable {serde : Serde} {config : BridgeId → Config}

/- A bridge receives a datagram. -/
def deliver
    (serde : Serde)
    (config : BridgeId → Config)
    (s : Net)
    (origin : Origin)
    (b : BridgeId)
    (src : SocketAddr)
    (text : Option String)
    (sends : Sends) : Option (Net × List NetObs) :=
  match bridgeStep serde (config b) (s.phase b)
      (.receive src text sends) with
  | none => none
  | some (phase, o) =>
      some (⟨Function.update s.phase b phase,
        s.sent ++ o.filterMap Obs.response?⟩,
        .received origin :: o.map (.sent origin))

/- One step of the network. -/
def netStep
    (serde : Serde)
    (config : BridgeId → Config)
    (s : Net) : NetEvent → Option (Net × List NetObs)
| .start b probe =>
    match bridgeStep serde (config b) (s.phase b)
        (.start probe) with
    | none => none
    | some (phase, _) =>
        some ({ s with
          phase := Function.update s.phase b phase }, [])
| .outside b src text sends =>
    deliver serde config s .outside b src text sends
| .probe b src ip sends =>
    match serde.toStr (probeRequest ip) with
    | none => none
    | some text =>
        deliver serde config s .probe b src (cutOff text)
          sends
| .echo b src i sends =>
    match s.sent[i]? with
    | none => none
    | some (_, text) =>
        deliver serde config s .response b src (cutOff text)
          sends

def network
    (serde : Serde)
    (config : BridgeId → Config) :
    Machine Net NetEvent NetObs where
  init := ⟨fun _ => .starting, []⟩
  step := netStep serde config

------------------------------------------------------------
-- Requests and Their Answers
------------------------------------------------------------

/- The value is a discovery request. -/
def isRequest (v : Value) : Bool :=
  decide ((methodName v).getD "" = "scan_iscope") &&
    !isResponse v

/-
  What is printed has the same keys when it is read back,
  and the same strings under them.
-/
structure PrintsBack (serde : Serde) : Prop where
  keys : ∀ v text w key, serde.toStr v = some text →
    serde.fromStr (Text.trim text) = some w →
      (w.get key).isSome = (v.get key).isSome
  strings : ∀ v text w key, serde.toStr v = some text →
    serde.fromStr (Text.trim text) = some w →
      (w.get key).bind Value.asStr =
        (v.get key).bind Value.asStr

/- The datagram is read as a discovery request. -/
def asks (serde : Serde) (text : Option String) : Bool :=
  match discoveryMessage serde text with
  | none => false
  | some msg => !isResponse msg

/- The printed text can be read where it arrives. -/
def isReadable (serde : Serde) (text : String) : Bool :=
  ((cutOff text).bind fun s =>
    serde.fromStr (Text.trim s)).isSome

theorem isRequest_of_reads
    {v w : Value}
    {printed : String}
    (hPrints : PrintsBack serde)
    (hText : serde.toStr v = some printed)
    (hReads : serde.fromStr (Text.trim printed) = some w) :
    isRequest w = isRequest v := by
  have hKeys := fun key => hPrints.keys v printed w key
    hText hReads
  have hMethod : methodName w = methodName v :=
    hPrints.strings v printed w "method" hText hReads
  unfold isRequest isResponse
  rw [hMethod, hKeys "result", hKeys "code"]

/- A printed value asks when it is a request and readable. -/
theorem asks_cutOff
    {v : Value}
    {printed : String}
    (hPrints : PrintsBack serde)
    (hText : serde.toStr v = some printed) :
    asks serde (cutOff printed) =
      (isRequest v && isReadable serde printed) := by
  unfold asks discoveryMessage isReadable
  cases hReads : (cutOff printed).bind fun s =>
      serde.fromStr (Text.trim s) with
  | none => simp
  | some w =>
      rcases Option.bind_eq_some_iff.mp hReads with
        ⟨s, hCut, hParse⟩
      have hSame : s = printed := by
        unfold cutOff at hCut
        split at hCut
        · exact (Option.some.inj hCut).symm
        · cases hCut
      subst hSame
      rw [← isRequest_of_reads hPrints hText hParse]
      unfold isRequest
      by_cases hMethod :
          (methodName w).getD "" = "scan_iscope"
      · simp [Option.filter, hMethod]
      · simp [Option.filter, hMethod]

/-
  The responses of a bridge to a datagram, each with the
  cached value: to the sender and as a broadcast.
-/
def responsesTo
    (serde : Serde)
    (cache : Cache)
    (text : Option String)
    (sends : Sends) : List (Value × String) :=
  match asks serde text, serde.toStr cache.deviceInfo with
  | true, some printed =>
      (if sends.unicast then
        [(cache.deviceInfo, printed)] else []) ++
      (if sends.broadcast then
        [(cache.deviceInfo, printed)] else [])
  | _, _ => []

variable {c : Config} {cache : Cache} {src : SocketAddr}
variable {text : Option String} {sends : Sends}
variable {p p' : Phase} {out : List Obs}

theorem responses_refreshProbe :
    (refreshProbe serde c).filterMap Obs.response? = [] := by
  unfold refreshProbe
  split <;> rfl

theorem responses_receiveDatagram :
    (receiveDatagram serde c cache src text
        sends).2.filterMap Obs.response? =
      responsesTo serde cache text sends := by
  unfold receiveDatagram responsesTo asks
  cases discoveryMessage serde text with
  | none => rfl
  | some msg =>
      cases hResponse : isResponse msg with
      | true => simp [hResponse]
      | false =>
          simp only [hResponse, Bool.not_false,
            Bool.false_eq_true, if_false]
          unfold answer
          cases serde.toStr cache.deviceInfo with
          | none => rfl
          | some printed =>
              rcases sends with ⟨unicast, broadcast, probe⟩
              have hProbe : (if !cache.haveRealInfo && probe
                  then refreshProbe serde c else []).filterMap
                    Obs.response? = [] := by
                split
                · exact responses_refreshProbe
                · rfl
              simp only [List.filterMap_append, hProbe,
                List.append_nil]
              cases unicast <;> cases broadcast <;> rfl

/- What a bridge that receives a datagram does. -/
theorem receive_cases
    (hStep : bridgeStep serde c p (.receive src text sends) =
      some (p', out)) :
    ∃ cache, p = .listening cache ∧
      p' = (receiveDatagram serde c cache src text sends).1 ∧
      out.filterMap Obs.response? =
        responsesTo serde cache text sends := by
  cases bridgeStep_cases hStep with
  | @received cache src text sends =>
      exact ⟨cache, rfl, rfl, responses_receiveDatagram⟩

theorem length_responsesTo_le :
    (responsesTo serde cache text sends).length ≤ 2 := by
  unfold responsesTo
  split
  · cases sends.unicast <;> cases sends.broadcast <;> simp
  · simp

/- Responses are made from the cache, and printed. -/
theorem mem_responsesTo
    {x : Value × String}
    (hMem : x ∈ responsesTo serde cache text sends) :
    x.1 = cache.deviceInfo ∧
      serde.toStr x.1 = some x.2 := by
  unfold responsesTo at hMem
  split at hMem
  case h_1 printed _ hText =>
      have hSame : x = (cache.deviceInfo, printed) := by
        cases hUnicast : sends.unicast <;>
          cases hBroadcast : sends.broadcast <;>
          simp_all
      subst hSame
      exact ⟨rfl, hText⟩
  case h_2 => cases hMem

/- The bridge listens and can answer a request. -/
def canAnswer
    (serde : Serde)
    (sends : Sends) : Phase → Bool
| .listening cache =>
    (serde.toStr cache.deviceInfo).isSome &&
      (sends.unicast || sends.broadcast)
| .starting | .stopped => false

theorem responsesTo_eq_nil_iff :
    responsesTo serde cache text sends = [] ↔
      (asks serde text = true →
        canAnswer serde sends (.listening cache) = false) := by
  unfold responsesTo canAnswer
  cases asks serde text with
  | false => simp
  | true =>
      cases hText : serde.toStr cache.deviceInfo with
      | none => simp [hText]
      | some printed =>
          cases sends.unicast <;> cases sends.broadcast <;>
            simp [hText]

------------------------------------------------------------
-- What Is Received Back
------------------------------------------------------------

/-
  A bridge that receives back a response can read and answer
  it only if the cached value it was made from is no
  discovery request.
-/
def NoRequestBack
    (serde : Serde)
    (s : Net) : NetEvent → Prop
| .echo b _ i sends =>
    ∀ info text, s.sent[i]? = some (info, text) →
      isRequest info = true → isReadable serde text = true →
        canAnswer serde sends (s.phase b) = false
| _ => True

/- No bridge can read and answer the probe of a bridge. -/
def NoProbeBack
    (serde : Serde)
    (s : Net) : NetEvent → Prop
| .probe b _ ip sends =>
    ∀ text, serde.toStr (probeRequest ip) = some text →
      isReadable serde text = true →
        canAnswer serde sends (s.phase b) = false
| _ => True

/- A response to a datagram of the origin. -/
def NetObs.answers (origin : Origin) : NetObs → Bool
| .sent origin' (.response _ _ _) => origin' = origin
| _ => false

/- The number of responses to datagrams of an origin. -/
def answered (origin : Origin) (h : List NetObs) : Nat :=
  h.countP (NetObs.answers origin)

def NetObs.isSentResponse : NetObs → Bool
| .sent _ (.response _ _ _) => true
| _ => false

/- The number of responses that were sent. -/
def responses (h : List NetObs) : Nat :=
  h.countP NetObs.isSentResponse

def NetObs.comesFrom (origin : Origin) : NetObs → Bool
| .received origin' => origin' = origin
| .sent _ _ => false

/- The number of datagrams that came from an origin. -/
def received (origin : Origin) (h : List NetObs) : Nat :=
  h.countP (NetObs.comesFrom origin)

variable {s s' : Net} {e : NetEvent} {b : BridgeId}
variable {o h : List NetObs} {origin origin' : Origin}

@[simp] theorem answered_append :
    answered origin (h ++ o) =
      answered origin h + answered origin o :=
  List.countP_append

@[simp] theorem received_append :
    received origin (h ++ o) =
      received origin h + received origin o :=
  List.countP_append

/- Every response is sent after a datagram of some origin. -/
theorem responses_eq (h : List NetObs) :
    responses h = answered .outside h +
      answered .probe h + answered .response h := by
  unfold responses answered
  induction h with
  | nil => rfl
  | cons x h ih =>
      simp only [List.countP_cons, ih]
      cases x with
      | received origin => simp [NetObs.isSentResponse,
          NetObs.answers]
      | sent origin y =>
          cases y with
          | response dest info text =>
              cases origin <;>
                simp [NetObs.isSentResponse,
                  NetObs.answers] <;> omega
          | probe dest text => simp [NetObs.isSentResponse,
              NetObs.answers]

theorem answered_map_sent
    (origin origin' : Origin)
    (out : List Obs) :
    answered origin' (out.map (.sent origin)) =
      if origin = origin' then
        (out.filterMap Obs.response?).length
      else
        0 := by
  unfold answered
  induction out with
  | nil => simp
  | cons y out ih =>
      simp only [List.map_cons, List.countP_cons, ih,
        List.filterMap_cons]
      by_cases hSame : origin = origin'
      · cases y <;> simp [NetObs.answers, Obs.response?,
          hSame]
      · cases y <;> simp [NetObs.answers, hSame]

theorem received_map_sent
    (origin origin' : Origin)
    (out : List Obs) :
    received origin' (out.map (.sent origin)) = 0 := by
  unfold received
  rw [List.countP_eq_zero]
  intro x hMem
  rcases List.mem_map.mp hMem with ⟨y, -, rfl⟩
  simp [NetObs.comesFrom]

/- What the delivery of a datagram does. -/
theorem deliver_cases
    (hStep : deliver serde config s origin b src text sends =
      some (s', o)) :
    ∃ cache,
      s.phase b = .listening cache ∧
      s' = ⟨Function.update s.phase b
          (receiveDatagram serde (config b) cache src text
            sends).1,
        s.sent ++ responsesTo serde cache text sends⟩ ∧
      ∀ origin',
        answered origin' o = (if origin = origin' then
          (responsesTo serde cache text sends).length
        else
          0) ∧
        received origin' o =
          if origin = origin' then 1 else 0 := by
  unfold deliver at hStep
  cases hBridge : bridgeStep serde (config b) (s.phase b)
      (.receive src text sends) with
  | none => simp [hBridge] at hStep
  | some next =>
      rcases next with ⟨p', out⟩
      rcases receive_cases hBridge with
        ⟨cache, hPhase, rfl, hOut⟩
      simp only [hBridge, Option.some.injEq,
        Prod.mk.injEq] at hStep
      rcases hStep with ⟨rfl, rfl⟩
      refine ⟨cache, hPhase, by rw [hOut], ?_⟩
      intro origin'
      have hAnswered := answered_map_sent origin origin' out
      have hReceived := received_map_sent origin origin' out
      rw [hOut] at hAnswered
      constructor
      · rw [← hAnswered]
        rfl
      · unfold received at hReceived ⊢
        rw [List.countP_cons, hReceived]
        simp [NetObs.comesFrom]

/- What the start of a bridge does. -/
theorem start_cases
    {probe : ProbeRun}
    (hStep : netStep serde config s (.start b probe) =
      some (s', o)) :
    s' = { s with
      phase := Function.update s.phase b
        (startBridge serde (config b) probe) } ∧
      o = [] := by
  unfold netStep at hStep
  cases hPhase : s.phase b with
  | starting =>
      simp only [hPhase, bridgeStep, Option.some.injEq,
        Prod.mk.injEq] at hStep
      exact ⟨hStep.1.symm, hStep.2.symm⟩
  | listening cache =>
      simp [hPhase, bridgeStep] at hStep
  | stopped => simp [hPhase, bridgeStep] at hStep

/- A step starts a bridge or delivers a datagram. -/
theorem netStep_cases
    (hStep : netStep serde config s e = some (s', o)) :
    (∃ b probe, e = .start b probe) ∨
      ∃ origin b src text sends,
        deliver serde config s origin b src text sends =
          some (s', o) := by
  cases e with
  | start b probe => exact Or.inl ⟨b, probe, rfl⟩
  | outside b src text sends =>
      exact Or.inr ⟨.outside, b, src, text, sends, hStep⟩
  | probe b src ip sends =>
      simp only [netStep] at hStep
      split at hStep
      · cases hStep
      · exact Or.inr ⟨.probe, b, src, _, sends, hStep⟩
  | echo b src i sends =>
      simp only [netStep] at hStep
      split at hStep
      · cases hStep
      · exact Or.inr ⟨.response, b, src, _, sends, hStep⟩

/- At most two responses are sent for each datagram. -/
theorem answered_le
    {es : List NetEvent}
    (hRun : (network serde config).Run es h s)
    (origin : Origin) :
    answered origin h ≤ 2 * received origin h := by
  refine Machine.run_invariant
    (motive := fun h _ =>
      answered origin h ≤ 2 * received origin h)
    (Nat.le_refl 0) ?_ hRun
  intro h s e s' o hLe hStep
  rcases netStep_cases hStep with
    ⟨b, probe, rfl⟩ |
      ⟨origin', b, src, text, sends, hDeliver⟩
  · rcases start_cases hStep with ⟨-, rfl⟩
    simpa using hLe
  · rcases deliver_cases hDeliver with
      ⟨cache, -, -, hCounts⟩
    have hTwo :
        (responsesTo serde cache text sends).length ≤ 2 :=
      length_responsesTo_le
    rw [answered_append, received_append,
      (hCounts origin).1, (hCounts origin).2]
    split <;> omega

/- What is sent has been printed. -/
def SentPrinted (serde : Serde) (s : Net) : Prop :=
  ∀ x ∈ s.sent, serde.toStr x.1 = some x.2

theorem sentPrinted_of_run
    {es : List NetEvent}
    (hRun : (network serde config).Run es h s) :
    SentPrinted serde s := by
  refine Machine.run_invariant
    (motive := fun _ s => SentPrinted serde s) ?_ ?_ hRun
  · intro x hMem
    cases hMem
  intro h s e s' o hSent hStep
  rcases netStep_cases hStep with
    ⟨b, probe, rfl⟩ |
      ⟨origin, b, src, text, sends, hDeliver⟩
  · rcases start_cases hStep with ⟨rfl, -⟩
    exact hSent
  · rcases deliver_cases hDeliver with ⟨cache, -, rfl, -⟩
    intro x hMem
    rcases List.mem_append.mp hMem with hOld | hNew
    · exact hSent x hOld
    · exact (mem_responsesTo hNew).2

/-
  A delivered value is not answered exactly when it is no
  request, cannot be read or meets a bridge that cannot
  answer.
-/
theorem answered_deliver_eq_zero_iff
    {v : Value}
    {printed : String}
    (hPrints : PrintsBack serde)
    (hText : serde.toStr v = some printed)
    (hStep : deliver serde config s origin b src
      (cutOff printed) sends = some (s', o)) :
    answered origin o = 0 ↔
      (isRequest v = true →
        isReadable serde printed = true →
          canAnswer serde sends (s.phase b) = false) := by
  rcases deliver_cases hStep with
    ⟨cache, hPhase, -, hCounts⟩
  rw [(hCounts origin).1, if_pos rfl,
    List.length_eq_zero_iff, responsesTo_eq_nil_iff,
    asks_cutOff hPrints hText, hPhase, Bool.and_eq_true,
    and_imp]

theorem answered_deliver_of_ne
    (hOrigin : origin ≠ origin')
    (hStep : deliver serde config s origin b src text sends =
      some (s', o)) :
    answered origin' o = 0 := by
  rcases deliver_cases hStep with ⟨cache, -, -, hCounts⟩
  rw [(hCounts origin').1, if_neg hOrigin]

theorem isRequest_probeRequest (ip : IpAddr) :
    isRequest (probeRequest ip) = true := by
  unfold isRequest isResponse methodName probeRequest
  simp [Value.get_ofMembers, Value.asStr]

/- Whether a step answers a response. -/
theorem response_step_iff
    (hPrints : PrintsBack serde)
    (hSent : SentPrinted serde s)
    (hStep : netStep serde config s e = some (s', o)) :
    answered .response o = 0 ↔ NoRequestBack serde s e := by
  cases e with
  | start b probe =>
      rcases start_cases hStep with ⟨-, rfl⟩
      exact iff_of_true rfl trivial
  | outside b src text sends =>
      exact iff_of_true
        (answered_deliver_of_ne (by decide) hStep) trivial
  | probe b src ip sends =>
      simp only [netStep] at hStep
      split at hStep
      · cases hStep
      · exact iff_of_true
          (answered_deliver_of_ne (by decide) hStep) trivial
  | echo b src i sends =>
      simp only [netStep] at hStep
      cases hAt : s.sent[i]? with
      | none => simp [hAt] at hStep
      | some x =>
          rcases x with ⟨info, printed⟩
          simp only [hAt] at hStep
          have hText := hSent _ (List.mem_of_getElem? hAt)
          rw [answered_deliver_eq_zero_iff hPrints hText
            hStep]
          constructor
          · intro hSilent info' text' hSome
            rw [hAt] at hSome
            cases hSome
            exact hSilent
          · intro hBack
            exact hBack info printed hAt

/- Whether a step answers the probe of a bridge. -/
theorem probe_step_iff
    (hPrints : PrintsBack serde)
    (hStep : netStep serde config s e = some (s', o)) :
    answered .probe o = 0 ↔ NoProbeBack serde s e := by
  cases e with
  | start b probe =>
      rcases start_cases hStep with ⟨-, rfl⟩
      exact iff_of_true rfl trivial
  | outside b src text sends =>
      exact iff_of_true
        (answered_deliver_of_ne (by decide) hStep) trivial
  | probe b src ip sends =>
      simp only [netStep] at hStep
      cases hText : serde.toStr (probeRequest ip) with
      | none => simp [hText] at hStep
      | some printed =>
          simp only [hText] at hStep
          rw [answered_deliver_eq_zero_iff hPrints hText
            hStep]
          constructor
          · intro hSilent text' hSome
            rw [hText] at hSome
            cases hSome
            exact hSilent (isRequest_probeRequest ip)
          · intro hBack _
            exact hBack printed hText
  | echo b src i sends =>
      simp only [netStep] at hStep
      split at hStep
      · cases hStep
      · exact iff_of_true
          (answered_deliver_of_ne (by decide) hStep) trivial

------------------------------------------------------------
-- Requests in the Cache
------------------------------------------------------------

theorem isRequest_of_isResponse
    {v : Value}
    (hResponse : isResponse v = true) :
    isRequest v = false := by
  unfold isRequest
  rw [hResponse]
  exact Bool.and_false _

theorem HasResult.isResponse
    {v : Value}
    (hResult : HasResult v) :
    isResponse v = true := by
  unfold Discovery.isResponse
  rw [hResult]
  exact Bool.true_or _

/- The address that is put in makes no request. -/
theorem isRequest_patchIp
    {ip : IpAddr}
    {v w : Value}
    (hPatch : patchIp ip v = some w) :
    isRequest w = isRequest v := by
  by_cases hResult : HasResult v
  · have hPoints := (pointsAt_patchIp_iff hPatch).mpr hResult
    rw [isRequest_of_isResponse hResult.isResponse,
      isRequest_of_isResponse hPoints.hasResult.isResponse]
  · have hNone : v.get "result" = none := by
      unfold HasResult at hResult
      simpa using hResult
    unfold patchIp at hPatch
    simp only [hNone, Option.some.injEq] at hPatch
    rw [hPatch]

/-
  The reply that the startup takes is no discovery request.
-/
def CleanStart
    (serde : Serde)
    (config : BridgeId → Config) : NetEvent → Prop
| .start b probe =>
    (config b).telescopeSn = none → ∀ v,
      awaitReply serde (config b).upstreamAddr
          probe.replies = some v →
        isRequest v = false
| _ => True

theorem isRequest_startupInfo
    {probe : ProbeRun}
    (hClean : CleanStart serde config (.start b probe)) :
    isRequest (startupInfo serde (config b) probe) =
      false := by
  have hBuilt (result : Value) (_ : result.IsObject) :
      isRequest (discoveryResponse result) = false :=
    isRequest_of_isResponse
      (hasResult_discoveryResponse result).isResponse
  exact (startupInfo_iff hBuilt probe).mpr hClean

/- The cached value is no discovery request. -/
def NoRequestCached : Phase → Prop
| .listening cache => isRequest cache.deviceInfo = false
| .starting | .stopped => True

theorem noRequestCached_start
    {probe : ProbeRun}
    (hClean : CleanStart serde config (.start b probe)) :
    NoRequestCached
      (startBridge serde (config b) probe) := by
  unfold startBridge
  cases hPatch : patchIp (config b).proxyIp
      (startupInfo serde (config b) probe) with
  | none => trivial
  | some info =>
      exact (isRequest_patchIp hPatch).trans
        (isRequest_startupInfo hClean)

/- Only responses replace the cache. -/
theorem noRequestCached_receive
    (hCached : isRequest cache.deviceInfo = false) :
    NoRequestCached
      (receiveDatagram serde c cache src text sends).1 := by
  unfold receiveDatagram
  cases discoveryMessage serde text with
  | none => exact hCached
  | some msg =>
      cases hResponse : isResponse msg with
      | true =>
          simp only [hResponse, if_true]
          unfold takeResponse
          split
          · cases hPatch : patchIp c.proxyIp msg with
            | none => trivial
            | some updated =>
                exact (isRequest_patchIp hPatch).trans
                  (isRequest_of_isResponse hResponse)
          · exact hCached
      | false =>
          simp only [hResponse, Bool.false_eq_true, if_false]
          unfold answer
          cases serde.toStr cache.deviceInfo with
          | none => trivial
          | some printed => exact hCached

/- No cached value and no sent response is a request. -/
structure NoRequestHeld (s : Net) : Prop where
  cached : ∀ b, NoRequestCached (s.phase b)
  sent : ∀ x ∈ s.sent, isRequest x.1 = false

theorem noRequestHeld_step
    (hHeld : NoRequestHeld s)
    (hClean : CleanStart serde config e)
    (hStep : netStep serde config s e = some (s', o)) :
    NoRequestHeld s' := by
  have hUpdate (b : BridgeId) (p : Phase)
      (hNew : NoRequestCached p) (b' : BridgeId) :
      NoRequestCached (Function.update s.phase b p b') := by
    by_cases hSame : b' = b
    · subst hSame
      rw [Function.update_self]
      exact hNew
    · rw [Function.update_of_ne hSame]
      exact hHeld.cached b'
  rcases netStep_cases hStep with
    ⟨b, probe, rfl⟩ |
      ⟨origin, b, src, text, sends, hDeliver⟩
  · rcases start_cases hStep with ⟨rfl, -⟩
    exact ⟨hUpdate b _ (noRequestCached_start hClean),
      hHeld.sent⟩
  · rcases deliver_cases hDeliver with
      ⟨cache, hPhase, rfl, -⟩
    have hCached : isRequest cache.deviceInfo = false := by
      have hOld := hHeld.cached b
      rw [hPhase] at hOld
      exact hOld
    refine ⟨hUpdate b _ (noRequestCached_receive hCached),
      ?_⟩
    intro x hMem
    rcases List.mem_append.mp hMem with hOld | hNew
    · exact hHeld.sent x hOld
    · rw [(mem_responsesTo hNew).1]
      exact hCached

/- Responses that are no requests may come back. -/
theorem noRequestBack_of_held
    (hHeld : NoRequestHeld s)
    (e : NetEvent) :
    NoRequestBack serde s e := by
  cases e with
  | echo b src i sends =>
      intro info text hAt hRequest
      have hNot := hHeld.sent _ (List.mem_of_getElem? hAt)
      rw [hRequest] at hNot
      cases hNot
  | start b probe => trivial
  | outside b src text sends => trivial
  | probe b src ip sends => trivial

theorem meets_of_cleanStart
    {es : List NetEvent}
    (hRun : (network serde config).Run es h s)
    (hClean : ∀ e ∈ es, CleanStart serde config e) :
    (network serde config).Meets (NoRequestBack serde)
      (network serde config).init es := by
  refine (Machine.run_induction
    (motive := fun es _ s =>
      (∀ e ∈ es, CleanStart serde config e) →
        NoRequestHeld s ∧
          (network serde config).Meets (NoRequestBack serde)
            (network serde config).init es)
    ?_ ?_ hRun hClean).2
  · intro _
    refine ⟨⟨fun b => trivial, ?_⟩, trivial⟩
    intro x hMem
    cases hMem
  · intro es h s e s' o hBefore ih hStep hAll
    rcases ih (fun e' hMem =>
        hAll e' (List.mem_append_left _ hMem)) with
      ⟨hHeld, hMeets⟩
    have hLast := hAll e (List.mem_append_right _
      (List.mem_singleton_self e))
    exact ⟨noRequestHeld_step hHeld hLast hStep,
      (Machine.meets_snoc_iff hBefore).mpr
        ⟨hMeets, noRequestBack_of_held hHeld e⟩⟩

------------------------------------------------------------
-- Runs
------------------------------------------------------------

/- No step of a run answers a datagram of the origin. -/
theorem answered_eq_zero_iff_meets
    {cond : Net → NetEvent → Prop}
    (hStep : ∀ es h s e s' o,
      (network serde config).Run es h s →
        netStep serde config s e = some (s', o) →
          (answered origin o = 0 ↔ cond s e))
    {es : List NetEvent}
    (hRun : (network serde config).Run es h s) :
    answered origin h = 0 ↔
      (network serde config).Meets cond
        (network serde config).init es := by
  apply Machine.history_iff_meets _ _ hRun
  · rfl
  · intro es h s e s' o hBefore hNext
    rw [answered_append, Nat.add_eq_zero_iff,
      hStep es h s e s' o hBefore hNext]

/-
  What holds of a run: no response is answered exactly when
  none that is a request comes back to a bridge that can
  answer it. Then at most two responses are sent for each
  other datagram, and if the probes of bridges are not
  answered either, for each datagram from outside. None that
  is a request comes back when no bridge starts from one.
-/
structure StormOutcome
    (serde : Serde)
    (config : BridgeId → Config)
    (es : List NetEvent)
    (h : List NetObs) : Prop where
  unanswered_iff :
    answered .response h = 0 ↔
      (network serde config).Meets (NoRequestBack serde)
        (network serde config).init es
  bounded :
    (network serde config).Meets (NoRequestBack serde)
        (network serde config).init es →
      responses h ≤
        2 * (received .outside h + received .probe h)
  contained :
    (network serde config).Meets (NoRequestBack serde)
        (network serde config).init es →
      (network serde config).Meets (NoProbeBack serde)
          (network serde config).init es →
        responses h ≤ 2 * received .outside h
  startup :
    (∀ e ∈ es, CleanStart serde config e) →
      (network serde config).Meets (NoRequestBack serde)
        (network serde config).init es

theorem no_storm_iff
    {es : List NetEvent}
    (hPrints : PrintsBack serde)
    (hRun : (network serde config).Run es h s) :
    StormOutcome serde config es h := by
  have hEcho :
      answered .response h = 0 ↔
        (network serde config).Meets (NoRequestBack serde)
          (network serde config).init es := by
    apply answered_eq_zero_iff_meets _ hRun
    intro es h s e s' o hBefore hStep
    exact response_step_iff hPrints
      (sentPrinted_of_run hBefore) hStep
  have hProbe :
      answered .probe h = 0 ↔
        (network serde config).Meets (NoProbeBack serde)
          (network serde config).init es := by
    apply answered_eq_zero_iff_meets _ hRun
    intro es h s e s' o _ hStep
    exact probe_step_iff hPrints hStep
  have hSum := responses_eq h
  have hOutside := answered_le hRun .outside
  have hProbes := answered_le hRun .probe
  refine ⟨hEcho, ?_, ?_, meets_of_cleanStart hRun⟩
  · intro hBack
    have hNone := hEcho.mpr hBack
    omega
  · intro hBack hNoProbe
    have hNone := hEcho.mpr hBack
    have hNoAnswer := hProbe.mpr hNoProbe
    omega

/- The probe of another bridge. -/
def otherProbe : Value :=
  probeRequest (.v4 (ipv4Addr 192 168 1 30))

def netValues : List Value :=
  [clientRequest, telescopeReply, patchedReply, otherProbe,
    probeRequest lanConfig.proxyIp]

/- A library that prints and reads these values. -/
def netSerde : Serde where
  fromStr := (Serde.knowing netValues).fromStr
  toStr := fun v =>
    if v ∈ netValues then v.print else none

theorem printsBack_netSerde : PrintsBack netSerde := by
  have hApart : ∀ v ∈ netValues, ∀ w ∈ netValues,
      v.print.map Text.trim = w.print → w = v := by
    decide +kernel
  have hBack (v : Value) (text : String) (w : Value)
      (hText : netSerde.toStr v = some text)
      (hReads : netSerde.fromStr (Text.trim text) =
        some w) :
      w = v := by
    simp only [netSerde, Option.ite_none_right_eq_some]
      at hText
    have hMem := List.mem_of_find?_eq_some hReads
    have hPrint := List.find?_some hReads
    rw [decide_eq_true_eq] at hPrint
    apply hApart v hText.1 w hMem
    rw [hText.2, hPrint]
    rfl
  constructor
  · intro v text w key hText hReads
    rw [hBack v text w hText hReads]
  · intro v text w key hText hReads
    rw [hBack v text w hText hReads]

/- A bridge starts from a reply and receives a request. -/
def askedAfter (reply : Value) : List NetEvent :=
  [.start 0 ⟨[(telescope,
      .text (netSerde.toStrOrDefault reply))], none⟩,
    .outside 0 lanClient
      (some (netSerde.toStrOrDefault clientRequest))
      allSent]

/- Its broadcast comes back to it. -/
def broadcastBack : NetEvent :=
  .echo 0 ⟨lanConfig.proxyIp, discoveryPort⟩ 1 allSent

theorem no_storm_iff_reply :
    ∃ h s,
      (network netSerde fun _ => lanConfig).Run
          (askedAfter telescopeReply ++ [broadcastBack])
          h s ∧
        responses h = 2 ∧ received .response h = 1 ∧
        StormOutcome netSerde (fun _ => lanConfig)
          (askedAfter telescopeReply ++ [broadcastBack])
          h := by
  have hRun :
      (network netSerde fun _ => lanConfig).Run
        (askedAfter telescopeReply ++ [broadcastBack])
        _ _ :=
    Machine.run_outcome (by decide +kernel)
  refine ⟨_, _, hRun, ?_⟩
  -- Both counts are of one run, which is evaluated once.
  rw [← and_assoc]
  exact ⟨by decide +kernel,
    no_storm_iff printsBack_netSerde hRun⟩

/-
  A bridge whose telescope replied with the probe of another
  bridge answers its own broadcast.
-/
theorem echo_is_answered :
    ∃ h s,
      (network netSerde fun _ => lanConfig).Run
          (askedAfter otherProbe ++ [broadcastBack]) h s ∧
        answered .response h = 2 ∧
        received .outside h = 1 ∧ received .probe h = 0 ∧
        responses h = 4 := by
  exact Machine.exists_run (by decide +kernel)

end Discovery

end SeestarProxy
