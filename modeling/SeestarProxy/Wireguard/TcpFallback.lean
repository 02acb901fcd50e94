import SeestarProxy.Discovery.DeviceState
import SeestarProxy.Wireguard.DeviceInfo

/-
  The device state over TCP, on the LAN and in the tunnel.

  Both ask the telescope for its device state. On the LAN
  the lines are read until one is a reply; for the tunnel
  one line is read, whatever it is. A stream is read to its
  end here, and the timers strike only after it.

  Main declarations:
    * `builtDeviceInfo` and `fetchDeviceInfoTcp_eq`
    * `FirstReply` and `lan_eq_some_iff`
    * `DefaultTexts` and `fromDeviceState_eq_iff`
    * `AgreesOn` and `fallbacks_agree_iff`
    * `event_first_disagrees`
-/

------------------------------------------------------------
-- The Tunnel Reads One Line
------------------------------------------------------------

namespace SeestarProxy

namespace Wireguard

open Discovery Library

variable {serde : Serde} {bytes line : List UInt8}
variable {lines rest : List (List UInt8)} {v : Value}

/-
  The device info that `fetch_device_info_tcp` builds from
  the line that it reads; nothing where it is the default.
-/
def builtDeviceInfo
    (serde : Serde)
    (bytes : List UInt8) : Option Value :=
  (lineText (Lines.takeRecord Text.lf bytes).1).bind
    fun response =>
      (serde.fromStr (Text.trim response)).map fun parsed =>
        fromDeviceState
          ((parsed.get "result").getD (.object []))

/- What tunnel clients are told is built or the default. -/
theorem fetchDeviceInfoTcp_eq
    (serde : Serde)
    (bytes : List UInt8) :
    Wireguard.fetchDeviceInfoTcp serde
        (lineText (Lines.takeRecord Text.lf bytes).1) =
      ((builtDeviceInfo serde bytes).map
        serde.toStrOrDefault).getD
          (defaultDeviceInfo serde) := by
  unfold Wireguard.fetchDeviceInfoTcp builtDeviceInfo
  cases lineText (Lines.takeRecord Text.lf bytes).1 with
  | none => rfl
  | some response =>
      simp only [Option.bind_some]
      cases serde.fromStr (Text.trim response) <;> rfl

------------------------------------------------------------
-- The First Reply on the LAN
------------------------------------------------------------

/- The first reply, where all lines before it are UTF-8. -/
def FirstReply
    (serde : Serde)
    (lines : List (List UInt8))
    (v : Value) : Prop :=
  ∃ before line after, lines = before ++ line :: after ∧
    (∀ l ∈ before, IsText l ∧ reply? serde l = none) ∧
      reply? serde line = some v

theorem decision_eq_reply_iff :
    decision serde line = some (some v) ↔
      reply? serde line = some v := by
  rcases decision_cases serde line with
    ⟨-, w, hReply, hDecision⟩ | ⟨-, hReply, hDecision⟩ |
    ⟨-, hReply, hDecision⟩
  · rw [hReply, hDecision]
    simp
  · rw [hReply, hDecision]
    simp
  · rw [hReply, hDecision]
    simp

theorem decision_eq_none_iff :
    decision serde line = none ↔
      IsText line ∧ reply? serde line = none := by
  rcases decision_cases serde line with
    ⟨-, w, hReply, hDecision⟩ | ⟨hText, hReply, hDecision⟩ |
    ⟨hNot, hReply, hDecision⟩
  · rw [hReply, hDecision]
    simp
  · rw [hReply, hDecision]
    simp [hText]
  · rw [hReply, hDecision]
    simp [hNot]

theorem findSome_eq_reply_iff :
    lines.findSome? (decision serde) = some (some v) ↔
      FirstReply serde lines v := by
  rw [List.findSome?_eq_some_iff]
  constructor
  · rintro ⟨before, line, after, rfl, hLine, hBefore⟩
    exact ⟨before, line, after, rfl,
      fun l hMem => decision_eq_none_iff.mp
        (hBefore l hMem),
      decision_eq_reply_iff.mp hLine⟩
  · rintro ⟨before, line, after, rfl, hBefore, hLine⟩
    exact ⟨before, line, after, rfl,
      decision_eq_reply_iff.mpr hLine,
      fun l hMem => decision_eq_none_iff.mpr
        (hBefore l hMem)⟩

/- The device info that the LAN builds from some lines. -/
def lanDeviceInfo
    (serde : Serde)
    (lines : List (List UInt8)) : Option Value :=
  builtFrom (lines.findSome? (decision serde))

theorem lanDeviceInfo_of_time
    (hEmpty : serde.fromStr "" = none)
    {rounds : Nat}
    (hTime : (Lines.records Text.lf bytes).length ≤
      rounds) :
    Discovery.fetchDeviceInfoTcp serde rounds bytes =
      lanDeviceInfo serde (Lines.records Text.lf bytes) := by
  unfold Discovery.fetchDeviceInfoTcp lanDeviceInfo
  rw [lineLoop_eq hEmpty, List.take_of_length_le hTime]

theorem hasObject_of_reply
    (hReply : reply? serde line = some v) :
    HasObject v := by
  unfold reply? at hReply
  rcases Option.bind_eq_some_iff.mp hReply with
    ⟨text, -, hParsed⟩
  simpa using (Option.filter_eq_some_iff.mp hParsed).2

theorem lan_eq_some_iff
    {info : Value} :
    lanDeviceInfo serde lines = some info ↔
      ∃ v result, FirstReply serde lines v ∧
        v.get "result" = some result ∧
          info = fromDeviceState result := by
  unfold lanDeviceInfo
  constructor
  · intro hInfo
    cases hFirst : lines.findSome? (decision serde) with
    | none => simp [hFirst, builtFrom] at hInfo
    | some last =>
        cases last with
        | none => simp [hFirst, builtFrom] at hInfo
        | some parsed =>
            simp only [hFirst, builtFrom] at hInfo
            rcases Option.map_eq_some_iff.mp hInfo with
              ⟨result, hResult, rfl⟩
            exact ⟨parsed, result,
              findSome_eq_reply_iff.mp hFirst, hResult, rfl⟩
  · rintro ⟨v, result, hFirst, hResult, rfl⟩
    rw [findSome_eq_reply_iff.mpr hFirst]
    simp only [builtFrom, hResult, Option.map_some]

theorem lan_eq_none_iff :
    lanDeviceInfo serde lines = none ↔
      ¬ ∃ v, FirstReply serde lines v := by
  rw [Option.eq_none_iff_forall_ne_some]
  constructor
  · rintro hNone ⟨v, hFirst⟩
    rcases hFirst with
      ⟨before, line, after, hLines, hBefore, hReply⟩
    rcases hasObject_of_reply hReply with
      ⟨result, hResult, -⟩
    exact hNone _ (lan_eq_some_iff.mpr ⟨v, result,
      ⟨before, line, after, hLines, hBefore, hReply⟩,
      hResult, rfl⟩)
  · intro hNo info hInfo
    rcases lan_eq_some_iff.mp hInfo with
      ⟨v, result, hFirst, -, -⟩
    exact hNo ⟨v, hFirst⟩

------------------------------------------------------------
-- Device States without Texts
------------------------------------------------------------

/- A device state that tells nothing of the telescope. -/
def DefaultTexts (result : Value) : Prop :=
  textAt result "device" "sn" "unknown" = "unknown" ∧
    textAt result "device" "product_model" "Seestar" =
        "Seestar" ∧
      textAt result "ap" "ssid" "" = ""

theorem defaultTexts_of_not_object
    {result : Value}
    (hNone : ∀ key, result.get key = none) :
    DefaultTexts result := by
  unfold DefaultTexts textAt
  simp [hNone]

/- The text of a built response under a key. -/
theorem get_fromDeviceState
    (result : Value)
    (key : String) :
    ((fromDeviceState result).get "result").bind
        (fun w => w.get key) =
      (Value.ofMembers
        [("sn", .string
            (textAt result "device" "sn" "unknown")),
          ("product_model", .string
            (textAt result "device" "product_model"
              "Seestar")),
          ("ssid", .string (textAt result "ap" "ssid" "")),
          ("is_verified", .bool true),
          ("tcp_client_num", natValue 0)]).get key := by
  unfold fromDeviceState discoveryResponse
  rw [Value.get_ofMembers]
  rfl

/- A response tells the three texts of the device state. -/
theorem fromDeviceState_eq_iff
    {result result' : Value} :
    fromDeviceState result = fromDeviceState result' ↔
      textAt result "device" "sn" "unknown" =
          textAt result' "device" "sn" "unknown" ∧
        textAt result "device" "product_model" "Seestar" =
            textAt result' "device" "product_model"
              "Seestar" ∧
          textAt result "ap" "ssid" "" =
            textAt result' "ap" "ssid" "" := by
  constructor
  · intro hSame
    have hTexts (key : String) := congrArg
      (fun v : Value => (v.get "result").bind fun w =>
        w.get key) hSame
    have hSn := hTexts "sn"
    have hModel := hTexts "product_model"
    have hSsid := hTexts "ssid"
    simp only [get_fromDeviceState, Value.get_ofMembers]
      at hSn hModel hSsid
    exact ⟨Value.string.inj (Option.some.inj hSn),
      Value.string.inj (Option.some.inj hModel),
      Value.string.inj (Option.some.inj hSsid)⟩
  · rintro ⟨hSn, hModel, hSsid⟩
    unfold fromDeviceState
    rw [hSn, hModel, hSsid]

------------------------------------------------------------
-- When They Agree
------------------------------------------------------------

/- The device state of a reply tells nothing. -/
def Nameless (v : Value) : Prop :=
  ∀ result, v.get "result" = some result →
    DefaultTexts result

/-
  The first line decides alone, or what follows is as good
  as nothing: no reply after a line that is not JSON, and a
  nameless reply after JSON that is no reply.
-/
def AgreesOn
    (serde : Serde) :
    List (List UInt8) → Prop
| [] => True
| line :: rest =>
    ∀ text, lineText line = some text →
      match serde.fromStr (Text.trim text) with
      | none => ¬ ∃ v, FirstReply serde rest v
      | some parsed =>
          HasObject parsed ∨
            ∃ v, FirstReply serde rest v ∧ Nameless v

/- What is built from JSON that is no reply has no texts. -/
theorem defaultTexts_of_not_hasObject
    {parsed : Value}
    (hNot : ¬ HasObject parsed) :
    DefaultTexts
      ((parsed.get "result").getD (.object [])) := by
  apply defaultTexts_of_not_object
  intro key
  cases hResult : parsed.get "result" with
  | none => rfl
  | some result =>
      by_contra hGet
      rcases Option.ne_none_iff_exists'.mp hGet with
        ⟨w, hSome⟩
      exact hNot ⟨result, hResult,
        Value.isObject_of_get_some hSome⟩

/- A later reply gives what was built without texts. -/
theorem lan_eq_default_iff
    {result : Value}
    (hDefault : DefaultTexts result) :
    lanDeviceInfo serde rest =
        some (fromDeviceState result) ↔
      ∃ v, FirstReply serde rest v ∧ Nameless v := by
  rw [lan_eq_some_iff]
  rcases hDefault with ⟨hSn, hModel, hSsid⟩
  constructor
  · rintro ⟨v, result', hFirst, hResult, hSame⟩
    rcases fromDeviceState_eq_iff.mp hSame with
      ⟨hSn', hModel', hSsid'⟩
    refine ⟨v, hFirst, ?_⟩
    intro result'' hResult'
    cases hResult.symm.trans hResult'
    exact ⟨hSn'.symm.trans hSn, hModel'.symm.trans hModel,
      hSsid'.symm.trans hSsid⟩
  · rintro ⟨v, hFirst, hNameless⟩
    rcases hFirst with
      ⟨before, line, after, hLines, hBefore, hReply⟩
    rcases hasObject_of_reply hReply with
      ⟨result', hResult, -⟩
    rcases hNameless result' hResult with
      ⟨hSn', hModel', hSsid'⟩
    refine ⟨v, result',
      ⟨before, line, after, hLines, hBefore, hReply⟩,
      hResult, ?_⟩
    rw [fromDeviceState_eq_iff]
    exact ⟨hSn.trans hSn'.symm, hModel.trans hModel'.symm,
      hSsid.trans hSsid'.symm⟩

/- How the first line of the LAN loop is passed over. -/
theorem lanDeviceInfo_cons
    (serde : Serde)
    (line : List UInt8)
    (rest : List (List UInt8)) :
    lanDeviceInfo serde (line :: rest) =
      match decision serde line with
      | some (some parsed) =>
          (parsed.get "result").map fromDeviceState
      | some none => none
      | none => lanDeviceInfo serde rest := by
  unfold lanDeviceInfo
  rw [List.findSome?_cons]
  cases decision serde line with
  | none => rfl
  | some last => cases last <;> rfl

/- Where the first line is JSON, something is built of it. -/
theorem lan_cons_agrees_iff
    {text : String}
    (hText : lineText line = some text) :
    lanDeviceInfo serde (line :: rest) =
        (serde.fromStr (Text.trim text)).map (fun parsed =>
          fromDeviceState
            ((parsed.get "result").getD (.object []))) ↔
      AgreesOn serde (line :: rest) := by
  rw [lanDeviceInfo_cons]
  unfold AgreesOn decision verdict
  simp only [hText, Option.some.injEq, forall_eq']
  cases hParse : serde.fromStr (Text.trim text) with
  | none => exact lan_eq_none_iff
  | some parsed =>
      by_cases hObject : HasObject parsed
      · rcases hObject with ⟨result, hResult, hIs⟩
        have hObject : HasObject parsed :=
          ⟨result, hResult, hIs⟩
        simp [hObject, hResult]
      · simp only [hObject, if_false, false_or,
          Option.map_some]
        exact lan_eq_default_iff
          (defaultTexts_of_not_hasObject hObject)

/-
  The fall-backs build the same response or both build none
  exactly when the lines are such.
-/
theorem fallbacks_agree_iff
    (hEmpty : serde.fromStr "" = none)
    {rounds : Nat}
    (hTime : (Lines.records Text.lf bytes).length ≤
      rounds) :
    Discovery.fetchDeviceInfoTcp serde rounds bytes =
        builtDeviceInfo serde bytes ↔
      AgreesOn serde (Lines.records Text.lf bytes) := by
  rw [lanDeviceInfo_of_time hEmpty hTime]
  unfold builtDeviceInfo
  by_cases hSome : bytes = []
  · subst hSome
    rw [Lines.takeRecord_nil, Lines.records_nil,
      lineText_nil, Option.bind_some, trim_empty, hEmpty]
    exact iff_of_true rfl trivial
  · rw [Lines.records_eq_cons hSome]
    cases hText :
        lineText (Lines.takeRecord Text.lf bytes).1 with
    | none =>
        rw [lanDeviceInfo_cons]
        unfold decision verdict AgreesOn
        simp [hText]
    | some text => exact lan_cons_agrees_iff hText

/- The reply comes first, and the connection ends. -/
theorem fallbacks_agree_iff_reply :
    Discovery.fetchDeviceInfoTcp stateSerde 1
        (printedLine stateReply) =
        builtDeviceInfo stateSerde
          (printedLine stateReply) ∧
      AgreesOn stateSerde
        (Lines.records Text.lf (printedLine stateReply)) := by
  have hSame :
      Discovery.fetchDeviceInfoTcp stateSerde 1
          (printedLine stateReply) =
        builtDeviceInfo stateSerde
          (printedLine stateReply) := by
    decide +kernel
  have hTime :
      (Lines.records Text.lf
        (printedLine stateReply)).length ≤ 1 := by
    decide +kernel
  refine ⟨hSame, ?_⟩
  rw [← fallbacks_agree_iff stateSerde_empty hTime]
  exact hSame

/- The telescope sends an event before its reply. -/
theorem event_first_disagrees :
    Discovery.fetchDeviceInfoTcp stateSerde 2
        (printedLine piStatus ++ printedLine stateReply) ≠
      builtDeviceInfo stateSerde
        (printedLine piStatus ++
          printedLine stateReply) := by
  decide +kernel

end Wireguard

end SeestarProxy
