import SeestarProxy.Json
import SeestarProxy.Library.Binary64
import SeestarProxy.Library.Machine

/-
  The two records of the telescope's state: the status that
  the dashboard shows and the table that hook scripts read.

  Both follow the telescope's events and both are reset when
  the telescope is connected again. They agree on the fields
  they share exactly when no event or reconnect is one that
  they treat differently: a battery that is no 64-bit
  integer, a view without a mode, a reconnect while a view
  has one, or an integer that Lua does not keep.

  Main declarations:
    * `TelescopeStatus`, `updateEvent` and
      `resetTelescopeState`
    * `TelescopeTable`, `updateTelescopeState` and
      `onUpstreamConnect`
    * `Agree`, `TreatedAlike` and `status_agrees_iff`
    * `status_disagrees`
-/

------------------------------------------------------------
-- Numbers of JSON Values
------------------------------------------------------------

namespace SeestarProxy

namespace Value

open Library

/- The value as a double, by its bits. -/
def asF64 : Value → Option UInt64
| .number (.posInt n) =>
    some (UInt64.ofNat (Binary64.ofNat n.toNat))
| .number (.negInt n) =>
    some (UInt64.ofNat (Binary64.ofInt n.toInt))
| .number (.float bits) => some bits
| _ => none

/- The value as a 64-bit integer. -/
def asI64 : Value → Option Int64
| .number (.posInt n) =>
    if n.toNat < 2 ^ 63 then some n.toInt64 else none
| .number (.negInt n) => some n
| _ => none

/- A member of an object that is read as the given type. -/
def getAs
    {α : Type}
    (read : Value → Option α)
    (msg : Value)
    (key : String) : Option α :=
  (msg.get key).bind read

end Value

namespace Dashboard

open Library

/- The rounding `x.round() as i64`. -/
def roundI64 (bits : UInt64) : Int64 :=
  Int64.ofInt (Binary64.toInt64 bits.toNat)

------------------------------------------------------------
-- The Status of the Dashboard
------------------------------------------------------------

/- The telescope state that the events are read for. -/
structure TelescopeStatus where
  battery : Option Int64
  temperature : Option UInt64
  isStacking : Bool
  stackCount : Int64
  isGoto : Bool
  isHoming : Bool
  tracking : Bool
  viewMode : Option String
  lastEvent : Option String
  lastEventTsMs : UInt64
deriving DecidableEq

def TelescopeStatus.default : TelescopeStatus where
  battery := none
  temperature := none
  isStacking := false
  stackCount := 0
  isGoto := false
  isHoming := false
  tracking := false
  viewMode := none
  lastEvent := none
  lastEventTsMs := 0

/- The fields that an event of the name sets. -/
def applyEvent
    (s : TelescopeStatus)
    (eventName : String)
    (msg : Value) : TelescopeStatus :=
  if eventName = "PiStatus" then
    { s with
      battery :=
        match msg.getAs Value.asF64 "battery_capacity" with
        | some v => some (roundI64 v)
        | none => s.battery
      temperature :=
        match msg.getAs Value.asF64 "temp" with
        | some v => some v
        | none => s.temperature }
  else if eventName = "Stack" then
    { s with
      isStacking := true
      stackCount :=
        match msg.getAs Value.asI64 "count" with
        | some v => v
        | none => s.stackCount }
  else if eventName = "AutoGoto" ∨ eventName = "ScopeGoto" then
    { s with isGoto := true }
  else if eventName = "ScopeHome" then
    { s with
      isHoming :=
        decide ((msg.getAs Value.asStr "state").getD "" =
          "working") }
  else if eventName = "ScopeTrack" then
    { s with
      tracking :=
        (msg.getAs Value.asBool "tracking").getD false }
  else if eventName = "View" then
    { s with viewMode := msg.getAs Value.asStr "mode" }
  else
    s

/- Update the status from an event message. -/
def updateEvent
    (s : TelescopeStatus)
    (eventName : String)
    (msg : Value)
    (nowMs : UInt64) : TelescopeStatus :=
  applyEvent
    { s with
      lastEvent := some eventName
      lastEventTsMs := nowMs }
    eventName msg

/- Reset transient state on reconnect. -/
def resetTelescopeState
    (s : TelescopeStatus) : TelescopeStatus :=
  { s with
    isStacking := false
    stackCount := 0
    isGoto := false
    isHoming := false }

------------------------------------------------------------
-- The Table of the Hooks
------------------------------------------------------------

/-
  The `telescope` table. Its integers are held as the value
  of the number that Lua makes of them, and the temperature
  is a double.
-/
structure TelescopeTable where
  isGoto : Bool
  isStacking : Bool
  viewMode : Option String
  battery : Int
  temperature : UInt64
  stackCount : Option Int
deriving DecidableEq

/- What Lua makes of a 64-bit integer. -/
abbrev LuaNumber := Int64 → Int

/- Lua 5.4 has 64-bit integers. -/
def lua54 : LuaNumber := fun n => n.toInt

/- All numbers of LuaJIT are doubles. -/
def luajit : LuaNumber := fun n => Binary64.nearestInt n.toInt

/- The table that a new engine creates. -/
def TelescopeTable.new (lua : LuaNumber) : TelescopeTable where
  isGoto := false
  isStacking := false
  viewMode := none
  battery := lua 0
  temperature := 0
  stackCount := none

/- Reset transient state on connect. -/
def onUpstreamConnect
    (lua : LuaNumber)
    (telescope : TelescopeTable) : TelescopeTable :=
  { telescope with
    isGoto := false
    isStacking := false
    stackCount := some (lua 0)
    viewMode := none }

/- Update the table from an event. -/
def updateTelescopeState
    (lua : LuaNumber)
    (telescope : TelescopeTable)
    (event : Value) : TelescopeTable :=
  match event.getAs Value.asStr "Event" with
  | none => telescope
  | some eventType =>
      if eventType = "PiStatus" then
        { telescope with
          temperature :=
            match event.getAs Value.asF64 "temp" with
            | some temp => temp
            | none => telescope.temperature
          battery :=
            match event.getAs Value.asI64
                "battery_capacity" with
            | some batt => lua batt
            | none => telescope.battery }
      else if eventType = "View" then
        { telescope with
          viewMode :=
            match event.getAs Value.asStr "mode" with
            | some mode => some mode
            | none => telescope.viewMode }
      else if eventType = "Stack" then
        { telescope with
          isStacking := true
          stackCount :=
            match event.getAs Value.asI64 "count" with
            | some count => some (lua count)
            | none => telescope.stackCount }
      else if eventType = "AutoGoto" ∨
          eventType = "ScopeGoto" then
        { telescope with isGoto := true }
      else
        telescope

------------------------------------------------------------
-- Both Records
------------------------------------------------------------

structure Observers where
  metrics : TelescopeStatus
  hooks : TelescopeTable
deriving DecidableEq

/- What the telescope connection brings. -/
inductive TelescopeEvent where
| event (msg : Value) (nowMs : UInt64)
| reconnect

/- The name under which the reader reports an event. -/
def eventName (msg : Value) : String :=
  (msg.getAs Value.asStr "Event").getD "?"

/- Both records follow what the connection brings. -/
def Observers.next
    (lua : LuaNumber)
    (s : Observers) : TelescopeEvent → Observers
| .event msg nowMs =>
    { metrics := updateEvent s.metrics (eventName msg) msg nowMs
      hooks := updateTelescopeState lua s.hooks msg }
| .reconnect =>
    { metrics := resetTelescopeState s.metrics
      hooks := onUpstreamConnect lua s.hooks }

def observers
    (lua : LuaNumber) :
    Machine Observers TelescopeEvent Empty where
  init := ⟨TelescopeStatus.default, TelescopeTable.new lua⟩
  step s e := some (s.next lua e, [])

/-
  The records agree on the fields they share. A field that
  is not set is read as the other side's initial value.
-/
structure Agree (s : Observers) : Prop where
  battery : (s.metrics.battery.map Int64.toInt).getD 0 =
    s.hooks.battery
  temperature : s.metrics.temperature.getD 0 =
    s.hooks.temperature
  isStacking : s.metrics.isStacking = s.hooks.isStacking
  stackCount : s.metrics.stackCount.toInt =
    s.hooks.stackCount.getD 0
  isGoto : s.metrics.isGoto = s.hooks.isGoto
  viewMode : s.metrics.viewMode = s.hooks.viewMode

/-
  A battery that is a 64-bit integer is the one that its
  double rounds to; any other number rounds to the battery
  that the hooks already hold.
-/
def BatteryAlike
    (lua : LuaNumber)
    (s : Observers)
    (msg : Value) : Prop :=
  ∀ v, msg.getAs Value.asF64 "battery_capacity" = some v →
    match msg.getAs Value.asI64 "battery_capacity" with
    | some n => lua n = (roundI64 v).toInt
    | none => s.hooks.battery = (roundI64 v).toInt

/- A 64-bit integer through a double. -/
private theorem roundI64_ofInt
    (n : Int)
    (hBound : n.natAbs < 2 ^ 64) :
    (roundI64 (UInt64.ofNat (Binary64.ofInt n))).toInt =
      Binary64.saturate (Binary64.nearestInt n) := by
  have hRange : ∀ m : Int,
      -(2 ^ 63) ≤ Binary64.saturate m ∧
        Binary64.saturate m < 2 ^ 63 := by
    intro m
    unfold Binary64.saturate
    omega
  unfold roundI64
  rw [UInt64.toNat_ofNat_of_lt' (Binary64.ofInt_lt hBound),
    Binary64.toInt64_ofInt hBound]
  exact Int64.toInt_ofInt_of_le (hRange _).1 (hRange _).2

/- A value that is read as a 64-bit integer and a double. -/
private theorem roundI64_asF64
    {v : Value}
    {n : Int64}
    (hNumber : v.asI64 = some n) :
    ∃ bits, v.asF64 = some bits ∧
      (roundI64 bits).toInt =
        Binary64.saturate (Binary64.nearestInt n.toInt) := by
  have hLow := n.le_toInt
  have hHigh := n.toInt_lt
  cases v with
  | number number =>
      cases number with
      | posInt m =>
          simp only [Value.asI64] at hNumber
          split at hNumber
          · rename_i hSmall
            have hValue : n.toInt = m.toNat := by
              rw [← Option.some.inj hNumber]
              have hTwice : 2 * m.toNat < 2 ^ 64 := by omega
              exact BitVec.toInt_eq_toNat_of_lt hTwice
            refine ⟨_, rfl, ?_⟩
            have hSame := roundI64_ofInt n.toInt (by omega)
            rw [hValue] at hSame ⊢
            exact hSame
          · cases hNumber
      | negInt m =>
          cases hNumber
          exact ⟨_, rfl, roundI64_ofInt n.toInt (by omega)⟩
      | float bits => cases hNumber
  | _ => cases hNumber

/-
  A battery that is a 64-bit integer is treated alike when
  Lua makes of it what it is through a double.
-/
theorem batteryAlike_integer_iff
    {lua : LuaNumber}
    {s : Observers}
    {msg : Value}
    {n : Int64}
    (hNumber :
      msg.getAs Value.asI64 "battery_capacity" = some n) :
    BatteryAlike lua s msg ↔
      lua n = Binary64.saturate
        (Binary64.nearestInt n.toInt) := by
  unfold BatteryAlike Value.getAs at *
  cases hGet : msg.get "battery_capacity" with
  | none =>
      rw [hGet] at hNumber
      cases hNumber
  | some v =>
      rw [hGet] at hNumber
      rcases roundI64_asF64 hNumber with
        ⟨bits, hF64, hRound⟩
      simp only [Option.bind_some, hF64,
        show v.asI64 = some n from hNumber]
      rw [← hRound]
      constructor
      · intro hAlike
        exact hAlike bits rfl
      · rintro hSame v' ⟨⟩
        exact hSame

/- With Lua 5.4 the doubles are alike, and the last one. -/
theorem lua54_alike_iff
    (n : Int64) :
    lua54 n = Binary64.saturate
        (Binary64.nearestInt n.toInt) ↔
      Binary64.nearestInt n.toInt = n.toInt ∨
        n.toInt = 2 ^ 63 - 1 := by
  rw [← Binary64.saturate_eq_iff n.le_toInt n.toInt_lt]
  exact eq_comm

/- With LuaJIT all are alike but the last ones. -/
theorem luajit_alike_iff
    (n : Int64) :
    luajit n = Binary64.saturate
        (Binary64.nearestInt n.toInt) ↔
      n.toInt < 2 ^ 63 - 512 := by
  rw [← Binary64.saturate_nearestInt_iff n.le_toInt
    n.toInt_lt]
  exact eq_comm

/- Both records treat what happens alike. -/
def TreatedAlike
    (lua : LuaNumber)
    (s : Observers) : TelescopeEvent → Prop
| .event msg _ =>
    (eventName msg = "PiStatus" → BatteryAlike lua s msg) ∧
    (eventName msg = "Stack" →
      ∀ count, msg.getAs Value.asI64 "count" = some count →
        lua count = count.toInt) ∧
    (eventName msg = "View" →
      msg.getAs Value.asStr "mode" = none →
        s.metrics.viewMode = none)
| .reconnect => s.metrics.viewMode = none

------------------------------------------------------------
-- One Event
------------------------------------------------------------

/- A 64-bit integer is also read as a double. -/
private theorem asF64_of_asI64
    {msg : Value}
    {key : String}
    (hNone : msg.getAs Value.asF64 key = none) :
    msg.getAs Value.asI64 key = none := by
  unfold Value.getAs at *
  cases hGet : msg.get key with
  | none => rfl
  | some v =>
      rw [hGet, Option.bind_some] at hNone
      rw [Option.bind_some]
      cases v with
      | number n =>
          cases n with
          | posInt n => cases hNone
          | negInt n => cases hNone
          | float bits => rfl
      | _ => rfl

variable {lua : LuaNumber} {s : Observers} {msg : Value}

/- The battery of both records after a number for it. -/
private theorem battery_iff
    (hAgree : Agree s) :
    ((match msg.getAs Value.asF64 "battery_capacity" with
      | some v => some (roundI64 v)
      | none => s.metrics.battery).map Int64.toInt).getD 0 =
        (match msg.getAs Value.asI64 "battery_capacity" with
        | some batt => lua batt
        | none => s.hooks.battery) ↔
      BatteryAlike lua s msg := by
  unfold BatteryAlike
  cases hF64 : msg.getAs Value.asF64 "battery_capacity" with
  | none =>
      rw [asF64_of_asI64 hF64]
      exact iff_of_true hAgree.battery nofun
  | some v =>
      cases msg.getAs Value.asI64 "battery_capacity" with
      | none =>
          constructor
          · rintro hSame v' ⟨⟩
            exact hSame.symm
          · intro hAlike
            exact (hAlike v rfl).symm
      | some n =>
          constructor
          · rintro hSame v' ⟨⟩
            exact hSame.symm
          · intro hAlike
            exact (hAlike v rfl).symm

private theorem agree_piStatus_iff
    (hAgree : Agree s)
    (nowMs : UInt64)
    (hName : msg.getAs Value.asStr "Event" =
      some "PiStatus") :
    Agree (s.next lua (.event msg nowMs)) ↔
      BatteryAlike lua s msg := by
  have hEventName : eventName msg = "PiStatus" := by
    rw [eventName, hName]
    rfl
  rw [← battery_iff hAgree]
  constructor
  · intro hNext
    have hBattery := hNext.battery
    simpa only [Observers.next, updateEvent, hEventName,
      applyEvent, updateTelescopeState, hName, if_true]
      using hBattery
  · intro hBattery
    refine ⟨?_, ?_, ?_, ?_, ?_, ?_⟩
    all_goals
      simp only [Observers.next, updateEvent, hEventName,
        applyEvent, updateTelescopeState, hName, if_true]
    · exact hBattery
    · cases msg.getAs Value.asF64 "temp" with
      | none => exact hAgree.temperature
      | some temp => rfl
    · exact hAgree.isStacking
    · exact hAgree.stackCount
    · exact hAgree.isGoto
    · exact hAgree.viewMode

private theorem agree_stack_iff
    (hAgree : Agree s)
    (nowMs : UInt64)
    (hName : msg.getAs Value.asStr "Event" = some "Stack") :
    Agree (s.next lua (.event msg nowMs)) ↔
      ∀ count, msg.getAs Value.asI64 "count" = some count →
        lua count = count.toInt := by
  have hEventName : eventName msg = "Stack" := by
    rw [eventName, hName]
    rfl
  have hNot : ¬ "Stack" = "PiStatus" := by decide
  have hNotView : ¬ "Stack" = "View" := by decide
  constructor
  · intro hNext count hCount
    have hSame := hNext.stackCount
    simp only [Observers.next, updateEvent, hEventName,
      applyEvent, updateTelescopeState, hName, hNot,
      hNotView, if_true, if_false, hCount] at hSame
    exact hSame.symm
  · intro hCount
    refine ⟨?_, ?_, ?_, ?_, ?_, ?_⟩
    all_goals
      simp only [Observers.next, updateEvent, hEventName,
        applyEvent, updateTelescopeState, hName, hNot,
        hNotView, if_true, if_false]
    · exact hAgree.battery
    · exact hAgree.temperature
    · cases hNumber : msg.getAs Value.asI64 "count" with
      | none => exact hAgree.stackCount
      | some count => exact (hCount count hNumber).symm
    · exact hAgree.isGoto
    · exact hAgree.viewMode

private theorem agree_view_iff
    (hAgree : Agree s)
    (nowMs : UInt64)
    (hName : msg.getAs Value.asStr "Event" = some "View") :
    Agree (s.next lua (.event msg nowMs)) ↔
      (msg.getAs Value.asStr "mode" = none →
        s.metrics.viewMode = none) := by
  have hEventName : eventName msg = "View" := by
    rw [eventName, hName]
    rfl
  have hNot : ¬ "View" = "PiStatus" := by decide
  have hNotStack : ¬ "View" = "Stack" := by decide
  have hNotGoto :
      ¬ ("View" = "AutoGoto" ∨ "View" = "ScopeGoto") := by
    decide
  have hNotHome : ¬ "View" = "ScopeHome" := by decide
  have hNotTrack : ¬ "View" = "ScopeTrack" := by decide
  constructor
  · intro hNext hMode
    have hSame := hNext.viewMode
    simp only [Observers.next, updateEvent, hEventName,
      applyEvent, updateTelescopeState, hName, hNot,
      hNotStack, hNotGoto, hNotHome, hNotTrack, if_true,
      if_false, hMode] at hSame
    rw [hAgree.viewMode]
    exact hSame.symm
  · intro hMode
    refine ⟨?_, ?_, ?_, ?_, ?_, ?_⟩
    all_goals
      simp only [Observers.next, updateEvent, hEventName,
        applyEvent, updateTelescopeState, hName, hNot,
        hNotStack, hNotGoto, hNotHome, hNotTrack, if_true,
        if_false]
    · exact hAgree.battery
    · exact hAgree.temperature
    · exact hAgree.isStacking
    · exact hAgree.stackCount
    · exact hAgree.isGoto
    · cases hText : msg.getAs Value.asStr "mode" with
      | none =>
          rw [← hAgree.viewMode]
          exact (hMode hText).symm
      | some mode => rfl

/- An event of another name sets what is only set. -/
private theorem agree_other
    (hAgree : Agree s)
    (nowMs : UInt64)
    (hNotStatus : ¬ eventName msg = "PiStatus")
    (hNotStack : ¬ eventName msg = "Stack")
    (hNotView : ¬ eventName msg = "View") :
    Agree (s.next lua (.event msg nowMs)) := by
  have hGoto : (updateTelescopeState lua s.hooks msg) =
      if eventName msg = "AutoGoto" ∨
          eventName msg = "ScopeGoto" then
        { s.hooks with isGoto := true }
      else
        s.hooks := by
    unfold updateTelescopeState
    cases hName : msg.getAs Value.asStr "Event" with
    | none =>
        rw [eventName, hName]
        rfl
    | some name =>
        have hSame : eventName msg = name := by
          rw [eventName, hName]
          rfl
        rw [hSame] at hNotStatus hNotStack hNotView
        simp only [hSame, hNotStatus, hNotStack, hNotView,
          if_false]
  have hStatus : ∃ homing tracking,
      updateEvent s.metrics (eventName msg) msg nowMs =
        { s.metrics with
          isGoto :=
            (updateTelescopeState lua s.hooks msg).isGoto
          isHoming := homing
          tracking := tracking
          lastEvent := some (eventName msg)
          lastEventTsMs := nowMs } := by
    rw [hGoto]
    unfold updateEvent applyEvent
    simp only [hNotStatus, hNotStack, hNotView, if_false]
    by_cases hIs : eventName msg = "AutoGoto" ∨
        eventName msg = "ScopeGoto"
    · simp only [hIs, if_true]
      exact ⟨_, _, rfl⟩
    · simp only [hIs, if_false]
      rw [← hAgree.isGoto]
      split
      · exact ⟨_, _, rfl⟩
      · split
        · exact ⟨_, _, rfl⟩
        · exact ⟨_, _, rfl⟩
  rcases hStatus with ⟨homing, tracking, hStatus⟩
  change Agree ⟨updateEvent s.metrics (eventName msg) msg
    nowMs, updateTelescopeState lua s.hooks msg⟩
  rw [hStatus, hGoto]
  split
  · exact ⟨hAgree.battery, hAgree.temperature,
      hAgree.isStacking, hAgree.stackCount, rfl,
      hAgree.viewMode⟩
  · exact ⟨hAgree.battery, hAgree.temperature,
      hAgree.isStacking, hAgree.stackCount, rfl,
      hAgree.viewMode⟩

/- The name of an event that has one. -/
private theorem eventName_eq
    {name : String}
    (hOther : name ≠ "?")
    (hName : eventName msg = name) :
    msg.getAs Value.asStr "Event" = some name := by
  unfold eventName at hName
  cases hEvent : msg.getAs Value.asStr "Event" with
  | none =>
      rw [hEvent] at hName
      exact absurd hName.symm hOther
  | some event =>
      rw [hEvent] at hName
      exact congrArg some hName

private theorem agree_event_iff
    (hAgree : Agree s)
    (nowMs : UInt64) :
    Agree (s.next lua (.event msg nowMs)) ↔
      TreatedAlike lua s (.event msg nowMs) := by
  simp only [TreatedAlike]
  by_cases hStatus : eventName msg = "PiStatus"
  · rw [agree_piStatus_iff hAgree nowMs
      (eventName_eq (by decide) hStatus), hStatus]
    simp
  · by_cases hStack : eventName msg = "Stack"
    · rw [agree_stack_iff hAgree nowMs
        (eventName_eq (by decide) hStack), hStack]
      simp
    · by_cases hView : eventName msg = "View"
      · rw [agree_view_iff hAgree nowMs
          (eventName_eq (by decide) hView), hView]
        simp
      · exact iff_of_true
          (agree_other hAgree nowMs hStatus hStack hView)
          ⟨fun hIs => absurd hIs hStatus,
            fun hIs => absurd hIs hStack,
            fun hIs => absurd hIs hView⟩

/- Only the hooks forget the mode of the view. -/
private theorem agree_reconnect_iff
    (hZero : lua 0 = 0)
    (hAgree : Agree s) :
    Agree (s.next lua .reconnect) ↔
      TreatedAlike lua s .reconnect := by
  constructor
  · intro hNext
    exact hNext.viewMode
  · intro hMode
    exact ⟨hAgree.battery, hAgree.temperature, rfl,
      hZero.symm, rfl, hMode⟩

------------------------------------------------------------
-- Any Sequence
------------------------------------------------------------

/- Nothing that happens is refused. -/
private theorem exists_run
    (lua : LuaNumber)
    (es : List TelescopeEvent) :
    ∃ h s, (observers lua).Run es h s := by
  induction es using List.reverseRecOn with
  | nil => exact ⟨_, _, Machine.run_nil_iff.mpr ⟨rfl, rfl⟩⟩
  | append_singleton es e ih =>
      rcases ih with ⟨h, s, hRun⟩
      exact ⟨_, _, Machine.run_snoc_iff.mpr
        ⟨h, s, [], hRun, rfl, rfl⟩⟩

/-
  The dashboard and the hooks agree after every event and
  reconnect exactly when each of these is treated alike.
-/
theorem status_agrees_iff
    (lua : LuaNumber)
    (hZero : lua 0 = 0)
    (es : List TelescopeEvent) :
    (observers lua).Always Agree (observers lua).init es ↔
      (observers lua).Meets (TreatedAlike lua)
        (observers lua).init es := by
  rcases exists_run lua es with ⟨h, s, hRun⟩
  refine Machine.always_iff_meets ?_ ?_ hRun
  · exact ⟨hZero.symm, rfl, rfl, rfl, rfl, rfl⟩
  · intro es h s e s' o hBefore hAgree hNext
    cases hNext
    cases e with
    | event msg nowMs => exact agree_event_iff hAgree nowMs
    | reconnect => exact agree_reconnect_iff hZero hAgree

/- An event with one more member than its name. -/
def event (name key : String) (v : Value) : TelescopeEvent :=
  .event (.object [("Event", .string name), (key, v)]) 0

/- Integers, a view and no reconnect. -/
def session : List TelescopeEvent :=
  [event "PiStatus" "battery_capacity"
      (.number (.posInt 80)),
    event "View" "mode" (.string "star"),
    event "Stack" "count" (.number (.posInt 3))]

theorem status_agrees_iff_session :
    (observers lua54).Always Agree (observers lua54).init
        session ↔
      (observers lua54).Meets (TreatedAlike lua54)
        (observers lua54).init session :=
  status_agrees_iff lua54 (by decide) session

/-
  After a battery of 85.0 only the dashboard has it, after a
  view without a mode only the hooks have the last mode, and
  after a reconnect only the dashboard has it.
-/
theorem status_disagrees :
    (∃ s, (observers luajit).Run
        [event "PiStatus" "battery_capacity"
          (.number (.float 0x4055400000000000))] [] s ∧
      s.metrics.battery = some 85 ∧ s.hooks.battery = 0 ∧
      ¬ Agree s) ∧
    (∃ s, (observers luajit).Run
        [event "View" "mode" (.string "star"),
          event "View" "gain" (.number (.posInt 80))] [] s ∧
      s.metrics.viewMode = none ∧
      s.hooks.viewMode = some "star" ∧ ¬ Agree s) ∧
    ∃ s, (observers luajit).Run
        [event "View" "mode" (.string "star"), .reconnect]
        [] s ∧
      s.metrics.viewMode = some "star" ∧
      s.hooks.viewMode = none ∧ ¬ Agree s := by
  refine ⟨⟨_, rfl, by decide +kernel, by decide +kernel, ?_⟩,
    ⟨_, rfl, by decide +kernel, by decide +kernel, ?_⟩,
    ⟨_, rfl, by decide +kernel, by decide +kernel, ?_⟩⟩
  · intro hAgree
    exact absurd hAgree.battery (by decide +kernel)
  · intro hAgree
    exact absurd hAgree.viewMode (by decide +kernel)
  · intro hAgree
    exact absurd hAgree.viewMode (by decide +kernel)

end Dashboard

end SeestarProxy
