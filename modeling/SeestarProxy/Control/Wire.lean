import SeestarProxy.Control.Unbroken

/-
  The control proxy with the bytes on its connections.

  The telescope's bytes are kept until a line is complete,
  and what is written to either side is kept as bytes. A
  write that fails, or whose task is aborted, has put out
  the first bytes of its line. What a hook decides follows
  from what comes of its call.

  Main declarations:
    * `lineBytes` and `cutLine`
    * `Wire`, `WireEvent`, `wireStep` and `wire`
    * `WireStep` and `wireStep_cases`
-/

------------------------------------------------------------
-- The Wire
------------------------------------------------------------

namespace SeestarProxy

namespace Control

open Library Protocol

/- The bytes of `format!("{}\r\n", msg)`. -/
def lineBytes (msg : String) : List UInt8 :=
  Text.encodeUtf8 msg.toList ++ [13, Text.lf]

/-
  Cut off what stands before the first line feed; the rest
  is what follows the line feed.
-/
def cutLine :
    List UInt8 → Option (List UInt8 × List UInt8)
| [] => none
| b :: bytes =>
    if b = Text.lf then
      some ([], bytes)
    else
      (cutLine bytes).map fun cut => (b :: cut.1, cut.2)

/- A line that was cut off has no line feed. -/
theorem lf_notMem_of_cutLine
    {bytes line rest : List UInt8}
    (hCut : cutLine bytes = some (line, rest)) :
    Text.lf ∉ line := by
  induction bytes generalizing line with
  | nil => cases hCut
  | cons b bytes ih =>
      rw [cutLine] at hCut
      split at hCut
      · cases hCut
        exact List.not_mem_nil
      · rename_i hByte
        rcases Option.map_eq_some_iff.mp hCut with
          ⟨⟨line', rest'⟩, hRest, hEq⟩
        cases hEq
        rw [List.mem_cons, not_or]
        exact ⟨Ne.symm hByte, ih hRest⟩

/-
  The proxy with what was read from each telescope
  connection and is no complete line yet, what was written
  to each connection and to each client, and which events
  were there when a client subscribed.
-/
structure Wire where
  proxy : State
  buf : ConnId → List UInt8
  up : ConnId → List UInt8
  down : ClientId → List UInt8
  subscribed : ClientId → Nat

def Wire.init : Wire where
  proxy := State.init
  buf := fun _ => []
  up := fun _ => []
  down := fun _ => []
  subscribed := fun _ => 0

/-
  One step of the proxy on the wire. `request` and `message`
  are the calls of a request hook and of the hooks for what
  the telescope sends; `task` is a step without bytes.
-/
inductive WireEvent where
| arrive (conn : ConnId) (bytes : List UInt8)
| telescopeLine (conn : ConnId)
| request (c : ClientId) (call : HookCall)
| message (conn : ConnId) (call : HookCall)
| accept
| writeUp
| failUp (written : Nat)
| writeDown (c : ClientId)
| failDown (c : ClientId) (written : Nat)
| abort (c : ClientId) (written : Nat)
| task (e : Event)

/- The steps of the proxy that are no steps of their own. -/
def Event.IsTask : Event → Bool
| .accept => false
| .client _ (.onRequest _) => false
| .writer _ (.write _) => false
| .writer _ .abort => false
| .upstream (.write _) => false
| .reader _ (.line _) => false
| .reader _ (.hook _) => false
| _ => true

/- Let the proxy take a step. -/
def Wire.run
    (env : Env)
    (w : Wire)
    (e : Event) : Option (Wire × List Obs) :=
  (step env w.proxy e).map fun next =>
    ({ w with proxy := next.1 }, next.2)

/- Bytes are written to a telescope connection. -/
def Wire.putUp
    (w : Wire)
    (conn : ConnId)
    (bytes : List UInt8) : Wire :=
  { w with
    up := Function.update w.up conn (w.up conn ++ bytes) }

/- Bytes are written to a client. -/
def Wire.putDown
    (w : Wire)
    (c : ClientId)
    (bytes : List UInt8) : Wire :=
  { w with
    down := Function.update w.down c (w.down c ++ bytes) }

/- One step of the proxy with its bytes. -/
def wireStep
    (env : Env)
    (w : Wire) :
    WireEvent → Option (Wire × List Obs)
| .arrive conn bytes =>
    if conn < w.proxy.connections then
      some ({ w with
        buf := Function.update w.buf conn
          (w.buf conn ++ bytes) }, [])
    else
      none
| .telescopeLine conn =>
    match cutLine (w.buf conn) with
    | none => none
    | some (line, rest) =>
        { w with
          buf := Function.update w.buf conn rest }.run env
          (.reader conn (.line (Text.fromUtf8Lossy line)))
| .request c call =>
    w.run env (.client c
      (.onRequest (callMessageHook env.serde call)))
| .message conn call =>
    w.run env (.reader conn
      (.hook (callMessageHook env.serde call)))
| .accept =>
    { w with
      subscribed := Function.update w.subscribed
        w.proxy.clients w.proxy.events.length }.run env
      .accept
| .writeUp =>
    match w.proxy.upstream with
    | .writing conn msg =>
        (w.putUp conn (lineBytes msg.line)).run env
          (.upstream (.write true))
    | _ => none
| .failUp written =>
    match w.proxy.upstream with
    | .writing conn msg =>
        if written < (lineBytes msg.line).length then
          (w.putUp conn
            ((lineBytes msg.line).take written)).run env
            (.upstream (.write false))
        else
          none
    | _ => none
| .writeDown c =>
    match w.proxy.writer c with
    | .writing msg =>
        (w.putDown c (lineBytes msg)).run env
          (.writer c (.write true))
    | _ => none
| .failDown c written =>
    match w.proxy.writer c with
    | .writing msg =>
        if written < (lineBytes msg).length then
          (w.putDown c ((lineBytes msg).take written)).run
            env (.writer c (.write false))
        else
          none
    | _ => none
| .abort c written =>
    match w.proxy.writer c with
    | .writing msg =>
        (w.putDown c ((lineBytes msg).take written)).run
          env (.writer c .abort)
    | _ => w.run env (.writer c .abort)
| .task e => if e.IsTask = true then w.run env e else none

/- The control proxy with its bytes, as a machine. -/
def wire (env : Env) : Machine Wire WireEvent Obs where
  init := Wire.init
  step := wireStep env

------------------------------------------------------------
-- Steps
------------------------------------------------------------

variable {env : Env} {h o : List Obs} {s' : State}
variable {w w' : Wire} {e : WireEvent}

/- The outcomes of a step on the wire, by what it writes. -/
inductive WireStep
    (env : Env)
    (w : Wire) : Wire → List Obs → Prop
| arrived (buf : ConnId → List UInt8) :
    WireStep env w { w with buf := buf } []
| quiet {t : Event} {s' : State} {o : List Obs}
    (buf : ConnId → List UInt8)
    (hStep : step env w.proxy t = some (s', o))
    (hReplies : RepliesUnbroken w.proxy t)
    (hAccept : t ≠ .accept)
    (hUp : ∀ ok, t ≠ .upstream (.write ok))
    (hDown : ∀ c ok, t ≠ .writer c (.write ok))
    (hAbort : ∀ c, t = .writer c .abort →
      w.proxy.writer c = .selecting) :
    WireStep env w { w with proxy := s', buf := buf } o
| accepted {s' : State} {o : List Obs}
    (hStep : step env w.proxy .accept = some (s', o)) :
    WireStep env w
      { w with
        proxy := s'
        subscribed := Function.update w.subscribed
          w.proxy.clients w.proxy.events.length } o
| wroteUp {conn : ConnId} {msg : Message}
    {s' : State} {o : List Obs}
    (hAt : w.proxy.upstream = .writing conn msg)
    (hStep : step env w.proxy (.upstream (.write true)) =
      some (s', o)) :
    WireStep env w
      { w.putUp conn (lineBytes msg.line) with
        proxy := s' } o
| failedUp {conn : ConnId} {msg : Message}
    {s' : State} {o : List Obs}
    (written : Nat)
    (hAt : w.proxy.upstream = .writing conn msg)
    (hStep : step env w.proxy (.upstream (.write false)) =
      some (s', o)) :
    WireStep env w
      { w.putUp conn
          ((lineBytes msg.line).take written) with
        proxy := s' } o
| wroteDown {c : ClientId} {msg : String}
    {s' : State} {o : List Obs}
    (hAt : w.proxy.writer c = .writing msg)
    (hStep : step env w.proxy (.writer c (.write true)) =
      some (s', o)) :
    WireStep env w
      { w.putDown c (lineBytes msg) with proxy := s' } o
| cutDown {c : ClientId} {msg : String}
    {event : WriterEvent} {s' : State} {o : List Obs}
    (written : Nat)
    (hAt : w.proxy.writer c = .writing msg)
    (hEvent : event = .write false ∨ event = .abort)
    (hStep : step env w.proxy (.writer c event) =
      some (s', o)) :
    WireStep env w
      { w.putDown c ((lineBytes msg).take written) with
        proxy := s' } o

theorem run_some_iff
    {e : Event} :
    w.run env e = some (w', o) ↔
      ∃ s', step env w.proxy e = some (s', o) ∧
        w' = { w with proxy := s' } := by
  unfold Wire.run
  rw [Option.map_eq_some_iff]
  constructor
  · rintro ⟨⟨s', o'⟩, hStep, hEq⟩
    cases hEq
    exact ⟨s', hStep, rfl⟩
  · rintro ⟨s', hStep, rfl⟩
    exact ⟨(s', o), hStep, rfl⟩

theorem wireStep_cases
    (hPrints : env.serde.PrintsOneLine)
    (hStep : (wire env).step w e = some (w', o)) :
    WireStep env w w' o := by
  change wireStep env w e = some (w', o) at hStep
  cases e with
  | arrive conn bytes =>
      simp only [wireStep] at hStep
      split at hStep
      · cases hStep
        exact .arrived _
      · cases hStep
  | telescopeLine conn =>
      simp only [wireStep] at hStep
      split at hStep
      · cases hStep
      · rcases run_some_iff.mp hStep with ⟨s', hNext, rfl⟩
        exact .quiet _ hNext trivial (by simp) (by simp)
          (by simp) (by simp)
  | request c call =>
      rcases run_some_iff.mp hStep with ⟨s', hNext, rfl⟩
      refine .quiet _ hNext ?_ (by simp) (by simp)
        (by simp) (by simp)
      cases hAction : callMessageHook env.serde call with
      | reply json =>
          rcases printed_of_reply hAction with ⟨v, hText⟩
          exact hPrints v json hText
      | _ => trivial
  | message conn call =>
      rcases run_some_iff.mp hStep with ⟨s', hNext, rfl⟩
      exact .quiet _ hNext trivial (by simp) (by simp)
        (by simp) (by simp)
  | accept =>
      rcases run_some_iff.mp hStep with ⟨s', hNext, rfl⟩
      exact .accepted hNext
  | writeUp =>
      simp only [wireStep] at hStep
      split at hStep
      · rename_i conn msg hAt
        rcases run_some_iff.mp hStep with ⟨s', hNext, rfl⟩
        exact .wroteUp hAt hNext
      · cases hStep
  | failUp written =>
      simp only [wireStep] at hStep
      split at hStep
      · rename_i conn msg hAt
        split at hStep
        · rcases run_some_iff.mp hStep with ⟨s', hNext, rfl⟩
          exact .failedUp written hAt hNext
        · cases hStep
      · cases hStep
  | writeDown c =>
      simp only [wireStep] at hStep
      split at hStep
      · rename_i msg hAt
        rcases run_some_iff.mp hStep with ⟨s', hNext, rfl⟩
        exact .wroteDown hAt hNext
      · cases hStep
  | failDown c written =>
      simp only [wireStep] at hStep
      split at hStep
      · rename_i msg hAt
        split at hStep
        · rcases run_some_iff.mp hStep with ⟨s', hNext, rfl⟩
          exact .cutDown written hAt (Or.inl rfl) hNext
        · cases hStep
      · cases hStep
  | abort c written =>
      simp only [wireStep] at hStep
      split at hStep
      · rename_i msg hAt
        rcases run_some_iff.mp hStep with ⟨s', hNext, rfl⟩
        exact .cutDown written hAt (Or.inr rfl) hNext
      · rename_i hNot
        rcases run_some_iff.mp hStep with ⟨s', hNext, rfl⟩
        refine .quiet _ hNext trivial (by simp) (by simp)
          (by simp) ?_
        rintro c' ⟨⟩
        -- An abort finds the writer waiting or writing.
        cases clientWriter_cases hNext with
        | ended hAt =>
            rcases hAt with hAt | ⟨text, hAt⟩
            · exact hAt
            · exact absurd hAt (hNot text)
  | task t =>
      simp only [wireStep] at hStep
      split at hStep
      · rename_i hTask
        rcases run_some_iff.mp hStep with ⟨s', hNext, rfl⟩
        refine .quiet _ hNext ?_ ?_ ?_ ?_ ?_
        · unfold RepliesUnbroken
          split
          · cases hTask
          · trivial
        · rintro rfl
          cases hTask
        · rintro ok rfl
          cases hTask
        · rintro c ok rfl
          cases hTask
        · rintro c rfl
          cases hTask
      · cases hStep

end Control

end SeestarProxy
