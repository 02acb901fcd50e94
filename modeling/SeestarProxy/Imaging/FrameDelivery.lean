import SeestarProxy.Imaging.Frames
import SeestarProxy.Library.Reception

/-
  Frames on their way to the clients of the imaging proxy.

  A client's fan-out task misses a frame only when 32 newer
  ones were broadcast before it came to read it. What a
  client received tells whether that happened: the bytes are
  all the frames since it came exactly when its task never
  fell that far behind.

  Main declarations:
    * `KeepsUp`, `State.framesPassed` and `Fanout.inHand`
    * `FramesServed` and `frames_served`
-/

------------------------------------------------------------
-- Fan-out Tasks
------------------------------------------------------------

namespace SeestarProxy

namespace Imaging

open Library Protocol

variable {debugLogged : Bool} {h o : List Obs}
variable {s s' : State} {e : Event} {c : ClientId}

/-
  The client's task reads while the next frame is still
  kept: at most 32 frames are waiting for it.
-/
def KeepsUp
    (c : ClientId)
    (s : State)
    (e : Event) : Prop :=
  e = .fanout c .recv →
    s.frames.length ≤ s.frameRx c + 32

/-
  The client's task on the broadcast channel, with what it
  wrote of the frames that it got.
-/
def Hears
    (s : State)
    (c : ClientId)
    (whole : Prop) : Prop :=
  ∃ got,
    Broadcast.Listens 32 s.frames (s.subscribed c)
        (s.frameRx c) got whole ∧
      ReceivedOk (got.map Prod.snd) (s.received c)
        (s.fanout c)

variable {whole : Prop}

/- A client that a step leaves alone, but for new frames. -/
private theorem Hears.of_same
    {new : List (ConnId × Bytes)}
    (hHears : Hears s c whole)
    (hFrames : s'.frames = s.frames ++ new)
    (hSubscribed : s'.subscribed c = s.subscribed c)
    (hFrameRx : s'.frameRx c = s.frameRx c)
    (hReceived : s'.received c = s.received c)
    (hFanout : s'.fanout c = s.fanout c) :
    Hears s' c whole := by
  rcases hHears with ⟨got, hListens, hOk⟩
  refine ⟨got, ?_, ?_⟩
  · rw [hFrames, hSubscribed, hFrameRx]
    exact hListens.send new
  · rw [hReceived, hFanout]
    exact hOk

/- The task takes a frame or skips those no longer kept. -/
private theorem hears_of_recv
    (hHears : Hears s c whole)
    (hStep : fanoutTask s c .recv = some (s', o)) :
    Hears s' c
      (whole ∧ KeepsUp c s (.fanout c .recv)) := by
  rcases hHears with ⟨got, hListens, hOk⟩
  cases hAt : s.fanout c with
  | receiving =>
      simp only [fanoutTask, hAt] at hStep
      rw [hAt] at hOk
      split at hStep
      · rename_i conn frame position hRecv
        cases hStep
        have hKeeps : KeepsUp c s (.fanout c .recv) := by
          intro _
          by_contra hLag
          rw [Broadcast.recv, if_pos (not_le.mp hLag)]
            at hRecv
          cases hRecv
        refine ⟨got ++ [(conn, frame)], ?_, ?_⟩
        · simp only [Function.update_self]
          exact (hListens.received hRecv).congr
            (and_iff_left hKeeps).symm
        · simp only [Function.update_self]
          refine ⟨got.map Prod.snd, ?_, hOk⟩
          rw [List.map_append]
          rfl
      · rename_i position hRecv
        cases hStep
        refine ⟨got, ?_, ?_⟩
        · simp only [Function.update_self]
          refine hListens.lagged hRecv ?_
          rintro ⟨-, hKept⟩
          rw [Broadcast.recv,
            if_neg (not_lt.mpr (hKept rfl))] at hRecv
          split at hRecv <;> cases hRecv
        · simp only [hAt]
          exact hOk
      · cases hStep
  | _ => simp [fanoutTask, hAt] at hStep

/- The task writes the frame in hand or stops. -/
private theorem hears_of_write
    {event : FanoutEvent}
    (hHears : Hears s c whole)
    (hTask : FanoutStep s c event s' o)
    (hRecv : event ≠ .recv) :
    Hears s' c whole := by
  rcases hHears with ⟨got, hListens, hOk⟩
  cases hTask with
  | received hAt hFrame => exact absurd rfl hRecv
  | lagged hAt hLag => exact absurd rfl hRecv
  | @wrote frame hAt =>
      rw [hAt] at hOk
      rcases hOk with ⟨before, hGot, hReceived⟩
      refine ⟨got, hListens, ?_⟩
      simp only [Function.update_self]
      rw [hGot, hReceived]
      simp [ReceivedOk]
  | @cut event frame written hAt =>
      rw [hAt] at hOk
      rcases hOk with ⟨before, hGot, hReceived⟩
      refine ⟨got, hListens, ?_⟩
      simp only [Function.update_self]
      rw [hReceived]
      exact Or.inr ⟨before, frame, frame.take written,
        hGot, List.take_prefix written frame, rfl⟩
  | stopped hAt =>
      rw [hAt] at hOk
      refine ⟨got, hListens, ?_⟩
      simp only [Function.update_self]
      exact Or.inl hOk

/- A fan-out step leaves the other clients alone. -/
private theorem hears_of_other
    {event : FanoutEvent}
    {c' : ClientId}
    (hHears : Hears s c whole)
    (hTask : FanoutStep s c' event s' o)
    (hClient : c ≠ c') :
    Hears s' c whole := by
  have hNe {α : Type} (f : ClientId → α) (x : α) :
      Function.update f c' x c = f c :=
    Function.update_of_ne hClient x f
  have hFrames : s'.frames = s.frames ++ [] := by
    cases hTask <;> exact (List.append_nil _).symm
  cases hTask with
  | received hAt hRecv =>
      exact hHears.of_same hFrames rfl (hNe _ _) rfl
        (hNe _ _)
  | lagged hAt hRecv =>
      exact hHears.of_same hFrames rfl (hNe _ _) rfl rfl
  | wrote hAt =>
      exact hHears.of_same hFrames rfl rfl (hNe _ _)
        (hNe _ _)
  | cut written hAt =>
      exact hHears.of_same hFrames rfl rfl (hNe _ _)
        (hNe _ _)
  | stopped hAt =>
      exact hHears.of_same hFrames rfl rfl rfl (hNe _ _)

/- A client that has just been accepted. -/
private theorem hears_of_accept
    (hHears : Hears s c whole)
    (hClient : c = s.clients)
    (hAbsent : s.fanout c = .absent)
    (hUnmoved : s.frameRx c = s.subscribed c) :
    Hears (acceptClient s) c whole := by
  subst hClient
  rcases hHears with ⟨got, hListens, hOk⟩
  rw [hAbsent] at hOk
  refine ⟨got, ?_, ?_⟩
  · simp only [acceptClient, Function.update_self]
    exact hListens.subscribe hUnmoved
  · simp only [acceptClient, Function.update_self]
    exact hOk

/- A task that is yet to come has not moved. -/
private theorem unmoved_of_run
    {es : List Event}
    (hRun : (proxy debugLogged).Run es h s) :
    ∀ c, s.fanout c = .absent →
      s.frameRx c = s.subscribed c := by
  refine Machine.run_invariant
    (motive := fun _ s => ∀ c, s.fanout c = .absent →
      s.frameRx c = s.subscribed c)
    (fun _ _ => rfl) ?_ hRun
  intro h s e s' o hInv hNext c hAbsent
  cases step_cases hNext with
  | accepted =>
      by_cases hNew : c = s.clients
      · subst hNew
        simp [acceptClient] at hAbsent
      · simp only [acceptClient,
          Function.update_of_ne hNew] at hAbsent ⊢
        exact hInv c hAbsent
  | @fanout c' event s' o hTask =>
      by_cases hClient : c = c'
      · subst hClient
        cases hTask with
        | lagged hAt hRecv =>
            have hNow := hAt.symm.trans hAbsent
            cases hNow
        | _ => simp at hAbsent
      · cases hTask with
        | lagged hAt hRecv =>
            simp only [Function.update_of_ne hClient]
            exact hInv c hAbsent
        | received hAt hRecv =>
            simp only [Function.update_of_ne hClient]
              at hAbsent ⊢
            exact hInv c hAbsent
        | _ =>
            simp only [Function.update_of_ne hClient]
              at hAbsent
            exact hInv c hAbsent
  | reader hTask =>
      cases hTask <;> exact hInv c hAbsent
  | aside hAside hOther =>
      rw [hAside.fanout] at hAbsent
      rw [hAside.frameRx, hAside.subscribed]
      exact hInv c hAbsent
  | _ => exact hInv c hAbsent

/- Every client of a run got what its task heard. -/
private theorem hears_of_run
    {es : List Event}
    (hRun : (proxy debugLogged).Run es h s)
    (c : ClientId) :
    Hears s c ((proxy debugLogged).Meets (KeepsUp c)
      (proxy debugLogged).init es) := by
  refine Machine.run_induction
    (motive := fun es _ s =>
      Hears s c ((proxy debugLogged).Meets (KeepsUp c)
        (proxy debugLogged).init es)) ?_ ?_ hRun
  · exact ⟨[], Broadcast.Listens.fresh [] 32 trivial, rfl⟩
  · intro es h s e s' o hBefore hHears hNext
    rw [Machine.meets_snoc_iff hBefore]
    by_cases hRecv : e = .fanout c .recv
    · subst hRecv
      exact hears_of_recv hHears hNext
    · have hKeeps : KeepsUp c s e :=
        fun hEvent => absurd hEvent hRecv
      rw [and_iff_left hKeeps]
      cases step_cases hNext with
      | accepted =>
          by_cases hNew : c = s.clients
          · have hAbsent := received_of_absent hBefore c
              (Nat.le_of_eq hNew.symm)
            exact hears_of_accept hHears hNew hAbsent.1
              (unmoved_of_run hBefore c hAbsent.1)
          · exact hHears.of_same (List.append_nil _).symm
              (Function.update_of_ne hNew _ _)
              (Function.update_of_ne hNew _ _) rfl
              (Function.update_of_ne hNew _ _)
      | @fanout c' event s' o hTask =>
          by_cases hClient : c = c'
          · subst hClient
            refine hears_of_write hHears hTask ?_
            rintro rfl
            exact hRecv rfl
          · exact hears_of_other hHears hTask hClient
      | reader hTask =>
          cases hTask with
          | broadcast hAt =>
              exact hHears.of_same rfl rfl rfl rfl rfl
          | _ =>
              exact hHears.of_same (List.append_nil _).symm
                rfl rfl rfl rfl
      | aside hAside hOther =>
          exact hHears.of_same
            (by rw [hAside.frames, List.append_nil])
            (by rw [hAside.subscribed])
            (by rw [hAside.frameRx])
            (by rw [hAside.received])
            (by rw [hAside.fanout])
      | _ =>
          exact hHears.of_same (List.append_nil _).symm rfl
            rfl rfl rfl

------------------------------------------------------------
-- Frames to a Client
------------------------------------------------------------

/- The frames between a client's arrival and its receiver. -/
def State.framesPassed
    (s : State)
    (c : ClientId) : List Bytes :=
  ((s.frames.take (s.frameRx c)).drop
    (s.subscribed c)).map Prod.snd

/- The frame that a task has taken and not yet written. -/
def Fanout.inHand : Fanout → Bytes
| .writing frame => frame
| _ => []

/-
  What comes of the frames for a client. Its task gets some
  of them and writes what it gets. While it runs, the bytes
  received, with the frame in hand, are all the frames that
  it has passed exactly when it keeps up; one that has ended
  may have cut the last frame. A task that finds none to read
  has passed all that were broadcast.
-/
structure FramesServed
    (debugLogged : Bool)
    (es : List Event)
    (s : State)
    (c : ClientId) : Prop where
  got : ∃ taken got,
    Broadcast.ReadAt 32 s.frames (s.subscribed c)
        (s.frameRx c) got taken ∧
      ReceivedOk (got.map Prod.snd) (s.received c)
        (s.fanout c)
  whole : s.fanout c ≠ .ended →
    (s.received c ++ (s.fanout c).inHand =
        (s.framesPassed c).flatten ↔
      (proxy debugLogged).Meets (KeepsUp c)
        (proxy debugLogged).init es)
  front :
    (proxy debugLogged).Meets (KeepsUp c)
        (proxy debugLogged).init es →
      s.received c <+: (s.framesPassed c).flatten
  caughtUp : s.fanout c = .receiving →
    fanoutTask s c .recv = none →
      s.framesPassed c = s.framesSince c

/- The bytes of what a task took, while it goes on. -/
private theorem received_inHand
    {taken : List Bytes}
    {received : Bytes}
    {fanout : Fanout}
    (hOk : ReceivedOk taken received fanout)
    (hRunning : fanout ≠ .ended) :
    received ++ fanout.inHand = taken.flatten := by
  cases fanout with
  | absent | receiving =>
      have hAll : received = taken.flatten := hOk
      simp [Fanout.inHand, hAll]
  | writing frame =>
      rcases hOk with ⟨whole, rfl, rfl⟩
      simp [Fanout.inHand]
  | ended => exact absurd rfl hRunning

/- A client received the front of what its task took. -/
private theorem received_front
    {taken : List Bytes}
    {received : Bytes}
    {fanout : Fanout}
    (hOk : ReceivedOk taken received fanout) :
    received <+: taken.flatten := by
  by_cases hEnded : fanout = .ended
  · subst hEnded
    rcases hOk with hAll | ⟨whole, frame, tail, rfl, hTail, rfl⟩
    · rw [hAll]
    · rw [List.flatten_append, List.prefix_append_right_inj]
      simpa using hTail
  · rw [← received_inHand hOk hEnded]
    exact List.prefix_append _ _

/- Whole frames can be told apart in their bytes. -/
private theorem eq_of_flatten_eq
    {fs gs : List Bytes}
    (hFs : ∀ frame ∈ fs, Reasonable frame)
    (hGs : ∀ frame ∈ gs, Reasonable frame)
    (hFlatten : fs.flatten = gs.flatten) :
    fs = gs := by
  have hFrames {fs : List Bytes}
      (hFs : ∀ frame ∈ fs, Reasonable frame) :
      frameFormat.frames fs.flatten = fs :=
    Format.frames_flatten fun frame hMem =>
      isFrame_iff.mpr (hFs frame hMem)
  rw [← hFrames hFs, hFlatten, hFrames hGs]

/-
  In every run of the imaging proxy, each client is sent
  frames in order and whole, up to a last one that the end of
  its task may cut. It misses one only when 32 newer ones
  were there before its task came to read it, and its bytes
  are those of all frames as long as it keeps up.
-/
theorem frames_served
    {es : List Event}
    (hRun : (proxy debugLogged).Run es h s)
    (c : ClientId) :
    FramesServed debugLogged es s c := by
  rcases hears_of_run hRun c with ⟨got, hListens, hOk⟩
  have hReasonable : ∀ item ∈ s.frames,
      Reasonable item.2 := by
    intro item hMem
    exact (aligned_of_run hRun item.1).frames item.2
      (mem_framesOf hMem)
  have hPassed : ∀ frame ∈ s.framesPassed c,
      Reasonable frame := by
    intro frame hMem
    rcases List.mem_map.mp hMem with ⟨item, hItem, rfl⟩
    exact hReasonable item
      (List.mem_of_mem_take (List.mem_of_mem_drop hItem))
  have hGot : ∀ frame ∈ got.map Prod.snd,
      Reasonable frame := by
    intro frame hMem
    rcases List.mem_map.mp hMem with ⟨item, hItem, rfl⟩
    exact hReasonable item (List.mem_of_mem_take
      (List.mem_of_mem_drop (hListens.sublist.subset hItem)))
  have hIff :
      (got.map Prod.snd).flatten =
          (s.framesPassed c).flatten ↔
        (proxy debugLogged).Meets (KeepsUp c)
          (proxy debugLogged).init es := by
    rw [← hListens.got_eq_iff]
    constructor
    · intro hFlatten
      have hSame :
          got.map Prod.snd = s.framesPassed c :=
        eq_of_flatten_eq hGot hPassed hFlatten
      have hLength := congrArg List.length hSame
      rw [State.framesPassed, List.length_map,
        List.length_map] at hLength
      exact hListens.sublist.eq_of_length hLength
    · intro hAll
      rw [State.framesPassed, ← hAll]
  rcases hListens.readAt with ⟨taken, hRead⟩
  refine ⟨⟨taken, got, hRead, hOk⟩, ?_, ?_, ?_⟩
  · intro hRunning
    rw [received_inHand hOk hRunning]
    exact hIff
  · intro hMeets
    rw [← hIff.mpr hMeets]
    exact received_front hOk
  · intro hAt hNone
    have hEmpty : Broadcast.recv 32 s.frames (s.frameRx c) =
        .empty := by
      simp only [fanoutTask, hAt] at hNone
      split at hNone
      · cases hNone
      · cases hNone
      · assumption
    have hEnd := hListens.position_of_empty hEmpty
    rw [State.framesPassed, hEnd, List.take_length]
    rfl

theorem frames_served_oneFrame :
    ∃ h s, (proxy true).Run oneFrame h s ∧
      s.received 0 = smallHeader ++ [1, 2] ∧
      FramesServed true oneFrame s 0 := by
  have hRun : (proxy true).Run oneFrame _ _ :=
    Machine.run_outcome (by decide +kernel)
  exact ⟨_, _, hRun, by decide +kernel,
    frames_served hRun 0⟩

end Imaging

end SeestarProxy
