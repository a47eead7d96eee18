import RamkolFX.Gui.SpatialTab

/-!
# Dragging a speaker

While a handle is held its position is sent at most every 30 ms, and what was
held back is sent when it is let go.  A status that is polled in between
replaces the position that is still to be sent.
-/

namespace RamkolFX

open Support

namespace DragSession

section

variable {α : Type} [FloatArith α] {setup : DaemonSetup α}
  {s s' : DragSession α}

/-! ## The position that is pending -/

/-- What is known of the handles moved in the last frame: while their position
is pending it is the one shown, and otherwise it was sent. -/
structure DragKept (s : DragSession α) : Prop where
  indices : s.dragged ≠ [] → ∃ primaryIndex,
    s.app.pendingPositionIndex = some primaryIndex ∧
      ∀ position ∈ s.dragged,
        position.speaker ∈ primaryIndex :: s.app.pendingMirroredIndex.toList
  shown : s.app.bPositionSendPending = true → ∀ position ∈ s.dragged,
    SpeakerPosition.ofStatus s.app.lastStatus position.speaker = position
  sent : s.app.bPositionSendPending = false → ∀ position ∈ s.dragged,
    LastSent s.sent position

omit [FloatArith α] in
theorem dragKept_of_undragged (h : s.dragged = []) : DragKept s where
  indices := fun hne => absurd h hne
  shown := by simp [h]
  sent := by simp [h]

/-- What an active frame leaves is pending or was sent. -/
theorem dragKept_of_sendThrottled {ioDeltaTime : Binary32}
    {changedIndex : SpeakerChannel} {mirroredIndex : Option SpeakerChannel}
    (h : s.sendThrottled setup ioDeltaTime changedIndex mirroredIndex =
      some s') :
    DragKept { s' with
      dragged := (changedIndex :: mirroredIndex.toList).map
        (SpeakerPosition.ofStatus s.app.lastStatus) } := by
  have hspeakers : ∀ position ∈ (changedIndex :: mirroredIndex.toList).map
        (SpeakerPosition.ofStatus s.app.lastStatus),
      position.speaker ∈ changedIndex :: mirroredIndex.toList ∧
        SpeakerPosition.ofStatus s.app.lastStatus position.speaker =
          position := by
    intro position hposition
    obtain ⟨speaker, hspeaker, rfl⟩ := List.mem_map.mp hposition
    exact ⟨hspeaker, rfl⟩
  rw [sendThrottled] at h
  split at h
  · obtain ⟨after, hsend, hafter⟩ := Option.bind_eq_some_iff.mp h
    obtain rfl := Option.some.inj hafter
    have hmade := made_of_sendSpeakerPosition hsend
    obtain ⟨lastStatus, happ⟩ := hmade.app
    refine ⟨fun _ => ⟨changedIndex, ?_, ?_⟩, fun hpending => ?_, fun _ => ?_⟩
    · simp only [happ]
    · simp only [happ]
      exact fun position hposition => (hspeakers position hposition).1
    · cases hpending
    · intro position hposition
      obtain ⟨hspeaker, hshown⟩ := hspeakers position hposition
      simp only [hmade.sent]
      exact (lastSent_append_iff (fun _ => rfl) hspeaker).mpr hshown
  · obtain rfl := Option.some.inj h
    refine ⟨fun _ => ⟨changedIndex, rfl, ?_⟩, fun _ => ?_, fun hsent => ?_⟩
    · exact fun position hposition => (hspeakers position hposition).1
    · exact fun position hposition => (hspeakers position hposition).2
    · cases hsent

/-- What was held back is sent as it is shown. -/
theorem lastSent_of_endDrag (h : s.endDrag setup = some s')
    {position : SpeakerPosition} :
    (s.app.bPositionSendPending = false →
      (LastSent s'.sent position ↔ LastSent s.sent position)) ∧
    ∀ primaryIndex, s.app.bPositionSendPending = true →
      s.app.pendingPositionIndex = some primaryIndex →
      position.speaker ∈ primaryIndex :: s.app.pendingMirroredIndex.toList →
      (LastSent s'.sent position ↔
        SpeakerPosition.ofStatus s.app.lastStatus position.speaker =
          position) := by
  obtain ⟨after, hflush, hafter⟩ := Option.bind_eq_some_iff.mp h
  obtain rfl := Option.some.inj hafter
  rw [flushPosition] at hflush
  dsimp only at hflush ⊢
  constructor
  · intro hidle
    rw [hidle] at hflush
    obtain rfl := Option.some.inj hflush
    exact Iff.rfl
  · intro primaryIndex hpending hindex hspeaker
    rw [hpending, hindex] at hflush
    obtain ⟨sent, hsend, hsent⟩ := Option.bind_eq_some_iff.mp hflush
    obtain rfl := Option.some.inj hsent
    have hmade := made_of_sendSpeakerPosition hsend
    dsimp only
    rw [hmade.sent]
    exact lastSent_append_iff (fun _ => rfl) hspeaker

variable [DialMath] {frame : GuiFrame}

/-- The two halves of a frame in which no handle is held. -/
theorem endDrag_of_step (hactive : frame.dial.active = none)
    (h : s.step setup (.frame frame) = some s') :
    ∃ polled ended, Polled s frame.deltaTimeSeconds polled ∧
      polled.endDrag setup = some ended ∧
      s' = { ended with dragged := [] } := by
  obtain ⟨polled, hpoll, h⟩ := Option.bind_eq_some_iff.mp h
  obtain ⟨ended, hended, h⟩ := Option.bind_eq_some_iff.mp h
  obtain rfl := Option.some.inj h
  obtain ⟨hchanged, hmoved, hdragged⟩ := dial_of_inactive polled hactive
  rw [drawSpatialTab, hchanged, hmoved] at hended
  exact ⟨polled, ended, polled_of_pollStatus hpoll, hended, by rw [hdragged]⟩

/-- Every event leaves the moved handles pending or sent. -/
theorem DragKept.step {event : DragEvent α} (h : DragKept s)
    (hstep : s.step setup event = some s') : DragKept s' := by
  cases event with
  | daemon event =>
      obtain ⟨daemon, -, hstep⟩ := Option.bind_eq_some_iff.mp hstep
      obtain rfl := Option.some.inj hstep
      exact ⟨h.indices, h.shown, h.sent⟩
  | frame frame =>
      cases hactive : frame.dial.active with
      | none =>
          obtain ⟨polled, ended, -, -, rfl⟩ := endDrag_of_step hactive hstep
          exact dragKept_of_undragged rfl
      | some i =>
          obtain ⟨polled, hpoll, hstep⟩ := Option.bind_eq_some_iff.mp hstep
          obtain ⟨drawn, hdrawn, hstep⟩ := Option.bind_eq_some_iff.mp hstep
          obtain rfl := Option.some.inj hstep
          obtain ⟨hchanged, hdragged⟩ := dial_of_active polled hactive
          rw [drawSpatialTab, hchanged] at hdrawn
          rw [hdragged]
          exact dragKept_of_sendThrottled hdrawn

/-- If the frame lets go of a handle, the last positions sent are the ones that
the drag had. -/
def SendsDragged (setup : DaemonSetup α) (s : DragSession α) :
    DragEvent α → Prop
  | .frame frame => frame.dial.active = none → ∀ s',
      s.step setup (.frame frame) = some s' →
      ∀ position ∈ s.dragged, LastSent s'.sent position
  | .daemon _ => True

omit [FloatArith α] [DialMath] in
/-- If the frame lets go of a handle whose position is pending, it polls no
status, or one that has that position. -/
def PollsNothingElse (s : DragSession α) : DragEvent α → Prop
  | .frame frame => frame.dial.active = none →
      s.app.bPositionSendPending = true → s.PollDue frame.deltaTimeSeconds →
      ∀ position ∈ s.dragged,
        SpeakerPosition.ofLayout s.daemon.engine.sharedLayout position.speaker =
          position
  | .daemon _ => True

theorem DragKept.sendsDragged_iff_polls {event : DragEvent α} (h : DragKept s)
    (hstep : s.step setup event = some s') :
    SendsDragged setup s event ↔ PollsNothingElse s event := by
  cases event with
  | daemon event => exact Iff.rfl
  | frame frame =>
      refine imp_congr_right fun hactive => ?_
      obtain ⟨polled, ended, hpolled, hended, rfl⟩ :=
        endDrag_of_step hactive hstep
      have hsends : (∀ s', s.step setup (.frame frame) = some s' →
          ∀ position ∈ s.dragged, LastSent s'.sent position) ↔
          ∀ position ∈ s.dragged, LastSent ended.sent position :=
        ⟨fun hall => hall { ended with dragged := [] } hstep,
          fun hall s' hstep' => Option.some.inj (hstep.symm.trans hstep') ▸ hall⟩
      rw [hsends]
      cases hpending : s.app.bPositionSendPending with
      | false =>
          have hidle := hpolled.bPositionSendPending.trans hpending
          refine iff_of_true (fun position hposition => ?_) (by simp)
          rw [(lastSent_of_endDrag hended).1 hidle, hpolled.lastSent]
          exact h.sent hpending position hposition
      | true =>
          have hsent : ∀ position ∈ s.dragged,
              (LastSent ended.sent position ↔
                SpeakerPosition.ofStatus polled.app.lastStatus
                  position.speaker = position) := by
            intro position hposition
            obtain ⟨primaryIndex, hindex, hspeakers⟩ :=
              h.indices (List.ne_nil_of_mem hposition)
            refine (lastSent_of_endDrag hended).2 primaryIndex
              (hpolled.bPositionSendPending.trans hpending)
              (hpolled.pendingPositionIndex.trans hindex) ?_
            rw [hpolled.pendingMirroredIndex]
            exact hspeakers position hposition
          by_cases hdue : s.PollDue frame.deltaTimeSeconds
          · simp only [hdue, true_imp_iff]
            refine forall₂_congr fun position hposition => ?_
            rw [hsent position hposition, hpolled.due hdue]
          · refine iff_of_true (fun position hposition => ?_) (by simp [hdue])
            rw [hsent position hposition, hpolled.undue hdue]
            exact h.shown hpending position hposition

/-- In a run with every call answered, each frame that lets go of a handle has
sent its last position, and its counterpart's, exactly if no status is polled
between the position held back and the frame that sends it, or one that has
that position already. -/
theorem sendsDragged_iff (setup : DaemonSetup α) (app : App)
    (daemon : AudioEngine.Daemon α) {run : List (DragEvent α)}
    {final : DragSession α}
    (hrun : runFrom (DragSession.step setup) { app, daemon } run = some final) :
    AtEachEvent (StepMeets (DragSession.step setup) (SendsDragged setup)
        { app, daemon }) run ↔
      AtEachEvent (StepMeets (DragSession.step setup) PollsNothingElse
        { app, daemon }) run := by
  refine stepMeets_congr_of_runFrom hrun fun past s event s' hpast hstep => ?_
  have hkept := invariant_of_runFrom DragKept
    (dragKept_of_undragged (s := { app, daemon }) rfl)
    (fun s event s' hkept hstep => hkept.step hstep) hpast
  exact hkept.sendsDragged_iff_polls hstep

/-! ## A drag of three frames -/

/-- An active frame in which no poll falls due, up to its send. -/
theorem sendThrottled_of_step {i : SpeakerChannel}
    (hactive : frame.dial.active = some i)
    (hundue : ¬ s.PollDue frame.deltaTimeSeconds)
    (h : s.step setup (.frame frame) = some s') :
    ∃ drawn sent : DragSession α, ∃ mirroredIndex : Option SpeakerChannel,
      drawn.app.statusPollTimerSeconds =
        s.app.statusPollTimerSeconds.sub frame.deltaTimeSeconds ∧
      drawn.app.positionSendTimerSeconds = s.app.positionSendTimerSeconds ∧
      drawn.daemon = s.daemon ∧
      frame.dial.dragged = (i :: mirroredIndex.toList).map
        (SpeakerPosition.ofStatus drawn.app.lastStatus) ∧
      drawn.sendThrottled setup frame.ioDeltaTime i mirroredIndex = some sent ∧
      s' = { sent with dragged := frame.dial.dragged } := by
  obtain ⟨polled, hpoll, h⟩ := Option.bind_eq_some_iff.mp h
  rw [pollStatus, if_neg hundue] at hpoll
  obtain rfl := Option.some.inj hpoll
  obtain ⟨sent, hsent, h⟩ := Option.bind_eq_some_iff.mp h
  obtain rfl := Option.some.inj h
  obtain ⟨hchanged, hdragged⟩ := dial_of_active _ hactive
  rw [drawSpatialTab, hchanged] at hsent
  refine ⟨_, sent, _, ?_, ?_, ?_, hdragged, hsent, rfl⟩
  · rfl
  · rfl
  · rfl

omit [DialMath] in
/-- A drag without a counterpart that sends its position. -/
theorem sent_of_sendThrottled {ioDeltaTime : Binary32} {i : SpeakerChannel}
    (hdue : s.app.positionSendTimerSeconds.sub ioDeltaTime ≤ ⟨0⟩)
    (h : s.sendThrottled setup ioDeltaTime i none = some s') :
    s'.app.statusPollTimerSeconds = s.app.statusPollTimerSeconds ∧
      s'.app.positionSendTimerSeconds = positionSendIntervalSeconds ∧
      s'.daemon.engine.sharedLayout.speakerDistanceMeters i =
        clampDistance (s.app.lastStatus.speakerDistanceMeters i) := by
  rw [DragSession.sendThrottled, if_pos hdue] at h
  obtain ⟨after, hsend, h⟩ := Option.bind_eq_some_iff.mp h
  obtain rfl := Option.some.inj h
  obtain ⟨lastStatus, happ⟩ := (made_of_sendSpeakerPosition hsend).app
  obtain ⟨between, hprimary, hbetween⟩ := Option.bind_eq_some_iff.mp hsend
  obtain rfl := Option.some.inj hbetween
  refine ⟨?_, ?_, distance_of_sendSpeakerPositionValues hprimary⟩
  · simp only [happ]
  · simp only [happ]

end

/-- `<cmath>` as it is at the center of the dial and 100 pixels left of it. -/
noncomputable abbrev leftMath : DialMath :=
  { nearestCMath with
    sqrt := fun x => if x.IsZero then x else ⟨0x42C80000⟩
    atan2 := fun _ _ => ⟨0x3FC90FDB⟩ } -- pi / 2

/-- The session over these functions and an exact audio path. -/
noncomputable abbrev leftStep :
    DragSession ℝ → DragEvent ℝ → Option (DragSession ℝ) :=
  @DragSession.step ℝ _ AudioEngine.exactSetup leftMath

noncomputable abbrev LeftSends : DragSession ℝ → DragEvent ℝ → Prop :=
  @SendsDragged ℝ _ leftMath AudioEngine.exactSetup

/-- A frame of 16 ms with the cursor at the height of the dial's center. -/
def frameAt (x : Binary32) (active : Option SpeakerChannel) : GuiFrame where
  deltaTimeSeconds := ⟨0x3C83126F⟩
  ioDeltaTime := ⟨0x3C83126F⟩
  dial :=
    { origin := ⟨⟨0⟩, ⟨0⟩⟩
      scale := ⟨0x3F800000⟩
      mousePos := ⟨x, ⟨0x43020000⟩⟩
      active
      bMirrorEnabled := false }

/-- A handle is held at the center, pulled 100 pixels to the left and let go. -/
def pull (speaker : SpeakerChannel) : List (DragEvent ℝ) :=
  [.frame (frameAt ⟨0x43020000⟩ (some speaker)),
    .frame (frameAt ⟨0x41F00000⟩ (some speaker)), .frame (frameAt ⟨0x41F00000⟩ none)]

noncomputable def freshDaemon : AudioEngine.Daemon ℝ :=
  ⟨.run AudioEngine.exactSetup ⟨none, true⟩ .new, []⟩

/-- An application that has received the daemon's status. -/
noncomputable def freshApp (statusPollTimerSeconds : Binary32) : App where
  lastStatus := freshDaemon.engine.status
  statusPollTimerSeconds := statusPollTimerSeconds
  positionSendTimerSeconds := ⟨0⟩
  bPositionSendPending := false
  pendingPositionIndex := none
  pendingMirroredIndex := none

theorem answers_freshDaemon : Answers freshDaemon where
  sound := AudioEngine.sound_run _ _ _
  mode := by
    have hmode : freshDaemon.engine.mode = .off := rfl
    rw [hmode]
    decide
  name := by
    have hname : freshDaemon.engine.output.targetNodeName =
      AudioEngine.testOutputNodeName := rfl
    rw [hname]
    decide

/-- The first position is sent at once. -/
theorem sent_of_firstFrame {timer : Binary32}
    (hfirst : ¬ timer.sub ⟨0x3C83126F⟩ ≤ ⟨0⟩) {held : DragSession ℝ}
    (hheld : leftStep ⟨freshApp timer, freshDaemon, [], []⟩
      (.frame (frameAt ⟨0x43020000⟩ (some 0))) = some held) :
    held.app.statusPollTimerSeconds = timer.sub ⟨0x3C83126F⟩ ∧
      held.app.positionSendTimerSeconds = positionSendIntervalSeconds ∧
      held.daemon.engine.sharedLayout.speakerDistanceMeters 0 =
        clampDistance (@PositionDial.Input.mouseDistance leftMath
          (frameAt ⟨0x43020000⟩ (some 0)).dial) := by
  let _ := leftMath
  have hundue : ¬ DragSession.PollDue
      (⟨freshApp timer, freshDaemon, [], []⟩ : DragSession ℝ)
      (frameAt ⟨0x43020000⟩ (some 0)).deltaTimeSeconds := hfirst
  obtain ⟨drawn, sent, mirroredIndex, hpoll, htimer, -, hdragged, hsent, heq⟩ :=
    sendThrottled_of_step (i := 0) rfl hundue hheld
  obtain rfl : mirroredIndex = none := by
    cases mirroredIndex with
    | none => rfl
    | some mirrored =>
        have hlength : 1 = 2 := congrArg List.length hdragged
        omega
  have hposition : SpeakerPosition.ofStatus drawn.app.lastStatus 0 =
      ⟨0, (frameAt ⟨0x43020000⟩ (some 0)).dial.mouseAzimuth,
        (frameAt ⟨0x43020000⟩ (some 0)).dial.mouseDistance⟩ :=
    (List.cons.inj hdragged).1.symm
  have hsends : drawn.app.positionSendTimerSeconds.sub
      (frameAt ⟨0x43020000⟩ (some 0)).ioDeltaTime ≤ ⟨0⟩ := by
    rw [htimer]
    show Binary32.sub ⟨0⟩ ⟨0x3C83126F⟩ ≤ ⟨0⟩
    decide +kernel
  obtain ⟨hpoll', htimer', hdistance⟩ := sent_of_sendThrottled hsends hsent
  have hshown := congrArg SpeakerPosition.distanceMeters hposition
  rw [heq]
  exact ⟨hpoll'.trans hpoll, htimer', hdistance.trans (congrArg _ hshown)⟩

theorem runFrom_pull {fresh held pulled released : DragSession ℝ}
    (hheld : leftStep fresh (.frame (frameAt ⟨0x43020000⟩ (some 0))) = some held)
    (hpulled : leftStep held (.frame (frameAt ⟨0x41F00000⟩ (some 0))) = some pulled)
    (hreleased : leftStep pulled (.frame (frameAt ⟨0x41F00000⟩ none)) =
      some released) :
    runFrom leftStep fresh (pull 0) = some released :=
  Option.bind_eq_some_iff.mpr ⟨held, hheld, Option.bind_eq_some_iff.mpr
    ⟨pulled, hpulled, Option.bind_eq_some_iff.mpr ⟨released, hreleased, rfl⟩⟩⟩

/-- By the time the handle is let go, the daemon has the first position, and
the second one is pending. -/
theorem pull_steps (timer : Binary32) (hfirst : ¬ timer.sub ⟨0x3C83126F⟩ ≤ ⟨0⟩)
    (hsecond : ¬ (timer.sub ⟨0x3C83126F⟩).sub ⟨0x3C83126F⟩ ≤ ⟨0⟩) :
    ∃ held pulled released : DragSession ℝ,
      leftStep ⟨freshApp timer, freshDaemon, [], []⟩
        (.frame (frameAt ⟨0x43020000⟩ (some 0))) = some held ∧
      leftStep held (.frame (frameAt ⟨0x41F00000⟩ (some 0))) = some pulled ∧
      leftStep pulled (.frame (frameAt ⟨0x41F00000⟩ none)) = some released ∧
      pulled.app.statusPollTimerSeconds =
        (timer.sub ⟨0x3C83126F⟩).sub ⟨0x3C83126F⟩ ∧
      pulled.app.bPositionSendPending = true ∧
      pulled.dragged =
        @PositionDial.Input.dragged leftMath (frameAt ⟨0x41F00000⟩ (some 0)).dial ∧
      pulled.daemon.engine.sharedLayout.speakerDistanceMeters 0 =
        clampDistance (@PositionDial.Input.mouseDistance leftMath
          (frameAt ⟨0x43020000⟩ (some 0)).dial) := by
  let _ := leftMath
  obtain ⟨held, hheld, hanswers⟩ := Answers.step
    (s := ⟨freshApp timer, freshDaemon, [], []⟩) answers_freshDaemon
    AudioEngine.exactSetup (frameAt ⟨0x43020000⟩ (some 0))
  obtain ⟨pulled, hpulled, hanswers'⟩ :=
    hanswers.step AudioEngine.exactSetup (frameAt ⟨0x41F00000⟩ (some 0))
  obtain ⟨released, hreleased, -⟩ :=
    hanswers'.step AudioEngine.exactSetup (frameAt ⟨0x41F00000⟩ none)
  refine ⟨held, pulled, released, hheld, hpulled, hreleased, ?_⟩
  obtain ⟨hpoll, htimer, hdistance⟩ := sent_of_firstFrame hfirst hheld
  -- the second one comes too early
  have hundue : ¬ held.PollDue (frameAt ⟨0x41F00000⟩ (some 0)).deltaTimeSeconds := by
    rw [DragSession.PollDue, hpoll]
    exact hsecond
  obtain ⟨drawn, sent, mirroredIndex, hpoll', htimer', hdaemon, -, hsent, heq⟩ :=
    sendThrottled_of_step (i := 0) rfl hundue hpulled
  have hearly : ¬ drawn.app.positionSendTimerSeconds.sub
      (frameAt ⟨0x41F00000⟩ (some 0)).ioDeltaTime ≤ ⟨0⟩ := by
    rw [htimer', htimer]
    decide +kernel
  rw [DragSession.sendThrottled, if_neg hearly] at hsent
  obtain rfl := Option.some.inj hsent
  rw [heq]
  refine ⟨?_, rfl, rfl, ?_⟩
  · exact hpoll'.trans (congrArg (Binary32.sub · _) hpoll)
  · rw [← hdistance, ← hdaemon]

/-- No status is polled while the handle is pulled and let go. -/
theorem sendsDragged_iff_pull :
    ∃ final : DragSession ℝ,
      runFrom leftStep
        { app := freshApp statusPollIntervalSeconds, daemon := freshDaemon }
        (pull 0) = some final ∧
      AtEachEvent (StepMeets leftStep LeftSends
        { app := freshApp statusPollIntervalSeconds, daemon := freshDaemon })
        (pull 0) := by
  let _ := leftMath
  obtain ⟨held, pulled, released, hheld, hpulled, hreleased, hpoll, -⟩ :=
    pull_steps statusPollIntervalSeconds (by decide +kernel)
      (by decide +kernel)
  have hrun := runFrom_pull hheld hpulled hreleased
  refine ⟨released, hrun, (sendsDragged_iff AudioEngine.exactSetup _ _ hrun).mpr ?_⟩
  refine stepMeets_cons (fun hactive => by cases hactive) fun held' hheld' => ?_
  obtain rfl := Option.some.inj (hheld.symm.trans hheld')
  refine stepMeets_cons (fun hactive => by cases hactive) fun pulled' hpulled' => ?_
  obtain rfl := Option.some.inj (hpulled.symm.trans hpulled')
  refine stepMeets_cons (fun _ _ hdue => ?_) fun _ _ => atEachEvent_nil
  rw [DragSession.PollDue, hpoll] at hdue
  exact absurd hdue (by decide +kernel)

/-- The poll of the last frame brings back the first position, and that is
sent. -/
theorem sendsDragged_lost :
    ¬ ∀ (app : App) (daemon : AudioEngine.Daemon ℝ) (run : List (DragEvent ℝ))
      (final : DragSession ℝ),
      runFrom leftStep { app, daemon } run = some final →
      AtEachEvent (StepMeets leftStep LeftSends { app, daemon }) run := by
  let _ := leftMath
  intro h
  obtain ⟨held, pulled, released, hheld, hpulled, hreleased, hpoll, hpending,
      hdragged, hdistance⟩ :=
    pull_steps ⟨0x3D23D70A⟩ (by decide +kernel) (by decide +kernel)
  have hsends := h _ _ (pull 0) released (runFrom_pull hheld hpulled hreleased)
    [.frame (frameAt ⟨0x43020000⟩ (some 0)), .frame (frameAt ⟨0x41F00000⟩ (some 0))]
    (.frame (frameAt ⟨0x41F00000⟩ none)) (List.prefix_refl _) pulled
    (Option.bind_eq_some_iff.mpr ⟨held, hheld, Option.bind_eq_some_iff.mpr
      ⟨pulled, hpulled, rfl⟩⟩)
  have hkept : DragKept pulled :=
    ((dragKept_of_undragged rfl).step hheld).step hpulled
  have hdue : pulled.PollDue (frameAt ⟨0x41F00000⟩ none).deltaTimeSeconds := by
    rw [DragSession.PollDue, hpoll]
    decide +kernel
  have hpolled := (hkept.sendsDragged_iff_polls hreleased).mp hsends rfl hpending hdue
  rw [hdragged] at hpolled
  have hsame := congrArg SpeakerPosition.distanceMeters
    (hpolled _ List.mem_cons_self)
  have hclamped : clampDistance
      (frameAt ⟨0x43020000⟩ (some 0)).dial.mouseDistance =
        (frameAt ⟨0x41F00000⟩ (some 0)).dial.mouseDistance :=
    hdistance.symm.trans hsame
  exact absurd hclamped (by decide +kernel)

end DragSession

end RamkolFX
