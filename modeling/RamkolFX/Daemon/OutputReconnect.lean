import RamkolFX.Daemon.HardwareOutput
import RamkolFX.Support.Runs

/-!
# Switching the output again

`SetTargetNode` takes a name that is recorded already for one that is connected
already.  The name is recorded before the connect, so after a connect that
failed, the same name again reports a switch that has not taken place.  Nor is
a stream ever connected to a name with a NUL in it: PipeWire is given the bytes
before the NUL.
-/

namespace RamkolFX

open Support

/-- A call of `SetTargetNode`, and the outcome of its `pw_stream_connect`
should it come to one. -/
structure TargetCall where
  name : ByteString
  bConnects : Bool
  deriving DecidableEq

namespace HardwareOutput

/-- The stream is connected to the named sink. -/
def ConnectedTo (output : HardwareOutput) (name : ByteString) : Prop :=
  output.stream = some ⟨name, true⟩

instance (output : HardwareOutput) (name : ByteString) :
    Decidable (output.ConnectedTo name) :=
  inferInstanceAs (Decidable (_ = _))

/-- The output behind `Start`, given the name and the outcome of its connect. -/
def started (opening : TargetCall) : HardwareOutput :=
  ((HardwareOutput.mk opening.name none).start opening.bConnects).2

/-- The output behind further calls. -/
def after (opening : TargetCall) (past : List TargetCall) : HardwareOutput :=
  past.foldl (fun output call => (output.setTargetNode call.name call.bConnects).2)
    (started opening)

/-- Success is reported only of a stream that is then connected to the name. -/
def ReportsTruly (output : HardwareOutput) (call : TargetCall) : Prop :=
  let (bSuccess, output) := output.setTargetNode call.name call.bConnects
  bSuccess = true → output.ConnectedTo call.name

/-- The last of some calls switches to a name, the one before it having another
one, or none being before it. -/
def Switches (before : List TargetCall) (last : TargetCall) : Prop :=
  ∀ previous ∈ before.getLast?, previous.name ≠ last.name

/-- Should the call repeat the name that the call directly before it has
switched to, that one has connected. -/
def RepeatsConnected (opening : TargetCall) (past : List TargetCall)
    (call : TargetCall) : Prop :=
  ∀ before first, opening :: past = before ++ [first] →
    Switches before first → call.name = first.name → first.bConnects = true

/-- Should there be a NUL in its name, the call switches and does not
connect. -/
def NamesWhole (opening : TargetCall) (past : List TargetCall)
    (call : TargetCall) : Prop :=
  0 ∈ call.name → Switches (opening :: past) call ∧ call.bConnects = false

/-! ## One call -/

section

variable {output : HardwareOutput} {call : TargetCall}

theorem not_connectedTo_of_zero_mem {name : ByteString} (h : output.Pinned)
    (hzero : 0 ∈ name) : ¬ output.ConnectedTo name := by
  obtain ⟨bConnected, hstream⟩ := h
  rw [ConnectedTo, hstream]
  intro heq
  obtain ⟨hname, -⟩ := OutputStream.mk.inj (Option.some.inj heq)
  rw [← hname] at hzero
  exact zero_not_mem_cStr _ hzero

/-- A call that switches reports what becomes of its connect, which is made to
the name only if that is a C string. -/
theorem reportsTruly_iff_of_other (h : call.name ≠ output.targetNodeName)
    (hpinned : output.Pinned) :
    output.ReportsTruly call ↔ (0 ∈ call.name → call.bConnects = false) := by
  rw [ReportsTruly, setTargetNode_of_other h hpinned]
  constructor
  · intro hreports hzero
    by_contra hconnects
    have hconnected := hreports (Bool.eq_true_of_not_eq_false hconnects)
    exact not_connectedTo_of_zero_mem ⟨call.bConnects, rfl⟩ hzero hconnected
  · intro hwhole hconnects
    have hsuccess : call.bConnects = true := hconnects
    have hname : 0 ∉ call.name := by
      intro hzero
      exact absurd (hsuccess.symm.trans (hwhole hzero)) (by decide)
    rw [ConnectedTo, hsuccess, cStr_eq_self_iff.mpr hname]

/-- A call that does not switch reports success, whatever the stream is. -/
theorem reportsTruly_iff_of_same (h : call.name = output.targetNodeName) :
    output.ReportsTruly call ↔ output.ConnectedTo call.name := by
  rw [ReportsTruly, setTargetNode_of_same h]
  exact ⟨fun hreports => hreports rfl, fun hconnected _ => hconnected⟩

end

/-! ## Runs -/

theorem after_concat (opening : TargetCall) (past : List TargetCall)
    (call : TargetCall) :
    after opening (past ++ [call]) =
      ((after opening past).setTargetNode call.name call.bConnects).2 :=
  List.foldl_concat ..

theorem pinned_after (opening : TargetCall) (past : List TargetCall) :
    (after opening past).Pinned := by
  induction past using List.reverseRecOn with
  | nil => exact pinned_start _ _
  | append_singleton past call ih =>
      rw [after_concat]
      exact ih.setTargetNode call.name call.bConnects

/-- The recorded name is that of the last call. -/
theorem targetNodeName_after {opening : TargetCall} {past before : List TargetCall}
    {last : TargetCall} (h : opening :: past = before ++ [last]) :
    (after opening past).targetNodeName = last.name := by
  cases before with
  | nil =>
      obtain ⟨rfl, rfl⟩ := List.cons.inj h
      rfl
  | cons _ before =>
      rw [List.cons_append] at h
      obtain ⟨rfl, rfl⟩ := List.cons.inj h
      rw [after_concat, targetNodeName_setTargetNode]

/-- A call has a name of its own exactly when that is not the recorded one. -/
theorem switches_iff {opening : TargetCall} {past : List TargetCall}
    {call : TargetCall} :
    Switches (opening :: past) call ↔
      call.name ≠ (after opening past).targetNodeName := by
  obtain ⟨before, last, hlast⟩ :
      ∃ before last, opening :: past = before ++ [last] :=
    ⟨_, _, (List.dropLast_concat_getLast (List.cons_ne_nil _ _)).symm⟩
  rw [targetNodeName_after hlast, hlast, Switches, List.getLast?_concat]
  constructor
  · intro h
    exact (h last rfl).symm
  · intro h previous hprevious
    obtain rfl := Option.some.inj hprevious
    exact h.symm

/-- Behind a call that switches, the stream is what its connect made of it. -/
theorem after_of_switches {opening : TargetCall} {past before : List TargetCall}
    {last : TargetCall} (h : opening :: past = before ++ [last])
    (hswitches : Switches before last) :
    after opening past =
      ⟨last.name, some ⟨cStr last.name, last.bConnects⟩⟩ := by
  cases before with
  | nil =>
      obtain ⟨rfl, rfl⟩ := List.cons.inj h
      rfl
  | cons _ before =>
      rw [List.cons_append] at h
      obtain ⟨rfl, rfl⟩ := List.cons.inj h
      rw [after_concat, setTargetNode_of_other (switches_iff.mp hswitches)
        (pinned_after opening before)]

/-- As long as no call repeats a switch that failed, the stream is connected
to the C string of the last name, unless the last call has switched and
failed. -/
theorem connected_or_switched {opening : TargetCall} {calls : List TargetCall}
    (h : AtEachEvent (RepeatsConnected opening) calls) :
    ∃ before last, opening :: calls = before ++ [last] ∧
      ((after opening calls).ConnectedTo (cStr last.name) ∨
        Switches before last ∧ last.bConnects = false) := by
  induction calls using List.reverseRecOn with
  | nil =>
      refine ⟨[], opening, rfl, ?_⟩
      cases hconnects : opening.bConnects with
      | true =>
          left
          show some (OutputStream.mk (cStr opening.name) opening.bConnects) = _
          rw [hconnects]
      | false =>
          right
          refine ⟨?_, rfl⟩
          intro previous hnone
          cases hnone
  | append_singleton calls call ih =>
      obtain ⟨hcalls, hcall⟩ := (atEachEvent_concat calls call).mp h
      obtain ⟨before, last, hlast, hstate⟩ := ih hcalls
      have htarget := targetNodeName_after hlast
      refine ⟨opening :: calls, call, rfl, ?_⟩
      by_cases hsame : call.name = last.name
      · -- the call leaves the stream as it is
        rcases hstate with hconnected | ⟨hswitches, hfailed⟩
        · left
          rw [after_concat, setTargetNode_of_same (hsame.trans htarget.symm),
            hsame]
          exact hconnected
        · have hconnects := hcall before last hlast hswitches hsame
          exact absurd (hconnects.symm.trans hfailed) (by decide)
      · have hother : call.name ≠ (after opening calls).targetNodeName := by
          rwa [htarget]
        rw [after_concat,
          setTargetNode_of_other hother (pinned_after opening calls)]
        cases hconnects : call.bConnects with
        | true => exact Or.inl rfl
        | false => exact Or.inr ⟨switches_iff.mpr hother, rfl⟩

/-- A call that reports truly repeats no switch that failed, and no NUL is in
the name of which it reports success. -/
theorem ReportsTruly.spares {opening : TargetCall} {past : List TargetCall}
    {call : TargetCall} (h : (after opening past).ReportsTruly call) :
    RepeatsConnected opening past call ∧ NamesWhole opening past call := by
  have hpinned := pinned_after opening past
  constructor
  · intro before first hfirst hswitches hsame
    have htarget := targetNodeName_after hfirst
    have hconnected :=
      (reportsTruly_iff_of_same (hsame.trans htarget.symm)).mp h
    rw [ConnectedTo, after_of_switches hfirst hswitches] at hconnected
    exact (OutputStream.mk.inj (Option.some.inj hconnected)).2
  · intro hzero
    by_cases hsame : call.name = (after opening past).targetNodeName
    · have hconnected := (reportsTruly_iff_of_same hsame).mp h
      exact absurd hconnected (not_connectedTo_of_zero_mem hpinned hzero)
    · exact ⟨switches_iff.mpr hsame,
        (reportsTruly_iff_of_other hsame hpinned).mp h hzero⟩

/-- `SetTargetNode` reports success of connected streams only, exactly when no
call repeats the name that the call directly before it, `Start` included, has
switched to in vain, and none with a NUL in its name repeats the name before it
or connects. -/
theorem reportsTruly_iff (opening : TargetCall) (calls : List TargetCall) :
    AtEachEvent (fun past call => (after opening past).ReportsTruly call) calls ↔
      AtEachEvent
        (fun past call =>
          RepeatsConnected opening past call ∧ NamesWhole opening past call)
        calls := by
  constructor
  · intro h past call hpast
    exact (h past call hpast).spares
  · intro h past call hpast
    have hpinned := pinned_after opening past
    obtain ⟨hrepeats, hwhole⟩ := h past call hpast
    have hbefore : AtEachEvent (RepeatsConnected opening) past := by
      intro part event hpart
      exact (h part event (hpart.trans ((List.prefix_append _ _).trans hpast))).1
    obtain ⟨before, last, hlast, hstate⟩ := connected_or_switched hbefore
    have htarget := targetNodeName_after hlast
    by_cases hsame : call.name = last.name
    · have hrecorded := hsame.trans htarget.symm
      rw [reportsTruly_iff_of_same hrecorded]
      rcases hstate with hconnected | ⟨hswitches, hfailed⟩
      · have hname : 0 ∉ call.name := by
          intro hzero
          exact switches_iff.mp (hwhole hzero).1 hrecorded
        rwa [← hsame, cStr_eq_self_iff.mpr hname] at hconnected
      · have hconnects := hrepeats before last hlast hswitches hsame
        exact absurd (hconnects.symm.trans hfailed) (by decide)
    · have hother : call.name ≠ (after opening past).targetNodeName := by
        rwa [htarget]
      rw [reportsTruly_iff_of_other hother hpinned]
      exact fun hzero => (hwhole hzero).2

/-- The second of two calls with one name reports a switch that failed, and a
name is reported of which only the part before a NUL was connected. -/
theorem reportsTruly_lost :
    let opening : TargetCall := ⟨ascii "speakers", true⟩
    let retry : TargetCall := ⟨ascii "headset", false⟩
    let cut : TargetCall := ⟨ascii "a\x00b", true⟩
    ¬ AtEachEvent
        (fun past call => (after opening past).ReportsTruly call) [retry, retry] ∧
      ¬ AtEachEvent
        (fun past call => (after opening past).ReportsTruly call) [cut] := by
  intro opening retry cut
  constructor
  · intro h
    have hsecond := h [retry] retry (List.prefix_refl _) rfl
    exact absurd hsecond (by decide)
  · intro h
    have hfirst := h [] cut (List.prefix_refl _) rfl
    exact absurd hfirst (by decide)

end HardwareOutput

end RamkolFX
