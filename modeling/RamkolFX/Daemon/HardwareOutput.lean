import RamkolFX.Protocol.Types
import Mathlib.Data.List.TakeWhile

/-!
# Hardware output

The playback stream, pinned to a hardware sink by its node name.  The name is
handed to PipeWire as a C string, so the stream's target is what stands before
the first NUL of it, while the recorded name is whole.  Whether a
`pw_stream_connect` succeeds is up to PipeWire and an argument here.
-/

namespace RamkolFX

/-- What is read of `name.c_str()`. -/
def cStr (name : ByteString) : ByteString :=
  name.takeWhile (· ≠ 0)

theorem zero_not_mem_cStr (name : ByteString) : 0 ∉ cStr name := by
  intro hmem
  simpa using List.mem_takeWhile_imp hmem

theorem cStr_eq_self_iff {name : ByteString} : cStr name = name ↔ 0 ∉ name := by
  rw [cStr, List.takeWhile_eq_self_iff]
  constructor
  · intro h hmem
    simpa using h 0 hmem
  · intro h byte hbyte
    have hne : byte ≠ 0 := fun hzero => h (hzero ▸ hbyte)
    simpa using hne

/-- The stream's `target.object` property, and whether it is connected. -/
structure OutputStream where
  targetObject : ByteString
  bConnected : Bool
  deriving DecidableEq

structure HardwareOutput where
  targetNodeName : ByteString
  /-- `none` before `start`. -/
  stream : Option OutputStream := none
  deriving DecidableEq

namespace HardwareOutput

/-- `HardwareOutput::SampleRate` -/
def sampleRate : ℕ := 48000

def start (output : HardwareOutput) (bConnects : Bool) : Bool × HardwareOutput :=
  (bConnects,
    { output with stream := some ⟨cStr output.targetNodeName, bConnects⟩ })

/-- `ReconnectOnLoopThread`: disconnect, update the target, connect again. -/
def reconnectOnLoopThread (output : HardwareOutput) (bConnects : Bool) :
    Bool × HardwareOutput :=
  (bConnects,
    { output with stream := some ⟨cStr output.targetNodeName, bConnects⟩ })

/-- The name is kept whatever becomes of the connection. -/
def setTargetNode (output : HardwareOutput) (newTargetNodeName : ByteString)
    (bConnects : Bool) : Bool × HardwareOutput :=
  if newTargetNodeName = output.targetNodeName then (true, output)
  else if output.stream = none then
    (true, { output with targetNodeName := newTargetNodeName })
  else
    reconnectOnLoopThread { output with targetNodeName := newTargetNodeName }
      bConnects

/-- The target is the requested name, reconnected or not. -/
@[simp] theorem targetNodeName_setTargetNode (output : HardwareOutput)
    (newTargetNodeName : ByteString) (bConnects : Bool) :
    (output.setTargetNode newTargetNodeName bConnects).2.targetNodeName =
      newTargetNodeName := by
  rw [setTargetNode]
  split
  · rename_i hsame
    exact hsame.symm
  · split <;> rfl

/-! ## One call -/

/-- The stream is pinned to the C string of the recorded name, connected or
not. -/
def Pinned (output : HardwareOutput) : Prop :=
  ∃ bConnected, output.stream = some ⟨cStr output.targetNodeName, bConnected⟩

theorem pinned_start (output : HardwareOutput) (bConnects : Bool) :
    (output.start bConnects).2.Pinned :=
  ⟨bConnects, rfl⟩

variable {output : HardwareOutput} {name : ByteString}

theorem setTargetNode_of_same (h : name = output.targetNodeName)
    (bConnects : Bool) :
    output.setTargetNode name bConnects = (true, output) := by
  rw [setTargetNode, if_pos h]

theorem setTargetNode_of_other (h : name ≠ output.targetNodeName)
    (hpinned : output.Pinned) (bConnects : Bool) :
    output.setTargetNode name bConnects =
      (bConnects, ⟨name, some ⟨cStr name, bConnects⟩⟩) := by
  obtain ⟨bConnected, hstream⟩ := hpinned
  rw [setTargetNode, if_neg h, hstream, if_neg (Option.some_ne_none _)]
  rfl

/-- The stream follows the recorded name. -/
theorem Pinned.setTargetNode (h : output.Pinned) (name : ByteString)
    (bConnects : Bool) : (output.setTargetNode name bConnects).2.Pinned := by
  by_cases hsame : name = output.targetNodeName
  · rwa [setTargetNode_of_same hsame]
  · rw [setTargetNode_of_other hsame h]
    exact ⟨bConnects, rfl⟩

end HardwareOutput

end RamkolFX
