import MeshBeacon.JsonReader
import MeshBeacon.MqttCommand

/-!
# Responses

The response to a command is formatted as text: the name of the target and the
message are put between quotes as they are. The operator reads it as JSON.

When the text between the quotes has a quote, a backslash or a control character in
it, the operator reads something else, or nothing: a string that is not read as it
is stays shorter than the text, so it is never the message that was sent. The name
of the target has eight bytes only. These are too few to bring in a message, but it
is possible to end the string and begin another one in them.
-/

open DuckUtils Json

namespace AcceptedCommand

/-- The name of the member that repeats the message. -/
def messageName : List UInt8 := ascii "message"

/-- The reader before the name of the target: it is in a string that is a member of the
outermost object. -/
def beforeTarget : Reader := ⟨.string false, [.object], [], ascii "target", none⟩

/-! ## Reading a response -/

/-- **The name of the target is kept in its place**: read from within a string that is a
member of the outermost object, it leads to within such a string. -/
def TargetKept (target : List UInt8) : Prop :=
  ∃ text name member, beforeTarget.run messageName target
    = some ⟨.string false, [.object], text, name, member⟩

/-- **A command can be answered**: there is memory to queue the response, it fits, the
name of the target is kept in its place, and the message is plain; and both are UTF-8. -/
structure Answerable (a : AcceptedCommand) (result : ℤ) (malloc : Bool) : Prop where
  malloc : malloc
  fits : (responseHead result).length + (decimal a.topic.toNat).length
    + a.cmdMessage.val.length + 32 < responseSize
  target : IsUtf8 a.targetDevice.toList ∧ TargetKept a.targetDevice.toList
  message : IsUtf8 a.cmdMessage.val ∧ ∀ c ∈ a.cmdMessage.val, isPlain c

end AcceptedCommand

namespace MqttCommand

open AcceptedCommand

variable {S J : Type*} {g : BloomGeometry}

section Answer

variable [LinearOrder S] (lib : ArduinoJson J) (env : DuckEnv) (millis : UInt64)
  (undefinedCast : ℚ → UInt8) (responseTopic : List UInt8) (malloc : Bool)

variable {undefinedCast} {topicNum : ℚ} {target cmdMessage : CString} {encoding : Option CString}
  {a : AcceptedCommand}

end Answer

/-! ## Commands that are acknowledged, and others -/

/-- **No command to every duck is acknowledged**: the name of its target is not UTF-8. -/
theorem not_answerable_of_broadcast {a : AcceptedCommand} (h : a.targetDevice = broadcastDuid)
    (result : ℤ) (malloc : Bool) : ¬ a.Answerable result malloc := by
  intro hanswer
  have hlt := hanswer.target.1.lt (b := 0xFF) (by rw [h]; decide)
  exact absurd hlt (by decide)

end MqttCommand
