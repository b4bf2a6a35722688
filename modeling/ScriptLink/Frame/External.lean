import ScriptLink.Frame.Decode

/-!
# ScriptLink.Frame.External — lines from outside the host

`Frame.ofExternal` makes a frame of a line of external input: an object with a member `type` is a
frame already; any other JSON value is the payload of an external message, and a text that is no
JSON is such a payload as a string.
-/

namespace ScriptLink.Frame

/-- The external message with a payload, without an id. -/
def wrapPayload (payload : Value) : Value :=
  Value.object [("type", .str Kind.externalMessage.name), ("payload", payload)]

/-- The value that the host forwards for a line of external input. -/
def ofExternal (line : String) : Value :=
  match Value.ofText? line with
  | some (.obj members) =>
    if (members.lookup "type").isSome then .obj members else wrapPayload (.obj members)
  | some v => wrapPayload v
  | none => wrapPayload (.str line)

end ScriptLink.Frame
