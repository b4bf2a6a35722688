import ScriptLink.Proofs.Channel.Reader
import ScriptLink.Proofs.Json.Printed

/-!
# ScriptLink.Proofs.Channel.Framing — frames stay apart

* `Stream.sendAll` sends lines one after the other; `sendAll_eq` is what becomes of a channel that takes any number.
* `gives_terminated`: lines without control characters are read back as they are.
* `frames_framed`: so are the lines of frames, whatever is in the frames.
-/

namespace ScriptLink.Stream

/-- Sends lines in turn: the answers, and the channel after that. -/
def sendAll : List String → Stream → List (Except ChannelError Nat) × Stream
  | [], s => ([], s)
  | line :: rest, s =>
    let (answer, s) := s.send line
    let (answers, s) := sendAll rest s
    (answer :: answers, s)

theorem sendAll_eq (lines before : List String) (inbound : List (Except ChannelError String)) :
    sendAll lines ⟨inbound, ⟨before, none⟩⟩ =
      (lines.map fun line => .ok (lineBytes line), ⟨inbound, ⟨before ++ lines, none⟩⟩) := by
  induction lines generalizing before with
  | nil => rw [List.append_nil]; rfl
  | cons line rest ih =>
    have hsend : send line ⟨inbound, ⟨before, none⟩⟩ =
        (.ok (lineBytes line), ⟨inbound, ⟨before ++ [line], none⟩⟩) := rfl
    simp only [sendAll, hsend, ih, List.append_assoc]
    rfl

theorem withoutReturn_of_printed {line : String} (h : Printed line.toList) : withoutReturn line = line :=
  if_neg fun hlast => h.not_mem (by decide) (List.mem_of_getLast? hlast)

/-- Lines without control characters are read as they were written. -/
theorem gives_terminated {lines : List String} (h : ∀ line ∈ lines, Printed line.toList) :
    Gives (terminated lines) lines none := by
  have harrivals := arrivals_terminated fun line hl => (h line hl).not_mem (c := '\n') (by decide)
  rw [List.map_congr_left fun line hl => withoutReturn_of_printed (h line hl), List.map_id'] at harrivals
  exact gives_of_arrivals (by rw [harrivals, Option.map_none, Option.toList_none, List.append_nil])

/-- **Each frame is one line**: the line of a frame has no control character, so no line break. Where lines of frames
are sent, each takes its bytes and one more, and reads of the text that was written get exactly these lines in order,
and then the end. -/
theorem frames_framed :
    (∀ f : Frame, ∀ c ∈ f.encode.toList, 0x20 ≤ c.toNat) ∧
    ∀ (frames : List Frame) (input : List UInt8),
      let lines := frames.map Frame.encode
      let (answers, s) := (ofBytes input none).sendAll lines
      answers = lines.map (fun line => .ok (line.utf8ByteSize + 1)) ∧
        Gives (Text.Utf8.encode s.sink.text) lines none := by
  refine ⟨Frame.printed_encode, fun frames input => ?_⟩
  intro lines
  rw [ofBytes, Sink.empty, sendAll_eq]
  refine ⟨rfl, gives_terminated fun line hl => ?_⟩
  obtain ⟨f, -, rfl⟩ := List.mem_map.mp hl
  exact f.printed_encode

end ScriptLink.Stream
