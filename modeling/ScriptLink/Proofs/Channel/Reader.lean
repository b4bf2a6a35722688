import ScriptLink.Channel.Queue
import ScriptLink.Proofs.Channel.Pieces
import ScriptLink.Proofs.Text.Separator

/-!
# ScriptLink.Proofs.Channel.Reader — reading ahead of those who take the lines

* `Stream.readings` are the answers to some reads in turn; `readings_eq` gives all of them at once.
* A `Reader` is a thread that reads an input into a queue, piece after piece, with the queue from which others take.
  `Reader.script` is all that reads will get: `script_turn` has it that a turn of the thread does not change it, and
  `script_receive` that a read that does not wait gets the first of it.
* `Reader.Run` lets both go on in any order; `run_answers` is what the reads get and how long the thread goes on.
* `Gives` says what reads of an input get, with the thread and without it. `reads_pieces`: the lines on the pieces up
  to the first that is no text, then one failure if there is such a piece, and then the end.
-/

namespace ScriptLink

namespace Stream

/-! ## Reads in turn -/

/-- The answers to so many reads in turn. -/
def readings : Nat → Stream → List Reading
  | 0, _ => []
  | n + 1, s => s.receive.1 :: readings n s.receive.2

/-- The answer to a read that finds something. -/
def reading : Except ChannelError String → Reading
  | .ok line => .line line
  | .error e => .failed e

/-- The answers to so many reads where there is nothing but some items. -/
def answers (n : Nat) (items : List (Except ChannelError String)) : List Reading :=
  (items.map reading ++ List.replicate n (Reading.failed .closed)).take n

/-- The answers to so many reads that get some lines, one failure if there is one, and then the end. -/
def outcome (lines : List String) (failure : Option ChannelError) (n : Nat) : List Reading :=
  (lines.map Reading.line ++ (failure.map Reading.failed).toList ++ List.replicate n (Reading.failed .closed)).take n

theorem answers_eq_outcome (lines : List String) (failure : Option ChannelError) (n : Nat) :
    answers n (lines.map .ok ++ (failure.map .error).toList) = outcome lines failure n := by
  rw [answers, outcome, List.map_append, List.map_map]
  cases failure <;> rfl

theorem answers_nil (n : Nat) : answers (n + 1) [] = .failed .closed :: answers n [] := by
  simp [answers, List.replicate_succ]

theorem answers_cons (n : Nat) (x : Except ChannelError String) (rest : List (Except ChannelError String)) :
    answers (n + 1) (x :: rest) = reading x :: answers n rest := by
  simp [answers, List.take_append, List.take_replicate]
  omega

theorem readings_eq (n : Nat) (s : Stream) : s.readings n = answers n s.inbound := by
  induction n generalizing s with
  | zero => simp [readings, answers]
  | succ n ih =>
    obtain ⟨inbound, sink⟩ := s
    match inbound with
    | [] => rw [readings, ih, receive, answers_nil]
    | .ok line :: rest => rw [readings, ih, receive, answers_cons, reading]
    | .error e :: rest => rw [readings, ih, receive, answers_cons, reading]

end Stream

/-! ## Reading ahead -/

/-- A thread that reads an input, and the queue of what it has read, of which it has the sending end. -/
structure Reader where
  /-- What was not read yet. -/
  input : List UInt8
  arrived : Queue (Except ChannelError String)

namespace Reader

open ScriptLink.Stream (lineFeed arrival reading answers)

def start (input : List UInt8) : Reader := ⟨input, .empty⟩

/-- The input up to its first line feed and with it, and the input after that. -/
def nextPiece (input : List UInt8) : List UInt8 × List UInt8 :=
  match input.dropWhile (· != lineFeed) with
  | [] => (input, [])
  | _ :: rest => (input.takeWhile (· != lineFeed) ++ [lineFeed], rest)

/-- The thread puts what it read into the queue. It ends with a failure, and if nobody takes from the queue. -/
def pass (item : Except ChannelError String) (rest : List UInt8) (r : Reader) : Reader :=
  match r.arrived.send? item with
  | none => ⟨rest, r.arrived.closeSender⟩
  | some arrived =>
    match item with
    | .ok _ => ⟨rest, arrived⟩
    | .error _ => ⟨rest, arrived.closeSender⟩

/-- A turn of the thread, unless it has ended: it reads a piece, or ends with the input. -/
def turn (r : Reader) : Option Reader :=
  if r.arrived.senderOpen then
    if r.input.isEmpty then some { r with arrived := r.arrived.closeSender }
    else some (r.pass (arrival (nextPiece r.input).1) (nextPiece r.input).2)
  else none

/-- A read of what the thread has read. -/
def receive (limit : Option Nat) (r : Reader) : Reading × Reader :=
  match r.arrived.take? with
  | some (item, arrived) => (reading item, { r with arrived })
  | none => (if r.arrived.senderOpen then Reading.ofLimit limit else .failed .closed, r)

/-- The thread takes so many turns, and reads without time limit get these answers, in any order. A read that waits
has no answer yet. -/
inductive Run : Reader → Nat → List Reading → Reader → Prop where
  | refl (r : Reader) : Run r 0 [] r
  | turn {r s t : Reader} {turns : Nat} {as : List Reading} : r.turn = some s → Run s turns as t →
      Run r (turns + 1) as t
  | read {r t : Reader} {turns : Nat} {as : List Reading} : (r.receive none).1 ≠ .waiting →
      Run (r.receive none).2 turns as t → Run r turns ((r.receive none).1 :: as) t

/-- All that reads will get. -/
def script (r : Reader) : List (Except ChannelError String) :=
  r.arrived.items ++ if r.arrived.senderOpen then Stream.arrivals r.input else []

/-- How many turns the thread can still take, at most. -/
def left (r : Reader) : Nat := if r.arrived.senderOpen then r.input.length + 1 else 0

/-! ### One piece -/

theorem nextPiece_of_not_mem {piece : List UInt8} (h : lineFeed ∉ piece) : nextPiece piece = (piece, []) := by
  rw [nextPiece, Text.dropWhile_of_not_mem h]

theorem nextPiece_append {line : List UInt8} (h : lineFeed ∉ line) (rest : List UInt8) :
    nextPiece (line ++ lineFeed :: rest) = (line ++ [lineFeed], rest) := by
  rw [nextPiece, Text.takeWhile_append_self h, Text.dropWhile_append_self h]

/-- The next piece is the first of all, and what is left is shorter. -/
theorem pieces_nextPiece {input : List UInt8} (h : input ≠ []) :
    Stream.pieces input = (nextPiece input).1 :: Stream.pieces (nextPiece input).2 ∧
      (nextPiece input).2.length < input.length := by
  rcases Stream.input_cases input with rfl | ⟨hne, hm⟩ | ⟨line, rest, rfl, hline⟩
  · exact absurd rfl h
  · rw [nextPiece_of_not_mem hm, Stream.pieces_of_not_mem hne hm]
    exact ⟨rfl, List.length_pos_iff.mpr hne⟩
  · rw [nextPiece_append hline, Stream.pieces_append hline]
    refine ⟨rfl, ?_⟩
    simp only [List.length_append, List.length_cons]
    omega

/-- The thread passes on what comes next, and nothing after a failure. -/
theorem script_pass {r : Reader} (hs : r.arrived.senderOpen = true) (hr : r.arrived.receiverOpen = true)
    (item : Except ChannelError String) (rest : List UInt8) :
    (r.pass item rest).script = r.arrived.items ++ Stream.passed item (Stream.arrivals rest) := by
  unfold pass Queue.send?
  rw [if_pos hr]
  cases item with
  | ok line => simp [script, hs, Stream.passed]
  | error e => simp [script, Queue.closeSender, Stream.passed]

theorem left_pass (r : Reader) (item : Except ChannelError String) (rest : List UInt8) :
    (r.pass item rest).left ≤ rest.length + 1 := by
  have hleft (arrived : Queue (Except ChannelError String)) : left ⟨rest, arrived⟩ ≤ rest.length + 1 := by
    unfold left
    split
    · exact Nat.le_refl _
    · exact Nat.zero_le _
  unfold pass
  split
  · exact hleft _
  · cases item <;> exact hleft _

theorem receiverOpen_pass {r : Reader} (hr : r.arrived.receiverOpen = true)
    (item : Except ChannelError String) (rest : List UInt8) :
    (r.pass item rest).arrived.receiverOpen = true := by
  unfold pass Queue.send?
  rw [if_pos hr]
  cases item <;> exact hr

/-! ### Turns and reads -/

/-- A turn of the thread changes nothing about what reads will get, and there are fewer turns after it. -/
theorem script_turn {r s : Reader} (hr : r.arrived.receiverOpen = true) (h : r.turn = some s) :
    s.script = r.script ∧ s.arrived.receiverOpen = true ∧ s.left < r.left := by
  unfold turn at h
  split at h
  · rename_i hs
    split at h
    · rename_i he
      obtain rfl := Option.some.inj h
      have hinput : r.input = [] := List.isEmpty_iff.mp he
      refine ⟨?_, hr, ?_⟩
      · rw [script, script, if_pos hs, hinput]
        rfl
      · rw [left, left, if_pos hs]
        exact Nat.succ_pos _
    · rename_i he
      obtain rfl := Option.some.inj h
      have hinput : r.input ≠ [] := fun hnil => he (List.isEmpty_iff.mpr hnil)
      obtain ⟨hpieces, hlength⟩ := pieces_nextPiece hinput
      refine ⟨?_, receiverOpen_pass hr _ _, ?_⟩
      · rw [script_pass hs hr, script, if_pos hs, Stream.arrivals, Stream.arrivals, hpieces, Stream.arrivalsOf_cons]
      · have hleft := left_pass r (arrival (nextPiece r.input).1) (nextPiece r.input).2
        rw [show r.left = r.input.length + 1 from if_pos hs]
        omega
  · cases h

/-- A read that does not wait gives the next of what reads will get, or the end. -/
theorem script_receive {r : Reader} (h : (r.receive none).1 ≠ .waiting) (n : Nat) :
    answers (n + 1) r.script = (r.receive none).1 :: answers n (r.receive none).2.script ∧
      (r.receive none).2.arrived.receiverOpen = r.arrived.receiverOpen ∧ (r.receive none).2.left = r.left := by
  obtain ⟨input, ⟨items, sender, receiver⟩⟩ := r
  cases items with
  | cons x rest => exact ⟨Stream.answers_cons _ _ _, rfl, rfl⟩
  | nil =>
    cases sender with
    | true => exact absurd rfl h
    | false => exact ⟨Stream.answers_nil n, rfl, rfl⟩

/-- A read waits only for a turn of the thread. -/
theorem exists_turn_of_waiting {r : Reader} (h : (r.receive none).1 = .waiting) : ∃ s, r.turn = some s := by
  obtain ⟨input, ⟨items, sender, receiver⟩⟩ := r
  cases items with
  | cons x rest => cases x <;> cases h
  | nil =>
    cases sender with
    | true => cases input <;> exact ⟨_, rfl⟩
    | false => cases h

/-- Reads get what was to come, in order, and the thread takes no more turns than it has left. -/
theorem run_answers {r s : Reader} {turns : Nat} {as : List Reading} (hr : r.arrived.receiverOpen = true)
    (h : Run r turns as s) : as = answers as.length r.script ∧ turns + s.left ≤ r.left := by
  induction h with
  | refl r => exact ⟨by simp [answers], by omega⟩
  | turn ht _ ih =>
    obtain ⟨hscript, hopen, hleft⟩ := script_turn hr ht
    obtain ⟨has, hturns⟩ := ih hopen
    exact ⟨by rwa [← hscript], by omega⟩
  | @read r t turns as hw _ ih =>
    obtain ⟨hanswers, hopen, hleft⟩ := script_receive hw as.length
    obtain ⟨has, hturns⟩ := ih (hopen.trans hr)
    exact ⟨by rw [List.length_cons, hanswers, ← has], by omega⟩

end Reader

namespace Stream

/-- Reads of an input get some lines, one failure if there is one, and then the end. -/
structure Gives (input : List UInt8) (lines : List String) (failure : Option ChannelError) : Prop where
  /-- They do where the whole input was read before. -/
  readings : ∀ limit n, (ofBytes input limit).readings n = outcome lines failure n
  /-- They do where a thread reads the input while they go on, in whatever order they and the thread have turns. -/
  answers : ∀ turns as r, Reader.Run (.start input) turns as r → as = outcome lines failure as.length
  /-- A read waits only while the thread has a turn to take. -/
  waiting : ∀ turns as r, Reader.Run (.start input) turns as r → (r.receive none).1 = .waiting → ∃ s, r.turn = some s
  /-- The thread ends. -/
  turns : ∀ turns as r, Reader.Run (.start input) turns as r → turns ≤ input.length + 1

theorem gives_of_arrivals {input : List UInt8} {lines : List String} {failure : Option ChannelError}
    (h : arrivals input = lines.map .ok ++ (failure.map .error).toList) : Gives input lines failure where
  readings limit n := by rw [readings_eq, ofBytes, h, answers_eq_outcome]
  answers turns as r hrun := by
    have has := (Reader.run_answers rfl hrun).1
    have hscript : (Reader.start input).script = arrivals input := rfl
    rwa [hscript, h, answers_eq_outcome] at has
  waiting _ _ _ _ := Reader.exists_turn_of_waiting
  turns turns as r hrun := Nat.le_trans (Nat.le_add_right _ _) (Reader.run_answers rfl hrun).2

/-- **What reads of an input give**: cut after each line feed, it is some pieces that are text and then either
nothing more or a piece that is none with all that follow it. Reads get the lines on the pieces of text in order,
then one failure if there is a piece that is no text, and from then on the end. -/
theorem reads_pieces (input : List UInt8) :
    ∃ good rest lines, (∀ ps, Cut input ps ↔ ps = good ++ rest) ∧
      List.Forall₂ OnPiece good lines ∧ (∀ bad ∈ rest.head?, ∀ text, bad ≠ Text.Utf8.encode text) ∧
      Gives input lines (failure? rest) := by
  obtain ⟨good, rest, lines, h⟩ := divided_of_cut (cut_pieces input)
  exact ⟨good, rest, lines, fun ps => by rw [cut_iff, h.eq_append], h.onPiece, h.no_text,
    gives_of_arrivals h.arrivals⟩

/-- The second piece is no text, so the third is not read. -/
example : (ofBytes [97, 13, 10, 255, 10, 98] none).readings 4 =
    [.line "a", .failed invalid, .failed .closed, .failed .closed] := by decide +kernel

end Stream

end ScriptLink
