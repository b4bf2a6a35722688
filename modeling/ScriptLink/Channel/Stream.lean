import ScriptLink.Channel.Basic
import ScriptLink.Text.Utf8

/-!
# ScriptLink.Channel.Stream — a channel over bytes

Lines are read from bytes and written to a sink.

* `Stream.pieces` cuts the input after each line feed; `Stream.lineOf` takes the line feed of a piece
  away, and one carriage return before it.
* `Stream.arrivals` is all that reading the input gives: the lines before the first piece that is not
  valid UTF-8, and then one error if there is such a piece. After that the channel is closed.
* A sink holds the lines written to it; it may be limited to a number of them.
-/

namespace ScriptLink

/-- Where lines are written. -/
structure Sink where
  written : List String
  /-- How many lines can be written; none if there is no limit. -/
  limit : Option Nat
  deriving DecidableEq, Repr, Inhabited

namespace Sink

def empty (limit : Option Nat) : Sink := ⟨[], limit⟩

/-- The sink takes no more lines. -/
def full (s : Sink) : Bool :=
  match s.limit with
  | none => false
  | some n => n ≤ s.written.length

/-- One more line in the sink, unless that is full. -/
def write (line : String) (s : Sink) : Except ChannelError Nat × Sink :=
  if s.full then (.error (.io "writer closed"), s)
  else (.ok (lineBytes line), { s with written := s.written ++ [line] })

/-- The bytes of a sink as text, each line with its line feed. -/
def text (s : Sink) : String := String.join (s.written.map (· ++ "\n"))

end Sink

/-- A channel over bytes: what is still to be read, and where lines are written. -/
structure Stream where
  /-- What reading gives from here on. -/
  inbound : List (Except ChannelError String)
  sink : Sink

namespace Stream

/-! ## Reading -/

def lineFeed : UInt8 := 10

def carriageReturn : UInt8 := 13

/-- The input cut after each line feed. -/
def pieces : List UInt8 → List (List UInt8)
  | [] => []
  | b :: rest =>
    if b = lineFeed then [b] :: pieces rest
    else match pieces rest with
      | [] => [[b]]
      | p :: ps => (b :: p) :: ps

/-- The bytes of a piece without its line feed and one carriage return before that. -/
def lineOf (piece : List UInt8) : List UInt8 :=
  if piece.getLast? = some lineFeed then
    let line := piece.dropLast
    if line.getLast? = some carriageReturn then line.dropLast else line
  else piece

/-- The error of a piece that is no text. -/
def invalid : ChannelError := .io "stream did not contain valid UTF-8"

/-- What reading pieces gives, up to the first that is no text. -/
def arrivalsOf : List (List UInt8) → List (Except ChannelError String)
  | [] => []
  | p :: ps =>
    match Text.Utf8.decode? (lineOf p) with
    | some line => .ok line :: arrivalsOf ps
    | none => [.error invalid]

/-- What reading input gives. -/
def arrivals (input : List UInt8) : List (Except ChannelError String) :=
  arrivalsOf (pieces input)

/-- The channel that reads the input and writes to a new sink. -/
def ofBytes (input : List UInt8) (limit : Option Nat) : Stream := ⟨arrivals input, .empty limit⟩

/-- A read: what comes next, whatever the time limit, since all input is there. -/
def receive (s : Stream) : Reading × Stream :=
  match s.inbound with
  | [] => (.failed .closed, s)
  | .ok line :: rest => (.line line, { s with inbound := rest })
  | .error e :: rest => (.failed e, { s with inbound := rest })

/-- A line written, and how many bytes it takes. -/
def send (line : String) (s : Stream) : Except ChannelError Nat × Stream :=
  let (answer, sink) := s.sink.write line
  (answer, { s with sink })

end Stream

end ScriptLink
