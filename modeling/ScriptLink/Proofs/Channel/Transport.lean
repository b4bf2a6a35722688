import ScriptLink.Channel.Transport

/-!
# ScriptLink.Proofs.Channel.Transport — what a transport still gives and takes

* `Transport.lines` are the lines that reading gives, in order, and `Transport.tail` is what it gives
  after them: an error, or nothing yet.
* `Transport.Accepts n` says that the next `n` writes succeed.
* `receive_of_cons`, `receive_of_nil` and `send_of_accepts` say what a read and a write do to these;
  `Sends` puts several writes together.
* `Transport.Fills n` says that the next `n` writes succeed and no more; `send_of_full` is the one after
  them.
-/

namespace ScriptLink

namespace Stream

/-- The lines before the first error. -/
def linesOf : List (Except ChannelError String) → List String
  | .ok line :: rest => line :: linesOf rest
  | _ => []

/-- What comes after the lines; a channel at its end is closed. -/
def tailOf : List (Except ChannelError String) → Reading
  | .ok _ :: rest => tailOf rest
  | .error e :: _ => .failed e
  | [] => .failed .closed

theorem length_linesOf (inbound : List (Except ChannelError String)) :
    (linesOf inbound).length ≤ inbound.length := by
  induction inbound with
  | nil => simp [linesOf]
  | cons x rest ih =>
    cases x with
    | error e => simp [linesOf]
    | ok line =>
      rw [linesOf, List.length_cons, List.length_cons]
      omega

theorem linesOf_map_ok (lines : List String) : linesOf (lines.map .ok) = lines := by
  induction lines with
  | nil => rfl
  | cons line rest ih => rw [List.map_cons, linesOf, ih]

theorem tailOf_map_ok (lines : List String) : tailOf (lines.map .ok) = .failed .closed := by
  induction lines with
  | nil => rfl
  | cons line rest ih => rw [List.map_cons, tailOf, ih]

theorem exists_tailOf (inbound : List (Except ChannelError String)) :
    ∃ e, tailOf inbound = .failed e := by
  induction inbound with
  | nil => exact ⟨_, rfl⟩
  | cons x rest ih =>
    cases x with
    | ok _ => exact ih
    | error e => exact ⟨e, rfl⟩

theorem tailOf_ne_line (inbound : List (Except ChannelError String)) (line : String) :
    tailOf inbound ≠ .line line := by
  obtain ⟨e, he⟩ := exists_tailOf inbound
  simp [he]

end Stream

namespace Transport

/-- The lines that reading gives before anything else. -/
def lines : Transport → List String
  | .memory p => p.toScript.items
  | .stream s => Stream.linesOf s.inbound

/-- What a read gives after the lines. -/
def tail (limit : Option Nat) : Transport → Reading
  | .memory p => if p.toScript.senderOpen then Reading.ofLimit limit else .failed .closed
  | .stream s => Stream.tailOf s.inbound

/-- The next `n` writes succeed. -/
def Accepts (n : Nat) : Transport → Prop
  | .memory p => p.toHost.receiverOpen = true
  | .stream s => ∀ limit ∈ s.sink.limit, s.sink.written.length + n ≤ limit

/-- The transport `t` after the lines `texts` were written is `t'`. -/
structure Sends (limit : Option Nat) (texts : List String) (t t' : Transport) : Prop where
  lines : t'.lines = t.lines
  tail : t'.tail limit = t.tail limit
  written : t'.written = t.written ++ texts
  accepts : ∀ n, t.Accepts (texts.length + n) → t'.Accepts n

theorem Sends.refl (limit : Option Nat) (t : Transport) : Sends limit [] t t where
  lines := rfl
  tail := rfl
  written := (List.append_nil _).symm
  accepts n h := by
    rw [List.length_nil, Nat.zero_add] at h
    exact h

theorem Sends.trans {limit : Option Nat} {xs ys : List String} {t u v : Transport}
    (h : Sends limit xs t u) (k : Sends limit ys u v) : Sends limit (xs ++ ys) t v where
  lines := k.lines.trans h.lines
  tail := k.tail.trans h.tail
  written := by rw [k.written, h.written, List.append_assoc]
  accepts n ha := by
    rw [List.length_append, Nat.add_assoc] at ha
    exact k.accepts n (h.accepts _ ha)

theorem length_lines_le (t : Transport) : t.lines.length ≤ t.pending := by
  cases t with
  | memory p => exact Nat.le_refl _
  | stream s => exact Stream.length_linesOf s.inbound

/-- A read gives the next line. -/
theorem receive_of_cons {t : Transport} {line : String} {rest : List String}
    (limit : Option Nat) (h : t.lines = line :: rest) :
    ∃ t', t.receive limit = (.line line, t') ∧ t'.lines = rest ∧ t'.tail limit = t.tail limit ∧
      t'.written = t.written ∧ ∀ n, t.Accepts n → t'.Accepts n := by
  cases t with
  | memory p =>
    obtain ⟨⟨items, s, r⟩, q⟩ := p
    have hi : items = line :: rest := h
    subst hi
    exact ⟨.memory ⟨⟨rest, s, r⟩, q⟩, rfl, rfl, rfl, rfl, fun _ ha => ha⟩
  | stream s =>
    obtain ⟨inbound, sink⟩ := s
    match inbound with
    | [] => cases h
    | .error e :: later => cases h
    | .ok x :: later =>
      obtain ⟨rfl, rfl⟩ := List.cons.inj h
      exact ⟨.stream ⟨later, sink⟩, rfl, rfl, rfl, rfl, fun _ ha => ha⟩

/-- When there are no lines, a read gives what comes after them. -/
theorem receive_of_nil {t : Transport} (limit : Option Nat) (h : t.lines = []) :
    ∃ t', t.receive limit = (t.tail limit, t') ∧ t'.written = t.written := by
  cases t with
  | memory p =>
    obtain ⟨⟨items, s, r⟩, q⟩ := p
    have hi : items = [] := h
    subst hi
    exact ⟨.memory ⟨⟨[], s, r⟩, q⟩, rfl, rfl⟩
  | stream s =>
    obtain ⟨inbound, sink⟩ := s
    match inbound with
    | [] => exact ⟨_, rfl, rfl⟩
    | .error e :: later => exact ⟨_, rfl, rfl⟩
    | .ok x :: later => cases h

/-- What comes after the lines is no line. -/
theorem tail_ne_line (limit : Option Nat) (t : Transport) (line : String) :
    t.tail limit ≠ .line line := by
  cases t with
  | memory p =>
    rw [tail]
    split
    · cases limit <;> simp [Reading.ofLimit]
    · simp
  | stream s => exact Stream.tailOf_ne_line s.inbound line

/-- A write that a transport accepts comes after those before. -/
theorem send_of_accepts {t : Transport} {n : Nat} (limit : Option Nat) (line : String)
    (h : t.Accepts (n + 1)) :
    ∃ t', t.send line = (.ok (lineBytes line), t') ∧ Sends limit [line] t t' := by
  cases t with
  | memory p =>
    obtain ⟨q, ⟨items, s, r⟩⟩ := p
    have hr : r = true := h
    subst hr
    exact ⟨.memory ⟨q, ⟨items ++ [line], s, true⟩⟩, rfl, rfl, rfl, rfl, fun _ ha => ha⟩
  | stream s =>
    obtain ⟨inbound, ⟨written, cap⟩⟩ := s
    refine ⟨.stream ⟨inbound, ⟨written ++ [line], cap⟩⟩, ?_, rfl, rfl, rfl, ?_⟩
    · have hf : Sink.full ⟨written, cap⟩ = false := by
        cases cap with
        | none => rfl
        | some m =>
          have hm : written.length + (n + 1) ≤ m := h m rfl
          exact decide_eq_false (Nat.not_le.mpr (by show written.length < m; omega))
      simp [send, Stream.send, Sink.write, hf]
    · intro k ha m hm
      have hm : written.length + (1 + k) ≤ m := ha m hm
      show (written ++ [line]).length + k ≤ m
      rw [List.length_append, List.length_singleton]
      omega

/-! ## Limited sinks -/

/-- The next `n` writes succeed, and the one after them fails. -/
def Fills (n : Nat) : Transport → Prop
  | .memory _ => False
  | .stream s => s.sink.limit = some (s.sink.written.length + n)

theorem Fills.accepts {t : Transport} {n : Nat} (h : t.Fills n) : t.Accepts n := by
  cases t with
  | memory p => exact h.elim
  | stream s =>
    intro limit hl
    obtain rfl : s.sink.written.length + n = limit := Option.some.inj (h.symm.trans hl)
    exact Nat.le_refl _

theorem Fills.receive {t : Transport} {n : Nat} (h : t.Fills n) (limit : Option Nat) :
    (t.receive limit).2.Fills n := by
  cases t with
  | memory p => exact h.elim
  | stream s =>
    obtain ⟨inbound, sink⟩ := s
    match inbound with
    | [] | .ok _ :: _ | .error _ :: _ => exact h

theorem Fills.send {t : Transport} {n : Nat} (h : t.Fills (n + 1)) (line : String) :
    (t.send line).2.Fills n := by
  cases t with
  | memory p => exact h.elim
  | stream s =>
    obtain ⟨inbound, ⟨written, cap⟩⟩ := s
    obtain rfl : cap = some (written.length + (n + 1)) := h
    have hroom : ¬written.length + (n + 1) ≤ written.length := by omega
    simp only [Transport.send, Stream.send, Sink.write, Sink.full, hroom, decide_false,
      Bool.false_eq_true, if_false, Fills, List.length_append, List.length_singleton,
      Option.some_inj]
    omega

/-- The failure of a write to a sink that is full. -/
def refusal : ChannelError := .io "writer closed"

/-- A transport that is full takes no more lines. -/
theorem send_of_full {t : Transport} (h : t.Fills 0) (line : String) :
    t.send line = (.error refusal, t) := by
  cases t with
  | memory p => exact h.elim
  | stream s =>
    obtain ⟨inbound, ⟨written, cap⟩⟩ := s
    obtain rfl : cap = some written.length := h
    simp [Transport.send, Stream.send, Sink.write, Sink.full, refusal]

end Transport

end ScriptLink
