import Mathlib.Data.List.Forall2
import ScriptLink.Proofs.Channel.Stream

/-!
# ScriptLink.Proofs.Channel.Pieces — the lines on the pieces of an input

* `Cut` is what it means to cut an input after each line feed, and `pieces` are the only way to do it (`cut_iff`).
* `OnPiece` is the line on a piece. `arrival` reads a piece as text first and takes its end away then;
  `arrivalsOf_cons` has it that this comes to the same as the other way round.
* `Divided`: the lines on the pieces up to the first that is no text, and the pieces from there; `divided_of_cut` has
  it of all inputs.
-/

namespace ScriptLink

namespace Stream

open ScriptLink.Text (Utf8.encode Utf8.byteOf Utf8.decode?)

/-! ## Pieces -/

/-- The input is cut after each line feed, and nowhere else. -/
inductive Cut : List UInt8 → List (List UInt8) → Prop where
  | nil : Cut [] []
  /-- The end of the input, if there is no line feed in it. -/
  | last {piece : List UInt8} : piece ≠ [] → lineFeed ∉ piece → Cut piece [piece]
  | piece {line rest : List UInt8} {ps : List (List UInt8)} : lineFeed ∉ line → Cut rest ps →
      Cut (line ++ lineFeed :: rest) ((line ++ [lineFeed]) :: ps)

theorem pieces_of_not_mem {piece : List UInt8} (hne : piece ≠ []) (h : lineFeed ∉ piece) :
    pieces piece = [piece] := by
  induction piece with
  | nil => exact absurd rfl hne
  | cons b rest ih =>
    have hb : b ≠ lineFeed := fun hb => h (by simp [hb])
    have hrest : lineFeed ∉ rest := fun hl => h (by simp [hl])
    rw [pieces, if_neg hb]
    cases rest with
    | nil => rfl
    | cons c cs => rw [ih (by simp) hrest]

/-- An input is empty, or has no line feed, or begins with a line that is followed by one. -/
theorem input_cases (input : List UInt8) : input = [] ∨ (input ≠ [] ∧ lineFeed ∉ input) ∨
    ∃ line rest, input = line ++ lineFeed :: rest ∧ lineFeed ∉ line := by
  by_cases hm : lineFeed ∈ input
  · obtain ⟨line, rest, h, hline⟩ := List.eq_append_cons_of_mem hm
    exact .inr (.inr ⟨line, rest, h, hline⟩)
  · by_cases h : input = []
    · exact .inl h
    · exact .inr (.inl ⟨h, hm⟩)

theorem cut_pieces (input : List UInt8) : Cut input (pieces input) := by
  rcases input_cases input with rfl | ⟨hne, hm⟩ | ⟨line, rest, rfl, hline⟩
  · exact .nil
  · rw [pieces_of_not_mem hne hm]
    exact .last hne hm
  · rw [pieces_append hline]
    exact .piece hline (cut_pieces rest)
termination_by input.length
decreasing_by
  subst_vars
  simp
  omega

/-- There is one way to cut an input. -/
theorem cut_iff {input : List UInt8} {ps : List (List UInt8)} : Cut input ps ↔ ps = pieces input := by
  refine ⟨fun h => ?_, fun h => h ▸ cut_pieces input⟩
  induction h with
  | nil => rfl
  | last hne hm => rw [pieces_of_not_mem hne hm]
  | piece hline _ ih => rw [pieces_append hline, ih]

/-! ## The line on a piece -/

/-- The line on a piece is its text without the line feed at its end, and without one carriage return before that
line feed. -/
def OnPiece (piece : List UInt8) (line : String) : Prop :=
  piece = Utf8.encode line ++ [carriageReturn, lineFeed] ∨
  (piece = Utf8.encode line ++ [lineFeed] ∧ line.toList.getLast? ≠ some '\r') ∨
  (piece = Utf8.encode line ∧ lineFeed ∉ piece)

/-- A text without one line feed at its end, and without one carriage return before that. -/
def withoutFeed (text : String) : String :=
  if text.toList.getLast? = some '\n' then withoutReturn (String.ofList text.toList.dropLast) else text

/-- What a piece comes to. -/
def arrival (piece : List UInt8) : Except ChannelError String :=
  match Utf8.decode? piece with
  | some text => .ok (withoutFeed text)
  | none => .error invalid

theorem arrival_cases (piece : List UInt8) :
    (∃ text, piece = Utf8.encode text ∧ arrival piece = .ok (withoutFeed text)) ∨
      (∀ text, piece ≠ Utf8.encode text) ∧ arrival piece = .error invalid := by
  unfold arrival
  split
  · rename_i text hd
    exact .inl ⟨text, Text.Utf8.decode?_eq_some_iff.mp hd, rfl⟩
  · rename_i hd
    refine .inr ⟨?_, rfl⟩
    rintro text rfl
    rw [Text.Utf8.decode?_encode] at hd
    cases hd

theorem exists_append (last : String) {text : String} {c : Char} (hc : last.toList = [c])
    (h : text.toList.getLast? = some c) : ∃ front, text = front ++ last := by
  obtain ⟨cs, hcs⟩ := List.getLast?_eq_some_iff.mp h
  exact ⟨String.ofList cs, by rw [← String.toList_inj, hcs]; simp [hc]⟩

theorem withoutFeed_append (front : String) : withoutFeed (front ++ "\n") = withoutReturn front := by
  simp [withoutFeed]

theorem withoutReturn_append (front : String) : withoutReturn (front ++ "\r") = front := by
  simp [withoutReturn]

theorem encode_append_feed (front : String) : Utf8.encode (front ++ "\n") = Utf8.encode front ++ [lineFeed] := by
  rw [Text.Utf8.encode_append, Text.Utf8.encode_eq "\n"]
  rfl

theorem encode_append_return (front : String) :
    Utf8.encode (front ++ "\r") = Utf8.encode front ++ [carriageReturn] := by
  rw [Text.Utf8.encode_append, Text.Utf8.encode_eq "\r"]
  rfl

theorem getLast?_encode_feed_iff (text : String) :
    (Utf8.encode text).getLast? = some lineFeed ↔ text.toList.getLast? = some '\n' :=
  Text.Utf8.getLast?_encode_iff (a := '\n') (by decide) text

/-- The line of a text is on its bytes, if there is no line feed among them but at the end. -/
theorem onPiece_encode {text : String}
    (h : lineFeed ∈ Utf8.encode text → (Utf8.encode text).getLast? = some lineFeed) :
    OnPiece (Utf8.encode text) (withoutFeed text) := by
  by_cases hfeed : text.toList.getLast? = some '\n'
  · obtain ⟨front, rfl⟩ := exists_append "\n" rfl hfeed
    rw [withoutFeed_append, encode_append_feed]
    by_cases hreturn : front.toList.getLast? = some '\r'
    · obtain ⟨line, rfl⟩ := exists_append "\r" rfl hreturn
      rw [withoutReturn_append, encode_append_return, List.append_assoc]
      exact .inl rfl
    · rw [withoutReturn, if_neg hreturn]
      exact .inr (.inl ⟨rfl, hreturn⟩)
  · rw [withoutFeed, if_neg hfeed]
    exact .inr (.inr ⟨rfl, fun hm => hfeed ((getLast?_encode_feed_iff text).mp (h hm))⟩)

/-- The bytes of a text without its line feed are those of the text without theirs. -/
theorem lineOf_encode_text (text : String) : lineOf (Utf8.encode text) = Utf8.encode (withoutFeed text) := by
  by_cases hfeed : text.toList.getLast? = some '\n'
  · obtain ⟨front, rfl⟩ := exists_append "\n" rfl hfeed
    rw [encode_append_feed, lineOf_encode, withoutFeed_append]
  · rw [lineOf, if_neg (mt (getLast?_encode_feed_iff text).mp hfeed), withoutFeed, if_neg hfeed]

/-- What is no text does not become one without its line feed. -/
theorem exists_encode_of_lineOf {piece : List UInt8} {line : String} (h : lineOf piece = Utf8.encode line) :
    ∃ text, piece = Utf8.encode text := by
  by_cases hfeed : piece.getLast? = some lineFeed
  · obtain ⟨front, rfl⟩ := List.getLast?_eq_some_iff.mp hfeed
    rw [lineOf_concat_lineFeed] at h
    by_cases hreturn : front.getLast? = some carriageReturn
    · obtain ⟨body, rfl⟩ := List.getLast?_eq_some_iff.mp hreturn
      rw [if_pos hreturn, List.dropLast_concat] at h
      exact ⟨line ++ "\r" ++ "\n", by rw [encode_append_feed, encode_append_return, h]⟩
    · rw [if_neg hreturn] at h
      exact ⟨line ++ "\n", by rw [encode_append_feed, h]⟩
  · rw [lineOf, if_neg hfeed] at h
    exact ⟨line, h⟩

/-- An item and what arrives behind it: nothing does behind a failure. -/
def passed (item : Except ChannelError String) (rest : List (Except ChannelError String)) :
    List (Except ChannelError String) :=
  match item with
  | .ok line => .ok line :: rest
  | .error e => [.error e]

theorem arrivalsOf_cons (piece : List UInt8) (ps : List (List UInt8)) :
    arrivalsOf (piece :: ps) = passed (arrival piece) (arrivalsOf ps) := by
  rcases arrival_cases piece with ⟨text, rfl, ha⟩ | ⟨hbad, ha⟩
  · rw [arrivalsOf, lineOf_encode_text, Text.Utf8.decode?_encode, ha, passed]
  · have hnone : Utf8.decode? (lineOf piece) = none := by
      refine Option.eq_none_iff_forall_ne_some.mpr fun line hline => ?_
      obtain ⟨text, ht⟩ := exists_encode_of_lineOf (Text.Utf8.decode?_eq_some_iff.mp hline)
      exact hbad text ht
    rw [arrivalsOf, hnone, ha, passed]

/-- The failure where some pieces are left, of which the first is no text. -/
def failure? : List (List UInt8) → Option ChannelError
  | [] => none
  | _ :: _ => some invalid

/-- The pieces up to the first that is no text, with the lines on them, and the pieces from there. -/
structure Divided (ps good rest : List (List UInt8)) (lines : List String) : Prop where
  eq_append : ps = good ++ rest
  onPiece : List.Forall₂ OnPiece good lines
  no_text : ∀ bad ∈ rest.head?, ∀ text, bad ≠ Utf8.encode text
  arrivals : arrivalsOf ps = lines.map .ok ++ ((failure? rest).map .error).toList

theorem Divided.cons {ps good rest : List (List UInt8)} {lines : List String} (h : Divided ps good rest lines)
    {piece : List UInt8} (hshape : lineFeed ∈ piece → piece.getLast? = some lineFeed) :
    ∃ good' rest' lines', Divided (piece :: ps) good' rest' lines' := by
  have harrivals := arrivalsOf_cons piece ps
  rcases arrival_cases piece with ⟨text, rfl, ha⟩ | ⟨hbad, ha⟩
  · rw [ha, passed, h.arrivals] at harrivals
    exact ⟨_ :: good, rest, withoutFeed text :: lines, by rw [h.eq_append]; rfl,
      .cons (onPiece_encode hshape) h.onPiece, h.no_text, harrivals⟩
  · rw [ha] at harrivals
    refine ⟨[], piece :: ps, [], rfl, .nil, ?_, harrivals⟩
    rintro bad ⟨⟩
    exact hbad

theorem divided_of_cut {input : List UInt8} {ps : List (List UInt8)} (h : Cut input ps) :
    ∃ good rest lines, Divided ps good rest lines := by
  have hnil : Divided [] [] [] [] := ⟨rfl, .nil, nofun, rfl⟩
  induction h with
  | nil => exact ⟨[], [], [], hnil⟩
  | last _ hm => exact hnil.cons fun hmem => absurd hmem hm
  | piece _ _ ih =>
    obtain ⟨good, rest, lines, h⟩ := ih
    exact h.cons fun _ => List.getLast?_concat

end Stream

end ScriptLink
