import ScriptLink.Channel.Stream
import ScriptLink.Proofs.Text.Utf8

/-!
# ScriptLink.Proofs.Channel.Stream — what reading a text gives

* `pieces_append`: a piece ends at its line feed, whatever comes behind it.
* `terminated` is the text of lines each of which is followed by a line feed. `arrivals_terminated`: reading
  it gives the lines in order, each without one carriage return at its end, and nothing else.
-/

namespace ScriptLink.Stream

open ScriptLink.Text (Utf8.encode Utf8.byteOf)

/-! ## Pieces -/

/-- A piece ends at its line feed. -/
theorem pieces_append {line : List UInt8} (h : lineFeed ∉ line) (rest : List UInt8) :
    pieces (line ++ lineFeed :: rest) = (line ++ [lineFeed]) :: pieces rest := by
  induction line with
  | nil => rw [List.nil_append, pieces, if_pos rfl, List.nil_append]
  | cons b line ih =>
    have hb : b ≠ lineFeed := fun hb => h (by simp [hb])
    have hline : lineFeed ∉ line := fun hl => h (by simp [hl])
    rw [List.cons_append, pieces, if_neg hb, ih hline, List.cons_append]

theorem lineOf_concat_lineFeed (line : List UInt8) :
    lineOf (line ++ [lineFeed]) =
      if line.getLast? = some carriageReturn then line.dropLast else line := by
  unfold lineOf
  rw [List.getLast?_concat, if_pos rfl]
  simp only [List.dropLast_concat]

/-! ## Lines -/

/-- A line without one carriage return at its end. -/
def withoutReturn (line : String) : String :=
  if line.toList.getLast? = some '\r' then String.ofList line.toList.dropLast else line

/-- Lines with a line feed behind each. -/
def terminated (lines : List String) : List UInt8 :=
  Utf8.encode (String.join (lines.map (· ++ "\n")))

theorem terminated_cons (line : String) (rest : List String) :
    terminated (line :: rest) = Utf8.encode line ++ lineFeed :: terminated rest := by
  have hfeed : Utf8.encode "\n" = [lineFeed] := by
    rw [Text.Utf8.encode_eq]
    rfl
  unfold terminated
  rw [List.map_cons, String.join_cons, Text.Utf8.encode_append, Text.Utf8.encode_append, hfeed,
    List.append_assoc, List.singleton_append]

/-- The bytes of a line are those of the line without its carriage return. -/
theorem lineOf_encode (line : String) :
    lineOf (Utf8.encode line ++ [lineFeed]) = Utf8.encode (withoutReturn line) := by
  have hascii : '\r'.toNat ≤ 127 := by decide
  have hlast := Text.Utf8.getLast?_encode_iff hascii line
  have hbyte : carriageReturn = Utf8.byteOf '\r' := rfl
  rw [lineOf_concat_lineFeed, hbyte]
  unfold withoutReturn
  by_cases h : line.toList.getLast? = some '\r'
  · obtain ⟨cs, hcs⟩ := List.getLast?_eq_some_iff.mp h
    have hline : line = String.ofList (cs ++ ['\r']) := by rw [← hcs, String.ofList_toList]
    rw [if_pos (hlast.mpr h), if_pos h, hcs, List.dropLast_concat]
    rw [hline, Text.Utf8.encode_ofList_concat hascii, List.dropLast_concat]
  · rw [if_neg (mt hlast.mp h), if_neg h]

/-- Reading lines that are followed by line feeds gives these lines. -/
theorem arrivals_terminated {lines : List String} (h : ∀ line ∈ lines, '\n' ∉ line.toList) :
    arrivals (terminated lines) = (lines.map withoutReturn).map .ok := by
  induction lines with
  | nil =>
    have hnil : terminated [] = [] := by
      rw [terminated, Text.Utf8.encode_eq]
      rfl
    rw [hnil]
    rfl
  | cons line rest ih =>
    have hfeed : lineFeed ∉ Utf8.encode line := by
      intro hm
      exact h line List.mem_cons_self ((Text.Utf8.mem_encode_iff (a := '\n') (by decide) line).mp hm)
    unfold arrivals at ih ⊢
    rw [terminated_cons, pieces_append hfeed, arrivalsOf, lineOf_encode, Text.Utf8.decode?_encode,
      ih fun l hl => h l (List.mem_cons_of_mem _ hl), List.map_cons, List.map_cons]

end ScriptLink.Stream
