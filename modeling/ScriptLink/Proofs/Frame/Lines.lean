import ScriptLink.Proofs.Frame.Reading

/-!
# ScriptLink.Proofs.Frame.Lines — which frame is on a line

* `kind_ofValue_iff`: JSON is a frame of a kind if and only if it names the kind and suits all its fields.
* `encode_decode`: a frame that was read from a line is read again from its own line.
* `decode_grammar`: so the grammar of JSON, the table of the fields and the name in `type` say which frame is
  on a line.
-/

namespace ScriptLink.Frame

open ScriptLink.Json (Document)

theorem ofMembers?_text (v : Value) : ofMembers? .text v = none := rfl

/-- JSON is a frame of a kind that has a meaning just if it is an object of that kind. -/
theorem kind_ofValue_iff {v : Value} {k : Kind} (hu : k ≠ .unknown) (ht : k ≠ .text) :
    (ofValue v).kind = k ↔ k.Names v := by
  refine ⟨?_, fun ⟨hname, hsuits⟩ => ?_⟩
  · rintro rfl
    obtain ⟨hname, hmembers⟩ := of_ofValue rfl hu
    exact ⟨hname, (exists_ofMembers?_iff ht).mp ⟨_, hmembers⟩⟩
  · obtain ⟨f, hf⟩ := (exists_ofMembers?_iff ht).mpr hsuits
    rw [ofValue_of_name hname, hf]
    exact kind_of_ofMembers? hf

/-- JSON is never taken for a line that is none. -/
theorem kind_ofValue_ne_text (v : Value) : (ofValue v).kind ≠ .text := by
  intro hk
  obtain ⟨-, hmembers⟩ := of_ofValue (v := v) rfl (by rw [hk]; decide)
  rw [hk, ofMembers?_text] at hmembers
  cases hmembers

theorem settled_ofValue (v : Value) : (ofValue v).settled = ofValue v := by
  obtain h | ⟨k, h⟩ := ofValue_cases v
  · rw [h]
    rfl
  · exact settled_of_ofMembers? h

theorem decode_of_document {line : String} {v : Value} (h : Document (withoutEnd line).toList v) :
    decode line = ofValue v := by
  rw [decode, Value.ofText?_eq_some_iff.mpr h]

theorem exists_document {line : String} (h : (decode line).kind ≠ .text) :
    ∃ v, Document (withoutEnd line).toList v := by
  unfold decode at h
  split at h
  · exact absurd rfl h
  · rename_i v hv
    exact ⟨v, Value.ofText?_eq_some_iff.mp hv⟩

/-- A frame that was read from a line is read again from its own line. -/
theorem encode_decode {line : String} (h : (decode line).kind ≠ .text) :
    decode (decode line).encode = decode line := by
  obtain ⟨v, hv⟩ := exists_document h
  have hv' := Value.ofText?_sorted (Value.ofText?_eq_some_iff.mpr hv)
  have hsorted : Value.SortedMembers (decode line).body := by
    rw [decode_of_document hv]
    refine Value.sortedMembers_iff.mpr ?_
    exact body_ofValue (Value.sorted_of_get? hv') trivial trivial trivial trivial
  rw [decode_encode_of_portable h (portable_decode line), canonical_of_sorted hsorted,
    decode_of_document hv, settled_ofValue]

/-- **Lines and frames**: a line without its end is text just if it is no JSON. JSON that names a kind and
suits the fields of that kind is a frame of the kind with the values of the line, in which a value that is
`null` and need not be there is left out. Any other is unknown, with the kind that it names or, if it
says itself to be unknown, with the one that it gives. All that is no text is read again from its own line. -/
theorem decode_grammar (line : String) :
    (decode line = .text (withoutEnd line) ↔ ¬∃ v, Document (withoutEnd line).toList v) ∧
    (∀ v, Document (withoutEnd line).toList v →
      (∀ k : Kind, k ≠ .unknown → k ≠ .text → ((decode line).kind = k ↔ k.Names v) ∧
        (k.Names v → (decode line).settled = decode line ∧
          ∀ p ∈ k.fields, (decode line).field p.name = p.value v)) ∧
      ((v.get? "type").getD .null = .str "unknown" →
        decode line = .unknown ((v.get? "receivedType").getD .null)) ∧
      ((v.get? "type").getD .null ≠ .str "unknown" →
          (∀ k : Kind, k ≠ .unknown → k ≠ .text → ¬k.Names v) →
        decode line = .unknown ((v.get? "type").getD .null))) ∧
    ((decode line).kind ≠ .text → decode (decode line).encode = decode line) := by
  refine ⟨⟨?_, fun h => ?_⟩, fun v hv => ?_, encode_decode⟩
  · rintro h ⟨v, hv⟩
    rw [decode_of_document hv] at h
    exact kind_ofValue_ne_text v (by rw [h]; rfl)
  · have hnone : Value.ofText? (withoutEnd line) = none :=
      Option.eq_none_iff_forall_ne_some.mpr fun v hv => h ⟨v, Value.ofText?_eq_some_iff.mp hv⟩
    rw [decode, hnone]
  · rw [decode_of_document hv]
    refine ⟨fun k hu ht => ⟨kind_ofValue_iff hu ht, fun hk => ⟨settled_ofValue v, ?_⟩⟩, fun ht => ?_,
      fun ht hnot => ?_⟩
    · obtain rfl := (kind_ofValue_iff hu ht).mpr hk
      exact field_of_ofMembers? (of_ofValue rfl hu).2
    · have hname : receivedType v = .str Kind.unknown.name := ht
      rw [ofValue_of_name hname]
      rfl
    · refine ofValue_eq_unknown fun k hname => ?_
      by_cases hu : k = .unknown
      · rw [hu] at hname
        exact absurd hname ht
      by_cases htext : k = .text
      · rw [htext, ofMembers?_text]
      · refine Option.eq_none_iff_forall_ne_some.mpr fun f hf => hnot k hu htext ⟨hname, ?_⟩
        exact (exists_ofMembers?_iff htext).mp ⟨f, hf⟩

/-- Of two kinds that a line names the last one counts, and a member that the kind does not have is
ignored. -/
theorem decode_grammar_pong :
    let line := "\x7b\"type\":\"ping\",\"seq\":null,\"x\":[],\"type\":\"pong\",\"at\":7\x7d\r\n"
    (decode line).kind = .pong ∧ (decode line).field "seq" = .null ∧ (decode line).field "at" = .ofNat 7 ∧
      decode (decode line).encode = decode line := by
  intro line
  have hend : (withoutEnd line).toList =
      "\x7b\"type\":\"ping\",\"seq\":null,\"x\":[],\"type\":\"pong\",\"at\":7\x7d".toList := by
    subst line
    decide +kernel
  have hdoc : Document (withoutEnd line).toList
      (.obj [("at", .ofNat 7), ("seq", .null), ("type", .str "pong"), ("x", .arr [])]) := by
    rw [hend, ← Value.readChars_eq_ok_iff, Value.readChars, Value.maxDepth_eq]
    rfl
  obtain ⟨-, hframe, hagain⟩ := decode_grammar line
  have hnames : Kind.pong.Names
      (.obj [("at", .ofNat 7), ("seq", .null), ("type", .str "pong"), ("x", .arr [])]) :=
    ⟨rfl, List.forall_mem_cons.mpr ⟨trivial, List.forall_mem_singleton.mpr ⟨7, by decide, rfl⟩⟩⟩
  obtain ⟨hkind, hfields⟩ := (hframe _ hdoc).1 .pong (by decide) (by decide)
  have hpong := hkind.mpr hnames
  obtain ⟨-, hvalues⟩ := hfields hnames
  exact ⟨hpong, hvalues _ List.mem_cons_self, hvalues _ (List.mem_cons_of_mem _ List.mem_cons_self),
    hagain (by rw [hpong]; decide)⟩

end ScriptLink.Frame
