import ScriptLink.Proofs.Text.Trim
import ScriptLink.Proofs.Url.Reading
import ScriptLink.Target.Resolve

/-!
# ScriptLink.Proofs.Target.Resolve — where the search for a target leads

* `Specifier t`: the text looks like a URL and has no white space around it. Every search takes such a text as it is
  (`resolve_specifier`), and none ends with any other (`specifier_of_resolve`): a file URL has no white space in it at
  all, since what it is made of is encoded.
* `resolve_of_first` and `resolve_of_none`: a relative target is the first of its candidates that is a file, and not
  found if none of them is.
-/

namespace ScriptLink

/-! ## Paths -/

namespace Path

theorem isAbsolute_append {base : String} (h : isAbsolute base = true) (p : String) :
    isAbsolute (base ++ p) = true := by
  unfold isAbsolute at h ⊢
  rw [beq_iff_eq] at h ⊢
  rw [String.toList_append, List.head?_append_of_ne_nil _ (by rintro he; rw [he] at h; cases h), h]

/-- What is seen from an absolute path is absolute. -/
theorem isAbsolute_join {base : String} (h : isAbsolute base = true) (p : String) :
    isAbsolute (join base p) = true := by
  unfold join
  split
  · assumption
  split
  · exact isAbsolute_append h p
  · rw [String.append_assoc]
    exact isAbsolute_append h _

end Path

namespace FileUrl

/-- Every absolute path has a URL. -/
theorem exists_ofPath? {path : String} (h : Path.isAbsolute path = true) : ∃ url, ofPath? path = some url := by
  unfold Path.isAbsolute at h
  rw [beq_iff_eq, List.head?_eq_some_iff] at h
  obtain ⟨cs, hcs⟩ := h
  unfold ofPath?
  rw [hcs]
  exact ⟨_, rfl⟩

/-! ## White space in URLs -/

/-- A path admits no white space. -/
theorem isBlank_of_not_pathSet {c : Char} (h : Url.pathSet c = false) : Text.isBlank c = false := by
  simp only [Url.pathSet, Url.fragmentSet, Url.controlSet, Bool.or_eq_false_iff, decide_eq_false_iff_not,
    beq_eq_false_iff_ne] at h
  have hspace : c.toNat ≠ 0x20 := fun he => h.1.1.1.1.1.1.1.1.2 (Char.toNat_inj.mp he)
  have hlow : ¬c.toNat < 0x20 := h.1.1.1.1.1.1.1.1.1.1
  have hhigh : ¬0x7E < c.toNat := h.1.1.1.1.1.1.1.1.1.2
  simp only [Text.isBlank, Bool.or_eq_false_iff, Bool.and_eq_false_iff, decide_eq_false_iff_not, beq_eq_false_iff_ne]
  omega

theorem isBlank_of_mem_ofPath? {path : String} {url : FileUrl} (h : ofPath? path = some url) :
    ∀ c ∈ url.text.toList, Text.isBlank c = false := by
  unfold ofPath? at h
  split at h
  · rename_i cs hcs
    cases h
    intro c hc
    rw [toList_text] at hc
    simp only [ending, Option.elim_none, List.nil_append, List.append_nil, List.mem_cons] at hc
    obtain rfl | rfl | rfl | rfl | rfl | rfl | rfl | rfl | hc := hc
    iterate 8 decide
    obtain rfl | ⟨part, hpart, hc⟩ := Url.Host.mem_intercalate hc
    · decide
    · obtain ⟨component, -, rfl⟩ := List.mem_map.mp hpart
      obtain hmark | ⟨-, hset⟩ := Url.mem_encodeBy hc
      · exact isBlank_of_not_pathSet (Url.plain_of_mem_marks hmark).1.1
      · simp only [Url.componentSet, Bool.or_eq_false_iff] at hset
        exact isBlank_of_not_pathSet hset.1.1.1
  · cases h

end FileUrl

/-! ## Specifiers -/

/-- The text looks like a URL and has no white space around it. -/
structure Specifier (t : String) : Prop where
  urlLike : isUrlLike t = true
  trimmed : Text.trim t = t

theorem Specifier.ne_empty {t : String} (h : Specifier t) : t ≠ "" := by
  rintro rfl
  exact absurd h.urlLike (by decide)

theorem Specifier.trimmed? {t : String} (h : Specifier t) : Text.trimmed? t = some t :=
  Text.trimmed?_of_trim h.trimmed h.ne_empty

theorem FileUrl.isUrlLike_text (url : FileUrl) : isUrlLike url.text = true := by
  refine List.any_eq_true.mpr ⟨"file://", List.mem_cons_self, ?_⟩
  rw [toList_text, List.isPrefixOf_iff_prefix]
  exact ⟨_, rfl⟩

/-- The URL of a path is a specifier. -/
theorem specifier_of_ofPath? {path : String} {url : FileUrl} (h : FileUrl.ofPath? path = some url) :
    Specifier url.text where
  urlLike := url.isUrlLike_text
  trimmed := by
    rw [Text.trim_eq_self_iff]
    have hblank := FileUrl.isBlank_of_mem_ofPath? h
    exact ⟨fun c hc => hblank c (List.mem_of_mem_head? hc), fun c hc => hblank c (List.mem_of_mem_getLast? hc)⟩

namespace TargetSearch

variable {s : TargetSearch} {fs : FileSystem} {raw target : String}

/-- Every search takes a specifier as it is. -/
theorem resolve_specifier (h : Specifier target) (s : TargetSearch) (fs : FileSystem) :
    s.resolve fs target = .ok target := by
  unfold resolve
  rw [h.trimmed?]
  exact if_pos h.urlLike

/-- A search ends with a specifier, whatever it began with. -/
theorem specifier_of_resolve {t : String} (h : s.resolve fs raw = .ok t) : Specifier t := by
  unfold resolve at h
  split at h
  · cases h
  rename_i target htrim
  split at h
  · rename_i hurl
    cases h
    exact ⟨hurl, Text.trim_of_trimmed? htrim⟩
  split at h
  · cases h
  split at h
  · rename_i url hpath
    cases h
    exact specifier_of_ofPath? hpath
  · cases h

section

variable (htrim : Text.trimmed? raw = some target) (hurl : isUrlLike target = false)
  (hrelative : Path.isAbsolute target = false)
include htrim hurl hrelative

/-- The first candidate of a relative target that is a file is taken. -/
theorem resolve_of_first {before after : List String} {path : String} {url : FileUrl}
    (hplaces : s.candidates target = before ++ path :: after) (hfile : fs.isFile path = true)
    (hbefore : ∀ p ∈ before, fs.isFile p = false) (hpath : FileUrl.ofPath? path = some url) :
    s.resolve fs raw = .ok url.text := by
  have hfirst : (s.candidates target).find? fs.isFile = some path :=
    List.find?_eq_some_iff_append.mpr ⟨hfile, before, after, hplaces, fun p hp => by rw [hbefore p hp]; rfl⟩
  have hlocate : s.locate fs target = .ok path := by
    unfold locate
    rw [hrelative, hfirst]
    rfl
  unfold resolve
  simp only [htrim, hurl, hlocate, hpath]
  rfl

/-- A relative target of whose candidates none is a file is not found. -/
theorem resolve_of_none (hnone : ∀ p ∈ s.candidates target, fs.isFile p = false) :
    s.resolve fs raw = .error (.notFound target (s.candidates target)) := by
  have hfind : (s.candidates target).find? fs.isFile = none :=
    List.find?_eq_none.mpr fun p hp => by rw [hnone p hp]; exact Bool.false_ne_true
  have hlocate : s.locate fs target = .error (.notFound target (s.candidates target)) := by
    unfold locate
    rw [hrelative, hfind]
    rfl
  unfold resolve
  simp only [htrim, hurl, hlocate]
  rfl

end

end TargetSearch

end ScriptLink
