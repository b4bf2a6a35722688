import ScriptLink.Config.Basic
import ScriptLink.Proofs.Text.Trim

/-!
# ScriptLink.Proofs.Config.Segments — when the segments of a configuration are clean

An item loses white space at its ends and then slashes. White space behind those slashes is not looked at again, so it
stands at an end of the segment.

* `Exposed` says so of an item; its segment then begins or ends with white space, and no other does (`exposed_iff`).
* `cleanSegment_eq_self_iff`: cleaning changes nothing if and only if there is nothing to clean.
* `segments_clean`: all segments are clean, and are found again in the list of them, if and only if no item is exposed.
-/

namespace ScriptLink.Config

open ScriptLink.Text (isBlank stripBy Free)

def isSlash (c : Char) : Bool := c == '/'

/-- There is something in the segment, and it neither begins nor ends with white space or a slash. -/
def Clean (segment : String) : Prop :=
  segment ≠ "" ∧ Free isBlank segment.toList ∧ Free isSlash segment.toList

/-- White space stands behind slashes in front, or before slashes at the end. -/
def Exposed (item : String) : Prop :=
  ∃ n c rest, isBlank c = true ∧ ((Text.trim item).toList = List.replicate (n + 1) '/' ++ c :: rest ∨
    (Text.trim item).toList = rest ++ c :: List.replicate (n + 1) '/')

/-! ## One segment -/

theorem toList_cleanSegment (item : String) :
    (cleanSegment item).toList = stripBy isSlash (stripBy isBlank item.toList) := by
  rw [cleanSegment, String.toList_ofList, Text.toList_trim]
  rfl

theorem mem_of_mem_cleanSegment {item : String} {c : Char} (h : c ∈ (cleanSegment item).toList) :
    c ∈ item.toList := by
  rw [toList_cleanSegment] at h
  exact Text.mem_of_mem_stripBy (Text.mem_of_mem_stripBy h)

theorem free_cleanSegment (item : String) : Free isSlash (cleanSegment item).toList := by
  rw [toList_cleanSegment]
  exact Text.free_stripBy _ _

theorem exists_replicate {cs : List Char} (h : ∀ c ∈ cs, isSlash c = true) (hne : cs ≠ []) :
    ∃ n, cs = List.replicate (n + 1) '/' := by
  obtain ⟨n, hn⟩ := Nat.exists_eq_succ_of_ne_zero (mt List.eq_nil_of_length_eq_zero hne)
  refine ⟨n, ?_⟩
  rw [← Nat.succ_eq_add_one, ← hn]
  exact List.eq_replicate_of_mem fun c hc => beq_iff_eq.mp (h c hc)

/-- A segment begins or ends with white space just if its item is exposed. -/
theorem exposed_iff (item : String) : Exposed item ↔ ¬Free isBlank (cleanSegment item).toList := by
  unfold Exposed
  rw [toList_cleanSegment, Text.toList_trim]
  obtain ⟨hhead, hlast⟩ := Text.free_stripBy isBlank item.toList
  generalize stripBy isBlank item.toList = cs at hhead hlast
  constructor
  · rintro ⟨n, c, rest, hc, hcs⟩ ⟨hfirst, hfinal⟩
    have hslash : isSlash c = false := by
      refine beq_eq_false_iff_ne.mpr ?_
      rintro rfl
      exact absurd hc (by decide)
    have hall : ∀ d ∈ List.replicate (n + 1) '/', isSlash d = true := by simp [isSlash]
    obtain rfl | rfl := hcs <;> rw [Text.stripBy_append_cons hslash] at hfirst hfinal
    · rw [List.dropWhile_eq_nil_iff.mpr hall] at hfirst
      exact Bool.false_ne_true ((hfirst c rfl).symm.trans hc)
    · have hend : Text.stripEndBy isSlash (List.replicate (n + 1) '/') = [] := List.rdropWhile_eq_nil_iff.mpr hall
      rw [hend, List.getLast?_concat] at hfinal
      exact Bool.false_ne_true ((hfinal c rfl).symm.trans hc)
  · intro hnot
    obtain ⟨front, back, hfront, hback, hcs⟩ := Text.exists_stripBy isSlash cs
    generalize stripBy isSlash cs = segment at hnot hcs
    by_contra hexposed
    -- white space at an end of the segment is behind slashes, for the item has none at its own ends
    refine hnot ⟨fun c hc => Bool.eq_false_iff.mpr fun hblank => ?_,
      fun c hc => Bool.eq_false_iff.mpr fun hblank => ?_⟩
    · obtain ⟨more, rfl⟩ := List.head?_eq_some_iff.mp hc
      cases front with
      | nil => exact Bool.false_ne_true ((hhead c (by rw [hcs]; rfl)).symm.trans hblank)
      | cons d front =>
        obtain ⟨n, hn⟩ := exists_replicate hfront (List.cons_ne_nil d front)
        exact hexposed ⟨n, c, more ++ back, hblank, .inl (by rw [hcs, hn]; rfl)⟩
    · obtain ⟨before, rfl⟩ := List.getLast?_eq_some_iff.mp hc
      cases back with
      | nil => exact Bool.false_ne_true ((hlast c (by rw [hcs]; simp)).symm.trans hblank)
      | cons d back =>
        obtain ⟨n, hn⟩ := exists_replicate hback (List.cons_ne_nil d back)
        exact hexposed ⟨n, c, front ++ before, hblank, .inr (by rw [hcs, hn]; simp)⟩

/-- Cleaning changes nothing just if there is nothing to clean. -/
theorem cleanSegment_eq_self_iff {s : String} :
    cleanSegment s = s ↔ Free isBlank s.toList ∧ Free isSlash s.toList := by
  rw [← String.toList_inj, toList_cleanSegment]
  constructor
  · intro h
    obtain ⟨front, back, -, -, hslash⟩ := Text.exists_stripBy isSlash (stripBy isBlank s.toList)
    obtain ⟨front', back', -, -, hs⟩ := Text.exists_stripBy isBlank s.toList
    -- nothing was taken away before the slashes, for the text is as long as after them
    have hlength := congrArg List.length hs
    have hlength' := congrArg List.length hslash
    rw [h] at hlength'
    simp only [List.length_append] at hlength hlength'
    have hblank : stripBy isBlank s.toList = s.toList := by
      rw [List.eq_nil_of_length_eq_zero (show front'.length = 0 by omega),
        List.eq_nil_of_length_eq_zero (show back'.length = 0 by omega), List.append_nil] at hs
      exact hs.symm
    rw [hblank] at h
    exact ⟨Text.stripBy_eq_self_iff.mp hblank, Text.stripBy_eq_self_iff.mp h⟩
  · rintro ⟨hblank, hslash⟩
    rw [Text.stripBy_eq_self_iff.mpr hblank, Text.stripBy_eq_self_iff.mpr hslash]

/-! ## All segments -/

theorem mem_splitList {clean : String → String} {text : Option String} {s : String} :
    s ∈ splitList clean text ↔ s ≠ "" ∧ ∃ t ∈ text, ∃ item ∈ Text.split ',' t, clean item = s := by
  cases text with
  | none => simp [splitList]
  | some t => simp [splitList, and_comm]

/-- Texts that are not empty are found again in the list of them just if cleaning changes none of them. -/
theorem splitList_intercalate {clean : String → String} (hclean : clean "" = "") {texts : List String}
    (hne : ∀ s ∈ texts, s ≠ "") (hcomma : ∀ s ∈ texts, ',' ∉ s.toList) :
    splitList clean (some (",".intercalate texts)) = texts ↔ ∀ s ∈ texts, clean s = s := by
  cases texts with
  | nil => simp [splitList, Text.split, hclean]
  | cons first rest =>
    have hsplit : Text.split ',' (",".intercalate (first :: rest)) = first :: rest :=
      Text.split_intercalate hcomma (List.cons_ne_nil first rest)
    rw [splitList, hsplit]
    generalize first :: rest = texts at *
    constructor
    · intro h
      have hall : (texts.map clean).filter (· ≠ "") = texts.map clean :=
        List.filter_sublist.eq_of_length (by rw [h, List.length_map])
      rw [hall] at h
      exact List.map_inj_left.mp (h.trans (List.map_id texts).symm)
    · intro h
      rw [List.map_congr_left h, List.map_id', List.filter_eq_self]
      exact fun s hs => decide_eq_true (hne s hs)

/-- **Clean segments**: the segments of a configuration are not empty and neither begin nor end with a slash. All of
them are clean if and only if no item of the text has white space behind slashes at an end, and exactly then the same
segments are found again in the list of them. -/
theorem segments_clean (c : Config) :
    let segments := c.fallbackSegments
    let again := ({ c with segments := some (",".intercalate segments) } : Config).fallbackSegments
    let tidy := ∀ text ∈ c.segments, ∀ item ∈ Text.split ',' text, ¬Exposed item
    (∀ s ∈ segments, s ≠ "" ∧ Free isSlash s.toList) ∧ ((∀ s ∈ segments, Clean s) ↔ tidy) ∧
      (again = segments ↔ tidy) := by
  intro segments again tidy
  have hmem {s : String} : s ∈ segments ↔
      s ≠ "" ∧ ∃ text ∈ c.segments, ∃ item ∈ Text.split ',' text, cleanSegment item = s := mem_splitList
  have hslash : ∀ s ∈ segments, s ≠ "" ∧ Free isSlash s.toList := by
    intro s hs
    obtain ⟨hne, _, _, item, _, rfl⟩ := hmem.mp hs
    exact ⟨hne, free_cleanSegment item⟩
  have hcomma : ∀ s ∈ segments, ',' ∉ s.toList := by
    intro s hs hc
    obtain ⟨-, _, _, item, hitem, rfl⟩ := hmem.mp hs
    exact Text.not_mem_of_mem_split hitem (mem_of_mem_cleanSegment hc)
  have htidy : (∀ s ∈ segments, Free isBlank s.toList) ↔ tidy := by
    refine ⟨fun h text ht item hitem hexposed => ?_, fun h s hs => ?_⟩
    · have hbare := (exposed_iff item).mp hexposed
      have hne : cleanSegment item ≠ "" := fun he => hbare (by rw [he]; exact Text.free_nil isBlank)
      exact hbare (h _ (hmem.mpr ⟨hne, text, ht, item, hitem, rfl⟩))
    · obtain ⟨-, text, ht, item, hitem, rfl⟩ := hmem.mp hs
      exact not_not.mp (mt (exposed_iff item).mpr (h text ht item hitem))
  refine ⟨hslash, ?_, ?_⟩
  · rw [← htidy]
    exact forall₂_congr fun s hs => ⟨fun h => h.2.1, fun h => ⟨(hslash s hs).1, h, (hslash s hs).2⟩⟩
  · have hagain : again = segments ↔ ∀ s ∈ segments, cleanSegment s = s :=
      splitList_intercalate rfl (fun s hs => (hslash s hs).1) hcomma
    rw [hagain, ← htidy]
    exact forall₂_congr fun s hs =>
      cleanSegment_eq_self_iff.trans ⟨fun h => h.1, fun h => ⟨h, (hslash s hs).2⟩⟩

/-- White space and slashes are gone and a blank item is left out, if no white space is behind slashes. -/
theorem segments_clean_scripts :
    let c : Config := { Config.empty with segments := some " embed/ , ,/scripts " }
    c.fallbackSegments = ["embed", "scripts"] ∧ ∀ s ∈ c.fallbackSegments, Clean s := by
  intro c
  obtain ⟨-, hclean, hagain⟩ := segments_clean c
  exact ⟨by decide +kernel, hclean.mpr (hagain.mp (by decide +kernel))⟩

/-- White space behind a slash stays, and what is read again is another list. -/
theorem segments_exposed :
    let c : Config := { Config.empty with segments := some "/ embed,/ /" }
    c.fallbackSegments = [" embed", " "] ∧
      ({ c with segments := some (",".intercalate c.fallbackSegments) } : Config).fallbackSegments = ["embed"] := by
  decide +kernel

end ScriptLink.Config
