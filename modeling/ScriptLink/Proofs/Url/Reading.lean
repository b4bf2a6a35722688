import ScriptLink.Proofs.Url.Host
import ScriptLink.Proofs.Url.Path

/-!
# ScriptLink.Proofs.Url.Reading — what a URL that was read is like

* `FileUrl.Sound` says so: its path is that of its directories and its last component, all of them parts, and the rest
  is written in characters that stand where they do. `sound_parse` has it of every URL that was read.
* `Sound.length_path`: reading what a sound URL is written as gives a path of the same length.
-/

namespace ScriptLink.FileUrl

open Url

/-- What reading makes of a text. -/
structure Sound (u : FileUrl) : Prop where
  path : u.path = pathOf u.directories u.fileName
  parts : ∀ d ∈ u.directories, Part d
  name : Part u.fileName
  first : u.directories.head? ≠ some []
  host : ∀ c ∈ u.host, Host.Solid c
  query : ∀ c ∈ u.query.getD [], querySet c = false
  fragment : ∀ c ∈ u.fragment.getD [], fragmentSet c = false

section

variable {u : FileUrl} {ds : List (List Char)} {f : List Char}

theorem fileName_of_path (hpath : u.path = pathOf ds f) (hf : '/' ∉ f) : u.fileName = f := by
  rw [fileName, hpath, afterLastSlash_pathOf ds hf]

theorem directories_of_path (hpath : u.path = pathOf ds f) (hds : ∀ d ∈ ds, '/' ∉ d) (hf : '/' ∉ f) :
    u.directories = ds := by
  rw [directories, hpath, pathOf]
  exact (congrArg List.dropLast (splitOn_slashed hds hf)).trans List.dropLast_concat

theorem sound_of_path (hpath : u.path = pathOf ds f) (hds : ∀ d ∈ ds, Part d) (hf : Part f)
    (hfirst : ds.head? ≠ some []) (hhost : ∀ c ∈ u.host, Host.Solid c)
    (hquery : ∀ c ∈ u.query.getD [], querySet c = false)
    (hfragment : ∀ c ∈ u.fragment.getD [], fragmentSet c = false) : u.Sound := by
  have hdirs := directories_of_path hpath (fun d hd => (hds d hd).slash) hf.slash
  have hname := fileName_of_path hpath hf.slash
  exact ⟨by rw [hdirs, hname, hpath], by rwa [hdirs], by rwa [hname], by rwa [hdirs], hhost, hquery, hfragment⟩

end

/-! ## Reading -/

theorem query_tails (cs : List Char) : ∀ c ∈ (tails cs).1.getD [], querySet c = false := by
  intro c hc
  unfold tails at hc
  dsimp only at hc
  split at hc
  · exact set_of_mem_encodeBy (fun _ hx => (plain_of_mem_marks hx).2.1) hc
  · cases hc

theorem fragment_tails (cs : List Char) : ∀ c ∈ (tails cs).2.getD [], fragmentSet c = false := by
  intro c hc
  unfold tails at hc
  dsimp only at hc
  split at hc
  all_goals
    dsimp only at hc
    split at hc
    · exact set_of_mem_encodeBy (fun _ hx => (plain_of_mem_marks hx).2.2) hc
    · cases hc

theorem sound_build {host start cs : List Char} (hhost : ∀ c ∈ host, Host.Solid c)
    (hpath : ∃ ds f, (parsePath (cs.length + 1) start cs).1 = pathOf ds f ∧ (∀ d ∈ ds, Part d) ∧ Part f) :
    (build host start cs).Sound := by
  obtain ⟨ds, f, he, hds, hf⟩ := hpath
  have hslash : ∀ d ∈ ds, '/' ∉ d := fun d hd => (hds d hd).slash
  have hmem : ∀ d ∈ ds.dropWhile List.isEmpty, d ∈ ds := fun d hd => (List.dropWhile_sublist _).subset hd
  have hbuilt : (build host start cs).path = pathOf (ds.dropWhile List.isEmpty) f := by
    rw [← rooted_pathOf hslash hf.slash, ← he]
    rfl
  refine sound_of_path hbuilt (fun d hd => hds d (hmem d hd)) hf ?_ (fun c hc => ?_) (query_tails _) (fragment_tails _)
  · intro hnil
    have hfirst := List.head?_dropWhile_not List.isEmpty ds
    rw [hnil] at hfirst
    cases hfirst
  · change c ∈ (if onDrive (parsePath (cs.length + 1) start cs).1 then [] else host) at hc
    split at hc
    · cases hc
    · exact hhost c hc

theorem sound_build_root {host : List Char} (hhost : ∀ c ∈ host, Host.Solid c) (cs : List Char) :
    (build host ['/'] cs).Sound := by
  have hnone : ∀ q ∈ ([] : List (List Char)), Part q := fun _ h => nomatch h
  exact sound_build hhost (parsePath_regular _ hnone cs)

theorem sound_build_local (cs : List Char) : (build [] ['/'] cs).Sound := by
  have hempty : ∀ c ∈ ([] : List Char), Host.Solid c := fun _ h => nomatch h
  exact sound_build_root hempty cs

/-- A path that begins with a slash is read below the root. -/
theorem sound_build_slash {a : Char} (ha : isSlash a = true) (cs : List Char) : (build [] [] (a :: cs)).Sound := by
  have hnone : ∀ q ∈ ([] : List (List Char)), Part q := fun _ h => nomatch h
  refine sound_build (fun _ h => nomatch h) ?_
  have hroot : parsePath ((a :: cs).length + 1) [] (a :: cs) = parsePath (cs.length + 1) ('/' :: slashed []) cs := by
    have hslash : a = '/' ∨ a = '\\' := by simpa [isSlash] using ha
    rcases hslash with rfl | rfl <;> rfl
  rw [hroot]
  exact parsePath_regular _ hnone cs

theorem sound_withHost? {cs : List Char} {u : FileUrl} (h : withHost? cs = some u) : u.Sound := by
  unfold withHost? at h
  dsimp only at h
  split at h
  · obtain rfl := Option.some.inj h
    exact sound_build_local cs
  · obtain ⟨host, hhost, h⟩ := Option.bind_eq_some_iff.mp h
    have hsolid := Host.forall_mem_serialize? hhost
    split at h
    · obtain rfl := Option.some.inj h
      exact sound_build_local _
    · split at h <;>
      · obtain rfl := Option.some.inj h
        exact sound_build_root hsolid _

/-- Every URL that was read is sound. -/
theorem sound_parse {s : String} {u : FileUrl} (h : parse? s = some u) : u.Sound := by
  unfold parse? at h
  obtain ⟨cs, -, h⟩ := Option.bind_eq_some_iff.mp h
  match cs, h with
  | a :: b :: rest, h =>
    dsimp only at h
    split at h
    case isTrue => exact sound_withHost? h
    case isFalse =>
      split at h
      case isTrue ha =>
        obtain rfl := Option.some.inj h
        exact sound_build_slash ha _
      case isFalse =>
        obtain rfl := Option.some.inj h
        exact sound_build_local _
  | [a], h =>
    dsimp only at h
    split at h
    case isTrue ha =>
      obtain rfl := Option.some.inj h
      exact sound_build_slash ha _
    case isFalse =>
      obtain rfl := Option.some.inj h
      exact sound_build_local _
  | [], h =>
    obtain rfl := Option.some.inj h
    exact sound_build_local _

/-! ## Reading what was written -/

theorem cleaned_eq_self {cs : List Char} (h : ∀ c ∈ cs, 0x20 < c.toNat) : cleaned cs = cs := by
  have hstrip (ds : List Char) (hds : ∀ c ∈ ds, 0x20 < c.toNat) : ds.dropWhile (·.toNat ≤ 0x20) = ds := by
    cases ds with
    | nil => rfl
    | cons c ds => exact List.dropWhile_cons_of_neg (by simpa using hds c List.mem_cons_self)
  rw [cleaned, Text.stripBy, hstrip cs h, Text.stripEndBy, hstrip _ (by simpa using h), List.reverse_reverse,
    List.filter_eq_self]
  intro c hc
  have hlt := h c hc
  simp only [Bool.and_eq_true, bne_iff_ne]
  refine ⟨⟨?_, ?_⟩, ?_⟩ <;> rintro rfl <;> exact absurd hlt (by decide)

/-- What no place in a URL admits. -/
theorem lt_of_not_controlSet {c : Char} (h : controlSet c = false) (hs : c ≠ ' ') : 0x20 < c.toNat := by
  have hne : c.toNat ≠ 0x20 := fun he => hs (Char.toNat_inj.mp he)
  simp only [controlSet, Bool.or_eq_false_iff, decide_eq_false_iff_not] at h
  omega

theorem lt_of_not_querySet {c : Char} (h : querySet c = false) : 0x20 < c.toNat := by
  simp only [querySet, Bool.or_eq_false_iff, beq_eq_false_iff_ne] at h
  exact lt_of_not_controlSet h.1.1.1.1.1.1 h.1.1.1.1.1.2

theorem lt_of_not_fragmentSet {c : Char} (h : fragmentSet c = false) : 0x20 < c.toNat := by
  simp only [fragmentSet, Bool.or_eq_false_iff, beq_eq_false_iff_ne] at h
  exact lt_of_not_controlSet h.1.1.1.1.1 h.1.1.1.1.2

theorem Part.lt {cs : List Char} (h : Part cs) : ∀ c ∈ cs, 0x20 < c.toNat := by
  intro c hc
  have hset := (h.plain c hc).1
  simp only [pathSet, Bool.or_eq_false_iff] at hset
  exact lt_of_not_fragmentSet hset.1.1.1.1

/-- The text after the path of a URL. -/
def ending (u : FileUrl) : List Char := u.query.elim [] ('?' :: ·) ++ u.fragment.elim [] ('#' :: ·)

theorem toList_text (u : FileUrl) : u.text.toList =
    'f' :: 'i' :: 'l' :: 'e' :: ':' :: '/' :: '/' :: (u.host ++ (u.path ++ u.ending)) := by
  unfold text
  refine String.toList_ofList.trans ?_
  rw [List.append_assoc, List.append_assoc, List.append_assoc, ending]
  cases u.query <;> cases u.fragment <;> rfl

theorem head?_ending (u : FileUrl) : ∀ c ∈ u.ending.head?, c = '?' ∨ c = '#' := by
  obtain ⟨host, path, query, fragment⟩ := u
  cases query <;> cases fragment <;> simp [ending]

theorem mem_slashed {ds : List (List Char)} {c : Char} (h : c ∈ slashed ds) : c = '/' ∨ ∃ d ∈ ds, c ∈ d := by
  obtain ⟨d, hd, hc⟩ := List.mem_flatMap.mp h
  rcases List.mem_append.mp hc with hc | hc
  · exact .inr ⟨d, hd, hc⟩
  · exact .inl (List.mem_singleton.mp hc)

variable {v : FileUrl}

theorem Sound.lt_path (hv : v.Sound) : ∀ c ∈ v.path, 0x20 < c.toNat := by
  intro c hc
  rw [hv.path, pathOf, List.mem_cons, List.mem_append] at hc
  rcases hc with rfl | hc | hc
  · decide
  · rcases mem_slashed hc with rfl | ⟨d, hd, hc⟩
    · decide
    · exact (hv.parts d hd).lt c hc
  · exact hv.name.lt c hc

theorem Sound.lt_ending (hv : v.Sound) : ∀ c ∈ v.ending, 0x20 < c.toNat := by
  have hquery := hv.query
  have hfragment := hv.fragment
  have helim (mark : Char) (hm : 0x20 < mark.toNat) (part : Option (List Char))
      (hpart : ∀ c ∈ part.getD [], 0x20 < c.toNat) : ∀ c ∈ part.elim [] (mark :: ·), 0x20 < c.toNat := by
    cases part with
    | none => exact fun _ h => nomatch h
    | some cs => exact List.forall_mem_cons.mpr ⟨hm, hpart⟩
  intro c hc
  rcases List.mem_append.mp hc with hc | hc
  · exact helim '?' (by decide) v.query (fun c hc => lt_of_not_querySet (hquery c hc)) c hc
  · exact helim '#' (by decide) v.fragment (fun c hc => lt_of_not_fragmentSet (hfragment c hc)) c hc

theorem afterScheme?_file (cs : List Char) : afterScheme? ('f' :: 'i' :: 'l' :: 'e' :: ':' :: cs) = some cs := by
  simp [afterScheme?]

/-- What a sound URL is written as is read from its host on. -/
theorem Sound.parse?_text (hv : v.Sound) : parse? v.text = withHost? (v.host ++ (v.path ++ v.ending)) := by
  have hclean : cleaned v.text.toList = v.text.toList := by
    refine cleaned_eq_self fun c hc => ?_
    rw [toList_text] at hc
    simp only [List.mem_cons, List.mem_append] at hc
    rcases hc with rfl | rfl | rfl | rfl | rfl | rfl | rfl | hc | hc | hc
    · decide
    · decide
    · decide
    · decide
    · decide
    · decide
    · decide
    · exact (hv.host c hc).1
    · exact hv.lt_path c hc
    · exact hv.lt_ending c hc
  rw [parse?, hclean, toList_text, afterScheme?_file]
  rfl

theorem length_le_slashed (ds : List (List Char)) : ds.length ≤ (slashed ds).length := by
  induction ds with
  | nil => exact Nat.le_refl 0
  | cons d ds ih =>
    rw [slashed_cons, List.length_cons, List.length_append, List.length_cons]
    omega

/-- The directories of a sound path and its last component do not begin with a slash. -/
theorem Sound.head?_ne (hv : v.Sound) : (slashed v.directories ++ v.fileName).head? ≠ some '/' := by
  intro h
  cases hds : v.directories with
  | nil =>
    rw [hds, slashed_nil, List.nil_append] at h
    exact hv.name.slash (List.mem_of_mem_head? h)
  | cons d ds =>
    rw [hds, slashed_cons] at h
    cases d with
    | nil => exact hv.first (by rw [hds]; rfl)
    | cons c d =>
      have hd : '/' ∉ c :: d := (hv.parts _ (by rw [hds]; exact List.mem_cons_self)).slash
      exact hd (by rw [Option.some.inj h]; exact List.mem_cons_self)

theorem rooted_cons {x : List Char} (h : x.head? ≠ some '/') : rooted ('/' :: x) = '/' :: x := by
  rw [rooted, List.dropWhile_cons_of_pos rfl]
  cases x with
  | nil => rfl
  | cons c x => rw [List.dropWhile_cons_of_neg (by simpa using h)]

/-- Where the path of a sound URL is written, a path of the same length is read, whether the slash in front of it was
read before or not. -/
theorem Sound.length_build (hv : v.Sound) (host : List Char) :
    (build host ['/'] (v.path.tail ++ v.ending)).path.length = v.path.length ∧
    (build host ['/'] (v.path ++ v.ending)).path.length = v.path.length := by
  have hdirs := length_le_slashed v.directories
  have htail : v.path.tail ++ v.ending = slashed v.directories ++ (v.fileName ++ v.ending) := by
    rw [hv.path, pathOf, List.tail_cons, List.append_assoc]
  have hpath : v.path ++ v.ending = [] ++ '/' :: (v.path.tail ++ v.ending) := by
    rw [hv.path]
    rfl
  have hfuel : v.directories.length < (v.path.tail ++ v.ending).length + 1 := by
    rw [htail, List.length_append]
    omega
  have hread (path : List Char) := parsePath_parts hv.parts hv.name (head?_ending v) path _ hfuel
  have hlength {x : List Char} (hlen : x.length = (slashed v.directories ++ v.fileName).length)
      (hhead : x.head? = (slashed v.directories ++ v.fileName).head?) : (rooted ('/' :: x)).length = v.path.length := by
    rw [rooted_cons (hhead ▸ hv.head?_ne), List.length_cons, hlen, hv.path, pathOf, List.length_cons]
  constructor
  · obtain ⟨x, hx, hlen, hhead⟩ := hread ['/']
    rw [← htail] at hx
    rw [build, hx]
    exact hlength hlen hhead
  · -- the slash in front of the path ends an empty first segment, which `rooted` takes away again
    obtain ⟨x, hx, hlen, hhead⟩ := hread ['/', '/']
    rw [← htail] at hx
    have hslash : parsePath ((v.path ++ v.ending).length + 1) ['/'] (v.path ++ v.ending) =
        (['/', '/'] ++ x, v.ending) := by
      rw [hpath, parsePath_slash .nil]
      exact hx
    have htwo : rooted (['/', '/'] ++ x) = rooted ('/' :: x) := rfl
    rw [build, hslash, ← hlength hlen hhead, ← htwo]

theorem host_build_nil (start cs : List Char) : (build [] start cs).host = [] := ite_self _

/-- If what a sound URL is written as is read as a URL of the same host, its path has the same length. -/
theorem Sound.length_path (hv : v.Sound) {w : FileUrl} (h : parse? v.text = some w) (hhost : w.host = v.host) :
    w.path.length = v.path.length := by
  rw [hv.parse?_text] at h
  have hstop : ∀ c ∈ v.host, (!endsSegment c) = true := fun c hc => by rw [(hv.host c hc).2]; rfl
  have hslash : v.path ++ v.ending = '/' :: (v.path.tail ++ v.ending) := by
    rw [hv.path]
    rfl
  have htake : (v.host ++ (v.path ++ v.ending)).takeWhile (!endsSegment ·) = v.host := by
    rw [List.takeWhile_append_of_pos hstop, hslash, List.takeWhile_cons_of_neg (by decide), List.append_nil]
  have hdrop : (v.host ++ (v.path ++ v.ending)).dropWhile (!endsSegment ·) = v.path ++ v.ending := by
    rw [List.dropWhile_append_of_pos hstop, hslash, List.dropWhile_cons_of_neg (by decide)]
  unfold withHost? at h
  rw [htake, hdrop] at h
  dsimp only at h
  by_cases hempty : v.host = []
  · rw [if_pos (by simp [hempty]), hempty, List.nil_append] at h
    rw [← Option.some.inj h]
    exact (hv.length_build []).2
  · -- the host is read as a host: a URL of the machine itself has none
    have hne {start cs : List Char} (hw : build [] start cs = w) : False :=
      hempty (by rw [← hhost, ← hw, host_build_nil])
    split at h
    · exact (hne (Option.some.inj h)).elim
    · obtain ⟨host, -, h⟩ := Option.bind_eq_some_iff.mp h
      split at h
      · exact (hne (Option.some.inj h)).elim
      · rw [hslash] at h
        rw [← Option.some.inj h]
        exact (hv.length_build host).1

end ScriptLink.FileUrl
