import ScriptLink.Proofs.Text.Separator
import ScriptLink.Proofs.Url.Percent

/-!
# ScriptLink.Proofs.Url.Path — paths as directories and a last component

* `FileUrl.pathOf` writes directories and a last component as a path, and `FileUrl.directories` are those of a URL.
* A `Part` is a component as a path that was read can have it: encoded, in one piece, and no dot segment.
* `parsePath_regular`: reading a text onto a path of parts gives a path of parts.
* `parsePath_parts`: reading the text of parts puts it behind the path, with a drive letter's colon as the only
  change; `rooted_pathOf` is what becomes of empty directories in front.
-/

namespace ScriptLink.FileUrl

open Url

/-! ## Directories -/

/-- Directories, each with the slash behind it. -/
def slashed (ds : List (List Char)) : List Char := ds.flatMap (· ++ ['/'])

/-- The path of directories and a last component. -/
def pathOf (ds : List (List Char)) (f : List Char) : List Char := '/' :: (slashed ds ++ f)

/-- The components of the path before the last one. -/
def directories (u : FileUrl) : List (List Char) :=
  match u.path with
  | _ :: cs => (cs.splitOn '/').dropLast
  | [] => []

section

variable {ds : List (List Char)} {d f : List Char}

theorem slashed_nil : slashed [] = [] := rfl

theorem slashed_cons (d : List Char) (ds : List (List Char)) : slashed (d :: ds) = d ++ '/' :: slashed ds := by
  rw [slashed, List.flatMap_cons, List.append_assoc]
  rfl

theorem slashed_append (ds es : List (List Char)) : slashed (ds ++ es) = slashed ds ++ slashed es :=
  List.flatMap_append

theorem slashed_concat (ds : List (List Char)) (d : List Char) : slashed (ds ++ [d]) = slashed ds ++ d ++ ['/'] := by
  rw [slashed_append, slashed_cons, slashed_nil, List.append_assoc]

theorem pathOf_nil (ds : List (List Char)) : pathOf ds [] = '/' :: slashed ds := by
  rw [pathOf, List.append_nil]

/-- A path up to a slash ends with it. -/
theorem exists_concat_slash (ds : List (List Char)) : ∃ x, '/' :: slashed ds = x ++ ['/'] := by
  rcases List.eq_nil_or_concat ds with rfl | ⟨es, d, rfl⟩
  · exact ⟨[], rfl⟩
  · exact ⟨'/' :: slashed es ++ d, by rw [List.concat_eq_append, slashed_concat]; rfl⟩

theorem afterLastSlash_append (x : List Char) (hf : '/' ∉ f) : afterLastSlash (x ++ '/' :: f) = f := by
  have hr : '/' ∉ f.reverse := mt List.mem_reverse.mp hf
  rw [afterLastSlash, List.reverse_append, List.reverse_cons, List.append_assoc, List.singleton_append,
    Text.takeWhile_append_self hr, List.reverse_reverse]

theorem throughLastSlash_append (x : List Char) (hf : '/' ∉ f) : throughLastSlash (x ++ '/' :: f) = x ++ ['/'] := by
  have hr : '/' ∉ f.reverse := mt List.mem_reverse.mp hf
  rw [throughLastSlash, List.reverse_append, List.reverse_cons, List.append_assoc, List.singleton_append,
    Text.dropWhile_append_self hr, List.reverse_cons, List.reverse_reverse]

theorem afterLastSlash_pathOf (ds : List (List Char)) (hf : '/' ∉ f) : afterLastSlash (pathOf ds f) = f := by
  obtain ⟨x, hx⟩ := exists_concat_slash ds
  rw [pathOf, ← List.cons_append, hx, List.append_assoc]
  exact afterLastSlash_append x hf

theorem throughLastSlash_pathOf (ds : List (List Char)) (hf : '/' ∉ f) :
    throughLastSlash (pathOf ds f) = '/' :: slashed ds := by
  obtain ⟨x, hx⟩ := exists_concat_slash ds
  rw [pathOf, ← List.cons_append, hx, List.append_assoc]
  exact throughLastSlash_append x hf

theorem splitOn_slashed (hds : ∀ d ∈ ds, '/' ∉ d) (hf : '/' ∉ f) : (slashed ds ++ f).splitOn '/' = ds ++ [f] := by
  induction ds with
  | nil => exact List.splitOn_eq_singleton hf
  | cons d ds ih =>
    rw [slashed_cons, List.append_assoc, List.cons_append,
      List.splitOn_append_cons_self_of_not_mem (hds d List.mem_cons_self),
      ih fun e he => hds e (List.mem_cons_of_mem d he), List.cons_append]

/-- Empty directories in front are left out. -/
theorem rooted_pathOf (hds : ∀ d ∈ ds, '/' ∉ d) (hf : '/' ∉ f) :
    rooted (pathOf ds f) = pathOf (ds.dropWhile List.isEmpty) f := by
  have hstop {x : List Char} (y : List Char) (hx : '/' ∉ x) (hne : x ≠ []) :
      (x ++ y).dropWhile (· == '/') = x ++ y := by
    cases x with
    | nil => exact absurd rfl hne
    | cons c x => exact List.dropWhile_cons_of_neg (by simpa using fun he => hx (by simp [he]))
  have hrest : (slashed ds ++ f).dropWhile (· == '/') = slashed (ds.dropWhile List.isEmpty) ++ f := by
    induction ds with
    | nil =>
      cases f with
      | nil => rfl
      | cons c f =>
        have hf := hstop [] hf (List.cons_ne_nil c f)
        rwa [List.append_nil] at hf
    | cons d ds ih =>
      have ih := ih fun e he => hds e (List.mem_cons_of_mem d he)
      cases d with
      | nil => rw [slashed_cons, List.dropWhile_cons_of_pos rfl, ← ih]; rfl
      | cons c d =>
        rw [slashed_cons, List.append_assoc, hstop _ (hds _ List.mem_cons_self) (by simp),
          List.dropWhile_cons_of_neg (by simp), slashed_cons, List.append_assoc]
  rw [rooted, pathOf, List.dropWhile_cons_of_pos rfl, hrest, pathOf]

end

/-! ## Components that were read -/

/-- A component without characters that are to be encoded and without slashes, and no dot segment. -/
structure Part (cs : List Char) : Prop where
  plain : ∀ c ∈ cs, pathSet c = false ∧ c ≠ '/' ∧ c ≠ '\\'
  single : isSingleDot cs = false
  double : isDoubleDot cs = false

namespace Part

variable {cs : List Char}

theorem nil : Part [] where
  plain _ h := nomatch h
  single := by decide
  double := by decide

theorem slash (h : Part cs) : '/' ∉ cs := fun hc => (h.plain '/' hc).2.1 rfl

/-- A drive letter with its colon is a part. -/
theorem drive {c : Char} (h : pathSet c = false ∧ c ≠ '/' ∧ c ≠ '\\') : Part [c, ':'] where
  plain x hx := by
    rcases List.mem_cons.mp hx with rfl | hx
    · exact h
    · rw [List.mem_singleton.mp hx]
      decide
  single := by
    refine Bool.eq_false_iff.mpr fun hdot => ?_
    rcases cases_of_single hdot with he | ⟨e, he, -⟩ <;> cases he
  double := by
    refine Bool.eq_false_iff.mpr fun hdot => ?_
    obtain ⟨a, b, hab, ha, hb⟩ := isDoubleDot_append hdot
    rcases cases_of_single ha with rfl | ⟨e, rfl, -⟩
    · rcases cases_of_single hb with rfl | ⟨e, rfl, -⟩ <;> cases hab
    · cases hab

theorem settled (h : Part cs) (path : List Char) : Part (settled path cs) := by
  unfold FileUrl.settled
  split
  · split
    · exact drive (h.plain _ List.mem_cons_self)
    · exact h
  · exact h

end Part

theorem length_settled (path cs : List Char) : (settled path cs).length = cs.length := by
  unfold settled
  split
  · split <;> rfl
  · rfl

theorem head?_settled (path cs : List Char) : (settled path cs).head? = cs.head? := by
  unfold settled
  split
  · split <;> rfl
  · rfl

/-! ## One more segment -/

variable {qs : List (List Char)} {segment : List Char}

theorem isDriveSpec_of_isDrive {cs : List Char} (h : isDrive cs = true) : isDriveSpec cs = true := by
  unfold isDrive at h
  split at h
  · simp [isDriveSpec, h]
  · cases h

theorem withoutSlash_concat (stem : List Char) : withoutSlash (stem ++ ['/']) =
    if stem.contains '/' && !isDriveSpec (afterLastSlash stem) then stem else stem ++ ['/'] := by
  rw [withoutSlash, List.reverse_concat]
  simp

/-- The last directory goes, unless there is none or it is a drive letter. -/
theorem shorten_slashed (hqs : ∀ q ∈ qs, '/' ∉ q) :
    ∃ rs, (∀ r ∈ rs, r ∈ qs) ∧ shorten (withoutSlash ('/' :: slashed qs)) = '/' :: slashed rs := by
  rcases List.eq_nil_or_concat qs with rfl | ⟨es, d, rfl⟩
  · exact ⟨[], fun _ h => h, by decide⟩
  · have hd : '/' ∉ d := hqs d (by simp)
    have hstem : '/' :: slashed (es.concat d) = pathOf es d ++ ['/'] := by
      rw [List.concat_eq_append, slashed_concat]
      rfl
    have hslash : (pathOf es d).contains '/' = true := by simp [pathOf]
    rw [hstem, withoutSlash_concat, hslash, afterLastSlash_pathOf es hd]
    cases hspec : isDriveSpec d with
    | true =>
      have hlast := afterLastSlash_append (pathOf es d) (f := []) (by simp)
      have hthrough := throughLastSlash_append (pathOf es d) (f := []) (by simp)
      -- a drive letter is not climbed over
      refine ⟨es.concat d, fun _ h => h, ?_⟩
      rw [if_neg (by simp), shorten, hlast, if_neg (by decide), hthrough, hstem]
    | false =>
      have hdrive : isDrive d ≠ true := fun h => by
        rw [isDriveSpec_of_isDrive h] at hspec
        cases hspec
      refine ⟨es, fun r hr => by simp [hr], ?_⟩
      rw [if_pos (by simp), shorten, afterLastSlash_pathOf es hd, if_neg hdrive, throughLastSlash_pathOf es hd]

/-- A double-dot segment takes the last directory away, unless that is a drive letter. -/
theorem extend_double (hqs : ∀ q ∈ qs, '/' ∉ q) (h : isDoubleDot segment = true) (slash : Bool) :
    ∃ rs, (∀ r ∈ rs, r ∈ qs) ∧ extend ('/' :: slashed qs) segment slash = '/' :: slashed rs := by
  obtain ⟨rs, hrs, hshort⟩ := shorten_slashed hqs
  obtain ⟨x, hx⟩ := exists_concat_slash rs
  refine ⟨rs, hrs, ?_⟩
  rw [extend, if_pos h, hshort, hx]
  exact if_neg (by simp)

theorem extend_single (hd : isDoubleDot segment = false) (hs : isSingleDot segment = true) (slash : Bool) :
    extend ('/' :: slashed qs) segment slash = '/' :: slashed qs := by
  obtain ⟨x, hx⟩ := exists_concat_slash qs
  rw [extend, if_neg (by simp [hd]), if_pos hs, hx, if_pos List.getLast?_concat]

theorem extend_part (h : Part segment) (path : List Char) (slash : Bool) :
    extend path segment slash = path ++ settled path segment ++ if slash then ['/'] else [] := by
  rw [extend, if_neg (by simp [h.double]), if_neg (by simp [h.single])]

/-! ## Reading a path -/

/-- What is cut out of a text as a segment is in one piece. -/
theorem plain_segment (cs : List Char) : ∀ c ∈ encodeBy pathSet (cs.takeWhile (!endsSegment ·)),
    pathSet c = false ∧ c ≠ '/' ∧ c ≠ '\\' := by
  intro c hc
  rcases mem_encodeBy hc with hmark | ⟨hin, hset⟩
  · exact (plain_of_mem_marks hmark).1
  · have hends := List.mem_takeWhile_imp hin
    refine ⟨hset, ?_, ?_⟩ <;> rintro rfl <;> exact absurd hends (by decide)

theorem extend_regular (hqs : ∀ q ∈ qs, Part q) (hs : ∀ c ∈ segment, pathSet c = false ∧ c ≠ '/' ∧ c ≠ '\\')
    (slash : Bool) : ∃ ds f, extend ('/' :: slashed qs) segment slash = pathOf ds f ∧ (∀ d ∈ ds, Part d) ∧ Part f ∧
      (slash = true → f = []) := by
  cases hd : isDoubleDot segment with
  | true =>
    obtain ⟨rs, hrs, he⟩ := extend_double (fun q hq => (hqs q hq).slash) hd slash
    exact ⟨rs, [], by rw [he, pathOf_nil], fun r hr => hqs r (hrs r hr), .nil, fun _ => rfl⟩
  | false =>
    cases hone : isSingleDot segment with
    | true => exact ⟨qs, [], by rw [extend_single hd hone, pathOf_nil], hqs, .nil, fun _ => rfl⟩
    | false =>
      have hpart : Part segment := ⟨hs, hone, hd⟩
      have hsettled := hpart.settled ('/' :: slashed qs)
      rw [extend_part hpart]
      cases slash with
      | true =>
        refine ⟨qs ++ [settled ('/' :: slashed qs) segment], [], ?_, fun d hd => ?_, .nil, fun _ => rfl⟩
        · rw [pathOf_nil, slashed_concat]
          rfl
        · rcases List.mem_append.mp hd with hd | hd
          · exact hqs d hd
          · rwa [List.mem_singleton.mp hd]
      | false => exact ⟨qs, _, by simp [pathOf], hqs, hsettled, nofun⟩

/-- A text that is read onto directories gives directories and a last component. -/
theorem parsePath_regular (fuel : Nat) (hqs : ∀ q ∈ qs, Part q) (cs : List Char) :
    ∃ ds f, (parsePath fuel ('/' :: slashed qs) cs).1 = pathOf ds f ∧ (∀ d ∈ ds, Part d) ∧ Part f := by
  -- what was read before is directories with a slash behind each, whatever the segment makes of them
  induction fuel generalizing qs cs with
  | zero => exact ⟨qs, [], by rw [parsePath, pathOf_nil], hqs, .nil⟩
  | succ fuel ih =>
    have hseg := extend_regular hqs (plain_segment cs)
    rw [parsePath]
    split
    case h_1 | h_2 =>
      obtain ⟨ds, f, he, hds, -, hf⟩ := hseg true
      rw [he, hf rfl, pathOf_nil]
      exact ih hds _
    case h_3 =>
      obtain ⟨ds, f, he, hds, hf, -⟩ := hseg false
      exact ⟨ds, f, he, hds, hf⟩

/-! ## Reading a path that was written -/

theorem Part.not_endsSegment {d : List Char} (h : Part d) : ∀ c ∈ d, (!endsSegment c) = true := by
  intro c hc
  obtain ⟨hset, hslash, hback⟩ := h.plain c hc
  have hquery : c ≠ '?' := by
    rintro rfl
    cases hset
  have hhash : c ≠ '#' := by
    rintro rfl
    cases hset
  simp [endsSegment, hslash, hback, hquery, hhash]

theorem Part.encodeBy_eq {d : List Char} (h : Part d) : encodeBy pathSet d = d :=
  encodeBy_eq_self fun c hc => (h.plain c hc).1

/-- The segment and what follows it. -/
theorem parsePath_slash {d : List Char} (h : Part d) (fuel : Nat) (path rest : List Char) :
    parsePath (fuel + 1) path (d ++ '/' :: rest) = parsePath fuel (path ++ settled path d ++ ['/']) rest := by
  rw [parsePath, List.takeWhile_append_of_pos h.not_endsSegment, List.dropWhile_append_of_pos h.not_endsSegment,
    List.takeWhile_cons_of_neg (by decide), List.dropWhile_cons_of_neg (by decide), List.append_nil, h.encodeBy_eq,
    extend_part h, if_pos rfl]
  rfl

/-- The last segment and the tails of a URL. -/
theorem parsePath_last {f : List Char} (h : Part f) (fuel : Nat) (path : List Char) {rest : List Char}
    (hrest : ∀ c ∈ rest.head?, c = '?' ∨ c = '#') :
    parsePath (fuel + 1) path (f ++ rest) = (path ++ settled path f, rest) := by
  have hlast : extend path f false = path ++ settled path f := (extend_part h path false).trans (List.append_nil _)
  rw [parsePath, List.takeWhile_append_of_pos h.not_endsSegment, List.dropWhile_append_of_pos h.not_endsSegment]
  cases rest with
  | nil =>
    rw [List.takeWhile_nil, List.dropWhile_nil, List.append_nil, h.encodeBy_eq]
    exact congrArg (·, []) hlast
  | cons c rest =>
    rcases hrest c rfl with rfl | rfl <;>
    · rw [List.takeWhile_cons_of_neg (by decide), List.dropWhile_cons_of_neg (by decide), List.append_nil,
        h.encodeBy_eq]
      exact congrArg (·, _) hlast

/-- Reading the text of parts onto a path puts it behind the path, in its length and with its beginning. -/
theorem parsePath_parts {ds : List (List Char)} {f : List Char} (hds : ∀ d ∈ ds, Part d) (hf : Part f)
    {rest : List Char} (hrest : ∀ c ∈ rest.head?, c = '?' ∨ c = '#') (path : List Char) (fuel : Nat)
    (hfuel : ds.length < fuel) :
    ∃ x, parsePath fuel path (slashed ds ++ (f ++ rest)) = (path ++ x, rest) ∧
      x.length = (slashed ds ++ f).length ∧ x.head? = (slashed ds ++ f).head? := by
  obtain ⟨fuel, rfl⟩ : ∃ n, fuel = n + 1 := ⟨fuel - 1, by omega⟩
  induction ds generalizing path fuel with
  | nil => exact ⟨settled path f, parsePath_last hf fuel path hrest, length_settled .., head?_settled ..⟩
  | cons d ds ih =>
    have hd := hds d List.mem_cons_self
    rw [List.length_cons] at hfuel
    obtain ⟨n, rfl⟩ : ∃ n, fuel = n + 1 := ⟨fuel - 1, by omega⟩
    obtain ⟨x, hx, hlen, -⟩ := ih (fun e he => hds e (List.mem_cons_of_mem d he)) (path ++ settled path d ++ ['/']) n
      (by omega)
    refine ⟨settled path d ++ '/' :: x, ?_, ?_, ?_⟩
    · rw [slashed_cons, List.append_assoc, List.cons_append, parsePath_slash hd, hx]
      simp
    · rw [slashed_cons, List.append_assoc, List.length_append, List.length_append, length_settled, List.cons_append,
        List.length_cons, List.length_cons, hlen]
    · rw [slashed_cons, List.append_assoc, List.head?_append, List.head?_append, head?_settled]
      rfl

end ScriptLink.FileUrl
