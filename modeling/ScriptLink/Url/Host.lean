import ScriptLink.Text.Utf8
import ScriptLink.Url.Percent

/-!
# ScriptLink.Url.Host — the host of a file URL

* A host in brackets is an address of eight groups, written back with its longest run of zero groups
  left out.
* A host whose last label is a number is an address of four bytes, written back in decimal.
* Any other host is a domain: percent-decoded, in lower case, labels beyond ASCII in their ASCII form.

Labels beyond ASCII are assumed to be mapped already as the processing of domain names maps them: in composed form, in
small letters where Unicode has some, and without the characters that the mapping replaces, drops or refuses. Only the
letters `A` to `Z` are made small here, so a label for which this does not hold gets an ASCII form of its own or
is let through.
-/

namespace ScriptLink.Url.Host

/-! ## Addresses of four bytes -/

/-- The value of a digit of the given base. -/
def digit? (base : Nat) (c : Char) : Option Nat :=
  (hexValue? c).bind fun n => if n < base then some n else none

/-- A number of the given base; no digits are zero. -/
def ofDigits? (base : Nat) (cs : List Char) : Option Nat :=
  cs.foldlM (fun n c => (digit? base c).map (n * base + ·)) 0

/-- A number of an address: hexadecimal after `0x`, octal after another zero, decimal otherwise. -/
def number? : List Char → Option Nat
  | [] => none
  | '0' :: 'x' :: rest => ofDigits? 16 rest
  | '0' :: 'X' :: rest => ofDigits? 16 rest
  | '0' :: c :: rest => ofDigits? 8 (c :: rest)
  | cs => ofDigits? 10 cs

/-- The labels of a domain without the empty one after a last dot. -/
def labels (cs : List Char) : List (List Char) :=
  let ls := cs.splitOn '.'
  if ls.length > 1 ∧ ls.getLast? = some [] then ls.dropLast else ls

/-- Whether the last label is a number, also one too large for an address. Such a host must be an address. -/
def endsInNumber (cs : List Char) : Bool :=
  match (labels cs).getLast? with
  | none => false
  | some l => (!l.isEmpty && l.all Char.isDigit) || (number? l).isSome

/-- The number of an address: all parts but the last are bytes, the last fills what is left. -/
def address? (cs : List Char) : Option Nat := do
  let parts ← (labels cs).mapM number?
  let leading := parts.dropLast
  let last ← parts.getLast?
  if parts.length ≤ 4 ∧ leading.all (· < 256) ∧ last < Nat.pow 256 (5 - parts.length) then
    return leading.zipIdx.foldl (fun n (p, i) => n + p * Nat.pow 256 (3 - i)) last
  else none

/-- A number in decimal. -/
def decimal (n : Nat) : List Char := Nat.toDigits 10 n

/-- The four bytes of an address in decimal, the highest first. -/
def dotted (n : Nat) : List Char :=
  ['.'].intercalate ([n / 0x1000000, n / 0x10000 % 256, n / 256 % 256, n % 256].map decimal)

/-! ## Addresses of eight groups -/

/-- A group: one to four hexadecimal digits. -/
def group? (cs : List Char) : Option Nat :=
  if cs.isEmpty ∨ 4 < cs.length then none else ofDigits? 16 cs

/-- A byte in decimal without needless zeros. -/
def byte? (cs : List Char) : Option Nat :=
  match cs with
  | [] => none
  | '0' :: _ :: _ => none
  | _ => (ofDigits? 10 cs).bind fun n => if n < 256 then some n else none

/-- The groups between colons; the last one may be an address of four bytes. -/
def groups? (cs : List Char) : Option (List Nat) :=
  if cs.isEmpty then some [] else do
    let pieces := cs.splitOn ':'
    let leading ← pieces.dropLast.mapM group?
    let last ← pieces.getLast?
    if last.contains '.' then
      match ← (last.splitOn '.').mapM byte? with
      | [a, b, c, d] => return leading ++ [a * 256 + b, c * 256 + d]
      | _ => none
    else return leading ++ [← group? last]

/-- The text before and after the first `::`, if there is one. -/
def cutDouble : List Char → Option (List Char × List Char)
  | ':' :: ':' :: rest => some ([], rest)
  | c :: rest => (cutDouble rest).map fun (a, b) => (c :: a, b)
  | [] => none

/-- The eight groups of an address; a `::` stands for as many zero groups as are missing, at least one. -/
def eight? (cs : List Char) : Option (List Nat) := do
  match cutDouble cs with
  | none =>
    let gs ← groups? cs
    if gs.length = 8 then return gs else none
  | some (before, after) =>
    let a ← groups? before
    let b ← groups? after
    if before.contains '.' ∨ 7 < a.length + b.length then none
    else return a ++ List.replicate (8 - a.length - b.length) 0 ++ b

/-- How many groups in front are zero. -/
def zeros (gs : List Nat) : Nat := (gs.takeWhile (· == 0)).length

/-- Where the first longest run of at least two zero groups begins, and how long it is. -/
def longestZeros (gs : List Nat) : Option (Nat × Nat) :=
  (List.range gs.length).foldl (fun best i =>
    let n := zeros (gs.drop i)
    if n < 2 then best
    else match best with
      | none => some (i, n)
      | some (j, m) => if m < n then some (i, n) else some (j, m)) none

/-- Groups in hexadecimal with colons between them. -/
def colons (gs : List Nat) : List Char := [':'].intercalate (gs.map (Nat.toDigits 16))

/-- An address of eight groups as it is written back. -/
def bracketed (gs : List Nat) : List Char :=
  let inner := match longestZeros gs with
    | none => colons gs
    | some (i, n) => colons (gs.take i) ++ [':', ':'] ++ colons (gs.drop (i + n))
  '[' :: (inner ++ [']'])

/-! ## Labels beyond ASCII -/

/-- How the threshold for the next difference adapts. -/
def adapt (delta points : Nat) (first : Bool) : Nat :=
  let d := if first then delta / 700 else delta / 2
  go (d + d / points) 0 (d + d / points)
where
  go (d k : Nat) : Nat → Nat
    | 0 => k + 36 * d / (d + 38)
    | fuel + 1 => if 455 < d then go (d / 35) (k + 36) fuel else k + 36 * d / (d + 38)

/-- A digit of base 36: the letters come first. -/
def digit36 (n : Nat) : Char :=
  if n < 26 then Char.ofNat (97 + n) else Char.ofNat (22 + n)

/-- A number with digits of falling weight above a bias. -/
def weighted (bias : Nat) (q k : Nat) : Nat → List Char
  | 0 => []
  | fuel + 1 =>
    let t := if k ≤ bias then 1 else if bias + 26 ≤ k then 26 else k - bias
    if q < t then [digit36 q]
    else digit36 (t + (q - t) % (36 - t)) :: weighted bias ((q - t) / (36 - t)) (k + 36) fuel

/-- The state while the points beyond ASCII are written in rising order. -/
structure Spelling where
  /-- How many insertions were passed over since the last one that was written. -/
  delta : Nat
  bias : Nat
  /-- How many characters are in place, those of ASCII included. -/
  handled : Nat
  /-- What was written of the insertions. -/
  out : List Char

/-- Writes the point `n` at each of its places. -/
def spell (points : List Nat) (basic n : Nat) (s : Spelling) : Spelling :=
  points.foldl (fun s p =>
    if p < n then { s with delta := s.delta + 1 }
    else if p = n then
      { delta := 0, handled := s.handled + 1,
        bias := adapt s.delta (s.handled + 1) (s.handled == basic),
        out := s.out ++ weighted s.bias s.delta 36 (s.delta + 1) }
    else s) s

/-- Writes all points from `n` on; the fuel is a bound on how many different ones there are. -/
def spellAll (points : List Nat) (basic : Nat) : Nat → Nat → Spelling → Spelling
  | 0, _, s => s
  | fuel + 1, n, s =>
    match (points.filter (n ≤ ·)).min? with
    | none => s
    | some m =>
      let s := spell points basic m { s with delta := s.delta + (m - n) * (s.handled + 1) }
      spellAll points basic fuel (m + 1) { s with delta := s.delta + 1 }

/-- The ASCII form of a label: its ASCII characters, and then how the others are inserted. -/
def asciiLabel (cs : List Char) : List Char :=
  if cs.all (·.toNat < 0x80) then cs
  else
    let plain := cs.filter (·.toNat < 0x80)
    let start := if plain.isEmpty then [] else plain ++ ['-']
    let points := cs.map Char.toNat
    ['x', 'n', '-', '-'] ++ start ++
      (spellAll points plain.length cs.length 0x80 ⟨0, 72, plain.length, []⟩).out

/-! ## Hosts -/

/-- The characters that no domain may have. -/
def forbidden (c : Char) : Bool :=
  c.toNat ≤ 0x20 || c.toNat == 0x7F ||
    ['#', '/', ':', '<', '>', '?', '@', '[', '\\', ']', '^', '|', '%'].contains c

/-- A host as a domain, whether or not it may be one. -/
def domain (cs : List Char) : List Char :=
  let decoded := Text.Utf8.lossyChars (decodeBytes cs)
  ['.'].intercalate ((decoded.splitOn '.').map fun l => asciiLabel (l.map Char.toLower))

/-- A host as it is written back, if it is one. -/
def serialize? (cs : List Char) : Option (List Char) :=
  match cs with
  | '[' :: rest =>
    if rest.getLast? = some ']' then (eight? rest.dropLast).map bracketed else none
  | _ =>
    let d := domain cs
    if d.isEmpty ∨ d.any forbidden ∨ d.contains Text.Utf8.replacement then none
    else if endsInNumber d then (address? d).map dotted
    else some d

end ScriptLink.Url.Host
