namespace ChatWire.Cli

/-- Marks the first unused position of `b` within `[lo, hi)` holding `c`. -/
def claim (c : Char) (b : List Char) (used : List Bool) (lo hi : Nat) : Option (List Bool) :=
  let candidates := (List.range hi).filter fun j => lo ≤ j && b[j]? == some c && used[j]? == some false
  candidates.head?.map fun j => used.set j true

/-- Matches the characters of `a` against `b`: which positions of each are matched. -/
def matchFlags (a b : List Char) : List Bool × List Bool :=
  let range := (max a.length b.length / 2) - 1
  let step := fun (acc : List Bool × List Bool) (ic : Nat × Char) =>
    let (i, c) := ic
    let lo := i - range
    let hi := min b.length (i + range + 1)
    match claim c b acc.2 lo hi with
    | some used => (acc.1 ++ [true], used)
    | none => (acc.1 ++ [false], acc.2)
  (a.zipIdx.map (fun (c, i) => (i, c))).foldl step ([], b.map fun _ => false)

/-- The matched characters of a sequence, in order. -/
def matched (cs : List Char) (flags : List Bool) : List Char :=
  (cs.zip flags).filterMap fun (c, f) => if f then some c else none

/-- The Jaro similarity of two words. -/
def jaro (a b : String) : Float :=
  let a := a.toList
  let b := b.toList
  if a.isEmpty && b.isEmpty then 1.0
  else if a.isEmpty || b.isEmpty then 0.0
  else
    let (fa, fb) := matchFlags a b
    let ma := matched a fa
    let mb := matched b fb
    let m := ma.length
    let t := ((ma.zip mb).filter fun (x, y) => x != y).length / 2
    if m == 0 then 0.0
    else
      (m.toFloat / a.length.toFloat + m.toFloat / b.length.toFloat +
        (m - t).toFloat / m.toFloat) / 3.0

/-- Inserts a scored word after every word scored no higher, so that the list stays
    in ascending order of score and words of one score keep their order. -/
def insertScored (x : Float × String) : List (Float × String) → List (Float × String)
  | [] => [x]
  | y :: rest =>
    if x.1 < y.1 then x :: y :: rest
    else y :: insertScored x rest

/-- The known word most similar to `word`, if any is similar enough. -/
def closest (word : String) (known : List String) : Option String :=
  let scored := known.foldl (fun acc k =>
    let score := jaro word k
    if score > 0.7 then insertScored (score, k) acc else acc) []
  scored.getLast?.map (·.2)

end ChatWire.Cli
