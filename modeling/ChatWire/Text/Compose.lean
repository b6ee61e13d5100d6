import ChatWire.Text.CombiningClass
import ChatWire.Text.Decomposition
namespace ChatWire.Text

/-- The first Hangul syllable. -/
def syllableBase : Nat := 0xAC00

/-- The first leading consonant jamo. -/
def leadingBase : Nat := 0x1100

/-- The first vowel jamo. -/
def vowelBase : Nat := 0x1161

/-- The code point before the first trailing consonant jamo. -/
def trailingBase : Nat := 0x11A7

/-- The number of vowels. -/
def vowelCount : Nat := 21

/-- The number of trailing consonants, counting none. -/
def trailingCount : Nat := 28

/-- The number of syllables: 19 leading consonants times the vowels and trailing
    consonants. -/
def syllableCount : Nat := 19 * vowelCount * trailingCount

/-- Whether a code point is a Hangul syllable. -/
def isSyllable (n : Nat) : Bool :=
  syllableBase ≤ n && n < syllableBase + syllableCount

/-- The jamo of a Hangul syllable. -/
def syllableJamo (n : Nat) : List Nat :=
  let i := n - syllableBase
  let lead := leadingBase + i / (vowelCount * trailingCount)
  let vowel := vowelBase + i % (vowelCount * trailingCount) / trailingCount
  let trail := trailingBase + i % trailingCount
  if trail == trailingBase then [lead, vowel] else [lead, vowel, trail]

/-- The full canonical decomposition of a code point. Every step of the table makes
    the first part smaller than the character, so the depth is small; `fuel` bounds
    it all the same. -/
def decomposeFully : Nat → Nat → List Nat
  | 0, n => [n]
  | fuel + 1, n =>
    if isSyllable n then syllableJamo n
    else
      match decomposition? n with
      | some d => d.parts.flatMap (decomposeFully fuel)
      | none => [n]

/-- The depth of decomposition that covers every character. -/
def decompositionDepth : Nat := 8

/-- Inserts a mark into marks in canonical order, after every mark of a class at most
    its own. -/
def insertByClass (n : Nat) : List Nat → List Nat
  | [] => [n]
  | m :: rest =>
    if combiningClass n < combiningClass m then n :: m :: rest
    else m :: insertByClass n rest

/-- Sorts a run of marks by class, keeping the order of marks of equal class. -/
def sortByClass (run : List Nat) : List Nat :=
  run.foldl (fun acc n => insertByClass n acc) []

/-- Puts every run of marks in canonical order. `done` holds the text finished so far
    in reverse and `run` the marks since the last starter in order. -/
def reorderOnto (done : List Nat) (run : List Nat) : List Nat → List Nat
  | [] => done.reverse ++ sortByClass run
  | n :: rest =>
    if combiningClass n == 0 then
      reorderOnto (n :: (sortByClass run).reverse ++ done) [] rest
    else reorderOnto done (run ++ [n]) rest

/-- The canonical order of a decomposed text. -/
def canonicalOrder (ns : List Nat) : List Nat :=
  reorderOnto [] [] ns

/-- The character two characters compose to, if any. -/
def composePair (a b : Nat) : Option Nat :=
  if leadingBase ≤ a && a < leadingBase + 19 && vowelBase ≤ b && b < vowelBase + vowelCount then
    some (syllableBase + ((a - leadingBase) * vowelCount + (b - vowelBase)) * trailingCount)
  else if isSyllable a && (a - syllableBase) % trailingCount == 0 &&
      trailingBase < b && b < trailingBase + trailingCount then
    some (a + (b - trailingBase))
  else composition? a b

/-- The state of composition: the text so far, the place of the last starter in it,
    and the class of the last character kept after that starter (zero when none). -/
structure Composing where
  out : Array Nat := #[]
  starter : Option Nat := none
  lastClass : Nat := 0

/-- Takes the next character of a text in canonical order: it joins the last starter
    when it is not blocked and the two compose, and is kept otherwise. -/
def Composing.step (st : Composing) (n : Nat) : Composing :=
  let cls := combiningClass n
  let joined : Option Composing :=
    match st.starter with
    | some s =>
      if st.lastClass < cls || (st.lastClass == 0 && st.out.size == s + 1) then
        match st.out[s]? with
        | some a => (composePair a n).map fun p => { st with out := st.out.setIfInBounds s p }
        | none => none
      else none
    | none => none
  match joined with
  | some next => next
  | none =>
    if cls == 0 then { out := st.out.push n, starter := some st.out.size, lastClass := 0 }
    else { st with out := st.out.push n, lastClass := cls }

/-- Normalization form C of a text of code points. -/
def composeText (ns : List Nat) : List Nat :=
  let ordered := canonicalOrder (ns.flatMap (decomposeFully decompositionDepth))
  (ordered.foldl Composing.step {}).out.toList

end ChatWire.Text
