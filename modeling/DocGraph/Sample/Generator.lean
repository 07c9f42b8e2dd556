/-!
# A generator of random words

The Mersenne twister: 624 words of 32 bits, which are replaced all at once when they have been
used up. The same seed gives the same words. A number below a bound is drawn by drawing as many
bits as the bound has until they are below it.
-/

set_option autoImplicit false

namespace DocGraph

/-- The state of a generator: its words, and how many of them have been used. -/
structure Generator where
  words : Array UInt32
  used : Nat

namespace Generator

/-- The number of words. -/
def size : Nat := 624

/-- How far apart the words are that are combined when they are replaced. -/
def distance : Nat := 397

/-- The word in a place. -/
def word (words : Array UInt32) (i : Nat) : UInt32 :=
  words[i]?.getD 0

/-- A word with its upper bits mixed into the lower ones. -/
def mixed (w : UInt32) : UInt32 :=
  w ^^^ (w >>> 30)

/-- The words that a single number gives. -/
def wordsOfNumber (seed : UInt32) : Array UInt32 :=
  (List.range (size - 1)).foldl
    (fun words i => words.push (1812433253 * mixed (word words i) + (i + 1).toUInt32)) #[seed]

/-- The place after the given one. Behind the last place the first word is overwritten by the
last one, and the second place comes next. -/
def advance (words : Array UInt32) (i : Nat) : Array UInt32 × Nat :=
  if size ≤ i + 1 then (words.setIfInBounds 0 (word words (size - 1)), 1) else (words, i + 1)

/-- Stir the words of a key in, one after the other and from the start again; `i` is the place
of the word that is changed, `j` the number of the key word. -/
def stirKey (key : Array UInt32) : Nat → Array UInt32 → Nat → Nat → Array UInt32 × Nat
  | 0, words, i, _ => (words, i)
  | steps + 1, words, i, j =>
    let changed := (word words i ^^^ (mixed (word words (i - 1)) * 1664525)) +
      word key j + j.toUInt32
    let (words, next) := advance (words.setIfInBounds i changed) i
    stirKey key steps words next (if key.size ≤ j + 1 then 0 else j + 1)

/-- Stir the places in. -/
def stirPlaces : Nat → Array UInt32 → Nat → Array UInt32
  | 0, words, _ => words
  | steps + 1, words, i =>
    let changed := (word words i ^^^ (mixed (word words (i - 1)) * 1566083941)) - i.toUInt32
    let (words, next) := advance (words.setIfInBounds i changed) i
    stirPlaces steps words next

/-- The words of a natural number, the lowest first. -/
def keyWords (n : Nat) : List UInt32 :=
  if n < UInt32.size then [n.toUInt32] else n.toUInt32 :: keyWords (n / UInt32.size)
termination_by n
decreasing_by
  simp only [UInt32.size] at *
  omega

/-- The generator of a seed, whose sign does not count. -/
def ofSeed (seed : Int) : Generator :=
  let key := (keyWords seed.natAbs).toArray
  let (words, i) := stirKey key (max size key.size) (wordsOfNumber 19650218) 1 0
  ⟨(stirPlaces (size - 1) words i).setIfInBounds 0 0x80000000, size⟩

/-- Replace the word in a place. -/
def replace (words : Array UInt32) (i : Nat) : Array UInt32 :=
  let next := word words ((i + 1) % size)
  let joined := (word words i &&& 0x80000000) ||| (next &&& 0x7fffffff)
  let twisted := (joined >>> 1) ^^^ (if joined &&& 1 = 1 then 0x9908b0df else 0)
  words.setIfInBounds i (word words ((i + distance) % size) ^^^ twisted)

/-- Replace all words. -/
def twist (words : Array UInt32) : Array UInt32 :=
  (List.range size).foldl replace words

/-- A word as it is given out. -/
def temper (w : UInt32) : UInt32 :=
  let w := w ^^^ (w >>> 11)
  let w := w ^^^ ((w <<< 7) &&& 0x9d2c5680)
  let w := w ^^^ ((w <<< 15) &&& 0xefc60000)
  w ^^^ (w >>> 18)

/-- Draw a word. -/
def next (g : Generator) : UInt32 × Generator :=
  let fresh := if size ≤ g.used then ⟨twist g.words, 0⟩ else g
  (temper (word fresh.words fresh.used), { fresh with used := fresh.used + 1 })

/-- Draw a number with up to 32 bits: the upper bits of a word. -/
def bits (g : Generator) (count : Nat) : Nat × Generator :=
  let (w, g) := g.next
  (w.toNat >>> (32 - count), g)

/-- How often a number is drawn anew before the search for one that fits is given up. Half of
all draws fit, so this many never fail in practice. -/
def drawLimit : Nat := 1000

/-- Draw until the number is below a bound. -/
def drawBelow (bound : Nat) : Nat → Generator → Nat × Generator
  | 0, g => (0, g)
  | tries + 1, g =>
    let (n, g) := g.bits (bound.log2 + 1)
    if n < bound then (n, g) else drawBelow bound tries g

/-- Draw a number below a bound. -/
def below (g : Generator) (bound : Nat) : Nat × Generator :=
  if bound = 0 then (0, g) else drawBelow bound drawLimit g

end Generator

end DocGraph
