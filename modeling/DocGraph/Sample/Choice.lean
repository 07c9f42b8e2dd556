import DocGraph.Sample.Generator

/-!
# Choosing without replacement

Choosing a number of different positions at random. If few are left out, they are taken from a
pool, in which the last one moves up to the place that is freed; else positions are drawn until
one is new. Which way is cheaper is judged by the size of a table for those already chosen.
-/

set_option autoImplicit false

namespace DocGraph

namespace Generator

/-- Take elements out of a pool. -/
def takeFrom {α : Type} : Nat → List α → Generator → List α × Generator
  | 0, _, g => ([], g)
  | count + 1, pool, g =>
    let (i, g) := g.below pool.length
    match pool[i]?, pool.getLast? with
    | some x, some last =>
      let (more, g) := takeFrom count (pool.set i last).dropLast g
      (x :: more, g)
    | _, _ => ([], g)

/-- Draw a number below a bound until it is not among those taken. -/
def drawNew (bound : Nat) (taken : List Nat) : Nat → Generator → Nat × Generator
  | 0, g => (((List.range bound).find? fun i => i ∉ taken).getD 0, g)
  | tries + 1, g =>
    let (n, g) := g.below bound
    if n ∈ taken then drawNew bound taken tries g else (n, g)

/-- Draw different numbers below a bound, given those already taken, newest first. -/
def drawDistinct (bound : Nat) : Nat → List Nat → Generator → List Nat × Generator
  | 0, taken, g => (taken.reverse, g)
  | count + 1, taken, g =>
    let (n, g) := drawNew bound taken drawLimit g
    drawDistinct bound count (n :: taken) g

/-- The least power of four that is not below a number, counted up to from a given one. -/
def powerOfFour (n : Nat) : Nat → Nat → Nat
  | 0, power => power
  | steps + 1, power => if n ≤ power then power else powerOfFour n steps (power * 4)

/-- The size of a table for so many chosen positions. -/
def tableSize (count : Nat) : Nat :=
  21 + if 5 < count then powerOfFour (3 * count) (3 * count) 1 else 0

/-- Choose different positions in a list of some length. -/
def positions (g : Generator) (length count : Nat) : List Nat × Generator :=
  if length ≤ tableSize count then takeFrom count (List.range length) g
  else drawDistinct length count [] g

/-- Choose elements of a list, each position at most once. -/
def choose {α : Type} (g : Generator) (xs : List α) (count : Nat) : List α × Generator :=
  let (chosen, g) := g.positions xs.length count
  (chosen.filterMap fun i => xs[i]?, g)

end Generator

end DocGraph
