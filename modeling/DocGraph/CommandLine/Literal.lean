import DocGraph.CommandLine.Literal.Token

/-!
# Literals

Whether a text is a literal, which is a number, a text, bytes, one of the names of fixed values,
or a group of literals. A group stands in round brackets, or in braces, where all entries have a
value behind a colon or none has. A group in round brackets without a comma is what is inside.
Outside of brackets there may be a group without them.

A sign stands in front of a number without one. The only sums are those of a real and an
imaginary number. What can change after it was made, which is a group in braces or has one inside,
is no entry of a group in braces and stands in front of no colon.
-/

set_option autoImplicit false

namespace DocGraph

/-- What counts of a literal where it is a part of another one. -/
inductive LiteralShape where
  | number (imaginary signed : Bool)
  /-- Anything else that never changes. -/
  | fixed
  /-- What can change. -/
  | changeable
  deriving DecidableEq, Repr

/-- An entry of a group. -/
structure LiteralEntry where
  shape : LiteralShape
  /-- Whether a value stands behind it. -/
  hasValue : Bool
  deriving DecidableEq, Repr

/-- The entries of a group. -/
structure LiteralGroup where
  entries : List LiteralEntry := []
  /-- Whether a comma stands between entries or behind them. -/
  hasComma : Bool := false
  deriving DecidableEq, Repr

namespace LiteralGroup

/-- A group with one more entry at the front, and a comma behind it. -/
def cons (entry : LiteralEntry) (group : LiteralGroup) : LiteralGroup :=
  { entries := entry :: group.entries, hasComma := true }

/-- Whether nothing in a group can change. -/
def isFixed (group : LiteralGroup) : Bool :=
  group.entries.all (·.shape ≠ .changeable)

/-- A group in round brackets. -/
def round? (group : LiteralGroup) : Option LiteralShape :=
  if group.entries.any (·.hasValue) then none
  else
    match group.entries, group.hasComma with
    | [only], false => some only.shape
    | _, _ => some (if group.isFixed then .fixed else .changeable)

/-- A group in braces. -/
def braced? (group : LiteralGroup) : Option LiteralShape :=
  if group.isFixed && (group.entries.all (·.hasValue) || !group.entries.any (·.hasValue)) then
    some .changeable
  else none

end LiteralGroup

namespace LiteralShape

/-- What a name stands for. -/
def ofName? (name : List Char) : Option LiteralShape :=
  if String.ofList name ∈ ["True", "False", "None"] then some .fixed else none

/-- A number with a sign in front. -/
def withSign? : LiteralShape → Option LiteralShape
  | .number imaginary false => some (.number imaginary true)
  | _ => none

/-- A sum or a difference. -/
def sum? : LiteralShape → LiteralShape → Option LiteralShape
  | .number false _, .number true false => some .fixed
  | _, _ => none

/-- What is left behind a mark. -/
def afterMark? (c : Char) : List LiteralToken → Option (List LiteralToken)
  | .mark found :: rest => if found = c then some rest else none
  | _ => none

mutual

/-- A literal at the front of tokens, and what follows. No more steps are made than there is
fuel. -/
def read? : Nat → List LiteralToken → Option (LiteralShape × List LiteralToken)
  | 0, _ => none
  | fuel + 1, tokens => do
    let (left, rest) ←
      match tokens with
      | .mark '+' :: rest | .mark '-' :: rest =>
        (readOperand? fuel rest).bind fun (shape, rest) => shape.withSign?.map (·, rest)
      | tokens => readOperand? fuel tokens
    match rest with
    | .mark '+' :: rest | .mark '-' :: rest => do
      let (right, rest) ← readOperand? fuel rest
      return (← left.sum? right, rest)
    | rest => return (left, rest)

/-- A literal without a sign that is not a sum. -/
def readOperand? : Nat → List LiteralToken → Option (LiteralShape × List LiteralToken)
  | 0, _ => none
  | fuel + 1, tokens =>
    match tokens with
    | .number imaginary :: rest => some (.number imaginary false, rest)
    | .text :: rest => some (.fixed, rest.dropWhile (· = .text))
    | .bytes :: rest => some (.fixed, rest.dropWhile (· = .bytes))
    | .ellipsis :: rest => some (.fixed, rest)
    | .name ['s', 'e', 't'] :: .mark '(' :: .mark ')' :: rest => some (.changeable, rest)
    | .name name :: rest => (ofName? name).map (·, rest)
    | .mark '(' :: rest => do
      let (group, rest) ← readGroup? fuel rest
      return (← group.round?, ← afterMark? ')' rest)
    | .mark '{' :: rest => do
      let (group, rest) ← readGroup? fuel rest
      return (← group.braced?, ← afterMark? '}' rest)
    | _ => none

/-- The entries up to a closing bracket or the end. -/
def readGroup? : Nat → List LiteralToken → Option (LiteralGroup × List LiteralToken)
  | 0, _ => none
  | fuel + 1, tokens =>
    if tokens.isEmpty || tokens.head? = some (.mark ')') || tokens.head? = some (.mark '}') then
      some ({}, tokens)
    else do
      let (shape, rest) ← read? fuel tokens
      let (hasValue, rest) ←
        match rest with
        | .mark ':' :: rest => (read? fuel rest).map fun value => (true, value.2)
        | rest => some (false, rest)
      match rest with
      | .mark ',' :: rest => do
        let (group, rest) ← readGroup? fuel rest
        return (group.cons ⟨shape, hasValue⟩, rest)
      | rest => return ({ entries := [⟨shape, hasValue⟩] }, rest)

end

/-- Drop the ends of lines at both ends of tokens. -/
def trimLineEnds (tokens : List LiteralToken) : List LiteralToken :=
  ((tokens.dropWhile (· = .mark '\n')).reverse.dropWhile (· = .mark '\n')).reverse

/-- The shape of all tokens together. -/
def ofTokens? (tokens : List LiteralToken) : Option LiteralShape :=
  if tokens.isEmpty then none
  else do
    let (group, rest) ← readGroup? (4 * tokens.length + 4) tokens
    if rest.isEmpty then group.round? else none

/-- The shape of a literal. Nothing else has one. -/
def ofText? (s : List Char) : Option LiteralShape := do
  ofTokens? (trimLineEnds (← LiteralToken.tokens? s))

end LiteralShape

/-- Whether a text is a literal. -/
def isLiteral (s : List Char) : Bool :=
  (LiteralShape.ofText? s).isSome

end DocGraph
