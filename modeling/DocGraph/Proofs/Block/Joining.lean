import DocGraph.Proofs.Block.Behind
import DocGraph.Proofs.Block.Place

/-!
# Blocks that are put together

Two blocks with a line feed between them make one block. Their lines are the lines of the one block,
with perhaps an empty line between them (`Text.exists_lines_append_lineFeed`), and what is taken in from
a line does not depend on the lines before it. So the tokens of the one block are those of the two, and
the prefixes are those that either of them declares.

By `parse_append`, if the first block can be read and its last token is a full stop, what the second
block holds is read as it is by itself: with later labels, if prefixes keep their meaning, and with
errors on later lines, whatever the prefixes are.
-/

set_option autoImplicit false

namespace DocGraph.Block

/-- A failure that blames a line that is so many lines later. -/
def Failure.moved (d : Int) : Failure → Failure
  | .grammar e => .grammar (e.moved d)
  | .stalled line => .stalled (line + d)

/-- Tokens of lines with higher numbers stand so many lines later. -/
theorem numbered_moved (d number : Int) (lines : List (List Char)) :
    numbered (number + d) lines = (numbered number lines).map (Token.moved d) := by
  induction lines generalizing number with
  | nil => rfl
  | cons line rest ih =>
    have next : number + d + 1 = number + 1 + d := by omega
    rw [numbered, numbered, List.map_append, List.map_map, next, ih]
    rfl

/-- The tokens of some lines stand before those of the lines that follow. -/
theorem numbered_lines_append (number : Int) (a b : List (List Char)) :
    numbered number (a ++ b) = numbered number a ++ numbered (number + a.length) b := by
  induction a generalizing number with
  | nil => simp [numbered]
  | cons line a ih =>
    have next : number + 1 + a.length = number + (a.length + 1 : Nat) := by
      push_cast
      omega
    rw [List.cons_append, numbered, numbered, ih, next, List.length_cons, List.append_assoc]

/-! ## What is taken in from lines -/

/-- The prefixes that lines declare, in order. -/
def declared (lines : List (List Char)) : List (String × String) :=
  lines.filterMap fun line => declaration? (Text.trim line)

/-- What is taken in from a line does not depend on what was taken in before. -/
theorem addLine_again {acc next : Lexed} {number : Int} {line : List Char}
    (h : acc.addLine number (Text.trim line) = .ok next) (acc' : Lexed) (number' : Int) :
    acc'.addLine number' (Text.trim line) =
      .ok ⟨(declaration? (Text.trim line)).toList ++ acc'.prefixes,
        ((tokensOn line).map (Token.mk · number')).reverse ++ acc'.tokens⟩ := by
  cases declares : declaration? (Text.trim line) with
  | some binding =>
    have taken := addLine_declaration declares acc' number'
    have none_ := (addLine_ok taken).2
    rw [List.self_eq_append_left] at none_
    rw [taken, none_]
    rfl
  | none =>
    cases lineTaken_of_addLine h with
    | pass passed =>
      rw [(LineTaken.pass passed).addLine_eq]
      simp [tokensOn, passed]
    | declaration counts begins known => cases declares.symm.trans known
    | tokens counts plain read =>
      rw [(LineTaken.tokens counts plain read).addLine_eq]
      simp [tokensOn, counts, plain, read]

/-- A line that fails does so whatever was taken in before it, and on its own line. -/
theorem addLine_error_again {acc : Lexed} {number : Int} {line : List Char} {e : Failure}
    (h : acc.addLine number line = .error e) (acc' : Lexed) (d : Int) :
    acc'.addLine (number + d) line = .error (e.moved d) := by
  cases lineTaken_of_addLine h with
  | malformed counts begins missing => exact (LineTaken.malformed counts begins missing).addLine_eq
  | fault counts plain read => exact (LineTaken.fault counts plain read).addLine_eq
  | stall counts plain read => exact (LineTaken.stall counts plain read).addLine_eq

/-- Lines that are taken in are taken in whatever stands before them. -/
theorem addLines_again {lines : List (List Char)} {acc final : Lexed} {number : Int}
    (h : acc.addLines number lines = .ok final) (acc' : Lexed) (number' : Int) :
    acc'.addLines number' lines =
      .ok ⟨(declared lines).reverse ++ acc'.prefixes,
        (numbered number' lines).reverse ++ acc'.tokens⟩ := by
  induction lines generalizing acc number acc' number' with
  | nil => rfl
  | cons line rest ih =>
    rw [Lexed.addLines_cons] at h
    obtain ⟨next, taken, h⟩ := bind_eq_ok_iff.mp h
    rw [Lexed.addLines, addLine_again taken]
    dsimp only
    rw [ih h, numbered]
    cases declares : declaration? (Text.trim line) <;> simp [declared, declares]

/-- Lines that fail do so whatever was taken in before them, and on their own lines. -/
theorem addLines_error_again {lines : List (List Char)} {acc : Lexed} {number : Int} {e : Failure}
    (h : acc.addLines number lines = .error e) (acc' : Lexed) (d : Int) :
    acc'.addLines (number + d) lines = .error (e.moved d) := by
  induction lines generalizing acc number acc' with
  | nil => cases h
  | cons line rest ih =>
    rw [Lexed.addLines_cons] at h
    rcases bind_eq_error_iff.mp h with fails | ⟨next, taken, h⟩
    · rw [Lexed.addLines, addLine_error_again fails]
    · have number_ : number + d + 1 = number + 1 + d := by omega
      rw [Lexed.addLines, addLine_again taken]
      dsimp only
      rw [number_]
      exact ih h _

/-- Some lines are taken in before those that follow. -/
theorem addLines_append {a b : List (List Char)} {acc next : Lexed} {number : Int}
    (h : acc.addLines number a = .ok next) :
    acc.addLines number (a ++ b) = next.addLines (number + a.length) b := by
  induction a generalizing acc number with
  | nil =>
    cases h
    simp
  | cons line a ih =>
    rw [Lexed.addLines_cons] at h
    obtain ⟨mid, taken, h⟩ := bind_eq_ok_iff.mp h
    have number_ : number + 1 + a.length = number + (a.length + 1 : Nat) := by
      push_cast
      omega
    rw [List.cons_append, Lexed.addLines, taken]
    dsimp only
    rw [ih h, number_, List.length_cons]

/-! ## Two blocks -/

/-- The tokens of a block, without the lines that they stand on. -/
def tokensOf (block : String) : List Lexeme :=
  (Text.lines block.toList).flatMap tokensOn

/-- The prefixes that count in a block. -/
def prefixesOf (block : String) : PrefixTable :=
  (declared (Text.lines block.toList)).reverse ++ .standard

/-- The prefixes that a block uses stand for the same in another block. -/
def KeepsPrefixes (block whole : String) : Prop :=
  ∀ text, .prefixed text ∈ tokensOf block →
    (prefixesOf block).lookup (cutPrefix text).1 = (prefixesOf whole).lookup (cutPrefix text).1

/-- Where prefixes stand for the same, references are written in full alike. -/
theorem KeepsPrefixes.expandAlike {block whole : String} (h : KeepsPrefixes block whole) :
    ExpandAlike (prefixesOf block) (prefixesOf whole) (tokensOf block) := by
  intro text member
  have same := h text member
  unfold PrefixTable.expand
  dsimp only
  rw [same]

/-- With or without numbers, the tokens of a block are the same. -/
theorem numbered_tokensOf (block : String) (number : Int) :
    (numbered number (Text.lines block.toList)).map Token.lexeme = tokensOf block :=
  numbered_lexemes number _

/-- What is taken in from the lines of a block. -/
theorem lexed_eq {block : String} {number : Int} {final : Lexed}
    (h : Lexed.empty.addLines number (Text.lines block.toList) = .ok final) :
    final.prefixes = prefixesOf block ∧
      final.tokens = (numbered number (Text.lines block.toList)).reverse := by
  have again := addLines_again h Lexed.empty number
  rw [h] at again
  cases again
  exact ⟨rfl, List.append_nil _⟩

/-- The tokens of a block are those that are taken in. -/
theorem tokensOf_eq {block : String} {number : Int} {final : Lexed}
    (h : Lexed.empty.addLines number (Text.lines block.toList) = .ok final) :
    tokensOf block = final.tokens.reverse.map Token.lexeme := by
  rw [(lexed_eq h).2, List.reverse_reverse, numbered_tokensOf]

/-- To parse a block whose lines are taken in is to read its tokens. -/
theorem parse_of_addLines {block : String} {number : Int} {final : Lexed}
    (h : Lexed.empty.addLines number (Text.lines block.toList) = .ok final) :
    parse block number = (statements (prefixesOf block)
      (numbered number (Text.lines block.toList))).mapError .grammar := by
  obtain ⟨prefixes, tokens⟩ := lexed_eq h
  have read : parse block number =
      (statements final.prefixes final.tokens.reverse).mapError .grammar := by
    rw [parse, h]
    rfl
  rw [read, prefixes, tokens, List.reverse_reverse]

/-- Of a block that is parsed the lines are taken in and the tokens are read. -/
theorem exists_addLines_of_parse {block : String} {number : Int} {ts : List Triple}
    (h : parse block number = .ok ts) :
    (∃ final, Lexed.empty.addLines number (Text.lines block.toList) = .ok final) ∧
      statements (prefixesOf block) (numbered number (Text.lines block.toList)) = .ok ts := by
  have read := h
  obtain ⟨final, taken, -⟩ := bind_eq_ok_iff.mp h
  rw [parse_of_addLines taken] at read
  exact ⟨⟨final, taken⟩, mapError_eq_ok_iff.mp read⟩

/-! ### Empty lines hold nothing -/

section Empty

variable {blank : List (List Char)} (empty : ∀ l ∈ blank, l = [])

include empty

/-- An empty line declares nothing. -/
theorem declared_of_empty : declared blank = [] := by
  refine List.filterMap_eq_nil_iff.mpr fun l member => ?_
  rw [empty l member]
  rfl

/-- An empty line has no tokens. -/
theorem numbered_of_empty (number : Int) : numbered number blank = [] := by
  induction blank generalizing number with
  | nil => rfl
  | cons l blank ih =>
    obtain ⟨rfl, others⟩ := List.forall_mem_cons.mp empty
    rw [numbered, ih others]
    rfl

/-- An empty line changes nothing. -/
theorem addLines_of_empty (acc : Lexed) (number : Int) : acc.addLines number blank = .ok acc := by
  induction blank generalizing number with
  | nil => rfl
  | cons l blank ih =>
    obtain ⟨rfl, others⟩ := List.forall_mem_cons.mp empty
    exact ih others (number + 1)

end Empty

/-! ### The whole -/

/-- The line feed behind the first block ends its last line, or an empty line. -/
theorem exists_lines_join (first : String) :
    ∃ blank : List (List Char), (∀ l ∈ blank, l = []) ∧
      Text.lines (first ++ "\n").toList = Text.lines first.toList ++ blank ∧
      ∀ second : String, Text.lines (first ++ "\n" ++ second).toList =
        Text.lines (first ++ "\n").toList ++ Text.lines second.toList := by
  obtain ⟨blank, empty, split⟩ := Text.exists_lines_append_lineFeed first.toList
  have feed : (first ++ "\n").toList = first.toList ++ ['\n'] := String.toList_append
  have ended : Text.lines (first ++ "\n").toList = Text.lines first.toList ++ blank := by
    rw [feed, split, show Text.lines [] = [] from rfl, List.append_nil]
  refine ⟨blank, empty, ended, fun second => ?_⟩
  rw [ended, String.toList_append, feed, List.append_assoc, List.singleton_append, split,
    List.append_assoc]

variable {first second : String} {number : Int} {lexed : Lexed}

/-- A line break at the end of a block changes nothing. -/
theorem addLines_ended (taken : Lexed.empty.addLines number (Text.lines first.toList) = .ok lexed) :
    Lexed.empty.addLines number (Text.lines (first ++ "\n").toList) = .ok lexed ∧
      numbered number (Text.lines (first ++ "\n").toList) =
        numbered number (Text.lines first.toList) := by
  obtain ⟨blank, empty, ended, -⟩ := exists_lines_join first
  rw [ended]
  constructor
  · rw [addLines_append taken, addLines_of_empty empty]
  · rw [numbered_lines_append, numbered_of_empty empty, List.append_nil]

/-- The prefixes of the second block count before those of the first one. -/
theorem prefixesOf_join (first second : String) :
    prefixesOf (first ++ "\n" ++ second) =
      (declared (Text.lines second.toList)).reverse ++ prefixesOf first := by
  obtain ⟨blank, empty, ended, lines⟩ := exists_lines_join first
  have none_ := declared_of_empty empty
  rw [declared] at none_
  rw [prefixesOf, declared, lines, ended, List.filterMap_append, List.filterMap_append, none_,
    List.append_nil, List.reverse_append, List.append_assoc]
  rfl

/-- If the lines of two blocks are taken in, those of the joined block are, the second ones later.
-/
theorem parse_join {lexed' : Lexed}
    (taken : Lexed.empty.addLines number (Text.lines first.toList) = .ok lexed)
    (taken' : Lexed.empty.addLines number (Text.lines second.toList) = .ok lexed') :
    parse (first ++ "\n" ++ second) number = (statements (prefixesOf (first ++ "\n" ++ second))
      (numbered number (Text.lines first.toList) ++ (numbered number (Text.lines second.toList)).map
        (Token.moved (Text.lines (first ++ "\n").toList).length))).mapError .grammar := by
  obtain ⟨ended, same⟩ := addLines_ended taken
  obtain ⟨-, -, -, lines⟩ := exists_lines_join first
  obtain ⟨final, whole⟩ : ∃ final, Lexed.empty.addLines number
      (Text.lines (first ++ "\n" ++ second).toList) = .ok final := by
    rw [lines, addLines_append ended]
    exact ⟨_, addLines_again taken' _ _⟩
  rw [parse_of_addLines whole, lines, numbered_lines_append, same, numbered_moved]

/-- If a line of the second block fails, the joined block fails there. -/
theorem parse_join_error {e : Failure}
    (taken : Lexed.empty.addLines number (Text.lines first.toList) = .ok lexed)
    (fails : Lexed.empty.addLines number (Text.lines second.toList) = .error e) :
    parse (first ++ "\n" ++ second) number =
      .error (e.moved (Text.lines (first ++ "\n").toList).length) := by
  obtain ⟨ended, -⟩ := addLines_ended taken
  obtain ⟨-, -, -, lines⟩ := exists_lines_join first
  rw [parse, lines, addLines_append ended, addLines_error_again fails]
  rfl

/-- If the first of two blocks ends with a full stop, the blocks together are read as the first one and
behind it the second one. Where prefixes keep their meaning, the triples of the second one only get
later labels. An error in the second one is on a later line, by as many lines as the first one has. -/
theorem parse_append {ts : List Triple} (reads : parse first number = .ok ts)
    (stopped : (tokensOf first).getLast? = some .stop) (second : String) :
    (∀ ts', parse second number = .ok ts' → KeepsPrefixes first (first ++ "\n" ++ second) →
        KeepsPrefixes second (first ++ "\n" ++ second) →
        parse (first ++ "\n" ++ second) number =
          .ok (ts ++ ts'.map (Triple.relabel id (laterLabel (labelsOfAll ts).length)))) ∧
      ∀ e, parse second number = .error (.grammar e) → ∃ line, e.line = some line ∧
        parse (first ++ "\n" ++ second) number = .error (.grammar
          ⟨e.fault, some (line + (Text.lines (first ++ "\n").toList).length)⟩) := by
  obtain ⟨⟨lexed, taken⟩, read⟩ := exists_addLines_of_parse reads
  rw [← numbered_tokensOf first number] at stopped
  constructor
  · intro ts' reads' keeps keeps'
    obtain ⟨⟨lexed', taken'⟩, read'⟩ := exists_addLines_of_parse reads'
    have alike := keeps.expandAlike
    have alike' := keeps'.expandAlike
    rw [← numbered_tokensOf _ number] at alike alike'
    rw [parse_join taken taken', statements_append read stopped read' ?_ alike alike']
    · rfl
    · rw [List.map_map]
      rfl
  · intro e fails
    have moved : ∀ {line : Int} (d : Int), e.line = some line →
        e.moved d = ⟨e.fault, some (line + d)⟩ := by
      intro line d named
      rw [GrammarError.moved, named]
      rfl
    cases taken' : Lexed.empty.addLines number (Text.lines second.toList) with
    | error failure =>
      rw [parse, taken'] at fails
      cases fails
      obtain ⟨earlier, faulty, later, -, -, -, named⟩ := addLines_error taken'
      refine ⟨_, named, ?_⟩
      rw [parse_join_error taken taken', Failure.moved, moved _ named]
    | ok lexed' =>
      rw [parse_of_addLines taken'] at fails
      cases result : statements (prefixesOf second)
          (numbered number (Text.lines second.toList)) with
      | ok ts' =>
        rw [result] at fails
        cases fails
      | error e' =>
        rw [result] at fails
        cases fails
        obtain ⟨-, t, -, -, named, -⟩ := statements_blames result
        refine ⟨t.line, named, ?_⟩
        rw [parse_join taken taken', statements_append_error read stopped result, moved _ named]
        rfl

/-! ### An example -/

/-- A block that ends with a full stop on a line of its own, behind a semicolon. -/
def earlierBlock : String :=
  "@prefix x: <urn:x#> .\nx:a <p> [ ] ;\n."

/-- The triples of the first block. -/
def earlierTriples : List Triple :=
  [.mk "urn:x#a" "p" (.blank "_:b0" [])]

/-- A block with a node in another one. -/
def laterBlock : String :=
  "<b> code:name [ <q> [ ] ] ."

/-- A block with a bracket that closes nothing, on its second line. -/
def faultyBlock : String :=
  "# b\n<b> <p> ]"

deriving instance DecidableEq for Lexed

/-- What is taken in from the lines of the three blocks. -/
theorem addLines_of_blocks :
    Lexed.empty.addLines 1 (Text.lines earlierBlock.toList) =
        .ok ⟨("x", "urn:x#") :: PrefixTable.standard, [⟨.stop, 3⟩, ⟨.semicolon, 2⟩,
          ⟨.closeBracket, 2⟩, ⟨.openBracket, 2⟩, ⟨.uri "p", 2⟩, ⟨.prefixed "x:a", 2⟩]⟩ ∧
      Lexed.empty.addLines 1 (Text.lines laterBlock.toList) =
        .ok ⟨PrefixTable.standard, [⟨.stop, 1⟩, ⟨.closeBracket, 1⟩, ⟨.closeBracket, 1⟩,
          ⟨.openBracket, 1⟩, ⟨.uri "q", 1⟩, ⟨.openBracket, 1⟩, ⟨.prefixed "code:name", 1⟩,
          ⟨.uri "b", 1⟩]⟩ ∧
      Lexed.empty.addLines 1 (Text.lines faultyBlock.toList) =
        .ok ⟨PrefixTable.standard, [⟨.closeBracket, 2⟩, ⟨.uri "p", 2⟩, ⟨.uri "b", 2⟩]⟩ := by
  decide +kernel

/-- What the first block stands for. -/
theorem parse_earlierBlock : parse earlierBlock 1 = .ok earlierTriples := by
  rw [parse, addLines_of_blocks.1]
  rfl

/-- What the second block stands for by itself. -/
theorem parse_laterBlock : parse laterBlock 1 = .ok [.mk "b" "https://schema.codedoc.org/name"
    (.blank "_:b0" [.mk "_:b0" "q" (.blank "_:b1" [])])] := by
  rw [parse, addLines_of_blocks.2.1]
  rfl

/-- How the third block fails by itself. -/
theorem parse_faultyBlock :
    parse faultyBlock 1 = .error (.grammar ⟨.notAnObject "]", some 2⟩) := by
  rw [parse, addLines_of_blocks.2.2]
  rfl

/-- The prefix that the first block declares is not used in the second one. -/
theorem keepsPrefixes_of_blocks :
    KeepsPrefixes earlierBlock (earlierBlock ++ "\n" ++ laterBlock) ∧
      KeepsPrefixes laterBlock (earlierBlock ++ "\n" ++ laterBlock) := by
  obtain ⟨taken, taken', -⟩ := addLines_of_blocks
  have own := (lexed_eq taken).1
  have none_ : declared (Text.lines laterBlock.toList) = [] := by
    have standard := (lexed_eq taken').1
    rwa [prefixesOf, List.self_eq_append_left, List.reverse_eq_nil_iff] at standard
  have whole : prefixesOf (earlierBlock ++ "\n" ++ laterBlock) = prefixesOf earlierBlock := by
    rw [prefixesOf_join, none_, List.reverse_nil, List.nil_append]
  constructor
  · intro text _
    rw [whole]
  · intro text member
    rw [tokensOf_eq taken'] at member
    obtain rfl : text = "code:name" := by simpa using member
    rw [whole, ← own, ← (lexed_eq taken').1]
    rfl

/-- Behind the first block the second one has later labels, and the third one fails three lines
later. -/
theorem parse_append_earlierBlock :
    parse earlierBlock 1 = .ok earlierTriples ∧
      (tokensOf earlierBlock).getLast? = some .stop ∧
      parse (earlierBlock ++ "\n" ++ laterBlock) 1 =
        .ok (earlierTriples ++ [.mk "b" "https://schema.codedoc.org/name"
          (.blank "_:b1" [.mk "_:b1" "q" (.blank "_:b2" [])])]) ∧
      parse (earlierBlock ++ "\n" ++ faultyBlock) 1 =
        .error (.grammar ⟨.notAnObject "]", some 5⟩) := by
  have stopped : (tokensOf earlierBlock).getLast? = some .stop := by
    rw [tokensOf_eq addLines_of_blocks.1]
    rfl
  obtain ⟨keeps, keeps'⟩ := keepsPrefixes_of_blocks
  have read := (parse_append parse_earlierBlock stopped laterBlock).1 _ parse_laterBlock keeps
    keeps'
  obtain ⟨line, named, blamed⟩ := (parse_append parse_earlierBlock stopped faultyBlock).2 _
    parse_faultyBlock
  have lines : (Text.lines (earlierBlock ++ "\n").toList).length = 3 := rfl
  refine ⟨parse_earlierBlock, stopped, read.trans ?_, blamed.trans ?_⟩
  · rfl
  · cases named
    rw [lines]
    rfl

end DocGraph.Block
