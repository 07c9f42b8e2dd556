import DocGraph.Text.Alphanumeric
import DocGraph.Text.Blank
import DocGraph.Text.Occurrence
import DocGraph.Block.GrammarError

/-!
# Tokens

A line of a block is a sequence of tokens: references in angle brackets, quoted texts,
brackets, separators, full stops, and words. A full stop that ends a word ends the statement
when a blank or the end of the line follows; elsewhere it belongs to the word. A language tag
or a datatype behind a quoted text is read and dropped.

`scan` reads at the front of a line and leaves the rest; `Scanned` lists what it may find there. It
makes progress on every character but a closing angle bracket, on which the reading of a line gets
stuck.
-/

set_option autoImplicit false

namespace DocGraph.Block

/-- What a token is. -/
inductive Lexeme where
  /-- A reference that stood in angle brackets. -/
  | uri (text : String)
  /-- A word with a prefix, a colon and a local part. -/
  | prefixed (text : String)
  /-- The value of a quoted text. -/
  | quoted (text : String)
  /-- Any other word. -/
  | word (text : String)
  | openBracket
  | closeBracket
  | semicolon
  | comma
  | stop
  deriving DecidableEq, Repr

/-- The text of a token, as messages show it. -/
def Lexeme.text : Lexeme → String
  | .uri text => text
  | .prefixed text => text
  | .quoted text => text
  | .word text => text
  | .openBracket => "["
  | .closeBracket => "]"
  | .semicolon => ";"
  | .comma => ","
  | .stop => "."

/-- A token and the line it stands on. -/
structure Token where
  lexeme : Lexeme
  line : Int
  deriving DecidableEq, Repr

/-- Whether a character ends a word. -/
def endsWord (c : Char) : Bool :=
  c ∈ [' ', '\t', '<', '>', '"', '[', ']', ';', ',']

/-- Whether the name of a prefix may start with a character. -/
def startsPrefix (c : Char) : Bool :=
  c.isAlpha || c = '_'

/-- Whether the name of a prefix may go on with a character. -/
def continuesPrefix (c : Char) : Bool :=
  Text.isWordChar c || c = '.' || c = '-'

/-- The name of a prefix, which may be empty, at the front of a text that goes on with a colon;
and what comes after the colon. -/
def prefixName? (s : List Char) : Option (List Char × List Char) :=
  match s with
  | ':' :: rest => some ([], rest)
  | c :: rest =>
    if startsPrefix c then
      match rest.dropWhile continuesPrefix with
      | ':' :: after => some (c :: rest.takeWhile continuesPrefix, after)
      | _ => none
    else none
  | [] => none

/-- A word as a token: prefixed if it starts with a prefix and its local part has no blanks. -/
def Lexeme.ofWord (word : List Char) : Lexeme :=
  match prefixName? word with
  | some (_, rest) =>
    if rest.any Text.isBlank then .word (String.ofList word) else .prefixed (String.ofList word)
  | none => .word (String.ofList word)

/-- Whether a full stop before this text ends a statement. -/
def endsStatement : List Char → Bool
  | [] => true
  | c :: _ => Text.isBlank c

/-- The character that a character after a backslash stands for. -/
def unescape (c : Char) : Char :=
  if c = 'n' then '\n' else if c = 't' then '\t' else if c = 'r' then '\r' else c

/-- The text after the first closing angle bracket, which is none if there is no bracket. -/
def afterUri (s : List Char) : List Char :=
  (s.dropWhile (· != '>')).tail

/-- What is left after the word that names a datatype. A full stop at its end is left as well
if it ends the statement. -/
def afterDatatype (s : List Char) : List Char :=
  let rest := s.dropWhile fun c => !endsWord c
  if endsStatement rest && (s.takeWhile fun c => !endsWord c).getLast? = some '.' then
    '.' :: rest
  else rest

/-- What is left after the language tag or the datatype that may follow a quoted text. -/
def afterSuffix : List Char → List Char
  | '@' :: rest => rest.dropWhile fun c => Text.isAlphanumeric c || c = '-'
  | '^' :: '^' :: '<' :: rest => afterUri rest
  | '^' :: '^' :: rest => afterDatatype rest
  | rest => rest

/-- Read a quoted text up to its closing quote, given the characters already read, newest
first. Gives the value and what comes after the quote, or nothing if the quote is missing. -/
def readQuotedFrom (value : List Char) : List Char → Option (List Char × List Char)
  | [] => none
  | '\\' :: c :: rest => readQuotedFrom (unescape c :: value) rest
  | '"' :: rest => some (value.reverse, rest)
  | c :: rest => readQuotedFrom (c :: value) rest

/-- Read what follows an opening quote: the value, and what is left after the closing quote
and its suffix. -/
def readQuoted (s : List Char) : Option (List Char × List Char) :=
  (readQuotedFrom [] s).map fun (value, rest) => (value, afterSuffix rest)

/-- Read a reference after its opening bracket: its text, and what is left after the closing
bracket. -/
def readUri (s : List Char) : Option (List Char × List Char) :=
  match s.dropWhile (· != '>') with
  | [] => none
  | _ :: rest => some (s.takeWhile (· != '>'), rest)

/-- The tokens of a word that stands before `rest`: a full stop at its end is a token of its
own if it ends the statement and is not all of the word. -/
def wordLexemes (word rest : List Char) : List Lexeme :=
  if endsStatement rest && word.getLast? = some '.' && 1 < word.length then
    [.ofWord word.dropLast, .stop]
  else [.ofWord word]

/-- Read at the front of a line that starts with `c`: the tokens found there, which are none at
a blank, and what is left of the line. -/
def scan (c : Char) (rest : List Char) : Except Fault (List Lexeme × List Char) :=
  if Text.isBlank c then .ok ([], rest)
  else if c = '<' then
    match readUri rest with
    | some (text, after) => .ok ([.uri (String.ofList text)], after)
    | none => .error .unterminatedUri
  else if c = '"' then
    match readQuoted rest with
    | some (value, after) => .ok ([.quoted (String.ofList value)], after)
    | none => .error .unterminatedString
  else if c = '[' then .ok ([.openBracket], rest)
  else if c = ']' then .ok ([.closeBracket], rest)
  else if c = ';' then .ok ([.semicolon], rest)
  else if c = ',' then .ok ([.comma], rest)
  else if c = '.' && endsStatement rest then .ok ([.stop], rest)
  else
    let word := (c :: rest).takeWhile fun c => !endsWord c
    let after := (c :: rest).dropWhile fun c => !endsWord c
    .ok (wordLexemes word after, after)

/-- What is found at the front of a line that starts with `c`, and what is left of the line. -/
inductive Scanned (c : Char) (rest : List Char) : List Lexeme → List Char → Prop
  | blank (blank : Text.isBlank c = true) : Scanned c rest [] rest
  | reference {text after : List Char} (bracket : c = '<')
      (read : readUri rest = some (text, after)) :
      Scanned c rest [.uri (String.ofList text)] after
  | quoted {value after : List Char} (quote : c = '"')
      (read : readQuoted rest = some (value, after)) :
      Scanned c rest [.quoted (String.ofList value)] after
  | openBracket (sign : c = '[') : Scanned c rest [.openBracket] rest
  | closeBracket (sign : c = ']') : Scanned c rest [.closeBracket] rest
  | semicolon (sign : c = ';') : Scanned c rest [.semicolon] rest
  | comma (sign : c = ',') : Scanned c rest [.comma] rest
  | stop (sign : c = '.') (ends : endsStatement rest = true) : Scanned c rest [.stop] rest
  /-- Anything else is read up to the end of a word. A closing angle bracket ends the word before it
  begins. -/
  | word (plain : Text.isBlank c = false) (inside : c ≠ '>' → endsWord c = false)
      (goesOn : (c = '.' && endsStatement rest) = false) :
      Scanned c rest
        (wordLexemes ((c :: rest).takeWhile fun c => !endsWord c)
          ((c :: rest).dropWhile fun c => !endsWord c))
        ((c :: rest).dropWhile fun c => !endsWord c)

variable {c : Char} {rest after : List Char} {found : List Lexeme}

/-- What may be found at the front of a line is what `scan` finds. -/
theorem Scanned.scan_eq (h : Scanned c rest found after) : scan c rest = .ok (found, after) := by
  cases h with
  | blank blank => simp [scan, blank]
  | reference bracket read =>
    rw [bracket, scan, read]
    rfl
  | quoted quote read =>
    rw [quote, scan, read]
    rfl
  | openBracket sign | closeBracket sign | semicolon sign | comma sign =>
    rw [sign]
    rfl
  | stop sign ends =>
    rw [sign, scan, ends]
    rfl
  | word plain inside goesOn =>
    have other : c ≠ '<' ∧ c ≠ '"' ∧ c ≠ '[' ∧ c ≠ ']' ∧ c ≠ ';' ∧ c ≠ ',' := by
      refine ⟨?_, ?_, ?_, ?_, ?_, ?_⟩ <;>
      · rintro rfl
        exact absurd (inside (by decide)) (by decide)
    simp only [scan, plain, other, goesOn, if_false, Bool.false_eq_true]

/-- Nothing else is found at the front of a line. -/
theorem scanned_of_scan (h : scan c rest = .ok (found, after)) : Scanned c rest found after := by
  revert h
  fun_cases scan c rest with
  | case1 blank =>
    intro h
    cases h
    exact .blank blank
  | case2 plain bracket text after' read =>
    intro h
    cases h
    exact .reference bracket read
  | case3 => exact fun h => nomatch h
  | case4 plain noUri quote value after' read =>
    intro h
    cases h
    exact .quoted quote read
  | case5 => exact fun h => nomatch h
  | case6 plain noUri noQuote sign =>
    intro h
    cases h
    exact .openBracket sign
  | case7 plain noUri noQuote noOpen sign =>
    intro h
    cases h
    exact .closeBracket sign
  | case8 plain noUri noQuote noOpen noClose sign =>
    intro h
    cases h
    exact .semicolon sign
  | case9 plain noUri noQuote noOpen noClose noSemicolon sign =>
    intro h
    cases h
    exact .comma sign
  | case10 plain noUri noQuote noOpen noClose noSemicolon noComma sign =>
    intro h
    cases h
    obtain ⟨sign, ends⟩ := Bool.and_eq_true_iff.mp sign
    exact .stop (of_decide_eq_true sign) ends
  | case11 plain noUri noQuote noOpen noClose noSemicolon noComma noStop =>
    intro h
    obtain ⟨sameFound, sameAfter⟩ := Prod.mk.inj (Except.ok.inj h)
    rw [← sameFound, ← sameAfter]
    refine .word (eq_false_of_ne_true plain) (fun closed => ?_) (eq_false_of_ne_true noStop)
    -- Of the characters that end a word only a blank one is left.
    have space : c ≠ ' ' := by
      rintro rfl
      exact plain (by decide)
    have tab : c ≠ '\t' := by
      rintro rfl
      exact plain (by decide)
    simp [endsWord, closed, space, tab, noUri, noQuote, noOpen, noClose, noSemicolon, noComma]

/-- A quoted text takes off at least its closing quote. -/
theorem length_readQuotedFrom_lt {value s text after : List Char}
    (h : readQuotedFrom value s = some (text, after)) : after.length < s.length := by
  fun_induction readQuotedFrom value s with
  | case1 => simp at h
  | case2 value c rest ih => exact Nat.lt_succ_of_lt (Nat.lt_succ_of_lt (ih h))
  | case3 value rest =>
    simp only [Option.some.injEq, Prod.mk.injEq] at h
    simp [← h.2]
  | case4 value c rest _ _ ih => exact Nat.lt_succ_of_lt (ih h)

/-- Nothing is added behind a reference. -/
theorem length_afterUri_le (s : List Char) : (afterUri s).length ≤ s.length := by
  have := (List.dropWhile_suffix (· != '>') (l := s)).length_le
  simp only [afterUri, List.length_tail]
  omega

/-- Nothing is added behind the name of a datatype. -/
theorem length_afterDatatype_le (s : List Char) : (afterDatatype s).length ≤ s.length := by
  have hsum := congrArg List.length
    (List.takeWhile_append_dropWhile (p := fun c => !endsWord c) (l := s))
  rw [List.length_append] at hsum
  unfold afterDatatype
  dsimp only
  split
  · rename_i h
    simp only [Bool.and_eq_true, decide_eq_true_eq] at h
    have hpos : 0 < (s.takeWhile fun c => !endsWord c).length := by
      cases hw : s.takeWhile fun c => !endsWord c with
      | nil => simp [hw] at h
      | cons => simp
    simp only [List.length_cons]
    omega
  · omega

/-- Nothing is added behind a language tag or a datatype. -/
theorem length_afterSuffix_le (s : List Char) : (afterSuffix s).length ≤ s.length := by
  unfold afterSuffix
  split
  · exact Nat.le_succ_of_le (List.dropWhile_suffix _).length_le
  · rename_i rest
    have := length_afterUri_le rest
    simp only [List.length_cons]
    omega
  · rename_i rest _
    have := length_afterDatatype_le rest
    simp only [List.length_cons]
    omega
  · exact Nat.le_refl _

/-- A quoted text with its suffix takes off at least its closing quote. -/
theorem length_readQuoted_lt {s text after : List Char}
    (h : readQuoted s = some (text, after)) : after.length < s.length := by
  obtain ⟨⟨value, rest⟩, hread, heq⟩ := Option.map_eq_some_iff.1 h
  simp only [Prod.mk.injEq] at heq
  rw [← heq.2]
  exact Nat.lt_of_le_of_lt (length_afterSuffix_le rest) (length_readQuotedFrom_lt hread)

/-- A reference takes off at least its closing bracket. -/
theorem length_readUri_lt {s text after : List Char}
    (h : readUri s = some (text, after)) : after.length < s.length := by
  have hle := (List.dropWhile_suffix (· != '>') (l := s)).length_le
  unfold readUri at h
  split at h
  · simp at h
  · rename_i x rest hd
    simp only [Option.some.injEq, Prod.mk.injEq] at h
    rw [hd, List.length_cons] at hle
    rw [← h.2]
    omega

/-- Reading at the front of a line shortens it, unless a closing angle bracket stands there. -/
theorem length_scan_lt (hc : c ≠ '>') (h : scan c rest = .ok (found, after)) :
    after.length < (c :: rest).length := by
  cases scanned_of_scan h with
  | blank | openBracket | closeBracket | semicolon | comma | stop => exact Nat.lt_succ_self _
  | reference bracket read => exact Nat.lt_succ_of_lt (length_readUri_lt read)
  | quoted quote read => exact Nat.lt_succ_of_lt (length_readQuoted_lt read)
  | word plain inside goesOn =>
    have hdrop := (List.dropWhile_suffix (fun c => !endsWord c) (l := rest)).length_le
    rw [List.dropWhile_cons]
    simp only [inside hc, Bool.not_false, if_true, List.length_cons]
    omega

/-- The tokens of what is left of a line, given those already found, newest first. -/
def lexemesFrom (found : List Lexeme) : List Char → Except (Option Fault) (List Lexeme)
  | [] => .ok found.reverse
  | c :: rest =>
    match _found : scan c rest with
    | .error fault => .error (some fault)
    | .ok (next, after) =>
      if _stuck : c = '>' then .error none
      else lexemesFrom (next.reverse ++ found) after
termination_by s => s.length
decreasing_by exact length_scan_lt _stuck _found

/-- The tokens of a line. The error is a fault of the line, or nothing where the reading gets
stuck. -/
def lexemes (line : List Char) : Except (Option Fault) (List Lexeme) :=
  lexemesFrom [] line

end DocGraph.Block
