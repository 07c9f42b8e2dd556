/-!
# Reading UTF-8

Decoding bytes to text without ever failing. Where the bytes are not well formed, the longest
start of a sequence that some well-formed text continues, or else one byte, is replaced by
U+FFFD.
-/

set_option autoImplicit false

namespace DocGraph.Text

/-- What a lead byte announces: how many bytes follow, the range of the first of them, and the
bits it carries itself. -/
structure Lead where
  following : Nat
  low : UInt8
  high : UInt8
  bits : Nat

/-- What a byte above 0x7F announces when it opens a sequence. -/
def lead? (b : UInt8) : Option Lead :=
  if b < 0xC2 then none
  else if b < 0xE0 then some ⟨1, 0x80, 0xBF, b.toNat - 0xC0⟩
  else if b = 0xE0 then some ⟨2, 0xA0, 0xBF, 0⟩
  else if b = 0xED then some ⟨2, 0x80, 0x9F, 0xD⟩
  else if b < 0xF0 then some ⟨2, 0x80, 0xBF, b.toNat - 0xE0⟩
  else if b = 0xF0 then some ⟨3, 0x90, 0xBF, 0⟩
  else if b < 0xF4 then some ⟨3, 0x80, 0xBF, b.toNat - 0xF0⟩
  else if b = 0xF4 then some ⟨3, 0x80, 0x8F, 4⟩
  else none

/-- Read the bytes that a lead byte announced, of which the next lies between `low` and `high`.
Gives the code point, or nothing when a byte does not fit, and the bytes not read. -/
def readFollowing (low high : UInt8) (code : Nat) :
    Nat → List UInt8 → Option Nat × List UInt8
  | 0, bytes => (some code, bytes)
  | _ + 1, [] => (none, [])
  | n + 1, b :: bytes =>
    if low ≤ b && b ≤ high then readFollowing 0x80 0xBF (code * 64 + (b.toNat - 0x80)) n bytes
    else (none, b :: bytes)

/-- The character that takes the place of bytes that are not well formed. -/
def replacement : Char := '\ufffd'

/-- The first character of a text that starts with `b`, and the bytes after it. -/
def decodeChar (b : UInt8) (bytes : List UInt8) : Char × List UInt8 :=
  if b < 0x80 then (Char.ofNat b.toNat, bytes)
  else
    match lead? b with
    | none => (replacement, bytes)
    | some l =>
      let (code, rest) := readFollowing l.low l.high l.bits l.following bytes
      ((code.map Char.ofNat).getD replacement, rest)

/-- Reading further bytes of a character leaves no more bytes than there were. -/
theorem length_readFollowing_le (low high : UInt8) (code n : Nat) (bytes : List UInt8) :
    (readFollowing low high code n bytes).2.length ≤ bytes.length := by
  induction n generalizing low high code bytes with
  | zero => simp [readFollowing]
  | succ n ih =>
    cases bytes with
    | nil => simp [readFollowing]
    | cons b bytes =>
      rw [readFollowing]
      split
      · exact Nat.le_succ_of_le (ih ..)
      · simp

/-- Reading a character leaves no more bytes than there were. -/
theorem length_decodeChar_le (b : UInt8) (bytes : List UInt8) :
    (decodeChar b bytes).2.length ≤ bytes.length := by
  unfold decodeChar
  split
  · simp
  · split
    · simp
    · exact length_readFollowing_le ..

/-- Decode, given the characters already read, newest first. -/
def decodeFrom (before : List Char) : List UInt8 → List Char
  | [] => before.reverse
  | b :: bytes =>
    let next := decodeChar b bytes
    decodeFrom (next.1 :: before) next.2
termination_by bytes => bytes.length
decreasing_by exact Nat.lt_succ_of_le (length_decodeChar_le b bytes)

/-- The text that bytes stand for. -/
def decode (bytes : List UInt8) : List Char :=
  decodeFrom [] bytes

end DocGraph.Text
