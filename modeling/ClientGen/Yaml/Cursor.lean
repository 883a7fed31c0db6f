namespace ClientGen.Yaml

/-- May occur in a text at all. -/
def isAllowed (c : Char) : Bool :=
  let n := c.toNat
  n = 0x9 || n = 0xA || n = 0xD || (0x20 ≤ n && n ≤ 0x7E) || n = 0x85 ||
  (0xA0 ≤ n && n ≤ 0xD7FF) || (0xE000 ≤ n && n ≤ 0xFFFD && n ≠ 0xFEFF) || 0x10000 ≤ n

def isBreak (c : Char) : Bool :=
  c = '\n' || c = '\r' || c = '\u0085' || c = '\u2028' || c = '\u2029'

def isGap (c : Char) : Bool := c = ' ' || c = '\t'

/-- Occurs in anchors, directive names and tag handles. -/
def isNameChar (c : Char) : Bool := c.isAlphanum || c = '_' || c = '-'

/-- The text from a position on, with the place of the position. -/
structure Cursor where
  rest : List Char
  index : Nat := 0
  line : Nat := 0
  column : Nat := 0

namespace Cursor

def peek? (c : Cursor) : Option Char := c.rest.head?

def peekAt? (c : Cursor) (n : Nat) : Option Char := (c.rest.drop n).head?

def looksAt (c : Cursor) (ch : Char) (n : Nat := 0) : Bool := c.peekAt? n = some ch

/-- Whether the text ends, or a line or a gap begins, `n` places on. -/
def blankAt (c : Cursor) (n : Nat := 0) : Bool :=
  match c.peekAt? n with
  | none => true
  | some ch => isGap ch || isBreak ch

def atLineEnd (c : Cursor) : Bool :=
  match c.peek? with
  | none => true
  | some ch => isBreak ch

def atBreak (c : Cursor) : Bool := c.peek?.any isBreak

def atGap (c : Cursor) : Bool := c.peek?.any isGap

def skip (c : Cursor) (n : Nat := 1) : Cursor :=
  { c with rest := c.rest.drop n, index := c.index + n, column := c.column + n }

/-- Split off the characters of a class, which holds no line break. -/
def span (c : Cursor) (p : Char → Bool) : List Char × Cursor :=
  let taken := c.rest.takeWhile p
  (taken, c.skip taken.length)

def skipWhile (c : Cursor) (p : Char → Bool) : Cursor := (c.span p).2

def skipBreak (c : Cursor) : Cursor :=
  match c.rest with
  | '\r' :: '\n' :: rest => { rest, index := c.index + 2, line := c.line + 1, column := 0 }
  | ch :: rest =>
    if isBreak ch then { rest, index := c.index + 1, line := c.line + 1, column := 0 } else c
  | [] => c

/-- What a line break at the position stands for in a scalar: all but the two Unicode separators
are a line feed. -/
def breakText (c : Cursor) : List Char :=
  match c.peek? with
  | some ch => if !isBreak ch then [] else if ch = '\u2028' ∨ ch = '\u2029' then [ch] else ['\n']
  | none => []

/-- Whether the line starts with a document marker made of this character. -/
def atMarker (c : Cursor) (ch : Char) : Bool :=
  c.column = 0 && c.looksAt ch && c.looksAt ch 1 && c.looksAt ch 2 && c.blankAt 3

end Cursor

end ClientGen.Yaml
