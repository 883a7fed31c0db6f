import ClientGen.Text.Hex
import ClientGen.Yaml.Cursor

namespace ClientGen.Yaml

/-- The white space since the last word of a scalar. Once a line has ended, only line breaks
count: the first one and those after it. -/
structure Fold where
  spaces : List Char := []
  broke : Bool := false
  first : List Char := []
  later : List Char := []

/-- What the white space contributes if another word follows: a single break becomes a space, and of
several all but the first are kept. -/
def Fold.text (f : Fold) : List Char :=
  if !f.broke then f.spaces
  else if f.first = ['\n'] then if f.later.isEmpty then [' '] else f.later
  else f.first ++ f.later

/-- Read gaps and line breaks. A tab that stands left of the column `tabsFrom` at the start of a
line is refused. -/
def readFold (tabsFrom : Nat) : Nat → Fold → Cursor → Option (Fold × Cursor)
  | 0, _, _ => none
  | fuel + 1, f, c =>
    match c.peek? with
    | none => some (f, c)
    | some ch =>
      if isGap ch then
        if f.broke && ch = '\t' && c.column < tabsFrom then none
        else
          let f := if f.broke then f else { f with spaces := f.spaces ++ [ch] }
          readFold tabsFrom fuel f c.skip
      else if isBreak ch then
        let f :=
          if f.broke then { f with later := f.later ++ c.breakText }
          else { broke := true, first := c.breakText }
        readFold tabsFrom fuel f c.skipBreak
      else some (f, c)

/-- Separates or closes the entries of a flow collection. -/
def isFlowMark (c : Char) : Bool := c = ',' || c = '[' || c = ']' || c = '\x7b' || c = '\x7d'

def startsBlank : List Char → Bool
  | [] => true
  | c :: _ => isGap c || isBreak c

/-- The characters up to white space or an indicator that ends a plain scalar. In a flow collection
a colon may not stand right before an indicator. -/
def plainWord (flow : Bool) : List Char → Option (List Char)
  | [] => some []
  | c :: rest =>
    if isGap c || isBreak c then some []
    else if flow && c = ':' && rest.head?.any (fun d => isFlowMark d || d = '?') then none
    else if (c = ':' && startsBlank rest) || (flow && isFlowMark c) then some []
    else (plainWord flow rest).map (c :: ·)

/-- A plain scalar whose continuation lines are indented by at least `indent` columns: its text,
the position after it and the white space that follows it, and whether a line ended there. -/
def readPlain (flow : Bool) (indent : Nat) :
    Nat → List Char → Fold → Cursor → Option (List Char × Cursor × Bool)
  | 0, _, _, _ => none
  | fuel + 1, acc, f, c =>
    if c.atMarker '-' || c.atMarker '.' || c.looksAt '#' then some (acc, c, f.broke)
    else
      match plainWord flow c.rest with
      | none => none
      | some word =>
        let (acc, f) := if word.isEmpty then (acc, f) else (acc ++ f.text ++ word, {})
        let c := c.skip word.length
        if !(c.atGap || c.atBreak) then some (acc, c, f.broke)
        else
          match readFold indent (c.rest.length + 1) f c with
          | none => none
          | some (f, c) =>
            if !flow && c.column < indent then some (acc, c, f.broke)
            else readPlain flow indent fuel acc f c

def escaped? : Char → Option Char
  | '0' => some '\x00'
  | 'a' => some '\x07'
  | 'b' => some '\x08'
  | 't' => some '\t'
  | '\t' => some '\t'
  | 'n' => some '\n'
  | 'v' => some '\x0b'
  | 'f' => some '\x0c'
  | 'r' => some '\r'
  | 'e' => some '\x1b'
  | ' ' => some ' '
  | '"' => some '"'
  | '/' => some '/'
  | '\\' => some '\\'
  | 'N' => some '\u0085'
  | '_' => some '\u00a0'
  | 'L' => some '\u2028'
  | 'P' => some '\u2029'
  | _ => none

def codePoint? (digits : List Char) : Option Char :=
  match Text.hexNumber? digits with
  | none => none
  | some n => if (0xD800 ≤ n && n ≤ 0xDFFF) || 0x10FFFF < n then none else some (Char.ofNat n)

/-- The characters of a quoted scalar up to white space or the closing quote, last first, with the
number of characters they are written with. The last part says whether a backslash before a line
break ended them. -/
def quotedWord (single : Bool) (acc : List Char) (n : Nat) :
    List Char → Option (List Char × Nat × Bool)
  | [] => some (acc, n, false)
  | '\'' :: '\'' :: rest =>
    if single then quotedWord single ('\'' :: acc) (n + 2) rest
    else quotedWord single ('\'' :: '\'' :: acc) (n + 2) rest
  | '\\' :: 'x' :: a :: b :: rest =>
    if single then quotedWord single ('x' :: '\\' :: acc) (n + 2) (a :: b :: rest)
    else match codePoint? [a, b] with
      | some c => quotedWord single (c :: acc) (n + 4) rest
      | none => none
  | '\\' :: 'u' :: a :: b :: c :: d :: rest =>
    if single then quotedWord single ('u' :: '\\' :: acc) (n + 2) (a :: b :: c :: d :: rest)
    else match codePoint? [a, b, c, d] with
      | some c => quotedWord single (c :: acc) (n + 6) rest
      | none => none
  | '\\' :: 'U' :: a :: b :: c :: d :: e :: f :: g :: h :: rest =>
    if single then
      quotedWord single ('U' :: '\\' :: acc) (n + 2) (a :: b :: c :: d :: e :: f :: g :: h :: rest)
    else match codePoint? [a, b, c, d, e, f, g, h] with
      | some c => quotedWord single (c :: acc) (n + 10) rest
      | none => none
  | ch :: rest =>
    if isGap ch || isBreak ch then some (acc, n, false)
    else if ch = (if single then '\'' else '"') then some (acc, n, false)
    else if single || ch ≠ '\\' then quotedWord single (ch :: acc) (n + 1) rest
    else match rest with
      | [] => none
      | e :: rest =>
        if isBreak e then some (acc, n, true)
        else match escaped? e with
          | some c => quotedWord single (c :: acc) (n + 2) rest
          | none => none

/-- A quoted scalar after its opening quote: its text and the position after its closing quote. -/
def readQuoted (single : Bool) : Nat → List Char → Cursor → Option (List Char × Cursor)
  | 0, _, _ => none
  | fuel + 1, acc, c =>
    if c.atMarker '-' || c.atMarker '.' || c.rest.isEmpty then none
    else
      match quotedWord single [] 0 c.rest with
      | none => none
      | some (word, n, continued) =>
        let acc := acc ++ word.reverse
        let c := c.skip n
        let c := if continued then c.skip.skipBreak else c
        if c.looksAt (if single then '\'' else '"') then some (acc, c.skip)
        else
          match readFold 0 (c.rest.length + 1) { broke := continued } c with
          | none => none
          | some (f, c) => readQuoted single fuel (acc ++ f.text) c

/-- What becomes of the line breaks at the end of a block scalar. -/
inductive Chomp where
  | strip
  | clip
  | keep
  deriving DecidableEq, Repr

def readBlockHeader (c : Cursor) : Option (Chomp × Option Nat × Cursor) :=
  let chomp (c : Cursor) : Option Chomp :=
    if c.looksAt '+' then some .keep else if c.looksAt '-' then some .strip else none
  let digit (c : Cursor) : Option Nat :=
    c.peek?.bind fun ch => if ch.isDigit then some (ch.toNat - '0'.toNat) else none
  match chomp c with
  | some mode =>
    match digit c.skip with
    | some 0 => none
    | some n => some (mode, some n, c.skip 2)
    | none => some (mode, none, c.skip)
  | none =>
    match digit c with
    | some 0 => none
    | some n =>
      match chomp c.skip with
      | some mode => some (mode, some n, c.skip 2)
      | none => some (.clip, some n, c.skip)
    | none => some (.clip, none, c)

/-- The empty lines before a line of a block scalar. While the indentation is unknown all leading
spaces are skipped and the widest indentation is remembered. -/
def readEmptyLines (indent : Option Nat) :
    Nat → Nat → List Char → Cursor → Option (Nat × List Char × Cursor)
  | 0, _, _, _ => none
  | fuel + 1, widest, acc, c =>
    let spaces := (c.span (· = ' ')).1.length
    let c := c.skip (match indent with
      | none => spaces
      | some n => min spaces (n - c.column))
    let widest := max widest c.column
    let short := match indent with
      | none => true
      | some n => c.column < n
    if short && c.looksAt '\t' then none
    else if c.atBreak then
      readEmptyLines indent fuel widest (acc ++ c.breakText) c.skipBreak
    else some (widest, acc, c)

/-- The lines of a block scalar at its indentation: its text, the break after its last line, the
empty lines after that, and the position after them. -/
def readBlockLines (literal : Bool) (indent : Nat) : Nat → List Char → List Char → List Char →
    Bool → Cursor → Option (List Char × List Char × List Char × Cursor)
  | 0, _, _, _, _, _ => none
  | fuel + 1, acc, ending, empties, wasIndented, c =>
    if c.column ≠ indent || c.rest.isEmpty then some (acc, ending, empties, c)
    else
      let indented := c.atGap
      let joined :=
        if !literal && ending = ['\n'] && !wasIndented && !indented then
          if empties.isEmpty then [' '] else []
        else ending
      let (line, c) := c.span (!isBreak ·)
      let acc := acc ++ joined ++ empties ++ line
      let ending := c.breakText
      let c := c.skipBreak
      match readEmptyLines (some indent) (c.rest.length + 1) 0 [] c with
      | none => none
      | some (_, empties, c) => readBlockLines literal indent fuel acc ending empties indented c

/-- A block scalar after its indicator; `parent` is the indentation of the block around it. -/
def readBlock (literal : Bool) (parent : Int) (c : Cursor) : Option (List Char × Cursor) := do
  let (chomp, width, c) ← readBlockHeader c
  let c := c.skipWhile isGap
  let c := if c.looksAt '#' then c.skipWhile (!isBreak ·) else c
  if !c.atLineEnd then none
  let c := c.skipBreak
  let given := width.map fun n => if 0 ≤ parent then parent.toNat + n else n
  let (widest, empties, c) ← readEmptyLines given (c.rest.length + 1) 0 [] c
  let indent := given.getD (max widest (max (parent + 1).toNat 1))
  let (text, ending, empties, c) ←
    readBlockLines literal indent (c.rest.length + 1) [] [] empties false c
  let tail := match chomp with
    | .strip => []
    | .clip => ending
    | .keep => ending ++ empties
  return (text ++ tail, c)

end ClientGen.Yaml
