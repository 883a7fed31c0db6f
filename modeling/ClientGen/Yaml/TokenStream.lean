import ClientGen.Text.Utf8
import ClientGen.Yaml.ScalarText
import ClientGen.Yaml.Token

namespace ClientGen.Yaml

/-- A place where a mapping key may have begun: the number of tokens before it and its position. A
key is recognised only when the colon after it is met. It is required if only a key can stand at its
column. -/
structure PossibleKey where
  required : Bool
  token : Nat
  index : Nat
  line : Nat
  column : Nat

/-- The state of the scanner. `keys` has one entry for the block context and one for every open
flow collection, innermost first; `indent` is the column of the current block, -1 outside all. -/
structure Scanner where
  cursor : Cursor
  tokens : Array Token := #[]
  indent : Int := -1
  outerIndents : List Int := []
  keys : List (Option PossibleKey) := [none]
  keyAllowed : Bool := true

namespace Scanner

def inFlow (s : Scanner) : Bool := 1 < s.keys.length

def push (s : Scanner) (t : Token) : Scanner := { s with tokens := s.tokens.push t }

def skip (s : Scanner) (n : Nat) : Scanner := { s with cursor := s.cursor.skip n }

/-- Forget the possible key of the innermost level; a required one may not be forgotten. -/
def dropKey? (s : Scanner) : Option Scanner :=
  match s.keys with
  | some key :: outer => if key.required then none else some { s with keys := none :: outer }
  | _ => some s

def saveKey? (s : Scanner) : Option Scanner :=
  if !s.keyAllowed then some s
  else do
    let s ← s.dropKey?
    let c := s.cursor
    let key : PossibleKey :=
      { required := !s.inFlow && s.indent = c.column, token := s.tokens.size,
        index := c.index, line := c.line, column := c.column }
    return { s with keys := some key :: s.keys.drop 1 }

/-- Forget possible keys that began in an earlier line or more than 1024 characters ago. -/
def dropStaleKeys? (s : Scanner) : Option Scanner := do
  let c := s.cursor
  let keys ← s.keys.mapM fun key? =>
    match key? with
    | none => some none
    | some key =>
      if key.line < c.line || key.index + 1024 < c.index then
        if key.required then none else some none
      else some (some key)
  return { s with keys }

def closeBlocks (column : Int) : Int → List Int → Array Token → Int × List Int × Array Token
  | indent, [], tokens => (indent, [], tokens)
  | indent, outer :: rest, tokens =>
    if column < indent then closeBlocks column outer rest (tokens.push .blockEnd)
    else (indent, outer :: rest, tokens)

def closeTo (s : Scanner) (column : Int) : Scanner :=
  if s.inFlow then s
  else
    let (indent, outerIndents, tokens) := closeBlocks column s.indent s.outerIndents s.tokens
    { s with indent, outerIndents, tokens }

/-- Open a block collection at a column right of the current one, outside flow collections. Its
start token goes to the place given, else to the end. -/
def openBlock (s : Scanner) (column : Nat) (start : Token) (place : Option Nat := none) : Scanner :=
  if s.inFlow || (column : Int) ≤ s.indent then s
  else
    let tokens := match place with
      | none => s.tokens.push start
      | some n => s.tokens.insertIdxIfInBounds n start
    { s with indent := column, outerIndents := s.indent :: s.outerIndents, tokens }

/-- Pass over blanks, comments and line breaks. In the block context a new line lets a key begin,
and tabs may not be indentation. -/
def toNextToken : Nat → Scanner → Scanner
  | 0, s => s
  | fuel + 1, s =>
    let tabs := s.inFlow || !s.keyAllowed
    let c := s.cursor.skipWhile fun ch => ch = ' ' || (tabs && ch = '\t')
    let c := if c.looksAt '#' then c.skipWhile (!isBreak ·) else c
    if c.atBreak then
      toNextToken fuel { s with cursor := c.skipBreak, keyAllowed := !s.inFlow || s.keyAllowed }
    else { s with cursor := c }

def readEnd? (s : Scanner) : Option Scanner := do
  let s ← (s.closeTo (-1)).dropKey?
  return s.push .streamEnd

/-- A number of at most nine digits. -/
def readVersionNumber? (c : Cursor) : Option (Nat × Cursor) :=
  let (digits, c) := c.span Char.isDigit
  if digits.isEmpty || 9 < digits.length then none
  else some (digits.foldl (fun n d => n * 10 + (d.toNat - '0'.toNat)) 0, c)

/-- A tag handle such as `!`, `!!` or `!name!`; without a closing mark it is only the start of a
tag, which a directive may not hold. -/
def readTagHandle? (directive : Bool) (c : Cursor) : Option (List Char × Cursor) :=
  if !c.looksAt '!' then none
  else
    let (name, c) := c.skip.span isNameChar
    if c.looksAt '!' then some ('!' :: name ++ ['!'], c.skip)
    else if directive && !name.isEmpty then none
    else some ('!' :: name, c)

def readEscapedChar? (c : Cursor) : Option (List Char × Cursor) := do
  let byte? (n : Nat) : Option Nat :=
    match (c.rest.drop (3 * n)).take 3 with
    | ['%', a, b] => Text.hexNumber? [a, b]
    | _ => none
  let first ← byte? 0
  let width ←
    if first < 0x80 then some 1
    else if 0xC0 ≤ first && first < 0xE0 then some 2
    else if 0xE0 ≤ first && first < 0xF0 then some 3
    else if 0xF0 ≤ first && first < 0xF8 then some 4
    else none
  let others ← (List.range (width - 1)).mapM fun i =>
    (byte? (i + 1)).bind fun b => if 0x80 ≤ b && b < 0xC0 then some b else none
  return (Text.Utf8.decode ((first :: others).map UInt8.ofNat), c.skip (3 * width))

/-- May stand in a tag as it is; `verbatim` admits the marks of flow collections too. -/
def isTagChar (verbatim : Bool) (c : Char) : Bool :=
  isNameChar c ||
  [';', '/', '?', ':', '@', '&', '=', '+', '$', '.', '!', '~', '*', '\'', '(', ')'].contains c ||
  (verbatim && [',', '[', ']'].contains c)

def readTagText? (verbatim : Bool) : Nat → List Char → Cursor → Option (List Char × Cursor)
  | 0, _, _ => none
  | fuel + 1, acc, c =>
    let (plain, c) := c.span (isTagChar verbatim)
    let acc := acc ++ plain
    if c.looksAt '%' then
      match readEscapedChar? c with
      | some (text, c) => readTagText? verbatim fuel (acc ++ text) c
      | none => none
    else some (acc, c)

def readDirective? (s : Scanner) : Option Scanner := do
  let s ← (s.closeTo (-1)).dropKey?
  let (name, c) := s.cursor.skip.span isNameChar
  if name.isEmpty || !c.blankAt then none
  let c := c.skipWhile isGap
  let (token, c) ←
    if name = "YAML".toList then do
      let (major, c) ← readVersionNumber? c
      if !c.looksAt '.' then none
      let (minor, c) ← readVersionNumber? c.skip
      pure (Token.versionDirective major minor, c)
    else if name = "TAG".toList then do
      let (handle, c) ← readTagHandle? true c
      if !c.atGap then none
      let c := c.skipWhile isGap
      let (text, c) ← readTagText? true (c.rest.length + 1) [] c
      if text.isEmpty || !c.blankAt then none
      pure (Token.tagDirective (String.ofList handle) (String.ofList text), c)
    else none
  let c := c.skipWhile isGap
  let c := if c.looksAt '#' then c.skipWhile (!isBreak ·) else c
  if !c.atLineEnd then none
  return { s with cursor := c.skipBreak, keyAllowed := false, tokens := s.tokens.push token }

def readMarker? (s : Scanner) (token : Token) : Option Scanner := do
  let s ← (s.closeTo (-1)).dropKey?
  return ({ s with keyAllowed := false }.skip 3).push token

def readFlowStart? (s : Scanner) (token : Token) : Option Scanner := do
  let s ← s.saveKey?
  return ({ s with keys := none :: s.keys, keyAllowed := true }.skip 1).push token

def readFlowEnd? (s : Scanner) (token : Token) : Option Scanner := do
  let s ← s.dropKey?
  let keys := if s.inFlow then s.keys.drop 1 else s.keys
  return ({ s with keys, keyAllowed := false }.skip 1).push token

def readFlowEntry? (s : Scanner) : Option Scanner := do
  let s ← s.dropKey?
  return ({ s with keyAllowed := true }.skip 1).push .flowEntry

def readBlockEntry? (s : Scanner) : Option Scanner := do
  if !s.inFlow && !s.keyAllowed then none
  let s ← (s.openBlock s.cursor.column .blockSequenceStart).dropKey?
  return ({ s with keyAllowed := true }.skip 1).push .blockEntry

def readKey? (s : Scanner) : Option Scanner := do
  if !s.inFlow && !s.keyAllowed then none
  let s ← (s.openBlock s.cursor.column .blockMappingStart).dropKey?
  return ({ s with keyAllowed := !s.inFlow }.skip 1).push .key

/-- The colon of a value; what stands before it in the line becomes its key. -/
def readValue? (s : Scanner) : Option Scanner :=
  match s.keys with
  | some key :: outer =>
    let s := { s with tokens := s.tokens.insertIdxIfInBounds key.token .key }
    let s := s.openBlock key.column .blockMappingStart (some key.token)
    some (({ s with keys := none :: outer, keyAllowed := false }.skip 1).push .value)
  | _ =>
    if !s.inFlow && !s.keyAllowed then none
    else
      let s := s.openBlock s.cursor.column .blockMappingStart
      some (({ s with keyAllowed := !s.inFlow }.skip 1).push .value)

def readAnchor? (s : Scanner) (token : String → Token) : Option Scanner := do
  let s ← s.saveKey?
  let (name, c) := s.cursor.skip.span isNameChar
  let ends := c.blankAt || c.peek?.any ['?', ':', ',', ']', '\x7d', '%', '@', '`'].contains
  if name.isEmpty || !ends then none
  return { s with cursor := c, keyAllowed := false,
                  tokens := s.tokens.push (token (String.ofList name)) }

/-- A tag: verbatim in angle brackets, with a handle, or local. -/
def readTag? (s : Scanner) : Option Scanner := do
  let s ← s.saveKey?
  let c := s.cursor
  let fuel := c.rest.length + 1
  let (handle, suffix, c) ←
    if c.looksAt '<' 1 then do
      let (text, c) ← readTagText? true fuel [] (c.skip 2)
      if text.isEmpty || !c.looksAt '>' then none
      pure ([], text, c.skip)
    else do
      let (handle, c) ← readTagHandle? false c
      if 1 < handle.length && handle.getLast? = some '!' then do
        let (text, c) ← readTagText? false fuel [] c
        if text.isEmpty then none
        pure (handle, text, c)
      else do
        let (text, c) ← readTagText? false fuel (handle.drop 1) c
        if text.isEmpty then pure ([], ['!'], c) else pure (['!'], text, c)
  if !(s.inFlow && c.looksAt ',') && !c.blankAt then none
  let token := Token.tag (String.ofList handle) (String.ofList suffix)
  return { s with cursor := c, keyAllowed := false, tokens := s.tokens.push token }

def readBlockScalar? (s : Scanner) (literal : Bool) : Option Scanner := do
  let s ← s.dropKey?
  let (text, c) ← readBlock literal s.indent s.cursor.skip
  return { s with cursor := c, keyAllowed := true,
                  tokens := s.tokens.push (.scalar (String.ofList text) .quoted) }

def readQuotedScalar? (s : Scanner) (single : Bool) : Option Scanner := do
  let s ← s.saveKey?
  let (text, c) ← readQuoted single (s.cursor.rest.length + 1) [] s.cursor.skip
  return { s with cursor := c, keyAllowed := false,
                  tokens := s.tokens.push (.scalar (String.ofList text) .quoted) }

def readPlainScalar? (s : Scanner) : Option Scanner := do
  let s ← s.saveKey?
  let (text, c, broke) ←
    readPlain s.inFlow (s.indent + 1).toNat (s.cursor.rest.length + 1) [] {} s.cursor
  return { s with cursor := c, keyAllowed := broke,
                  tokens := s.tokens.push (.scalar (String.ofList text) .plain) }

def startsPlain (s : Scanner) : Bool :=
  let c := s.cursor
  match c.peek? with
  | none => false
  | some ch =>
    let indicators := ['-', '?', ':', ',', '[', ']', '\x7b', '\x7d', '#', '&', '*', '!', '|', '>',
      '\'', '"', '%', '@', '`']
    !(isGap ch || isBreak ch || indicators.contains ch) ||
    (ch = '-' && !(c.peekAt? 1).any isGap) ||
    (!s.inFlow && (ch = '?' || ch = ':') && !c.blankAt 1)

/-- Read the next token, and with it the tokens for the indentation before it. -/
def next? (s : Scanner) : Option Scanner := do
  let s := s.toNextToken (s.cursor.rest.length + 1)
  let s ← s.dropStaleKeys?
  let s := s.closeTo s.cursor.column
  let c := s.cursor
  match c.peek? with
  | none => s.readEnd?
  | some ch =>
    if c.column = 0 && ch = '%' then s.readDirective?
    else if c.atMarker '-' then s.readMarker? .documentStart
    else if c.atMarker '.' then s.readMarker? .documentEnd
    else if ch = '[' then s.readFlowStart? .flowSequenceStart
    else if ch = '\x7b' then s.readFlowStart? .flowMappingStart
    else if ch = ']' then s.readFlowEnd? .flowSequenceEnd
    else if ch = '\x7d' then s.readFlowEnd? .flowMappingEnd
    else if ch = ',' then s.readFlowEntry?
    else if ch = '-' && c.blankAt 1 then s.readBlockEntry?
    else if ch = '?' && (s.inFlow || c.blankAt 1) then s.readKey?
    else if ch = ':' && (s.inFlow || c.blankAt 1) then s.readValue?
    else if ch = '*' then s.readAnchor? .alias
    else if ch = '&' then s.readAnchor? .anchor
    else if ch = '!' then s.readTag?
    else if ch = '|' && !s.inFlow then s.readBlockScalar? true
    else if ch = '>' && !s.inFlow then s.readBlockScalar? false
    else if ch = '\'' then s.readQuotedScalar? true
    else if ch = '"' then s.readQuotedScalar? false
    else if s.startsPlain then s.readPlainScalar?
    else none

def run : Nat → Scanner → Option (List Token)
  | 0, _ => none
  | fuel + 1, s =>
    match s.next? with
    | none => none
    | some s => if s.tokens.back? = some .streamEnd then some s.tokens.toList else run fuel s

end Scanner

/-- The tokens of a text; a byte order mark at its start is passed over. Every token but the last
takes a character. -/
def tokens? (s : String) : Option (List Token) :=
  let cs := match s.toList with
    | '\uFEFF' :: rest => rest
    | cs => cs
  if cs.all isAllowed then Scanner.run (cs.length + 1) { cursor := { rest := cs } } else none

end ClientGen.Yaml
