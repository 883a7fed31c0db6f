namespace ClientGen.Text.Utf8

def encode (cs : List Char) : List UInt8 := cs.flatMap String.utf8EncodeChar

def replacement : Char := '\uFFFD'

/-- For a first byte: the value of its payload bits, how many bytes follow, and the least and the
greatest that the second byte may be. -/
def lead (b : UInt8) : Option (Nat × Nat × UInt8 × UInt8) :=
  if b ≤ 0x7F then some (b.toNat, 0, 0x80, 0xBF)
  else if 0xC2 ≤ b && b ≤ 0xDF then some (b.toNat - 0xC0, 1, 0x80, 0xBF)
  else if b = 0xE0 then some (0, 2, 0xA0, 0xBF)
  else if b = 0xED then some (0xD, 2, 0x80, 0x9F)
  else if 0xE1 ≤ b && b ≤ 0xEF then some (b.toNat - 0xE0, 2, 0x80, 0xBF)
  else if b = 0xF0 then some (0, 3, 0x90, 0xBF)
  else if 0xF1 ≤ b && b ≤ 0xF3 then some (b.toNat - 0xF0, 3, 0x80, 0xBF)
  else if b = 0xF4 then some (4, 3, 0x80, 0x8F)
  else none

/-- A character of which some bytes are read: the value so far, how many bytes are still owed, and
the least and the greatest that the next may be. With nothing owed a new character begins. -/
structure Partial where
  value : Nat := 0
  owed : Nat := 0
  low : UInt8 := 0x80
  high : UInt8 := 0xBF

def begin (b : UInt8) : List Char × Partial :=
  match lead b with
  | none => ([replacement], {})
  | some (v, 0, _, _) => ([Char.ofNat v], {})
  | some (v, n + 1, low, high) => ([], ⟨v, n + 1, low, high⟩)

/-- Read one byte: the characters that it completes or spoils, and what is partial after it. -/
def step (p : Partial) (b : UInt8) : List Char × Partial :=
  match p.owed with
  | 0 => begin b
  | n + 1 =>
    if p.low ≤ b && b ≤ p.high then
      let v := p.value * 64 + (b.toNat - 0x80)
      if n = 0 then ([Char.ofNat v], {}) else ([], { value := v, owed := n })
    else
      let (out, next) := begin b
      (replacement :: out, next)

def decodeFrom (p : Partial) : List UInt8 → List Char
  | [] => if p.owed = 0 then [] else [replacement]
  | b :: rest => (step p b).1 ++ decodeFrom (step p b).2 rest

def decode (bytes : List UInt8) : List Char := decodeFrom {} bytes

end ClientGen.Text.Utf8
