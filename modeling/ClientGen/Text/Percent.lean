import ClientGen.Text.Hex
import ClientGen.Text.Utf8

namespace ClientGen.Text.Percent

/-- The bytes written as themselves: ASCII letters and digits and `-_.!~*'()`. -/
def isPlain (b : UInt8) : Bool :=
  let c := Char.ofNat b.toNat
  c.isAlphanum || c ∈ ['-', '_', '.', '!', '~', '*', '\'', '(', ')']

def encodeByte (b : UInt8) : List Char :=
  if isPlain b then [Char.ofNat b.toNat]
  else ['%', upperHexDigit (b.toNat / 16), upperHexDigit (b.toNat % 16)]

def encode (cs : List Char) : List Char := (Utf8.encode cs).flatMap encodeByte

def bytes : List Char → List UInt8
  | [] => []
  | '%' :: h :: l :: rest =>
    match hexValue? h, hexValue? l with
    | some a, some b => UInt8.ofNat (a * 16 + b) :: bytes rest
    | _, _ => String.utf8EncodeChar '%' ++ bytes (h :: l :: rest)
  | c :: rest => String.utf8EncodeChar c ++ bytes rest

def decode (cs : List Char) : List Char := Utf8.decode (bytes cs)

end ClientGen.Text.Percent
