import ClientGen.Json.Record
import ClientGen.Schema

namespace ClientGen

open Json (Reader)

def Discriminator.read : Reader Discriminator := fun j => do
  let r ← j.record? 2
  return {
    propertyName := ← r.optional 0 "propertyName" Reader.text
    mapping := ← r.optional 1 "mapping" (Reader.dict Reader.text) }

def TypeNames.read : Reader TypeNames :=
  Reader.either (Reader.text.map .single) ((Reader.list Reader.text).map .several)

def Schema.readWithin : Nat → Reader Schema
  | 0, _ => none
  | fuel + 1, j => do
    let part := readWithin fuel
    let parts := Reader.list part
    let texts := Reader.list Reader.text
    let r ← j.record? 22
    return {
      reference := ← r.optional 0 "$ref" Reader.text
      types := ← r.optional 1 "type" TypeNames.read
      format := ← r.optional 2 "format" Reader.text
      title := ← r.optional 3 "title" Reader.text
      description := ← r.optional 4 "description" Reader.text
      properties := ← r.optional 5 "properties" (Reader.dict part)
      required := ← r.optional 6 "required" texts
      additional := ← r.optional 7 "additionalProperties"
        (Reader.either (Reader.truth.map .allowed) (part.map .like))
      items := ← r.optional 8 "items" part
      tupleItems := ← r.optional 9 "prefixItems" parts
      values := ← r.optional 10 "enum" (Reader.list Reader.any)
      constant := ← r.defaulted 11 "const" (Reader.any.map some) none
      oneOf := ← r.optional 12 "oneOf" parts
      anyOf := ← r.optional 13 "anyOf" parts
      allOf := ← r.optional 14 "allOf" parts
      discriminator := ← r.optional 15 "discriminator" Discriminator.read
      nullable := ← r.optional 16 "nullable" Reader.truth
      readOnly := ← r.optional 17 "readOnly" Reader.truth
      writeOnly := ← r.optional 18 "writeOnly" Reader.truth
      deprecated := ← r.optional 19 "deprecated" Reader.truth
      enumNames := ← r.optional 20 "x-enumNames" texts
      enumVarNames := ← r.optional 21 "x-enum-varnames" texts }

/-- Read a schema. A schema is nested no deeper than its tree has values. -/
def Schema.read : Reader Schema := fun j => readWithin j.size j

end ClientGen
