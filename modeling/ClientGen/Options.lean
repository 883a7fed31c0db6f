import ClientGen.Json.Record

namespace ClientGen

structure Options where
  /-- If there are any, operations without one of these tags are left out. -/
  includeTags : List String := []
  /-- Operations with one of these tags are left out. -/
  excludeTags : List String := []
  /-- Functions return the payload of a success and throw otherwise. -/
  optimistic : Bool := false
  /-- Enums are declared under a name instead of being written as unions. -/
  namedEnums : Bool := false
  /-- Every schema has one view. -/
  mergeViews : Bool := false
  /-- What is not known has type `unknown` instead of `any`. -/
  useUnknown : Bool := false
  /-- The types of optional properties have `undefined` as a member. -/
  unionUndefined : Bool := false
  /-- Every component schema gets a type, referred to or not. -/
  allSchemas : Bool := false
  /-- Where the module imports its support code from. -/
  runtimeModule : String := "./runtime"
  deriving DecidableEq, Repr

namespace Options

def names : List String := [
  "include", "exclude", "optimistic", "use-enum-type", "merge-read-write-only", "use-unknown",
  "union-undefined", "all-schemas", "runtime-module"]

def onlyKnown : Json → Bool
  | .obj fields => fields.all fun field => names.contains field.1
  | _ => true

open Json (Reader) in
/-- Read options. Each may be missing; other names are refused. -/
def read : Reader Options := fun j => do
  let r ← j.record? 9
  if onlyKnown j then
    let texts := Reader.list Reader.text
    return {
      includeTags := ← r.defaulted 0 "include" texts []
      excludeTags := ← r.defaulted 1 "exclude" texts []
      optimistic := ← r.defaulted 2 "optimistic" Reader.truth false
      namedEnums := ← r.defaulted 3 "use-enum-type" Reader.truth false
      mergeViews := ← r.defaulted 4 "merge-read-write-only" Reader.truth false
      useUnknown := ← r.defaulted 5 "use-unknown" Reader.truth false
      unionUndefined := ← r.defaulted 6 "union-undefined" Reader.truth false
      allSchemas := ← r.defaulted 7 "all-schemas" Reader.truth false
      runtimeModule := ← r.defaulted 8 "runtime-module" Reader.text "./runtime" }
  else none

/-- Whether an operation with these tags is kept. An excluded tag weighs more than an included
one. -/
def keeps (o : Options) (tags : List String) : Bool :=
  !tags.any o.excludeTags.contains && (o.includeTags.isEmpty || tags.any o.includeTags.contains)

end Options

end ClientGen
