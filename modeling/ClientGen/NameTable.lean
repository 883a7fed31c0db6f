import ClientGen.Dict

namespace ClientGen

/-- How often each type name was asked for. -/
structure AliasNames where
  used : Dict Nat := []

namespace AliasNames

def count (t : AliasNames) (name : String) : Nat := (Dict.get? t.used name).getD 0

/-- A name for a type. One that is in use gets its new count appended; whether the longer name is
in use as well is not looked at. -/
def unique (t : AliasNames) (name : String) : String × AliasNames :=
  let used := t.count name
  if 0 < used then
    let longer := name ++ toString (used + 1)
    (longer, ⟨Dict.put (Dict.put t.used name (used + 1)) longer 1⟩)
  else (name, ⟨Dict.put t.used name 1⟩)

end AliasNames

/-- The name of an enum: that of an equal one, or a new one. -/
inductive EnumName where
  | reused (name : String)
  | fresh (name : String)
  deriving DecidableEq, Repr

/-- The names given to enums under each proposed name, each with the text of its values. -/
structure EnumNames where
  given : Dict (List (String × String)) := []

/-- A name for an enum. One with the same proposed name and the same values gives it its name; a
new name comes from the table of aliases. -/
def EnumNames.nameFor (t : EnumNames) (proposed values : String) (aliases : AliasNames) :
    EnumName × EnumNames × AliasNames :=
  let earlier := (Dict.get? t.given proposed).getD []
  match earlier.find? fun entry => entry.2 = values with
  | some (name, _) => (.reused name, t, aliases)
  | none =>
    let (name, aliases) := aliases.unique proposed
    (.fresh name, ⟨Dict.put t.given proposed (earlier ++ [(name, values)])⟩, aliases)

/-- How often each function name was asked for, and which names were handed out. -/
structure FunctionNames where
  counts : Dict Nat := []
  taken : List String := []

namespace FunctionNames

/-- The `n`-th form of a name, counted from one. -/
def form (name : String) (n : Nat) : String := if n = 1 then name else name ++ toString n

/-- The number of the first free form of a name after the first `n` forms, trying at most `fuel`
taken ones. -/
def firstFree (taken : List String) (name : String) : Nat → Nat → Nat
  | 0, n => n + 1
  | fuel + 1, n =>
    if taken.contains (form name (n + 1)) then firstFree taken name fuel (n + 1) else n + 1

/-- A name for a function: the first form that was not handed out, after those tried before. Among
one more forms than names were handed out one is free. -/
def unique (t : FunctionNames) (name : String) : String × FunctionNames :=
  let n := firstFree t.taken name t.taken.length ((Dict.get? t.counts name).getD 0)
  let found := form name n
  (found, ⟨Dict.put t.counts name n, t.taken ++ [found]⟩)

end FunctionNames

end ClientGen
