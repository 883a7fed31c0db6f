import ClientGen.Endpoint
import ClientGen.TypeScript.Module

namespace ClientGen

namespace TypeScript

namespace TypeExpr

mutual

/-- The names that a type mentions, at whatever depth. -/
def names : TypeExpr → List String
  | .keyword _ => []
  | .array item => names item
  | .tuple items => namesOf items
  | .union members => namesOf members
  | .intersection parts => namesOf parts
  | .object members index => memberNames members ++ indexNames index
  | .literal _ => []
  | .named name => [name]

def namesOf : List TypeExpr → List String
  | [] => []
  | type :: rest => names type ++ namesOf rest

def memberNames : List (Member TypeExpr) → List String
  | [] => []
  | ⟨_, type, _, _⟩ :: rest => names type ++ memberNames rest

def indexNames : Option TypeExpr → List String
  | none => []
  | some type => names type

end

variable {n : String}

theorem mem_namesOf {types : List TypeExpr} :
    n ∈ namesOf types ↔ ∃ t ∈ types, n ∈ t.names := by
  induction types with
  | nil => simp [namesOf]
  | cons t rest ih => simp [namesOf, ih]

theorem mem_memberNames {members : List (Member TypeExpr)} :
    n ∈ memberNames members ↔ ∃ m ∈ members, n ∈ m.type.names := by
  induction members with
  | nil => simp [memberNames]
  | cons m rest ih => simp [memberNames, ih]

theorem mem_indexNames {index : Option TypeExpr} :
    n ∈ indexNames index ↔ ∃ t, index = some t ∧ n ∈ t.names := by
  cases index <;> simp [indexNames]

theorem mem_names_orKeyword {word : Keyword} {t : TypeExpr} :
    n ∈ (t.orKeyword word).names ↔ n ∈ t.names := by
  have hadded : ∀ members, n ∈ namesOf (members ++ [keyword word]) ↔ n ∈ namesOf members := by
    intro members
    simp [mem_namesOf, names]
  cases t with
  | union members =>
    simp only [orKeyword, names]
    split
    · rfl
    · exact hadded members
  | _ =>
    simp only [orKeyword]
    split <;> simp [names, namesOf]

end TypeExpr

def TypeDecl.mentions (d : TypeDecl) : List String :=
  match d.body with
  | .alias type => type.names
  | .enum _ => []

end TypeScript

namespace Endpoint

open TypeScript (TypeExpr)

/-- The types of what a function takes and gives back. -/
def types (e : Endpoint) : List TypeExpr :=
  e.inputs.map (·.type) ++ (e.body.map (·.type)).toList ++ e.outcomes.filterMap (·.data)

def mentions (e : Endpoint) : List String := e.types.flatMap TypeExpr.names

end Endpoint

end ClientGen
