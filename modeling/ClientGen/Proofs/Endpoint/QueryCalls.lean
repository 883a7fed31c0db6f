import ClientGen.Proofs.Endpoint.Code
import ClientGen.Proofs.Lists
import Mathlib.Data.List.Basic
import Mathlib.Data.List.Induction

namespace ClientGen

open TypeScript

namespace QueryStyle

def all : List QueryStyle := [.form, .explode, .deep, .space, .pipe, .json]

def helper (style : QueryStyle) : String := "QS." ++ style.text

end QueryStyle

namespace TypeScript.Expr

end TypeScript.Expr

section Grouping

variable {α β : Type}

variable [DecidableEq β]

end Grouping

namespace Input

/-- The field that sends an input: its name and its argument. -/
def field (i : Input) : String × Expr := (i.name, .name i.argument)

end Input

namespace QueryGroups

end QueryGroups

namespace Endpoint

end Endpoint

end ClientGen
