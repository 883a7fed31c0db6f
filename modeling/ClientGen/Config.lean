import ClientGen.Options
import ClientGen.Toml

namespace ClientGen.Config

open Toml (Statement)

def tableName : String := "generate"

/-- The option that a statement under the header sets. -/
def underHeader? : Statement → Option (String × Json)
  | .assign [key] value => some (key, value)
  | _ => none

/-- The option that a statement outside the table sets. -/
def withName? : Statement → Option (String × Json)
  | .assign [table, key] value => if table = tableName then some (key, value) else none
  | _ => none

def ofFields? (fields : List (String × Json)) : Option Options :=
  if (fields.map Prod.fst).Nodup then Options.read (.obj fields) else none

def ofStatements? : List Statement → Option Options
  | .header path :: rest =>
    if path = [tableName] then (rest.mapM underHeader?).bind ofFields? else none
  | [.assign [table] value] => if table = tableName then Options.read value else none
  | statements => (statements.mapM withName?).bind ofFields?

def options? (text : String) : Option Options := (Toml.statements? text).bind ofStatements?

end ClientGen.Config
