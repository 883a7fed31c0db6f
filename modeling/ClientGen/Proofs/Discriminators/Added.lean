import ClientGen.Proofs.Discriminators.Completion
import ClientGen.Proofs.Document.Added

namespace ClientGen.Discriminators

open Reference (ofComponent)

variable {schemas : Dict Schema} {place : Nat} {name r : String} {x : Schema}
  {index index' : Discriminators}

theorem get?_foldl_declared (l : Dict Schema) (h : index.get? r = index'.get? r) :
    (l.foldl (fun index e => match declared? e.2 with
      | some d => Dict.put index (ofComponent e.1) d
      | none => index) index).get? r =
    (l.foldl (fun index e => match declared? e.2 with
      | some d => Dict.put index (ofComponent e.1) d
      | none => index) index').get? r := by
  induction l generalizing index index' with
  | nil => exact h
  | cons e l ih =>
    refine ih ?_
    dsimp only
    cases declared? e.2 with
    | none => exact h
    | some d => rw [Dict.get?_put, Dict.get?_put, h]

theorem get?_declared_insertAt (hr : r ≠ ofComponent name) :
    (declared (schemas.insertAt place name x)).get? r = (declared schemas).get? r := by
  have hsplit : declared schemas = declared (schemas.take place ++ schemas.drop place) := by
    rw [List.take_append_drop]
  rw [hsplit, declared, declared, Dict.insertAt, List.foldl_append, List.foldl_append,
    List.foldl_cons]
  refine get?_foldl_declared _ ?_
  dsimp only
  cases declared? x with
  | none => rfl
  | some d => rw [Dict.get?_put, if_neg hr.symm]

theorem branching_insertAt (hr : ¬ x.HasBranch r) :
    (schemas.insertAt place name x).branching r = schemas.branching r := by
  have hsplit : schemas.branching r =
      Dict.branching (schemas.take place ++ schemas.drop place) r := by
    rw [List.take_append_drop]
  rw [hsplit, Dict.branching, Dict.branching, Dict.insertAt, List.filter_append,
    List.filter_append, List.filter_cons, if_neg (by simpa using hr)]

/-- A component that extends none of the discriminating ones leaves the entries of all other
components as they are. -/
theorem get?_ofSchemas_insertAt (hr : r ≠ ofComponent name)
    (hbranch : x.HasBranch r → (ofSchemas schemas).get? r = none) :
    (ofSchemas (schemas.insertAt place name x)).get? r = (ofSchemas schemas).get? r := by
  rw [get?_ofSchemas, get?_declared_insertAt hr, get?_ofSchemas]
  by_cases h : x.HasBranch r
  · have hnone := hbranch h
    rw [get?_ofSchemas, Option.map_eq_none_iff] at hnone
    rw [hnone]
    rfl
  · rw [branching_insertAt h]

end ClientGen.Discriminators
