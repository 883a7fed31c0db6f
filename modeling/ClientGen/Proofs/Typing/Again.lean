import ClientGen.Proofs.Typing.Closed
import ClientGen.Proofs.Typing.Repeat

namespace ClientGen

open Run TypeScript

namespace Setting

variable {c : Setting} {place : Place} {x : Option Schema} {s s' v : Session} {t : TypeExpr}

abbrev Questions := List (Place × Option Schema)

theorem later_questions {questions : Questions} {ts : List TypeExpr}
    (h : Each (fun q => c.typeOf q.1 q.2) questions s ts s') : c.Later s s' := by
  induction h with
  | nil s => exact .refl c s
  | cons head tail ih =>
    have hone := (c.growth.typeOf head).1.later
    exact hone.trans ih

/-- Once a schema has a type, the same question gets the same answer and changes nothing, however
many other questions are answered in between. -/
theorem typeOf_again (h : (c.typeOf place x).Gives s t s') {questions : Questions}
    {ts : List TypeExpr} (hv : Each (fun q => c.typeOf q.1 q.2) questions s' ts v) :
    (c.typeOf place x).Gives v t v := by
  cases x with
  | none =>
    obtain ⟨rfl, -⟩ := gives_pure.1 h
    exact gives_pure.2 ⟨rfl, rfl⟩
  | some x =>
    have hlater := later_questions hv
    have hsame : ¬ c.Differs v place.view place.view (.schema place.name place.component x) :=
      not_differs_self _
    exact typingWithin_repeats (Nat.le_refl _) (Nat.le_refl _) h hlater hsame

theorem typeOf_again_library : ∃ t s' ts v,
    ((ofDocument Client.library {} { namedEnums := true }).typeOf { view := .read }
      (some (.ofReference "#/components/schemas/Folder"))).Gives {} t s' ∧
    Each (fun q => (ofDocument Client.library {} { namedEnums := true }).typeOf q.1 q.2)
      [({}, some { items := some (.ofReference "#/components/schemas/Kind") })] s' ts v ∧
    v.references.keys = ["#/components/schemas/Folder", "#/components/schemas/Entry"] ∧
    ((ofDocument Client.library {} { namedEnums := true }).typeOf { view := .read }
      (some (.ofReference "#/components/schemas/Folder"))).Gives v t v := by
  obtain ⟨keys, w, hrun, hkeys⟩ := exists_gives
    (r := do
      let _ ← (ofDocument Client.library {} { namedEnums := true }).typeOf { view := .read }
        (some (.ofReference "#/components/schemas/Folder"))
      let _ ←
        [(({} : Place), some { items := some (.ofReference "#/components/schemas/Kind") })].mapM
          fun q => (ofDocument Client.library {} { namedEnums := true }).typeOf q.1 q.2
      return (← get).references.keys)
    (s := {})
    (p := fun keys => keys = ["#/components/schemas/Folder", "#/components/schemas/Entry"])
    (by decide +kernel)
  simp only [gives_bind, gives_mapM, gives_get, gives_pure] at hrun
  obtain ⟨t, s', hfirst, ts, _, hothers, _, v, ⟨rfl, rfl⟩, rfl, rfl⟩ := hrun
  exact ⟨t, s', ts, v, hfirst, hothers, of_decide_eq_true hkeys, typeOf_again hfirst hothers⟩

end Setting

end ClientGen
