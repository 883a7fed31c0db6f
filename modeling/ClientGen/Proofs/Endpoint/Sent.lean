import ClientGen.Proofs.Endpoint.QueryCalls

namespace ClientGen

open TypeScript

namespace Endpoint

/-- How the parameters of a function bind what the function takes. -/
structure Takes (e : Endpoint) (f : Function) : Prop where
  /-- The required inputs come first, in order, then the body, then the optional inputs in one
  object, if there are any, and last the options. -/
  patterns : f.params.map Param.pattern = e.requiredInputs.map (fun i => .name i.argument) ++
    e.body.toList.map (fun b => .name b.argument) ++
    (if e.optionalInputs = [] then [] else
      [.members (e.optionalInputs.map fun i => .mk i.argument none)]) ++ [.name "opts"]
  /-- Nothing is taken twice or left out. -/
  bound : f.bound.Perm (e.inputs.map Input.argument ++
    e.body.toList.map Payload.argument ++ ["opts"])

theorem params_patterns (e : Endpoint) : e.params.map Param.pattern =
    e.requiredInputs.map (fun i => .name i.argument) ++
    e.body.toList.map (fun b => .name b.argument) ++
    (if e.optionalInputs = [] then [] else
      [.members (e.optionalInputs.map fun i => .mk i.argument none)]) ++ [.name "opts"] := by
  unfold params
  cases e.optionalInputs with
  | nil => simp [Param.plain, Param.pattern, Function.comp_def]
  | cons i rest => simp [Param.plain, Param.bag, Param.pattern, Function.comp_def]

theorem takes {e : Endpoint} {f : Function} (hf : f.params = e.params) : e.Takes f := by
  have hpatterns := hf ▸ e.params_patterns
  refine ⟨hpatterns, ?_⟩
  have hbag : (if e.optionalInputs = [] then [] else
      [Pattern.members (e.optionalInputs.map fun i => .mk i.argument none)]).flatMap Pattern.bound =
        e.optionalInputs.map Input.argument := by
    split
    · next h => simp [h]
    · simp [Pattern.bound]
  have hbound : f.bound = e.requiredInputs.map Input.argument ++
      e.body.toList.map Payload.argument ++ e.optionalInputs.map Input.argument ++ ["opts"] := by
    have hflat : f.bound = (f.params.map Param.pattern).flatMap Pattern.bound := by
      rw [List.flatMap_map]
      rfl
    rw [hflat, hpatterns]
    simp only [List.flatMap_append, hbag, List.flatMap_map]
    simp only [Pattern.bound, ← List.map_eq_flatMap, List.flatMap_singleton]
  have hinputs : (e.requiredInputs.map Input.argument ++ e.optionalInputs.map Input.argument).Perm
      (e.inputs.map Input.argument) := by
    rw [← List.map_append]
    exact (List.filter_append_perm _ e.inputs).map _
  rw [hbound]
  refine List.Perm.append_right _ ?_
  rw [List.append_assoc]
  exact (List.perm_append_comm.append_left _).trans
    ((List.append_assoc _ _ _ ▸ hinputs.append_right _))

def function (e : Endpoint) (optimistic : Bool) : Function where
  name := e.name
  params := e.params
  result := if optimistic then .apply "runtime.ok" [e.call] else e.call
  doc := e.doc

theorem items_eq_cons (e : Endpoint) (optimistic : Bool) :
    ∃ older, e.items optimistic = .function (e.function optimistic) :: older := ⟨_, rfl⟩

end Endpoint

end ClientGen
