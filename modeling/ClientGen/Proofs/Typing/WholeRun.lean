import ClientGen.Client
import ClientGen.Proofs.Typing.Law

namespace ClientGen

open Run TypeScript

theorem Client.build_gives {c : Setting} {document : Document} {client : Client} {s s' : Session}
    (h : (Client.build c document).Gives s client s') :
    ∃ ess s₁ s₂ e, Each c.endpointsOf document.paths s ess s₁ ∧
      (s₂ = s₁ ∨ ∃ u,
        (c.typeComponents ((document.components.map (·.schemas)).getD [])).Gives s₁ u s₂) ∧
      client = { endpoints := ess.flatten, types := s₂.types, enums := s₂.enums } ∧
      (report e).Gives s₂ () s' := by
  simp only [build, gives_bind, gives_mapM] at h
  obtain ⟨ess, s₁, hess, h⟩ := h
  split at h
  · simp only [gives_bind, gives_get, gives_pure] at h
    obtain ⟨u, s₂, hall, _, _, ⟨rfl, rfl⟩, _, _, hreport, rfl, rfl⟩ := h
    exact ⟨ess, s₁, _, _, hess, .inr ⟨u, hall⟩, rfl, hreport⟩
  · simp only [gives_bind, gives_get, gives_pure] at h
    obtain ⟨_, _, ⟨rfl, rfl⟩, _, _, hreport, rfl, rfl⟩ := h
    exact ⟨ess, _, _, _, hess, .inl rfl, rfl, hreport⟩

namespace Setting

theorem endpointOf_gives {c : Setting} {path : String} {item : PathItem} {method : Method}
    {op : Operation} {e : Endpoint} {s s' : Session}
    (h : (c.endpointOf path item method op).Gives s e s') :
    ∃ ps outcomes s₁ s₂ s₃ s₄ s₅,
      (takeFunction (OperationName.primary method.text path op.id)).Gives s e.name s₁ ∧
      ((OperationName.legacy? method.text path op.id).mapM takeFunction).Gives s₁ e.legacyName s₂ ∧
      Each (fun (p : Parameter × String) => c.inputOf p.1 p.2) ps s₂ e.inputs s₃ ∧
      Gives (op.body.mapM fun given => do
        c.payloadOf e.inputs (← given.resolve c.document RequestBody.read)) s₃ e.body s₄ ∧
      Each c.outcomeOf op.responses s₄ outcomes s₅ ∧ e.outcomes = outcomes.map Prod.fst ∧
      (report (.assembled e.name method path)).Gives s₅ () s' := by
  simp only [endpointOf, gives_bind, gives_lift, gives_mapM, gives_pure] at h
  obtain ⟨name, s₁, hname, legacy, s₂, hlegacy, ps, _, ⟨-, rfl⟩, inputs, s₃, hinputs, body, s₄,
    hbody, outcomes, s₅, houtcomes, _, s₆, hreport, rfl, rfl⟩ := h
  exact ⟨_, outcomes, s₁, _, s₃, s₄, s₅, hname, hlegacy, hinputs, hbody, houtcomes, rfl, hreport⟩

namespace Law

variable {c : Setting} (L : Law c) {place : Place} {s s' : Session} {t : TypeExpr}

def FitsEndpoint (s : Session) (e : Endpoint) : Prop := ∀ t ∈ e.types, L.Fits s t

theorem typeOf {x : Option Schema} (h : (c.typeOf place x).Gives s t s') :
    L.Step s s' ∧ L.Fits s' t := by
  cases x with
  | none =>
    simp only [Setting.typeOf, gives_pure] at h
    obtain ⟨rfl, rfl⟩ := h
    exact ⟨L.refl _, fits_anyType⟩
  | some x => exact L.obeys_typing _ _ _ _ _ h

theorem inputOf {p : Parameter} {argument : String} {i : Input}
    (h : (c.inputOf p argument).Gives s i s') : L.Step s s' ∧ L.Fits s' i.type := by
  simp only [Setting.inputOf, gives_bind] at h
  obtain ⟨t, s₁, ht, h⟩ := h
  obtain ⟨hstep, hfits⟩ := L.typeOf ht
  split at h
  · simp only [gives_bind, gives_map, gives_lift, gives_pure] at h
    obtain ⟨_, _, ⟨_, ⟨-, rfl⟩, rfl⟩, rfl, rfl⟩ := h
    exact ⟨hstep, hfits⟩
  · simp only [gives_bind, gives_pure] at h
    obtain ⟨_, _, ⟨rfl, rfl⟩, rfl, rfl⟩ := h
    exact ⟨hstep, hfits⟩

theorem bodyArgument_still {x : Schema} {name : String}
    (h : (bodyArgument x).Gives s name s') : s' = s := by
  unfold bodyArgument at h
  split at h
  · simp only [gives_bind, gives_get, gives_pure] at h
    obtain ⟨_, _, ⟨rfl, rfl⟩, -, rfl⟩ := h
    rfl
  · rw [gives_pure] at h
    exact h.2.symm

theorem payloadOf {inputs : List Input} {body : RequestBody} {p : Payload}
    (h : (c.payloadOf inputs body).Gives s p s') : L.Step s s' ∧ L.Fits s' p.type := by
  simp only [Setting.payloadOf, gives_bind, gives_pure] at h
  obtain ⟨t, s₁, ht, _, s₂, hname, rfl, rfl⟩ := h
  rw [bodyArgument_still hname]
  exact L.typeOf ht

theorem outcomeOf {entry : String × Referable Response} {o : Outcome × List String}
    (h : (c.outcomeOf entry).Gives s o s') :
    L.Step s s' ∧ ∀ t, o.1.data = some t → L.Fits s' t := by
  simp only [Setting.outcomeOf, gives_bind, gives_lift] at h
  obtain ⟨response, _, ⟨-, rfl⟩, h⟩ := h
  split at h
  · simp only [gives_bind, gives_pure] at h
    obtain ⟨t, _, ht, rfl, rfl⟩ := h
    obtain ⟨hstep, hfits⟩ := L.typeOf ht
    refine ⟨hstep, fun t' ht' => ?_⟩
    cases ht'
    exact hfits
  · rw [gives_pure] at h
    obtain ⟨rfl, rfl⟩ := h
    exact ⟨L.refl _, fun t ht => by cases ht⟩

theorem bodyOf {inputs : List Input} {given : Option (Referable RequestBody)}
    {body : Option Payload} (h : Gives (given.mapM fun given => do
      c.payloadOf inputs (← given.resolve c.document RequestBody.read)) s body s') :
    L.Step s s' ∧ ∀ p, body = some p → L.Fits s' p.type := by
  cases given with
  | none =>
    simp only [Option.mapM_none, gives_pure] at h
    obtain ⟨rfl, rfl⟩ := h
    exact ⟨L.refl _, fun p hp => by cases hp⟩
  | some given =>
    simp only [Option.mapM_some, gives_map, gives_bind, gives_lift] at h
    obtain ⟨p, ⟨_, _, ⟨-, rfl⟩, hp⟩, rfl⟩ := h
    obtain ⟨hstep, hfits⟩ := L.payloadOf hp
    refine ⟨hstep, fun p' hp' => ?_⟩
    cases hp'
    exact hfits

/-- All that an operation sends and gives back gets its types by one lawful step. -/
theorem operationTypes {ps : List (Parameter × String)} {op : Operation} {inputs : List Input}
    {body : Option Payload} {outcomes : List (Outcome × List String)} {s₁ s₂ : Session}
    (hinputs : Each (fun p => c.inputOf p.1 p.2) ps s inputs s₁)
    (hbody : Gives (op.body.mapM fun given => do
      c.payloadOf inputs (← given.resolve c.document RequestBody.read)) s₁ body s₂)
    (houtcomes : Each c.outcomeOf op.responses s₂ outcomes s') :
    L.Step s s' ∧ (∀ i ∈ inputs, L.Fits s' i.type) ∧ (∀ p, body = some p → L.Fits s' p.type) ∧
      ∀ o ∈ outcomes, ∀ t, o.1.data = some t → L.Fits s' t := by
  obtain ⟨hstep₁, hfits₁⟩ := each (P := fun i s => L.Fits s i.type) hinputs
    (fun _ _ _ hs hi => Fits.keep hi hs) fun _ _ _ _ _ hi => L.inputOf hi
  obtain ⟨hstep₂, hfits₂⟩ := L.bodyOf hbody
  obtain ⟨hstep₃, hfits₃⟩ := each
    (P := fun (o : Outcome × List String) s => ∀ t, o.1.data = some t → L.Fits s t) houtcomes
    (fun _ _ _ hs ho t ht => Fits.keep (ho t ht) hs) fun _ _ _ _ _ ho => L.outcomeOf ho
  have hrest := L.trans hstep₂ hstep₃
  exact ⟨L.trans hstep₁ hrest, fun i hi => (hfits₁ i hi).keep hrest,
    fun p hp => (hfits₂ p hp).keep hstep₃, hfits₃⟩

theorem typeComponents {schemas : Dict Schema} {u : Unit}
    (h : (c.typeComponents schemas).Gives s u s') : L.Step s s' := by
  simp only [Setting.typeComponents, gives_forM] at h
  obtain ⟨us, hus⟩ := h
  refine (hus.preserve (P := fun _ _ => True) L.refl L.trans (fun _ _ _ _ _ => trivial) ?_).1
  intro name _ s u s' h
  simp only [gives_bind, gives_pure] at h
  obtain ⟨t, _, ht, -, rfl⟩ := h
  exact ⟨((L.obeys_typingWithin (Nat.le_refl _)).referenceType (Nat.le_refl _) ht).1, trivial⟩

end Law

namespace RunLaw

variable {c : Setting} (L : RunLaw c) {s s' : Session}

theorem tookFunction {name name' : String} (h : (takeFunction name).Gives s name' s') :
    L.Step s s' := by
  simp only [Run.takeFunction, gives_modifyGet] at h
  rw [h.2]
  exact L.aside s _ s.events

theorem reported {e : Event} {u : Unit} (h : (report e).Gives s u s') : L.Step s s' := by
  simp only [Run.report, gives_modify] at h
  rw [h]
  exact L.aside s s.functions _

theorem tookFunctions {name name' : Option String}
    (h : (name.mapM takeFunction).Gives s name' s') : L.Step s s' := by
  cases name with
  | none =>
    simp only [Option.mapM_none, gives_pure] at h
    rw [h.2]
    exact L.refl _
  | some name =>
    simp only [Option.mapM_some, gives_map] at h
    obtain ⟨_, h, -⟩ := h
    exact L.tookFunction h

theorem endpointOf {path : String} {item : PathItem} {method : Method} {op : Operation}
    {e : Endpoint} (h : (c.endpointOf path item method op).Gives s e s') :
    L.Step s s' ∧ L.FitsEndpoint s' e := by
  obtain ⟨_, outcomes, _, _, _, _, s₅, hname, hlegacy, hinputs, hbody, houtcomes, he, hreport⟩ :=
    endpointOf_gives h
  obtain ⟨hstep, hfitsInputs, hfitsBody, hfitsOutcomes⟩ :=
    L.operationTypes hinputs hbody houtcomes
  have hlast := L.reported hreport
  refine ⟨L.trans (L.tookFunction hname) (L.trans (L.tookFunctions hlegacy) (L.trans hstep hlast)),
    fun t ht => ?_⟩
  have hfits : L.Fits s₅ t := by
    simp only [Endpoint.types, List.mem_append, List.mem_map, Option.mem_toList,
      Option.map_eq_some_iff, List.mem_filterMap, he] at ht
    rcases ht with (⟨i, hi, rfl⟩ | ⟨p, hp, rfl⟩) | ⟨_, ⟨o, ho, rfl⟩, ht⟩
    · exact hfitsInputs i hi
    · exact hfitsBody p hp
    · exact hfitsOutcomes o ho t ht
  exact hfits.keep hlast

theorem keptEndpoint {path : String} {item : PathItem} {operation : Method × Operation}
    {kept : Option Endpoint} (h : (c.keptEndpoint path item operation).Gives s kept s') :
    L.Step s s' ∧ ∀ e, kept = some e → L.FitsEndpoint s' e := by
  obtain ⟨method, op⟩ := operation
  simp only [Setting.keptEndpoint] at h
  split at h
  · rw [gives_map] at h
    obtain ⟨e, he, rfl⟩ := h
    obtain ⟨hstep, hfits⟩ := L.endpointOf he
    refine ⟨hstep, fun e' he' => ?_⟩
    cases he'
    exact hfits
  · simp only [gives_bind, gives_pure] at h
    obtain ⟨_, _, hreport, rfl, rfl⟩ := h
    exact ⟨L.reported hreport, fun e he => by cases he⟩

theorem endpointsOf {entry : String × PathItem} {es : List Endpoint}
    (h : (c.endpointsOf entry).Gives s es s') :
    L.Step s s' ∧ ∀ e ∈ es, L.FitsEndpoint s' e := by
  simp only [Setting.endpointsOf, gives_bind, gives_mapM, gives_pure] at h
  obtain ⟨kept, s₁, hkept, rfl, rfl⟩ := h
  obtain ⟨hstep, hfits⟩ := Law.each (L := L.toLaw)
    (P := fun (k : Option Endpoint) s => ∀ e, k = some e → L.FitsEndpoint s e) hkept
    (fun _ _ _ hs hk e he t ht => Law.Fits.keep (hk e he t ht) hs)
    fun _ _ _ _ _ hk => L.keptEndpoint hk
  refine ⟨hstep, fun e he => ?_⟩
  obtain ⟨k, hk, he⟩ := List.mem_filterMap.1 he
  exact hfits k hk e he

/-- The client is built from the first session to the last by a lawful step. Its types are those of
the last session, and the types of its functions fit there. -/
theorem build {document : Document} {client : Client}
    (h : (Client.build c document).Gives s client s') :
    L.Step s s' ∧ client.types = s'.types ∧ client.enums = s'.enums ∧
      ∀ e ∈ client.endpoints, L.FitsEndpoint s' e := by
  obtain ⟨ess, s₁, s₂, e, hess, hcomponents, rfl, hreport⟩ := Client.build_gives h
  obtain ⟨hstep, hfits⟩ := Law.each (L := L.toLaw)
    (P := fun es s => ∀ e ∈ es, L.FitsEndpoint s e) hess
    (fun _ _ _ hs hes e he t ht => Law.Fits.keep (hes e he t ht) hs)
    fun _ _ _ _ _ hes => L.endpointsOf hes
  have hstep₂ : L.Step s₁ s₂ := by
    rcases hcomponents with rfl | ⟨u, hall⟩
    · exact L.refl _
    · exact L.typeComponents hall
  have hlast := L.trans hstep₂ (L.reported hreport)
  rw [report, gives_modify] at hreport
  subst hreport
  refine ⟨L.trans hstep hlast, rfl, rfl, fun e he t ht => ?_⟩
  obtain ⟨es, hes, he⟩ := List.mem_flatten.1 he
  exact (hfits es hes e he t ht).keep hlast

end RunLaw

end Setting

namespace Client

def builds (tree : Json) (options : Options) (p : Document → Client → Session → Bool) : Bool :=
  match Document.ofJson tree with
  | .ok document =>
    match ofDocument tree document options with
    | (.ok client, s) => p document client s
    | (.error _, _) => false
  | .error _ => false

theorem exists_ofDocument {tree : Json} {options : Options}
    {p : Document → Client → Session → Bool}
    (h : builds tree options p = true) : ∃ document client s,
      Document.ofJson tree = .ok document ∧
      ofDocument tree document options = (.ok client, s) ∧ p document client s = true := by
  unfold builds at h
  split at h
  · next document hread =>
    split at h
    · next client s hbuilt => exact ⟨document, client, s, hread, hbuilt, h⟩
    · cases h
  · cases h

end Client

end ClientGen
