import ClientGen.Client
import ClientGen.Proofs.Typing.Mirrors

namespace ClientGen

open Json (Reader)
open Run TypeScript

def Input.withAny (word : Keyword) (i : Input) : Input := { i with type := i.type.withAny word }

def Payload.withAny (word : Keyword) (p : Payload) : Payload :=
  { p with type := p.type.withAny word }

def Outcome.withAny (word : Keyword) (o : Outcome) : Outcome :=
  { o with data := o.data.map (TypeExpr.withAny word) }

def Endpoint.withAny (word : Keyword) (e : Endpoint) : Endpoint :=
  { e with
    inputs := e.inputs.map (Input.withAny word)
    body := e.body.map (Payload.withAny word)
    outcomes := e.outcomes.map (Outcome.withAny word) }

def Client.withAny (word : Keyword) (client : Client) : Client :=
  { client with
    endpoints := client.endpoints.map (Endpoint.withAny word)
    types := client.types.map (TypeDecl.withAny word) }

section Any

theorem Input.withAny_any (i : Input) : i.withAny .any = i := by
  rw [withAny, i.type.withAny_any]

theorem Payload.withAny_any (p : Payload) : p.withAny .any = p := by
  rw [withAny, p.type.withAny_any]

theorem Outcome.withAny_any (o : Outcome) : o.withAny .any = o := by
  rw [withAny, Option.map_congr fun t _ => t.withAny_any, Option.map_id']

theorem Endpoint.withAny_any (e : Endpoint) : e.withAny .any = e := by
  rw [withAny, List.map_congr_left fun i _ => i.withAny_any, List.map_id',
    Option.map_congr fun p _ => p.withAny_any, Option.map_id',
    List.map_congr_left fun o _ => o.withAny_any, List.map_id']

theorem Endpoint.map_withAny_any (es : List Endpoint) : es.map (Endpoint.withAny .any) = es := by
  rw [List.map_congr_left fun e _ => e.withAny_any, List.map_id']

theorem Client.withAny_any (client : Client) : client.withAny .any = client := by
  rw [withAny, Endpoint.map_withAny_any, List.map_congr_left fun d _ => d.withAny_any,
    List.map_id']

theorem Client.map_withAny_any (x : Except Failure Client) : x.map (Client.withAny .any) = x := by
  cases x with
  | error e => rfl
  | ok client => exact congrArg Except.ok client.withAny_any

end Any

theorem Session.merged_start {c : Setting} {document : Document} :
    c.Merged (Session.start c document) :=
  fun _ _ h => absurd h List.not_mem_nil

/-- The end of a build: the client of some functions and of all that is declared by then. -/
def Client.finish (endpoints : List Endpoint) : Run Client := do
  let s ← get
  Run.report (.finished endpoints.length s.types.length s.enums.length)
  return { endpoints, types := s.types, enums := s.enums }

namespace Parameter

theorem mem_override {p q : Parameter} {ps : List Parameter} (h : q ∈ p.override ps) :
    q = p ∨ q ∈ ps := by
  induction ps with
  | nil => exact .inl (List.mem_singleton.1 h)
  | cons first rest ih =>
    unfold override at h
    split at h
    · rcases List.mem_cons.1 h with rfl | h
      · exact .inl rfl
      · exact .inr (List.mem_cons_of_mem first h)
    · rcases List.mem_cons.1 h with rfl | h
      · exact .inr List.mem_cons_self
      · exact (ih h).imp_right (List.mem_cons_of_mem first)

theorem mem_overrideAll {q : Parameter} {shared own : List Parameter}
    (h : q ∈ overrideAll shared own) : q ∈ shared ∨ q ∈ own := by
  induction own generalizing shared with
  | nil => exact .inl h
  | cons p own ih =>
    rcases ih h with h | h
    · rcases mem_override h with rfl | h
      · exact .inr List.mem_cons_self
      · exact .inl h
    · exact .inr (List.mem_cons_of_mem p h)

end Parameter

theorem Except.bind_eq_ok {α β ε : Type} {x : Except ε α} {f : α → Except ε β} {b : β} :
    (x >>= f) = .ok b ↔ ∃ a, x = .ok a ∧ f a = .ok b := by
  cases x with
  | error e => exact ⟨nofun, nofun⟩
  | ok a => exact ⟨fun h => ⟨a, rfl, h⟩, fun ⟨_, ha, h⟩ => by cases ha; exact h⟩

theorem exists_of_mem_mapM {α β ε : Type} {f : α → Except ε β} {l : List α} {bs : List β} {b : β}
    (h : l.mapM f = .ok bs) (hb : b ∈ bs) : ∃ a ∈ l, f a = .ok b := by
  induction l generalizing bs with
  | nil =>
    cases h
    cases hb
  | cons a l ih =>
    rw [List.mapM_cons] at h
    obtain ⟨b', hb', h⟩ := Except.bind_eq_ok.1 h
    obtain ⟨bs', hbs', h⟩ := Except.bind_eq_ok.1 h
    cases h
    rcases List.mem_cons.1 hb with rfl | hb
    · exact ⟨a, List.mem_cons_self, hb'⟩
    · obtain ⟨a', ha', hfa⟩ := ih hbs' hb
      exact ⟨a', List.mem_cons_of_mem a ha', hfa⟩

namespace Setting.Mirror

variable {c c' : Setting} {M : Mirror c c'} {view view' : View} {name : Option String}

def CoversOperation (M : Mirror c c') (op : Operation) : Prop := ∀ r, op.Mentions r → M.Asked r

/-- All references that the operations of the path and their shared parameters mention may be asked
for. -/
def CoversItem (M : Mirror c c') (item : PathItem) : Prop := ∀ r, item.Mentions r → M.Asked r

section Resolve

variable {α : Type} {read : Reader α} {mentions : String → α → Prop} {a : Referable α} {b : α}
  {r : String}

theorem agree_referable (ha : ∀ q, a.Mentions mentions q → M.Asked q) :
    Agree M.Excused (a.resolve c.document read) (a.resolve c'.document read) := by
  cases a with
  | reference target => exact M.agree_resolve (ha target rfl)
  | inline value => exact .refl _

theorem asked_of_referable (hread : read.Faithful mentions)
    (ha : ∀ q, a.Mentions mentions q → M.Asked q) (hb : a.resolve c.document read = .ok b)
    (hr : mentions r b) : M.Asked r := by
  cases a with
  | reference target => exact M.asked_of_resolve hread (ha target rfl) hb hr
  | inline value =>
    cases hb
    exact ha r hr

end Resolve

section Parameters

variable {ps : List (Referable Parameter)} {resolved : List Parameter} {item : PathItem}
  {op : Operation}

theorem agree_referables (hps : ∀ p ∈ ps, ∀ q, p.Mentions Parameter.Mentions q → M.Asked q) :
    Agree M.Excused (ps.mapM (Referable.resolve c.document Parameter.read))
      (ps.mapM (Referable.resolve c'.document Parameter.read)) :=
  .mapM fun p hp => agree_referable (hps p hp)

theorem asked_of_referables (hps : ∀ p ∈ ps, ∀ q, p.Mentions Parameter.Mentions q → M.Asked q)
    (h : ps.mapM (Referable.resolve c.document Parameter.read) = .ok resolved) :
    ∀ p ∈ resolved, ∀ r, p.Mentions r → M.Asked r := by
  intro p hp r hr
  obtain ⟨a, ha, hresolve⟩ := exists_of_mem_mapM h hp
  exact asked_of_referable Parameter.faithful (hps a ha) hresolve hr

theorem agree_parametersOf (hitem : M.CoversItem item) (hop : M.CoversOperation op) :
    Agree M.Excused (c.parametersOf item op) (c'.parametersOf item op) := by
  unfold parametersOf
  refine (agree_referables fun p hp q hq => hitem q (.inl ⟨p, hp, hq⟩)).bind fun shared _ => ?_
  refine (agree_referables fun p hp q hq => hop q (.inl ⟨p, hp, hq⟩)).bind fun own _ => ?_
  exact .refl _

theorem asked_of_parametersOf (hitem : M.CoversItem item) (hop : M.CoversOperation op)
    (h : c.parametersOf item op = .ok resolved) :
    ∀ p ∈ resolved, ∀ r, p.Mentions r → M.Asked r := by
  intro p hp
  unfold parametersOf at h
  obtain ⟨shared, hshared, h⟩ := Except.bind_eq_ok.1 h
  obtain ⟨own, hown, h⟩ := Except.bind_eq_ok.1 h
  cases h
  rcases Parameter.mem_overrideAll hp with hp | hp
  · exact asked_of_referables (fun p hp q hq => hitem q (.inl ⟨p, hp, hq⟩)) hshared p hp
  · exact asked_of_referables (fun p hp q hq => hop q (.inl ⟨p, hp, hq⟩)) hown p hp

end Parameters

section Steps

variable (M)

theorem mirrored_takeFunction (name : String) :
    M.Mirrored id (takeFunction name) (takeFunction name) := by
  apply Mirrors.modifyGet
  rintro s _ ⟨hs, events, rfl, he⟩
  exact ⟨rfl, hs, events, rfl, he⟩

theorem mirrored_bodyArgument (x : Schema) :
    M.Mirrored id (bodyArgument x) (bodyArgument x) := by
  unfold bodyArgument
  split
  · apply Mirrors.get_bind
    rintro s _ ⟨-, events, rfl, -⟩
    exact .pure rfl
  · exact .pure rfl

theorem mirrored_finish (endpoints : List Endpoint) :
    M.Mirrored (Client.withAny M.word) (Client.finish endpoints)
      (Client.finish (endpoints.map (Endpoint.withAny M.word))) := by
  unfold Client.finish
  apply Mirrors.get_bind
  rintro s _ ⟨-, events, rfl, -⟩
  rw [List.length_map, Session.withAny, List.length_map]
  exact (M.mirrored_report _).value fun _ => rfl

end Steps

theorem mirrored_typeOf (hview : c.SameView view view') {x : Option Schema}
    (hx : ∀ y, x = some y → M.Covers y) :
    M.Mirrored (TypeExpr.withAny M.word) (c.typeOf { view, name } x)
      (c'.typeOf { view := view', name } x) := by
  cases x with
  | none => exact .pure M.anyType.symm
  | some x => exact M.mirrored_typing name hview askedOf_none (hx x rfl)

theorem mirrored_inputOf {p : Parameter} (hp : ∀ r, p.Mentions r → M.Asked r)
    (argument : String) :
    M.Mirrored (Input.withAny M.word) (c.inputOf p argument) (c'.inputOf p argument) := by
  unfold inputOf
  refine (mirrored_typeOf (.refl .write) fun x hx r hr => hp r ⟨x, hx, hr⟩).bind fun t => ?_
  dsimp only
  split
  · refine Mirrors.value (f := id) ?_ fun _ => rfl
    exact (Mirrors.lift (.refl _)).map fun _ => rfl
  · exact .pure rfl

theorem mirrored_payloadOf (inputs : List Input) {body : RequestBody}
    (hbody : ∀ r, body.Mentions r → M.Asked r) :
    M.Mirrored (Payload.withAny M.word) (c.payloadOf inputs body)
      (c'.payloadOf (inputs.map (Input.withAny M.word)) body) := by
  unfold payloadOf
  refine (mirrored_typeOf (.refl .write) fun x hx => ?_).bind fun t => ?_
  · cases hx
    exact hbody
  · refine (M.mirrored_bodyArgument _).value fun argument => ?_
    rw [List.any_map]
    rfl

theorem mirrored_bodyOf (inputs : List Input) {body : Referable RequestBody}
    (hbody : ∀ r, body.Mentions RequestBody.Mentions r → M.Asked r) :
    M.Mirrored (Payload.withAny M.word)
      (liftM (body.resolve c.document RequestBody.read) >>= c.payloadOf inputs)
      (liftM (body.resolve c'.document RequestBody.read) >>=
        c'.payloadOf (inputs.map (Input.withAny M.word))) := by
  refine (Mirrors.lift (agree_referable hbody)).bind_gives fun given _ _ hgiven => ?_
  refine mirrored_payloadOf inputs fun r => ?_
  exact asked_of_referable RequestBody.faithful hbody (gives_lift.1 hgiven).1

theorem mirrored_outcomeOf {entry : String × Referable Response}
    (hentry : ∀ r, entry.2.Mentions Response.Mentions r → M.Asked r) :
    M.Mirrored (Prod.map (Outcome.withAny M.word) id) (c.outcomeOf entry)
      (c'.outcomeOf entry) := by
  unfold outcomeOf
  refine (Mirrors.lift (agree_referable hentry)).bind_gives fun response _ _ hresponse => ?_
  have hasked : ∀ r, response.Mentions r → M.Asked r := fun r =>
    asked_of_referable Response.faithful hentry (gives_lift.1 hresponse).1
  dsimp only [id]
  split
  · next content hcontent =>
    refine (mirrored_typeOf (.refl .read) fun x hx r hr => ?_).value fun _ => rfl
    cases hx
    exact hasked r ⟨content, hcontent, hr⟩
  · exact .pure rfl

theorem mirrored_endpointOf (path : String) {item : PathItem} (method : Method) {op : Operation}
    (hitem : M.CoversItem item) (hop : M.CoversOperation op) :
    M.Mirrored (Endpoint.withAny M.word) (c.endpointOf path item method op)
      (c'.endpointOf path item method op) := by
  unfold endpointOf
  refine (M.mirrored_takeFunction _).bind fun name => ?_
  refine (Mirrors.mapM_option fun n _ => M.mirrored_takeFunction n).bind fun legacyName => ?_
  refine (Mirrors.lift (agree_parametersOf hitem hop)).bind_gives fun parameters _ _ hparams => ?_
  have hasked := asked_of_parametersOf hitem hop (gives_lift.1 hparams).1
  refine (Mirrors.mapM fun p hp =>
    mirrored_inputOf (hasked p.1 (List.of_mem_zip hp).1) p.2).bind fun inputs => ?_
  refine (Mirrors.mapM_option fun body hbody =>
    mirrored_bodyOf inputs fun q hq => hop q (.inr (.inl ⟨body, hbody, hq⟩))).bind fun body => ?_
  have houtcomes := Mirrors.mapM fun entry (hentry : entry ∈ op.responses) =>
    mirrored_outcomeOf (M := M) fun r hr => hop r (.inr (.inr ⟨entry, hentry, hr⟩))
  refine houtcomes.bind fun outcomes => ?_
  refine (M.mirrored_report _).value fun _ => ?_
  simp only [Endpoint.withAny, Option.map_id, List.flatMap_map, List.map_map]
  rfl

theorem mirrored_endpointsOf {entry : String × PathItem} (hentry : M.CoversItem entry.2)
    (hkeeps : c'.options.keeps = c.options.keeps) :
    M.Mirrored (List.map (Endpoint.withAny M.word)) (c.endpointsOf entry)
      (c'.endpointsOf entry) := by
  have hkept : ∀ operation ∈ entry.2.operations, M.Mirrored (Option.map (Endpoint.withAny M.word))
      (c.keptEndpoint entry.1 entry.2 operation) (c'.keptEndpoint entry.1 entry.2 operation) := by
    rintro ⟨method, op⟩ hop
    unfold keptEndpoint
    dsimp only
    rw [hkeeps]
    split
    · have hcovers : M.CoversOperation op := fun r hr => hentry r (.inr ⟨(method, op), hop, hr⟩)
      exact (mirrored_endpointOf entry.1 method hentry hcovers).map fun _ => rfl
    · exact (M.mirrored_report _).value fun _ => rfl
  unfold endpointsOf
  refine (Mirrors.mapM hkept).value fun kept => ?_
  rw [List.map_filterMap, List.filterMap_map]
  rfl

theorem mirrored_paths (M : Mirror c c') (document : Document)
    (hpaths : ∀ entry ∈ document.paths, M.CoversItem entry.2)
    (hkeeps : c'.options.keeps = c.options.keeps) :
    M.Mirrored (List.map (List.map (Endpoint.withAny M.word))) (document.paths.mapM c.endpointsOf)
      (document.paths.mapM c'.endpointsOf) :=
  .mapM fun entry hentry => mirrored_endpointsOf (hpaths entry hentry) hkeeps

theorem mirrored_typeComponents {schemas : Dict Schema}
    (h : ∀ name ∈ schemas.keys, M.Asked (Reference.ofComponent name)) :
    M.Mirrored id (c.typeComponents schemas) (c'.typeComponents schemas) := by
  unfold typeComponents
  refine .forM fun name hname => ?_
  exact (mirrored_referenceType M.mirrored_typing (.refl .base) (h name hname)).value fun _ => rfl

/-- The clients for two documents differ in the word only if their functions do, and if they declare
the same components. -/
theorem mirrored_build {document document' : Document}
    (hpaths : M.Mirrored (List.map (List.map (Endpoint.withAny M.word)))
      (document.paths.mapM c.endpointsOf) (document'.paths.mapM c'.endpointsOf))
    (hall : c'.options.allSchemas = c.options.allSchemas)
    (hcomponents : c.options.allSchemas = true →
      document'.components = document.components ∧ ∀ r, M.Asked r) :
    M.Mirrored (Client.withAny M.word) (Client.build c document) (Client.build c' document') := by
  unfold Client.build
  refine hpaths.bind fun endpoints => ?_
  rw [← List.map_flatten]
  dsimp only
  rw [hall]
  split
  · next hon =>
    obtain ⟨hsame, hasked⟩ := hcomponents hon
    rw [hsame]
    exact (mirrored_typeComponents fun _ _ => hasked _).bind fun _ =>
      M.mirrored_finish endpoints.flatten
  · exact M.mirrored_finish endpoints.flatten

end Setting.Mirror

end ClientGen
