import ClientGen.Proofs.Endpoint.Sent
import ClientGen.Proofs.Endpoint.Wishes
import ClientGen.Proofs.Typing.Closed
import ClientGen.Proofs.Typing.Repeat
import Mathlib.Data.List.Sort

namespace ClientGen

open Run TypeScript

namespace Parameter

def wish (p : Parameter) : Wish where
  first := Identifier.ofText p.name false .base
  second := Identifier.ofText p.name false .base ++
    String.ofList (Text.capitalize p.location.text.toList)

theorem orderedInsert_append {α : Type} {r : α → α → Prop} [DecidableRel r] {a : α}
    {l₁ l₂ : List α} (h₁ : ∀ b ∈ l₁, ¬ r a b) (h₂ : ∀ b ∈ l₂, r a b) :
    (l₁ ++ l₂).orderedInsert r a = l₁ ++ a :: l₂ := by
  induction l₁ with
  | nil =>
    cases l₂ with
    | nil => rfl
    | cons b l₂ => exact List.orderedInsert_cons_of_le r l₂ (h₂ b List.mem_cons_self)
  | cons b l₁ ih =>
    rw [List.cons_append, List.orderedInsert_of_not_le r (l₁ ++ l₂) (h₁ b List.mem_cons_self),
      ih fun c hc => h₁ c (List.mem_cons_of_mem b hc), List.cons_append]

/-- Both sorts are stable, so they agree also where items that differ compare alike. -/
theorem mergeSort_eq_insertionSort {α : Type} {r : α → α → Prop} [DecidableRel r]
    (htrans : ∀ a b c, r a b → r b c → r a c) (htotal : ∀ a b, r a b ∨ r b a) (l : List α) :
    l.mergeSort (fun a b => r a b) = l.insertionSort r := by
  have htrans' : ∀ a b c : α, decide (r a b) = true → decide (r b c) = true →
      decide (r a c) = true := by simpa using htrans
  have htotal' : ∀ a b : α, (decide (r a b) || decide (r b a)) = true := by simpa using htotal
  induction l with
  | nil => exact List.mergeSort_nil
  | cons a l ih =>
    obtain ⟨l₁, l₂, hall, hrest, hbefore⟩ := List.mergeSort_cons htrans' htotal' a l
    have hsorted := List.pairwise_mergeSort htrans' htotal' (a :: l)
    rw [hall, List.pairwise_append, List.pairwise_cons] at hsorted
    rw [hall, List.insertionSort_cons, ← ih, hrest, orderedInsert_append]
    · simpa using hbefore
    · simpa using hsorted.2.1.1

-- The kernel evaluates an insertion sort, but no merge sort.
theorem arguments_eq (ps : List Parameter) : arguments ps =
    (List.range ps.length).map fun i => ((argumentsInTurn [] (ps.zipIdx.insertionSort
      fun p q => p.1.name.length ≤ q.1.name.length)).lookup i).getD "" := by
  rw [arguments, mergeSort_eq_insertionSort
    (r := fun p q : Parameter × Nat => p.1.name.length ≤ q.1.name.length)
    (fun _ _ _ => Nat.le_trans) fun _ _ => Nat.le_total _ _]

/-- Parameters in the order in which their arguments are named. -/
def inTurn (ps : List Parameter) : List Parameter :=
  ps.mergeSort fun p q => p.name.length ≤ q.name.length

theorem argument_eq (p : Parameter) (taken : List String) : p.argument taken = p.wish.grant taken :=
  rfl

theorem argumentsInTurn_snd (taken : List String) (order : List (Parameter × Nat)) :
    (argumentsInTurn taken order).map Prod.snd =
      Wish.granted taken (order.map fun entry => entry.1.wish) := by
  induction order generalizing taken with
  | nil => rfl
  | cons entry rest ih =>
    rw [argumentsInTurn, List.map_cons, ih, List.map_cons, Wish.granted, argument_eq]

theorem argumentsInTurn_fst (taken : List String) (order : List (Parameter × Nat)) :
    (argumentsInTurn taken order).map Prod.fst = order.map Prod.snd := by
  induction order generalizing taken with
  | nil => rfl
  | cons entry rest ih => rw [argumentsInTurn, List.map_cons, ih, List.map_cons]

theorem lookup_of_mem {named : List (Nat × String)} (h : (named.map Prod.fst).Nodup)
    {entry : Nat × String} (hentry : entry ∈ named) : named.lookup entry.1 = some entry.2 := by
  induction named with
  | nil => cases hentry
  | cons first rest ih =>
    rw [List.map_cons, List.nodup_cons] at h
    rw [List.lookup_cons]
    rcases List.mem_cons.1 hentry with rfl | hrest
    · rw [beq_self_eq_true]
    · have hne : entry.1 ≠ first.1 := fun he => h.1 (he ▸ List.mem_map.2 ⟨entry, hrest, rfl⟩)
      rw [beq_eq_false_iff_ne.2 hne]
      exact ih h.2 hrest

theorem perm_arguments (ps : List Parameter) :
    (arguments ps).Perm (Wish.granted [] ((inTurn ps).map wish)) := by
  let order := ps.zipIdx.mergeSort fun p q => p.1.name.length ≤ q.1.name.length
  let named := argumentsInTurn [] order
  have hfst : named.map Prod.fst = order.map Prod.snd := argumentsInTurn_fst [] order
  have hplaces : (named.map Prod.fst).Perm (List.range ps.length) := by
    rw [hfst, List.range_eq_range', ← List.zipIdx_map_snd 0 ps]
    exact (List.mergeSort_perm _ _).map _
  have hnodup : (named.map Prod.fst).Nodup := hplaces.nodup_iff.2 List.nodup_range
  have hlookup : (named.map Prod.fst).map (fun i => (named.lookup i).getD "") =
      named.map Prod.snd := by
    rw [List.map_map]
    refine List.map_congr_left fun entry hentry => ?_
    rw [Function.comp_apply, lookup_of_mem hnodup hentry, Option.getD_some]
  have hturn : order.map Prod.fst = inTurn ps := by
    rw [inTurn, ← List.zipIdx_map_fst 0 ps]
    exact List.map_mergeSort fun _ _ _ _ => rfl
  have hgranted : named.map Prod.snd = Wish.granted [] ((inTurn ps).map wish) := by
    rw [← hturn, List.map_map]
    exact argumentsInTurn_snd [] order
  rw [← hgranted, ← hlookup]
  exact (hplaces.map _).symm

theorem length_arguments (ps : List Parameter) : (arguments ps).length = ps.length := by
  rw [arguments, List.length_map, List.length_range]

end Parameter

namespace Setting

variable {c : Setting} {s s' s₁ : Session} {x : Schema}

/-- The name that a body asks for in a session: that of its type, if its schema is a reference. -/
def bodyName (s : Session) (x : Schema) : String :=
  match x.reference with
  | some r => Identifier.ofText (match s.references.get? r with
      | some names => names.base
      | none => Reference.stableName r) false .base
  | none => "body"

def bodyWish (s : Session) (x : Schema) : Wish where
  first := bodyName s x
  second := bodyName s x ++ "Body"

theorem bodyArgument_gives {name : String} (h : (bodyArgument x).Gives s name s') :
    name = bodyName s x ∧ s' = s := by
  unfold bodyArgument at h
  unfold bodyName
  cases hr : x.reference with
  | none =>
    rw [hr] at h
    obtain ⟨rfl, rfl⟩ := gives_pure.1 h
    exact ⟨rfl, rfl⟩
  | some r =>
    rw [hr] at h
    simp only [gives_bind, gives_get, gives_pure] at h
    obtain ⟨_, _, ⟨rfl, rfl⟩, hname, rfl⟩ := h
    exact ⟨hname.symm, rfl⟩

theorem pieces_of_reference {name component : Option String} {r : String}
    (h : x.reference = some r) : c.pieces name component x = [.reference r] := by
  unfold pieces Schema.kind
  rw [h]

theorem typing_gives_of_reference {place : Place} {t : TypeExpr} {r : String}
    (h : (c.typing place x).Gives s t s₁) (hr : x.reference = some r) :
    (∃ names, s₁.references.get? r = some names) ∨
      ∃ y, s₁.references.get? r = none ∧ c.schema r = .ok y ∧ c.namesEnum y = true := by
  have hdepth : 0 < c.depth := Nat.mul_pos (by decide) (Nat.pow_pos (Nat.succ_pos _))
  obtain ⟨fuel, hfuel⟩ := Nat.exists_eq_succ_of_ne_zero (Nat.ne_of_gt hdepth)
  rw [typing, hfuel] at h
  obtain ⟨-, ts, hts, -⟩ := typingStep_gives.1 h
  rw [pieces_of_reference hr] at hts
  obtain ⟨t', hgives, -⟩ := exists_each_singleton.1 ⟨ts, hts, rfl⟩
  have hle : fuel ≤ c.depth := hfuel ▸ Nat.le_succ fuel
  rcases referenceType_gives hle hgives with ⟨names, hnames, -⟩ | ⟨y, hnone, hy, he, henum⟩
  · exact .inl ⟨names, hnames⟩
  · have hlater := (c.growth.enum henum).1.later
    exact .inr ⟨y, hlater.get?_eq_none hnone hy he, hy, he⟩

/-- A schema that has its type asks for the same name later on. -/
theorem bodyName_later {place : Place} {t : TypeExpr}
    (h : (c.typing place x).Gives s t s₁) (hlater : c.Later s₁ s') :
    bodyName s' x = bodyName s₁ x := by
  unfold bodyName
  cases hr : x.reference with
  | none => rfl
  | some r =>
    rcases typing_gives_of_reference h hr with ⟨names, hnames⟩ | ⟨y, hnone, hy, he⟩
    · simp only [hnames, hlater.known hnames]
    · simp only [hnone, hlater.get?_eq_none hnone hy he]

theorem inputOf_argument {p : Parameter} {argument : String} {i : Input}
    (h : (c.inputOf p argument).Gives s i s') : i.argument = argument := by
  simp only [inputOf, gives_bind] at h
  obtain ⟨_, _, -, h⟩ := h
  split at h
  · simp only [gives_bind, gives_pure] at h
    obtain ⟨_, _, -, rfl, -⟩ := h
    rfl
  · simp only [gives_bind, gives_pure] at h
    obtain ⟨_, _, -, rfl, -⟩ := h
    rfl

theorem payloadOf_argument {inputs : List Input} {body : RequestBody} {p : Payload}
    (h : (c.payloadOf inputs body).Gives s p s₁) (hlater : c.Later s₁ s') :
    p.argument =
      (bodyWish s' (Content.schema body.content)).grant (inputs.map Input.argument) := by
  simp only [payloadOf, gives_bind, gives_pure] at h
  obtain ⟨t, s₂, ht, name, s₃, hname, rfl, rfl⟩ := h
  obtain ⟨rfl, rfl⟩ := bodyArgument_gives hname
  rw [Wish.grant, bodyWish, bodyName_later ht hlater]
  generalize bodyName _ _ = own
  have htaken : inputs.any (fun i => decide (i.argument = own)) =
      (inputs.map Input.argument).contains own := by
    rw [Bool.eq_iff_iff, List.contains_iff_mem]
    simp
  simp only [htaken]

/-- What the parameters and the body of an operation wish for, in turn. -/
inductive Wishes (c : Setting) (item : PathItem) (op : Operation) (s : Session) :
    List Wish → Prop where
  | plain {ps : List Parameter} (hps : c.parametersOf item op = .ok ps) (hbody : op.body = none) :
      Wishes c item op s ((Parameter.inTurn ps).map Parameter.wish)
  | body {ps : List Parameter} {given : Referable RequestBody} {body : RequestBody}
      (hps : c.parametersOf item op = .ok ps) (hgiven : op.body = some given)
      (hbody : given.resolve c.document RequestBody.read = .ok body) :
      Wishes c item op s ((Parameter.inTurn ps).map Parameter.wish ++
        [bodyWish s (Content.schema body.content)])

/-- The arguments of an endpoint are those that are granted to the wishes of its operation. -/
theorem endpointOf_granted {path : String} {item : PathItem} {method : Method} {op : Operation}
    {e : Endpoint} (h : (c.endpointOf path item method op).Gives s e s') :
    ∃ ws, c.Wishes item op s' ws ∧
      (e.inputs.map Input.argument ++ e.body.toList.map Payload.argument).Perm
        (Wish.granted [] ws) := by
  simp only [endpointOf, gives_bind, gives_lift, gives_mapM, gives_pure] at h
  obtain ⟨name, s₁, -, legacy, s₂, -, ps, _, ⟨hps, rfl⟩, inputs, s₃, hinputs, body, s₄, hbody,
    outcomes, s₅, houtcomes, _, s₆, hreport, rfl, rfl⟩ := h
  have harguments : inputs.map Input.argument = Parameter.arguments ps := by
    have hsnd := hinputs.map_eq (g := Input.argument) (h := Prod.snd)
      fun _ _ _ _ hi => inputOf_argument hi
    rw [hsnd]
    exact List.map_snd_zip (Nat.le_of_eq (Parameter.length_arguments ps))
  have hlater : c.Later s₄ s₆ := by
    have hstep := (c.growth.each (P := fun _ _ => True) houtcomes (fun _ _ _ _ h => h)
      fun _ _ _ _ _ ho => ⟨(c.growth.outcomeOf ho).1, trivial⟩).1
    exact (hstep.trans (c.growth.reported hreport)).later
  have hperm : (inputs.map Input.argument).Perm
      (Wish.granted [] ((Parameter.inTurn ps).map Parameter.wish)) :=
    harguments ▸ Parameter.perm_arguments ps
  cases hb : op.body with
  | none =>
    simp only [hb, Option.mapM_none, gives_pure] at hbody
    obtain ⟨rfl, rfl⟩ := hbody
    exact ⟨_, .plain hps hb, by simpa using hperm⟩
  | some given =>
    simp only [hb, Option.mapM_some, gives_map, gives_bind, gives_lift] at hbody
    obtain ⟨p, ⟨content, _, ⟨hcontent, rfl⟩, hp⟩, rfl⟩ := hbody
    refine ⟨_, .body hps hb hcontent, ?_⟩
    have hsame := Wish.grant_congr (fun n => hperm.mem_iff)
      (bodyWish s₆ (Content.schema content.content))
    rw [Wish.granted_append_singleton, ← hsame, ← payloadOf_argument hp hlater]
    exact hperm.append_right _

/-- Whatever an operation takes, the names that its function binds are those that are granted, and
the options. They differ from each other and from the support code just if the wishes are compatible
and nobody is granted the name of the options or of the support code. It is enough that the second
names of the wishes differ from each other and from all first names, and that no wish is for one of
those two. -/
theorem bound_distinct_iff {path : String} {item : PathItem} {method : Method} {op : Operation}
    {e : Endpoint} (h : (c.endpointOf path item method op).Gives s e s') (optimistic : Bool) :
    ∃ ws f older, c.Wishes item op s' ws ∧ e.items optimistic = .function f :: older ∧
      f.bound.Perm (Wish.granted [] ws ++ ["opts"]) ∧
      ((f.bound.Nodup ∧ "runtime" ∉ f.bound) ↔ Wish.Compatible ws ∧
        "opts" ∉ Wish.granted [] ws ∧ "runtime" ∉ Wish.granted [] ws) ∧
      ((ws.map Wish.second).Nodup → (∀ w ∈ ws, ∀ v ∈ ws, w.first ≠ v.second) →
        (∀ w ∈ ws, ∀ n ∈ ["opts", "runtime"], n ≠ w.first ∧ n ≠ w.second) →
        f.bound.Nodup ∧ "runtime" ∉ f.bound) := by
  obtain ⟨ws, hws, hgranted⟩ := endpointOf_granted h
  obtain ⟨older, hitems⟩ := e.items_eq_cons optimistic
  have htakes : e.Takes (e.function optimistic) := Endpoint.takes rfl
  have hbound := htakes.bound.trans (hgranted.append_right ["opts"])
  have hiff : ((e.function optimistic).bound.Nodup ∧ "runtime" ∉ (e.function optimistic).bound) ↔
      Wish.Compatible ws ∧ "opts" ∉ Wish.granted [] ws ∧ "runtime" ∉ Wish.granted [] ws := by
    rw [hbound.nodup_iff, hbound.mem_iff, ← List.concat_eq_append, List.nodup_concat,
      Wish.nodup_granted_iff, List.concat_eq_append, List.mem_append, not_or]
    constructor
    · rintro ⟨⟨hopts, hws⟩, hruntime, -⟩
      exact ⟨hws, hopts, hruntime⟩
    · rintro ⟨hws, hopts, hruntime⟩
      exact ⟨⟨hopts, hws⟩, hruntime, by decide⟩
  refine ⟨ws, _, older, hws, hitems, hbound, hiff, fun hsecond hfirst hfixed => hiff.2 ?_⟩
  have hnone : ∀ n ∈ ["opts", "runtime"], n ∉ Wish.granted [] ws := by
    intro n hn hmem
    obtain ⟨w, hw, he⟩ := Wish.mem_granted hmem
    have hne := hfixed w hw n hn
    exact he.elim hne.1 hne.2
  exact ⟨Wish.compatible_of_distinct hsecond hfirst, hnone "opts" (by decide),
    hnone "runtime" (by decide)⟩

theorem bound_distinct_iff_numbers : ∃ (op : Operation) (e : Endpoint) (s' : Session)
    (ws : List Wish) (f : Function),
    op.parameters = [.inline { name := "id", location := .query },
      .inline { name := "id", location := .path }] ∧
    ((ofDocument .null {} {}).endpointOf "/items/\x7bid\x7d" {} .get op).Gives {} e s' ∧
    (ofDocument .null {} {}).Wishes {} op s' ws ∧ f.bound = ["idPath", "id", "opts"] ∧
    ((f.bound.Nodup ∧ "runtime" ∉ f.bound) ↔ Wish.Compatible ws ∧
      "opts" ∉ Wish.granted [] ws ∧ "runtime" ∉ Wish.granted [] ws) := by
  obtain ⟨e, s', h, he⟩ := exists_gives
    (r := (ofDocument .null {} {}).endpointOf "/items/\x7bid\x7d" {} .get
      { parameters := [.inline { name := "id", location := .query },
        .inline { name := "id", location := .path }] })
    (s := {}) (p := fun e => (e.function false).bound = ["idPath", "id", "opts"]) (by
      simp only [endpointOf, Parameter.arguments_eq]
      decide +kernel)
  obtain ⟨ws, f, older, hws, hitems, -, hiff, -⟩ := bound_distinct_iff h false
  cases hitems
  exact ⟨_, e, s', ws, _, rfl, h, hws, of_decide_eq_true he, hiff⟩

end Setting

namespace Client

/-- A user is asked for by three names that become one identifier. -/
def users : Json := .obj [
  ("openapi", .str "3.0.0"),
  ("info", .obj [("title", .str "Users"), ("version", .str "1")]),
  ("paths", .obj [("/users", .obj [("get", .obj [
    ("parameters", .arr [
      .obj [("name", .str "userId"), ("in", .str "query")],
      .obj [("name", .str "user-id"), ("in", .str "query")],
      .obj [("name", .str "user_id"), ("in", .str "query")]]),
    ("responses", .obj [])])])])]

/-- The parameters have different names, but two of them have one argument. -/
theorem bound_users : ∃ document client s e f older,
    Document.ofJson users = .ok document ∧ ofDocument users document {} = (.ok client, s) ∧
    e ∈ client.endpoints ∧ (e.inputs.map fun i => (i.name, i.location)).Nodup ∧
    e.items false = .function f :: older ∧ ¬ f.bound.Nodup := by
  have hbuilds : builds users {} (fun _ client _ => client.endpoints.any fun e =>
      (e.inputs.map fun i => (i.name, i.location)).Nodup &&
        (e.function false).bound = ["userId", "userIdQuery", "userIdQuery", "opts"]) = true := by
    unfold builds ofDocument build Setting.endpointsOf Setting.keptEndpoint Setting.endpointOf
    simp only [Parameter.arguments_eq]
    decide +kernel
  obtain ⟨document, client, s, hread, hbuilt, h⟩ := exists_ofDocument hbuilds
  obtain ⟨e, he, h⟩ := List.any_eq_true.1 h
  simp only [Bool.and_eq_true, decide_eq_true_eq] at h
  obtain ⟨older, hitems⟩ := e.items_eq_cons false
  refine ⟨document, client, s, e, _, older, hread, hbuilt, he, h.1, hitems, ?_⟩
  rw [h.2]
  decide

end Client

end ClientGen
