import ClientGen.Proofs.Endpoint.Code
import ClientGen.Proofs.Names.Tables
import ClientGen.Proofs.Typing.Naming
import ClientGen.Proofs.Typing.WholeRun

namespace ClientGen

open Run TypeScript
open FunctionNames (form form_eq_self_iff Search search_iff unique_fst_eq_self_iff nodup_answers
  nextNumber_lt_after count_lt_nextNumber)
open InTurn (answers after answers_append after_append)

namespace Setting

def still (c : Setting) : Law c where
  Step s s' := s'.functions = s.functions
  Named _ _ := True
  refl _ := rfl
  trans h h' := h'.trans h
  keep _ _ := trivial
  binary _ := trivial
  known _ _ := trivial
  enum h := by
    obtain ⟨_, -, -, -, rfl | hadd⟩ := NamedEnum.declare_gives h
    · exact ⟨rfl, fun _ _ => trivial⟩
    · obtain ⟨_, _, _, _, _, rfl⟩ := hadd.only
      exact ⟨rfl, fun _ _ => trivial⟩
  enter _ _ _ hnames h := by
    obtain ⟨⟨_, _, _, rfl⟩, -⟩ := takeNames_gives hnames
    have hstill := h.step (fun _ => rfl) (fun h h' => h'.trans h) fun _ _ => rfl
    exact ⟨hstill, fun _ => trivial⟩

end Setting

/-- Wherever it starts, the run asks for these names of functions in turn, and its value has those
that it is given. -/
def Run.Asks {α : Type} (r : Run α) (asked : List String) (names : α → List String) : Prop :=
  ∀ s a s', r.Gives s a s' → names a = answers FunctionNames.unique s.functions asked ∧
    s'.functions = after FunctionNames.unique s.functions asked

namespace Run

variable {α β : Type} {s s' : Session}

theorem asks_takeFunction (n : String) : Asks (takeFunction n) [n] fun n => [n] := by
  intro s n' s' h
  obtain ⟨rfl, rfl⟩ := gives_modifyGet.1 h
  exact ⟨rfl, rfl⟩

theorem asks_takeFunctions (n : Option String) :
    Asks (n.mapM takeFunction) n.toList Option.toList := by
  intro s n' s' h
  cases n with
  | none =>
    simp only [Option.mapM_none, gives_pure] at h
    obtain ⟨rfl, rfl⟩ := h
    exact ⟨rfl, rfl⟩
  | some n =>
    simp only [Option.mapM_some, gives_map] at h
    obtain ⟨n', h, rfl⟩ := h
    exact asks_takeFunction n s n' s' h

theorem Each.asks {f : α → Run β} {asked : α → List String} {names : β → List String}
    (hf : ∀ a, Asks (f a) (asked a) names) {l : List α} {bs : List β} (h : Each f l s bs s') :
    bs.flatMap names = answers FunctionNames.unique s.functions (l.flatMap asked) ∧
      s'.functions = after FunctionNames.unique s.functions (l.flatMap asked) := by
  induction h with
  | nil => exact ⟨rfl, rfl⟩
  | cons head tail ih =>
    obtain ⟨hnames, hafter⟩ := hf _ _ _ _ head
    obtain ⟨hrest, hend⟩ := ih
    rw [List.flatMap_cons, List.flatMap_cons, answers_append, after_append, hnames, hrest, hend,
      hafter]
    exact ⟨rfl, rfl⟩

end Run

def Endpoint.names (e : Endpoint) : List String := e.name :: e.legacyName.toList

def Operation.askedNames (path : String) (method : Method) (op : Operation) : List String :=
  OperationName.primary method.text path op.id ::
    (OperationName.legacy? method.text path op.id).toList

def Options.askedNames (o : Options) (path : String) (operation : Method × Operation) :
    List String :=
  if o.keeps operation.2.tags then operation.2.askedNames path operation.1 else []

/-- The names that are asked for the operations of a document. -/
def Document.askedNames (document : Document) (options : Options) : List String :=
  document.paths.flatMap fun entry => entry.2.operations.flatMap (options.askedNames entry.1)

namespace Setting

variable {c : Setting}

theorem asks_endpointOf (path : String) (item : PathItem) (method : Method) (op : Operation) :
    Asks (c.endpointOf path item method op) (op.askedNames path method) Endpoint.names := by
  intro s e s' h
  obtain ⟨_, _, s₁, s₂, _, _, s₅, hname, hlegacy, hinputs, hbody, houtcomes, -, hreport⟩ :=
    endpointOf_gives h
  -- Only the first two steps of an operation ask for names, and the last one reports it.
  obtain ⟨hfirst, hafter⟩ := asks_takeFunction _ _ _ _ hname
  obtain ⟨holder, hend⟩ := asks_takeFunctions _ _ _ _ hlegacy
  have hstill : s₅.functions = s₂.functions :=
    (c.still.operationTypes hinputs hbody houtcomes).1
  have hlast : s'.functions = s₅.functions := by
    rw [report, gives_modify] at hreport
    rw [hreport]
  dsimp only at hfirst
  constructor
  · calc e.names = [e.name] ++ e.legacyName.toList := rfl
      _ = _ := by rw [hfirst, holder, hafter, ← answers_append]; rfl
  · rw [hlast, hstill, hend, hafter, ← after_append]
    rfl

theorem asks_keptEndpoint (path : String) (item : PathItem) (operation : Method × Operation) :
    Asks (c.keptEndpoint path item operation) (c.options.askedNames path operation)
      fun kept => kept.toList.flatMap Endpoint.names := by
  intro s kept s' h
  obtain ⟨method, op⟩ := operation
  simp only [keptEndpoint] at h
  unfold Options.askedNames
  split at h
  · next hkept =>
    rw [gives_map] at h
    obtain ⟨e, he, rfl⟩ := h
    obtain ⟨hnames, hafter⟩ := asks_endpointOf path item method op s e s' he
    rw [if_pos hkept]
    exact ⟨(List.flatMap_singleton _ _).trans hnames, hafter⟩
  · next hleft =>
    simp only [report, gives_bind, gives_modify, gives_pure] at h
    obtain ⟨_, _, rfl, rfl, rfl⟩ := h
    rw [if_neg hleft]
    exact ⟨rfl, rfl⟩

theorem asks_endpointsOf (entry : String × PathItem) :
    Asks (c.endpointsOf entry) (entry.2.operations.flatMap (c.options.askedNames entry.1))
      fun es => es.flatMap Endpoint.names := by
  intro s es s' h
  simp only [endpointsOf, gives_bind, gives_mapM, gives_pure] at h
  obtain ⟨kept, s₁, hkept, rfl, rfl⟩ := h
  obtain ⟨hnames, hafter⟩ := hkept.asks (asks_keptEndpoint entry.1 entry.2)
  refine ⟨?_, hafter⟩
  dsimp only
  rw [← hnames, List.filterMap_eq_flatMap_toList, List.flatMap_assoc]
  rfl

end Setting

namespace Client

variable {tree : Json} {document : Document} {options : Options} {client : Client} {s : Session}

theorem functionNames_eq (h : ofDocument tree document options = (.ok client, s)) :
    client.endpoints.flatMap Endpoint.names =
      answers FunctionNames.unique {} (document.askedNames options) := by
  obtain ⟨ess, _, _, _, hess, -, rfl, -⟩ := build_gives h
  obtain ⟨hnames, -⟩ := hess.asks Setting.asks_endpointsOf
  dsimp only
  rw [List.flatten_eq_flatMap, List.flatMap_assoc]
  exact hnames

end Client

def TypeScript.Item.name : Item → String
  | .function f => f.name
  | .constant k => k.name

theorem Endpoint.map_name_items (e : Endpoint) (optimistic : Bool) :
    (e.items optimistic).map Item.name = e.names := by
  rw [items, names, List.map_cons, List.map_map]
  exact congrArg _ (List.map_id _)

/-- The keys that are asked for servers from a place on. -/
def Server.proposedKeys (place : Nat) : List Server → List String
  | [] => []
  | server :: rest => server.proposedKey place :: proposedKeys (place + 1) rest

theorem keys_serverEntries (keys : FunctionNames) (place : Nat) (servers : List Server) :
    ((serverEntries keys place servers).filterMap Entry.field?).map Prod.fst =
      answers FunctionNames.unique keys (Server.proposedKeys place servers) := by
  induction servers generalizing keys place with
  | nil => rfl
  | cons server servers ih => exact congrArg _ (ih _ _)

namespace Client

theorem setBaseUrl_moduleConstants (url : String) (servers : List Server) :
    setBaseUrl url (moduleConstants servers) = .ok [
      { name := "servers", value := .object (serverEntries {} 0 servers) true, exported := true },
      { name := "defaults"
        type := some (.named "Runtime.Defaults<Runtime.CustomHeaders>")
        value := .object [.field "headers" .emptyObject, .field "baseUrl" (.string url)] true
        exported := true },
      { name := "runtime", value := .apply "Runtime.runtime" [.name "defaults"] }] := by
  rfl

theorem exists_toModule (client : Client) (document : Document) (options : Options) :
    ∃ m, client.toModule document options = .ok m ∧ m.imports = imports options.runtimeModule ∧
      m.constants.map Constant.name = ["servers", "defaults", "runtime"] ∧
      (∀ k ∈ m.constants, k.name = "servers" → k.value.fields.map Prod.fst =
        answers FunctionNames.unique {} (Server.proposedKeys 0 document.servers)) ∧
      m.types = client.types ++ client.enums ∧
      m.items.map Item.name = client.endpoints.flatMap Endpoint.names := by
  rw [toModule, setBaseUrl_moduleConstants]
  refine ⟨_, rfl, rfl, rfl, ?_, rfl, ?_⟩
  · intro k hk hname
    simp only [List.mem_cons, List.not_mem_nil, or_false] at hk
    rcases hk with rfl | rfl | rfl
    · exact keys_serverEntries _ _ _
    · exact absurd hname (show "defaults" ≠ "servers" by decide)
    · exact absurd hname (show "runtime" ≠ "servers" by decide)
  · rw [List.map_flatMap]
    simp only [Endpoint.map_name_items]

theorem nodup_functionNames (h : ofDocument tree document options = (.ok client, s)) :
    (client.endpoints.flatMap Endpoint.names).Nodup := by
  rw [functionNames_eq h]
  exact nodup_answers _

end Client

/-- Whatever was asked for before, the search for a form that nobody has ends at one number. The
form with that number is given: the name itself just if it is neither asked for nor given before,
and otherwise the name with a number from two on. The numbers for one name only rise, and no name is
given twice. So the names of functions and older names of a module are all different, and so are the
keys of its servers. -/
theorem FunctionNames.never_reused :
    (∀ before n, let t := after unique {} before
      (∀ k, Search t.taken n (t.count n) k ↔ k = t.nextNumber n) ∧
      (t.unique n).1 = form n (t.nextNumber n) ∧
      ((t.unique n).1 = n ↔ n ∉ before ∧ n ∉ answers unique {} before) ∧
      (¬ (n ∉ before ∧ n ∉ answers unique {} before) →
        2 ≤ t.nextNumber n ∧ (t.unique n).1 = n ++ toString (t.nextNumber n)) ∧
      ∀ earlier between, before = earlier ++ n :: between →
        (after unique {} earlier).nextNumber n < t.nextNumber n) ∧
    (∀ requests, (answers unique {} requests).Nodup) ∧
    ∀ tree document options client s, Client.ofDocument tree document options = (.ok client, s) →
      (client.endpoints.flatMap Endpoint.names).Nodup ∧
      ∃ m, client.toModule document options = .ok m ∧
        m.items.map Item.name = client.endpoints.flatMap Endpoint.names ∧
        m.constants.map Constant.name = ["servers", "defaults", "runtime"] ∧
        ∀ k ∈ m.constants, k.name = "servers" → (k.value.fields.map Prod.fst).Nodup := by
  refine ⟨fun before n => ?_, nodup_answers, fun tree document options client s h => ?_⟩
  · refine ⟨fun k => search_iff, rfl, unique_fst_eq_self_iff, fun hknown => ?_, ?_⟩
    · have hother := mt unique_fst_eq_self_iff.1 hknown
      rw [unique_fst, form_eq_self_iff] at hother
      have hpositive := count_lt_nextNumber (after unique {} before) n
      exact ⟨by omega, if_neg hother⟩
    · rintro earlier between rfl
      rw [after_append]
      exact nextNumber_lt_after (after unique {} earlier) n between
  · obtain ⟨m, hm, -, hconstants, hservers, -, hitems⟩ := client.exists_toModule document options
    refine ⟨Client.nodup_functionNames h, m, hm, hitems, hconstants, fun k hk hname => ?_⟩
    rw [hservers k hk hname]
    exact nodup_answers _

/-- Two operations with one id, and one with the id that its second function gets. -/
def Client.greetings : Json := .obj [
  ("openapi", .str "3.0.0"),
  ("info", .obj [("title", .str "Greetings"), ("version", .str "1")]),
  ("paths", .obj [
    ("/hello", .obj [
      ("get", .obj [("operationId", .str "hello"), ("responses", .obj [])]),
      ("put", .obj [("operationId", .str "hello2"), ("responses", .obj [])]),
      ("post", .obj [("operationId", .str "hello"), ("responses", .obj [])])])])]

theorem FunctionNames.never_reused_hello :
    (2 ≤ (after unique {} ["hello", "hello2"]).nextNumber "hello" ∧
      ((after unique {} ["hello", "hello2"]).unique "hello").1 = "hello3") ∧
    (after unique {} []).nextNumber "hello" <
      (after unique {} ["hello", "hello2"]).nextNumber "hello" ∧
    ∃ document client s, Document.ofJson Client.greetings = .ok document ∧
      Client.ofDocument Client.greetings document {} = (.ok client, s) ∧
      client.endpoints.flatMap Endpoint.names = ["hello", "hello2", "hello3"] ∧
      (client.endpoints.flatMap Endpoint.names).Nodup := by
  have hbuilds : Client.builds Client.greetings {} (fun _ client _ =>
      client.endpoints.flatMap Endpoint.names = ["hello", "hello2", "hello3"]) = true := by
    decide +kernel
  obtain ⟨document, client, s, hread, hbuilt, hnames⟩ := Client.exists_ofDocument hbuilds
  obtain ⟨-, -, -, hknown, hrise⟩ := never_reused.1 ["hello", "hello2"] "hello"
  refine ⟨⟨(hknown (by decide)).1, by decide⟩, hrise [] ["hello2"] rfl, document, client, s, hread,
    hbuilt, of_decide_eq_true hnames, (never_reused.2.2 _ _ _ _ _ hbuilt).1⟩

end ClientGen
