import ClientGen.Proofs.Endpoint.Mirrors
import ClientGen.Proofs.Typing.Inherited

namespace ClientGen

open Run TypeScript

namespace Setting

variable {c : Setting} {typing : Typing} {view view' : View} {name component skip : Option String}
  {x y : Schema} {s s' : Session} {t : TypeExpr} {p : Piece}

/-- The sessions that runs in one setting reach from an empty one, those inside runs and those after
failures among them: schemas and references get their types, enums are declared, references take
their names, types are declared, and whole clients are built. -/
inductive Met (c : Setting) : Session → Prop where
  | fresh : Met c {}
  | aside {s : Session} (functions : FunctionNames) (events : List Event) (h : Met c s) :
      Met c { s with functions, events }
  | typed {s : Session} (fuel : Nat) (place : Place) (x : Schema) (h : Met c s) :
      Met c ((c.typingWithin fuel place x).outcome s).2
  | referred {s : Session} (fuel : Nat) (view : View) (r : String) (h : Met c s) :
      Met c ((c.referenceType (c.typingWithin fuel) view r).outcome s).2
  | enum {s : Session} (x : Schema) (name : String) (h : Met c s) :
      Met c ((NamedEnum.declare x name).outcome s).2
  | named {s : Session} (r name : String) (h : Met c s) : Met c ((c.takeNames r name).outcome s).2
  | declared {s : Session} (d : TypeDecl) (h : Met c s) : Met c { s with types := s.types ++ [d] }
  | built {s : Session} (document : Document) (h : Met c s) :
      Met c ((Client.build c document).outcome s).2

theorem outcome_of_mirrored {α β : Type} {f : α → β} {r : Run α} {r' : Run β}
    (h : (Mirror.itself c).Mirrored f r r') (hs : c.Merged s) :
    r'.outcome s = ((r.outcome s).1.map f, (r.outcome s).2) ∧ c.Merged (r.outcome s).2 := by
  have hlike : (Mirror.itself c).Like s s := ⟨hs, s.events, s.withAny_any.symm, rfl⟩
  rcases h s s hlike with ⟨e, he, -⟩ | ⟨hvalue, hlast⟩
  · cases he
  · refine ⟨Prod.ext hvalue ?_, hlast.1⟩
    exact (hlast.eq fun _ => rfl).trans (Session.withAny_any _)

theorem typingWithin_itself (fuel : Nat) (hview : c.SameView view view') (x : Schema) :
    (Mirror.itself c).Mirrored (TypeExpr.withAny .any)
      (c.typingWithin fuel { view, name, component } x)
      (c.typingWithin fuel { view := view', name, component } x) :=
  Mirror.mirrored_typingWithin (.refl _) name hview (fun _ _ => trivial) fun _ _ => trivial

/-- Where views are merged, no reference gets a name for one view. -/
theorem Met.merged (h : c.Met s) : c.Merged s := by
  have hasked : ∀ r, (Mirror.itself c).Asked r := fun _ => trivial
  induction h with
  | fresh => exact fun _ _ h => absurd h List.not_mem_nil
  | aside _ _ _ ih => exact ih
  | declared _ _ ih => exact ih
  | typed fuel place x _ ih =>
    exact (outcome_of_mirrored (typingWithin_itself fuel (.refl place.view) x) ih).2
  | referred fuel view r _ ih =>
    have htyping : (Mirror.itself c).MirroredTyping (c.typingWithin fuel) (c.typingWithin fuel) :=
      Mirror.mirrored_typingWithin (.refl _)
    exact (outcome_of_mirrored
      (Mirror.mirrored_referenceType htyping (.refl view) (hasked r)) ih).2
  | enum x name _ ih => exact (outcome_of_mirrored (Mirror.mirrored_declare _ x name) ih).2
  | named r name _ ih =>
    exact (outcome_of_mirrored (Mirror.mirrored_takeNames (hasked r) name) ih).2
  | built document _ ih =>
    have hpaths := (Mirror.itself c).mirrored_paths document (fun _ _ _ _ => hasked _) rfl
    exact (outcome_of_mirrored
      (Mirror.mirrored_build hpaths rfl fun _ => ⟨rfl, hasked⟩) ih).2

/-- Where views are merged, any two views lead to the same type and the same session. -/
theorem typeOf_merged (hmerge : c.options.mergeViews = true) (hs : c.Merged s)
    (x : Option Schema) : (c.typeOf { view := view', name, component } x).outcome s =
      (c.typeOf { view, name, component } x).outcome s := by
  cases x with
  | none => rfl
  | some x =>
    have hview : c.SameView view view' := .inl hmerge
    refine (outcome_of_mirrored (typingWithin_itself c.depth hview x) hs).1.trans ?_
    refine Prod.ext ?_ rfl
    have hvalue : ∀ a : Except Failure TypeExpr, a.map (TypeExpr.withAny .any) = a := by
      rintro (e | t)
      · rfl
      · exact congrArg Except.ok t.withAny_any
    exact hvalue _

theorem keys_propertiesOf_merged (hmerge : c.options.mergeViews = true) :
    Dict.keys (c.propertiesOf view skip y) =
      (Dict.keys (y.properties.getD [])).filter fun p => skip ≠ some p := by
  rw [Dict.keys, Dict.keys, List.filter_map]
  congr 1
  refine List.filter_congr fun p _ => ?_
  simp only [keeps, hmerge, Bool.true_or, Bool.and_true, Function.comp_apply]

/-- The type of a piece that is an object has all properties of its schema, in their order, but for
one that holds the tag of a discriminating component. -/
def KeepsProperties (c : Setting) : Piece → TypeExpr → Prop
  | .object skip y, t =>
    (skip = none ∨ ∃ r d, c.discriminators.get? r = some d ∧ skip = d.property) ∧
    ∃ members index, t = .object members index ∧
      members.map Member.name = (Dict.keys (y.properties.getD [])).filter fun p => skip ≠ some p
  | _, _ => True

theorem skip_of_mem_pieces (h : .object skip y ∈ c.pieces name component x) :
    skip = none ∨ ∃ r d, c.discriminators.get? r = some d ∧ skip = d.property := by
  cases pieceOf_of_mem h with
  | object => exact .inl rfl
  | @parent b r d _ _ hr =>
    obtain ⟨r', -, hr⟩ := Option.bind_eq_some_iff.1 hr
    obtain ⟨d', hd, he⟩ := Option.map_eq_some_iff.1 hr
    cases he
    exact .inr ⟨_, _, hd, rfl⟩

theorem keepsProperties_of_gives (hmerge : c.options.mergeViews = true)
    (hp : p ∈ c.pieces name component x) (h : (c.pieceType typing view p).Gives s t s') :
    c.KeepsProperties p t := by
  cases p with
  | object skip y =>
    obtain ⟨ts, s₁, is, hts, -, rfl⟩ := objectType_gives.1 h
    have hlength : ts.length = (c.propertiesOf view skip y).length := by simpa using hts.length_eq
    refine ⟨skip_of_mem_pieces hp, _, _, rfl, ?_⟩
    rw [names_members hlength, keys_propertiesOf_merged hmerge]
  | _ => trivial

theorem keepsProperties_each (hmerge : c.options.mergeViews = true) {ps : List Piece}
    {ts : List TypeExpr} (hps : ps ⊆ c.pieces name component x)
    (h : Each (c.pieceType typing view) ps s ts s') : List.Forall₂ c.KeepsProperties ps ts := by
  induction h with
  | nil => exact .nil
  | cons head tail ih =>
    obtain ⟨hp, hps⟩ := List.cons_subset.1 hps
    exact .cons (keepsProperties_of_gives hmerge hp head) (ih hps)

/-- Where views are merged, a schema has the same type in any two views, or fails alike, and leaves
the same session; no reference has a name for one view; and the type of any schema is put together
from pieces of which the objects have all their properties but tags. -/
theorem mergedViews_same (hmerge : c.options.mergeViews = true) (hs : c.Met s) :
    (∀ view view' name component x,
      (c.typeOf { view, name, component } x).outcome s =
        (c.typeOf { view := view', name, component } x).outcome s) ∧
    (∀ entry ∈ s.references, entry.2.read = none ∧ entry.2.write = none) ∧
    ∀ typing view name component x u t u',
      (c.typingStep typing { view, name, component } x).Gives u t u' →
        ∃ ts, List.Forall₂ c.KeepsProperties (c.pieces name component x) ts ∧
          (if x.isNullable then (c.assemble component x ts).orKeyword .null
            else c.assemble component x ts) = t := by
  refine ⟨fun view view' name component x => ?_, hs.merged hmerge, ?_⟩
  · exact (typeOf_merged hmerge hs.merged x).symm
  · intro typing view name component x u t u' h
    obtain ⟨-, ts, hts, ht⟩ := typingStep_gives.1 h
    exact ⟨ts, keepsProperties_each hmerge (List.Subset.refl _) hts, ht⟩

def accounts : Setting := ofDocument (.obj [
  ("components", .obj [("schemas", .obj [
    ("Account", .obj [("type", .str "object"), ("properties", .obj [
      ("id", .obj [("type", .str "integer"), ("readOnly", .bool true)]),
      ("secret", .obj [("type", .str "string"), ("writeOnly", .bool true)])])])])])])
  {} { mergeViews := true }

def receipt : Schema :=
  { properties := some [
      ("id", { readOnly := some true }),
      ("account", .ofReference "#/components/schemas/Account")] }

theorem mergedViews_same_accounts : accounts.options.mergeViews = true ∧ ∃ s, accounts.Met s ∧
    s.references = [("#/components/schemas/Account", { base := "Account" })] ∧
    ∀ view, (accounts.typeOf { view } (some receipt)).outcome s =
      (accounts.typeOf { view := .base } (some receipt)).outcome s := by
  have hs : accounts.Met _ :=
    .typed accounts.depth {} (.ofReference "#/components/schemas/Account") .fresh
  refine ⟨rfl, _, hs, by decide +kernel, fun view => ?_⟩
  exact (mergedViews_same rfl hs).1 view .base none none _

end Setting

end ClientGen
