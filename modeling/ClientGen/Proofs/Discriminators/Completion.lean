import ClientGen.Proofs.Lists
import ClientGen.Proofs.Reference.Components
import Mathlib.Data.List.Nodup

namespace ClientGen

open Reference (ofComponent ofComponent_injective)

variable {name other r : String} {names : List String} {schemas : Dict Schema}

theorem Dict.keys_put_of_get? {α : Type} {d : Dict α} {value : α} (h : d.get? name = some value)
    (other : α) : (d.put name other).keys = d.keys := by
  rw [keys_put, if_pos]
  exact List.mem_map.2 ⟨_, mem_of_get? h, rfl⟩

/-- A branch of the schema refers to `r`. -/
def Schema.HasBranch (s : Schema) (r : String) : Prop :=
  ∃ branch, branch ∈ s.allOf.getD [] ∧ branch.reference = some r

instance (s : Schema) (r : String) : Decidable (s.HasBranch r) :=
  inferInstanceAs (Decidable (∃ branch, branch ∈ _ ∧ _))

def Dict.branching (schemas : Dict Schema) (r : String) : List String :=
  (schemas.filter fun e => e.2.HasBranch r).map Prod.fst

/-- The schema has a discriminator, and is no choice among variants itself. -/
def Schema.Discriminates (s : Schema) : Prop :=
  s.discriminator.isSome ∧ s.oneOf = none ∧ s.anyOf = none

instance (s : Schema) : Decidable s.Discriminates := inferInstanceAs (Decidable (_ ∧ _ ∧ _))

namespace Discriminating

variable {d : Discriminating}

/-- Neither the component nor a tag of its name stands in the mapping. -/
def Lacks (d : Discriminating) (name : String) : Prop :=
  ofComponent name ∉ d.mapping.values ∧ name ∉ d.mapping.keys

instance (d : Discriminating) (name : String) : Decidable (d.Lacks name) :=
  inferInstanceAs (Decidable (_ ∧ _))

theorem adopt_of_lacks (h : d.Lacks name) :
    d.adopt name = { d with mapping := d.mapping ++ [(name, ofComponent name)] } := by
  have hvalues : d.mapping.values.contains (ofComponent name) = false := by
    simpa using h.1
  have hget : d.mapping.get? name = none := (Dict.get?_eq_none_iff _ _).2 h.2
  have hhas : d.mapping.has name = false := by
    rw [Dict.has, hget]
    rfl
  unfold adopt
  dsimp only
  rw [hvalues, hhas, Dict.put_of_get?_eq_none _ hget]
  rfl

theorem adopt_of_not_lacks (h : ¬ d.Lacks name) : d.adopt name = d := by
  apply if_pos
  by_contra hnot
  simp only [Bool.or_eq_true, List.contains_iff_mem, Dict.has, Option.isSome_iff_ne_none, ne_eq,
    Dict.get?_eq_none_iff] at hnot
  tauto

theorem not_lacks_adopt (d : Discriminating) (name : String) : ¬ (d.adopt name).Lacks name := by
  by_cases h : d.Lacks name
  · rw [adopt_of_lacks h]
    intro hlacks
    exact hlacks.2 (by simp [Dict.keys])
  · rwa [adopt_of_not_lacks h]

theorem adopt_adopt (d : Discriminating) (name : String) :
    (d.adopt name).adopt name = d.adopt name :=
  adopt_of_not_lacks (not_lacks_adopt d name)

theorem lacks_adopt (hne : name ≠ other) : (d.adopt name).Lacks other ↔ d.Lacks other := by
  by_cases h : d.Lacks name
  · have hreference : ofComponent other ≠ ofComponent name :=
      fun he => hne (ofComponent_injective he).symm
    rw [adopt_of_lacks h]
    simp [Lacks, Dict.values, Dict.keys, hreference, hne.symm]
  · rw [adopt_of_not_lacks h]

theorem foldl_adopt (d : Discriminating) (hnames : names.Nodup) :
    names.foldl adopt d = { d with
      mapping := d.mapping ++ (names.filter d.Lacks).map (fun n => (n, ofComponent n)) } := by
  induction names generalizing d with
  | nil => simp
  | cons name names ih =>
    obtain ⟨hname, hnames⟩ := List.nodup_cons.1 hnames
    have hlacks : names.filter (d.adopt name).Lacks = names.filter d.Lacks := by
      apply List.filter_congr
      intro other hother
      have hne : name ≠ other := fun he => hname (he ▸ hother)
      simp only [lacks_adopt hne]
    rw [List.foldl_cons, ih _ hnames, hlacks]
    by_cases h : d.Lacks name
    · rw [adopt_of_lacks h, List.filter_cons_of_pos (by simpa using h)]
      simp
    · rw [adopt_of_not_lacks h, List.filter_cons_of_neg (by simpa using h)]

end Discriminating

namespace Discriminators

variable {index : Discriminators} {branches : List Schema}

theorem get?_adoptBranch (name : String) (index : Discriminators) (branch : Schema) (r : String) :
    (adoptBranch name index branch).get? r =
      if branch.reference = some r then (index.get? r).map (·.adopt name) else index.get? r := by
  unfold adoptBranch
  split
  · next h => simp [h]
  · next parent h =>
    split
    · next hparent =>
      split
      · next he =>
        cases h.symm.trans he
        rw [hparent]
        rfl
      · rfl
    · next d hparent =>
      rw [Dict.get?_put, h]
      by_cases he : parent = r
      · subst he
        simp [hparent]
      · simp [he]

theorem get?_adoptBranches (name : String) (index : Discriminators) (r : String) :
    (branches.foldl (adoptBranch name) index).get? r =
      if ∃ branch, branch ∈ branches ∧ branch.reference = some r then
        (index.get? r).map (·.adopt name)
      else index.get? r := by
  induction branches generalizing index with
  | nil => simp
  | cons branch branches ih =>
    rw [List.foldl_cons, ih, get?_adoptBranch]
    by_cases hbranch : branch.reference = some r
    · simp [hbranch, Function.comp_def, Discriminating.adopt_adopt]
    · simp [hbranch]

/-- Each component adopts those that refer to it, in their order. -/
theorem get?_ofSchemas (schemas : Dict Schema) (r : String) :
    (ofSchemas schemas).get? r = ((declared schemas).get? r).map fun d =>
      (schemas.branching r).foldl Discriminating.adopt d := by
  unfold ofSchemas
  -- On the components, from any index: each changes the entry of `r` only if it refers to `r`.
  generalize declared schemas = index
  induction schemas generalizing index with
  | nil => simp [Dict.branching]
  | cons e schemas ih =>
    have hget : ((e.2.allOf.getD []).foldl (adoptBranch e.1) index).get? r =
        if e.2.HasBranch r then (index.get? r).map (·.adopt e.1) else index.get? r :=
      get?_adoptBranches e.1 index r
    rw [List.foldl_cons, ih, hget]
    by_cases h : e.2.HasBranch r
    · have hbranching : Dict.branching (e :: schemas) r = e.1 :: Dict.branching schemas r := by
        simp [Dict.branching, h]
      rw [if_pos h, hbranching, Option.map_map]
      rfl
    · have hbranching : Dict.branching (e :: schemas) r = Dict.branching schemas r := by
        simp [Dict.branching, h]
      rw [if_neg h, hbranching]

theorem keys_adoptBranch (name : String) (index : Discriminators) (branch : Schema) :
    (adoptBranch name index branch).keys = index.keys := by
  unfold adoptBranch
  split
  · rfl
  · split
    · rfl
    · next d hd => exact Dict.keys_put_of_get? hd _

theorem keys_ofSchemas (schemas : Dict Schema) :
    (ofSchemas schemas).keys = (declared schemas).keys := by
  refine List.foldlRecOn schemas _ (motive := fun index => Dict.keys index = _) rfl ?_
  intro index hindex e _
  refine List.foldlRecOn _ _ (motive := fun index => Dict.keys index = _) hindex ?_
  intro index hindex branch _
  rw [keys_adoptBranch, hindex]

theorem isSome_declared? {s : Schema} : (declared? s).isSome ↔ s.Discriminates := by
  unfold declared? Schema.Discriminates
  split
  · next d hd hone hany => simp [hd, hone, hany]
  · next hnot =>
    constructor
    · intro h
      cases h
    · rintro ⟨hd, hone, hany⟩
      obtain ⟨d, hd⟩ := Option.isSome_iff_exists.1 hd
      exact absurd hany (hnot d hd hone)

theorem foldl_declared (hkeys : schemas.keys.Nodup)
    (hindex : ∀ e ∈ schemas, ofComponent e.1 ∉ index.keys) :
    schemas.foldl (fun index e => match declared? e.2 with
      | some d => index.put (ofComponent e.1) d
      | none => index) index = index ++ schemas.filterMap fun e =>
        (declared? e.2).map fun d => (ofComponent e.1, d) := by
  induction schemas generalizing index with
  | nil => simp
  | cons e schemas ih =>
    obtain ⟨he, hkeys⟩ := List.nodup_cons.1 hkeys
    obtain ⟨hfresh, hindex⟩ := List.forall_mem_cons.1 hindex
    rw [List.foldl_cons]
    cases hd : declared? e.2 with
    | none => rw [ih hkeys hindex, List.filterMap_cons_none (by rw [hd]; rfl)]
    | some d =>
      have hput : index.put (ofComponent e.1) d = index ++ [(ofComponent e.1, d)] :=
        Dict.put_of_get?_eq_none d ((Dict.get?_eq_none_iff _ _).2 hfresh)
      dsimp only
      rw [hput, ih hkeys, List.filterMap_cons_some (by rw [hd]; rfl), List.append_assoc]
      · rfl
      · -- Different names have different references, so those that follow are still fresh.
        intro e' he' hmem
        rw [Dict.keys, List.map_append, List.mem_append] at hmem
        rcases hmem with hmem | hmem
        · exact hindex e' he' hmem
        · have hsame := ofComponent_injective (List.mem_singleton.1 hmem)
          exact he (hsame ▸ List.mem_map.2 ⟨e', he', rfl⟩)

theorem declared_eq (hkeys : schemas.keys.Nodup) :
    declared schemas = schemas.filterMap fun e =>
      (declared? e.2).map fun d => (ofComponent e.1, d) :=
  foldl_declared hkeys fun _ _ => List.not_mem_nil

theorem keys_declared (hkeys : schemas.keys.Nodup) : (declared schemas).keys =
    (schemas.filter fun e => e.2.Discriminates).map fun e => ofComponent e.1 := by
  rw [declared_eq hkeys]
  clear hkeys
  induction schemas with
  | nil => rfl
  | cons e schemas ih =>
    have hiff := isSome_declared? (s := e.2)
    cases hd : declared? e.2 with
    | none =>
      have hnot : ¬ e.2.Discriminates := by
        rw [← hiff, hd]
        exact Bool.false_ne_true
      rw [List.filterMap_cons_none (by rw [hd]; rfl), List.filter_cons_of_neg (by simpa using hnot),
        ih]
    | some d =>
      have hdiscriminates : e.2.Discriminates := hiff.1 (by rw [hd]; rfl)
      rw [List.filterMap_cons_some (by rw [hd]; rfl),
        List.filter_cons_of_pos (by simpa using hdiscriminates)]
      exact congrArg _ ih

theorem nodup_keys_declared (hkeys : schemas.keys.Nodup) : (declared schemas).keys.Nodup := by
  rw [keys_declared hkeys]
  have hnodup : ((schemas.filter fun e => e.2.Discriminates).map Prod.fst).Nodup :=
    hkeys.sublist (List.filter_sublist.map Prod.fst)
  have hreferences := hnodup.map fun _ _ => ofComponent_injective
  rwa [List.map_map] at hreferences

theorem get?_declared (hkeys : schemas.keys.Nodup) {s : Schema} {d : Discriminating}
    (hs : (name, s) ∈ schemas) (hd : declared? s = some d) :
    (declared schemas).get? (ofComponent name) = some d := by
  apply Dict.get?_of_mem (nodup_keys_declared hkeys)
  rw [declared_eq hkeys]
  exact List.mem_filterMap.2 ⟨_, hs, by rw [hd]; rfl⟩

/-- How a mapping is completed: behind the entries of the document stand components that refer to
the discriminating one from a branch, in their order and none of them twice, and every such
component is a target of the mapping unless its name is the tag of another one. -/
structure Completes (schemas : Dict Schema) (parent : String) (own full : Dict String)
    (added : List String) : Prop where
  full_eq : full = own ++ added.map fun n => (n, ofComponent n)
  ordered : added.Sublist schemas.keys
  nodup : added.Nodup
  branching : ∀ n ∈ added, ∃ x, (n, x) ∈ schemas ∧ x.HasBranch (ofComponent parent)
  fresh : ∀ n ∈ added, n ∉ own.keys ∧ ofComponent n ∉ own.values
  complete : ∀ n x, (n, x) ∈ schemas → x.HasBranch (ofComponent parent) →
    ofComponent n ∈ full.values ∨ ∃ target, target ≠ ofComponent n ∧ (n, target) ∈ full

theorem exists_completes (hkeys : schemas.keys.Nodup) {s : Schema} {d : Discriminator}
    (hs : (name, s) ∈ schemas) (hd : s.discriminator = some d) (hone : s.oneOf = none)
    (hany : s.anyOf = none) : ∃ full added,
      (ofSchemas schemas).get? (ofComponent name) =
        some { property := d.propertyName, mapping := full } ∧
      Completes schemas name (d.mapping.getD []) full added := by
  let own : Discriminating := { property := d.propertyName, mapping := d.mapping.getD [] }
  let added := (schemas.branching (ofComponent name)).filter own.Lacks
  have hdeclared : declared? s = some own := by
    rw [declared?, hd, hone, hany]
  have hordered : (schemas.branching (ofComponent name)).Sublist schemas.keys :=
    List.filter_sublist.map Prod.fst
  refine ⟨own.mapping ++ added.map fun n => (n, ofComponent n), added, ?_, rfl,
    List.filter_sublist.trans hordered, (hkeys.sublist hordered).filter _, ?_, ?_, ?_⟩
  · rw [get?_ofSchemas, get?_declared hkeys hs hdeclared, Option.map_some,
      Discriminating.foldl_adopt own (hkeys.sublist hordered)]
  · intro n hn
    obtain ⟨e, he, rfl⟩ := List.mem_map.1 (List.mem_filter.1 hn).1
    obtain ⟨he, hbranch⟩ := List.mem_filter.1 he
    exact ⟨e.2, he, of_decide_eq_true hbranch⟩
  · intro n hn
    exact (of_decide_eq_true (List.mem_filter.1 hn).2).symm
  · intro n x hx hbranch
    have hbranching : n ∈ schemas.branching (ofComponent name) :=
      List.mem_map.2 ⟨_, List.mem_filter.2 ⟨hx, decide_eq_true hbranch⟩, rfl⟩
    by_cases hlacks : own.Lacks n
    · left
      have hadded : n ∈ added := List.mem_filter.2 ⟨hbranching, decide_eq_true hlacks⟩
      rw [Dict.values, List.map_append]
      refine List.mem_append_right _ (List.mem_map.2 ⟨(n, ofComponent n), ?_, rfl⟩)
      exact List.mem_map.2 ⟨n, hadded, rfl⟩
    · by_cases hvalues : ofComponent n ∈ own.mapping.values
      · left
        rw [Dict.values, List.map_append]
        exact List.mem_append_left _ hvalues
      · right
        have htag : n ∈ own.mapping.keys := by
          by_contra hnot
          exact hlacks ⟨hvalues, hnot⟩
        obtain ⟨e, he, rfl⟩ := List.mem_map.1 htag
        refine ⟨e.2, ?_, List.mem_append_left _ he⟩
        intro htarget
        exact hvalues (htarget ▸ List.mem_map.2 ⟨e, he, rfl⟩)

end Discriminators

end ClientGen
