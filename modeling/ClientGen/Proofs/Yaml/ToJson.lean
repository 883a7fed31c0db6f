import ClientGen.Proofs.Lists
import ClientGen.Yaml

namespace ClientGen.Yaml

variable {y k : Yaml} {j : Json}

/-- The items of a sequence, the keys and values of a mapping, and what is under a tag. -/
def children : Yaml → List Yaml
  | .seq items => items
  | .map entries => entries.flatMap fun entry => [entry.1, entry.2]
  | .tagged value => [value]
  | _ => []

def isScalar : Yaml → Bool
  | .seq _ | .map _ | .tagged _ => false
  | _ => true

/-- The JSON value that a tree stands for. -/
inductive Denotes : Yaml → Json → Prop
  | null : Denotes .null .null
  | bool (b : Bool) : Denotes (.bool b) (.bool b)
  | int (n : Int) : Denotes (.int n) (.int n)
  | float {x : Float} (h : x.isFinite = true) : Denotes (.float x) (.float x)
  | noFloat {x : Float} (h : x.isFinite = false) : Denotes (.float x) .null
  | str (s : String) : Denotes (.str s) (.str s)
  | seq {items : List Yaml} {values : List Json} (h : List.Forall₂ Denotes items values) :
      Denotes (.seq items) (.arr values)
  | map {entries : List (Yaml × Yaml)} {fields : Dict Json}
      (hkeys : fields.keys = (entries.filterMap fun entry => entry.1.keyText?).eraseDups)
      (hvalues : ∀ before entry after name value, entries = before ++ entry :: after →
        entry.1.keyText? = some name → (∀ later ∈ after, later.1.keyText? ≠ some name) →
        (name, value) ∈ fields → Denotes entry.2 value) :
      Denotes (.map entries) (.obj fields)
  | tagged {y : Yaml} {j : Json} (h : Denotes y j) : Denotes (.tagged y) j

theorem sizeOf_lt_of_mem_children (h : k ∈ y.children) : sizeOf k < sizeOf y := by
  cases y with
  | seq items =>
    have hitem : k ∈ items := h
    have hlt := List.sizeOf_lt_of_mem hitem
    rw [Yaml.seq.sizeOf_spec]
    omega
  | map entries =>
    obtain ⟨entry, hentry, hk⟩ := List.mem_flatMap.1 h
    have hlt := List.sizeOf_lt_of_mem hentry
    have hpair : sizeOf k < sizeOf entry := by
      obtain ⟨key, value⟩ := entry
      rcases List.mem_pair.1 hk with rfl | rfl <;> (rw [Prod.mk.sizeOf_spec]; omega)
    rw [Yaml.map.sizeOf_spec]
    omega
  | tagged value =>
    rw [List.mem_singleton.1 h, Yaml.tagged.sizeOf_spec]
    omega
  | _ => cases h

/-- What holds of a tree whenever it holds of its children holds of all trees. -/
@[elab_as_elim]
theorem children_induction {motive : Yaml → Prop}
    (step : ∀ y, (∀ k ∈ y.children, motive k) → motive y) (y : Yaml) : motive y := by
  induction hn : sizeOf y using Nat.strongRecOn generalizing y with
  | ind n ih =>
    subst hn
    exact step y fun k hk => ih (sizeOf k) (sizeOf_lt_of_mem_children hk) k rfl

def field? (entry : Yaml × Yaml) : Option (String × Json) :=
  entry.1.keyText?.bind fun name => entry.2.toJson?.map fun value => (name, value)

theorem value_mem_children {entries : List (Yaml × Yaml)} {entry : Yaml × Yaml}
    (h : entry ∈ entries) : entry.2 ∈ (map entries).children :=
  List.mem_flatMap.2 ⟨entry, h, List.mem_cons_of_mem _ List.mem_cons_self⟩

theorem Denotes.unique {j' : Json} (h : y.Denotes j) (h' : y.Denotes j') : j = j' := by
  induction y using children_induction generalizing j j' with
  | step y ih =>
    cases h with
    | seq hitems =>
      cases h' with
      | seq hitems' => rw [forall₂_unique (fun item hitem _ _ => ih item hitem) hitems hitems']
    | @map entries fields hkeys hvalues =>
      cases h' with
      | map hkeys' hvalues' =>
        congr 1
        refine Dict.eq_of_keys_eq (hkeys.trans hkeys'.symm) fun name v v' hv hv' => ?_
        have hname : name ∈ fields.keys := List.mem_map.2 ⟨_, hv, rfl⟩
        rw [hkeys, List.mem_eraseDups] at hname
        obtain ⟨before, entry, after, rfl, hentry, hafter⟩ :=
          exists_last (List.mem_filterMap.1 hname)
        have hmem : entry ∈ before ++ entry :: after := by simp
        exact ih entry.2 (value_mem_children hmem)
          (hvalues before entry after name v rfl hentry hafter hv)
          (hvalues' before entry after name v' rfl hentry hafter hv')
    | float hx =>
      cases h' with
      | float => rfl
      | noFloat hx' => cases hx.symm.trans hx'
    | noFloat hx =>
      cases h' with
      | float hx' => cases hx'.symm.trans hx
      | noFloat => rfl
    | tagged h =>
      cases h' with
      | tagged h' => exact ih _ (List.mem_singleton_self _) h h'
    | _ =>
      cases h'
      rfl

end ClientGen.Yaml
