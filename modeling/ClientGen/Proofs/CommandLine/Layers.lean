import ClientGen.CommandLine.Arguments

namespace ClientGen

def Options.turned (o : Options) : Switch → Bool
  | .optimistic => o.optimistic
  | .namedEnums => o.namedEnums
  | .mergeViews => o.mergeViews
  | .useUnknown => o.useUnknown
  | .unionUndefined => o.unionUndefined
  | .allSchemas => o.allSchemas

namespace Arguments

variable {a b : Arguments} {arguments : List String} {base : Options}

/-- Arguments that reading gives: at most two paths, which are not empty, each switch once, and one
value at most for a flag that may not be repeated. -/
structure Read (a : Arguments) : Prop where
  paths_length : a.paths.length ≤ 2
  paths_nonempty : ∀ path ∈ a.paths, path.isEmpty = false
  switches_nodup : a.switches.Nodup
  value_unique : ∀ flag : ValueFlag, flag.repeats = false → ∀ v ∈ a.valuesOf flag,
    a.valuesOf flag = [v]

theorem mem_valuesOf {flag : ValueFlag} {v : String} :
    v ∈ a.valuesOf flag ↔ (flag, v) ∈ a.values := by
  simp [valuesOf]

theorem Read.empty : Read {} where
  paths_length := Nat.zero_le 2
  paths_nonempty := nofun
  switches_nodup := .nil
  value_unique := nofun

theorem Read.addPath {path : String} (ha : a.Read) (h : a.addPath path = some b) : b.Read := by
  simp only [Arguments.addPath, Bool.or_eq_true, decide_eq_true_eq] at h
  split at h
  · cases h
  · next hfits =>
    cases h
    obtain ⟨hsome, hroom⟩ := not_or.1 hfits
    refine ⟨?_, ?_, ha.switches_nodup, ha.value_unique⟩
    · rw [List.length_append, List.length_singleton]
      omega
    · intro other hother
      rcases List.mem_append.1 hother with hold | hnew
      · exact ha.paths_nonempty other hold
      · rw [List.mem_singleton.1 hnew]
        exact Bool.eq_false_iff.2 hsome

theorem Read.addSwitch {s : Switch} (ha : a.Read) (h : a.addSwitch s = some b) : b.Read := by
  unfold Arguments.addSwitch at h
  split at h
  · cases h
  · next hnew =>
    cases h
    refine ⟨ha.paths_length, ha.paths_nonempty, ?_, ha.value_unique⟩
    apply List.nodup_append.2 ⟨ha.switches_nodup, List.pairwise_singleton _ s, ?_⟩
    intro other hother other' hother'
    rw [List.mem_singleton.1 hother']
    rintro rfl
    exact hnew (List.contains_iff_mem.2 hother)

theorem valuesOf_append (a : Arguments) (flag other : ValueFlag) (v : String) :
    Arguments.valuesOf { a with values := a.values ++ [(flag, v)] } other =
      a.valuesOf other ++ if flag = other then [v] else [] := by
  unfold valuesOf
  rw [List.filter_append, List.map_append]
  by_cases h : flag = other <;> simp [h]

theorem Read.addValue {flag : ValueFlag} {v : String} (ha : a.Read)
    (h : a.addValue flag v = some b) : b.Read := by
  unfold Arguments.addValue at h
  split at h
  · cases h
  · split at h
    · cases h
    · next hfirst =>
      cases h
      refine ⟨ha.paths_length, ha.paths_nonempty, ha.switches_nodup, ?_⟩
      intro other hother w hw
      rw [valuesOf_append] at hw ⊢
      by_cases hsame : flag = other
      · subst hsame
        have hnone : a.valuesOf flag = [] := by
          rw [hother] at hfirst
          simpa using hfirst
        rw [hnone, if_pos rfl, List.nil_append] at hw ⊢
        rw [List.mem_singleton.1 hw]
      · rw [if_neg hsame, List.append_nil] at hw ⊢
        exact ha.value_unique other hother w hw

theorem Read.addPaths {paths : List String} (ha : a.Read)
    (h : paths.foldlM Arguments.addPath a = some b) : b.Read := by
  induction paths generalizing a with
  | nil =>
    cases h
    exact ha
  | cons path paths ih =>
    obtain ⟨between, hpath, hrest⟩ := Option.bind_eq_some_iff.1 h
    exact ih (ha.addPath hpath) hrest

theorem finish_eq (h : a.finish = some (.generate b)) : b = a ∧ a.paths ≠ [] := by
  unfold finish at h
  split at h
  · cases h
  · next hsome =>
    cases h
    refine ⟨rfl, ?_⟩
    rintro hnil
    rw [hnil] at hsome
    exact hsome rfl

theorem Read.readFrom (ha : a.Read) (h : a.readFrom arguments = some (.generate b)) :
    b.Read ∧ b.paths ≠ [] := by
  fun_induction Arguments.readFrom a arguments with
  | case1 a =>
    obtain ⟨rfl, hsome⟩ := finish_eq h
    exact ⟨ha, hsome⟩
  | case2 =>
    -- Two dashes.
    obtain ⟨between, hpaths, hrest⟩ := Option.bind_eq_some_iff.1 h
    obtain ⟨rfl, hsome⟩ := finish_eq hrest
    exact ⟨ha.addPaths hpaths, hsome⟩
  | case6 =>
    -- A switch.
    rename_i ih
    obtain ⟨between, hswitch, hrest⟩ := Option.bind_eq_some_iff.1 h
    exact ih _ (ha.addSwitch hswitch) hrest
  | case7 | case9 =>
    -- A flag with its value, behind an equals sign or as the next argument.
    rename_i ih
    obtain ⟨between, hvalue, hrest⟩ := Option.bind_eq_some_iff.1 h
    exact ih _ (ha.addValue hvalue) hrest
  | case15 =>
    -- A path.
    rename_i ih
    obtain ⟨between, hpath, hrest⟩ := Option.bind_eq_some_iff.1 h
    exact ih _ (ha.addPath hpath) hrest
  | _ => cases h

theorem Read.of_read (h : read arguments = some (.generate a)) : a.Read ∧ a.paths ≠ [] :=
  Read.empty.readFrom h

/-- What the command line says of the options, on top of others. -/
structure Layers (a : Arguments) (base o : Options) : Prop where
  includeTags : o.includeTags = base.includeTags ++ a.valuesOf .includeTag
  excludeTags : o.excludeTags = base.excludeTags ++ a.valuesOf .excludeTag
  turned : ∀ s, o.turned s = true ↔ base.turned s = true ∨ s ∈ a.switches
  runtimeModule_given : ∀ v, (.runtimeModule, v) ∈ a.values → o.runtimeModule = v
  runtimeModule_kept : (∀ v, (.runtimeModule, v) ∉ a.values) →
    o.runtimeModule = base.runtimeModule

theorem turned_options (s : Switch) : (a.options base).turned s = (base.turned s || a.has s) := by
  cases s <;> rfl

theorem Read.layers (ha : a.Read) (base : Options) : a.Layers base (a.options base) where
  includeTags := rfl
  excludeTags := rfl
  turned s := by rw [turned_options, Bool.or_eq_true, has, List.contains_iff_mem]
  runtimeModule_given v hv := by
    have hall := ha.value_unique .runtimeModule rfl v (mem_valuesOf.2 hv)
    change (a.valuesOf .runtimeModule).head?.getD _ = v
    rw [hall]
    rfl
  runtimeModule_kept hnone := by
    have hall : a.valuesOf .runtimeModule = [] := by
      apply List.eq_nil_iff_forall_not_mem.2
      intro v hv
      exact hnone v (mem_valuesOf.1 hv)
    change (a.valuesOf .runtimeModule).head?.getD _ = _
    rw [hall]
    rfl

end Arguments

end ClientGen
