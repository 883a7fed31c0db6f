import ClientGen.Proofs.Typing.Naming
import ClientGen.Proofs.Typing.Law

namespace ClientGen

open Run TypeScript

/-- A view of a reference and the name that it goes by. -/
abbrev Label := String × View × String

def Dict.labels (references : Dict ViewNames) : List Label :=
  references.flatMap fun e => e.2.views.map fun v => (e.1, v)

structure Alias where
  reference : String
  view : View
  name : String
  doc : Option Doc
  type : TypeExpr

theorem ViewNames.name_mem_views (names : ViewNames) (view : View) :
    ∃ v, (v, names.name view) ∈ names.views := by
  have hown (v : View) (n : String) (h : names.own? v = some n) : (v, n) ∈ names.views := by
    refine List.mem_filterMap.2 ⟨v, by cases v <;> simp, ?_⟩
    rw [h]
    rfl
  unfold name
  cases h : names.own? view with
  | none => exact ⟨.base, hown .base names.base rfl⟩
  | some n => exact ⟨view, hown view n h⟩

theorem Dict.exists_label {references : Dict ViewNames} {r : String} {names : ViewNames}
    (h : (r, names) ∈ references) (view : View) :
    ∃ v, (r, v, names.name view) ∈ references.labels := by
  obtain ⟨v, hv⟩ := names.name_mem_views view
  exact ⟨v, List.mem_flatMap.2 ⟨_, h, List.mem_map.2 ⟨_, hv, rfl⟩⟩⟩

namespace Alias

def label (a : Alias) : Label := (a.reference, a.view, a.name)

def decl (a : Alias) : TypeDecl := { name := a.name, body := .alias a.type, doc := a.doc }

end Alias

namespace Setting

variable {c : Setting} {s s' s'' : Session} {n : String} {owed : List Label}

/-- A later session: what has a name keeps it. What is no enum may be registered in between. -/
structure Later (c : Setting) (s s' : Session) : Prop where
  known : ∀ {r names}, s.references.get? r = some names → s'.references.get? r = some names
  fresh : ∀ {r names}, s'.references.get? r = some names → s.references.get? r = none →
    ∃ x, c.schema r = .ok x ∧ c.namesEnum x = false
  lookup : ∀ {p v n}, s.enumNames.lookup p v = some n → s'.enumNames.lookup p v = some n

theorem Later.of_eq (hr : s'.references = s.references) (he : s'.enumNames = s.enumNames) :
    c.Later s s' where
  known h := hr ▸ h
  fresh h hn := by
    rw [hr, hn] at h
    cases h
  lookup h := he ▸ h

theorem Later.refl (c : Setting) (s : Session) : c.Later s s := .of_eq rfl rfl

theorem Later.trans (h : c.Later s s') (h' : c.Later s' s'') : c.Later s s'' where
  known hr := h'.known (h.known hr)
  fresh {r names} hr hn := by
    cases hm : s'.references.get? r with
    | none => exact h'.fresh hr hm
    | some names' => exact h.fresh hm hn
  lookup hl := h'.lookup (h.lookup hl)

theorem Later.takeNames {r name : String} {x : Schema} {names : ViewNames}
    (hr : s.references.get? r = none) (hx : c.schema r = .ok x) (hn : c.namesEnum x = false)
    (h : (c.takeNames r name).Gives s names s') : c.Later s s' := by
  obtain ⟨⟨_, _, _, rfl⟩, -⟩ := takeNames_gives h
  refine ⟨fun hk => ?_, fun hk hk' => ?_, fun hl => hl⟩
  · rw [Dict.get?_put, if_neg]
    · exact hk
    · rintro rfl
      cases hk.symm.trans hr
  · rw [Dict.get?_put] at hk
    split at hk
    · next he => exact he ▸ ⟨x, hx, hn⟩
    · cases hk'.symm.trans hk

/-- A declared type is that of the schema of its reference in its view, and the session that it was
complete in lies before. -/
def Describes (c : Setting) (s : Session) (a : Alias) : Prop :=
  ∃ x fuel u u', c.schema a.reference = .ok x ∧ a.doc = x.description.bind Doc.ofText? ∧
    fuel ≤ c.depth ∧ c.Later u' s ∧
    (c.typingWithin fuel { view := a.view, component := some a.reference } x).Gives u a.type u'

theorem Describes.later {a : Alias} (h : c.Describes s a) (hs : c.Later s s') :
    c.Describes s' a := by
  obtain ⟨x, fuel, u, u', hx, hd, hfuel, hu, hgives⟩ := h
  exact ⟨x, fuel, u, u', hx, hd, hfuel, hu.trans hs, hgives⟩

inductive Nameable (s : Session) : String → Prop where
  | binary : Nameable s "Blob"
  | registered {l : Label} (h : l ∈ s.references.labels) : Nameable s l.2.2
  | enum {proposed values n : String} (h : s.enumNames.lookup proposed values = some n) :
      Nameable s n

def EnumsDeclared (s : Session) : Prop :=
  ∀ p v n, s.enumNames.lookup p v = some n → n ∈ s.enums.map TypeDecl.name

/-- What is added to a session: references that were not there, enums, and a type for each view that
is owed and each view of an added reference. -/
structure Grows (c : Setting) (owed : List Label) (s s' : Session) : Prop where
  later : c.Later s s'
  enums : EnumsDeclared s → EnumsDeclared s'
  keys : s.references.keys.Nodup → s'.references.keys.Nodup
  parts : ∃ (references : Dict ViewNames) (aliases : List Alias) (enums : List TypeDecl),
    s'.references = s.references ++ references ∧ s'.types = s.types ++ aliases.map Alias.decl ∧
    s'.enums = s.enums ++ enums ∧ (∀ d ∈ enums, d.mentions = []) ∧
    (aliases.map Alias.label).Perm (owed ++ Dict.labels references) ∧
    ∀ a ∈ aliases, c.Describes s' a ∧ ∀ n ∈ a.type.names, Nameable s' n

theorem labels_append (d d' : Dict ViewNames) : Dict.labels (d ++ d') = d.labels ++ d'.labels :=
  List.flatMap_append

theorem Nameable.grows (h : Nameable s n) (hs : c.Grows owed s s') : Nameable s' n := by
  cases h with
  | binary => exact .binary
  | registered h =>
    obtain ⟨references, _, _, hr, -⟩ := hs.parts
    refine .registered ?_
    rw [hr, labels_append]
    exact List.mem_append_left _ h
  | enum h => exact .enum (hs.later.lookup h)

theorem Grows.refl (c : Setting) (s : Session) : c.Grows [] s s where
  later := .refl c s
  enums h := h
  keys h := h
  parts := ⟨[], [], [], by simp, by simp, by simp, by simp, .refl _, by simp⟩

theorem Grows.trans {owed' : List Label} (h : c.Grows owed s s') (h' : c.Grows owed' s' s'') :
    c.Grows (owed ++ owed') s s'' where
  later := h.later.trans h'.later
  enums hs := h'.enums (h.enums hs)
  keys hs := h'.keys (h.keys hs)
  parts := by
    obtain ⟨references, aliases, enums, hr, ht, he, hd, hperm, ha⟩ := h.parts
    obtain ⟨references', aliases', enums', hr', ht', he', hd', hperm', ha'⟩ := h'.parts
    refine ⟨references ++ references', aliases ++ aliases', enums ++ enums', by simp [hr', hr],
      by simp [ht', ht], by simp [he', he], fun d hmem => ?_, ?_, fun a hmem => ?_⟩
    · exact (List.mem_append.1 hmem).elim (hd d) (hd' d)
    · rw [List.map_append, labels_append]
      refine (hperm.append hperm').trans ?_
      simp only [List.append_assoc]
      exact .append_left _ (List.perm_append_comm_assoc _ _ _)
    · rcases List.mem_append.1 hmem with hmem | hmem
      · exact ⟨(ha a hmem).1.later h'.later, fun n hn => ((ha a hmem).2 n hn).grows h'⟩
      · exact ha' a hmem

theorem Grows.declare {a : Alias} (ha : c.Describes s a)
    (hn : ∀ n ∈ a.type.names, Nameable s n) :
    c.Grows [a.label] s { s with types := s.types ++ [a.decl] } where
  later := .of_eq rfl rfl
  enums h := h
  keys h := h
  parts := by
    refine ⟨[], [a], [], by simp, rfl, by simp, by simp, .refl _, fun b hb => ?_⟩
    rw [List.mem_singleton.1 hb]
    refine ⟨ha.later (.of_eq rfl rfl), fun n hn' => ?_⟩
    cases hn n hn' with
    | binary => exact .binary
    | registered h => exact .registered h
    | enum h => exact .enum h

theorem Grows.written {r : String} {x : Schema} {views : List (View × String)}
    (hx : c.schema r = .ok x) (h : Written c (c.Grows []) Nameable r x views s s') :
    c.Grows (views.map fun v => (r, v)) s s' := by
  induction h with
  | nil s => exact .refl c s
  | @cons view name rest fuel t s s₁ s' hfuel gives step named tail ih =>
    have ha : c.Describes s₁ ⟨r, view, name, x.description.bind Doc.ofText?, t⟩ :=
      ⟨x, fuel, s, s₁, hx, rfl, hfuel, .refl c s₁, gives⟩
    exact (step.trans (.declare ha named)).trans ih

theorem Grows.enum {x : Schema} {name : String} {t : TypeExpr}
    (h : (NamedEnum.declare x name).Gives s t s') :
    c.Grows [] s s' ∧ ∀ n ∈ t.names, Nameable s' n := by
  obtain ⟨n, rfl, -, hn, hs⟩ := NamedEnum.declare_gives h
  refine ⟨?_, fun m hm => List.mem_singleton.1 hm ▸ .enum hn⟩
  rcases hs with rfl | hadd
  · exact .refl c _
  · obtain ⟨_, _, _, members, doc, hs'⟩ := hadd.only
    refine ⟨⟨fun hr => hs' ▸ hr, fun hr hn => ?_, hadd.keep⟩,
      fun hall p v m hm => ?_, fun h => hs' ▸ h, [], [],
      [{ name := n, body := .enum members, doc }], by simp [hs'], by simp [hs'], by simp [hs'],
      by simp [TypeDecl.mentions], .refl _, by simp⟩
    · rw [hs', hn] at hr
      cases hr
    · rw [hadd.lookup] at hm
      simp only [hs', List.map_append]
      split at hm
      · cases hm
        exact List.mem_append_right _ List.mem_cons_self
      · exact List.mem_append_left _ (hall p v m hm)

theorem nameable_name {r : String} {names : ViewNames} (h : (r, names) ∈ s.references)
    (view : View) : Nameable s (names.name view) := by
  obtain ⟨v, hl⟩ := Dict.exists_label h view
  exact .registered hl

/-- Entering a reference: with its names it is added, and then its views are no longer owed. -/
theorem Grows.enter {r name : String} {x : Schema} {names : ViewNames} {s₁ : Session}
    (hr : s.references.get? r = none) (hx : c.schema r = .ok x) (hn : c.namesEnum x = false)
    (hnames : (c.takeNames r name).Gives s names s₁)
    (h : Written c (c.Grows []) Nameable r x names.views s₁ s') :
    c.Grows [] s s' ∧ ∀ view, Nameable s' (names.name view) := by
  have hlater := Later.takeNames hr hx hn hnames
  obtain ⟨⟨_, _, _, rfl⟩, -⟩ := takeNames_gives hnames
  have hput : s.references.put r names = s.references ++ [(r, names)] :=
    Dict.put_of_get?_eq_none names hr
  have hw := Grows.written hx h
  obtain ⟨references, aliases, enums, hr', ht, he, hd, hperm, ha⟩ := hw.parts
  refine ⟨⟨hlater.trans hw.later, hw.enums, fun hs => hw.keys ?_, (r, names) :: references,
    aliases, enums, by simp [hr', hput], ht, he, hd, hperm, ha⟩, fun view => ?_⟩
  · rw [Dict.get?_eq_none_iff] at hr
    rw [Dict.keys_put, if_neg hr]
    refine List.nodup_append.2 ⟨hs, by simp, fun a ha b hb hab => ?_⟩
    rw [hab, List.mem_singleton.1 hb] at ha
    exact hr ha
  · have hmem : (r, names) ∈ s'.references := by simp [hr', hput]
    exact nameable_name hmem view

/-- Whatever gets a type, the session grows by complete declarations. -/
def growth (c : Setting) : RunLaw c where
  Step := c.Grows []
  Named := Nameable
  refl := Grows.refl c
  trans h h' := h.trans h'
  keep hs hn := hn.grows hs
  aside s functions events :=
    ⟨.of_eq rfl rfl, fun h => h, fun h => h, [], [], [], by simp, by simp, by simp, by simp,
      .refl _, by simp⟩
  binary _ := .binary
  known h := nameable_name (Dict.mem_of_get? h)
  enum := Grows.enum
  enter hr hx hn hnames h := Grows.enter hr hx hn hnames h

end Setting

end ClientGen
