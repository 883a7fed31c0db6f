import ClientGen.Proofs.Names.TypeRequests
import ClientGen.Proofs.Typing.Closed

namespace ClientGen

open Run TypeScript
open TypeTables (answer handedOut handedOut_append)

/-- The name that is asked for a view of a reference, with the one that it goes by. -/
def Label.request (l : Label) : String × String :=
  (Identifier.ofText (Reference.stableName l.1) true l.2.1, l.2.2)

namespace Session

variable {s s' s'' : Session} {asked given : String}

def typeTables (s : Session) : TypeTables := ⟨s.aliases, s.enumNames⟩

/-- Between two sessions these names were handed out, each for the name before it. -/
def HandsOut (s s' : Session) (names : List (String × String)) : Prop :=
  ∃ requests, s'.typeTables = InTurn.after answer s.typeTables requests ∧
    handedOut s.typeTables requests = names

theorem HandsOut.of_eq (h : s'.typeTables = s.typeTables) : s.HandsOut s' [] := ⟨[], h, rfl⟩

theorem HandsOut.trans {names names' : List (String × String)} (h : s.HandsOut s' names)
    (h' : s'.HandsOut s'' names') : s.HandsOut s'' (names ++ names') := by
  obtain ⟨requests, htables, hnames⟩ := h
  obtain ⟨requests', htables', hnames'⟩ := h'
  refine ⟨requests ++ requests', ?_, ?_⟩
  · rw [htables', htables, InTurn.after_append]
  · rw [handedOut_append, hnames, ← htables, hnames']

theorem handsOut_takeAlias {n n' : String} (h : (takeAlias n).Gives s n' s') :
    s.HandsOut s' [(n, n')] := by
  obtain ⟨rfl, rfl⟩ := gives_modifyGet.1 h
  exact ⟨[.type n], rfl, rfl⟩

theorem handsOut_takeOwnName {name : String} {view : View} {own : Bool} {n : Option String}
    (h : (Setting.takeOwnName name view own).Gives s n s') :
    s.HandsOut s' (n.toList.map fun m => (Identifier.ofText name true view, m)) := by
  unfold Setting.takeOwnName at h
  split at h
  · rw [gives_map] at h
    obtain ⟨m, hm, rfl⟩ := h
    exact handsOut_takeAlias hm
  · obtain ⟨rfl, rfl⟩ := gives_pure.1 h
    exact .of_eq rfl

theorem handsOut_takeNames {c : Setting} {r name : String} {names : ViewNames}
    (h : (c.takeNames r name).Gives s names s') :
    s.HandsOut s' (names.views.map fun v => (Identifier.ofText name true v.1, v.2)) := by
  simp only [Setting.takeNames, gives_bind, gives_pure] at h
  obtain ⟨base, s₁, hbase, f, s₂, hflags, read, s₃, hread, write, s₄, hwrite, _, s₅, hreport, _, s₆,
    hregister, rfl, rfl⟩ := h
  have hlast : s₄.HandsOut s₆ [] := by
    cases gives_modify.1 hreport
    cases gives_modify.1 hregister
    exact .of_eq rfl
  have hnone : s₁.HandsOut s₂ [] := by
    obtain ⟨_, rfl⟩ := Setting.namingFlags_sameButFlags hflags
    exact .of_eq rfl
  have hall := ((handsOut_takeAlias hbase).trans hnone).trans
    (((handsOut_takeOwnName hread).trans (handsOut_takeOwnName hwrite)).trans hlast)
  cases read <;> cases write <;> exact hall

theorem handsOut_added {x : Schema} {name n : String} (h : NamedEnum.Added x name n s s') :
    s.HandsOut s' [(NamedEnum.proposed x name, n)] := by
  have hanswer : s.typeTables.answer
      (.enum (NamedEnum.proposed x name) (NamedEnum.valuesText x)) = (.fresh n, s'.typeTables) := by
    simp only [answer, typeTables, h.found]
  refine ⟨[.enum (NamedEnum.proposed x name) (NamedEnum.valuesText x)], ?_, ?_⟩
  · exact (congrArg Prod.snd hanswer).symm
  · rw [handedOut, hanswer]
    rfl

/-- In the session a view of a reference or an enum has the name that was given for the name asked
for it. -/
def Gave (s : Session) (asked given : String) : Prop :=
  (asked, given) ∈ s.references.labels.map Label.request ∨
    ∃ values, s.enumNames.lookup asked values = some given

/-- Every declared enum has its name from the table of enums. -/
def EnumsKnown (s : Session) : Prop :=
  ∀ d ∈ s.enums, ∃ proposed values, s.enumNames.lookup proposed values = some d.name

/-- The names that were handed out between two sessions are those that something got meanwhile. -/
structure NamesHandedOut (s s' : Session) : Prop where
  handed : ∃ names, s.HandsOut s' names ∧
    ∀ asked given, s'.Gave asked given ↔ s.Gave asked given ∨ (asked, given) ∈ names
  known : s.EnumsKnown → s'.EnumsKnown

theorem gave_of_eq (hr : s'.references = s.references) (he : s'.enumNames = s.enumNames) :
    s'.Gave asked given ↔ s.Gave asked given := by
  rw [Gave, Gave, hr, he]

namespace NamesHandedOut

theorem of_eq (ht : s'.typeTables = s.typeTables) (hr : s'.references = s.references)
    (he : s'.enums = s.enums) : s.NamesHandedOut s' where
  handed := by
    refine ⟨[], .of_eq ht, fun asked given => ?_⟩
    rw [gave_of_eq hr (congrArg TypeTables.enums ht)]
    simp
  known h d hd := by
    have hnames : s'.enumNames = s.enumNames := congrArg TypeTables.enums ht
    rw [hnames]
    exact h d (he ▸ hd)

theorem trans (h : s.NamesHandedOut s') (h' : s'.NamesHandedOut s'') : s.NamesHandedOut s'' where
  handed := by
    obtain ⟨names, hout, hgave⟩ := h.handed
    obtain ⟨names', hout', hgave'⟩ := h'.handed
    refine ⟨names ++ names', hout.trans hout', fun asked given => ?_⟩
    rw [hgave', hgave, List.mem_append, or_assoc]
  known hs := h'.known (h.known hs)

theorem enum {x : Schema} {name : String} {t : TypeExpr}
    (h : (NamedEnum.declare x name).Gives s t s') : s.NamesHandedOut s' := by
  obtain ⟨n, -, -, hlookup, rfl | hadd⟩ := NamedEnum.declare_gives h
  · exact .of_eq rfl rfl rfl
  · obtain ⟨aliases, enumNames, events, members, doc, hs'⟩ := hadd.only
    refine ⟨⟨_, handsOut_added hadd, fun asked given => ?_⟩, fun hs d hd => ?_⟩
    · have hreferences : s'.references = s.references := by rw [hs']
      rw [Gave, Gave, hreferences, hadd.exists_lookup_iff, List.mem_singleton, or_assoc]
    · have henums : s'.enums = s.enums ++ [{ name := n, body := .enum members, doc }] := by rw [hs']
      rcases List.mem_append.1 (henums ▸ hd) with hd | hd
      · obtain ⟨proposed, values, hname⟩ := hs d hd
        exact ⟨proposed, values, hadd.keep hname⟩
      · rw [List.mem_singleton.1 hd]
        exact ⟨_, _, hlookup⟩

theorem enter {c : Setting} {r : String} {names : ViewNames}
    (hr : s.references.get? r = none)
    (h : (c.takeNames r (Reference.stableName r)).Gives s names s') : s.NamesHandedOut s' := by
  have hout := handsOut_takeNames h
  obtain ⟨⟨aliases, flags, events, rfl⟩, -⟩ := Setting.takeNames_gives h
  refine ⟨⟨_, hout, fun asked given => ?_⟩, fun hs => hs⟩
  have hlabels : (s.references.put r names).labels =
      s.references.labels ++ names.views.map fun v => (r, v) := by
    rw [Dict.put_of_get?_eq_none names hr, Setting.labels_append]
    exact congrArg _ (List.flatMap_singleton _ _)
  rw [Gave, Gave, hlabels, List.map_append, List.map_map, List.mem_append]
  exact or_right_comm

end NamesHandedOut

end Session

namespace Setting

/-- Whatever happens in a run, the type names that are handed out are those that something gets. -/
def handing (c : Setting) : RunLaw c where
  Step := Session.NamesHandedOut
  Named _ _ := True
  refl _ := .of_eq rfl rfl rfl
  trans h h' := h.trans h'
  keep _ _ := trivial
  aside _ _ _ := .of_eq rfl rfl rfl
  binary _ := trivial
  known _ _ := trivial
  enum h := ⟨.enum h, fun _ _ => trivial⟩
  enter hr _ _ hnames h := by
    -- To declare an alias changes no table, and what gives it its type obeys the law.
    have hviews := h.step (fun _ => .of_eq rfl rfl rfl) (fun h h' => h.trans h')
      fun _ _ => .of_eq rfl rfl rfl
    exact ⟨(Session.NamesHandedOut.enter hr hnames).trans hviews, fun _ => trivial⟩

end Setting

namespace Client

variable {tree : Json} {document : Document} {options : Options} {client : Client} {s : Session}
  {n : String}

/-- At the end of a run, what the tables handed out is what something got. -/
theorem exists_requests (h : ofDocument tree document options = (.ok client, s)) :
    ∃ requests, s.typeTables = TypeTables.after requests ∧
      ∀ asked given, s.Gave asked given ↔ (asked, given) ∈ handedOut {} requests := by
  obtain ⟨hstep, -, -, -⟩ := (Setting.handing _).build h
  obtain ⟨names, ⟨requests, htables, rfl⟩, hgave⟩ := hstep.handed
  refine ⟨requests, htables, fun asked given => (hgave asked given).trans (or_iff_right ?_)⟩
  rintro (hmem | ⟨values, hvalues⟩)
  · cases hmem
  · cases hvalues

theorem mem_typeNames_iff (h : ofDocument tree document options = (.ok client, s)) :
    n ∈ (client.types ++ client.enums).map TypeDecl.name ↔ ∃ asked, s.Gave asked n := by
  obtain ⟨aliases, htypes, hperm, -⟩ := exists_aliases h
  obtain ⟨hgrows, -, henums, -⟩ := (Setting.growth _).build h
  obtain ⟨hhanded, -, -, -⟩ := (Setting.handing _).build h
  have hdeclared : Setting.EnumsDeclared s := hgrows.enums fun p v n hn => by cases hn
  have hknown : s.EnumsKnown := hhanded.known fun d hd => by cases hd
  rw [List.map_append, List.mem_append, henums, htypes]
  constructor
  · rintro (hn | hn)
    · obtain ⟨_, hd, rfl⟩ := List.mem_map.1 hn
      obtain ⟨a, ha, rfl⟩ := List.mem_map.1 hd
      have hlabel := hperm.mem_iff.1 (List.mem_map_of_mem ha)
      exact ⟨_, .inl (List.mem_map.2 ⟨a.label, hlabel, rfl⟩)⟩
    · obtain ⟨d, hd, rfl⟩ := List.mem_map.1 hn
      obtain ⟨proposed, values, hname⟩ := hknown d hd
      exact ⟨proposed, .inr ⟨values, hname⟩⟩
  · rintro ⟨asked, hview | ⟨values, hvalues⟩⟩
    · obtain ⟨l, hl, he⟩ := List.mem_map.1 hview
      obtain rfl : l.2.2 = n := congrArg Prod.snd he
      obtain ⟨a, ha, rfl⟩ := List.mem_map.1 (hperm.mem_iff.2 hl)
      exact .inl (List.mem_map.2 ⟨a.decl, List.mem_map_of_mem ha, rfl⟩)
    · exact .inr (hdeclared _ _ _ hvalues)

/-- A name without a number at its end is that of a type or an enum just if it is asked for. -/
theorem unnumbered_mem_typeNames_iff (h : ofDocument tree document options = (.ok client, s))
    (hn : FunctionNames.Unnumbered n) :
    n ∈ (client.types ++ client.enums).map TypeDecl.name ↔ ∃ given, s.Gave n given := by
  obtain ⟨requests, -, hgave⟩ := exists_requests h
  have hiff := TypeTables.mem_handedOut_iff requests hn
  simp only [List.mem_map, Prod.exists, exists_eq_right, exists_and_right, ← hgave] at hiff
  rw [mem_typeNames_iff h, hiff]

end Client

end ClientGen
