import ClientGen.Proofs.Names.Tables
import ClientGen.Proofs.Typing.Naming

namespace ClientGen

open FunctionNames (form form_eq_form form_eq_unnumbered_iff form_one eq_or_extends_of_form Extends
  Unnumbered not_unnumbered_of_extends)
open AliasNames (unique_fst)

/-- A request for the name of an alias, or of an enum with the text of its values. -/
inductive TypeRequest where
  | type (name : String)
  | enum (name values : String)
  deriving DecidableEq, Repr

def TypeRequest.name : TypeRequest → String
  | .type name => name
  | .enum name _ => name

structure TypeTables where
  aliases : AliasNames := {}
  enums : EnumNames := {}

namespace TypeTables

variable {t : TypeTables} {r : TypeRequest} {requests before : List TypeRequest}
  {name values n : String}

/-- The answer to a request. An alias never reuses a name. -/
def answer (t : TypeTables) : TypeRequest → EnumName × TypeTables
  | .type name =>
    let (found, aliases) := t.aliases.unique name
    (.fresh found, { t with aliases })
  | .enum name values =>
    let (found, enums, aliases) := t.enums.nameFor name values t.aliases
    (found, ⟨aliases, enums⟩)

abbrev after (requests : List TypeRequest) : TypeTables := InTurn.after answer {} requests

/-- The names that requests are given anew, each with the name that was asked for. -/
def handedOut (t : TypeTables) : List TypeRequest → List (String × String)
  | [] => []
  | r :: rest =>
    match (t.answer r).1 with
    | .fresh given => (r.name, given) :: handedOut (t.answer r).2 rest
    | .reused _ => handedOut (t.answer r).2 rest

def Known (t : TypeTables) (r : TypeRequest) (n : String) : Prop :=
  ∃ name values, r = .enum name values ∧ t.enums.lookup name values = some n

theorem answer_cases (t : TypeTables) (r : TypeRequest) :
    (∃ n, t.Known r n ∧ t.answer r = (.reused n, t)) ∨
    (∃ enums, (∀ n, ¬ t.Known r n) ∧
      t.answer r = (.fresh (t.aliases.unique r.name).1, ⟨(t.aliases.unique r.name).2, enums⟩) ∧
      ∀ name values, enums.lookup name values =
        if r = .enum name values then some (t.aliases.unique r.name).1
        else t.enums.lookup name values) := by
  cases r with
  | type name =>
    refine .inr ⟨t.enums, ?_, rfl, fun _ _ => by simp⟩
    rintro n ⟨_, _, h, -⟩
    cases h
  | enum name values =>
    cases hknown : t.enums.lookup name values with
    | some n =>
      refine .inl ⟨n, ⟨name, values, rfl, hknown⟩, ?_⟩
      simp only [answer, EnumNames.nameFor_of_lookup hknown]
    | none =>
      obtain ⟨enums, hnew⟩ := EnumNames.nameFor_of_lookup_eq_none t.aliases hknown
      obtain ⟨-, -, hlookup⟩ := EnumNames.nameFor_fresh hnew
      refine .inr ⟨enums, ?_, by simp only [answer, hnew, TypeRequest.name], fun p v => ?_⟩
      · rintro n ⟨_, _, h, hn⟩
        cases h
        cases hn.symm.trans hknown
      · rw [hlookup]
        simp only [TypeRequest.enum.injEq, TypeRequest.name, eq_comm]

theorem answer_of_known (h : t.Known r n) : t.answer r = (.reused n, t) := by
  rcases answer_cases t r with ⟨m, ⟨_, _, hr, hm⟩, hanswer⟩ | ⟨_, hunknown, -⟩
  · obtain ⟨_, _, hr', hn⟩ := h
    cases hr.symm.trans hr'
    cases hm.symm.trans hn
    exact hanswer
  · exact absurd h (hunknown n)

/-- What an enum is called is known as soon as it was asked for, and does not change. -/
theorem lookup_answer (t : TypeTables) (r : TypeRequest) (name values : String) :
    (t.answer r).2.enums.lookup name values = (t.enums.lookup name values).or
      (if r = .enum name values then some (t.aliases.unique name).1 else none) := by
  rcases answer_cases t r with ⟨n, ⟨p, v, rfl, hn⟩, hanswer⟩ | ⟨enums, hunknown, hanswer, hlookup⟩
  · rw [hanswer]
    split
    · next he =>
      cases he
      rw [hn]
      rfl
    · rw [Option.or_none]
  · rw [hanswer, hlookup]
    split
    · next he =>
      subst he
      cases hl : t.enums.lookup name values with
      | none => rfl
      | some n => exact absurd ⟨name, values, rfl, hl⟩ (hunknown n)
    · rw [Option.or_none]

theorem lookup_after (h : t.enums.lookup name values = some n) :
    (InTurn.after answer t requests).enums.lookup name values = some n := by
  induction requests generalizing t with
  | nil => exact h
  | cons r requests ih =>
    apply ih
    rw [lookup_answer, h]
    rfl

theorem isSome_lookup_after_iff :
    ((InTurn.after answer t requests).enums.lookup name values).isSome ↔
      (t.enums.lookup name values).isSome ∨ .enum name values ∈ requests := by
  induction requests generalizing t with
  | nil => simp [InTurn.after]
  | cons r requests ih =>
    apply ih.trans
    rw [lookup_answer, List.mem_cons]
    by_cases he : r = .enum name values
    · simp [he]
    · simp [he, Ne.symm he]

theorem reused_iff_mem (before : List TypeRequest) (name values : String) :
    (∃ n, ((after before).answer (.enum name values)).1 = .reused n) ↔
      .enum name values ∈ before := by
  have hknown : ((after before).enums.lookup name values).isSome ↔ .enum name values ∈ before :=
    isSome_lookup_after_iff.trans (or_iff_right (by simp [EnumNames.lookup, Dict.get?]))
  rw [← hknown, Option.isSome_iff_exists]
  constructor
  · rintro ⟨n, hn⟩
    rcases answer_cases (after before) (.enum name values) with ⟨m, ⟨_, _, he, hm⟩, -⟩ | h
    · cases he
      exact ⟨m, hm⟩
    · obtain ⟨_, -, hanswer, -⟩ := h
      rw [hanswer] at hn
      cases hn
  · rintro ⟨n, hn⟩
    exact ⟨n, congrArg Prod.fst (answer_of_known ⟨name, values, rfl, hn⟩)⟩

/-- Once an enum has got a name, it reuses that one for good. -/
theorem reused_of_first {between : List TypeRequest} (h : .enum name values ∉ before) :
    ∃ n, ((after before).answer (.enum name values)).1 = .fresh n ∧
      ((after (before ++ .enum name values :: between)).answer (.enum name values)).1 =
        .reused n := by
  have hnew := mt (reused_iff_mem before name values).1 h
  rcases answer_cases (after before) (.enum name values) with ⟨m, -, hreused⟩ | h
  · exact absurd ⟨m, congrArg Prod.fst hreused⟩ hnew
  · obtain ⟨enums, -, hfresh, hlookup⟩ := h
    refine ⟨_, congrArg Prod.fst hfresh, ?_⟩
    have hthen : ((after before).answer (.enum name values)).2.enums.lookup name values =
        some ((after before).aliases.unique name).1 := by
      rw [hfresh, hlookup, if_pos rfl]
      rfl
    rw [after, InTurn.after_append]
    exact congrArg Prod.fst (answer_of_known ⟨name, values, rfl, lookup_after hthen⟩)

theorem handedOut_append (l l' : List TypeRequest) :
    handedOut t (l ++ l') = handedOut t l ++ handedOut (InTurn.after answer t l) l' := by
  induction l generalizing t with
  | nil => rfl
  | cons r l ih =>
    rw [List.cons_append, handedOut, handedOut, ih]
    split <;> rfl

theorem handedOut_append_singleton (l : List TypeRequest) (r : TypeRequest) :
    handedOut t (l ++ [r]) = handedOut t l ++
      match ((InTurn.after answer t l).answer r).1 with
      | .fresh given => [(r.name, given)]
      | .reused _ => [] := by
  rw [handedOut_append]
  rfl

theorem exists_of_mem_handedOut {asked given : String} (h : (asked, given) ∈ handedOut t requests) :
    (∃ r ∈ requests, r.name = asked) ∧ ∃ k, given = form asked k := by
  induction requests generalizing t with
  | nil => cases h
  | cons r requests ih =>
    have hlater (h : (asked, given) ∈ handedOut (t.answer r).2 requests) :
        (∃ r' ∈ r :: requests, r'.name = asked) ∧ ∃ k, given = form asked k := by
      obtain ⟨⟨r', hr', he⟩, hk⟩ := ih h
      exact ⟨⟨r', List.mem_cons_of_mem r hr', he⟩, hk⟩
    rcases answer_cases t r with ⟨n, -, hanswer⟩ | ⟨enums, -, hanswer, -⟩
    · rw [handedOut, hanswer] at h
      exact hlater (hanswer ▸ h)
    · rw [handedOut, hanswer] at h
      rcases List.mem_cons.1 h with he | h
      · cases he
        exact ⟨⟨r, List.mem_cons_self, rfl⟩, _, unique_fst _ _⟩
      · exact hlater (hanswer ▸ h)

theorem handedOut_concat (l : List TypeRequest) (r : TypeRequest) :
    (handedOut t (l ++ [r]) = handedOut t l ∧
      (InTurn.after answer t (l ++ [r])).aliases = (InTurn.after answer t l).aliases) ∨
    (handedOut t (l ++ [r]) =
        handedOut t l ++ [(r.name, ((InTurn.after answer t l).aliases.unique r.name).1)] ∧
      (InTurn.after answer t (l ++ [r])).aliases =
        ((InTurn.after answer t l).aliases.unique r.name).2) := by
  rw [handedOut_append_singleton, InTurn.after_append]
  simp only [InTurn.after, List.foldl_cons, List.foldl_nil]
  rcases answer_cases (InTurn.after answer t l) r with ⟨n, -, hanswer⟩ | ⟨enums, -, hanswer, -⟩
  · left
    rw [InTurn.after] at hanswer
    rw [hanswer]
    exact ⟨List.append_nil _, rfl⟩
  · right
    rw [InTurn.after] at hanswer
    rw [hanswer]
    exact ⟨rfl, rfl⟩

theorem count_after (h : ∀ r ∈ requests, ¬ Extends n r.name) :
    (after requests).aliases.count n = ((handedOut {} requests).map Prod.fst).count n := by
  induction requests using List.reverseRecOn with
  | nil => rfl
  | append_singleton requests r ih =>
    have hcount := ih fun r' hr' => h r' (List.mem_append_left _ hr')
    have hr := h r (List.mem_append_right _ List.mem_cons_self)
    rcases handedOut_concat (t := {}) requests r with ⟨hout, hafter⟩ | ⟨hout, hafter⟩
    · rw [hout, after, hafter]
      exact hcount
    · rw [hout, after, hafter, AliasNames.count_unique, List.map_append, List.count_append,
        ← hcount]
      by_cases he : r.name = n
      · simp [he]
      · -- A longer name that is given is counted too, and only digits could make it `n`.
        have hother : ((after requests).aliases.unique r.name).1 ≠ n := by
          intro hform
          rw [unique_fst] at hform
          rcases eq_or_extends_of_form hform with hself | hext
          · exact he hself.1
          · exact hr hext
        simp [he, hother]

/-- The requests for each name are given its forms one after the other. -/
def Numbered (given : List (String × String)) : Prop :=
  ∀ before asked name later, given = before ++ (asked, name) :: later →
    name = form asked ((before.map Prod.fst).count asked + 1)

theorem numbered_iff_eachAfter {given : List (String × String)} : Numbered given ↔
    EachAfter (fun before e => e.2 = form e.1 ((before.map Prod.fst).count e.1 + 1)) given :=
  ⟨fun h before e => h before e.1 e.2, fun h before asked name => h before (asked, name)⟩

theorem Numbered.concat {given : List (String × String)} (h : Numbered given)
    (hn : n = form name ((given.map Prod.fst).count name + 1)) :
    Numbered (given ++ [(name, n)]) :=
  numbered_iff_eachAfter.2 (eachAfter_concat.2 ⟨numbered_iff_eachAfter.1 h, hn⟩)

/-- Without names that digits tell apart no form is given twice. -/
theorem Numbered.nodup {given : List (String × String)} (h : Numbered given)
    (hapart : ∀ m ∈ given.map Prod.fst, ∀ n ∈ given.map Prod.fst, ¬ Extends m n) :
    (given.map Prod.snd).Nodup := by
  induction given using List.reverseRecOn with
  | nil => exact .nil
  | append_singleton given entry ih =>
    rcases entry with ⟨asked, name⟩
    rw [List.map_append] at hapart ⊢
    have hgiven : Numbered given :=
      numbered_iff_eachAfter.2 (eachAfter_concat.1 (numbered_iff_eachAfter.1 h)).1
    have hrest := ih hgiven fun m hm n hn =>
      hapart m (List.mem_append_left _ hm) n (List.mem_append_left _ hn)
    refine List.nodup_append.2 ⟨hrest, List.nodup_singleton _, ?_⟩
    intro m hm n hn
    rw [List.map_singleton, List.mem_singleton] at hn
    obtain ⟨⟨asked', name'⟩, hmem, rfl⟩ := List.mem_map.1 hm
    obtain ⟨before, later, hsplit⟩ := List.append_of_mem hmem
    intro hsame
    rw [hn] at hsame
    have hfirst := hgiven before asked' name' later hsplit
    have hlast := h given asked name [] rfl
    have hasked' : asked' ∈ given.map Prod.fst := List.mem_map_of_mem hmem
    -- Both are forms with a number, and the later request for a name has the larger one.
    have hforms := hfirst.symm.trans (hsame.trans hlast)
    rcases form_eq_form hforms with ⟨rfl, hcount⟩ | hext | hext
    · rw [hsplit] at hcount
      simp at hcount
    · exact hapart _ (List.mem_append_left _ hasked') _ (List.mem_append_right _ (by simp)) hext
    · exact hapart _ (List.mem_append_right _ (by simp)) _ (List.mem_append_left _ hasked') hext

/-- No name that is asked for is another one with digits behind it. -/
def Apart (requests : List TypeRequest) : Prop :=
  ∀ r ∈ requests, ∀ r' ∈ requests, ¬ Extends r.name r'.name

theorem numbered_handedOut (h : Apart requests) : Numbered (handedOut {} requests) := by
  induction requests using List.reverseRecOn with
  | nil => exact numbered_iff_eachAfter.2 eachAfter_nil
  | append_singleton requests r ih =>
    have hnumbered := ih fun r' hr' r'' hr'' =>
      h r' (List.mem_append_left _ hr') r'' (List.mem_append_left _ hr'')
    rcases handedOut_concat (t := {}) requests r with ⟨hout, -⟩ | ⟨hout, -⟩
    · rw [hout]
      exact hnumbered
    · rw [hout]
      apply hnumbered.concat
      rw [unique_fst, count_after]
      intro r' hr'
      exact h r (List.mem_append_right _ List.mem_cons_self) r' (List.mem_append_left _ hr')

theorem nodup_handedOut (h : Apart requests) : ((handedOut {} requests).map Prod.snd).Nodup := by
  apply (numbered_handedOut h).nodup
  intro m hm n hn
  obtain ⟨e, he, rfl⟩ := List.mem_map.1 hm
  obtain ⟨e', he', rfl⟩ := List.mem_map.1 hn
  obtain ⟨⟨r, hr, hname⟩, -⟩ := exists_of_mem_handedOut he
  obtain ⟨⟨r', hr', hname'⟩, -⟩ := exists_of_mem_handedOut he'
  rw [← hname, ← hname']
  exact h r hr r' hr'

theorem mem_handedOut_iff (requests : List TypeRequest) (hn : Unnumbered n) :
    n ∈ (handedOut {} requests).map Prod.snd ↔ n ∈ (handedOut {} requests).map Prod.fst := by
  constructor
  · intro h
    obtain ⟨⟨asked, _⟩, hmem, rfl⟩ := List.mem_map.1 h
    obtain ⟨-, k, hk⟩ := exists_of_mem_handedOut hmem
    obtain ⟨rfl, -⟩ := (form_eq_unnumbered_iff hn).1 hk.symm
    exact List.mem_map_of_mem hmem
  · intro h
    induction requests using List.reverseRecOn with
    | nil => cases h
    | append_singleton requests r ih =>
      rcases handedOut_concat (t := {}) requests r with ⟨hout, -⟩ | ⟨hout, -⟩
      · rw [hout] at h ⊢
        exact ih h
      · rw [hout, List.map_append, List.mem_append] at h ⊢
        by_cases hbefore : n ∈ (handedOut {} requests).map Prod.fst
        · exact .inl (ih hbefore)
        · obtain rfl : n = r.name := by simpa [hbefore] using h
          -- so far nothing counted it, neither a request nor a longer name that was given
          have hcount : (after requests).aliases.count r.name = _ := count_after fun r' _ hext =>
            not_unnumbered_of_extends hext hn
          rw [List.count_eq_zero.2 hbefore] at hcount
          right
          rw [List.map_singleton, List.mem_singleton, unique_fst, hcount, form_one]

theorem apart_of_unnumbered (h : ∀ r ∈ requests, Unnumbered r.name) : Apart requests :=
  fun r hr _ _ hext => not_unnumbered_of_extends hext (h r hr)

/-- Whatever is asked for in whatever order: an enum reuses a name just if one with the same
proposed name and the same values was asked for before, and then the name that the first of them
was given. And if no name that is asked for is another one with digits behind it, then the requests
that are answered anew get the forms of each name one after the other, and all of them different
names. -/
theorem names_of_requests :
    (∀ before name values,
      ((∃ n, ((after before).answer (.enum name values)).1 = .reused n) ↔
        .enum name values ∈ before) ∧
      ∀ earlier between, before = earlier ++ .enum name values :: between →
        .enum name values ∉ earlier →
        ∃ n, ((after earlier).answer (.enum name values)).1 = .fresh n ∧
          ((after before).answer (.enum name values)).1 = .reused n) ∧
    ∀ requests, Apart requests →
      Numbered (handedOut {} requests) ∧ ((handedOut {} requests).map Prod.snd).Nodup := by
  refine ⟨fun before name values => ⟨reused_iff_mem before name values, ?_⟩, fun requests h => ?_⟩
  · rintro earlier between rfl hfirst
    exact reused_of_first hfirst
  · exact ⟨numbered_handedOut h, nodup_handedOut h⟩

theorem names_of_requests_color :
    let requests : List TypeRequest :=
      [.type "Pet", .enum "Color" "[1]", .type "Color", .enum "Color" "[1]", .enum "Color" "[2]"]
    (∃ n, ((after [.type "Pet"]).answer (.enum "Color" "[1]")).1 = .fresh n ∧
      ((after [.type "Pet", .enum "Color" "[1]", .type "Color"]).answer (.enum "Color" "[1]")).1 =
        .reused n) ∧
    Apart requests ∧ Numbered (handedOut {} requests) ∧
    (handedOut {} requests).map Prod.snd = ["Pet", "Color", "Color2", "Color3"] := by
  have hapart : Apart
      [.type "Pet", .enum "Color" "[1]", .type "Color", .enum "Color" "[1]", .enum "Color" "[2]"] :=
    apart_of_unnumbered (by decide)
  exact ⟨(names_of_requests.1 [.type "Pet", .enum "Color" "[1]", .type "Color"] "Color" "[1]").2
      [.type "Pet"] [.type "Color"] rfl (by decide),
    hapart, (names_of_requests.2 _ hapart).1, by decide⟩

end TypeTables

end ClientGen
