import ClientGen.Proofs.Names.Repeats
import ClientGen.Proofs.Typing.EnumValues

namespace ClientGen

open FunctionNames (Extends)
open Run TypeScript

instance : DecidablePred Literal.IsTextOrNumber
  | .text _ | .int _ | .number _ => isTrue trivial
  | .truth _ | .null => isFalse id

namespace NamedEnum

variable {x : Schema} {name : String} {s s' : Session} {t : TypeExpr} {d : TypeDecl}

/-- The identifiers that the members of an enum ask for, each by the name given for its value or by
the value itself. -/
def memberIds (x : Schema) : List String :=
  (entries (x.values.getD []) (x.memberNames?.getD [])).map fun e =>
    Identifier.ofText e.1 true .base

theorem names_members (names : AliasNames) (l : List (String × Literal)) :
    (members names l).map EnumMember.name =
      InTurn.answers AliasNames.unique names (l.map fun e => Identifier.ofText e.1 true .base) := by
  induction l generalizing names with
  | nil => rfl
  | cons entry rest ih => exact congrArg _ (ih _)

theorem values_entries (values : List Json) (given : List String) :
    (entries values given).map Prod.snd =
      (values.filterMap Literal.ofJson?).filter Literal.IsTextOrNumber := by
  induction values generalizing given with
  | nil => rfl
  | cons v rest ih =>
    rw [entries]
    cases hv : Literal.ofJson? v with
    | none =>
      rw [List.filterMap_cons_none hv]
      exact ih _
    | some l =>
      rw [List.filterMap_cons_some hv, Option.bind_some]
      cases hl : basis? l with
      | none =>
        have hother : ¬ l.IsTextOrNumber := by simp [← isSome_basis?, hl]
        rw [List.filter_cons_of_neg (by simpa using hother)]
        exact ih _
      | some basis =>
        have hmade : l.IsTextOrNumber := by simp [← isSome_basis?, hl]
        rw [List.filter_cons_of_pos (by simpa using hmade), ← ih given.tail]
        rfl

theorem declared_eq (h : (declare x name).Gives s t s') (hd : s'.enums = s.enums ++ [d]) :
    ∃ n, d = declaration x n := by
  obtain ⟨n, -, -, -, rfl | hadded⟩ := declare_gives h
  · exact absurd (List.self_eq_append_right.1 hd) (List.cons_ne_nil _ _)
  · rw [hadded.enums h] at hd
    exact ⟨n, (List.singleton_inj.1 (List.append_cancel_left hd)).symm⟩

/-- The members of a new enum have the texts and numbers among its values in order, and their names
in turn: a member has the identifier that it asks for if no member before it is called so, and else
that identifier with a number. So two members have the same name just where an identifier and its
numbered form are both names already, and never if no identifier is another one with digits behind
it. -/
theorem members_of_declared (h : (declare x name).Gives s t s')
    (hd : s'.enums = s.enums ++ [d]) : ∃ members : List EnumMember,
      d.body = .enum members ∧
      members.map EnumMember.value =
        ((x.values.getD []).filterMap Literal.ofJson?).filter Literal.IsTextOrNumber ∧
      (memberIds x).length = members.length ∧
      EachAfter (fun before e => e.2 = AliasNames.next e.1 before)
        ((memberIds x).zip (members.map EnumMember.name)) ∧
      ((members.map EnumMember.name).Nodup ↔
        EachAfter (fun before e => ¬ (e.1 ∈ before.map Prod.snd ∧
            AliasNames.numbered e.1 before ∈ before.map Prod.snd))
          ((memberIds x).zip (members.map EnumMember.name))) ∧
      ((∀ m ∈ memberIds x, ∀ n ∈ memberIds x, ¬ Extends m n) →
        (members.map EnumMember.name).Nodup) := by
  obtain ⟨n, rfl⟩ := declared_eq h hd
  have hnames := names_members {} (entries (x.values.getD []) (x.memberNames?.getD []))
  have hlength := congrArg List.length hnames
  rw [InTurn.length_answers, List.length_map] at hlength
  refine ⟨_, rfl, ?_, hlength.symm, ?_, ?_, ?_⟩
  · rw [values_members, values_entries]
  · rw [hnames]
    exact AliasNames.eachAfter_given (memberIds x)
  · rw [hnames]
    exact AliasNames.nodup_given_iff (memberIds x)
  · rw [hnames]
    exact AliasNames.nodup_answers_of_apart

theorem exists_declared (hcount : ¬ Miscounted x) (name : String) :
    ∃ t s' n, (declare x name).Gives {} t s' ∧
      s'.enums = ({} : Session).enums ++ [declaration x n] := by
  obtain ⟨enumNames, hfound⟩ := EnumNames.nameFor_of_lookup_eq_none ({} : Session).aliases
    (rfl : ({} : Session).enumNames.lookup (proposed x name) (valuesText x) = none)
  obtain ⟨s', hgives, henums⟩ := declare_of_fresh hcount hfound
  exact ⟨_, s', _, hgives, henums⟩

def sizes (values : List Json) : Schema := { values := some values }

theorem members_of_declared_sizes : ∃ t s' d, ∃ members : List EnumMember,
    (declare (sizes [.str "small", .null, .str "very large"]) "size").Gives {} t s' ∧
    s'.enums = ({} : Session).enums ++ [d] ∧ d.body = .enum members ∧
    members.map EnumMember.value = [.text "small", .text "very large"] ∧
    (members.map EnumMember.name).Nodup := by
  obtain ⟨t, s', n, hgives, henums⟩ :=
    exists_declared (x := sizes [.str "small", .null, .str "very large"])
      (fun h => Bool.noConfusion h.1) "size"
  obtain ⟨members, hbody, hvalues, -, -, -, hnodup⟩ := members_of_declared hgives henums
  have hplain : ∀ m ∈ memberIds (sizes [.str "small", .null, .str "very large"]),
      FunctionNames.Unnumbered m := by
    decide +kernel
  refine ⟨t, s', _, members, hgives, henums, hbody, hvalues, hnodup fun m hm _ _ hextends => ?_⟩
  exact FunctionNames.not_unnumbered_of_extends hextends (hplain m hm)

/-- The third member asks for the name of the second one, and its numbered form is the name of the
first one. -/
theorem sizes_repeat_name : ∃ t s' d, ∃ members : List EnumMember,
    (declare (sizes [.str "a2", .str "a", .str "A"]) "size").Gives {} t s' ∧
    s'.enums = ({} : Session).enums ++ [d] ∧ d.body = .enum members ∧
    members.map EnumMember.name = ["A2", "A", "A2"] ∧
    ¬ (members.map EnumMember.name).Nodup := by
  obtain ⟨t, s', n, hgives, henums⟩ := exists_declared (x := sizes [.str "a2", .str "a", .str "A"])
    (fun h => Bool.noConfusion h.1) "size"
  have hnames : InTurn.answers AliasNames.unique {}
      (memberIds (sizes [.str "a2", .str "a", .str "A"])) = ["A2", "A", "A2"] := by
    decide +kernel
  have hrepeated := (names_members {} (entries _ [])).trans hnames
  refine ⟨t, s', _, _, hgives, henums, rfl, hrepeated, ?_⟩
  exact hrepeated ▸ by decide

end NamedEnum

end ClientGen
