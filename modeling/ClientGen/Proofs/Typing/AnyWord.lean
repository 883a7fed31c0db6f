import ClientGen.Proofs.Typing.Outline

namespace ClientGen

namespace TypeScript

def Keyword.withAny : Keyword → Keyword → Keyword
  | .any, word => word
  | other, _ => other

theorem Keyword.withAny_of_ne {word k : Keyword} (hany : k ≠ .any) : k.withAny word = k := by
  cases k with
  | any => exact absurd rfl hany
  | _ => rfl

namespace TypeExpr

mutual

/-- A type with a word in the place of each `any` in it. -/
def withAny (word : Keyword) : TypeExpr → TypeExpr
  | .keyword other => .keyword (other.withAny word)
  | .array item => .array (withAny word item)
  | .tuple items => .tuple (withAnyOf word items)
  | .union members => .union (withAnyOf word members)
  | .intersection parts => .intersection (withAnyOf word parts)
  | .object members index => .object (withAnyMembers word members) (withAnyIndex word index)
  | .literal value => .literal value
  | .named name => .named name

def withAnyOf (word : Keyword) : List TypeExpr → List TypeExpr
  | [] => []
  | type :: rest => withAny word type :: withAnyOf word rest

def withAnyMember (word : Keyword) : Member TypeExpr → Member TypeExpr
  | ⟨name, type, optional, doc⟩ => ⟨name, withAny word type, optional, doc⟩

def withAnyMembers (word : Keyword) : List (Member TypeExpr) → List (Member TypeExpr)
  | [] => []
  | member :: rest => withAnyMember word member :: withAnyMembers word rest

def withAnyIndex (word : Keyword) : Option TypeExpr → Option TypeExpr
  | none => none
  | some type => some (withAny word type)

end

variable {word k : Keyword}

theorem withAnyOf_eq (ts : List TypeExpr) : withAnyOf word ts = ts.map (withAny word) := by
  induction ts with
  | nil => rfl
  | cons t ts ih => rw [withAnyOf, ih, List.map_cons]

theorem withAnyMembers_eq (members : List (Member TypeExpr)) :
    withAnyMembers word members = members.map (withAnyMember word) := by
  induction members with
  | nil => rfl
  | cons m members ih => rw [withAnyMembers, ih, List.map_cons]

theorem withAnyIndex_eq (index : Option TypeExpr) :
    withAnyIndex word index = index.map (withAny word) := by
  cases index <;> rfl

theorem withAny_union (ts : List TypeExpr) :
    withAny word (.union ts) = .union (ts.map (withAny word)) := by
  rw [withAny, withAnyOf_eq]

theorem withAny_tuple (ts : List TypeExpr) :
    withAny word (.tuple ts) = .tuple (ts.map (withAny word)) := by
  rw [withAny, withAnyOf_eq]

theorem withAny_intersection (ts : List TypeExpr) :
    withAny word (.intersection ts) = .intersection (ts.map (withAny word)) := by
  rw [withAny, withAnyOf_eq]

theorem withAny_object (members : List (Member TypeExpr)) (index : Option TypeExpr) :
    withAny word (.object members index) =
      .object (members.map (withAnyMember word)) (index.map (withAny word)) := by
  rw [withAny, withAnyMembers_eq, withAnyIndex_eq]

theorem withAny_ofValues (values : List Json) :
    (ofValues values).withAny word = ofValues values := by
  rw [ofValues, withAny_union, List.map_map]
  rfl

theorem isKeyword_withAny (hany : k ≠ .any) (hword : k ≠ word) (t : TypeExpr) :
    (t.withAny word).isKeyword k = t.isKeyword k := by
  cases t with
  | keyword other =>
    cases other with
    | any => simp [withAny, Keyword.withAny, isKeyword, hany.symm, hword.symm]
    | _ => rfl
  | _ => rfl

theorem withAny_orKeyword (hany : k ≠ .any) (hword : k ≠ word) (t : TypeExpr) :
    (t.orKeyword k).withAny word = (t.withAny word).orKeyword k := by
  by_cases hunion : ∃ ts, t = .union ts
  · obtain ⟨ts, rfl⟩ := hunion
    have hmem : (ts.map (withAny word)).any (isKeyword k) = ts.any (isKeyword k) := by
      rw [List.any_map]
      exact congrArg _ (funext (isKeyword_withAny hany hword))
    rw [withAny_union, orKeyword, orKeyword, withAny_union, hmem]
    split
    · rfl
    · rw [List.map_append, List.map_singleton, withAny, Keyword.withAny_of_ne hany]
  · have hne : ∀ ts, t ≠ .union ts := not_exists.1 hunion
    have hne' : ∀ ts, t.withAny word ≠ .union ts := by
      cases t with
      | union ts => exact absurd rfl (hne ts)
      | _ =>
        intro ts he
        cases he
    rw [orKeyword_of_ne_union hne, orKeyword_of_ne_union hne', isKeyword_withAny hany hword]
    split
    · rfl
    · rw [withAny_union, List.map_cons, List.map_singleton, withAny, Keyword.withAny_of_ne hany]

mutual

theorem withAny_any : ∀ t : TypeExpr, t.withAny .any = t
  | .keyword other => by cases other <;> rfl
  | .array item => congrArg _ (withAny_any item)
  | .tuple items => congrArg _ (withAnyOf_any items)
  | .union members => congrArg _ (withAnyOf_any members)
  | .intersection parts => congrArg _ (withAnyOf_any parts)
  | .object members index => by
    rw [withAny, withAnyMembers_any members, withAnyIndex_any index]
  | .literal _ | .named _ => rfl

theorem withAnyOf_any : ∀ ts : List TypeExpr, withAnyOf .any ts = ts
  | [] => rfl
  | t :: ts => by rw [withAnyOf, withAny_any t, withAnyOf_any ts]

theorem withAnyMember_any : ∀ m : Member TypeExpr, withAnyMember .any m = m
  | ⟨_, type, _, _⟩ => by rw [withAnyMember, withAny_any type]

theorem withAnyMembers_any : ∀ ms : List (Member TypeExpr), withAnyMembers .any ms = ms
  | [] => rfl
  | m :: ms => by rw [withAnyMembers, withAnyMember_any m, withAnyMembers_any ms]

theorem withAnyIndex_any : ∀ index : Option TypeExpr, withAnyIndex .any index = index
  | none => rfl
  | some t => congrArg some (withAny_any t)

end

end TypeExpr

def TypeBody.withAny (word : Keyword) : TypeBody → TypeBody
  | .alias type => .alias (type.withAny word)
  | .enum members => .enum members

def TypeDecl.withAny (word : Keyword) (d : TypeDecl) : TypeDecl :=
  { d with body := d.body.withAny word }

theorem TypeDecl.withAny_any : ∀ d : TypeDecl, d.withAny .any = d
  | ⟨_, .alias type, _⟩ => by rw [withAny, TypeBody.withAny, TypeExpr.withAny_any type]
  | ⟨_, .enum _, _⟩ => rfl

end TypeScript

open TypeScript (Keyword TypeDecl)

/-- A session, of which only the declared types are altered. -/
def Session.withAny (word : Keyword) (s : Session) : Session :=
  { s with types := s.types.map (TypeDecl.withAny word) }

theorem Session.withAny_any (s : Session) : s.withAny .any = s := by
  have htypes : s.types.map (TypeDecl.withAny .any) = s.types := by
    rw [List.map_congr_left fun d _ => d.withAny_any, List.map_id']
  rw [withAny, htypes]

end ClientGen
