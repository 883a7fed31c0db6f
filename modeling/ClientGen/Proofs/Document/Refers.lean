import ClientGen.Endpoint.OfOperation
import ClientGen.Proofs.Schema.Inside

namespace ClientGen

open Json (Part Reader)

/-- The reference is the target of a `$ref` in the tree, or a schema that is read from a part of the
tree mentions it. -/
def Json.Refers (r : String) (j : Json) : Prop :=
  ∃ k, Part k j ∧
    (k.member? "$ref" = some (.str r) ∨ ∃ x, Schema.read k = some x ∧ x.Mentions r)

variable {α : Type} {j k : Json} {r : String} {document : Document}

theorem Json.Part.refers (h : Part k j) (hr : k.Refers r) : j.Refers r := by
  obtain ⟨i, hi, hr⟩ := hr
  exact ⟨i, hi.trans h, hr⟩

theorem Json.refers_of_mem_children (hk : k ∈ j.children) (hr : k.Refers r) : j.Refers r :=
  (Part.child hk).refers hr

theorem Json.Refers.mem_texts (h : j.Refers r) : r ∈ j.texts := by
  obtain ⟨k, hk, hr | ⟨x, hx, hr⟩⟩ := h
  · have hchild : Json.str r ∈ k.children := by
      cases k with
      | obj fields => exact mem_children_of_get? hr
      | _ => cases hr
    exact hk.texts_subset (texts_subset_of_mem_children hchild List.mem_cons_self)
  · exact hk.texts_subset (Schema.mem_texts_of_mentions hx hr)

section Mentions

/-- What a value mentions, or the reference that stands for it. -/
def Referable.Mentions (mentions : String → α → Prop) (r : String) : Referable α → Prop
  | .reference target => target = r
  | .inline value => mentions r value

def Parameter.Mentions (r : String) (p : Parameter) : Prop :=
  ∃ x, p.schemaOf? = some x ∧ x.Mentions r

def RequestBody.Mentions (r : String) (b : RequestBody) : Prop :=
  (Content.schema b.content).Mentions r

def Response.Mentions (r : String) (o : Response) : Prop :=
  ∃ content, o.content = some content ∧ (Content.schema content).Mentions r

def Operation.Mentions (r : String) (op : Operation) : Prop :=
  (∃ p ∈ op.parameters, p.Mentions Parameter.Mentions r) ∨
  (∃ b, op.body = some b ∧ b.Mentions RequestBody.Mentions r) ∨
  ∃ e ∈ op.responses, e.2.Mentions Response.Mentions r

def PathItem.Mentions (r : String) (item : PathItem) : Prop :=
  (∃ p ∈ item.parameters, p.Mentions Parameter.Mentions r) ∨
  ∃ e ∈ item.operations, e.2.Mentions r

/-- The reference is mentioned by an operation of the document. -/
def Document.Mentions (r : String) (d : Document) : Prop := ∃ e ∈ d.paths, e.2.Mentions r

end Mentions

namespace Json

/-- What a reader makes of a tree mentions only what the tree refers to. -/
def Reader.Faithful (read : Reader α) (mentions : String → α → Prop) : Prop :=
  ∀ j a r, read j = some a → mentions r a → j.Refers r

variable {read : Reader α} {mentions : String → α → Prop} {record : Record} {count place : Nat}
  {name : String}

theorem Reader.Faithful.list (h : read.Faithful mentions) :
    (Reader.list read).Faithful fun r l => ∃ a ∈ l, mentions r a := by
  rintro j l r hl ⟨a, ha, hr⟩
  obtain ⟨k, hk, hread⟩ := Reader.exists_of_list hl a ha
  exact refers_of_mem_children hk (h _ _ _ hread hr)

theorem Reader.Faithful.dict (h : read.Faithful mentions) :
    (Reader.dict read).Faithful fun r d => ∃ e ∈ d, mentions r e.2 := by
  rintro j d r hd ⟨e, he, hr⟩
  obtain ⟨k, hk, hread⟩ := Reader.exists_of_dict hd e he
  exact refers_of_mem_children hk (h _ _ _ hread hr)

theorem Reader.Faithful.optional (h : read.Faithful mentions)
    (hrecord : j.record? count = some record) {a : Option α}
    (ha : record.optional place name read = some a) (hr : ∃ b, a = some b ∧ mentions r b) :
    j.Refers r := by
  obtain ⟨b, rfl, hr⟩ := hr
  obtain ⟨k, hk, hread⟩ := Record.exists_of_optional hrecord ha
  exact refers_of_mem_children hk (h _ _ _ hread hr)

theorem Reader.Faithful.defaulted (h : read.Faithful mentions)
    (hrecord : j.record? count = some record) {a default : α}
    (ha : record.defaulted place name read default = some a) (hdefault : ¬ mentions r default)
    (hr : mentions r a) : j.Refers r := by
  rcases Record.exists_of_defaulted hrecord ha with rfl | ⟨k, hk, hread⟩
  · exact absurd hr hdefault
  · exact refers_of_mem_children hk (h _ _ _ hread hr)

end Json

open Json

theorem Schema.faithful : Reader.Faithful Schema.read Schema.Mentions :=
  fun j x _ hread hr => ⟨j, Part.refl j, .inr ⟨x, hread, hr⟩⟩

theorem Referable.faithful {read : Reader α} {mentions : String → α → Prop}
    (h : read.Faithful mentions) :
    Reader.Faithful (Referable.read read) (Referable.Mentions mentions) := by
  intro j a r hread hr
  unfold Referable.read at hread
  split at hread
  · next target htarget =>
    cases hread
    cases hr
    exact ⟨j, Part.refl j, .inl htarget⟩
  · obtain ⟨value, hvalue, rfl⟩ := Option.map_eq_some_iff.1 hread
    exact h _ _ _ hvalue hr

theorem MediaType.faithful :
    Reader.Faithful MediaType.read fun r m => ∃ x, m.schema = some x ∧ x.Mentions r := by
  intro j m r hread hr
  simp only [MediaType.read, Option.bind_eq_bind, Option.bind_eq_some_iff, Option.pure_def,
    Option.some.injEq] at hread
  obtain ⟨record, hrecord, schema, hschema, rfl⟩ := hread
  exact Schema.faithful.optional hrecord hschema hr

theorem Content.exists_of_mentions {content : Dict MediaType}
    (h : (Content.schema content).Mentions r) :
    ∃ e ∈ content, ∃ x, e.2.schema = some x ∧ x.Mentions r := by
  unfold Content.schema at h
  cases hdeclared : content.findSome? fun entry =>
      if isMediaType entry.1 then entry.2.schema else none with
  | some x =>
    simp only [hdeclared, Option.getD_some] at h
    obtain ⟨e, he, hx⟩ := List.exists_of_findSome?_eq_some hdeclared
    split at hx
    · exact ⟨e, he, x, hx, h⟩
    · cases hx
  | none =>
    simp only [hdeclared, Option.getD_none] at h
    have hplain {name : String} {format : Option String}
        (h : (Schema.ofType name format).Mentions r) : False := by
      cases h with
      | reference h => cases h
      | mapped hd => cases hd
      | inside ht => cases ht
    unfold undeclared at h
    split at h <;> exact absurd h hplain

theorem Parameter.faithful : Reader.Faithful Parameter.read Parameter.Mentions := by
  rintro j p r hread ⟨x, hx, hr⟩
  simp only [Parameter.read, Option.bind_eq_bind, Option.bind_eq_some_iff, Option.pure_def,
    Option.some.injEq] at hread
  obtain ⟨record, hrecord, _, -, _, -, _, -, schema, hschema, content, hcontent, _, -, _, -, _, -,
    rfl⟩ := hread
  cases content with
  | none => exact Schema.faithful.optional hrecord hschema ⟨x, hx, hr⟩
  | some content =>
    obtain ⟨e, he, hx⟩ := Option.bind_eq_some_iff.1 hx
    have hmem : e ∈ content := List.mem_of_mem_head? (Option.mem_def.2 he)
    exact MediaType.faithful.dict.optional hrecord hcontent ⟨content, rfl, e, hmem, x, hx, hr⟩

theorem RequestBody.faithful : Reader.Faithful RequestBody.read RequestBody.Mentions := by
  intro j b r hread hr
  simp only [RequestBody.read, Option.bind_eq_bind, Option.bind_eq_some_iff, Option.pure_def,
    Option.some.injEq] at hread
  obtain ⟨record, hrecord, _, -, content, hcontent, _, -, rfl⟩ := hread
  exact MediaType.faithful.dict.defaulted hrecord hcontent (by simp) (Content.exists_of_mentions hr)

theorem Response.faithful : Reader.Faithful Response.read Response.Mentions := by
  rintro j o r hread ⟨content, hcontent, hr⟩
  simp only [Response.read, Option.bind_eq_bind, Option.bind_eq_some_iff, Option.pure_def,
    Option.some.injEq] at hread
  obtain ⟨record, hrecord, _, -, _, hread, rfl⟩ := hread
  exact MediaType.faithful.dict.optional hrecord hread
    ⟨content, hcontent, Content.exists_of_mentions hr⟩

theorem Operation.faithful : Reader.Faithful Operation.read Operation.Mentions := by
  intro j op r hread hr
  simp only [Operation.read, Option.bind_eq_bind, Option.bind_eq_some_iff, Option.pure_def,
    Option.some.injEq] at hread
  obtain ⟨record, hrecord, _, -, _, -, _, -, _, -, parameters, hparameters, body, hbody, responses,
    hresponses, _, -, rfl⟩ := hread
  rcases hr with hr | hr | hr
  · exact (Referable.faithful Parameter.faithful).list.defaulted hrecord hparameters (by simp) hr
  · exact (Referable.faithful RequestBody.faithful).optional hrecord hbody hr
  · exact (Referable.faithful Response.faithful).dict.defaulted hrecord hresponses (by simp) hr

theorem PathItem.faithful : Reader.Faithful PathItem.read PathItem.Mentions := by
  intro j item r hread hr
  simp only [PathItem.read, Option.bind_eq_bind, Option.bind_eq_some_iff, Option.pure_def,
    Option.some.injEq] at hread
  obtain ⟨record, hrecord, get, hget, put, hput, post, hpost, delete, hdelete, options, hoptions,
    head, hhead, patch, hpatch, trace, htrace, parameters, hparameters, rfl⟩ := hread
  rcases hr with hr | ⟨⟨method, op⟩, hop, hr⟩
  · exact (Referable.faithful Parameter.faithful).list.defaulted hrecord hparameters (by simp) hr
  · obtain ⟨_, -, hop⟩ := List.mem_filterMap.1 hop
    obtain ⟨op', hop, he⟩ := Option.map_eq_some_iff.1 hop
    cases he
    have hof {place : Nat} {name : String}
        (hread : record.optional place name Operation.read = some (some op)) : j.Refers r :=
      Operation.faithful.optional hrecord hread ⟨op, rfl, hr⟩
    cases method <;> (cases hop; exact hof ‹_›)

/-- A document mentions only what its tree refers to. -/
theorem Document.faithful : Reader.Faithful Document.read Document.Mentions := by
  intro j d r hread hr
  simp only [Document.read, Option.bind_eq_bind, Option.bind_eq_some_iff, Option.pure_def,
    Option.some.injEq] at hread
  obtain ⟨record, hrecord, _, -, _, -, _, -, _, -, paths, hpaths, _, -, rfl⟩ := hread
  have hnone : ¬ ∃ e ∈ ([] : Dict PathItem), e.2.Mentions r := by simp
  exact PathItem.faithful.dict.defaulted hrecord hpaths hnone hr

end ClientGen
