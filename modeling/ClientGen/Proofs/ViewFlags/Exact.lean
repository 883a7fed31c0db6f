import ClientGen.Proofs.ViewFlags.Search

namespace ClientGen

open Run Relation

namespace Setting

variable {c : Setting} {path : List String} {known : Dict ViewFlags} {v : View}

/-- A schema leads to what it refers to, or else to its parts. -/
inductive Leads (c : Setting) : Schema → Schema → Prop where
  | reference {s t : Schema} {r : String} (hs : s.reference = some r) (ht : c.schema r = .ok t) :
      Leads c s t
  | part {s t : Schema} (hs : s.reference = none) (ht : t ∈ s.parts) : Leads c s t

/-- Something of view `v` is reached from a schema. -/
def Reaches (c : Setting) (v : View) (s : Schema) : Prop :=
  ∃ t, ReflTransGen c.Leads s t ∧ t.ownFlags.has v = true

/-- Something of view `v` is reached from what a reference stands for. -/
def ReachesBehind (c : Setting) (v : View) (r : String) : Prop :=
  ∃ s, c.schema r = .ok s ∧ c.Reaches v s

def RefersTo (c : Setting) (r r' : String) : Prop :=
  ∃ s t, c.schema r = .ok s ∧ ReflTransGen c.Leads s t ∧ t.reference = some r'

/-- No two references lead to each other. A reference may lead to itself. -/
def Loopless (c : Setting) : Prop :=
  ∀ r r', c.RefersTo r r' → c.RefersTo r' r → r = r'

theorem Reaches.head {s t : Schema} (hst : c.Leads s t) (h : c.Reaches v t) : c.Reaches v s := by
  obtain ⟨u, hu, hv⟩ := h
  exact ⟨u, .head hst hu, hv⟩

theorem Reaches.reference {s : Schema} {r : String} (hs : s.reference = some r)
    (h : c.ReachesBehind v r) : c.Reaches v s := by
  obtain ⟨t, ht, h⟩ := h
  exact h.head (.reference hs ht)

/-- What is found is reached, if what is known is. -/
theorem Finds.reaches {s : Schema} (h : c.Finds path known v s)
    (hknown : ∀ r f, known.get? r = some f → f.has v = true → c.ReachesBehind v r) :
    c.Reaches v s := by
  induction h with
  | own h => exact ⟨_, .refl, h⟩
  | part hs ht _ ih => exact ih.head (.part hs ht)
  | known hs _ hf h => exact .reference hs (hknown _ _ hf h)
  | enter hs _ _ ht _ ih => exact ih.head (.reference hs ht)

/-- What is reached is found, if what is known is complete and nothing on the path is met. -/
theorem Reaches.finds {s : Schema} (h : c.Reaches v s)
    (hknown : ∀ r f, known.get? r = some f → c.ReachesBehind v r → f.has v = true)
    (hpath : ∀ t r, ReflTransGen c.Leads s t → t.reference = some r → r ∉ path) :
    c.Finds path known v s := by
  obtain ⟨t, hst, hv⟩ := h
  induction hst using ReflTransGen.head_induction_on with
  | refl => exact .own hv
  | @head s u hsu hut ih =>
    have hu := ih fun t r hut => hpath t r (.head hsu hut)
    cases hsu with
    | part hs hu' => exact .part hs hu' hu
    | @reference r hs hr =>
      have hmem := hpath s r .refl hs
      cases hk : known.get? r with
      | none => exact .enter hs hmem hk hr hu
      | some f => exact .known hs hmem hk (hknown r f hk ⟨u, hr, t, hut, hv⟩)

def OnWay (c : Setting) (path : List String) (s : Schema) : Prop :=
  ∀ r ∈ path, ∃ t, c.schema r = .ok t ∧ ReflTransGen c.Leads t s

theorem OnWay.tail {s t : Schema} (h : c.OnWay path s) (hst : c.Leads s t) : c.OnWay path t :=
  fun r hr => (h r hr).imp fun _ ht => ⟨ht.1, ht.2.tail hst⟩

theorem OnWay.refersTo {s : Schema} {r : String} (h : c.OnWay path s)
    (hs : s.reference = some r) : ∀ p ∈ path, c.RefersTo p r := by
  intro p hp
  obtain ⟨t, ht, hts⟩ := h p hp
  exact ⟨t, s, ht, hts, hs⟩

theorem OnWay.enter {t : Schema} {r : String} (h : ∀ p ∈ path, c.RefersTo p r)
    (ht : c.schema r = .ok t) : c.OnWay (r :: path) t := by
  intro p hp
  rcases List.mem_cons.1 hp with rfl | hp
  · exact ⟨t, ht, .refl⟩
  · obtain ⟨u, s, hu, hus, hs⟩ := h p hp
    exact ⟨u, hu, hus.tail (.reference hs ht)⟩

def AllKnown (E : String → ViewFlags → Prop) (s : Session) : Prop :=
  ∀ r f, s.flags.get? r = some f → E r f

/-- `E` holds of what is found behind a reference that the path leads to, if it holds of all that
is known. -/
def Lasting (c : Setting) (E : String → ViewFlags → Prop) : Prop :=
  ∀ path r t s f, (∀ p ∈ path, c.RefersTo p r) → c.schema r = .ok t → r ∉ path →
    s.flags.get? r = none → AllKnown E s →
    (∀ v, f.has v = true ↔ c.Finds (r :: path) s.flags v t) → E r f

/-- Where a search ends, all that is known satisfies `E` if it did at the start. -/
def KeepsKnown (c : Setting) (E : String → ViewFlags → Prop) (find : FlagFinder) : Prop :=
  ∀ path x s, c.OnWay path x → Keeps (AllKnown E) (find path x) s

theorem KeepsKnown.reference {E : String → ViewFlags → Prop} {find : FlagFinder}
    (hfind : c.KeepsKnown E find) (hright : c.Right find) (hE : c.Lasting E) {r : String}
    (hway : ∀ p ∈ path, c.RefersTo p r) (s : Session) :
    Keeps (AllKnown E) (c.referenceFlags find path r) s := by
  unfold referenceFlags
  split
  · exact keeps_pure _
  · next hr =>
    have hr : r ∉ path := fun hm => hr (List.contains_iff_mem.2 hm)
    refine keeps_get.bind fun s₀ s₁ hget => ?_
    obtain ⟨rfl, rfl⟩ := gives_get.1 hget
    split
    · exact keeps_pure _
    · next hk =>
      refine (keeps_lift _).bind fun t s₁ hlift => ?_
      obtain ⟨ht, rfl⟩ := gives_lift.1 hlift
      intro hall
      refine (hfind (r :: path) t s₁ (.enter hway ht)).bind (fun f s₂ hf => ?_) hall
      refine Keeps.bind (fun hall₂ => ?_) fun _ _ _ => keeps_pure _
      intro r' f' hf'
      change (s₂.flags.put r f).get? r' = some f' at hf'
      rw [Dict.get?_put] at hf'
      split at hf'
      · next he =>
        subst r'
        cases hf'
        exact hE path r t s₁ f hway ht hr hk hall (hright _ _ _ _ _ hf).has_iff
      · exact hall₂ r' f' hf'

theorem KeepsKnown.list {E : String → ViewFlags → Prop} {find : FlagFinder}
    (hfind : c.KeepsKnown E find) {l : List Schema} (hway : ∀ t ∈ l, c.OnWay path t)
    (f : ViewFlags) (s : Session) : Keeps (AllKnown E) (l.foldlM (addPart find path) f) s := by
  induction l generalizing f s with
  | nil => exact keeps_pure f
  | cons t l ih =>
    rw [List.foldlM_cons]
    refine Keeps.bind ?_ fun f' s' _ => ih (fun t ht => hway t (List.mem_cons_of_mem _ ht)) f' s'
    unfold addPart
    split
    · exact keeps_pure _
    · exact (hfind path t s (hway t List.mem_cons_self)).bind fun _ _ _ => keeps_pure _

theorem KeepsKnown.step {E : String → ViewFlags → Prop} {find : FlagFinder}
    (hfind : c.KeepsKnown E find) (hright : c.Right find) (hE : c.Lasting E) :
    c.KeepsKnown E (c.flagsStep find) := by
  intro path x s hway
  unfold flagsStep
  split
  · exact keeps_pure _
  · split
    · next r hr =>
      refine Keeps.bind ?_ fun _ _ _ => keeps_pure _
      exact hfind.reference hright hE (hway.refersTo hr) s
    · next hr => exact hfind.list (fun t ht => hway.tail (.part hr ht)) _ s

theorem flagsWithin_keepsKnown {E : String → ViewFlags → Prop} (hE : c.Lasting E) (fuel : Nat) :
    c.KeepsKnown E (c.flagsWithin fuel) := by
  induction fuel with
  | zero => exact fun _ _ _ _ => keeps_throw _
  | succ fuel ih => exact ih.step (c.flagsWithin_right fuel) hE

theorem flagsOf_keepsKnown {E : String → ViewFlags → Prop} (hE : c.Lasting E) (r : String)
    (s : Session) : Keeps (AllKnown E) (c.flagsOf r) s := by
  refine (flagsWithin_keepsKnown hE _).reference (c.flagsWithin_right _) hE (fun p hp => ?_) s
  exact absurd hp List.not_mem_nil

def Sound (c : Setting) (r : String) (f : ViewFlags) : Prop :=
  ∀ v, f.has v = true → c.ReachesBehind v r

def Exact (c : Setting) (r : String) (f : ViewFlags) : Prop :=
  ∀ v, f.has v = true ↔ c.ReachesBehind v r

theorem sound_lasting (c : Setting) : c.Lasting c.Sound := by
  intro path r t s f _ ht _ _ hknown hf v hv
  exact ⟨t, ht, ((hf v).1 hv).reaches fun r g hg => hknown r g hg v⟩

/-- Without loops a search meets no reference on its path but the last one. -/
theorem exact_lasting (h : c.Loopless) : c.Lasting c.Exact := by
  intro path r t s f hway ht hr hn hknown hf v
  constructor
  · intro hv
    exact ⟨t, ht, ((hf v).1 hv).reaches fun r g hg => (hknown r g hg v).1⟩
  · rintro ⟨t', ht', hv⟩
    cases ht.symm.trans ht'
    have hfind : c.Finds path s.flags v t := by
      refine hv.finds (fun r g hg => (hknown r g hg v).2) fun u p hu hp hm => ?_
      have he := h p r (hway p hm) ⟨t, u, ht, hu, hp⟩
      exact hr (he ▸ hm)
    exact (hf v).2 ((hfind.cut hn ht).elim id id)

/-- The session after a list of questions, whether they were answered or failed. -/
def asked (c : Setting) (questions : List String) (s : Session) : Session :=
  questions.foldl (fun s r => ((c.flagsOf r).outcome s).2) s

theorem allKnown_asked {E : String → ViewFlags → Prop} (hE : c.Lasting E)
    (questions : List String) {s : Session} (h : AllKnown E s) :
    AllKnown E (c.asked questions s) := by
  induction questions generalizing s with
  | nil => exact h
  | cons r questions ih => exact ih (flagsOf_keepsKnown hE r s h)

theorem FindsBehind.reachesBehind {r : String} (h : c.FindsBehind [] known v r)
    (hknown : ∀ r f, known.get? r = some f → f.has v = true → c.ReachesBehind v r) :
    c.ReachesBehind v r := by
  obtain ⟨-, ⟨f, hf, hv⟩ | ⟨-, t, ht, hv⟩⟩ := h
  · exact hknown r f hf hv
  · exact ⟨t, ht, hv.reaches hknown⟩

theorem ReachesBehind.findsBehind {r : String} (h : c.ReachesBehind v r)
    (hknown : ∀ r f, known.get? r = some f → c.ReachesBehind v r → f.has v = true) :
    c.FindsBehind [] known v r := by
  refine ⟨List.not_mem_nil, ?_⟩
  cases hk : known.get? r with
  | some f => exact .inl ⟨f, rfl, hknown r f hk h⟩
  | none =>
    obtain ⟨t, ht, hv⟩ := h
    exact .inr ⟨rfl, t, ht, hv.finds hknown fun _ _ _ _ => List.not_mem_nil⟩

/-- Whatever was asked before, an answer tells just what is found behind the reference without
entering a reference that is known. So it is never too much; it is exact just if all that is reached
is found that way; and it is exact for the first question, and for every question if no two
references lead to each other. -/
theorem flagsOf_exact_iff (c : Setting) (document : Document) (questions : List String)
    {r : String} {f : ViewFlags} {s' : Session}
    (h : (c.flagsOf r).Gives (c.asked questions (.start c document)) f s') :
    (∀ v, f.has v = true ↔
      c.FindsBehind [] (c.asked questions (.start c document)).flags v r) ∧
    (∀ v, f.has v = true → c.ReachesBehind v r) ∧
    (c.Exact r f ↔ ∀ v, c.ReachesBehind v r →
      c.FindsBehind [] (c.asked questions (.start c document)).flags v r) ∧
    (questions = [] ∨ c.Loopless → c.Exact r f) := by
  have hfinds := flagsOf_has_iff h
  have hnone (E) : AllKnown E (Session.start c document) := fun r f hf => by cases hf
  have hsound : ∀ v, f.has v = true → c.ReachesBehind v r := fun v hv =>
    ((hfinds v).1 hv).reachesBehind fun r g hg =>
      allKnown_asked c.sound_lasting questions (hnone _) r g hg v
  have hexact : c.Exact r f ↔ ∀ v, c.ReachesBehind v r →
      c.FindsBehind [] (c.asked questions (.start c document)).flags v r :=
    ⟨fun he v hv => (hfinds v).1 ((he v).2 hv),
      fun he v => ⟨hsound v, fun hv => (hfinds v).2 (he v hv)⟩⟩
  refine ⟨hfinds, hsound, hexact, ?_⟩
  rintro (rfl | hloop) <;> refine hexact.2 fun v hv => hv.findsBehind fun r' g hg => ?_
  · cases hg
  · exact (allKnown_asked (exact_lasting hloop) questions (hnone _) r' g hg v).2

/-- Folders have a parent entry and entries a folder; the number of a folder is read-only. -/
def folders : Setting := .ofDocument (.obj [("components", .obj [("schemas", .obj [
    ("Folder", .obj [("properties", .obj [
      ("entry", .obj [("$ref", .str "#/components/schemas/Entry")]),
      ("id", .obj [("type", .str "integer"), ("readOnly", .bool true)])])]),
    ("Entry", .obj [("properties", .obj [
      ("folder", .obj [("$ref", .str "#/components/schemas/Folder")])])])])])]) {} {}

theorem flagsOf_exact_iff_folders : ∃ f s',
    (folders.flagsOf "#/components/schemas/Entry").Gives
      (folders.asked ["#/components/schemas/Folder"] (.start folders {})) f s' ∧
    (∀ v, f.has v = true → folders.ReachesBehind v "#/components/schemas/Entry") ∧
    (folders.Exact "#/components/schemas/Entry" f ↔
      ∀ v, folders.ReachesBehind v "#/components/schemas/Entry" →
        folders.FindsBehind []
          (folders.asked ["#/components/schemas/Folder"] (.start folders {})).flags v
          "#/components/schemas/Entry") := by
  obtain ⟨f, s', h, -⟩ := exists_gives (r := folders.flagsOf "#/components/schemas/Entry")
    (s := folders.asked ["#/components/schemas/Folder"] (.start folders {}))
    (p := fun _ => true) (by decide +kernel)
  obtain ⟨-, hsound, hexact, -⟩ := flagsOf_exact_iff folders {} ["#/components/schemas/Folder"] h
  exact ⟨f, s', h, hsound, hexact⟩

/-- A read-only property is reached from an entry. The answer about the entry says so if it is the
first one, but not after a question about the folder. -/
theorem flagsOf_order_matters :
    folders.ReachesBehind .read "#/components/schemas/Entry" ∧
    (∃ f s', (folders.flagsOf "#/components/schemas/Entry").Gives (.start folders {}) f s' ∧
      f.has .read = true) ∧
    ∃ f s', (folders.flagsOf "#/components/schemas/Entry").Gives
      (folders.asked ["#/components/schemas/Folder"] (.start folders {})) f s' ∧
      f.has .read = false := by
  obtain ⟨f, s', h, hf⟩ := exists_gives (r := folders.flagsOf "#/components/schemas/Entry")
    (s := .start folders {}) (p := fun f => f.has .read) (by decide +kernel)
  obtain ⟨g, s'', h', hg⟩ := exists_gives (r := folders.flagsOf "#/components/schemas/Entry")
    (s := folders.asked ["#/components/schemas/Folder"] (.start folders {}))
    (p := fun f => !f.has .read) (by decide +kernel)
  refine ⟨?_, ⟨f, s', h, hf⟩, g, s'', h', by simpa using hg⟩
  exact ((flagsOf_has_iff h .read).1 hf).reachesBehind fun r g hg => by cases hg

end Setting

end ClientGen
