import ClientGen.Proofs.Run.Settles
import ClientGen.Proofs.Schema.Inside
import ClientGen.ViewFlags
import Mathlib.Data.Finset.Card
import Mathlib.Tactic.Linarith

namespace ClientGen

open Run

namespace Schema

theorem parts_subset_inside (x : Schema) : x.parts ⊆ x.inside := by
  intro t ht
  rw [mem_inside, mem_objectParts]
  unfold parts at ht
  split at ht
  · next items hitems =>
    rw [List.mem_singleton.1 ht]
    exact .inr (.inl hitems)
  · simp only [List.mem_append, List.mem_map] at ht
    rcases ht with ((⟨⟨name, t⟩, ht, rfl⟩ | ht) | ht) | ht
    · exact .inl (.inl ⟨name, ht, nofun⟩)
    all_goals tauto

end Schema

namespace Setting

variable {c : Setting} {refs : List String} {n h fuel : Nat} {path : List String} {x : Schema}
  {r : String} {s : Session}

/-- The schemas that references lead to are nested less than `n` deep and mention no other
references than the listed ones. -/
structure Bounded (c : Setting) (refs : List String) (n : Nat) : Prop where
  nested : ∀ {r y}, c.schema r = .ok y → y.Nested n
  mentions : ∀ {r y}, c.schema r = .ok y → ∀ q, y.Mentions q → q ∈ refs

theorem schema_ne_endless : c.schema r ≠ .error .endless := by
  intro he
  unfold schema Reference.resolve Reference.lookup Reference.segments at he
  grind

def notEntered (refs path : List String) : Finset String := refs.toFinset \ path.toFinset

theorem card_notEntered_cons (hr : r ∈ refs) (hpath : r ∉ path) :
    (notEntered refs (r :: path)).card < (notEntered refs path).card := by
  apply Finset.card_lt_card
  refine Finset.ssubset_iff_of_subset ?_ |>.2 ⟨r, ?_, ?_⟩
  · intro q hq
    simp only [notEntered, Finset.mem_sdiff, List.mem_toFinset, List.mem_cons, not_or] at hq ⊢
    exact ⟨hq.1, hq.2.2⟩
  · simp [notEntered, hr, hpath]
  · simp [notEntered]

/-- Within `fuel` the search comes to an end, from whatever session. -/
def FlagsEnd (c : Setting) (fuel : Nat) (path : List String) (x : Schema) : Prop :=
  ∀ s, (c.flagsWithin fuel path x).Ends s

theorem referenceFlags_ends
    (hfind : r ∉ path → ∀ y, c.schema r = .ok y → c.FlagsEnd fuel (r :: path) y) :
    (c.referenceFlags (c.flagsWithin fuel) path r).Ends s := by
  unfold referenceFlags
  split
  · exact ends_pure _
  · next hpath =>
    refine ends_get.bind fun _ _ _ => ?_
    split
    · exact ends_pure _
    · refine (ends_lift schema_ne_endless).bind fun y s' hy => ?_
      have hends : (c.flagsWithin fuel (r :: path) y).Ends s' :=
        hfind (by simpa using hpath) y (gives_lift.1 hy).1 s'
      exact hends.bind fun f _ _ => (ends_modify _).bind fun _ _ _ => ends_pure f

theorem addParts_ends {l : List Schema} (hfind : ∀ t ∈ l, c.FlagsEnd fuel path t) (f : ViewFlags) :
    Ends (l.foldlM (addPart (c.flagsWithin fuel) path) f) s := by
  induction l generalizing s f with
  | nil => exact ends_pure f
  | cons t l ih =>
    rw [List.foldlM_cons]
    refine Ends.bind ?_ fun f' _ _ => ih (fun t ht => hfind t (List.mem_cons_of_mem _ ht)) f'
    unfold addPart
    split
    · exact ends_pure _
    · exact (hfind t List.mem_cons_self s).bind fun _ _ _ => ends_pure _

theorem flagsWithin_ends (hc : c.Bounded refs n) (hx : x.Nested h)
    (hrefs : ∀ r, x.Mentions r → r ∈ refs)
    (hfuel : (notEntered refs path).card * n + h ≤ fuel) : c.FlagsEnd fuel path x := by
  -- On the fuel: to go inside costs nesting, and to follow a reference costs the reference, which
  -- brings along a schema nested `n` deep.
  induction fuel generalizing path x h with
  | zero =>
    have := hx.pos
    omega
  | succ fuel ih =>
    intro s
    have hpos := hx.pos
    rw [flagsWithin, flagsStep]
    split
    · exact ends_pure _
    · split
      · next r hr =>
        refine Ends.bind (referenceFlags_ends fun hpath y hy => ?_) fun _ _ _ => ends_pure _
        apply ih (hc.nested hy) (hc.mentions hy)
        have hcard := card_notEntered_cons (hrefs r (.reference hr)) hpath
        calc (notEntered refs (r :: path)).card * n + n
            = ((notEntered refs (r :: path)).card + 1) * n := by rw [Nat.succ_mul]
          _ ≤ (notEntered refs path).card * n := Nat.mul_le_mul_right n hcard
          _ ≤ fuel := by omega
      · refine addParts_ends (fun t ht => ?_) _
        have hin := x.parts_subset_inside ht
        exact ih (hx.inside hin) (fun r hr => hrefs r (.inside hin hr)) (by omega)

/-- The flags of a reference are found or fail to be, if the setting knows how much there is to
look through. -/
theorem flagsOf_ends (hc : c.Bounded refs n) (hn : n ≤ c.size) (hrefs : refs.length ≤ c.size) :
    (c.flagsOf r).Ends s := by
  refine referenceFlags_ends fun _ y hy => ?_
  apply flagsWithin_ends hc (hc.nested hy) (hc.mentions hy)
  have hcard : (notEntered refs [r]).card ≤ c.size :=
    calc (notEntered refs [r]).card ≤ refs.toFinset.card := Finset.card_le_card Finset.sdiff_subset
      _ ≤ refs.length := refs.toFinset_card_le
      _ ≤ c.size := hrefs
  calc (notEntered refs [r]).card * n + n
      ≤ c.size * c.size + c.size := Nat.add_le_add (Nat.mul_le_mul hcard hn) hn
    _ ≤ (c.size + 2) ^ 2 := by nlinarith

end Setting

end ClientGen
