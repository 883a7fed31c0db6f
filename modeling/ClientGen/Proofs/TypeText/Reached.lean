import ClientGen.Proofs.TypeText.NameWords
import ClientGen.Proofs.Typing.Growth

namespace ClientGen

open Run TypeScript
open TypeScript.Reader (IsWord)

namespace Session

/-- The sessions in which schemas get their types, whichever documents they are of: from empty
tables on, schemas get their types, enums are named, references take their names, and the types of
their views are declared. -/
inductive Reached : Session → Prop where
  | start : Reached {}
  | aside {s : Session} (functions : FunctionNames) (events : List Event) (h : Reached s) :
      Reached { s with functions, events }
  | typing {c : Setting} {fuel : Nat} {place : Place} {x : Schema} {s s' : Session} {t : TypeExpr}
      (h : Reached s) (hfuel : fuel ≤ c.depth)
      (gives : (c.typingWithin fuel place x).Gives s t s') : Reached s'
  | enum {x : Schema} {name : String} {s s' : Session} {t : TypeExpr} (h : Reached s)
      (gives : (NamedEnum.declare x name).Gives s t s') : Reached s'
  | names {c : Setting} {r : String} {s s' : Session} {names : ViewNames} (h : Reached s)
      (hr : s.references.get? r = none)
      (gives : (c.takeNames r (Reference.stableName r)).Gives s names s') : Reached s'
  | declared {s : Session} (d : TypeDecl) (h : Reached s) :
      Reached { s with types := s.types ++ [d] }

/-- What holds of all names that enums and views of references may take. -/
structure HoldsOfTaken (P : String → Prop) : Prop where
  binary : P "Blob"
  ofText : ∀ raw upperFirst view, P (Identifier.ofText raw upperFirst view)
  typeName : ∀ raw, P (NamedEnum.typeName raw)
  unique : ∀ {n}, P n → ∀ t : AliasNames, P (t.unique n).1

/-- It holds of all names that may stand in types. -/
def NamesAre (P : String → Prop) (s : Session) : Prop := ∀ n, Setting.Nameable s n → P n

variable {P : String → Prop} {s s' : Session}

namespace NamesAre

theorem of_eq (h : s.NamesAre P) (hr : s'.references = s.references)
    (he : s'.enumNames = s.enumNames) : s'.NamesAre P := by
  intro n hn
  cases hn with
  | binary => exact h _ .binary
  | registered hl => exact h _ (.registered (hr ▸ hl))
  | enum hl => exact h _ (.enum (he ▸ hl))

theorem start (hP : HoldsOfTaken P) : NamesAre P {} := by
  intro n hn
  cases hn with
  | binary => exact hP.binary
  | registered hl => cases hl
  | enum hl => cases hl

theorem takeNames {c : Setting} {r name : String} {names : ViewNames} (hP : HoldsOfTaken P)
    (h : s.NamesAre P) (hr : s.references.get? r = none)
    (gives : (c.takeNames r name).Gives s names s') : s'.NamesAre P := by
  obtain ⟨⟨_, _, _, rfl⟩, htaken⟩ := Setting.takeNames_gives gives
  intro n hn
  cases hn with
  | binary => exact h _ .binary
  | @registered l hl =>
    simp only [Dict.put_of_get?_eq_none names hr, Setting.labels_append] at hl
    rcases List.mem_append.1 hl with hl | hl
    · exact h _ (.registered hl)
    · simp only [Dict.labels, List.flatMap_singleton, List.mem_map, ViewNames.views,
        List.mem_filterMap, Option.map_eq_some_iff] at hl
      obtain ⟨v, ⟨view, -, n, hn, rfl⟩, rfl⟩ := hl
      obtain ⟨taken, rfl⟩ := htaken view n hn
      exact hP.unique (hP.ofText _ _ _) taken
  | enum hl => exact h _ (.enum hl)

theorem enum {x : Schema} {name : String} {t : TypeExpr} (hP : HoldsOfTaken P)
    (h : s.NamesAre P) (gives : (NamedEnum.declare x name).Gives s t s') : s'.NamesAre P := by
  obtain ⟨n, rfl, -, -, rfl | hadd⟩ := NamedEnum.declare_gives gives
  · exact h
  · obtain ⟨_, _, _, _, _, hs'⟩ := hadd.only
    intro m hm
    cases hm with
    | binary => exact h _ .binary
    | registered hl =>
      rw [hs'] at hl
      exact h _ (.registered hl)
    | enum hl =>
      rw [hadd.lookup] at hl
      split at hl
      · cases hl
        rw [hadd.taken]
        exact hP.unique (hP.typeName _) _
      · exact h _ (.enum hl)

end NamesAre

theorem isWord_holdsOfTaken : HoldsOfTaken IsWord where
  binary := by decide
  ofText := isWord_ofText
  typeName := NamedEnum.isWord_typeName
  unique := isWord_unique

/-- All names that may stand in types are words. -/
def Worded (s : Session) : Prop := ∀ n, Setting.Nameable s n → IsWord n

theorem Worded.of_eq (h : s.Worded) (hr : s'.references = s.references)
    (he : s'.enumNames = s.enumNames) : s'.Worded :=
  NamesAre.of_eq h hr he

theorem worded_start : Worded {} := NamesAre.start isWord_holdsOfTaken

theorem Worded.takeNames {c : Setting} {r name : String} {names : ViewNames} (h : s.Worded)
    (hr : s.references.get? r = none) (gives : (c.takeNames r name).Gives s names s') :
    s'.Worded :=
  NamesAre.takeNames isWord_holdsOfTaken h hr gives

theorem Worded.enum {x : Schema} {name : String} {t : TypeExpr} (h : s.Worded)
    (gives : (NamedEnum.declare x name).Gives s t s') : s'.Worded :=
  NamesAre.enum isWord_holdsOfTaken h gives

end Session

namespace Setting

def worded (c : Setting) : RunLaw c where
  Step s s' := s.Worded → s'.Worded
  Named _ _ := True
  refl _ h := h
  trans h h' hs := h' (h hs)
  keep _ h := h
  aside _ _ _ h := h.of_eq rfl rfl
  binary _ := trivial
  known _ _ := trivial
  enum h := ⟨fun hs => hs.enum h, fun _ _ => trivial⟩
  enter hr _ _ hnames h := by
    have hviews := h.step (fun _ hs => hs) (fun h h' hs => h' (h hs)) fun _ _ hs =>
      hs.of_eq rfl rfl
    exact ⟨fun hs => hviews (hs.takeNames hr hnames), fun _ => trivial⟩

end Setting

namespace Session

/-- What holds of a session at the start, and stays where an enum is declared, where a reference
takes its names, and where functions, types and events are added. -/
structure Invariant (P : Session → Prop) : Prop where
  start : P {}
  aside : ∀ {s} functions types events, P s → P { s with functions, types, events }
  enum : ∀ {x name s t s'}, P s → (NamedEnum.declare x name).Gives s t s' → P s'
  names : ∀ {c : Setting} {r name s names s'}, P s → s.references.get? r = none →
    (c.takeNames r name).Gives s names s' → P s'

variable {P : Session → Prop} {s : Session}

def Invariant.law (h : Invariant P) (c : Setting) : Setting.RunLaw c where
  Step s s' := P s → P s'
  Named _ _ := True
  refl _ hs := hs
  trans h h' hs := h' (h hs)
  keep _ hn := hn
  aside s functions events hs := h.aside functions s.types events hs
  binary _ := trivial
  known _ _ := trivial
  enum gives := ⟨fun hs => h.enum hs gives, fun _ _ => trivial⟩
  enter hr _ _ hnames hwritten := by
    have hviews := hwritten.step (fun _ hs => hs) (fun h h' hs => h' (h hs)) fun s d hs =>
      h.aside s.functions (s.types ++ [d]) s.events hs
    exact ⟨fun hs => hviews (h.names hs hr hnames), fun _ => trivial⟩

theorem Reached.holds (hs : s.Reached) (h : Invariant P) : P s := by
  induction hs with
  | start => exact h.start
  | @aside s functions events _ ih => exact h.aside functions s.types events ih
  | @typing c _ _ _ _ _ _ _ hfuel gives ih =>
    exact ((h.law c).obeys_typingWithin hfuel _ _ _ _ _ gives).1 ih
  | enum _ gives ih => exact h.enum ih gives
  | names _ hr gives ih => exact h.names ih hr gives
  | @declared s d _ ih => exact h.aside s.functions (s.types ++ [d]) s.events ih

theorem invariant_namesAre {Q : String → Prop} (hQ : HoldsOfTaken Q) : Invariant (NamesAre Q) where
  start := .start hQ
  aside _ _ _ h := h.of_eq rfl rfl
  enum h gives := h.enum hQ gives
  names h hr gives := h.takeNames hQ hr gives

/-- In every session that is reached all names are words. -/
theorem Reached.worded (h : s.Reached) : s.Worded :=
  h.holds (invariant_namesAre isWord_holdsOfTaken)

end Session

end ClientGen
