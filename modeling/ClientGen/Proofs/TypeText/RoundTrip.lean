import ClientGen.Proofs.TypeText.KeepsGrouping
import ClientGen.Proofs.TypeText.Reached
import ClientGen.Proofs.Typing.Closed

namespace ClientGen

open Run TypeScript
open TypeScript.Reader (IsWord)

/-- The text of a type is read as its shape just if it keeps the grouping. -/
theorem TypeScript.TypeExpr.read_text_iff (t : TypeExpr) (h : ∀ n ∈ t.names, IsWord n)
    (level : Nat) : Reader.read (t.text level) = some t.shape ↔ t.keepsGrouping = true := by
  rw [(t.text_spells h level).read, t.shape_eq, Option.some_inj, TypeExpr.ofRows_printed_iff,
    t.rows_printed_iff]

/-- The text of a type that a schema gets is read as its shape just if it keeps the grouping. -/
theorem Setting.read_typing_iff {c : Setting} {fuel : Nat} {place : Place} {x : Schema}
    {s s' : Session} {t : TypeExpr} (hs : s.Reached) (hfuel : fuel ≤ c.depth)
    (h : (c.typingWithin fuel place x).Gives s t s') (level : Nat) :
    Reader.read (t.text level) = some t.shape ↔ t.keepsGrouping = true := by
  have hnames := (c.growth.obeys_typingWithin hfuel _ _ _ _ _ h).2
  have hwords := (hs.typing hfuel h).worded
  exact t.read_text_iff (fun n hn => hwords n (hnames n hn)) level

namespace Setting

def sizedItems : Schema := {
  types := some (.single "array")
  items := some {
    nullable := some true
    oneOf := some [.ofType "string", {
      allOf := some [
        { oneOf := some [.ofType "string", .ofType "integer"] },
        { properties := some [("size", .ofType "integer")] }] }] } }

def bare : Setting := { document := .obj [], size := 1 }

theorem read_typing_iff_sizedItems : ∃ t s', (bare.typing {} sizedItems).Gives {} t s' ∧
    t.text 0 = "(string | (string | number) & \x7b\n  size?: number;\n\x7d | null)[]" ∧
    t.keepsGrouping = true ∧ Reader.read (t.text 0) = some t.shape := by
  have htyped : (bare.typing {} sizedItems).succeeds (fun t => t.keepsGrouping &&
      t.text 0 = "(string | (string | number) & \x7b\n  size?: number;\n\x7d | null)[]") {}
      = true := by
    decide +kernel
  obtain ⟨t, s', ht, h⟩ := exists_gives htyped
  obtain ⟨hkeeps, htext⟩ := Bool.and_eq_true_iff.1 h
  exact ⟨t, s', ht, of_decide_eq_true htext, hkeeps,
    (read_typing_iff .start (Nat.le_refl _) ht 0).2 hkeeps⟩

def branchItems : Schema := {
  types := some (.single "array")
  items := some {
    allOf := some [{ oneOf := some [.ofType "string", .ofType "integer"] }] } }

/-- The branch is not in parentheses, so only a number is read as the item of a list. -/
theorem read_typing_branchItems : ∃ t s', (bare.typing {} branchItems).Gives {} t s' ∧
    t.text 0 = "string | number[]" ∧
    Reader.read (t.text 0) = some (.union [.word "string", .array (.word "number")]) ∧
    t.shape = .array (.union [.word "string", .word "number"]) ∧
    Reader.read (t.text 0) ≠ some t.shape := by
  have hgives : (bare.typing {} branchItems).Gives {}
      (.array (.intersection [.union [.keyword .string, .keyword .number]])) {} := by
    rfl
  have htext : TypeExpr.text 0 (.array (.intersection [.union [.keyword .string,
      .keyword .number]])) = "string | number[]" := by
    rfl
  have hread : Reader.read "string | number[]" =
      some (.union [.word "string", .array (.word "number")]) := by
    rfl
  refine ⟨_, _, hgives, htext, by rw [htext, hread], rfl, ?_⟩
  rw [htext, hread]
  exact nofun

end Setting

/-- The text of every type of a client is read as its shape just if it keeps the grouping. -/
theorem Client.read_types_iff {tree : Json} {document : Document} {options : Options}
    {client : Client} {s : Session} (h : ofDocument tree document options = (.ok client, s))
    {t : TypeExpr} (ht : (∃ d ∈ client.types, d.body = .alias t) ∨
      ∃ e ∈ client.endpoints, t ∈ e.types) (level : Nat) :
    Reader.read (t.text level) = some t.shape ↔ t.keepsGrouping = true := by
  obtain ⟨-, -, -, hfits⟩ := (Setting.growth _).build h
  have hstart : (Session.start (Setting.ofDocument tree document options) document).Worded :=
    Session.worded_start.of_eq rfl rfl
  have hwords : s.Worded := ((Setting.worded _).build h).1 hstart
  refine t.read_text_iff (fun n hn => hwords n ?_) level
  rcases ht with ⟨d, hd, hbody⟩ | ⟨e, he, ht⟩
  · obtain ⟨aliases, htypes, -, hall⟩ := exists_aliases h
    rw [htypes] at hd
    obtain ⟨a, ha, rfl⟩ := List.mem_map.1 hd
    cases hbody
    exact (hall a ha).2 n hn
  · exact hfits e he t ht n hn

end ClientGen
