import ClientGen.Client
import ClientGen.Proofs.TypeText.Lexing
import ClientGen.SupportCode
import Mathlib.Data.List.TakeWhile

namespace ClientGen

variable {c : Char} {cs : List Char}

namespace Text

theorem mem_dropWhile {p : Char → Bool} (hc : c ∈ cs) (hp : p c = false) : c ∈ cs.dropWhile p := by
  have hsplit : c ∈ cs.takeWhile p ++ cs.dropWhile p := by rwa [List.takeWhile_append_dropWhile]
  rcases List.mem_append.1 hsplit with htaken | hleft
  · rw [List.mem_takeWhile_imp htaken] at hp
    cases hp
  · exact hleft

theorem mem_trimEnd (hc : c ∈ cs) (hblank : isBlank c = false) : c ∈ trimEnd cs := by
  unfold trimEnd
  rw [List.mem_reverse]
  exact mem_dropWhile (List.mem_reverse.2 hc) hblank

end Text

namespace TypeScript

theorem Doc.mem_guarded (hc : c ∈ cs) : c ∈ Doc.guarded cs := by
  fun_induction Doc.guarded cs with
  | case1 => exact hc
  | case2 rest ih =>
    simp only [List.mem_cons] at hc ⊢
    rcases hc with rfl | rfl | hrest
    · exact .inl rfl
    · exact .inr (.inr (.inl rfl))
    · exact .inr (.inr (.inr (ih hrest)))
  | case3 first rest _ ih =>
    rcases List.mem_cons.1 hc with rfl | hrest
    · exact List.mem_cons_self
    · exact List.mem_cons_of_mem _ (ih hrest)

theorem Doc.mem_lineText {level : Nat} {line : String} (hc : c ∈ line.toList) :
    c ∈ (Doc.lineText level line).toList := by
  have hsome : line.isEmpty = false := by
    rw [Bool.eq_false_iff]
    intro hempty
    rw [String.isEmpty_iff.1 hempty] at hc
    cases hc
  unfold Doc.lineText
  rw [hsome, if_neg Bool.false_ne_true]
  simp only [String.toList_append, String.toList_ofList, List.mem_append]
  exact .inl (.inr (mem_guarded hc))

theorem mem_join {texts : List String} {s : String} (hs : s ∈ texts) (hc : c ∈ s.toList) :
    c ∈ (String.join texts).toList := by
  rw [String.toList_join]
  exact List.mem_flatMap.2 ⟨s, hs, hc⟩

theorem Doc.mem_text {d : Doc} {line : String} (hline : line ∈ d.lines) (hc : c ∈ line.toList)
    (level : Nat) : c ∈ (d.text level).toList := by
  unfold Doc.text
  simp only [String.toList_append, List.mem_append]
  exact .inl (.inl (.inr (mem_join (List.mem_map_of_mem hline) (mem_lineText hc))))

theorem Module.mem_text {m : Module} (hc : c ∈ (m.header.text 0).toList)
    (hblank : Text.isBlank c = false) : c ∈ m.text.toList := by
  unfold Module.text
  simp only [String.toList_append, String.toList_ofList, List.mem_append]
  refine .inl (Text.mem_trimEnd ?_ hblank)
  simp only [List.mem_append]
  exact .inl (.inl (.inl (.inl hc)))

end TypeScript

namespace Client

theorem mem_header (info : Info) : 'Y' ∈ ((header info).text 0).toList :=
  TypeScript.Doc.mem_text (List.mem_append_right _ (List.mem_singleton_self _)) (by decide) 0

theorem header_toModule {client : Client} {document : Document} {o : Options}
    {m : TypeScript.Module} (h : client.toModule document o = .ok m) :
    m.header = header document.info := by
  unfold toModule at h
  cases hconstants : setBaseUrl (defaultBaseUrl document.servers)
      (moduleConstants document.servers) with
  | error failure =>
    rw [hconstants] at h
    cases h
  | ok constants =>
    rw [hconstants] at h
    cases h
    rfl

end Client

/-- A module that is generated has the notice at its head. -/
theorem mem_of_generate {source text : String} {o : Options}
    (h : (generate source o).1 = .ok text) : 'Y' ∈ text.toList := by
  unfold generate at h
  split at h
  · cases h
  · unfold generateTree at h
    split at h
    · cases h
    · next document _ =>
      dsimp only at h
      cases hclient : (Client.ofDocument _ document o).1 with
      | error failure =>
        rw [hclient] at h
        cases h
      | ok client =>
        rw [hclient] at h
        change (client.toModule document o).map TypeScript.Module.text = .ok text at h
        cases hm : client.toModule document o with
        | error failure =>
          rw [hm] at h
          cases h
        | ok m =>
          rw [hm] at h
          have hhead : 'Y' ∈ (m.header.text 0).toList := by
            rw [Client.header_toModule hm]
            exact Client.mem_header document.info
          rw [← Except.ok.inj h]
          exact TypeScript.Module.mem_text hhead (by decide)

theorem ne_empty_of_generate {source text : String} {o : Options}
    (h : (generate source o).1 = .ok text) : text ≠ "" := by
  rintro rfl
  cases mem_of_generate h

namespace SupportCode

def Lacks (c : Char) (lines : List String) : Prop := ∀ line ∈ lines, c ∉ line.toList

theorem Lacks.nil (c : Char) : Lacks c [] := nofun

theorem Lacks.cons {lines : List String} (h : c ∉ cs) (hlines : Lacks c lines) :
    Lacks c (String.ofList cs :: lines) := by
  apply List.forall_mem_cons.2 ⟨?_, hlines⟩
  rwa [String.toList_ofList]

theorem Lacks.not_mem {lines : List String} (h : Lacks c lines) (hc : c ≠ '\n') :
    c ∉ (ofLines lines).toList := by
  intro hmem
  rw [ofLines, String.toList_join, List.mem_flatMap] at hmem
  obtain ⟨_, hl, hmem⟩ := hmem
  obtain ⟨line, hline, rfl⟩ := List.mem_map.1 hl
  rw [String.toList_append, List.mem_append] at hmem
  rcases hmem with hm | hm
  · exact h line hline hm
  · exact hc (by simpa using hm)

theorem not_mem_requests : 'Y' ∉ requests.toList := by
  apply Lacks.not_mem _ (by decide)
  repeat apply Lacks.cons (by decide +kernel)
  exact .nil 'Y'

theorem not_mem_queries : 'Y' ∉ queries.toList := by
  apply Lacks.not_mem _ (by decide)
  repeat apply Lacks.cons (by decide +kernel)
  exact .nil 'Y'

theorem ne_of_generate {source text : String} {o : Options}
    (h : (generate source o).1 = .ok text) {file : String × String} (hfile : file ∈ files) :
    file.2 ≠ text := by
  rintro rfl
  have hmem := mem_of_generate h
  simp only [files, List.mem_cons, List.not_mem_nil, or_false] at hfile
  rcases hfile with rfl | rfl
  · exact not_mem_requests hmem
  · exact not_mem_queries hmem

end SupportCode

end ClientGen
