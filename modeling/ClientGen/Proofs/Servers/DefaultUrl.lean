import ClientGen.Proofs.Template.Replace
import ClientGen.Proofs.Template.Values

namespace ClientGen

open Template

namespace ServerVariable

variable {cs : List Char} {vars : Dict ServerVariable}

/-- The values of variables: their defaults, with the later variables filled in. -/
def settled : Dict ServerVariable → String → Option String
  | [] => fun _ => none
  | (name, v) :: later => refill (only name v.defaultText) (settled later)

/-- Braces stand only around names, in a URL and in the defaults of its variables. -/
structure Tidy (vars : Dict ServerVariable) (cs : List Char) : Prop where
  names : ∀ entry ∈ vars, '\x7d' ∉ entry.1.toList
  closed : ∀ entry ∈ vars, Closed entry.2.defaultText.toList
  plain : ∀ entry ∈ vars, Plain entry.1.toList cs
  plainDefaults : vars.Pairwise fun entry later =>
    Plain later.1.toList entry.2.defaultText.toList

/-- No default has the placeholder of a later variable. -/
def Apart (vars : Dict ServerVariable) : Prop :=
  vars.Pairwise fun entry later =>
    .placeholder later.1.toList ∉ scan entry.2.defaultText.toList

instance (vars : Dict ServerVariable) : Decidable (Apart vars) :=
  inferInstanceAs (Decidable (vars.Pairwise fun entry later =>
    .placeholder later.1.toList ∉ scan entry.2.defaultText.toList))

theorem of_only {name other text value : String} (h : only name value other = some text) :
    text = value := by
  rw [only] at h
  split at h
  · exact (Option.some.inj h).symm
  · cases h

theorem Tidy.tail {entry : String × ServerVariable} (h : Tidy (entry :: vars) cs) :
    Tidy vars (fill (only entry.1 entry.2.defaultText) cs) where
  names := fun later hlater => h.names later (List.mem_cons_of_mem _ hlater)
  closed := fun later hlater => h.closed later (List.mem_cons_of_mem _ hlater)
  plain := by
    intro later hlater
    apply (h.plain later (List.mem_cons_of_mem _ hlater)).fill
    intro other text htext
    rw [of_only htext]
    exact ⟨h.closed entry List.mem_cons_self,
      List.rel_of_pairwise_cons h.plainDefaults hlater⟩
  plainDefaults := h.plainDefaults.of_cons

/-- One variable after the other is put in as all at once with settled values. -/
theorem foldl_fillDefault (h : Tidy vars cs) :
    vars.foldl fillDefault cs = fill (settled vars) cs := by
  induction vars generalizing cs with
  | nil => exact (fill_eq_self fun _ _ => rfl).symm
  | cons entry later ih =>
    have hfirst : fillDefault cs entry = fill (only entry.1 entry.2.defaultText) cs :=
      replaceAll_eq_fill (h.names entry List.mem_cons_self) (h.plain entry List.mem_cons_self)
    have hclosed : ∀ other text, only entry.1 entry.2.defaultText other = some text →
        Closed text.toList :=
      fun other text htext => of_only htext ▸ h.closed entry List.mem_cons_self
    rw [List.foldl_cons, hfirst, ih h.tail, fill_fill hclosed, settled]

def defaultsOf (vars : Dict ServerVariable) (name : String) : Option String :=
  (vars.get? name).map ServerVariable.defaultText

theorem mem_of_settled {name text : String} (h : settled vars name = some text) :
    ∃ entry ∈ vars, entry.1 = name := by
  induction vars with
  | nil => cases h
  | cons entry later ih =>
    by_cases hname : name = entry.1
    · exact ⟨entry, List.mem_cons_self, hname.symm⟩
    · rw [settled, refill, only, if_neg hname] at h
      obtain ⟨e, he, rfl⟩ := ih h
      exact ⟨e, List.mem_cons_of_mem _ he, rfl⟩

theorem fill_settled_eq_self (h : ∀ entry ∈ vars, .placeholder entry.1.toList ∉ scan cs) :
    fill (settled vars) cs = cs := by
  apply fill_eq_self
  intro found hfound
  by_contra hvalue
  obtain ⟨text, htext⟩ := Option.ne_none_iff_exists'.1 hvalue
  obtain ⟨entry, hentry, hname⟩ := mem_of_settled htext
  apply h entry hentry
  rwa [hname, String.toList_ofList]

theorem settled_eq (h : Apart vars) : settled vars = defaultsOf vars := by
  induction vars with
  | nil => rfl
  | cons entry later ih =>
    funext name
    rw [settled, refill, only, defaultsOf, Dict.get?]
    by_cases hname : name = entry.1
    · have hsame : fill (settled later) entry.2.defaultText.toList = entry.2.defaultText.toList :=
        fill_settled_eq_self fun e he => List.rel_of_pairwise_cons h he
      rw [if_pos hname, if_pos hname.symm]
      simp [hsame]
    · rw [if_neg hname, if_neg (Ne.symm hname), ih h.of_cons]
      rfl

end ServerVariable

open ServerVariable

def Server.template (s : Server) : TypeScript.Expr :=
  match s.value with
  | .arrow _ body => body
  | e => e

theorem Server.value?_template {s : Server} {env : String → String}
    (h : ∀ name v, s.urlVariables.get? name = some v →
      env (variableArgument name) = v.defaultText) :
    s.template.value? env = some (fill (defaultsOf s.urlVariables) s.url.toList) := by
  rw [Server.template, Server.value]
  by_cases hvars : s.urlVariables.isEmpty
  · rw [if_pos hvars, List.isEmpty_iff.1 hvars, fill_eq_self fun _ _ => rfl]
    rfl
  · rw [if_neg hvars]
    apply value?_expr
    intro name
    rw [defaultsOf, Dict.has]
    cases hv : s.urlVariables.get? name with
    | none => rfl
    | some v => simp [TypeScript.Expr.value?, h name v hv]

/-- The template for a server comes, at the defaults, to the URL with all of them put in at once.
The default base URL is the URL with the settled values, and the same text if no default has the
placeholder of a later variable. -/
theorem defaultBaseUrl_template (s : Server) (others : List Server) :
    (∀ env, (∀ name v, s.urlVariables.get? name = some v →
        env (variableArgument name) = v.defaultText) →
      s.template.value? env = some (fill (defaultsOf s.urlVariables) s.url.toList)) ∧
    (Tidy s.urlVariables s.url.toList →
      (defaultBaseUrl (s :: others)).toList = fill (settled s.urlVariables) s.url.toList ∧
      (Apart s.urlVariables →
        (defaultBaseUrl (s :: others)).toList =
          fill (defaultsOf s.urlVariables) s.url.toList)) := by
  refine ⟨fun env henv => s.value?_template henv, fun htidy => ?_⟩
  have hsettled : (defaultBaseUrl (s :: others)).toList =
      fill (settled s.urlVariables) s.url.toList := by
    rw [defaultBaseUrl, Server.defaultUrl, String.toList_ofList, foldl_fillDefault htidy]
  exact ⟨hsettled, fun hapart => settled_eq hapart ▸ hsettled⟩

def regional (vars : Dict ServerVariable) : Server :=
  { url := "https://\x7bhost\x7d/v1", urlVariables := vars }

def regionVariable : String × ServerVariable := ("region", { default := .str "eu" })

def hostVariable : String × ServerVariable :=
  ("host", { default := .str "\x7bregion\x7d.example.com" })

def regionalArguments (name : String) : String :=
  if name = "host" then "\x7bregion\x7d.example.com" else "eu"

theorem defaultBaseUrl_template_regional :
    Tidy [regionVariable, hostVariable] (regional []).url.toList ∧
    Apart [regionVariable, hostVariable] ∧
    (regional [regionVariable, hostVariable]).template.value? regionalArguments =
      some "https://\x7bregion\x7d.example.com/v1".toList ∧
    (defaultBaseUrl [regional [regionVariable, hostVariable]]).toList =
      "https://\x7bregion\x7d.example.com/v1".toList := by
  have htidy : Tidy [regionVariable, hostVariable] (regional []).url.toList :=
    ⟨by decide +kernel, by decide +kernel, by decide +kernel, by decide +kernel⟩
  have hapart : Apart [regionVariable, hostVariable] := by decide +kernel
  have harguments : ∀ name v, Dict.get? [regionVariable, hostVariable] name = some v →
      regionalArguments (variableArgument name) = v.defaultText := by
    intro name v hv
    have hentry := Dict.mem_of_get? hv
    rw [List.mem_cons, List.mem_singleton] at hentry
    rcases hentry with h | h
    · cases h
      decide +kernel
    · cases h
      decide +kernel
  have htext : fill (defaultsOf [regionVariable, hostVariable]) (regional []).url.toList =
      "https://\x7bregion\x7d.example.com/v1".toList := by decide +kernel
  have h := defaultBaseUrl_template (regional [regionVariable, hostVariable]) []
  exact ⟨htidy, hapart, (h.1 _ harguments).trans (congrArg some htext),
    ((h.2 htidy).2 hapart).trans htext⟩

/-- A default that has the placeholder of a later variable is filled, in the base URL only. -/
theorem defaultBaseUrl_fills_default :
    defaultBaseUrl [regional [hostVariable, regionVariable]] = "https://eu.example.com/v1" ∧
    (regional [hostVariable, regionVariable]).template.value? regionalArguments =
      some "https://\x7bregion\x7d.example.com/v1".toList := by
  decide +kernel

end ClientGen
