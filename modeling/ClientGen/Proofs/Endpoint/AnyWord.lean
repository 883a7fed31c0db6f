import ClientGen.Proofs.Endpoint.Mirrors

namespace ClientGen

open Run TypeScript

namespace Setting

/-- Of a setting and one that says `unknown` where this one says `any`, all events are the same. -/
def Mirror.sayingUnknown (tree : Json) (document : Document) (options : Options) :
    Mirror (ofDocument tree document { options with useUnknown := false })
      (ofDocument tree document { options with useUnknown := true }) :=
  .ofOptions .unknown (fun _ => true) (.inr rfl) rfl rfl rfl rfl

end Setting

/-- Saying `unknown` instead of `any` for what nothing is known of does nothing else. The runs for
a document fail alike, or the client of the one is that of the other with `unknown` in the place of
each `any` in its functions and its type aliases. -/
theorem Client.ofDocument_useUnknown (tree : Json) (document : Document) (options : Options) :
    Client.ofDocument tree document { options with useUnknown := true } =
      let run := Client.ofDocument tree document { options with useUnknown := false }
      (run.1.map (Client.withAny .unknown), run.2.withAny .unknown) := by
  let M := Setting.Mirror.sayingUnknown tree document options
  have hpaths := M.mirrored_paths document (fun _ _ _ _ => trivial) rfl
  have hbuild := Setting.Mirror.mirrored_build hpaths rfl fun _ => ⟨rfl, fun _ => trivial⟩
  have hstart : M.Like (Session.start _ document) (Session.start _ document) :=
    ⟨Session.merged_start, _, rfl, rfl⟩
  rcases hbuild _ _ hstart with ⟨e, he, -⟩ | ⟨hvalue, hlike⟩
  · cases he
  · exact Prod.ext hvalue (hlike.eq fun _ => rfl)

end ClientGen
