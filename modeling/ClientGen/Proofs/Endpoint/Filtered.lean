import ClientGen.Proofs.Endpoint.Mirrors

namespace ClientGen

open Run TypeScript

def Options.unfiltered (o : Options) : Options := { o with includeTags := [], excludeTags := [] }

/-- The path without the operations that the options leave out. -/
def PathItem.kept (o : Options) (item : PathItem) : PathItem :=
  let kept (op : Option Operation) := op.filter fun op => o.keeps op.tags
  { item with
    get := kept item.get
    put := kept item.put
    post := kept item.post
    delete := kept item.delete
    options := kept item.options
    head := kept item.head
    patch := kept item.patch
    trace := kept item.trace }

/-- The document without the operations that the options leave out. Its paths stay. -/
def Document.kept (o : Options) (d : Document) : Document :=
  { d with paths := d.paths.map fun entry => (entry.1, entry.2.kept o) }

def Event.leavesOut : Event → Bool
  | .skipped .. => true
  | _ => false

theorem Options.keeps_unfiltered (o : Options) (tags : List String) :
    o.unfiltered.keeps tags = true := by
  have hnone : tags.any (List.contains []) = false := List.any_eq_false.2 fun _ _ => by simp
  rw [keeps, unfiltered]
  simp [hnone]

theorem PathItem.operation?_kept (o : Options) (item : PathItem) (method : Method) :
    (item.kept o).operation? method =
      (item.operation? method).filter fun op => o.keeps op.tags := by
  cases method <;> rfl

theorem PathItem.operations_kept (o : Options) (item : PathItem) :
    (item.kept o).operations = item.operations.filter fun e => o.keeps e.2.tags := by
  unfold operations
  rw [List.filter_filterMap]
  refine List.filterMap_congr fun method _ => ?_
  rw [operation?_kept, Option.filter_map]
  rfl

theorem Run.mapM_filterMap_cons {α β : Type} (k : α → Run (Option β)) (a : α) (l : List α) :
    ((a :: l).mapM k >>= fun bs => pure (bs.filterMap id)) = k a >>= fun b =>
      (l.mapM k >>= fun bs => pure (bs.filterMap id)) >>= fun bs => pure (b.toList ++ bs) := by
  rw [List.mapM_cons, bind_assoc]
  congr 1
  funext b
  rw [bind_assoc, bind_assoc]
  cases b <;> rfl

namespace Setting

variable {c c' : Setting} {M : Mirror c c'} {path : String} {item : PathItem}

namespace Mirror

/-- An operation that is left out leaves nothing but its event. -/
theorem skip_keptEndpoint {operation : Method × Operation}
    (hseen : ∀ e, M.Seen e = !e.leavesOut) (hop : c.options.keeps operation.2.tags = false)
    {s s' : Session} (hs : M.Like s s') :
    ∃ t, (c.keptEndpoint path item operation).Gives s none t ∧ M.Like t s' := by
  obtain ⟨hmerged, events, rfl, he⟩ := hs
  let e := Event.skipped path operation.1 operation.2.tags
  refine ⟨{ s with events := s.events ++ [e] }, ?_, hmerged, events, rfl, ?_⟩
  · unfold keptEndpoint
    dsimp only
    rw [if_neg (by rw [hop]; exact Bool.false_ne_true)]
    rfl
  · have hunseen : [e].filter M.Seen = [] := List.filter_eq_nil_iff.2 fun e' he' => by
      rw [List.mem_singleton.1 he', hseen]
      exact Bool.false_ne_true
    rw [List.filter_append, hunseen, List.append_nil, he]

theorem mirrored_keptEndpoint {operation : Method × Operation}
    (hkeeps : ∀ tags, c'.options.keeps tags = true) (hop : c.options.keeps operation.2.tags = true)
    (hitem : M.CoversItem item) (hcovers : M.CoversOperation operation.2) :
    M.Mirrored (Option.map (Endpoint.withAny M.word)) (c.keptEndpoint path item operation)
      (c'.keptEndpoint path (item.kept c.options) operation) := by
  unfold keptEndpoint
  dsimp only
  rw [if_pos hop, if_pos (hkeeps _)]
  exact (mirrored_endpointOf path operation.1 hitem hcovers).map fun _ => rfl

theorem mirrored_kept (hseen : ∀ e, M.Seen e = !e.leavesOut)
    (hkeeps : ∀ tags, c'.options.keeps tags = true) (hitem : M.CoversItem item)
    {operations : List (Method × Operation)}
    (hoperations : ∀ e ∈ operations, M.CoversOperation e.2) :
    M.Mirrored (List.map (Endpoint.withAny M.word))
      (operations.mapM (c.keptEndpoint path item) >>= fun found => pure (found.filterMap id))
      ((operations.filter fun e => c.options.keeps e.2.tags).mapM
          (c'.keptEndpoint path (item.kept c.options)) >>= fun found =>
        pure (found.filterMap id)) := by
  -- The first run has a step for every operation, the second one only for those that are kept.
  induction operations with
  | nil => exact .pure rfl
  | cons operation operations ih =>
    have hcovers := hoperations operation List.mem_cons_self
    have hrest := ih fun e he => hoperations e (List.mem_cons_of_mem operation he)
    rw [mapM_filterMap_cons]
    cases hop : c.options.keeps operation.2.tags with
    | false =>
      rw [List.filter_cons, if_neg (by rw [hop]; exact Bool.false_ne_true)]
      refine .skip (fun s s' => skip_keptEndpoint hseen hop) ?_
      simp only [Option.toList_none, List.nil_append, bind_pure]
      exact hrest
    | true =>
      rw [List.filter_cons, if_pos hop, mapM_filterMap_cons]
      refine (mirrored_keptEndpoint hkeeps hop hitem hcovers).bind fun found => ?_
      refine hrest.value fun rest => ?_
      cases found <;> simp

/-- The functions for a document, and for what is kept of it. -/
theorem mirrored_keptPaths (M : Mirror c c') (document : Document)
    (hseen : ∀ e, M.Seen e = !e.leavesOut) (hkeeps : ∀ tags, c'.options.keeps tags = true)
    (hasked : ∀ r, M.Asked r) :
    M.Mirrored (List.map (List.map (Endpoint.withAny M.word)))
      (document.paths.mapM c.endpointsOf)
      ((document.kept c.options).paths.mapM c'.endpointsOf) := by
  have hpaths : (document.kept c.options).paths =
      document.paths.map fun entry => (entry.1, entry.2.kept c.options) := rfl
  rw [hpaths, List.mapM_map]
  refine .mapM fun entry _ => ?_
  unfold endpointsOf
  dsimp only [Function.comp_apply]
  rw [PathItem.operations_kept]
  exact mirrored_kept hseen hkeeps (fun r _ => hasked r) fun _ _ r _ => hasked r

end Mirror

/-- The setting of a document and that of what is kept of it. -/
def Mirror.kept (tree : Json) (document : Document) (options : Options) :
    Mirror (ofDocument tree document options)
      (ofDocument tree (document.kept options) options.unfiltered) :=
  .ofOptions .any (fun e => !e.leavesOut) word_any (TypeExpr.withAny_any _).symm rfl rfl rfl

end Setting

/-- An operation that is left out leaves no trace. The run fails as that for the document without
the operations that are left out does, or comes to the same client; and apart from the events for
these operations both end in the same session. -/
theorem Client.ofDocument_kept (tree : Json) (document : Document) (options : Options) :
    let run := Client.ofDocument tree document options
    let kept := Client.ofDocument tree (document.kept options) options.unfiltered
    kept.1 = run.1 ∧ kept.2 = { run.2 with events := kept.2.events } ∧
      kept.2.events.filter (!·.leavesOut) = run.2.events.filter (!·.leavesOut) := by
  let M := Setting.Mirror.kept tree document options
  have hpaths := M.mirrored_keptPaths document (fun _ => rfl) options.keeps_unfiltered
    fun _ => trivial
  have hbuild := Setting.Mirror.mirrored_build hpaths rfl fun _ => ⟨rfl, fun _ => trivial⟩
  have hstart : M.Like (Session.start _ document) (Session.start _ (document.kept options)) :=
    ⟨Session.merged_start, _, rfl, rfl⟩
  rcases hbuild _ _ hstart with ⟨e, he, -⟩ | ⟨hvalue, hlike⟩
  · cases he
  · exact ⟨hvalue.trans (Client.map_withAny_any _), hlike.same rfl⟩

end ClientGen
