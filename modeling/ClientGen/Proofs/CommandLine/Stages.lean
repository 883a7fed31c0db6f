import ClientGen.CommandLine.Run
import ClientGen.Proofs.Disk.Saves

namespace ClientGen

/-- What a run is to save once it has a module: the module, if its output has a path, and the
support code, if there is a directory for it. -/
def Arguments.targets (a : Arguments) (text : String) : List (String × String) :=
  (a.outputPath?.toList.map fun path => (path, text)) ++
    a.runtimeDirectory?.toList.flatMap fun directory =>
      SupportCode.files.map fun file => (Path.child directory file.1, file.2)

/-- What a run prints of a module. -/
def Arguments.printed (a : Arguments) (text : String) : String :=
  if a.outputPath?.isSome then "" else text

namespace Disk

variable {d d' : Disk} {a : Arguments} {text : String}

/-- The options that arguments add to: those of their configuration file, or the defaults. -/
inductive Configures (d : Disk) (a : Arguments) : Options → Prop where
  | defaults (h : a.configPath? = none) : Configures d a {}
  | file {path text : String} {base : Options} (h : a.configPath? = some path)
      (hread : d.read path = .ok text) (hbase : Config.options? text = some base) :
      Configures d a base

/-- The module that arguments ask for is generated from the document on the disk. -/
def Produces (d : Disk) (a : Arguments) (text : String) : Prop :=
  ∃ base source, d.Configures a base ∧ d.read a.documentPath = .ok source ∧
    (ClientGen.generate source (a.options base)).1 = .ok text

theorem Configures.unique {base base' : Options} (h : d.Configures a base)
    (h' : d.Configures a base') : base = base' := by
  cases h with
  | defaults hnone =>
    cases h' with
    | defaults => rfl
    | file hsome =>
      rw [hnone] at hsome
      cases hsome
  | file hsome hread hbase =>
    cases h' with
    | defaults hnone =>
      rw [hnone] at hsome
      cases hsome
    | file hsome' hread' hbase' =>
      cases hsome.symm.trans hsome'
      cases hread.symm.trans hread'
      exact Option.some_inj.1 (hbase.symm.trans hbase')

theorem Produces.unique {text' : String} (h : d.Produces a text) (h' : d.Produces a text') :
    text = text' := by
  obtain ⟨base, source, hbase, hsource, htext⟩ := h
  obtain ⟨base', source', hbase', hsource', htext'⟩ := h'
  cases hbase.unique hbase'
  cases hsource.symm.trans hsource'
  exact Except.ok.inj (htext.symm.trans htext')

end Disk

namespace Job

variable {α β : Type} {d d' : Disk} {o : Output} {a : Arguments} {path text : String}

def outcome (job : Job (StateM Disk) α) (o : Output) (d : Disk) :
    (Except String α × Output) × Disk := (job.run.run o).run d

theorem outcome_bind (job : Job (StateM Disk) α) (f : α → Job (StateM Disk) β) (o : Output)
    (d : Disk) : (job >>= f).outcome o d = match job.outcome o d with
      | ((.ok x, o'), d') => (f x).outcome o' d'
      | ((.error e, o'), d') => ((.error e, o'), d') := by
  simp only [outcome, ExceptT.run_bind, StateT.run_bind]
  change (match (job.run.run o).run d with | ((r, o'), d') => _) = _
  rcases (job.run.run o).run d with ⟨⟨r, o'⟩, d'⟩
  cases r <;> rfl

theorem outcome_report (events : List Event) :
    (report events : Job (StateM Disk) Unit).outcome o d =
      ((.ok (), { o with events := o.events ++ events }), d) := rfl

theorem outcome_read (purpose path : String) :
    (attempt purpose path (Disk.asFiles.read path) : Job (StateM Disk) String).outcome o d =
      (((d.read path).mapError fun fault => purpose ++ " " ++ path ++ ": " ++ fault.message, o),
        d) := by
  change ((((d.read path).mapError FileFault.message).mapError _, o), d) = _
  cases d.read path <;> rfl

theorem outcome_update (purpose path : String) (change : Disk → Except FileFault Unit × Disk) :
    (attempt purpose path (Disk.update change) : Job (StateM Disk) Unit).outcome o d =
      (((change d).1.mapError fun fault => purpose ++ " " ++ path ++ ": " ++ fault.message, o),
        (change d).2) := by
  change ((((change d).1.mapError FileFault.message).mapError _, o), (change d).2) = _
  cases (change d).1 <;> rfl

/-- The options are those that the arguments make of what the disk configures, or there are
none. -/
theorem options_outcome (a : Arguments) (o : Output) (d : Disk) :
    (∃ base, d.Configures a base ∧
      (options Disk.asFiles a).outcome o d = ((.ok (a.options base), o), d)) ∨
    ∃ e, (∀ base, ¬ d.Configures a base) ∧
      (options Disk.asFiles a).outcome o d = ((.error e, o), d) := by
  unfold options
  cases hpath : a.configPath? with
  | none => exact .inl ⟨{}, .defaults hpath, rfl⟩
  | some path =>
    simp only [outcome_bind, configOptions, outcome_read]
    cases hread : d.read path with
    | error fault =>
      refine .inr ⟨_, fun base h => ?_, rfl⟩
      cases h with
      | defaults hnone => cases hpath.symm.trans hnone
      | file hsome htext =>
        cases hpath.symm.trans hsome
        cases hread.symm.trans htext
    | ok text =>
      dsimp only [Except.mapError]
      cases hbase : Config.options? text with
      | some base => exact .inl ⟨base, .file hpath hread hbase, rfl⟩
      | none =>
        refine .inr ⟨_, fun base h => ?_, rfl⟩
        cases h with
        | defaults hnone => cases hpath.symm.trans hnone
        | file hsome htext hsome' =>
          cases hpath.symm.trans hsome
          cases hread.symm.trans htext
          cases hbase.symm.trans hsome'

/-- Print or save a module, and then save the support code. -/
def deliver (files : Files (StateM Disk)) (a : Arguments) (text : String) :
    Job (StateM Disk) Unit := do
  match a.outputPath? with
  | some path => save files path text
  | none => print text
  a.runtimeDirectory?.forM (saveSupportCode files)

/-- A run comes to the module, which is delivered then, or it fails without a change. -/
theorem generate_outcome (a : Arguments) (o : Output) (d : Disk) :
    (∃ text events, d.Produces a text ∧
      (generate Disk.asFiles a).outcome o d =
        (deliver Disk.asFiles a text).outcome { o with events } d) ∨
    ∃ e events, (∀ text, ¬ d.Produces a text) ∧
      (generate Disk.asFiles a).outcome o d = ((.error e, { o with events }), d) := by
  rw [generate, outcome_bind]
  rcases options_outcome a o d with ⟨base, hbase, hoptions⟩ | ⟨e, hnone, hoptions⟩
  · rw [hoptions]
    simp only [outcome_bind, outcome_report, outcome_read]
    cases hread : d.read a.documentPath with
    | error fault =>
      refine .inr ⟨_, _, ?_, rfl⟩
      rintro text ⟨_, source, -, hsource, -⟩
      cases hread.symm.trans hsource
    | ok source =>
      dsimp only [Except.mapError]
      cases hresult : (ClientGen.generate source (a.options base)).1 with
      | error failure =>
        refine .inr ⟨_, _, ?_, rfl⟩
        rintro text ⟨base', source', hbase', hsource, htext⟩
        cases hbase.unique hbase'
        cases hread.symm.trans hsource
        cases hresult.symm.trans htext
      | ok text => exact .inl ⟨text, _, ⟨base, source, hbase, hread, hresult⟩, rfl⟩
  · rw [hoptions]
    refine .inr ⟨e, o.events, ?_, rfl⟩
    rintro text ⟨base, _, hbase, -⟩
    exact hnone base hbase

end Job

end ClientGen
