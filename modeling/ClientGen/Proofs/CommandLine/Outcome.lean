import ClientGen.Proofs.CommandLine.Layers
import ClientGen.Proofs.CommandLine.Notice
import ClientGen.Proofs.CommandLine.Stages

namespace ClientGen

namespace Job

variable {d d' : Disk} {o : Output} {a : Arguments} {path text : String}
  {targets targets' : List (String × String)} {job job' : Job (StateM Disk) Unit}

/-- A job saves texts one after the other, until one is refused or all are saved. It prints
nothing. -/
def Saves (job : Job (StateM Disk) Unit) (targets : List (String × String)) : Prop := ∀ o d,
  (∃ events d', d.Saved targets d' ∧ job.outcome o d = ((.ok (), { o with events }), d')) ∨
  ∃ e events done d', d.Stopped targets done d' ∧
    job.outcome o d = ((.error e, { o with events }), d')

theorem Saves.pure : (pure () : Job (StateM Disk) Unit).Saves [] :=
  fun o d => .inl ⟨o.events, d, .nil d, rfl⟩

theorem Saves.report (events : List Event) :
    (report events : Job (StateM Disk) Unit).Saves [] :=
  fun o d => .inl ⟨o.events ++ events, d, .nil d, rfl⟩

theorem Saves.seq (h : job.Saves targets) (h' : job'.Saves targets') :
    (job >>= fun _ => job').Saves (targets ++ targets') := by
  intro o d
  rw [outcome_bind]
  rcases h o d with ⟨events, d₁, hsaved, hrun⟩ | ⟨e, events, done, d₁, hstopped, hrun⟩
  · rw [hrun]
    dsimp only
    rcases h' { o with events } d₁ with
      ⟨events', d', hsaved', hrun'⟩ | ⟨e, events', done, d', hstopped, hrun'⟩
    · exact .inl ⟨events', d', hsaved.append hsaved', hrun'⟩
    · exact .inr ⟨e, events', targets ++ done, d', hstopped.after hsaved, hrun'⟩
  · rw [hrun]
    exact .inr ⟨e, events, done, d₁, hstopped.append targets', rfl⟩

theorem Saves.forM {α : Type} {f : α → Job (StateM Disk) Unit} {g : α → List (String × String)}
    (h : ∀ x, (f x).Saves (g x)) (xs : List α) : (xs.forM f).Saves (xs.flatMap g) := by
  induction xs with
  | nil => exact .pure
  | cons x xs ih => exact (h x).seq ih

theorem outcome_write (path text : String) (o : Output) (d : Disk) :
    (attempt "Failed to write" path (Disk.asFiles.write path text) :
        Job (StateM Disk) Unit).outcome o d =
      match d.write path text with
      | .error fault => ((.error ("Failed to write " ++ path ++ ": " ++ fault.message), o), d)
      | .ok d' => ((.ok (), o), d') := by
  refine (outcome_update "Failed to write" path fun d => d.settle (d.write path text)).trans ?_
  cases d.write path text <;> rfl

theorem outcome_save (path text : String) (o : Output) (d : Disk) :
    (save Disk.asFiles path text).outcome o d =
      match d.ensureDirectories ((Path.parent? path).getD "") with
      | (.error fault, d₁) => ((.error ("Failed to create directory " ++
          (Path.parent? path).getD "" ++ ": " ++ fault.message), o), d₁)
      | (.ok (), d₁) =>
        match d₁.write path text with
        | .error fault => ((.error ("Failed to write " ++ path ++ ": " ++ fault.message), o), d₁)
        | .ok d' => ((.ok (), o), d') := by
  unfold save
  split
  · next hnone =>
    rw [hnone]
    exact outcome_write path text o d
  · next hempty =>
    rw [hempty]
    exact outcome_write path text o d
  · next directory _ hdirectory =>
    rw [hdirectory]
    change (attempt _ directory (Disk.update (·.ensureDirectories directory)) >>= fun _ =>
      attempt _ path (Disk.asFiles.write path text)).outcome o d = _
    rw [outcome_bind, outcome_update, Option.getD_some]
    rcases d.ensureDirectories directory with ⟨result, d₁⟩
    cases result with
    | error fault => rfl
    | ok _ => exact outcome_write path text o d₁

theorem Saves.save (path text : String) :
    (save Disk.asFiles path text).Saves [(path, text)] := by
  intro o d
  rw [outcome_save]
  obtain ⟨hwithin, hsame⟩ := d.ensureDirectories_keeps ((Path.parent? path).getD "")
  rcases hmade : d.ensureDirectories ((Path.parent? path).getD "") with ⟨result, d₁⟩
  rw [hmade] at hwithin hsame
  cases result with
  | error fault =>
    have hsave : ∀ d₂, d.save path text ≠ .ok d₂ := by
      rw [Disk.save, hmade]
      exact nofun
    exact .inr ⟨_, o.events, [], d₁, .refused hsave hwithin hsame, rfl⟩
  | ok _ =>
    have hsave : d.save path text = d₁.write path text := by rw [Disk.save, hmade]
    dsimp only
    cases hwrite : d₁.write path text with
    | error fault =>
      have hrefused : ∀ d₂, d.save path text ≠ .ok d₂ := by
        rw [hsave, hwrite]
        exact nofun
      exact .inr ⟨_, o.events, [], d₁, .refused hrefused hwithin hsame, rfl⟩
    | ok d' => exact .inl ⟨o.events, d', .cons (hsave.trans hwrite) (.nil d'), rfl⟩

theorem Saves.saveSupportCode (directory : String) :
    (saveSupportCode Disk.asFiles directory).Saves
      (SupportCode.files.map fun file => (Path.child directory file.1, file.2)) := by
  have hsave (file : String × String) :
      (Job.save Disk.asFiles (Path.child directory file.1) file.2).Saves
        [(Path.child directory file.1, file.2)] := .save _ _
  have hboth := (Saves.forM hsave SupportCode.files).seq (.report [.runtimeWritten directory])
  rw [List.append_nil, ← List.map_eq_flatMap] at hboth
  exact hboth

theorem outcome_deliver (a : Arguments) (text : String) (o : Output) (d : Disk) :
    (∃ events d', d.Saved (a.targets text) d' ∧
      (deliver Disk.asFiles a text).outcome o d =
        ((.ok (), ⟨o.text ++ a.printed text, events⟩), d')) ∨
    ∃ e events done d', d.Stopped (a.targets text) done d' ∧
      (deliver Disk.asFiles a text).outcome o d =
        ((.error e, ⟨o.text ++ a.printed text, events⟩), d') := by
  have hsupport : (a.runtimeDirectory?.forM (saveSupportCode Disk.asFiles)).Saves
      (a.runtimeDirectory?.toList.flatMap fun directory =>
        SupportCode.files.map fun file => (Path.child directory file.1, file.2)) := by
    cases a.runtimeDirectory? with
    | none => exact .pure
    | some directory =>
      rw [Option.toList_some, List.flatMap_singleton]
      exact .saveSupportCode directory
  unfold deliver Arguments.targets Arguments.printed
  cases a.outputPath? with
  | none => exact hsupport ⟨o.text ++ text, o.events⟩ d
  | some path =>
    have hmodule := (Saves.save path text).seq hsupport o d
    rw [Option.isSome_some, if_pos rfl, String.append_empty]
    exact hmodule

end Job

theorem SupportCode.lastName_child (directory : String) {file : String × String}
    (hfile : file ∈ files) : Disk.lastName (Path.child directory file.1) = file.1 := by
  have hplain : ∀ file ∈ files, '/' ∉ file.1.toList ∧ file.1.isEmpty = false := by decide
  exact Disk.lastName_child directory (hplain file hfile).1 (hplain file hfile).2

namespace Disk

variable {d : Disk} {a : Arguments} {arguments : List String} {path : String}

theorem run_of_none (h : Arguments.read arguments = none) :
    d.run arguments = ({ code := 2 }, d) := by
  unfold Disk.run runProgram
  rw [h]
  rfl

def resultOf : Except String Unit × Output → RunResult
  | (.ok (), o) => { code := 0, output := o.text, events := o.events }
  | (.error failure, o) => { code := 1, output := o.text, failure, events := o.events }

theorem run_generate (h : Arguments.read arguments = some (.generate a)) :
    d.run arguments = (resultOf ((Job.generate Disk.asFiles a).outcome {} d).1,
      ((Job.generate Disk.asFiles a).outcome {} d).2) := by
  unfold Disk.run runProgram Job.outcome
  rw [h]
  simp only [StateT.run_bind]
  rcases StateT.run ((Job.generate asFiles a).run.run {}) d with ⟨⟨r, o⟩, d'⟩
  cases r <;> rfl

/-- A run for a document gives a module, which is printed, and saves texts until one is refused; or
it gives none and leaves everything as it is. -/
theorem run_cases (d : Disk) (h : Arguments.read arguments = some (.generate a)) :
    (∃ text, d.Produces a text ∧ (d.run arguments).1.output = a.printed text ∧
      ((d.run arguments).1.code = 0 ∧ d.Saved (a.targets text) (d.run arguments).2 ∨
        (d.run arguments).1.code = 1 ∧
          ∃ done, d.Stopped (a.targets text) done (d.run arguments).2)) ∨
    (∀ text, ¬ d.Produces a text) ∧ (d.run arguments).1.code = 1 ∧
      (d.run arguments).1.output = "" ∧ (d.run arguments).2 = d := by
  rw [run_generate h]
  rcases Job.generate_outcome a {} d with ⟨text, events, hmodule, hrun⟩ | ⟨e, events, hnone, hrun⟩
  · left
    refine ⟨text, hmodule, ?_⟩
    rw [hrun]
    rcases Job.outcome_deliver a text { events } d with
      ⟨_, d', hsaved, hdone⟩ | ⟨e, _, done, d', hstopped, hfailed⟩
    · rw [hdone]
      exact ⟨String.empty_append, .inl ⟨rfl, hsaved⟩⟩
    · rw [hfailed]
      exact ⟨String.empty_append, .inr ⟨rfl, done, hstopped⟩⟩
  · right
    rw [hrun]
    exact ⟨hnone, rfl, rfl, rfl⟩

theorem run_saved (hread : Arguments.read arguments = some (.generate a))
    (hcode : (d.run arguments).1.code = 0) :
    ∃ text, d.Produces a text ∧ d.Saved (a.targets text) (d.run arguments).2 := by
  rcases run_cases d hread with ⟨text, hmodule, -, ⟨-, hsaved⟩ | ⟨hfailed, -⟩⟩ | ⟨-, hfailed, -⟩
  · exact ⟨text, hmodule, hsaved⟩
  · rw [hcode] at hfailed
    cases hfailed
  · rw [hcode] at hfailed
    cases hfailed

/-- A run prints nothing and changes no file. -/
def Silent (d : Disk) (arguments : List String) : Prop :=
  (d.run arguments).1.output = "" ∧ d.SameFiles (d.run arguments).2

theorem printed_eq_empty {text : String} (hmodule : d.Produces a text) :
    a.printed text = "" ↔ a.outputPath?.isSome = true := by
  obtain ⟨_, _, _, _, htext⟩ := hmodule
  unfold Arguments.printed
  split
  · next hsome => exact ⟨fun _ => hsome, fun _ => rfl⟩
  · next hnone => exact ⟨fun h => absurd h (ne_empty_of_generate htext), fun h => absurd h hnone⟩

theorem exists_produces (hconfig : a.configPath? = none)
    (h : ((d.read a.documentPath).toOption.any fun source =>
      (ClientGen.generate source (a.options {})).1.toBool) = true) : ∃ text, d.Produces a text := by
  cases hsource : d.read a.documentPath with
  | error fault =>
    rw [hsource] at h
    cases h
  | ok source =>
    rw [hsource] at h
    change (ClientGen.generate source (a.options {})).1.toBool = true at h
    cases htext : (ClientGen.generate source (a.options {})).1 with
    | error failure =>
      rw [htext] at h
      cases h
    | ok text => exact ⟨text, {}, source, .defaults hconfig, hsource, htext⟩

/-- A disk with the smallest document. -/
def blank : Disk := ofFiles [("openapi.json",
  "\x7b\"openapi\":\"3.0.0\",\"info\":\x7b\"title\":\"\",\"version\":\"\"\x7d,\"paths\":\x7b\x7d\x7d")]

/-- A run that fails before it has a module is silent. One that fails later is silent exactly when
the module is to be saved and each text that was saved by then was in its file before. -/
theorem run_failed (h : (d.run arguments).1.code ≠ 0) :
    ((∀ a text, Arguments.read arguments = some (.generate a) → ¬ d.Produces a text) →
      d.Silent arguments) ∧
    ∀ a text, Arguments.read arguments = some (.generate a) → d.Produces a text →
      ∃ done, d.Stopped (a.targets text) done (d.run arguments).2 ∧
        (d.Silent arguments ↔ a.outputPath?.isSome = true ∧ ∀ t ∈ done, ∀ p,
          (d.run arguments).2.place t.1 = .ok p → (d.run arguments).2.file? p = d.file? p) := by
  constructor
  · intro hnone
    cases hread : Arguments.read arguments with
    | none =>
      rw [Silent, run_of_none hread]
      exact ⟨rfl, .refl d⟩
    | some request =>
      cases request with
      | help | version =>
        -- What is asked for is printed, and nothing fails.
        refine absurd ?_ h
        unfold Disk.run runProgram
        rw [hread]
        rfl
      | generate a =>
        rcases run_cases d hread with ⟨text, hmodule, -⟩ | ⟨-, -, houtput, hsame⟩
        · exact absurd hmodule (hnone a text hread)
        · rw [Silent, houtput, hsame]
          exact ⟨rfl, .refl d⟩
  · intro a text hread hmodule
    rcases run_cases d hread with ⟨text', hmodule', hprinted, hend⟩ | ⟨hnone, -⟩
    · cases hmodule.unique hmodule'
      rcases hend with ⟨hcode, -⟩ | ⟨-, done, hstopped⟩
      · exact absurd hcode h
      · refine ⟨done, hstopped, ?_⟩
        rw [Silent, hprinted, printed_eq_empty hmodule, hstopped.sameFiles_iff]
    · exact absurd hmodule (hnone text)

theorem run_failed_blank :
    (blank.run ["missing.json"]).1.code ≠ 0 ∧ blank.Silent ["missing.json"] ∧
    (blank.run ["openapi.json", "openapi.json/api.ts"]).1.code ≠ 0 ∧
    ∃ a text done, blank.Produces a text ∧
      blank.Stopped (a.targets text) done
        (blank.run ["openapi.json", "openapi.json/api.ts"]).2 := by
  have hmissing : (blank.run ["missing.json"]).1.code ≠ 0 := by decide +kernel
  have hrefused : (blank.run ["openapi.json", "openapi.json/api.ts"]).1.code ≠ 0 := by
    decide +kernel
  have hread : Arguments.read ["missing.json"] =
      some (.generate { paths := ["missing.json"] }) := by decide +kernel
  have hread' : Arguments.read ["openapi.json", "openapi.json/api.ts"] =
      some (.generate { paths := ["openapi.json", "openapi.json/api.ts"] }) := by decide +kernel
  have hnone (a : Arguments) (text : String)
      (ha : Arguments.read ["missing.json"] = some (.generate a)) : ¬ blank.Produces a text := by
    rw [hread] at ha
    cases ha
    rintro ⟨_, source, _, hsource, _⟩
    have hfault : blank.read "missing.json" = .error .missing := by decide +kernel
    cases hfault.symm.trans hsource
  obtain ⟨text, hmodule⟩ := exists_produces (d := blank)
    (a := { paths := ["openapi.json", "openapi.json/api.ts"] }) rfl (by decide +kernel)
  obtain ⟨done, hstopped, -⟩ := (run_failed hrefused).2 _ text hread' hmodule
  exact ⟨hmissing, (run_failed hmissing).1 hnone, hrefused, _, text, done, hmodule, hstopped⟩

/-- The module stays behind when the directory of the support code is a file. -/
theorem run_leaves_module :
    (blank.run ["openapi.json", "api.ts", "--emitRuntime", "openapi.json"]).1.code ≠ 0 ∧
    ¬ blank.Silent ["openapi.json", "api.ts", "--emitRuntime", "openapi.json"] := by
  constructor
  · decide +kernel
  · intro hsilent
    have hbefore : blank.file? ["api.ts"] = none := by decide +kernel
    have hafter : ((blank.run ["openapi.json", "api.ts", "--emitRuntime", "openapi.json"]).2.file?
      ["api.ts"]).isSome = true := by decide +kernel
    rw [hsilent.2, hbefore] at hafter
    cases hafter

theorem Saved.read_supportCode {text directory : String} {d' : Disk}
    (h : d.Saved (a.targets text) d') (hdirectory : a.runtimeDirectory? = some directory)
    {file : String × String} (hfile : file ∈ SupportCode.files) :
    d'.read (Path.child directory file.1) = .ok file.2 := by
  obtain ⟨before, after, hsplit⟩ := List.append_of_mem hfile
  let target (file : String × String) := (Path.child directory file.1, file.2)
  have htargets : a.targets text = (a.outputPath?.toList.map (fun path => (path, text)) ++
      before.map target) ++ target file :: after.map target := by
    rw [Arguments.targets, hdirectory, Option.toList_some, List.flatMap_singleton, hsplit,
      List.map_append, List.map_cons, List.append_assoc]
  rw [htargets] at h
  apply h.read_of_last
  intro t ht
  obtain ⟨other, hother, rfl⟩ := List.mem_map.1 ht
  have hlater : other ∈ SupportCode.files := by
    rw [hsplit]
    exact List.mem_append_right _ (List.mem_cons_of_mem _ hother)
  -- The files of the support code have different names.
  have hnames : SupportCode.files.Pairwise fun file file' => file'.1 ≠ file.1 := by decide
  rw [hsplit] at hnames
  have hne := List.rel_of_pairwise_cons (List.pairwise_append.1 hnames).2.1 hother
  have hnames' : lastName (target other).1 ≠ lastName (target file).1 := by
    rwa [SupportCode.lastName_child directory hlater, SupportCode.lastName_child directory hfile]
  change d'.place (target other).1 ≠ d'.place (target file).1
  exact h.place_ne (List.mem_append_right _ (List.mem_cons_of_mem _ ht))
    (List.mem_append_right _ List.mem_cons_self) hnames'

theorem run_succeeded (hread : Arguments.read arguments = some (.generate a))
    (hpath : a.outputPath? = some path) (hcode : (d.run arguments).1.code = 0) :
    ∃ base o source text, d.Configures a base ∧ a.Layers base o ∧
      d.read a.documentPath = .ok source ∧ (ClientGen.generate source o).1 = .ok text ∧
      ((d.run arguments).2.read path = .ok text ↔
        ∀ directory, a.runtimeDirectory? = some directory → ∀ file ∈ SupportCode.files,
          (d.run arguments).2.place (Path.child directory file.1) ≠
            (d.run arguments).2.place path) ∧
      ∀ directory, a.runtimeDirectory? = some directory → ∀ file ∈ SupportCode.files,
        (d.run arguments).2.read (Path.child directory file.1) = .ok file.2 := by
  obtain ⟨text, ⟨base, source, hbase, hsource, htext⟩, hsaved⟩ := run_saved hread hcode
  have hlayers := (Arguments.Read.of_read hread).1.layers base
  refine ⟨base, a.options base, source, text, hbase, hlayers, hsource, htext, ⟨?_, ?_⟩, ?_⟩
  · intro hmodule directory hdirectory file hfile hsame
    have hsupport := hsaved.read_supportCode hdirectory hfile
    rw [read_congr hsame, hmodule] at hsupport
    exact SupportCode.ne_of_generate htext hfile (Except.ok.inj hsupport).symm
  · intro hapart
    have hfirst : a.targets text = [] ++ (path, text) :: a.runtimeDirectory?.toList.flatMap
        fun directory => SupportCode.files.map fun file =>
          (Path.child directory file.1, file.2) := by
      rw [Arguments.targets, hpath]
      rfl
    rw [hfirst] at hsaved
    apply hsaved.read_of_last
    intro t ht
    obtain ⟨directory, hdirectory, ht⟩ := List.mem_flatMap.1 ht
    obtain ⟨file, hfile, rfl⟩ := List.mem_map.1 ht
    exact hapart directory (Option.mem_toList.1 hdirectory) file hfile
  · intro directory hdirectory file hfile
    exact hsaved.read_supportCode hdirectory hfile

theorem run_succeeded_blank : ∃ o source text,
    (blank.run ["openapi.json", "runtime/api.ts", "--emitRuntime", "runtime"]).1.code = 0 ∧
    blank.read "openapi.json" = .ok source ∧ (ClientGen.generate source o).1 = .ok text ∧
    (blank.run ["openapi.json", "runtime/api.ts", "--emitRuntime", "runtime"]).2.read
      "runtime/api.ts" = .ok text := by
  have hcode : (blank.run ["openapi.json", "runtime/api.ts", "--emitRuntime",
    "runtime"]).1.code = 0 := by decide +kernel
  have hread : Arguments.read ["openapi.json", "runtime/api.ts", "--emitRuntime", "runtime"] =
      some (.generate ⟨["openapi.json", "runtime/api.ts"], [],
        [(.runtimeDirectory, "runtime")]⟩) := by decide +kernel
  obtain ⟨base, o, source, text, -, -, hsource, htext, hmodule, -⟩ := run_succeeded hread rfl hcode
  refine ⟨o, source, text, hcode, hsource, htext, hmodule.2 ?_⟩
  intro directory hdirectory
  obtain rfl : "runtime" = directory := Option.some.inj hdirectory
  decide +kernel

/-- The support code overwrites a module that has the path of one of its files. -/
theorem run_overwrites_module : ∃ a text,
    Arguments.read ["openapi.json", "runtime/index.ts", "--emitRuntime", "runtime"] =
      some (.generate a) ∧
    a.outputPath? = some "runtime/index.ts" ∧ blank.Produces a text ∧
    (blank.run ["openapi.json", "runtime/index.ts", "--emitRuntime", "runtime"]).1.code = 0 ∧
    (blank.run ["openapi.json", "runtime/index.ts", "--emitRuntime", "runtime"]).2.read
      "runtime/index.ts" ≠ .ok text := by
  have hcode : (blank.run ["openapi.json", "runtime/index.ts", "--emitRuntime",
    "runtime"]).1.code = 0 := by decide +kernel
  have hread : Arguments.read ["openapi.json", "runtime/index.ts", "--emitRuntime", "runtime"] =
      some (.generate ⟨["openapi.json", "runtime/index.ts"], [],
        [(.runtimeDirectory, "runtime")]⟩) := by decide +kernel
  obtain ⟨text, hmodule, hsaved⟩ := run_saved hread hcode
  refine ⟨_, text, hread, rfl, hmodule, hcode, ?_⟩
  have hfile : ("index.ts", SupportCode.requests) ∈ SupportCode.files := List.mem_cons_self
  have hsupport := hsaved.read_supportCode (show _ = some "runtime" from rfl) hfile
  have hpath : Path.child "runtime" "index.ts" = "runtime/index.ts" := by decide +kernel
  rw [hpath] at hsupport
  intro hread'
  obtain ⟨_, _, _, _, htext⟩ := hmodule
  exact SupportCode.ne_of_generate htext hfile (Except.ok.inj (hsupport.symm.trans hread'))

end Disk

end ClientGen
