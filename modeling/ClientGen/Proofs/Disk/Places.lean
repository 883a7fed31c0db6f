import ClientGen.Disk
import ClientGen.Proofs.Text.Split

namespace ClientGen

namespace Path

open Text

theorem splitAt_concat {sep c : Char} (h : c ≠ sep) (cs : List Char) :
    ∃ pieces piece, splitAt sep (cs ++ [c]) = pieces ++ [piece ++ [c]] := by
  induction cs with
  | nil =>
    refine ⟨[], [], ?_⟩
    rw [List.nil_append, splitAt_of_not_mem]
    · rfl
    · intro hmem
      exact h (List.mem_singleton.1 hmem).symm
  | cons d cs ih =>
    obtain ⟨pieces, piece, hsplit⟩ := ih
    rw [List.cons_append, splitAt, hsplit]
    cases pieces with
    | nil =>
      by_cases hd : d = sep
      · exact ⟨[[]], piece, if_pos hd⟩
      · exact ⟨[], d :: piece, if_neg hd⟩
    | cons first pieces =>
      by_cases hd : d = sep
      · exact ⟨[] :: first :: pieces, piece, if_pos hd⟩
      · exact ⟨(d :: first) :: pieces, piece, if_neg hd⟩

theorem names_concat {path : String} {c : Char} (hc : c ≠ '/')
    (h : path.toList.getLast? = some c) :
    ∃ before last, names path = before ++ [last] ∧ last.isEmpty = false := by
  obtain ⟨cs, hcs⟩ := List.getLast?_eq_some_iff.1 h
  obtain ⟨pieces, piece, hsplit⟩ := splitAt_concat hc cs
  refine ⟨pieces.map String.ofList, String.ofList (piece ++ [c]), ?_, ?_⟩
  · rw [names, hcs, hsplit, List.map_append, List.map_singleton]
  · rw [Bool.eq_false_iff, ne_eq, String.isEmpty_iff, ← String.toList_inj, String.toList_ofList]
    simp

theorem names_child (directory : String) {name : String} (h : '/' ∉ name.toList) :
    ∃ before, names (child directory name) = before ++ [name] := by
  have hname : splitAt '/' name.toList = [name.toList] := splitAt_of_not_mem h
  have hlast : String.ofList name.toList = name := String.ofList_toList
  unfold child
  split
  · exact ⟨[], by rw [names, hname, List.map_singleton, hlast, List.nil_append]⟩
  · split
    · next hslash =>
      obtain ⟨cs, hcs⟩ := List.getLast?_eq_some_iff.1 hslash
      refine ⟨(splitAt '/' cs).map String.ofList, ?_⟩
      rw [names, String.toList_append, hcs, List.append_assoc, List.singleton_append,
        splitAt_append, hname, List.map_append, List.map_singleton, hlast]
    · refine ⟨(splitAt '/' directory.toList).map String.ofList, ?_⟩
      have hmark : "/".toList = ['/'] := rfl
      rw [names, String.toList_append, String.toList_append, hmark, List.append_assoc,
        List.singleton_append, splitAt_append, hname, List.map_append, List.map_singleton, hlast]

end Path

namespace Disk

variable {d d' d'' : Disk} {path text : String} {p q : List String}

def file? (d : Disk) (place : List String) : Option String :=
  match d.node? place with
  | some (.file text) => some text
  | _ => none

theorem lookup_cons (p q : List String) (node : DiskNode) (nodes : List (List String × DiskNode)) :
    ((p, node) :: nodes).lookup q = if q = p then some node else nodes.lookup q := by
  rw [List.lookup_cons]
  by_cases h : q = p
  · rw [if_pos h, beq_iff_eq.2 h]
  · rw [if_neg h, beq_eq_false_iff_ne.2 h]

theorem lookup_putNode (p q : List String) (node : DiskNode)
    (nodes : List (List String × DiskNode)) :
    (putNode p node nodes).lookup q = if q = p then some node else nodes.lookup q := by
  induction nodes with
  | nil => exact lookup_cons p q node []
  | cons entry nodes ih =>
    obtain ⟨k, v⟩ := entry
    by_cases hk : k = p
    · subst hk
      simp only [putNode, if_true, lookup_cons]
      split <;> rfl
    · simp only [putNode, hk, if_false, lookup_cons, ih]
      by_cases hq : q = k
      · rw [if_pos hq, if_pos hq, if_neg (hq ▸ hk)]
      · rw [if_neg hq, if_neg hq]

theorem node?_put (h : d.node? p ≠ some .directory) (node : DiskNode) (other : List String) :
    (d.put p node).node? other = if other = p then some node else d.node? other := by
  have hbase : isBase p = false := by
    cases hb : isBase p with
    | false => rfl
    | true => exact absurd (if_pos hb) h
  unfold node? put
  by_cases ho : isBase other = true
  · rw [if_pos ho, if_pos ho, if_neg]
    intro he
    rw [he, hbase] at ho
    cases ho
  · rw [if_neg ho, if_neg ho]
    exact lookup_putNode p other node d.nodes

/-- Every directory of a disk is one of another disk. -/
def Within (d d' : Disk) : Prop := ∀ place, d.node? place = some .directory →
  d'.node? place = some .directory

/-- Two disks have the same files. -/
def SameFiles (d d' : Disk) : Prop := ∀ place, d'.file? place = d.file? place

theorem Within.refl (d : Disk) : d.Within d := fun _ h => h

theorem Within.trans (h : d.Within d') (h' : d'.Within d'') : d.Within d'' :=
  fun place hp => h' place (h place hp)

theorem SameFiles.refl (d : Disk) : d.SameFiles d := fun _ => rfl

theorem SameFiles.trans (h : d.SameFiles d') (h' : d'.SameFiles d'') : d.SameFiles d'' :=
  fun place => (h' place).trans (h place)

section Walking

theorem enter_ok : d.enter p = .ok () ↔ d.node? p = some .directory := by
  unfold enter
  split <;> simp_all

theorem Within.enter (h : d.Within d') (he : d.enter p = .ok ()) : d'.enter p = .ok () :=
  enter_ok.2 (h p (enter_ok.1 he))

theorem walk_append (names names' : List String) : d.walk p (names ++ names') =
    match d.walk p names with
    | .error fault => .error fault
    | .ok between => d.walk between names' := by
  induction names generalizing p with
  | nil => rfl
  | cons name names ih =>
    simp only [List.cons_append, walk]
    cases d.enter p with
    | error fault => rfl
    | ok => exact ih

theorem Within.walk (h : d.Within d') {names : List String}
    (hw : d.walk p names = .ok q) : d'.walk p names = .ok q := by
  induction names generalizing p with
  | nil => exact hw
  | cons name names ih =>
    rw [Disk.walk] at hw ⊢
    cases he : d.enter p with
    | error fault =>
      rw [he] at hw
      cases hw
    | ok =>
      rw [he] at hw
      rw [h.enter he]
      exact ih hw

theorem Within.place (h : d.Within d') (hp : d.place path = .ok p) :
    d'.place path = .ok p := h.walk hp

theorem snd_start (path : String) {before : List String} {last : String}
    (h : Path.names path = before ++ [last]) : ∃ init, (start path).2 = init ++ [last] := by
  unfold start
  split
  · next name rest hnames =>
    rw [hnames] at h
    cases before with
    | nil => cases h
    | cons first before =>
      have htail := congrArg List.tail h
      exact ⟨before, htail⟩
  · exact ⟨before, h⟩

theorem startOfTarget_eq {init : List String} {last : String}
    (h : (start path).2 = init ++ [last]) (hlast : last.isEmpty = false) :
    startOfTarget path = ((start path).1, init ++ [last]) := by
  unfold startOfTarget
  rw [h, List.reverse_append, List.reverse_singleton, List.singleton_append,
    List.dropWhile_cons_of_neg (by rw [hlast]; exact Bool.false_ne_true), List.reverse_cons,
    List.reverse_reverse]

theorem lastName_child (directory : String) {name : String} (h : '/' ∉ name.toList)
    (hname : name.isEmpty = false) : lastName (Path.child directory name) = name := by
  obtain ⟨before, hnames⟩ := Path.names_child directory h
  obtain ⟨init, hinit⟩ := snd_start _ hnames
  rw [lastName, startOfTarget_eq hinit hname]
  exact List.getLastD_concat ..

end Walking

/-- A path whose form allows for a file leads to its last name below the directory that it is
looked up in. -/
theorem place_eq_of_directoryOf {directory : List String} (hform : namesDirectory path = false)
    (h : d.directoryOf path = .ok directory) :
    d.place path = .ok (directory ++ [lastName path]) := by
  simp only [namesDirectory, Bool.or_eq_false_iff, decide_eq_false_iff_not] at hform
  obtain ⟨⟨hslash, htrivial⟩, hup⟩ := hform
  obtain ⟨c, hc⟩ : ∃ c, path.toList.getLast? = some c := by
    cases hlast : path.toList.getLast? with
    | some c => exact ⟨c, rfl⟩
    | none =>
      -- Without characters the only name is the empty one, which is trivial.
      obtain rfl : path = "" := String.toList_inj.1 (List.getLast?_eq_none_iff.1 hlast)
      exact absurd htrivial (by decide)
  have hne : c ≠ '/' := by
    rintro rfl
    exact hslash hc
  obtain ⟨before, last, hnames, hlast⟩ := Path.names_concat hne hc
  obtain ⟨init, hinit⟩ := snd_start path hnames
  have htarget := startOfTarget_eq hinit hlast
  have hname : lastName path = last := by rw [lastName, htarget]; simp
  rw [directoryOf, htarget] at h
  simp only [List.dropLast_concat] at h
  split at h
  · cases h
  · next between hwalk =>
    split at h
    · cases h
    · next hgo =>
      cases h
      rw [Disk.place, hinit, walk_append, hwalk]
      rw [hname] at htrivial hup ⊢
      simp only [walk, hgo, below, htrivial, hup, if_false, Bool.false_eq_true]

section Writing

/-- A file is written where its path leads, which is no directory, and nothing else changes. -/
theorem write_ok (h : d.write path text = .ok d') :
    ∃ directory, d.place path = .ok (directory ++ [lastName path]) ∧
      d.node? (directory ++ [lastName path]) ≠ some .directory ∧
      d' = d.put (directory ++ [lastName path]) (.file text) := by
  unfold write at h
  split at h
  · cases h
  · next directory hdirectory =>
    split at h
    · cases h
    · next hform =>
      dsimp only at h
      have hplace := place_eq_of_directoryOf (Bool.eq_false_iff.2 hform) hdirectory
      split at h
      · cases h
      · next hnode =>
        cases h
        exact ⟨directory, hplace, hnode, rfl⟩

theorem within_put (h : d.node? p ≠ some .directory) (node : DiskNode) :
    d.Within (d.put p node) := by
  intro other hother
  rw [node?_put h, if_neg]
  · exact hother
  · rintro rfl
    exact h hother

theorem file?_put (h : d.node? p ≠ some .directory) (text : String) (other : List String) :
    (d.put p (.file text)).file? other = if other = p then some text else d.file? other := by
  unfold file?
  rw [node?_put h]
  by_cases ho : other = p
  · rw [if_pos ho, if_pos ho]
  · rw [if_neg ho, if_neg ho]

end Writing

section Directories

theorem makeDirectory_ok (h : d.makeDirectory path = .ok d') : d.Within d' ∧ d.SameFiles d' := by
  unfold makeDirectory at h
  split at h
  · cases h
  · next directory _ =>
    dsimp only at h
    split at h
    · cases h
    · split at h
      · cases h
      · next hnode =>
        cases h
        have hfree : d.node? (directory ++ [lastName path]) ≠ some .directory := by
          rw [hnode]
          exact nofun
        refine ⟨within_put hfree _, fun other => ?_⟩
        unfold file?
        rw [node?_put hfree]
        by_cases ho : other = directory ++ [lastName path]
        · rw [if_pos ho, ho, hnode]
        · rw [if_neg ho]

theorem ensureDirectory_ok (h : d.ensureDirectory path = .ok d') :
    d.Within d' ∧ d.SameFiles d' := by
  unfold ensureDirectory at h
  split at h
  · next hmade =>
    cases h
    exact makeDirectory_ok hmade
  · split at h
    · cases h
      exact ⟨.refl d, .refl d⟩
    · cases h

theorem settle_ensureDirectory (d : Disk) (path : String) :
    d.Within (d.settle (d.ensureDirectory path)).2 ∧
      d.SameFiles (d.settle (d.ensureDirectory path)).2 := by
  cases h : d.ensureDirectory path with
  | error fault => exact ⟨.refl d, .refl d⟩
  | ok d' => exact ensureDirectory_ok h

theorem ensureWithin_keeps (d : Disk) (fuel : Nat) (path : String) :
    d.Within (d.ensureWithin fuel path).2 ∧ d.SameFiles (d.ensureWithin fuel path).2 := by
  induction fuel generalizing path with
  | zero => exact ⟨.refl d, .refl d⟩
  | succ fuel ih =>
    rw [ensureWithin]
    split
    · exact ⟨.refl d, .refl d⟩
    · split
      · -- The directory above is made first, and stays if this one cannot be made.
        cases Path.parent? path with
        | none => exact ⟨.refl d, .refl d⟩
        | some parent =>
          obtain ⟨hwithin, hsame⟩ := ih parent
          rw [Option.map_some]
          rcases hgo : d.ensureWithin fuel parent with ⟨result, d'⟩
          rw [hgo] at hwithin hsame
          cases result with
          | error fault => exact ⟨hwithin, hsame⟩
          | ok _ =>
            obtain ⟨hwithin', hsame'⟩ := settle_ensureDirectory d' path
            exact ⟨hwithin.trans hwithin', hsame.trans hsame'⟩
      · exact settle_ensureDirectory d path

/-- Making directories leaves all files as they are, also where it fails. -/
theorem ensureDirectories_keeps (d : Disk) (path : String) :
    d.Within (d.ensureDirectories path).2 ∧ d.SameFiles (d.ensureDirectories path).2 :=
  ensureWithin_keeps d _ path

/-- The file on the way is no directory, and what was made before it stays. -/
example : (({ nodes := [(["a"], .file "")] } : Disk).ensureDirectories "new/../a/b").2 =
    { nodes := [(["a"], .file ""), (["new"], .directory)] } := by decide +kernel

end Directories

end Disk

end ClientGen
