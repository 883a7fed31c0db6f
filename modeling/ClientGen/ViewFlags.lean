import ClientGen.Session

namespace ClientGen

namespace Schema

/-- The schemas that a schema is looked through to: its items, or else its properties and
branches. -/
def parts (s : Schema) : List Schema :=
  match s.items with
  | some items => [items]
  | none =>
    (s.properties.getD []).map Prod.snd ++ s.allOf.getD [] ++ s.anyOf.getD [] ++ s.oneOf.getD []

def ownFlags (s : Schema) : ViewFlags := ⟨s.readOnly = some true, s.writeOnly = some true⟩

theorem sizeOf_lt_of_mem_parts {s part : Schema} (h : part ∈ s.parts) :
    sizeOf part < sizeOf s := by
  have listed {l : Option (List Schema)} (h : part ∈ l.getD []) : sizeOf part < sizeOf l := by
    cases l with
    | none => simp at h
    | some l =>
      have := List.sizeOf_lt_of_mem h
      simp only [Option.getD_some] at this
      simp only [Option.some.sizeOf_spec]
      omega
  cases s with
  | mk reference types format title description properties required additional items =>
    simp only [parts] at h
    split at h
    · simp only [List.mem_singleton] at h
      subst h
      simp only [Schema.mk.sizeOf_spec, Option.some.sizeOf_spec]
      omega
    · simp only [List.mem_append, List.mem_map] at h
      simp only [Schema.mk.sizeOf_spec]
      rcases h with ((⟨entry, hentry, rfl⟩ | h) | h) | h
      · cases properties with
        | none => simp at hentry
        | some properties =>
          have := List.sizeOf_lt_of_mem hentry
          have : sizeOf entry.2 < sizeOf entry := by
            cases entry
            simp only [Prod.mk.sizeOf_spec]
            omega
          simp only [Option.getD_some] at *
          simp only [Option.some.sizeOf_spec]
          omega
      all_goals
        have := listed h
        omega

/-- The flags of a schema, references apart. They decide which views have a property, while the
names of a reference depend on what it leads to as well. -/
def flags (s : Schema) : ViewFlags :=
  if s.reference.isSome then s.ownFlags
  else s.parts.attach.foldl (fun found part => found.merge part.1.flags) s.ownFlags
termination_by sizeOf s
decreasing_by exact sizeOf_lt_of_mem_parts part.2

end Schema

/-- A way to find the flags of a schema, given the references on the way to it. -/
abbrev FlagFinder := List String → Schema → Run ViewFlags

namespace Setting

/-- The flags of what a reference leads to. A reference on the way to itself adds nothing. -/
def referenceFlags (c : Setting) (find : FlagFinder) (path : List String) (reference : String) :
    Run ViewFlags := do
  if path.contains reference then return {}
  match (← get).flags.get? reference with
  | some known => return known
  | none =>
    let schema ← c.schema reference
    let found ← find (reference :: path) schema
    Run.rememberFlags reference found
    return found

/-- Add the flags of a part to those that were found before, unless there is nothing more to
find. -/
def addPart (find : FlagFinder) (path : List String) (found : ViewFlags) (part : Schema) :
    Run ViewFlags := do
  if found.both then return found
  return found.merge (← find path part)

/-- The flags of a schema with all that it refers to, looking until both are found. -/
def flagsStep (c : Setting) (find : FlagFinder) : FlagFinder := fun path s => do
  if s.ownFlags.both then return s.ownFlags
  match s.reference with
  | some reference => return s.ownFlags.merge (← c.referenceFlags find path reference)
  | none => s.parts.foldlM (addPart find path) s.ownFlags

def flagsWithin (c : Setting) : Nat → FlagFinder
  | 0 => fun _ _ => throw .endless
  | fuel + 1 => c.flagsStep (c.flagsWithin fuel)

/-- The flags of what a reference leads to. No reference is entered twice on the way, and between
two references lies a part of the document. -/
def flagsOf (c : Setting) (reference : String) : Run ViewFlags :=
  c.referenceFlags (c.flagsWithin ((c.size + 2).pow 2)) [] reference

def keeps (c : Setting) (view : View) (property : Schema) : Bool :=
  c.options.mergeViews ||
    let flags := property.flags
    match view with
    | .base => !flags.readOnly && !flags.writeOnly
    | .read => flags.readOnly || !flags.writeOnly
    | .write => flags.writeOnly || !flags.readOnly

end Setting

end ClientGen
