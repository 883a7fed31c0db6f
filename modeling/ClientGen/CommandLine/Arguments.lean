import ClientGen.Options

namespace ClientGen

inductive Switch where
  | optimistic
  | namedEnums
  | mergeViews
  | useUnknown
  | unionUndefined
  | allSchemas
  deriving DecidableEq, Repr

inductive ValueFlag where
  | includeTag
  | excludeTag
  | runtimeModule
  | runtimeDirectory
  | config
  deriving DecidableEq, Repr

namespace ValueFlag

def repeats : ValueFlag → Bool
  | .includeTag | .excludeTag => true
  | .runtimeModule | .runtimeDirectory | .config => false

/-- Whether the value of a flag is a path, which may not be empty. -/
def isPath : ValueFlag → Bool
  | .runtimeDirectory | .config => true
  | .includeTag | .excludeTag | .runtimeModule => false

end ValueFlag

inductive FlagMeaning where
  | switch (s : Switch)
  | value (f : ValueFlag)
  | help
  | version
  deriving DecidableEq, Repr

def FlagMeaning.ofName? : String → Option FlagMeaning
  | "include" => some (.value .includeTag)
  | "exclude" => some (.value .excludeTag)
  | "optimistic" => some (.switch .optimistic)
  | "useEnumType" => some (.switch .namedEnums)
  | "mergeReadWriteOnly" => some (.switch .mergeViews)
  | "useUnknown" => some (.switch .useUnknown)
  | "unionUndefined" => some (.switch .unionUndefined)
  | "allSchemas" => some (.switch .allSchemas)
  | "runtimeModule" => some (.value .runtimeModule)
  | "emitRuntime" => some (.value .runtimeDirectory)
  | "config" => some (.value .config)
  | "help" => some .help
  | "version" => some .version
  | _ => none

/-- The arguments as far as they are read. -/
structure Arguments where
  paths : List String := []
  switches : List Switch := []
  values : List (ValueFlag × String) := []
  deriving DecidableEq, Repr

inductive Request where
  | help
  | version
  | generate (arguments : Arguments)
  deriving DecidableEq, Repr

namespace Arguments

/-- Add a path: that of the document, and then that of the output. -/
def addPath (a : Arguments) (path : String) : Option Arguments :=
  if path.isEmpty || 2 ≤ a.paths.length then none else some { a with paths := a.paths ++ [path] }

def addSwitch (a : Arguments) (s : Switch) : Option Arguments :=
  if a.switches.contains s then none else some { a with switches := a.switches ++ [s] }

def valuesOf (a : Arguments) (flag : ValueFlag) : List String :=
  (a.values.filter fun entry => entry.1 = flag).map Prod.snd

def addValue (a : Arguments) (flag : ValueFlag) (value : String) : Option Arguments :=
  if flag.isPath && value.isEmpty then none
  else if !flag.repeats && !(a.valuesOf flag).isEmpty then none
  else some { a with values := a.values ++ [(flag, value)] }

def finish (a : Arguments) : Option Request :=
  if a.paths.isEmpty then none else some (.generate a)

/-- An argument that looks like a flag: a dash, and more after it. -/
def looksLikeFlag (argument : String) : Bool :=
  match argument.toList with
  | '-' :: _ :: _ => true
  | _ => false

def splitFlag (cs : List Char) : String × Option String :=
  let name := String.ofList (cs.takeWhile (· ≠ '='))
  match cs.dropWhile (· ≠ '=') with
  | _ :: value => (name, some (String.ofList value))
  | [] => (name, none)

/-- Read arguments from left to right; `none` if they are used wrongly. The first fault, or the
first question for help or the version, decides. A value follows an equals sign or is the next
argument, and what follows two dashes is a path. -/
def readFrom (a : Arguments) : List String → Option Request
  | [] => a.finish
  | argument :: rest =>
    match argument.toList with
    | ['-', '-'] => (rest.foldlM addPath a).bind finish
    | '-' :: '-' :: flag =>
      let (name, attached) := splitFlag flag
      match FlagMeaning.ofName? name, attached with
      | none, _ => none
      | some .help, none => some .help
      | some .version, none => some .version
      | some (.switch s), none => (a.addSwitch s).bind fun a => readFrom a rest
      | some (.value f), some value => (a.addValue f value).bind fun a => readFrom a rest
      | some (.value f), none =>
        match rest with
        | value :: rest =>
          if looksLikeFlag value then none
          else (a.addValue f value).bind fun a => readFrom a rest
        | [] => none
      | some _, some _ => none
    | '-' :: 'h' :: _ => some .help
    | '-' :: 'V' :: _ => some .version
    | '-' :: _ :: _ => none
    | _ => (a.addPath argument).bind fun a => readFrom a rest

def read (arguments : List String) : Option Request := readFrom {} arguments

def documentPath (a : Arguments) : String := a.paths.headD ""

def outputPath? (a : Arguments) : Option String := a.paths[1]?

def configPath? (a : Arguments) : Option String := (a.valuesOf .config).head?

def runtimeDirectory? (a : Arguments) : Option String := (a.valuesOf .runtimeDirectory).head?

def has (a : Arguments) (s : Switch) : Bool := a.switches.contains s

/-- Options with what the arguments say of them: tags are added, switches only turn on. -/
def options (a : Arguments) (base : Options) : Options where
  includeTags := base.includeTags ++ a.valuesOf .includeTag
  excludeTags := base.excludeTags ++ a.valuesOf .excludeTag
  optimistic := base.optimistic || a.has .optimistic
  namedEnums := base.namedEnums || a.has .namedEnums
  mergeViews := base.mergeViews || a.has .mergeViews
  useUnknown := base.useUnknown || a.has .useUnknown
  unionUndefined := base.unionUndefined || a.has .unionUndefined
  allSchemas := base.allSchemas || a.has .allSchemas
  runtimeModule := (a.valuesOf .runtimeModule).head?.getD base.runtimeModule

end Arguments

end ClientGen
