import ClientGen.Content
import ClientGen.Event

namespace ClientGen

structure LogRule where
  /-- What the names of the parts start with. -/
  start : String
  /-- The least urgent level that is shown; none if nothing is. -/
  limit : Option Level
  deriving DecidableEq, Repr

abbrev LogFilter := List LogRule

namespace LogFilter

def limit? (s : String) : Option (Option Level) :=
  match String.ofList (Content.lowerAscii s.toList) with
  | "off" | "0" => some none
  | "error" | "1" | "" => some (some .error)
  | "warn" | "2" => some (some .warn)
  | "info" | "3" => some (some .info)
  | "debug" | "4" => some (some .debug)
  | "trace" | "5" => some (some .trace)
  | _ => none

/-- The rule that a text states: a name and a limit, a limit for all parts, or a name alone, all of
whose events are shown. -/
def rule? (s : String) : Option LogRule :=
  let name := String.ofList (s.toList.takeWhile (· ≠ '='))
  match s.toList.dropWhile (· ≠ '=') with
  | _ :: limit => (limit? (String.ofList limit)).map fun limit => ⟨name, limit⟩
  | [] =>
    match limit? s with
    | some limit => some ⟨"", limit⟩
    | none => some ⟨s, some .trace⟩

def whole (limit : Option Level) : LogFilter := [⟨"fetchgen", limit⟩, ⟨"fetchgen_core", limit⟩]

def limitNames : List String := ["trace", "debug", "info", "warn", "error", "off"]

/-- The filter that a text states: one limit, or rules with commas between them. Without any rule
only errors are shown. -/
def ofText (s : String) : LogFilter :=
  if limitNames.contains (String.ofList (Content.lowerAscii s.toList)) then
    whole ((limit? s).getD none)
  else
    let parts := ((Text.splitAt ',' s.toList).filter fun part => !part.isEmpty).map String.ofList
    match parts.filterMap rule? with
    | [] => [⟨"", some .error⟩]
    | rules => rules

def default : LogFilter := whole (some .warn)

def LogRule.isFor (r : LogRule) (e : Event) : Bool := r.start.toList.isPrefixOf e.origin.toList

/-- Of two rules for a part the one that decides: that with the longer text, or the later one.
Events of a part without a rule are not shown. -/
def stronger (found : Option LogRule) (r : LogRule) : Option LogRule :=
  match found with
  | none => some r
  | some other => if other.start.length ≤ r.start.length then some r else some other

def shows (f : LogFilter) (e : Event) : Bool :=
  match (f.filter (LogRule.isFor · e)).foldl stronger none with
  | none => false
  | some r => r.limit.any fun limit => e.level.rank ≤ limit.rank

end LogFilter

end ClientGen
