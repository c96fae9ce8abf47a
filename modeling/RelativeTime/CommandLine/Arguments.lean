/-!
The arguments of the command line.

Timestamps never start with a hyphen and instructions often do. So a text that starts with one is
taken for an instruction where one may stand next, unless it spells an option of the subcommand,
and is refused everywhere else. A lone hyphen is a text like any other, and after `--` all
are.
-/
namespace RelativeTime.CommandLine

inductive Command where
  | version
  | snap (timestamp instruction : String) (zone : Option String)
  | unsnap (target anchor : String) (zone : Option String)
  | parse (instruction : String) (json : Bool)
  deriving DecidableEq, Repr

/-- What a subcommand takes: its places, each with whether a hyphen may open the text there, and
its options. -/
structure Form where
  places : List Bool
  zone : Bool
  json : Bool
  deriving DecidableEq, Repr

structure Gathered where
  texts : List String
  zone : Option String
  json : Bool
  deriving DecidableEq, Repr

inductive Part where
  | text
  | separator
  | zone (value : Option String)
  | json
  | refused
  deriving DecidableEq, Repr

namespace Form

def hyphenNext (f : Form) (g : Gathered) : Bool := f.places.getD g.texts.length false

def unlisted (hyphen : Bool) : Part := if hyphen then .text else .refused

/-- An option written in full, from behind its two hyphens on. Asking for help is refused, too:
there is none. -/
def longOption (f : Form) (hyphen : Bool) (cs : List Char) : Part :=
  let name := String.ofList (cs.takeWhile (· != '='))
  let value? :=
    match cs.dropWhile (· != '=') with
    | [] => none
    | _ :: value => some (String.ofList value)
  if name == "help" then .refused
  else if name == "zone" && f.zone then .zone value?
  else if name == "json" && f.json then if value?.isSome then .refused else .json
  else unlisted hyphen

def part (f : Form) (hyphen : Bool) (argument : String) : Part :=
  match argument.toList with
  | ['-', '-'] => .separator
  | '-' :: '-' :: cs => f.longOption hyphen cs
  | '-' :: c :: cs => if (c :: cs).all (· == 'h') then .refused else unlisted hyphen
  | _ => .text

/-- All arguments, unless one is refused, an option stands twice, or a zone is missing. -/
def gather? (f : Form) (g : Gathered) : List String → Option Gathered
  | [] => some g
  | argument :: rest =>
    match f.part (f.hyphenNext g) argument with
    | .text => f.gather? { g with texts := g.texts ++ [argument] } rest
    | .separator => some { g with texts := g.texts ++ rest }
    | .json => if g.json then none else f.gather? { g with json := true } rest
    | .zone (some value) =>
      if g.zone.isSome then none else f.gather? { g with zone := some value } rest
    | .zone none =>
      match rest with
      | [] => none
      | value :: rest =>
        if g.zone.isSome || f.part (f.hyphenNext g) value != .text then none
        else f.gather? { g with zone := some value } rest
    | .refused => none

end Form

namespace Command

def ofArguments? : List String → Option Command
  | [] => none
  | first :: rest =>
    let gather (f : Form) := f.gather? ⟨[], none, false⟩ rest
    if first == "--version" || first.startsWith "-V" then some .version
    else if first == "snap" then
      match gather ⟨[false, true], true, false⟩ with
      | some ⟨[timestamp], zone, _⟩ => some (.snap timestamp "" zone)
      | some ⟨[timestamp, instruction], zone, _⟩ => some (.snap timestamp instruction zone)
      | _ => none
    else if first == "unsnap" then
      match gather ⟨[false, false], true, false⟩ with
      | some ⟨[target, anchor], zone, _⟩ => some (.unsnap target anchor zone)
      | _ => none
    else if first == "parse" then
      match gather ⟨[true], false, true⟩ with
      | some ⟨[instruction], _, json⟩ => some (.parse instruction json)
      | _ => none
    else none

end Command

end RelativeTime.CommandLine
