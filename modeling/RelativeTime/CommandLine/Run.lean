import RelativeTime.CommandLine.Arguments
import RelativeTime.Instruction.Record
import RelativeTime.Operations

/-! Running a command: what it prints and how it ends. -/
namespace RelativeTime.CommandLine

inductive Outcome where
  | printed (output : String)
  | failed (report : String)
  /-- The arguments spell no command. -/
  | misused
  /-- There is an instant to print, but no date for it. -/
  | unshowable
  deriving DecidableEq, Repr

namespace Outcome

def code : Outcome → Nat
  | .printed _ => 0
  | .failed _ => 1
  | .misused => 2
  | .unshowable => 101

def output : Outcome → String
  | .printed output => output
  | _ => ""

def report : Outcome → String
  | .failed report => report
  | _ => ""

def ofAnswer (task : String) : Answer String → Outcome
  | .ok output => .printed output
  | .error (.reported e) => .failed s!"Error: cannot {task}: {e.message}\n"
  | .error .unshowable => .unshowable

end Outcome

structure Surroundings where
  host : Zone
  zone : Option String
  deriving DecidableEq, Repr

def Surroundings.setting (s : Surroundings) (asked : Option String) : Setting :=
  ⟨s.host, asked.or s.zone⟩

def tokenLines (tokens : List Token) : String :=
  String.ofList (tokens.flatMap fun t => t.chars ++ ['\n'])

variable [Zone.Names]

def Command.run (s : Surroundings) : Command → Outcome
  | .version => .printed "snaptime 0.2.0\n"
  | .snap timestamp instruction zone =>
    .ofAnswer s!"apply '{instruction}' to '{timestamp}'"
      ((RelativeTime.snap (s.setting zone) timestamp instruction).map (· ++ "\n"))
  | .unsnap target anchor zone =>
    .ofAnswer s!"unsnap '{target}' from '{anchor}'"
      ((RelativeTime.unsnap (s.setting zone) target anchor).map (· ++ "\n"))
  | .parse instruction json =>
    .ofAnswer s!"parse '{instruction}'"
      ((Answer.ofExcept (RelativeTime.parse instruction)).map fun tokens =>
        if json then recordsJson (tokens.map Token.record) ++ "\n" else tokenLines tokens)

def run (s : Surroundings) (arguments : List String) : Outcome :=
  match Command.ofArguments? arguments with
  | some command => command.run s
  | none => .misused

end RelativeTime.CommandLine
