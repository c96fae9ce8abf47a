import RelativeTime.Instruction.Token
import RelativeTime.Timestamp.Face

/-! Why there is no answer: the causes that are reported, their wording, and the one that is not. -/
namespace RelativeTime

inductive Error where
  | unknownUnit (word : String)
  /-- The instruction cannot be read from `rest` on. -/
  | unreadableInstruction (instruction rest : String)
  | badWeekday (digits : String)
  | unreadableTimestamp (text : String)
  | unknownZone (text : String)
  | oversizedMagnitude (delta : Delta)
  | shiftOutOfRange (amount : Int) (unit : TimeUnit)
  /-- A wall clock reading, or the way to it, has no place in the calendar. -/
  | readingOutOfRange (wall : Reading)
  deriving DecidableEq, Repr

inductive ErrorKind where
  | parse
  | unit
  | transform
  | zone
  deriving DecidableEq, Repr

namespace ErrorKind

def heading : ErrorKind → String
  | .parse => "Parse error: "
  | .unit => "Unit error: "
  | .transform => "Transform error: "
  | .zone => "Invalid timezone: "

end ErrorKind

namespace Error

def kind : Error → ErrorKind
  | .unknownUnit _ => .unit
  | .unreadableInstruction _ _ => .parse
  | .badWeekday _ => .parse
  | .unreadableTimestamp _ => .parse
  | .unknownZone _ => .zone
  | .oversizedMagnitude _ => .transform
  | .shiftOutOfRange _ _ => .transform
  | .readingOutOfRange _ => .transform

def detail : Error → String
  | .unknownUnit word => s!"Unknown unit string '{word}'"
  | .unreadableInstruction instruction rest =>
    s!"Cannot parse instruction '{instruction}'. There is an error at '{rest}'"
  | .badWeekday digits => s!"Bad weekday '{digits}'"
  | .unreadableTimestamp text =>
    s!"Invalid date supplied, unable to parse. Please use ISO 8601 format: '{text}'"
  | .unknownZone text => s!"'{text}'"
  | .oversizedMagnitude delta => s!"magnitude too large in '{delta.text}'"
  | .shiftOutOfRange amount unit =>
    s!"cannot add {amount} {unit.name}: result is outside the representable range"
  | .readingOutOfRange wall => s!"result is outside the representable range: {wall.text}"

def message (e : Error) : String := e.kind.heading ++ e.detail

end Error

inductive Failure where
  | reported (error : Error)
  /-- The instant exists, but the wall clock of its zone would read a date outside the calendar,
  and that reading was called for. -/
  | unshowable
  deriving DecidableEq, Repr

abbrev Answer (α : Type) := Except Failure α

instance decidableEqExcept {ε α : Type} [DecidableEq ε] [DecidableEq α] :
    DecidableEq (Except ε α)
  | .ok a, .ok b => decidable_of_iff (a = b) ⟨congrArg Except.ok, Except.ok.inj⟩
  | .error e, .error f => decidable_of_iff (e = f) ⟨congrArg Except.error, Except.error.inj⟩
  | .ok _, .error _ => isFalse nofun
  | .error _, .ok _ => isFalse nofun

def Answer.ofExcept {α : Type} (result : Except Error α) : Answer α :=
  result.mapError Failure.reported

end RelativeTime
