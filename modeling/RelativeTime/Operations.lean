import RelativeTime.Reconstruction
import RelativeTime.Timestamp.Reader
import RelativeTime.Zone.Names

/-! Texts in, texts out: applying an instruction to a timestamp, and finding one between two. -/
namespace RelativeTime

structure Setting where
  host : Zone
  asked : Option String := none
  deriving DecidableEq, Repr

namespace Setting

variable [Zone.Names]

def zone (s : Setting) : Answer Zone :=
  match s.asked with
  | some text => .ofExcept (Zone.ofText text)
  | none => .ok s.host

/-- The instant that a timestamp names. A bad zone is reported before a bad timestamp. -/
def read (s : Setting) (timestamp : String) : Answer Instant := do
  let zone ← s.zone
  zone.read timestamp

end Setting

variable [Zone.Names]

/-- The timestamp after the instruction. An empty one gives it back as it was written, once it has
been read. -/
def snap (s : Setting) (timestamp instruction : String) : Answer String := do
  let start ← s.read timestamp
  if instruction.isEmpty then return timestamp
  let tokens ← Answer.ofExcept (parse instruction)
  let reached ← evaluate start tokens
  reached.format

def unsnap (s : Setting) (target anchor : String) : Answer String := do
  let target ← s.read target
  let anchor ← s.read anchor
  anchor.instructionTo target

end RelativeTime
