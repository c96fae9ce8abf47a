import RelativeTime.Shift
import RelativeTime.Truncation

/-! Applying the tokens of an instruction to an instant, one after the other. -/
namespace RelativeTime

def Delta.apply (d : Delta) (i : Instant) : Answer Instant :=
  match d.amount? with
  | some amount => i.plus d.unit amount
  | none => .error (.reported (.oversizedMagnitude d))

def daysSince (weekday asked : Nat) : Nat := (weekday + 7 - asked % 7) % 7

/-- A snap on weeks first moves back to the weekday, keeping the time of day, and then to the
start of that day. -/
def Snap.apply (s : Snap) (i : Instant) : Answer Instant :=
  match s.unit with
  | .weeks => do
    let aligned ← i.plus .days (-(daysSince i.weekday (s.weekday.getD 0) : Int))
    aligned.startOf .days
  | unit => i.startOf unit

def Token.apply : Token → Instant → Answer Instant
  | .delta d, i => d.apply i
  | .snap s, i => s.apply i

def evaluate (i : Instant) (tokens : List Token) : Answer Instant :=
  tokens.foldlM (fun i t => t.apply i) i

end RelativeTime
