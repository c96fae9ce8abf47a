import RelativeTime.Zone.Offset
import RelativeTime.Zone.Rules

/-! A zone is one offset for ever or a name with rules for its clock. -/
namespace RelativeTime

inductive Zone where
  | fixed (offset : FixedOffset)
  | named (name : String) (rules : Rules)
  deriving DecidableEq, Repr

namespace Zone

def rules : Zone → Rules
  | .fixed offset => .constant offset.seconds
  | .named _ rules => rules

end Zone

end RelativeTime
