import RelativeTime.Main
import RelativeTime.Session
import RelativeTime.Proofs.Timestamp.Strictness
import RelativeTime.Proofs.RoundTrip
import RelativeTime.Proofs.Composition
import RelativeTime.Proofs.Unreported
import RelativeTime.Proofs.Agreement
import RelativeTime.Proofs.Idempotence
import RelativeTime.Proofs.Unsnap
import RelativeTime.Proofs.Interchange
import RelativeTime.Proofs.Greedy
import RelativeTime.Proofs.Choice
import RelativeTime.Proofs.WeekStart
import RelativeTime.Proofs.Zone.Gap
import RelativeTime.Proofs.ZeroShift
import RelativeTime.Proofs.DateStart
import RelativeTime.Proofs.HourStart
import RelativeTime.Proofs.WeekDate
import RelativeTime.Proofs.Displacement
import RelativeTime.Proofs.MonthSum
import RelativeTime.Proofs.WrittenTarget
import RelativeTime.Proofs.Collapse
import RelativeTime.Proofs.Timestamp.Identity
import RelativeTime.Proofs.Trials
import RelativeTime.Proofs.Absorption
import RelativeTime.Proofs.Normalization
import RelativeTime.Proofs.Instruction.Flaws
import RelativeTime.Proofs.Magnitude
import RelativeTime.Proofs.InsertedStart
import RelativeTime.Proofs.Zone.OffsetText
import RelativeTime.Proofs.CommandLine.ParseCommand
import RelativeTime.Proofs.Search
import RelativeTime.Proofs.Capacity
import RelativeTime.Proofs.Session
