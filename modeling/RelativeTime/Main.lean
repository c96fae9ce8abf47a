import RelativeTime.CommandLine.Run
import RelativeTime.Zone.Catalogue

/-! The program: arguments and environment in, output, report and exit code out. -/
open RelativeTime RelativeTime.CommandLine

def main (arguments : List String) : IO UInt32 := do
  let host ← IO.getEnv "TZ"
  let zone ← IO.getEnv "SNAPTIME_ZONE"
  -- The system is not asked for its zone.
  let outcome := run ⟨Zone.ofSetting (host.getD ""), zone⟩ arguments
  IO.print outcome.output
  IO.eprint outcome.report
  match outcome with
  | .misused =>
    IO.eprintln "usage: snaptime snap TIMESTAMP [INSTRUCTION] [--zone ZONE]"
    IO.eprintln "       snaptime unsnap TARGET ANCHOR [--zone ZONE]"
    IO.eprintln "       snaptime parse INSTRUCTION [--json]"
  | .unshowable => IO.eprintln "the wall clock cannot be dated"
  | _ => pure ()
  return outcome.code.toUInt32
