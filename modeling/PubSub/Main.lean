import PubSub.Demo

/-!
# The demo as a program

Writes what the demo reports and ends with its exit code.
-/

/-- Runs the demo for the arguments of the command line. -/
def main (arguments : List String) : IO UInt32 := do
  let report := PubSub.Demo.start arguments
  for line in report.lines do
    IO.println line
  unless report.complaint.isEmpty do
    IO.eprintln report.complaint
  return report.code.toUInt32
