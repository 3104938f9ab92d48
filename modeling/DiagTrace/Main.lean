import DiagTrace.CommandLine.Run
import Std.Time.DateTime.Timestamp

/-! The program: a run of the command line over the files of the machine and its clock. -/
namespace DiagTrace.CommandLine

def machineFiles : Files IO where
  read path := do
    match ← (IO.FS.readBinFile path).toBaseIO with
    | .ok content => return some content.toList
    | .error _ => return none
  write path text := do
    match ← (IO.FS.writeFile path text).toBaseIO with
    | .ok _ => return true
    | .error _ => return false

def machineTime : IO Timestamp := do
  let now ← Std.Time.Timestamp.now
  return ⟨now.val.second.val, now.val.nano.val.toNat⟩

end DiagTrace.CommandLine

def main (words : List String) : IO UInt32 := do
  let now ← DiagTrace.CommandLine.machineTime
  let outcome ← DiagTrace.CommandLine.run DiagTrace.CommandLine.machineFiles now words
  IO.print outcome.printed
  return outcome.code
