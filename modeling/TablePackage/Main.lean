import Std.Time.Zoned
import TablePackage.CommandLine.Program

/-!
# The command line

Reads the files and the environment, runs the program on them, prints what it prints, and
writes the files that it has changed.
-/

open TablePackage

/-- What stands at a path on the disk, if anything does. -/
def onDisk? (path : Path) : IO (Option Node) := do
  let place := (← IO.currentDir) / String.ofList path.toText
  if ← place.isDir then return some .directory
  else if ← place.pathExists then return some (.file (← IO.FS.readBinFile place).toList)
  else return none

/-- The files at some paths. -/
def snapshot (paths : List Path) : IO Files :=
  paths.foldlM (fun files path => do
    match ← onDisk? path with
    | some node => return files.create path node
    | none => return files) {}

/-- Writes the files at some paths, as far as they are not what they were. -/
def store (before after : Files) (paths : List Path) : IO Unit :=
  paths.forM fun path =>
    match before.read path, after.read path with
    | .ok old, .ok new =>
      if old = new then return
      else IO.FS.writeBinFile (String.ofList path.toText) (ByteArray.mk new.toArray)
    | _, _ => return

/-- The time of day by the local clock, as the log writes it. -/
def clock : IO Text := do
  let now ← Std.Time.PlainDateTime.now
  let padded (width : Nat) (n : Int) : Text :=
    let digits := Text.ofInt n
    List.replicate (width - digits.length) '0' ++ digits
  let date := [padded 4 now.date.year, padded 2 now.date.month.val, padded 2 now.date.day.val]
  let time := [now.time.hour.val, now.time.minute.val, now.time.second.val].map (padded 2)
  let thousandths := padded 3 (now.time.nanosecond.val / 1000000)
  return Text.join "-" date ++ " " ++ Text.join ":" time ++ "," ++ thousandths

/-- Runs the program with the arguments of its command line. -/
def main (args : List String) : IO UInt32 := do
  let arguments := args.map String.toList
  let env : Environment :=
    match ← IO.getEnv (String.ofList Config.defaultVariable) with
    | some path => [(Config.defaultVariable, path.toList)]
    | none => []
  let paths := CommandLine.consulted env arguments
  let files ← snapshot paths
  let report := CommandLine.run ⟨files, env, ← clock, false⟩ arguments
  store files report.files paths
  (← IO.getStdout).putStr (String.ofList report.out)
  (← IO.getStderr).putStr (String.ofList report.err)
  return .ofNat report.exit
