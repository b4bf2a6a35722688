import ScriptLink.Launch.Run

/-!
# ScriptLink.Main — the command line

Looks at the files and variables that the configuration asks for, reads external input to its end where
it is forwarded, and runs the host. A failure is reported to the standard error stream. There is no telemetry here,
so setting it up succeeds.
-/

namespace ScriptLink.Process

def text (path : String) : IO String := do
  return Text.Utf8.lossy (← IO.FS.readBinFile path).toList

def environment : IO (List (String × String)) := do
  let entries ← try text "/proc/self/environ" catch _ => pure ""
  return (Text.split '\x00' entries).filterMap fun entry =>
    match Argument.parts entry with
    | (name, some value) => some (name, value)
    | (_, none) => none

/-- The beginnings of a path at its slashes, the path itself the last of them. -/
def beginnings (path : String) : List String :=
  let pieces := Path.pieces path
  ((List.range pieces.length).map fun n => "/".intercalate (pieces.take (n + 1))).filter (· ≠ "")

/-- Enters what stands at a path and on the way to it. -/
def look (tree : FileTree) (path : String) : IO FileTree :=
  (beginnings path).foldlM (fun tree path => do
    try return tree.add path (← text path)
    catch
      | .inappropriateType .. => return tree.addDirectory path
      | _ => return tree) tree

/-- Enters what stands at a path, and the files that it extends. -/
partial def follow (tree : FileTree) (path : String) : IO FileTree := do
  let tree ← look tree path
  match (SettingsFile.read? tree path).bind fun f => f.base?.join with
  | some base => if tree.isFile base then return tree else follow tree base
  | none => return tree

/-- The components of the working directory, or why it is not to be had. -/
def workingDirectory : IO (Except String (List String)) := do
  try return .ok ((Path.pieces (← IO.currentDir).toString).filter (· ≠ ""))
  catch e => return .error (toString e)

def surroundings (args : List Argument) (working : List String) : IO Surroundings := do
  let around : Surroundings := ⟨← environment, ⟨[], [], working⟩⟩
  let flags := (Argument.split args).1.tail
  match Argument.settings? flags with
  | none => return around
  | some s =>
    let tree ← (Config.settingsPaths s around).foldlM follow around.tree
    let around := { around with tree }
    match Config.gather? flags around with
    | none => return around
    | some config =>
      let paths := HostSettings.targetPaths config around.tree.workingPath
      return { around with tree := ← paths.foldlM look around.tree }

partial def remaining (input : IO.FS.Stream) (sofar : ByteArray) : IO ByteArray := do
  let more ← input.read 65536
  if more.isEmpty then return sofar else remaining input (sofar ++ more)

def inputLines (settings : Except BootstrapFault HostSettings) : IO (List String) :=
  match settings with
  | .ok s =>
    match s.config.driveMode with
    | .persistent => do
      let bytes ← remaining (← IO.getStdin) .empty
      return Launch.inputLines bytes.toList
    | .oneshot => return []
  | .error _ => return []

/-- The most rounds of a launch. -/
def patience : Nat := 0x1000000000000000

end ScriptLink.Process

open ScriptLink

def main (args : List String) : IO UInt32 := do
  let args : List Argument := .text "duplexd" :: args.map .text
  let working ← Process.workingDirectory
  let around ← Process.surroundings args (working.toOption.getD [])
  let startup : Startup := ⟨fun _ => .ok (), working.map fun _ => around.tree⟩
  let settings := HostSettings.ofArguments args around startup
  let parts := Launch.builtinParts (← Process.inputLines settings)
  match (Launch.host Process.patience settings (fun _ => 0) parts).1 with
  | some (.error f) =>
    IO.eprintln f.report
    return 1
  | _ => return 0
