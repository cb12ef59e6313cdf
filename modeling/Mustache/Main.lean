import Mustache.Command.Help
import Mustache.Command.Run
import Mustache.View.Catalogue
import Mustache.Yaml.Loader

/-!
**The command line.**

Files are read and written here, and nothing is decided: a command is performed on the files that it
asked for, as long as it asks for more.
-/

namespace Mustache.CommandLine

/-- The content of a file, if there is one that can be read. -/
def contentOf? (path : Path) : IO (Option (List UInt8)) := do
  try
    let content ← IO.FS.readBinFile path.text
    return some content.toList
  catch _ => return none

/-- All that a stream holds from here on. -/
partial def drain (stream : IO.FS.Stream) (before : ByteArray) : IO ByteArray := do
  let chunk ← stream.read 65536
  if chunk.isEmpty then return before else drain stream (before ++ chunk)

/-- The settings of the environment that count. -/
def environment : IO (List (String × String)) := do
  let mut settings := []
  for name in ["STACHE_CACHE", "STACHE_DEBUG"] do
    if let some value ← IO.getEnv name then settings := (name, value) :: settings
  return settings

/-- The world with all files that a command asks for. -/
partial def withFiles {ρ : Type} (command : Command) (world : World ρ) (tried : List Path) :
    IO (World ρ) := do
  let fresh := (command.filesAskedFor world).filter fun path => !tried.contains path
  if fresh.isEmpty then return world
  let mut files := world.files
  for path in fresh do
    if let some content ← contentOf? path then
      files := files.withFile (FileTree.namesOf path) content
  withFiles command { world with files := files } (tried ++ fresh)

/-- A text written to where a command writes to. -/
def write (text : String) : Option Path → IO Unit
  | some path => IO.FS.writeFile path.text text
  | none => do (← IO.getStdout).putStr text

/-- A command carried out; its exit code. -/
def carryOut (command : Command) : IO UInt32 := do
  let readsInput := command.source.template = Command.standardInput
  let input ← if readsInput then drain (← IO.getStdin) .empty else pure .empty
  let bare : World Yaml.Loader :=
    { files := .empty, input := input.toList, environment := ← environment
      yaml := Yaml.reader, left := ⟨{}, {}⟩, host := Catalogue.host }
  let world ← withFiles command bare []
  let performance := command.perform world
  IO.eprint (command.noteLines world performance.notes)
  match performance.text with
  | .ok text =>
    write text command.destination?
    return 0
  | .error refusal =>
    match refusal.report with
    | .ok report =>
      IO.eprint report
      return 2
    | .error fault =>
      IO.eprintln (fault.message?.getD "internal fault")
      return 1

end Mustache.CommandLine

/-- The program: its arguments are run as a command. -/
def main (arguments : List String) : IO UInt32 := do
  match Mustache.Command.ofArguments arguments with
  | .ok command => Mustache.CommandLine.carryOut command
  | .error .help =>
    IO.print Mustache.Command.helpText
    return 0
  | .error .version =>
    IO.print Mustache.Command.versionLine
    return 0
  | .error .commandHelp =>
    IO.eprintln "internal fault"
    return 1
  | .error .misuse =>
    IO.eprint Mustache.Command.usageLine
    return 2
