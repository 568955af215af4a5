import FileTags.Command.Run

/-!
# The command line

Runs the words of the command line on a volume in memory, which has the folder of work, the user's
own folder, and the settings files that are found on disk. What is printed goes to the standard
output and the notes to the standard error.
-/

set_option autoImplicit false

namespace FileTags.CommandLine

def plant (n : Node) : Place → Volume → Volume
  | [], v => v
  | name :: above, v =>
    let v := plant .folder above v
    if (v.node? (name :: above)).isSome then v
    else { v with nodes := v.nodes ++ [(name :: above, n)] }

def placeOf (p : Path) : Place := p.names.reverse.map Utf8.bytes

def bytesOf (t : Text) : ByteArray := ⟨(Utf8.bytes t).toArray⟩

def volumeWith (work home : Path) : Volume :=
  plant .folder (placeOf home) (plant .folder (placeOf work) ⟨[], [], [], true, placeOf work⟩)

def addFile (v : Volume) (p : Path) : IO Volume := do
  match String.fromUTF8? (bytesOf p.text) with
  | none => return v
  | some name =>
    try
      let content ← IO.FS.readBinFile name
      return plant (.file content.data.toList) (placeOf p) v
    catch _ => return v

def writeLine (out : IO.FS.Stream) (line : Text) : IO Unit :=
  out.write (bytesOf (line ++ [.char '\n']))

def usageText : String :=
  "usage: [-h] [--config FILE] [-v] " ++
    "|".intercalate (Command.Kind.all.map Command.Kind.name) ++ " ..."

def report (ending : Ending) (s : Session) : IO UInt32 := do
  for line in s.output do
    writeLine (← IO.getStdout) line
  for n in s.notes do
    writeLine (← IO.getStderr) n.line
  match ending with
  | .usage code => do
    IO.eprintln usageText
    return UInt32.ofNat code
  | .exit code => return UInt32.ofNat code
  | .failed e => do
    writeLine (← IO.getStderr) e.message
    return 1

end FileTags.CommandLine

open FileTags in
def main (args : List String) : IO UInt32 := do
  let work := Path.ofText (Text.ofString (← IO.currentDir).toString)
  let homeText := Text.ofString ((← IO.getEnv "HOME").getD "/")
  let home := Path.ofText homeText
  let words := args.map Text.ofString
  let v ← (Settings.candidates work home).foldlM CommandLine.addFile
    (CommandLine.volumeWith work home)
  let (ending, s) := CommandLine.runWords ⟨homeText, []⟩ none words v
  CommandLine.report ending s
