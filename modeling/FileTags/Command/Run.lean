import FileTags.Command.Basic
import FileTags.Failure
import FileTags.TagMap.Rename

/-!
# Running commands

A command works on its paths one after another and ends at the first failure; what it has done by
then stays done. A foreseen failure is noted as an error.
-/

set_option autoImplicit false

namespace FileTags

namespace Command

def tagsOf (s : Settings) (path : Text) : Action Failure TagMap :=
  Action.ask fun v => (v.tags s.tagAttribute path).mapError .tags

def storeTags (s : Settings) (path : Text) (m : TagMap) : Action Failure Unit := do
  Action.change fun v => (v.storeTags s.tagAttribute path m).mapError .tags
  Action.note .debug (Text.ofString s!"Stored {m.size} tags on " ++ path)

def readTagList (t : Text) : Action Failure TagMap := ofExcept ((TagMap.decode t).mapError .tagList)

def showPath (s : Settings) (path : Text) : Action Failure Unit := do
  let m ← tagsOf s path
  Action.print (path ++ .char ':' :: .char ' ' :: TagMap.encodeEntries m.sorted)

def addTo (s : Settings) (new : TagMap) (path : Text) : Action Failure Unit := do
  let m ← tagsOf s path
  storeTags s path (m.update new)
  Action.note .info (Text.ofString "Tagged " ++ path)

def removeFrom (s : Settings) (gone : List Text) (path : Text) : Action Failure Unit := do
  let m ← tagsOf s path
  storeTags s path (m.eraseAll gone)

def clearPath (s : Settings) (path : Text) : Action Failure Unit :=
  Action.change fun v => (v.deleteBlob s.tagAttribute path).mapError .tags

def renamed (find : Text) (replace : Option Text) (m : TagMap) : Except RenameFault TagMap :=
  match Pattern.ofSource find with
  | .error e => .error (.badPattern find e)
  | .ok p =>
    match replace with
    | some template => (m.rename p template).mapError .tooManyDigits
    | none => if m.names.any p.accepts then .error .noReplacement else .ok m

def renameOn (s : Settings) (find : Text) (replace : Option Text) (path : Text) :
    Action Failure Unit := do
  let m ← tagsOf s path
  storeTags s path (← ofExcept ((renamed find replace m).mapError .rename))

def bookmarks (homes : Homes) (s : Settings) : Action Failure BookmarkFolder :=
  ofExcept ((BookmarkFolder.ofPath homes (Path.ofText s.bookmarkFolder)).mapError .noHome)

def compile (homes : Homes) (s : Settings) (term : Text) : Action Failure Filter := do
  let folder ← bookmarks homes s
  (folder.compileNoted term).adapt .term

def printFound (showTags : Bool) (file : TaggedFile) : Action Failure Unit :=
  Action.print (if showTags then file.path ++ .char ':' :: .char ' ' :: file.tags.encode
    else file.path)

def searchIn (homes : Homes) (s : Settings) (term : Text) (roots : List Text) (showTags : Bool) :
    Action Failure Unit := do
  let filter ← compile homes s term
  let result := Walk.run s (← get).volume (some filter) roots
  Action.noteAll result.notes
  result.files.forM (printFound showTags)
  match result.fault with
  | some e => throw (.walk e)
  | none =>
    Action.note .debug
      (Text.ofString s!"Scanned {result.stats.scanned} files, {result.stats.matched} matched")

def run (homes : Homes) (s : Settings) : Command → Action Failure Unit
  | .show paths => paths.forM (showPath s)
  | .add tags paths => do
    let new ← readTagList tags
    paths.forM (addTo s new)
  | .remove names paths => do
    let gone ← readTagList names
    paths.forM (removeFrom s gone.names)
  | .clear paths => paths.forM (clearPath s)
  | .rename find replace paths => paths.forM (renameOn s find replace)
  | .search term roots showTags => searchIn homes s term roots showTags
  | .check term => do
    let filter ← compile homes s term
    Action.print filter.text
  | .bookmark name none => do
    let folder ← bookmarks homes s
    Action.print (← Action.ask fun v => (folder.resolve v name).mapError .term)
  | .bookmark name (some term) => do
    let folder ← bookmarks homes s
    discard ((folder.save name term).adapt .term)

end Command

namespace CommandLine

def settingsFor (homes : Homes) (given : Option Settings) (file : Text) :
    Action Failure Settings := do
  match given with
  | some s => return s
  | none =>
    let loaded ← (Settings.load homes file false).adapt .settings
    Action.noteAll (loaded.cautions.map fun c => ⟨.debug, c.message⟩)
    return loaded.settings

def runCommand (homes : Homes) (given : Option Settings) (line : CommandLine) (c : Command) :
    Action Failure Unit := do
  let s ← settingsFor homes given line.settingsFile
  c.run homes s

def exitCode (outcome : Except Failure Unit) : Action Failure Nat := do
  match outcome with
  | .ok () => return 0
  | .error e =>
    if e.isForeseen then
      Action.note .error e.message
      return 1
    else throw e

def run (homes : Homes) (given : Option Settings) (line : CommandLine) (c : Command) :
    Action Failure Nat := do
  let outcome ← ExceptT.lift (runCommand homes given line c).run
  exitCode outcome

def isShown (line : CommandLine) (n : Note) : Bool :=
  if line.verbose then true else Severity.info.rank ≤ n.severity.rank

end CommandLine

inductive Ending
  /-- The usage is shown instead. -/
  | usage (code : Nat)
  | exit (code : Nat)
  | failed (e : Failure)
  deriving DecidableEq, Repr

namespace Ending

/-- Help is no failure; words that make no command are, and so is a line without a command. -/
def ofStop : Stop → Ending
  | .help => usage 0
  | .misuse => usage 2

def ofOutcome : Except Failure Nat → Ending
  | .ok code => exit code
  | .error e => failed e

end Ending

/-- Runs a command line on a volume. The session that it leaves holds the notes that are shown, what
was printed, and the volume. -/
def CommandLine.runWords (homes : Homes) (given : Option Settings) (words : List Text)
    (v : Volume) : Ending × Session :=
  match CommandLine.ofWords words with
  | .error stop => (.ofStop stop, .start v)
  | .ok line =>
    match line.command with
    | none => (.usage 1, .start v)
    | some c =>
      let (outcome, s) := (line.run homes given c).runIn (.start v)
      (.ofOutcome outcome, { s with notes := s.notes.filter line.isShown })

end FileTags
