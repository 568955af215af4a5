import FileTags.Command.Usage
import FileTags.Text.Written

/-!
# Commands

Commands show, change and search tags, check search terms, and keep bookmarks. Each has its own
options and places. The options for the settings file and for more notes stand in front of the
command.
-/

set_option autoImplicit false

namespace FileTags

inductive Command
  | show (paths : List Text)
  | add (tags : Text) (paths : List Text)
  | remove (names : Text) (paths : List Text)
  | clear (paths : List Text)
  /-- The replacement is missing when a separator has taken its place. -/
  | rename (find : Text) (replace : Option Text) (paths : List Text)
  | search (term : Text) (roots : List Text) (showTags : Bool)
  | check (term : Text)
  | bookmark (name : Text) (term : Option Text)
  deriving DecidableEq, Repr

/-- A command line. The settings file is empty when none is named, and there may be no command. -/
structure CommandLine where
  settingsFile : Text
  verbose : Bool
  command : Option Command
  deriving DecidableEq, Repr

namespace Command

def helpSwitch : Switch := ⟨[Text.ofString "-h", Text.ofString "--help"], .help⟩

def settingsSwitch : Switch := ⟨[Text.ofString "--config"], .value⟩

def verboseSwitch : Switch := ⟨[Text.ofString "-v", Text.ofString "--verbose"], .flag⟩

def tagsSwitch : Switch := ⟨[Text.ofString "--show-tags"], .flag⟩

/-- What stands around a command: the words of the command itself are left for its own usage. -/
def outerUsage : Usage := ⟨[helpSwitch, settingsSwitch, verboseSwitch], [.rest]⟩

inductive Kind
  | show
  | add
  | remove
  | clear
  | rename
  | search
  | check
  | bookmark
  deriving DecidableEq, Repr

def Kind.all : List Kind := [.show, .add, .remove, .clear, .rename, .search, .check, .bookmark]

def Kind.name : Kind → String
  | .show => "show"
  | .add => "add"
  | .remove => "remove"
  | .clear => "clear"
  | .rename => "rename"
  | .search => "search"
  | .check => "check"
  | .bookmark => "bookmark"

def Kind.ofName? (name : Text) : Option Kind := Kind.all.find? fun k => Text.ofString k.name == name

def Kind.usage : Kind → Usage
  | .show | .clear => ⟨[helpSwitch], [.some]⟩
  | .add | .remove => ⟨[helpSwitch], [.one, .some]⟩
  | .rename => ⟨[helpSwitch], [.one, .one, .some]⟩
  | .search => ⟨[helpSwitch, tagsSwitch], [.one, .any]⟩
  | .check => ⟨[helpSwitch], [.one]⟩
  | .bookmark => ⟨[helpSwitch], [.one, .optional]⟩

def rootsOf (roots : List Text) : List Text := if roots.isEmpty then [['.']] else roots

def ofParsed (k : Kind) (p : Usage.Parsed) : Command :=
  let slot (n : Nat) : List Text := p.slots.getD n []
  let single (n : Nat) : Text := (slot n).headD []
  match k with
  | .show => .show (slot 0)
  | .add => .add (single 0) (slot 1)
  | .remove => .remove (single 0) (slot 1)
  | .clear => .clear (slot 0)
  | .rename => .rename (single 0) (slot 1).head? (slot 2)
  | .search => .search (single 0) (rootsOf (slot 1)) (p.options.any fun o => o.1 == tagsSwitch)
  | .check => .check (single 0)
  | .bookmark => .bookmark (single 0) (slot 1).head?

def read : List Text → Except Stop (Command × List Text)
  | [] => .error .misuse
  | name :: words =>
    match Kind.ofName? name with
    | none => .error .misuse
    | some k => do
      let p ← k.usage.read words
      return (ofParsed k p, p.extras)

end Command

namespace CommandLine

def valueOf (s : Switch) (options : List (Switch × Option Text)) : Text :=
  ((options.filter fun o => o.1 == s).getLast?.bind Prod.snd).getD []

def ofWords (words : List Text) : Except Stop CommandLine := do
  let p ← Command.outerUsage.read words
  let (command, extras) ← match p.slots.getD 0 [] with
    | [] => .ok (none, [])
    | rest => (Command.read rest).map fun (c, extras) => (some c, extras)
  if p.extras.isEmpty && extras.isEmpty then
    return ⟨valueOf Command.settingsSwitch p.options,
      p.options.any fun o => o.1 == Command.verboseSwitch, command⟩
  else .error .misuse

end CommandLine

end FileTags
