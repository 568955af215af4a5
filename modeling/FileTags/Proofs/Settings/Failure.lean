import FileTags.Proofs.Command.FileByFile
import FileTags.Proofs.Settings.Normal
import FileTags.Proofs.Walk.Listing
import FileTags.Proofs.Yaml.Fault

/-!
# Why settings are not loaded

Most reasons for which settings are not loaded are foreseen: a user of the commands is told of them.
The others are few: a place that is looked at has a path that is too long, a file is no UTF-8 or has
a scalar without a value, the patterns to be left out are of a kind that has no patterns, or the
folder of bookmarks is that of nobody.
-/

set_option autoImplicit false

namespace FileTags

open FileTags.Action (OnlyReads)

/-! ## Faults that are not foreseen -/

section Strays

variable {α β ε : Type}

end Strays

namespace Action

variable {α β ε : Type} {s : Session}

end Action

namespace Volume

variable {v : Volume} {path : Text}

end Volume

namespace Settings

variable {homes : Homes} {v : Volume} {path : Text} {s : Session}

/-! ## The file -/

end Settings

/-! ## Settings of its fields -/

namespace Settings

variable {homes : Homes} {v : Volume} {path : Text} {s : Session} {entries : List (Datum × Datum)}
  {d : Datum}

end Settings

namespace CommandLine

variable {homes : Homes} {line : CommandLine} {c : Command} {v : Volume} {e : SettingsFileFault}

end CommandLine

namespace Settings

end Settings

end FileTags
