import FileTags.Glob
import FileTags.Volume.Basic

/-!
# Settings

The settings say which attribute holds the tags, where bookmarks are, and how folders are searched.
-/

set_option autoImplicit false

namespace FileTags

structure Settings where
  tagAttribute : Text
  bookmarkFolder : Text
  workers : Nat
  recursive : Bool
  followLinks : Bool
  ignore : List Text
  deriving DecidableEq, Repr

namespace Settings

def defaultAttribute : Text := Text.ofString "user.xtag"

def defaultBookmarkFolder : Text := Text.ofString "~/.config/xtag/bookmarks"

def defaultWorkers : Nat := 4

def workerLimit : Nat := 256

def defaultIgnore : List Text := [Text.ofString ".git"]

def ignores (s : Settings) (name : Text) : Bool := s.ignore.any fun glob => Glob.accepts? glob name

def summary (s : Settings) : Text :=
  Text.ofString "XTagConfig(attribute=" ++ s.tagAttribute ++ Text.ofString ", bookmarks=" ++
    s.bookmarkFolder ++
    Text.ofString ", workers=" ++ Text.ofNat s.workers ++ [.char ')']

inductive Caution
  | privileged (name : Text)
  | noBookmarkFolder (folder : Text)
  | noFile
  deriving DecidableEq, Repr

def Caution.message : Caution → Text
  | .privileged name =>
    Text.ofString "Attribute '" ++ name ++
      Text.ofString "' is outside the 'user.' namespace and may need privileges"
  | .noBookmarkFolder folder => Text.ofString "Bookmark directory does not exist: " ++ folder
  | .noFile => Text.ofString "No configuration file found, using default settings"

def cautions (v : Volume) (s : Settings) : Except VolumeFault (List Caution) := do
  let isThere ← v.isFolder? (Path.ofText s.bookmarkFolder).text
  return (if Text.startsWith s.tagAttribute (Text.ofString "user.") then []
    else [.privileged s.tagAttribute]) ++
    (if isThere then [] else [.noBookmarkFolder s.bookmarkFolder])

end Settings

end FileTags
