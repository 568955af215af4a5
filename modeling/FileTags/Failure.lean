import FileTags.Bookmark
import FileTags.Settings.Loading
import FileTags.Walk

/-!
# Failures

A failure is an error of one of the parts. Most are foreseen: they tell a user what was wrong with
what was asked, or with what was found. The others tell of a limit, or of something that cannot even
be asked.
-/

set_option autoImplicit false

namespace FileTags

inductive RenameFault
  | badPattern (find : Text) (e : PatternFault)
  | tooManyDigits (e : Text.TooManyDigits)
  /-- There is something to be renamed, but no replacement. -/
  | noReplacement
  deriving DecidableEq, Repr

def RenameFault.message : RenameFault → Text
  | .badPattern find e => e.message find
  | .tooManyDigits e => Text.ofString e.message
  | .noReplacement => Text.ofString "expected string or bytes-like object, got 'list'"

def RenameFault.isForeseen : RenameFault → Bool
  | .badPattern _ e => e == .malformed
  | _ => false

inductive Failure
  | settings (e : SettingsFileFault)
  | tags (e : TagFault)
  | tagList (e : SyntaxError)
  | term (e : CompileError)
  | rename (e : RenameFault)
  | walk (e : WalkFault)
  | noHome (e : NoHome)
  deriving DecidableEq, Repr

namespace Failure

def message : Failure → Text
  | .settings e => e.message
  | .tags e => e.message
  | .tagList e => Text.ofString e.message
  | .term e => e.message
  | .rename e => e.message
  | .walk e => e.message
  | .noHome e => e.message

def isForeseen : Failure → Bool
  | .settings e => e.isForeseen
  | .tags e => e.isForeseen
  | .tagList _ => true
  | .term e => e.isForeseen
  | .rename e => e.isForeseen
  | .walk _ => false
  | .noHome _ => false

end Failure

end FileTags
