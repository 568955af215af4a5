import FileTags.Filter.Compile

/-!
# Messages of compilation

What is said about a term that does not compile. The causes that a user is told of are those of the
term and its bookmarks; the others tell of a limit, of a file operation, or of a tree that no term
has.
-/

set_option autoImplicit false

namespace FileTags

open Text

def PatternFault.message (fragment : Text) : PatternFault → Text
  | .malformed => ofString "Invalid pattern '" ++ fragment ++ ofString "'"
  | .repetitionTooLarge => ofString "the repetition number is too large"
  | .tooManyDigits e => ofString e.message
  | .conflictingFlags => ofString "ASCII and UNICODE flags are incompatible"

def BookmarkFault.message : BookmarkFault → Text
  | .noResolver name =>
    ofString "Cannot resolve bookmark '" ++ name ++ ofString "': no bookmark resolver configured"
  | .cyclic name => ofString "Bookmark '" ++ name ++ ofString "' refers to itself"
  | .unknown name => ofString "unknown bookmark " ++ name
  | .unreadable path e => ofString "Cannot read bookmark " ++ path ++ ofString ": " ++ e.message
  | .unwritable path e => ofString "Cannot write bookmark " ++ path ++ ofString ": " ++ e.message
  | .notText path => ofString "Bookmark " ++ path ++ ofString " does not contain valid text"

def Mismatch.message : Mismatch → Text
  | .notANode t => ofString "Unexpected token " ++ t ++ ofString " in search syntax tree"
  | .negationOperands count => ofString "NOT node with " ++ ofNat count ++ ofString " operands"
  | .connectiveOperands r count =>
    ofString r.name.toUpper ++ ofString " node with " ++ ofNat count ++ ofString " operands"
  | .comparisonParts count => ofString "Comparison node with " ++ ofNat count ++ ofString " parts"
  | .comparator t => ofString "Unsupported comparison operator " ++ t
  | .rule r => ofString "Unexpected grammar rule " ++ ofString r.name

namespace CompileError

def message : CompileError → Text
  | .badSyntax e => ofString e.message
  | .badPattern fragment e => e.message fragment
  | .badInteger tag op value =>
    ofString "Comparison '" ++ tag ++ .char ' ' :: op ++ .char ' ' :: value ++
      ofString "' needs an integer bound"
  | .tooManyDigits e => ofString e.message
  | .bookmark b => b.message
  | .unfit e => e.message
  | .mismatch m => m.message
  | .missingPart => ofString "tuple index out of range"
  | .notText kind => [.char '\''] ++ kind ++ ofString "' object has no attribute 'startswith'"
  | .boundNotText kind =>
    ofString "expected string or bytes-like object, got '" ++ kind ++ [.char '\'']
  | .tooDeep => []

def isForeseen : CompileError → Bool
  | .badSyntax _ | .badInteger _ _ _ | .bookmark _ | .mismatch _ => true
  | .badPattern _ e => e == .malformed
  | _ => false

end CompileError

end FileTags
