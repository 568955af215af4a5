import FileTags.SyntaxError
import FileTags.TagMap.Basic
import FileTags.Text.Written

/-!
# Tag lists

Tags are stored as entries with commas between them, each a name alone or a name, an equals sign and
a value. There is no escaping: names and values hold neither sign, and they neither start nor end
with a blank. Gaps may stand around every part. An equals sign with nothing behind it gives the
empty value.
-/

set_option autoImplicit false

namespace FileTags

structure TagEntry where
  name : Text
  value : Option Text
  offset : Nat
  deriving DecidableEq, Repr

namespace TagEntry

open Text

def isSeparator (c : Rune) : Bool := c == ',' || c == '='

/-- The name or value at the head of a text: what comes before the next separator, without the
blanks at its end. It is empty when the text starts with a blank or a separator. -/
def word (t : Text) : Text :=
  match t with
  | [] => []
  | c :: _ => if isBlank c then [] else dropTrailing isBlank (t.takeWhile fun d => !isSeparator d)

/-- The entry at the head of a text that starts with no gap, and the text behind it. -/
def read? (offset : Nat) (t : Text) : Option (TagEntry × Text) :=
  let name := word t
  if name.isEmpty then none
  else
    let rest := t.drop name.length
    match skipGap rest with
    | '=' :: after =>
      let value := word (skipGap after)
      if value.isEmpty then some (⟨name, some [], offset⟩, after)
      else some (⟨name, some value, offset⟩, (skipGap after).drop value.length)
    | _ => some (⟨name, none, offset⟩, rest)

end TagEntry

namespace TagList

open Text

/-- Entries that each follow a comma, in a text of `size` characters of which `rest` is left. An
error is the offset at which neither a further entry nor the end of the text stands. -/
def more (size : Nat) : Nat → Text → Except Nat (List TagEntry)
  | 0, _ => .ok []
  | fuel + 1, rest =>
    match skipGap rest with
    | [] => .ok []
    | c :: after =>
      let here := size - (after.length + 1)
      if c = ',' then
        let start := skipGap after
        match TagEntry.read? (size - start.length) start with
        | some (entry, rest) => (more size fuel rest).map (entry :: ·)
        | none => .error here
      else .error here

def entries (t : Text) : Except Nat (List TagEntry) :=
  let start := skipGap t
  match TagEntry.read? (t.length - start.length) start with
  | some (entry, rest) => (more t.length (t.length + 1) rest).map (entry :: ·)
  | none => if start.isEmpty then .ok [] else .error (t.length - start.length)

def read (t : Text) : Except SyntaxError (List TagEntry) :=
  let expanded := expandTabs t
  match entries expanded with
  | .ok es => .ok es
  | .error offset => .error (.locate t expanded (.expectedEnd .tagList) offset)

end TagList

namespace TagMap

def decode (t : Text) : Except SyntaxError TagMap :=
  (TagList.read t).map fun es => ofList (es.map fun e => (e.name, e.value))

def encodeEntry : Text × Option Text → Text
  | (name, none) => name
  | (name, some value) => name ++ .char '=' :: value

def encodeEntries (es : List (Text × Option Text)) : Text := Text.join [','] (es.map encodeEntry)

def encode (m : TagMap) : Text := encodeEntries m.entries

end TagMap

end FileTags
