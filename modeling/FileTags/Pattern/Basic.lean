import FileTags.Text.Ranges

/-!
# Patterns

The syntax of regular expressions: characters, classes, repetition in three tempers, groups that
capture, change the mode or commit, assertions about the surroundings, and references to what a
group has captured.
-/

set_option autoImplicit false

namespace FileTags

inductive Flag
  | ignoreCase
  | multiLine
  | dotAll
  | verbose
  | ascii
  | unicode
  | template
  deriving DecidableEq, Repr

def Flag.ofRune? : Rune → Option Flag
  | 'i' => some .ignoreCase
  | 'm' => some .multiLine
  | 's' => some .dotAll
  | 'x' => some .verbose
  | 'a' => some .ascii
  | 'u' => some .unicode
  | 't' => some .template
  | _ => none

def Flag.choosesAlphabet : Flag → Bool
  | .ascii | .unicode => true
  | _ => false

structure Mode where
  ignoreCase : Bool
  multiLine : Bool
  dotAll : Bool
  ascii : Bool
  deriving DecidableEq, Repr

def Mode.ofFlags (flags : List Flag) : Mode :=
  ⟨flags.contains .ignoreCase, flags.contains .multiLine, flags.contains .dotAll,
    flags.contains .ascii⟩

def Mode.scoped (m : Mode) (on off : List Flag) : Mode where
  ignoreCase := (m.ignoreCase || on.contains .ignoreCase) && !off.contains .ignoreCase
  multiLine := (m.multiLine || on.contains .multiLine) && !off.contains .multiLine
  dotAll := (m.dotAll || on.contains .dotAll) && !off.contains .dotAll
  ascii := (m.ascii && !on.contains .unicode) || on.contains .ascii

inductive Category
  | digit
  | space
  | word
  deriving DecidableEq, Repr

/-- A member of a class. Code points are numbers, since a class may name ones that no text holds. -/
inductive ClassItem
  | single (code : Nat)
  | range (lo hi : Nat)
  | category (kind : Category) (negated : Bool)
  deriving DecidableEq, Repr

inductive Assertion
  | lineStart
  | lineEnd
  | textStart
  | textEnd
  | wordEdge
  | noWordEdge
  deriving DecidableEq, Repr

inductive Temper
  | greedy
  | lazy
  | possessive
  deriving DecidableEq, Repr

inductive Regex
  | empty
  | char (code : Nat)
  | any
  | oneOf (negated : Bool) (items : List ClassItem)
  | assertion (a : Assertion)
  | cat (left right : Regex)
  | alt (left right : Regex)
  | times (temper : Temper) (least : Nat) (most : Option Nat) (body : Regex)
  | capture (index : Nat) (body : Regex)
  | scope (on off : List Flag) (body : Regex)
  | atomic (body : Regex)
  | look (ahead positive : Bool) (width : Nat) (body : Regex)
  | backref (index : Nat)
  | given (index : Nat) (present absent : Regex)
  deriving DecidableEq, Repr

namespace Regex

def sequence : List Regex → Regex
  | [] => .empty
  | [r] => r
  | r :: rs => .cat r (sequence rs)

def choice : List Regex → Regex
  | [] => .empty
  | [r] => r
  | r :: rs => .alt r (choice rs)

end Regex

end FileTags
