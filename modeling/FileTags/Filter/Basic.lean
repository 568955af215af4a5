import FileTags.Filter.Formula
import FileTags.Pattern.Anchored
import FileTags.TagMap.Basic
import FileTags.Term.Expr
import FileTags.Text.Numeral
import FileTags.Text.Written

/-!
# Filters

A filter is a formula over conditions on a tag map. Every condition asks whether there is a tag of
some kind: its name matches a pattern, and where a value is asked for the tag has one that matches a
pattern or stands in an order to a bound. Tags without a value, and values that are no integers, do
not satisfy a condition on the value, but do not keep another tag from satisfying it.
-/

set_option autoImplicit false

namespace FileTags

inductive OrderTest
  | less
  | lessEqual
  | greater
  | greaterEqual
  deriving DecidableEq, Repr

namespace OrderTest

def comparator : OrderTest → Comparator
  | .less => .less
  | .lessEqual => .lessEqual
  | .greater => .greater
  | .greaterEqual => .greaterEqual

def holds (t : OrderTest) (n bound : Int) : Bool :=
  match t with
  | .less => n < bound
  | .lessEqual => n ≤ bound
  | .greater => bound < n
  | .greaterEqual => bound ≤ n

end OrderTest

inductive Condition
  | tagExists (tag : Pattern)
  | valueEquals (tag value : Pattern)
  | valueOrder (test : OrderTest) (tag : Pattern) (bound : Int)
  deriving DecidableEq

namespace Condition

open Text

/-- The first value, in the order of the tags, that stands in the order to the bound decides. -/
def anyOrdered (test : OrderTest) (tag : Pattern) (bound : Int) :
    List (Text × Option Text) → Except TooManyDigits Bool
  | [] => .ok false
  | (name, value) :: rest =>
    match value with
    | none => anyOrdered test tag bound rest
    | some value =>
      if tag.accepts name then
        match readInteger value with
        | .error e => .error e
        | .ok (some n) => if test.holds n bound then .ok true else anyOrdered test tag bound rest
        | .ok none => anyOrdered test tag bound rest
      else anyOrdered test tag bound rest

def holds (m : TagMap) : Condition → Except TooManyDigits Bool
  | .tagExists tag => .ok (m.entries.any fun e => tag.accepts e.1)
  | .valueEquals tag value => .ok (m.entries.any fun e => tag.accepts e.1 && e.2.any value.accepts)
  | .valueOrder test tag bound => anyOrdered test tag bound m.entries

def spaced (left : Text) (op : Comparator) (right : Text) : Text :=
  left ++ .char ' ' :: op.symbol ++ .char ' ' :: right

def text : Condition → Text
  | .tagExists tag => tag.source
  | .valueEquals tag value => spaced tag.source .equal value.source
  | .valueOrder test tag bound => spaced tag.source test.comparator (Text.ofInt bound)

end Condition

abbrev Filter := Formula Condition

namespace Filter

def evaluate (f : Filter) (m : TagMap) : Except Text.TooManyDigits Bool :=
  Formula.evaluate (Condition.holds m) f

def text (f : Filter) : Text := Formula.written Condition.text f

/-- Equality that does not hold, which is less than a different value: it is true of a map without
such a tag. -/
def valueDiffers (tag value : Pattern) : Filter := .not (.leaf (.valueEquals tag value))

end Filter

end FileTags
