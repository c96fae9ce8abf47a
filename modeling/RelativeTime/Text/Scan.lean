import RelativeTime.Text.Blank
import RelativeTime.Text.Digits

/-! Pieces of fixed layouts: each scan takes what it reads off the front of the characters and
gives the rest back. -/
namespace RelativeTime

abbrev Scan (α : Type) := List Char → Option (α × List Char)

namespace Scan

def one (p : Char → Bool) : Scan Char
  | [] => none
  | c :: rest => if p c then some (c, rest) else none

def literal (c : Char) : Scan Char := one (· == c)

/-- A number of at least `least` digits that ends after `most` digits, if more follow. -/
def digits (least most : Nat) : Scan Nat := fun cs =>
  let run := (cs.take most).takeWhile Char.isDigit
  if run.length < least then none else some (Digits.value run, cs.drop run.length)

def number : Scan Nat := fun cs => digits 1 cs.length cs

def spacedDigits (most : Nat) : Scan Nat := fun cs => digits 1 most (skipBlanks cs)

/-- Nanoseconds written as a decimal fraction of a second, cut off after nine digits. No point
means no fraction; a point without a digit is refused. -/
def fraction : Scan Nat
  | '.' :: cs =>
    match cs.takeWhile Char.isDigit with
    | [] => none
    | run => some (Digits.value ((run.take 9).rightpad 9 '0'), cs.drop run.length)
  | cs => some (0, cs)

def whole {α : Type} (scan : Scan α) (cs : List Char) : Option α :=
  match scan cs with
  | some (a, []) => some a
  | _ => none

end Scan

end RelativeTime
