import RelativeTime.Instruction.Token

/-! Tokens as records of named fields, and the JSON that lists of them are printed as. -/
namespace RelativeTime

/-- The value of a field. Words have letters only and stand between quotes as they are. -/
inductive Scalar where
  | word (text : String)
  | number (n : Nat)
  | null
  deriving DecidableEq, Repr

abbrev Record := List (String × Scalar)

namespace Token

def record : Token → Record
  | .delta d =>
    [("kind", .word "delta"), ("sign", .word d.sign.name), ("magnitude", .number d.magnitude),
      ("unit", .word d.unit.name)]
  | .snap s =>
    [("kind", .word "snap"), ("unit", .word s.unit.name),
      ("weekday", (s.weekday.map Scalar.number).getD .null)]

end Token

def quoted (text : String) : List Char := '"' :: text.toList ++ ['"']

def Scalar.chars : Scalar → List Char
  | .word text => quoted text
  | .number n => Digits.text n
  | .null => "null".toList

def bracketed (opening closing : Char) (indent : Nat) (items : List (List Char)) : List Char :=
  let line := '\n' :: List.replicate indent ' '
  let lines := (items.map fun item => line ++ ' ' :: ' ' :: item).intersperse [',']
  opening :: lines.flatten ++ line ++ [closing]

def Record.json (r : Record) : List Char :=
  bracketed '\x7b' '\x7d' 2 (r.map fun (name, value) => quoted name ++ ':' :: ' ' :: value.chars)

/-- JSON with the records one below the other; an empty list has no line of its own. -/
def recordsJson (records : List Record) : String :=
  match records with
  | [] => "[]"
  | _ => String.ofList (bracketed '[' ']' 0 (records.map Record.json))

end RelativeTime
