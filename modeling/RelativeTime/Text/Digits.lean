/-! Decimal numbers of ASCII digits, read from and written to characters. -/
namespace RelativeTime.Digits

/-- The number that a run of digits denotes; the empty run denotes zero. -/
def value (ds : List Char) : Nat := Nat.ofDigitChars 10 ds 0

def text (n : Nat) : List Char := Nat.toDigits 10 n

def padded (width n : Nat) : List Char := (text n).leftpad width '0'

theorem value_text (n : Nat) : value (text n) = n :=
  Nat.ofDigitChars_toDigits (by decide) (by decide)

theorem isDigit_of_mem_text {n : Nat} {c : Char} (h : c ∈ text n) : c.isDigit = true :=
  Nat.isDigit_of_mem_toDigits (by decide) (by decide) h

theorem length_text_pos (n : Nat) : 0 < (text n).length :=
  List.length_pos_iff.mpr Nat.toDigits_ne_nil

end RelativeTime.Digits
