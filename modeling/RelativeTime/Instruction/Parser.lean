import RelativeTime.Failure

/-!
Reading an instruction.

An instruction is a row of tokens without separators. `@` and a word snap to a unit, and digits
after a word for weeks are a weekday. Digits and a word shift by so many units, with or without a
sign. Runs of letters and of digits are always taken whole.
-/
namespace RelativeTime

inductive Flaw where
  | unmatched (rest : List Char)
  | unknownWord (letters : List Char)
  | badWeekday (digits : List Char)
  deriving DecidableEq, Repr

namespace Flaw

def inInstruction (instruction : String) : Flaw → Error
  | .unmatched rest => .unreadableInstruction instruction (String.ofList rest)
  | .unknownWord letters => .unknownUnit (String.ofList letters)
  | .badWeekday digits => .badWeekday (String.ofList digits)

end Flaw

namespace Instruction

def digitRun (cs : List Char) : List Char := cs.takeWhile Char.isDigit

def afterDigits (cs : List Char) : List Char := cs.dropWhile Char.isDigit

def letterRun (cs : List Char) : List Char := cs.takeWhile Char.isAlpha

def afterLetters (cs : List Char) : List Char := cs.dropWhile Char.isAlpha

def unitNamed? (letters : List Char) : Option TimeUnit := TimeUnit.ofAlias? (String.ofList letters)

def readSnap (cs : List Char) : Except Flaw (Snap × List Char) :=
  let letters := letterRun cs
  let rest := afterLetters cs
  let digits := digitRun rest
  if letters = [] then .error (.unmatched ('@' :: cs))
  else
    match unitNamed? letters with
    | none => .error (.unknownWord letters)
    | some unit =>
      if digits = [] then .ok (⟨unit, none⟩, rest)
      else if unit ≠ .weeks then .error (.unmatched rest)
      else if 7 < Digits.value digits then .error (.badWeekday digits)
      else .ok (⟨unit, some (Digits.value digits)⟩, afterDigits rest)

def readSign : List Char → Sign × List Char
  | '+' :: cs => (.plus, cs)
  | '-' :: cs => (.minus, cs)
  | cs => (.plus, cs)

def readDelta (cs : List Char) : Except Flaw (Delta × List Char) :=
  let (sign, unsigned) := readSign cs
  let digits := digitRun unsigned
  let letters := letterRun (afterDigits unsigned)
  if digits = [] ∨ letters = [] then .error (.unmatched cs)
  else
    match unitNamed? letters with
    | none => .error (.unknownWord letters)
    | some unit =>
      .ok (.saturating sign (Digits.value digits) unit, afterLetters (afterDigits unsigned))

def readToken : List Char → Except Flaw (Token × List Char)
  | '@' :: cs => (readSnap cs).map fun (s, rest) => (.snap s, rest)
  | cs => (readDelta cs).map fun (d, rest) => (.delta d, rest)

theorem length_digitRun_add (cs : List Char) :
    (digitRun cs).length + (afterDigits cs).length = cs.length := by
  rw [← List.length_append, digitRun, afterDigits, List.takeWhile_append_dropWhile]

theorem length_letterRun_add (cs : List Char) :
    (letterRun cs).length + (afterLetters cs).length = cs.length := by
  rw [← List.length_append, letterRun, afterLetters, List.takeWhile_append_dropWhile]

theorem length_readSnap {cs rest : List Char} {s : Snap} (h : readSnap cs = .ok (s, rest)) :
    rest.length ≤ cs.length := by
  have hl := length_letterRun_add cs
  have hd := length_digitRun_add (afterLetters cs)
  unfold readSnap at h
  simp only at h
  repeat' split at h
  all_goals simp only [Except.ok.injEq, Prod.mk.injEq, reduceCtorEq] at h
  all_goals
    obtain ⟨-, rfl⟩ := h
    omega

theorem length_readSign (cs : List Char) : (readSign cs).2.length ≤ cs.length := by
  unfold readSign
  split <;> simp

theorem length_readDelta {cs rest : List Char} {d : Delta} (h : readDelta cs = .ok (d, rest)) :
    rest.length < cs.length := by
  have hs := length_readSign cs
  have hd := length_digitRun_add (readSign cs).2
  have hl := length_letterRun_add (afterDigits (readSign cs).2)
  unfold readDelta at h
  simp only at h
  split at h
  · simp at h
  · rename_i hne
    have := List.length_pos_iff.2 (not_or.1 hne).1
    split at h
    · simp at h
    · simp only [Except.ok.injEq, Prod.mk.injEq] at h
      obtain ⟨-, rfl⟩ := h
      omega

theorem length_readToken {cs rest : List Char} {t : Token} (h : readToken cs = .ok (t, rest)) :
    rest.length < cs.length := by
  unfold readToken at h
  split at h
  · rename_i cs
    cases hs : readSnap cs with
    | error f => simp [hs, Except.map] at h
    | ok p =>
      simp only [hs, Except.map, Except.ok.injEq, Prod.mk.injEq] at h
      obtain ⟨-, rfl⟩ := h
      exact Nat.lt_succ_of_le (length_readSnap hs)
  · cases hd : readDelta cs with
    | error f => simp [hd, Except.map] at h
    | ok p =>
      simp only [hd, Except.map, Except.ok.injEq, Prod.mk.injEq] at h
      obtain ⟨-, rfl⟩ := h
      exact length_readDelta hd

def readTokens (cs : List Char) : Except Flaw (List Token) :=
  match cs with
  | [] => .ok []
  | c :: cs' =>
    match _h : readToken (c :: cs') with
    | .error flaw => .error flaw
    | .ok (token, rest) =>
      match readTokens rest with
      | .error flaw => .error flaw
      | .ok tokens => .ok (token :: tokens)
termination_by cs.length
decreasing_by exact length_readToken ‹_›

end Instruction

def parse (instruction : String) : Except Error (List Token) :=
  (Instruction.readTokens instruction.toList).mapError (Flaw.inInstruction instruction)

end RelativeTime
