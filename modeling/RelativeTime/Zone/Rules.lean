/-!
How a zone sets its wall clock: an offset from UTC for each stretch of time. Each stretch covers
an interval of UTC and, moved by its offset, an interval of wall clock readings. The UTC intervals
tile time; those on the wall overlap where the clock goes back and leave a gap where it goes
forward.
-/
namespace RelativeTime

/-- From the UTC second `since` on, the wall clock is `offset` seconds ahead. -/
structure Change where
  since : Int
  offset : Int
  deriving DecidableEq, Repr

def Ascending : List Change → Prop
  | [] => True
  | [_] => True
  | a :: b :: rest => a.since < b.since ∧ Ascending (b :: rest)

def decideAscending : (changes : List Change) → Decidable (Ascending changes)
  | [] => isTrue trivial
  | [_] => isTrue trivial
  | a :: b :: rest =>
    haveI := decideAscending (b :: rest)
    inferInstanceAs (Decidable (a.since < b.since ∧ Ascending (b :: rest)))

instance (changes : List Change) : Decidable (Ascending changes) := decideAscending changes

/-- The offset before all changes, then the changes. -/
structure Rules where
  initial : Int
  changes : List Change
  ascending : Ascending changes := by decide +kernel
  deriving DecidableEq, Repr

structure Period where
  start : Option Int
  stop : Option Int
  offset : Int
  deriving DecidableEq, Repr

namespace Period

def Covers (p : Period) (second : Int) : Prop :=
  p.start.all (· ≤ second) = true ∧ p.stop.all (second < ·) = true

instance (p : Period) (second : Int) : Decidable (p.Covers second) :=
  inferInstanceAs (Decidable (_ ∧ _))

def Shows (p : Period) (wall : Int) : Prop := p.Covers (wall - p.offset)

instance (p : Period) (wall : Int) : Decidable (p.Shows wall) :=
  inferInstanceAs (Decidable (p.Covers _))

end Period

namespace Rules

def constant (offset : Int) : Rules := { initial := offset, changes := [], ascending := trivial }

def periodsFrom (start : Option Int) (offset : Int) : List Change → List Period
  | [] => [⟨start, none, offset⟩]
  | c :: rest => ⟨start, some c.since, offset⟩ :: periodsFrom (some c.since) c.offset rest

def periods (z : Rules) : List Period := periodsFrom none z.initial z.changes

def offsetAt (z : Rules) (second : Int) : Int :=
  ((z.periods.find? fun p => p.Covers second).map Period.offset).getD z.initial

def offsetShowing? (z : Rules) (wall : Int) : Option Int :=
  (z.periods.find? fun p => p.Shows wall).map Period.offset

end Rules

end RelativeTime
