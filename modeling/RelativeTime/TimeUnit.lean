/-! The eight units of time: their order, the words that name them in an instruction,
and how far one of each reaches. -/
namespace RelativeTime

inductive TimeUnit where
  | milliseconds
  | seconds
  | minutes
  | hours
  | days
  | weeks
  | months
  | years
  deriving DecidableEq, Repr

/-- What one unit moves: elapsed time in nanoseconds, dates of the wall calendar, or its months.
A day is no fixed number of hours where a zone changes its clock, and a month no fixed number
of days. -/
inductive Stride where
  | elapsed (nanos : Int)
  | days (count : Int)
  | months (count : Int)
  deriving DecidableEq, Repr

namespace TimeUnit

def descending : List TimeUnit :=
  [.years, .months, .weeks, .days, .hours, .minutes, .seconds, .milliseconds]

def rank : TimeUnit → Nat
  | .milliseconds => 0
  | .seconds => 1
  | .minutes => 2
  | .hours => 3
  | .days => 4
  | .weeks => 5
  | .months => 6
  | .years => 7

/-- The finer unit is the smaller. -/
instance : LT TimeUnit := ⟨fun a b => a.rank < b.rank⟩

instance (a b : TimeUnit) : Decidable (a < b) := inferInstanceAs (Decidable (a.rank < b.rank))

def name : TimeUnit → String
  | .milliseconds => "milliseconds"
  | .seconds => "seconds"
  | .minutes => "minutes"
  | .hours => "hours"
  | .days => "days"
  | .weeks => "weeks"
  | .months => "months"
  | .years => "years"

def aliases : TimeUnit → List String
  | .milliseconds => ["ms"]
  | .seconds => ["s", "sec", "secs", "second", "seconds"]
  | .minutes => ["m", "min", "minute", "minutes"]
  | .hours => ["h", "hr", "hrs", "hour", "hours"]
  | .days => ["d", "day", "days"]
  | .weeks => ["w", "week", "weeks"]
  | .months => ["mon", "month", "months"]
  | .years => ["y", "yr", "yrs", "year", "years"]

def symbol (u : TimeUnit) : String := u.aliases.headD u.name

/-- Words are compared exactly: neither case nor a shortened word is forgiven. -/
def ofAlias? (word : String) : Option TimeUnit := descending.find? fun u => u.aliases.contains word

def ofName? (word : String) : Option TimeUnit := descending.find? fun u => u.name == word

def stride : TimeUnit → Stride
  | .milliseconds => .elapsed 1000000
  | .seconds => .elapsed 1000000000
  | .minutes => .elapsed 60000000000
  | .hours => .elapsed 3600000000000
  | .days => .days 1
  | .weeks => .days 7
  | .months => .months 1
  | .years => .months 12

theorem mem_descending (u : TimeUnit) : u ∈ descending := by
  cases u <;> decide

theorem ofName?_name (u : TimeUnit) : ofName? u.name = some u := by
  cases u <;> decide

end TimeUnit

end RelativeTime
