import RelativeTime.Proofs.Evaluation
import RelativeTime.Proofs.Timestamp.Stamp
import RelativeTime.Zone.Catalogue

/-! Where an evaluation breaks off without a report. UTC never runs out of dates unreported, for an
instant without a UTC date does not exist. But the wall clock runs out of them up to a day earlier,
and an instant that it cannot date is not refused. The evaluation goes on, and ends in a report or
a text all the same, unless it comes to where the date on the wall clock is called for. -/
namespace RelativeTime

namespace Answer

variable {α β : Type}

def Transforms (x : Answer α) : Prop := ∀ e, x = .error (.reported e) → e.kind = .transform

theorem transforms_ok (a : α) : Transforms (.ok a) := nofun

theorem transforms_reported {e : Error} (h : e.kind = .transform) :
    Transforms (.error (.reported e) : Answer α) := by
  intro e' he
  obtain rfl : e = e' := by simpa using he
  exact h

theorem Transforms.bind {x : Answer α} {f : α → Answer β} (hx : x.Transforms)
    (hf : ∀ a, (f a).Transforms) : (x >>= f).Transforms := by
  intro e he
  rcases Answer.bind_eq_error.mp he with he | ⟨a, -, he⟩
  · exact hx e he
  · exact hf a e he

end Answer

theorem Zone.resolve_transforms (zone : Zone) (wall : Reading) :
    (zone.resolve wall).Transforms := by
  unfold resolve
  split
  · exact Answer.transforms_ok _
  · exact Answer.transforms_reported rfl

theorem Zone.read_ne_unshowable (zone : Zone) (text : String) :
    zone.read text ≠ .error .unshowable := by
  unfold Zone.read
  simp only
  split
  · split <;> simp
  · split
    · exact Instant.resolve_ne_unshowable _ _
    · simp

theorem Setting.read_ne_unshowable [Zone.Names] (s : Setting) (text : String) :
    s.read text ≠ .error .unshowable := by
  intro h
  rcases Answer.bind_eq_error.mp h with h | ⟨zone, -, h⟩
  · unfold Setting.zone at h
    split at h
    · exact Answer.ofExcept_ne_unshowable _ h
    · cases h
  · exact zone.read_ne_unshowable text h

namespace Instant

variable {i : Instant} {u : TimeUnit} {n : Int}

theorem wall_transforms (i : Instant) : i.wall.Transforms := by
  intro e he
  cases (wall_eq_error_iff.mp he).1

theorem plus_transforms (i : Instant) (u : TimeUnit) (n : Int) : (i.plus u n).Transforms := by
  have hdate (move : Int → Option Int) :
      (i.moveDate (.shiftOutOfRange n u) move).Transforms := by
    refine i.wall_transforms.bind fun wall => ?_
    split
    · exact i.zone.resolve_transforms _
    · exact Answer.transforms_reported rfl
  unfold plus
  split
  · split
    · exact Answer.transforms_ok _
    · exact Answer.transforms_reported rfl
  · exact hdate _
  · exact hdate _

theorem startOf_transforms (i : Instant) (u : TimeUnit) : (i.startOf u).Transforms := by
  have hmidnight (first : Int → Int) : (i.midnightOf first).Transforms :=
    i.wall_transforms.bind fun _ => i.zone.resolve_transforms _
  unfold startOf
  split
  · split
    · exact Answer.transforms_ok _
    · exact i.wall_transforms.bind fun _ => Answer.transforms_reported rfl
  · exact hmidnight _
  · exact hmidnight _

theorem apply_transforms (t : Token) (i : Instant) : (t.apply i).Transforms := by
  cases t with
  | delta d =>
    simp only [Token.apply, Delta.apply]
    split
    · exact i.plus_transforms _ _
    · exact Answer.transforms_reported rfl
  | snap s =>
    simp only [Token.apply, Snap.apply]
    split
    · exact (i.plus_transforms _ _).bind fun aligned => aligned.startOf_transforms _
    · exact i.startOf_transforms _

theorem evaluate_transforms (i : Instant) (ts : List Token) : (evaluate i ts).Transforms := by
  induction ts generalizing i with
  | nil => exact Answer.transforms_ok i
  | cons t ts ih =>
    rw [evaluate_cons]
    exact (apply_transforms t i).bind ih

/-! ### Calls for a date -/

/-- The start of the unit is told from the date on the wall clock. That of a unit of elapsed time is
not, unless UTC has no date for it: the report of this shows the wall clock. -/
def DatesStart (i : Instant) (u : TimeUnit) : Prop :=
  ∀ nanos, u.stride = .elapsed nanos → ¬ (i.utc.after (-(i.face.nanos % nanos))).InRange

theorem midnightOf_unshowable_iff {first : Int → Int} :
    i.midnightOf first = .error .unshowable ↔ ¬ i.face.InRange :=
  wall_bind_unshowable_iff fun _ => resolve_ne_unshowable _ _

theorem startOf_unshowable_iff :
    i.startOf u = .error .unshowable ↔ i.DatesStart u ∧ ¬ i.face.InRange := by
  rcases hu : u.stride with nanos | count | count
  · have hdates : i.DatesStart u ↔ i.after? (-(i.face.nanos % nanos)) = none := by
      rw [after?, ofUtc?_eq_none_iff]
      simp [DatesStart, hu]
    simp only [startOf, hu, hdates]
    cases i.after? (-(i.face.nanos % nanos)) with
    | some start => simp
    | none => simp [wall_bind_unshowable_iff]
  · have hdates : i.DatesStart u := by simp [DatesStart, hu]
    simp only [startOf, hu, midnightOf_unshowable_iff, hdates, true_and]
  · have hdates : i.DatesStart u := by simp [DatesStart, hu]
    simp only [startOf, hu, midnightOf_unshowable_iff, hdates, true_and]

end Instant

/-- The snap calls for a date of the wall clock where there is none. On weeks it calls for one
twice, the second time after it has moved to the weekday. -/
def Snap.Strands (s : Snap) (i : Instant) : Prop :=
  match s.unit with
  | .weeks => ¬ i.face.InRange ∨
    ∃ aligned, i.plus .days (-(daysSince i.weekday (s.weekday.getD 0) : Int)) = .ok aligned ∧
      ¬ aligned.face.InRange
  | unit => i.DatesStart unit ∧ ¬ i.face.InRange

theorem Snap.strands_of_ne_weeks {s : Snap} (h : s.unit ≠ .weeks) {i : Instant} :
    s.Strands i ↔ i.DatesStart s.unit ∧ ¬ i.face.InRange := by
  unfold Snap.Strands
  split
  · exact absurd ‹_› h
  · exact Iff.rfl

def Token.Strands : Token → Instant → Prop
  | .delta d, i => d.amount? ≠ none ∧ d.unit.MovesDate ∧ ¬ i.face.InRange
  | .snap s, i => s.Strands i

theorem Token.strands_iff {t : Token} {i : Instant} :
    t.Strands i ↔ t.apply i = .error .unshowable := by
  cases t with
  | delta d =>
    simp only [Token.Strands, Token.apply, Delta.apply]
    cases d.amount? with
    | none => simp
    | some n => simp [Instant.plus_unshowable_iff]
  | snap s =>
    by_cases hs : s.unit = .weeks
    · have hdates (aligned : Instant) : aligned.DatesStart .days := by
        simp [Instant.DatesStart, TimeUnit.stride]
      have hmoves : TimeUnit.days.MovesDate := .inl rfl
      simp only [Token.Strands, Snap.Strands, Token.apply, Snap.apply, hs, Answer.bind_eq_error,
        Instant.plus_unshowable_iff, Instant.startOf_unshowable_iff, hdates, hmoves, true_and]
    · rw [Token.Strands, Token.apply, Snap.strands_of_ne_weeks hs, Snap.apply_of_ne_weeks hs,
        Instant.startOf_unshowable_iff]

/-- Every step leads to an instant, until a date of the wall clock is called for where there is
none: by a token, or at the end, to write the result. -/
inductive Stranded : Instant → List Token → Prop where
  | unwritten {i : Instant} (h : ¬ i.face.InRange) : Stranded i []
  | here {i : Instant} {t : Token} {ts : List Token} (h : t.Strands i) : Stranded i (t :: ts)
  | later {i j : Instant} {t : Token} {ts : List Token} (h : t.apply i = .ok j)
      (hj : Stranded j ts) : Stranded i (t :: ts)

theorem stranded_nil_iff {i : Instant} : Stranded i [] ↔ ¬ i.face.InRange := by
  constructor
  · rintro ⟨⟩
    assumption
  · exact .unwritten

theorem stranded_cons_iff {i : Instant} {t : Token} {ts : List Token} :
    Stranded i (t :: ts) ↔ t.Strands i ∨ ∃ j, t.apply i = .ok j ∧ Stranded j ts := by
  constructor
  · intro h
    cases h with
    | here h => exact .inl h
    | later h hj => exact .inr ⟨_, h, hj⟩
  · rintro (h | ⟨j, h, hj⟩)
    · exact .here h
    · exact .later h hj

theorem Instant.format_eq_error_iff {i : Instant} {e : Failure} :
    i.format = .error e ↔ e = .unshowable ∧ ¬ i.face.InRange := by
  rw [format, Answer.bind_eq_error, wall_eq_error_iff]
  constructor
  · rintro (h | ⟨_, -, h⟩)
    · exact h
    · cases h
  · exact .inl

theorem stranded_iff {i : Instant} {ts : List Token} :
    Stranded i ts ↔ (evaluate i ts >>= Instant.format) = .error .unshowable := by
  induction ts generalizing i with
  | nil =>
    rw [stranded_nil_iff, Instant.evaluate_nil, Answer.bind_ok, Instant.format_eq_error_iff]
    exact (and_iff_right rfl).symm
  | cons t ts ih =>
    rw [stranded_cons_iff, Instant.evaluate_cons, bind_assoc, Answer.bind_eq_error,
      Token.strands_iff]
    simp only [ih]

theorem Instant.written_eq_reported_iff {i : Instant} {ts : List Token} {e : Error} :
    (evaluate i ts >>= Instant.format) = .error (.reported e) ↔
      evaluate i ts = .error (.reported e) ∧ e.kind = .transform := by
  rw [Answer.bind_eq_error]
  constructor
  · rintro (h | ⟨reached, -, h⟩)
    · exact ⟨h, i.evaluate_transforms ts e h⟩
    · cases (format_eq_error_iff.mp h).1
  · rintro ⟨h, -⟩
    exact .inl h

theorem Instant.written_eq_ok_iff {i : Instant} {ts : List Token} {text : String} :
    (evaluate i ts >>= Instant.format) = .ok text ↔
      ∃ reached, evaluate i ts = .ok reached ∧ reached.face.InRange ∧
        text = String.ofList (stampChars reached.face reached.offset) := by
  simp only [Answer.bind_eq_ok, format_eq_ok_iff]

/-- What comes of a snap. It breaks off without a report exactly if the evaluation is stranded. Else
what cannot be read is reported, as is a step that leads nowhere, or the result is written, whose
wall clock then has a date. -/
theorem snap_unshowable_iff [Zone.Names] (s : Setting) (timestamp instruction : String) :
    (snap s timestamp instruction = .error .unshowable ↔
      ∃ start tokens, s.read timestamp = .ok start ∧ instruction ≠ "" ∧
        parse instruction = .ok tokens ∧ Stranded start tokens) ∧
    (∀ e, snap s timestamp instruction = .error (.reported e) ↔
      s.read timestamp = .error (.reported e) ∨
      ∃ start, s.read timestamp = .ok start ∧ instruction ≠ "" ∧
        (parse instruction = .error e ∨
          ∃ tokens, parse instruction = .ok tokens ∧
            evaluate start tokens = .error (.reported e) ∧ e.kind = .transform)) ∧
    ∀ text, snap s timestamp instruction = .ok text ↔
      ∃ start, s.read timestamp = .ok start ∧
        (instruction = "" ∧ text = timestamp ∨
          instruction ≠ "" ∧ ∃ tokens reached, parse instruction = .ok tokens ∧
            evaluate start tokens = .ok reached ∧ reached.face.InRange ∧
            text = String.ofList (stampChars reached.face reached.offset)) := by
  rcases hr : s.read timestamp with failure | start
  · have hreported : failure ≠ .unshowable := by
      rintro rfl
      exact s.read_ne_unshowable timestamp hr
    simp [snap_of_not_read hr, hreported]
  -- An empty instruction is not even evaluated, so that nothing calls for a date.
  by_cases hne : instruction = ""
  · subst hne
    simp [snap_empty hr, eq_comm]
  rcases hp : parse instruction with e | tokens
  · simp [snap_of_not_parsed hr hp hne, hne, eq_comm]
  · simp [snap_of_read hr hp hne, hne, ← stranded_iff, Instant.written_eq_reported_iff,
      Instant.written_eq_ok_iff]

/-- A day that elapses to where the wall clock has no date is not refused: it goes unnoticed if a
day is taken back, and else leaves nothing to be written. -/
theorem snap_breaks_off_past_dates :
    snap ⟨.utc, some "+01:00"⟩ "2000-11-30" "+260142y+31d+24h-24h" =
        .ok "+262142-12-31T00:00:00.000+01:00" ∧
      snap ⟨.utc, some "+01:00"⟩ "2000-11-30" "+260142y+31d+24h" = .error .unshowable := by
  decide +kernel

end RelativeTime
