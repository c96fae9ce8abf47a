import RelativeTime.Proofs.Evaluation

/-! Timestamps are written to the millisecond. What is cut off below it is never missed: every token
does the same to an instant as to its whole milliseconds, in any zone and in inserted seconds. -/
namespace RelativeTime

open Calendar

namespace Reading

variable (r : Reading)

def truncated : Reading := ⟨r.nanos - r.nanos % 1000000, r.leap⟩

theorem day_truncated : r.truncated.day = r.day := by
  simp only [day, truncated]
  omega

theorem seconds_truncated : r.truncated.seconds = r.seconds := by
  simp only [seconds, truncated]
  omega

theorem secondOfDay_truncated : r.truncated.secondOfDay = r.secondOfDay := by
  simp only [secondOfDay, timeOfDay, truncated]
  omega

theorem fraction_truncated : r.truncated.fraction / 1000000 = r.fraction / 1000000 := by
  simp only [fraction, truncated]
  omega

theorem stampChars_truncated (offset : Int) :
    stampChars r.truncated offset = stampChars r offset := by
  have hfraction := r.fraction_truncated
  simp only [stampChars, faceChars, hour, minute, second, day_truncated, secondOfDay_truncated,
    hfraction]
  rfl

theorem inRange_truncated : r.truncated.InRange ↔ r.InRange := by
  rw [InRange, day_truncated, InRange]

theorem truncated_ahead (s : Int) : (r.ahead s).truncated = r.truncated.ahead s := by
  simp only [truncated, ahead, mk.injEq, and_true]
  omega

theorem truncated_onDay (date : Int) : (r.onDay date).truncated = r.truncated.onDay date := by
  simp only [truncated, onDay, timeOfDay, mk.injEq, and_true]
  omega

theorem truncated_midnight (date : Int) : (midnight date).truncated = midnight date := by
  simp only [truncated, midnight, mk.injEq, and_true]
  omega

theorem truncated_after {nanos : Int} (h : nanos % 1000000 = 0) :
    (r.after nanos).truncated = r.truncated.after nanos := by
  have hsub : (r.nanos - r.nanos % 1000000) % 1000000000 =
      r.nanos % 1000000000 - r.nanos % 1000000 := by omega
  have hearly : r.nanos % 1000000000 - r.nanos % 1000000 + nanos < 0 ↔
      r.nanos % 1000000000 + nanos < 0 := by omega
  have hwithin : r.nanos % 1000000000 - r.nanos % 1000000 + nanos < 1000000000 ↔
      r.nanos % 1000000000 + nanos < 1000000000 := by omega
  unfold after
  simp only [truncated, hsub, hearly, hwithin]
  split
  · split <;> simp only [mk.injEq, and_true] <;> omega
  · simp only [mk.injEq, and_true]
    omega

theorem truncated_truncated : r.truncated.truncated = r.truncated := by
  simp only [truncated, mk.injEq, and_true]
  omega

/-- To start from the whole millisecond is to go so much less far. -/
theorem after_truncated (nanos : Int) :
    r.truncated.after nanos = r.after (nanos - r.nanos % 1000000) := by
  have hsub : (r.nanos - r.nanos % 1000000) % 1000000000 + nanos =
      r.nanos % 1000000000 + (nanos - r.nanos % 1000000) := by omega
  have hsum : r.nanos - r.nanos % 1000000 + nanos = r.nanos + (nanos - r.nanos % 1000000) := by
    omega
  simp only [after, truncated, hsub, hsum]

theorem truncated_toStart {u : TimeUnit} {nanos : Int} (hu : u.stride = .elapsed nanos) (s : Int) :
    (r.after (-((r.ahead s).nanos % nanos))).truncated =
      r.truncated.after (-((r.truncated.ahead s).nanos % nanos)) := by
  have hunit : (r.truncated.ahead s).nanos % nanos % 1000000 = 0 ∧
      -((r.ahead s).nanos % nanos) =
        -((r.truncated.ahead s).nanos % nanos) - r.nanos % 1000000 := by
    simp only [truncated, ahead]
    rcases TimeUnit.elapsed_cases hu with ⟨-, rfl⟩ | ⟨-, rfl⟩ | ⟨-, rfl⟩ | ⟨-, rfl⟩ <;> omega
  obtain ⟨hwhole, hback⟩ := hunit
  rw [hback, ← after_truncated, truncated_after _ (by omega), truncated_truncated]

/-- What is whole comes after a reading just if it comes after the whole milliseconds of it. -/
theorem truncated_lt_iff {r s : Reading} (hs : s.nanos % 1000000 = 0) :
    r.truncated < s ↔ r < s := by
  have hinserted (t : Reading) : t.inserted = 0 ∨ t.inserted = 1000000000 := by
    unfold inserted
    split <;> simp
  have hr := hinserted r
  have hs' := hinserted s
  have hsame : r.truncated.inserted = r.inserted := rfl
  change (_ ∨ _ ∧ _) ↔ (_ ∨ _ ∧ _)
  simp only [seconds, subsecond, hsame]
  simp only [truncated]
  omega

end Reading

/-! ### Instants -/

namespace Instant

variable {zone : Zone} (i : Instant)

def truncated : Instant :=
  ⟨i.utc.truncated, i.zone, i.utc.inRange_truncated.mpr i.inRange⟩

theorem truncated_offset : i.truncated.offset = i.offset := by
  simp only [offset, truncated, Reading.seconds_truncated]

theorem truncated_face : i.truncated.face = i.face.truncated := by
  rw [face, truncated_offset, face, Reading.truncated_ahead]
  rfl

theorem truncated_weekday : i.truncated.weekday = i.weekday := by
  rw [weekday, truncated_face, Reading.day_truncated, weekday]

theorem ofUtc?_truncated (zone : Zone) (utc : Reading) :
    ofUtc? zone utc.truncated = (ofUtc? zone utc).map truncated := by
  by_cases h : utc.InRange
  · rw [ofUtc?_of_inRange zone h, ofUtc?_of_inRange zone (utc.inRange_truncated.mpr h)]
    rfl
  · rw [ofUtc?_eq_none_iff.mpr h, ofUtc?_eq_none_iff.mpr (mt utc.inRange_truncated.mp h)]
    rfl

theorem truncated_wall : i.truncated.wall.toOption = i.wall.toOption.map Reading.truncated := by
  unfold wall
  rw [truncated_face]
  simp only [Reading.inRange_truncated]
  split <;> rfl

end Instant

theorem Zone.earliestShowing?_truncated (zone : Zone) (wall : Reading) :
    zone.earliestShowing? wall.truncated =
      (zone.earliestShowing? wall).map Instant.truncated := by
  simp only [earliestShowing?, Reading.seconds_truncated]
  cases zone.rules.offsetShowing? wall.seconds with
  | none => rfl
  | some offset =>
    have h := Instant.ofUtc?_truncated zone (wall.ahead (-offset))
    rw [Reading.truncated_ahead] at h
    exact h

theorem Zone.acrossGap?_truncated (zone : Zone) (wall : Reading) :
    zone.acrossGap? wall.truncated = (zone.acrossGap? wall).map Instant.truncated := by
  have hprobe := wall.truncated_after (show (-86400000000000 : Int) % 1000000 = 0 by decide)
  rw [acrossGap?_eq, acrossGap?_eq, ← hprobe, Reading.seconds_truncated]
  by_cases h : (wall.after (-86400000000000)).InRange
  · rw [if_pos ((Reading.inRange_truncated _).mpr h), if_pos h,
      ← Reading.truncated_after _ (by omega), Instant.ofUtc?_truncated]
  · rw [if_neg (mt (Reading.inRange_truncated _).mp h), if_neg h]
    rfl

theorem Zone.resolve_truncated (zone : Zone) (wall : Reading) :
    (zone.resolve wall.truncated).toOption =
      (zone.resolve wall).toOption.map Instant.truncated := by
  have hresolve (r : Reading) : (zone.resolve r).toOption =
      (zone.earliestShowing? r).or (zone.acrossGap? r) := by
    unfold resolve
    split <;> simp [*, Except.toOption]
  rw [hresolve, hresolve, earliestShowing?_truncated, acrossGap?_truncated, Option.map_or]

/-! ### Tokens -/

namespace Instant

variable (i : Instant)

theorem moveDate_truncated (refused : Error) (move : Int → Option Int) :
    (i.truncated.moveDate refused move).toOption =
      (i.moveDate refused move).toOption.map truncated := by
  unfold moveDate
  rw [Answer.toOption_bind, Answer.toOption_bind, truncated_wall, Option.bind_map,
    Option.map_bind]
  congr 1
  funext wall
  simp only [Function.comp_apply, Reading.day_truncated]
  cases move wall.day with
  | none => rfl
  | some day =>
    change (i.zone.resolve (wall.truncated.onDay day)).toOption = _
    rw [← Reading.truncated_onDay]
    exact i.zone.resolve_truncated _

theorem midnightOf_truncated (first : Int → Int) :
    (i.truncated.midnightOf first).toOption = (i.midnightOf first).toOption.map truncated := by
  unfold midnightOf
  rw [Answer.toOption_bind, Answer.toOption_bind, truncated_wall, Option.bind_map,
    Option.map_bind]
  congr 1
  funext wall
  simp only [Function.comp_apply, Reading.day_truncated]
  have h := i.zone.resolve_truncated (.midnight (first wall.day))
  rw [Reading.truncated_midnight] at h
  exact h

theorem after?_truncated {nanos : Int} (h : nanos % 1000000 = 0) :
    i.truncated.after? nanos = (i.after? nanos).map truncated := by
  unfold after?
  rw [← ofUtc?_truncated, i.utc.truncated_after h]
  rfl

theorem plus_truncated (u : TimeUnit) (amount : Int) :
    (i.truncated.plus u amount).toOption = (i.plus u amount).toOption.map truncated := by
  unfold plus
  rcases hu : u.stride with nanos | count | count
  · have hwhole : amount * nanos % 1000000 = 0 := by
      rcases TimeUnit.elapsed_cases hu with ⟨-, rfl⟩ | ⟨-, rfl⟩ | ⟨-, rfl⟩ | ⟨-, rfl⟩ <;> omega
    simp only [i.after?_truncated hwhole]
    cases i.after? (amount * nanos) <;> rfl
  · exact i.moveDate_truncated _ _
  · exact i.moveDate_truncated _ _

theorem startOf_truncated (u : TimeUnit) :
    (i.truncated.startOf u).toOption = (i.startOf u).toOption.map truncated := by
  unfold startOf
  rcases hu : u.stride with nanos | count | count
  · have hstart : i.truncated.after? (-(i.truncated.face.nanos % nanos)) =
        (i.after? (-(i.face.nanos % nanos))).map truncated := by
      unfold after?
      rw [← ofUtc?_truncated]
      simp only [face, Reading.truncated_toStart _ hu, truncated_offset]
      rfl
    simp only [hstart]
    cases i.after? (-(i.face.nanos % nanos)) with
    | some start => rfl
    | none =>
      simp only [Option.map_none, Answer.toOption_bind, truncated_wall]
      cases i.wall <;> rfl
  · exact i.midnightOf_truncated _
  · exact i.midnightOf_truncated _

theorem apply_truncated (t : Token) :
    (t.apply i.truncated).toOption = (t.apply i).toOption.map truncated := by
  cases t with
  | delta d =>
    simp only [Token.apply, Delta.apply]
    cases d.amount? with
    | some amount => exact i.plus_truncated _ _
    | none => rfl
  | snap s =>
    simp only [Token.apply, Snap.apply, truncated_weekday]
    split
    · rw [Answer.toOption_bind, Answer.toOption_bind, plus_truncated, Option.bind_map,
        Option.map_bind]
      congr 1
      funext aligned
      exact aligned.startOf_truncated .days
    · exact i.startOf_truncated _

/-- An instruction leads from the whole milliseconds of an instant to those of where it leads from
the instant itself, or nowhere from either. -/
theorem evaluate_truncated (ts : List Token) :
    (evaluate i.truncated ts).toOption = (evaluate i ts).toOption.map truncated := by
  induction ts generalizing i with
  | nil => rfl
  | cons t ts ih =>
    rw [evaluate_cons, evaluate_cons, Answer.toOption_bind, Answer.toOption_bind, apply_truncated,
      Option.bind_map, Option.map_bind]
    congr 1
    funext j
    exact ih j

theorem format_truncated : i.truncated.format = i.format := by
  unfold format wall
  simp only [truncated_face, Reading.inRange_truncated]
  split
  · simp only [Answer.bind_ok, Reading.stampChars_truncated, truncated_offset]
  · exact Eq.refl (Except.error Failure.unshowable)

/-! ### Whole milliseconds -/

variable {i} {j : Instant} {u : TimeUnit}

def Whole (i : Instant) : Prop := i.utc.nanos % 1000000 = 0

instance (i : Instant) : Decidable i.Whole := inferInstanceAs (Decidable (_ = _))

theorem whole_iff : i.Whole ↔ i.truncated = i := by
  obtain ⟨⟨nanos, leap⟩, zone, h⟩ := i
  simp only [Whole, truncated, Reading.truncated, mk.injEq, Reading.mk.injEq, and_true]
  omega

theorem Whole.plus (hi : i.Whole) {n : Int} (h : i.plus u n = .ok j) : j.Whole := by
  have hsame := i.plus_truncated u n
  rw [whole_iff.mp hi, h] at hsame
  exact whole_iff.mpr (Option.some.inj hsame).symm

theorem Whole.evaluate (hi : i.Whole) {ts : List Token} (h : RelativeTime.evaluate i ts = .ok j) :
    j.Whole := by
  have hsame := i.evaluate_truncated ts
  rw [whole_iff.mp hi, h] at hsame
  exact whole_iff.mpr (Option.some.inj hsame).symm

end Instant

end RelativeTime
