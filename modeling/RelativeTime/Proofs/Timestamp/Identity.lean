import RelativeTime.Proofs.Timestamp.Reread
import RelativeTime.Proofs.WallClock

/-! What the text of an instant tells. Under a fixed offset it tells the millisecond and no more, at
any year and in inserted seconds. -/
namespace RelativeTime

namespace Digits

theorem padded_injective {width n n' : Nat} (h : padded width n = padded width n') : n = n' := by
  rw [← value_padded width n, h, value_padded]

theorem append_padded_inj {width n n' : Nat} {cs cs' : List Char} {c : Char} (hw : 0 < width)
    (hn : n < 10 ^ width) (hn' : n' < 10 ^ width)
    (h : cs ++ c :: padded width n = cs' ++ c :: padded width n') : cs = cs' ∧ n = n' := by
  have hlen : (c :: padded width n).length = (c :: padded width n').length := by
    rw [List.length_cons, List.length_cons, length_padded hw hn, length_padded hw hn']
  obtain ⟨hfront, hnumber⟩ := List.append_inj' h hlen
  exact ⟨hfront, padded_injective (List.cons.inj hnumber).2⟩

end Digits

/-- A sign stands before a year if and only if it is not a short one, and the sign of a year that is
not tells it from the year of opposite sign. -/
theorem yearChars_injective : Function.Injective yearChars := by
  have hsigned {year year' : Int} (hs : ShortYear year) (hl : ¬ ShortYear year') :
      yearChars year ≠ yearChars year' := by
    intro h
    rw [yearChars_of_short hs, yearChars_of_not_short hl] at h
    have hdigit := Digits.isDigit_of_mem_padded (h ▸ List.mem_cons_self)
    revert hdigit
    cases Sign.ofInt year' <;> decide
  intro year year' h
  by_cases hs : ShortYear year <;> by_cases hs' : ShortYear year'
  · rw [yearChars_of_short hs, yearChars_of_short hs'] at h
    have hvalue := Digits.padded_injective h
    unfold ShortYear at hs hs'
    omega
  · exact absurd h (hsigned hs hs')
  · exact absurd h.symm (hsigned hs' hs)
  · rw [yearChars_of_not_short hs, yearChars_of_not_short hs'] at h
    obtain ⟨hsymbol, hdigits⟩ := List.cons.inj h
    have hvalue := Digits.padded_injective hdigits
    unfold Sign.ofInt at hsymbol
    split at hsymbol <;> split at hsymbol
    · omega
    · exact absurd hsymbol (by decide)
    · exact absurd hsymbol (by decide)
    · omega

theorem Date.chars_ofDay_injective {day day' : Int} (h : (ofDay day).chars = (ofDay day').chars) :
    day = day' := by
  have hbounds (day : Int) : (ofDay day).month < 10 ^ 2 ∧ (ofDay day).day < 10 ^ 2 := by
    obtain ⟨-, hmonth, -, hday⟩ := valid_ofDay day
    have := (Calendar.monthLength_bounds (ofDay day).monthIndex).2
    omega
  simp only [chars] at h
  obtain ⟨h, hday⟩ := Digits.append_padded_inj (by decide) (hbounds day).2 (hbounds day').2 h
  obtain ⟨h, hmonth⟩ := Digits.append_padded_inj (by decide) (hbounds day).1 (hbounds day').1 h
  have hyear := yearChars_injective h
  rw [← toDay_ofDay day, ← toDay_ofDay day', toDay, toDay, monthIndex, monthIndex, hyear, hmonth,
    hday]

namespace Reading

variable {r r' : Reading}

theorem truncated_eq_iff : r.truncated = r'.truncated ↔
    r.seconds = r'.seconds ∧ r.subsecond / 1000000 = r'.subsecond / 1000000 := by
  simp only [truncated, mk.injEq, seconds, subsecond, inserted]
  cases r.leap with
  | false =>
    cases r'.leap with
    | false =>
      simp only [Bool.false_eq_true, if_false, and_true]
      omega
    | true =>
      simp only [Bool.false_eq_true, if_true, if_false, and_false, false_iff]
      omega
  | true =>
    cases r'.leap with
    | false =>
      simp only [Bool.false_eq_true, if_true, if_false, and_false, false_iff, reduceCtorEq]
      omega
    | true =>
      simp only [if_true, and_true]
      omega

/-- The pieces of a stamp from its end on; only the year has no fixed width, and it stands first. -/
theorem stampChars_inj {offset : Int} (hl : r.ClosesMinute) (hl' : r'.ClosesMinute)
    (h : stampChars r offset = stampChars r' offset) : r.truncated = r'.truncated := by
  have hbounds (r : Reading) : r.hour < 10 ^ 2 ∧ r.minute < 10 ^ 2 ∧ r.second < 10 ^ 2 ∧
      r.fraction / 1000000 < 10 ^ 3 := by
    refine ⟨?_, ?_, ?_, ?_⟩
    · simp only [hour, secondOfDay, timeOfDay]
      omega
    · simp only [minute]
      omega
    · simp only [second]
      split <;> omega
    · simp only [fraction]
      omega
  obtain ⟨hhour, hminute, hsecond, hmillis⟩ := hbounds r
  obtain ⟨hhour', hminute', hsecond', hmillis'⟩ := hbounds r'
  obtain ⟨h, -⟩ := List.append_inj' h rfl
  obtain ⟨h, hmillis⟩ := Digits.append_padded_inj (by decide) hmillis hmillis' h
  obtain ⟨h, hsecond⟩ := Digits.append_padded_inj (by decide) hsecond hsecond' h
  obtain ⟨h, hminute⟩ := Digits.append_padded_inj (by decide) hminute hminute' h
  obtain ⟨h, hhour⟩ := Digits.append_padded_inj (by decide) hhour hhour' h
  have hday := Date.chars_ofDay_injective h
  have hface := ofFace?_face hl
  rw [hday, hhour, hminute, hsecond, hmillis, ofFace?_face hl'] at hface
  exact (Option.some.inj hface).symm

end Reading

namespace Instant

variable {i j anchor : Instant} {zone : Zone} {offset : Int}

def SameMillisecond (i j : Instant) : Prop :=
  i.utc.seconds = j.utc.seconds ∧ i.utc.subsecond / 1000000 = j.utc.subsecond / 1000000

instance (i j : Instant) : Decidable (i.SameMillisecond j) := inferInstanceAs (Decidable (_ ∧ _))

theorem sameMillisecond_iff_face (h : zone.Unchanging offset) (hi : i.zone = zone)
    (hj : j.zone = zone) : i.SameMillisecond j ↔ i.face.truncated = j.face.truncated := by
  rw [face_constant h.rules_eq hi, face_constant h.rules_eq hj, Reading.truncated_ahead,
    Reading.truncated_ahead, Reading.ahead_eq_iff, Reading.ahead_ahead, Int.add_right_neg,
    Reading.ahead_zero, Reading.truncated_eq_iff]
  rfl

theorem stampChars_eq_iff (h : zone.Unchanging offset) (hi : i.Regular zone) (hj : j.Regular zone) :
    stampChars i.face i.offset = stampChars j.face j.offset ↔ i.SameMillisecond j := by
  rw [offset_constant h.rules_eq hi.zone_eq, offset_constant h.rules_eq hj.zone_eq,
    sameMillisecond_iff_face h hi.zone_eq hj.zone_eq]
  constructor
  · exact Reading.stampChars_inj hi.closesMinute hj.closesMinute
  · intro hsame
    rw [← Reading.stampChars_truncated, hsame, Reading.stampChars_truncated]

/-- Under a fixed offset two instants that can be written are written alike if and only if
they agree to the millisecond. So a trial that reaches the one is taken to land on the other
just then. -/
theorem format_identifies_millisecond (h : zone.Unchanging offset) (hi : i.Regular zone)
    (hj : j.Regular zone) (hi' : i.face.InRange) (hj' : j.face.InRange) :
    (∃ text text', i.format = .ok text ∧ j.format = .ok text' ∧
      (text = text' ↔ i.SameMillisecond j)) ∧
    ∀ anchor tokens, evaluate anchor tokens = .ok i →
      anchor.landsOn j tokens = .ok (decide (i.SameMillisecond j)) := by
  have htext := format_eq_ok_iff.mpr ⟨hi', rfl⟩
  have htext' := format_eq_ok_iff.mpr ⟨hj', rfl⟩
  have hsame : String.ofList (stampChars i.face i.offset) =
      String.ofList (stampChars j.face j.offset) ↔ i.SameMillisecond j :=
    String.ofList_inj.trans (stampChars_eq_iff h hi hj)
  refine ⟨⟨_, _, htext, htext', hsame⟩, fun anchor tokens hreached => ?_⟩
  simp only [landsOn, hreached, htext, htext', Answer.bind_ok, beq_eq_decide, hsame]
  rfl

/-- A second inserted in a year with a sign and five digits: it is told from the second before it,
which has the same number, and what is cut off below the millisecond is not seen. -/
theorem format_identifies_inserted_second :
    ∃ (zone : Zone) (i j k : Instant), zone.Unchanging (-4500) ∧
      i.zone = zone ∧ j.zone = zone ∧ k.zone = zone ∧
      i.utc = ⟨-451722091500000500000, true⟩ ∧ j.utc = ⟨-451722091500000800000, true⟩ ∧
      k.utc = ⟨-451722091500000500000, false⟩ ∧
      i.format = .ok "-12345-06-30T23:59:60.999-01:15" ∧ j.format = i.format ∧
      (∀ text, k.format = .ok text → i.format ≠ .ok text) ∧ i.landsOn j [] = .ok true ∧
      i.landsOn k [] = .ok false := by
  let zone : Zone := .fixed ⟨-4500, by decide, by decide⟩
  let i : Instant := ⟨⟨-451722091500000500000, true⟩, zone, by decide⟩
  let j : Instant := ⟨⟨-451722091500000800000, true⟩, zone, by decide⟩
  let k : Instant := ⟨⟨-451722091500000500000, false⟩, zone, by decide⟩
  have hu : zone.Unchanging (-4500) := ⟨rfl, by decide⟩
  have hi : i.Regular zone := ⟨rfl, fun _ => by decide⟩
  have hj : j.Regular zone := ⟨rfl, fun _ => by decide⟩
  have hk : k.Regular zone := ⟨rfl, fun hleap => by cases hleap⟩
  obtain ⟨⟨text, text', hi', hj', hsame⟩, hlands⟩ :=
    format_identifies_millisecond hu hi hj (by decide) (by decide)
  obtain ⟨⟨text₁, text₁', hi₁, hk', hother⟩, hmisses⟩ :=
    format_identifies_millisecond hu hi hk (by decide) (by decide)
  refine ⟨zone, i, j, k, hu, rfl, rfl, rfl, rfl, rfl, rfl, by decide +kernel, ?_, ?_, ?_, ?_⟩
  · rw [hi', hj', hsame.mpr (by decide)]
  · intro written hwritten hboth
    obtain rfl := Except.ok.inj (hk'.symm.trans hwritten)
    exact absurd (hother.mp (Except.ok.inj (hi₁.symm.trans hboth))) (by decide)
  · exact hlands i [] rfl
  · exact hmisses i [] rfl

end Instant

end RelativeTime
