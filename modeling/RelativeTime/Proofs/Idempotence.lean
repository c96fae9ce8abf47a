import RelativeTime.Proofs.Timestamp.Reread
import RelativeTime.Proofs.WeekStart

/-! A snap made twice, on the texts. Where the first one leads the second one stays, but for two
things. From within an inserted second a snap on minutes or hours ends a second after the boundary,
as if the inserted one were still to be passed, so that another snap goes on to it. And a text whose
year is not one of four digits cannot be read again at all. -/
namespace RelativeTime

open Calendar

namespace Reading

variable {r : Reading} {u : TimeUnit} {nanos s : Int}

/-- The start of a unit, in the count of seconds, unless it is sought from within an inserted second
that it does not lie in. -/
theorem toStart_nanos (hu : u.stride = .elapsed nanos)
    (h : ¬ (r.leap = true ∧ (u = .minutes ∨ u = .hours))) :
    (r.after (-((r.ahead s).nanos % nanos))).nanos = r.nanos - (r.ahead s).nanos % nanos := by
  unfold after
  cases hleap : r.leap with
  | false =>
    simp only [Bool.false_eq_true, if_false]
    omega
  | true =>
    have hwithin : (r.ahead s).nanos % nanos ≤ r.nanos % 1000000000 := by
      simp only [ahead]
      rcases TimeUnit.elapsed_cases hu with ⟨-, rfl⟩ | ⟨-, rfl⟩ | ⟨rfl, -⟩ | ⟨rfl, -⟩
      · omega
      · omega
      · exact absurd ⟨hleap, .inl rfl⟩ h
      · exact absurd ⟨hleap, .inr rfl⟩ h
    simp only [if_true]
    rw [if_neg (by omega)]
    simp only
    omega

/-- From within an inserted second a minute or an hour seems to begin a second late. -/
theorem toStart_nanos_of_leap (hl : r.leap = true) (hc : r.ClosesMinute) (hs : s % 60 = 0)
    (hu : u.stride = .elapsed nanos) (h : u = .minutes ∨ u = .hours) :
    r.after (-((r.ahead s).nanos % nanos)) =
      ⟨r.nanos - (r.ahead s).nanos % nanos + 1000000000, false⟩ := by
  have hlast := hc hl
  have hbefore : r.nanos % 1000000000 < (r.ahead s).nanos % nanos := by
    simp only [seconds] at hlast
    simp only [ahead]
    rcases h with rfl | rfl <;> simp only [TimeUnit.stride, Stride.elapsed.injEq] at hu <;>
      subst hu <;> omega
  unfold after
  rw [if_pos hl]
  simp only
  rw [if_pos (by omega)]
  simp only [mk.injEq, and_true]
  omega

end Reading

theorem Zone.Steady.unchanging {zone : Zone} {offset : Int} (h : zone.Steady offset) :
    zone.Unchanging offset :=
  ⟨h.rules_eq, h.bounds⟩

namespace Instant

variable {i j : Instant} {zone : Zone} {offset : Int} {u : TimeUnit}

theorem startOf_boundary {nanos : Int} (hu : u.stride = .elapsed nanos)
    (h : i.face.nanos % nanos = 0) : i.startOf u = .ok i := by
  simp only [startOf, hu, h, Int.neg_zero, after?_zero]

theorem startOf_elapsed_again (h : zone.Steady offset) (hi : i.zone = zone) {nanos : Int}
    (hu : u.stride = .elapsed nanos) (hj : i.startOf u = .ok j)
    (hl : ¬ (i.utc.leap = true ∧ (u = .minutes ∨ u = .hours))) : j.startOf u = .ok j := by
  obtain ⟨hzone, hutc⟩ := (startOf_elapsed_eq_ok_iff hu).mp hj
  have hface := face_constant h.rules_eq hi
  have hnanos := Reading.toStart_nanos (s := offset) hu hl
  rw [← hface, ← hutc] at hnanos
  refine startOf_boundary hu ?_
  rw [face_constant h.rules_eq (hzone.trans hi), Reading.ahead_nanos, hnanos]
  rw [hface, Reading.ahead_nanos]
  rcases TimeUnit.elapsed_cases hu with ⟨-, rfl⟩ | ⟨-, rfl⟩ | ⟨-, rfl⟩ | ⟨-, rfl⟩ <;> omega

theorem startOf_again (h : zone.Steady offset) (hi : i.zone = zone) (hj : i.startOf u = .ok j)
    (hdated : j.face.InRange) (hl : ¬ (i.utc.leap = true ∧ (u = .minutes ∨ u = .hours))) :
    j.startOf u = .ok j := by
  by_cases hu : u.MovesDate
  · obtain ⟨hzone, hface⟩ := face_of_startOf h.unchanging hi hj
    rw [Reading.startOf_of_movesDate hu] at hface
    have hday : u.firstDate j.face.day = u.firstDate i.face.day := by
      rw [hface, Reading.midnight_day, TimeUnit.firstDate_again]
    rw [startOf_date_eq_ok_iff hu, hday, hzone]
    exact ⟨hdated, (Zone.resolve_constant_iff h.rules_eq h.bounds).mpr ⟨hzone, hface⟩⟩
  · obtain ⟨nanos, hnanos⟩ := TimeUnit.exists_elapsed hu
    exact startOf_elapsed_again h hi hnanos hj hl

theorem snap_weeks_again (h : zone.Steady offset) (hi : i.zone = zone) {s : Snap}
    (hs : s.unit = .weeks) (hj : s.apply i = .ok j) (hdated : j.face.InRange) :
    s.apply j = .ok j := by
  obtain ⟨unit, asked⟩ := s
  obtain rfl : unit = .weeks := hs
  obtain ⟨hzone, hface⟩ := face_of_snap_weeks h.unchanging hi hj
  rw [snap_weeks_iff h.unchanging hzone hdated]
  refine ⟨hzone, ?_⟩
  rw [hface, Reading.midnight_day, weekStart_again]

theorem snap_again (h : zone.Steady offset) (hi : i.zone = zone) {s : Snap}
    (hj : s.apply i = .ok j) (hdated : j.face.InRange)
    (hl : ¬ (i.utc.leap = true ∧ (s.unit = .minutes ∨ s.unit = .hours))) : s.apply j = .ok j := by
  by_cases hs : s.unit = .weeks
  · exact snap_weeks_again h hi hs hj hdated
  · rw [Snap.apply_of_ne_weeks hs] at hj ⊢
    exact startOf_again h hi hj hdated hl

theorem snap_again_of_leap (h : zone.Steady offset) (hi : i.Regular zone) {s : Snap}
    (hj : s.apply i = .ok j) {k : Instant} (hk : s.apply j = .ok k) (hl : i.utc.leap = true)
    (hu : s.unit = .minutes ∨ s.unit = .hours) :
    k.utc.nanos = j.utc.nanos - 1000000000 := by
  obtain ⟨nanos, hstride, hsecond⟩ : ∃ nanos, s.unit.stride = .elapsed nanos ∧
      ∀ n : Int, (n - n % nanos + 1000000000) % nanos = 1000000000 := by
    rcases hu with hu | hu
    · exact ⟨60000000000, by rw [hu]; rfl, fun n => by omega⟩
    · exact ⟨3600000000000, by rw [hu]; rfl, fun n => by omega⟩
  have hs : s.unit ≠ .weeks := by
    rcases hu with hu | hu <;> simp [hu]
  rw [Snap.apply_of_ne_weeks hs] at hj hk
  obtain ⟨hzone, hutc⟩ := (startOf_elapsed_eq_ok_iff hstride).mp hj
  obtain ⟨-, hutc'⟩ := (startOf_elapsed_eq_ok_iff hstride).mp hk
  have hface := face_constant h.rules_eq hi.zone_eq
  have hcloses := (h.face_closesMinute_iff hi.zone_eq).mp hi.closesMinute
  rw [hface, Reading.toStart_nanos_of_leap hl hcloses h.minutes hstride hu] at hutc
  have hplain : j.utc.leap = false := by rw [hutc]
  have hfacej : j.face.nanos % nanos = 1000000000 := by
    rw [face_constant h.rules_eq (hzone.trans hi.zone_eq), hutc]
    have hshown := hsecond (i.utc.ahead offset).nanos
    simp only [Reading.ahead_nanos] at hshown ⊢
    refine Eq.trans ?_ hshown
    congr 1
    omega
  rw [hutc', Reading.after_of_not_leap hplain, hfacej]
  rfl

theorem snap_written_again_iff (h : zone.Steady offset) (hi : i.Regular zone) {s : Snap}
    (hj : s.apply i = .ok j) {text : String} (hf : j.format = .ok text)
    (hy : PlainYear text) : (s.apply j >>= Instant.format) = .ok text ↔
      ¬ (i.utc.leap = true ∧ (s.unit = .minutes ∨ s.unit = .hours)) := by
  have hregular : j.Regular zone := h.apply_regular (t := .snap s) hj hi
  constructor
  · rintro hagain ⟨hl, hu⟩
    obtain ⟨k, hk, hfk⟩ := Answer.bind_eq_ok.mp hagain
    have hregular' : k.Regular zone := h.apply_regular (t := .snap s) hk hregular
    have hsame := congrArg (fun i : Instant => i.utc.nanos)
      (truncated_eq_of_format h hregular hregular' hf hfk hy)
    have hback := snap_again_of_leap h hi hj hk hl hu
    simp only [truncated, Reading.truncated] at hsame
    omega
  · intro hl
    have hstay := snap_again h hi.zone_eq hj (format_eq_ok_iff.mp hf).1 hl
    rw [hstay, Answer.bind_ok, hf]

end Instant

variable {s : Setting} {host timestamp instruction text : String} {zone : Zone} {offset : Int}

/-- A snap under a fixed offset, made once more on the text of its result. The text can be read
exactly if its year has four digits, and then the same text results, unless the timestamp named an
inserted second and the snap is on minutes or hours. -/
theorem snap_again_iff [Zone.Names] [Zone.Names.Lawful] {system : Option String}
    (hh : s.host = .ofSetting host system) (hs : s.zone = .ok zone)
    (hz : zone.rules = .constant offset) {start : Instant} (hr : s.read timestamp = .ok start)
    {token : Snap} (hp : parse instruction = .ok [.snap token])
    (hx : snap s timestamp instruction = .ok text) :
    ((∃ i, s.read text = .ok i) ↔ PlainYear text) ∧
      (snap s text instruction = .ok text ↔ PlainYear text ∧
        ¬ (start.utc.leap = true ∧ (token.unit = .minutes ∨ token.unit = .hours))) := by
  have hsteady := (Setting.known hh hs).steady hz
  have hne : instruction ≠ "" := by
    rintro rfl
    simp [parse, Instruction.readTokens, Except.mapError] at hp
  rw [snap_of_read hr hp hne] at hx
  obtain ⟨reached, he, hf⟩ := Answer.bind_eq_ok.mp hx
  rw [Setting.read_eq hs] at hr
  have hregular := hsteady.read_regular hr
  have hregular' := hsteady.evaluate_regular he hregular
  have hread : (∃ i, s.read text = .ok i) ↔ PlainYear text := by
    rw [Setting.read_eq hs]
    exact Instant.exists_read_format_iff hsteady hregular' hf
  have hone (i : Instant) : evaluate i [.snap token] = token.apply i :=
    i.evaluate_singleton (.snap token)
  rw [hone] at he
  have hagain (hy : PlainYear text) : snap s text instruction = .ok text ↔
      ¬ (start.utc.leap = true ∧ (token.unit = .minutes ∨ token.unit = .hours)) := by
    rw [← Instant.snap_written_again_iff hsteady hregular he hf hy, ← Answer.toOption_eq_some_iff,
      snap_rewritten hs hsteady hregular' hf hy hp hne, hone, Answer.toOption_eq_some_iff]
  refine ⟨hread, ?_⟩
  constructor
  · intro h
    have hy := hread.mp (read_of_snap h)
    exact ⟨hy, (hagain hy).mp h⟩
  · rintro ⟨hy, hl⟩
    exact (hagain hy).mpr hl

/-- A snap on weeks from within an inserted second, the last of a minute also half an hour on. -/
theorem snap_on_weeks_again :
    ∃ zone start token, Setting.zone ⟨.ofSetting "UTC", some "+05:30"⟩ = .ok zone ∧
      zone.rules = .constant 19800 ∧
      Setting.read ⟨.ofSetting "UTC", some "+05:30"⟩ "2016-12-31T23:59:60.9876Z" = .ok start ∧
      parse "@w3" = .ok [.snap token] ∧
      snap ⟨.ofSetting "UTC", some "+05:30"⟩ "2016-12-31T23:59:60.9876Z" "@w3" =
        .ok "2016-12-28T00:00:00.000+05:30" ∧
      (∃ i, Setting.read ⟨.ofSetting "UTC", some "+05:30"⟩ "2016-12-28T00:00:00.000+05:30" =
        .ok i) ∧
      snap ⟨.ofSetting "UTC", some "+05:30"⟩ "2016-12-28T00:00:00.000+05:30" "@w3" =
        .ok "2016-12-28T00:00:00.000+05:30" := by
  have hzone : Setting.zone ⟨.ofSetting "UTC", some "+05:30"⟩ =
      .ok (.fixed ⟨19800, by decide, by decide⟩) := by decide +kernel
  have hread : Setting.read ⟨.ofSetting "UTC", some "+05:30"⟩ "2016-12-31T23:59:60.9876Z" =
      .ok ⟨⟨1483228799987600000, true⟩, .fixed ⟨19800, by decide, by decide⟩, by decide⟩ := by
    decide +kernel
  have hparse : parse "@w3" = .ok [.snap ⟨.weeks, some 3⟩] := by decide +kernel
  have hsnap : snap ⟨.ofSetting "UTC", some "+05:30"⟩ "2016-12-31T23:59:60.9876Z" "@w3" =
      .ok "2016-12-28T00:00:00.000+05:30" := by decide +kernel
  have hhost : Setting.host ⟨.ofSetting "UTC", some "+05:30"⟩ = .ofSetting "UTC" := rfl
  have hrules : (Zone.fixed ⟨19800, by decide, by decide⟩).rules = .constant 19800 := rfl
  have hyear : PlainYear "2016-12-28T00:00:00.000+05:30" := by decide +kernel
  obtain ⟨hreread, hagain⟩ := snap_again_iff hhost hzone hrules hread hparse hsnap
  exact ⟨_, _, _, hzone, hrules, hread, hparse, hsnap, hreread.mpr hyear,
    hagain.mpr ⟨hyear, by rintro ⟨-, hunit | hunit⟩ <;> cases hunit⟩⟩

/-- Two snaps whose result the same snap does not keep: a minute that seems to begin a second late,
and a day whose year has five digits. -/
theorem snap_not_again :
    snap ⟨.utc, none⟩ "2016-12-31T23:59:60Z" "@m" = .ok "2016-12-31T23:59:01.000Z" ∧
      snap ⟨.utc, none⟩ "2016-12-31T23:59:01.000Z" "@m" = .ok "2016-12-31T23:59:00.000Z" ∧
      snap ⟨.utc, none⟩ "9999-12-31T23:00:00-05:00" "@d" = .ok "+10000-01-01T00:00:00.000Z" ∧
      snap ⟨.utc, none⟩ "+10000-01-01T00:00:00.000Z" "@d" =
        .error (.reported (.unreadableTimestamp "+10000-01-01T00:00:00.000Z")) := by
  decide +kernel

end RelativeTime
