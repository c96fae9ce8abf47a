import RelativeTime.Proofs.FixedOffset
import RelativeTime.Proofs.Timestamp.Stamp
import RelativeTime.Proofs.Unsnap
import RelativeTime.Proofs.WallClock

/-! Two zones whose clocks are never changed, side by side. The same wall clock readings lead to the
same wall clock readings in either, so that the offsets show in what is written and in nothing
else: the same counts are walked, the same candidates land, and the same instruction is found. -/
namespace RelativeTime

def stemChars (wall : Reading) : List Char :=
  wall.faceChars ++ '.' :: Digits.padded 3 (wall.fraction / 1000000)

theorem stampChars_eq (wall : Reading) (offset : Int) :
    stampChars wall offset = stemChars wall ++ offsetChars offset := rfl

namespace Instant

structure Alike (zone₁ zone₂ : Zone) (i₁ i₂ : Instant) : Prop where
  left : i₁.zone = zone₁
  right : i₂.zone = zone₂
  face : i₁.face = i₂.face

variable {zone₁ zone₂ : Zone} {offset₁ offset₂ : Int} {i₁ i₂ j₁ j₂ t₁ t₂ : Instant}
  {u : TimeUnit} {heading : Sign} {b : Int}

theorem Alike.symm (h : Alike zone₁ zone₂ i₁ i₂) : Alike zone₂ zone₁ i₂ i₁ :=
  ⟨h.right, h.left, h.face.symm⟩

theorem Alike.inner (h : Alike zone₁ zone₂ i₁ i₂) (hi : i₁.Inner zone₁ b) :
    i₂.Inner zone₂ b := by
  have hplain : i₂.face.leap = i₁.face.leap := by rw [h.face]
  exact ⟨h.right, hplain.trans hi.plain, h.face ▸ hi.near⟩

theorem utc_lt_iff {zone : Zone} {offset : Int} {i j : Instant} (h : zone.Unchanging offset)
    (hi : i.zone = zone) (hj : j.zone = zone) : i.utc < j.utc ↔ i.face < j.face := by
  rw [face_constant h.rules_eq hi, face_constant h.rules_eq hj, Reading.ahead_lt_ahead_iff]

section Walk

variable (h₁ : zone₁.Unchanging offset₁) (h₂ : zone₂.Unchanging offset₂)
include h₁ h₂

theorem Alike.utc_lt_iff (hi : Alike zone₁ zone₂ i₁ i₂) (hj : Alike zone₁ zone₂ j₁ j₂) :
    i₁.utc < j₁.utc ↔ i₂.utc < j₂.utc := by
  rw [Instant.utc_lt_iff h₁ hi.left hj.left, Instant.utc_lt_iff h₂ hi.right hj.right, hi.face,
    hj.face]

theorem Alike.passes_iff (hi : Alike zone₁ zone₂ i₁ i₂) (ht : Alike zone₁ zone₂ t₁ t₂) :
    i₁.Passes heading t₁.utc ↔ i₂.Passes heading t₂.utc := by
  cases heading with
  | plus => exact ht.utc_lt_iff h₁ h₂ hi
  | minus => exact hi.utc_lt_iff h₁ h₂ ht

theorem Alike.heading_eq (hi : Alike zone₁ zone₂ i₁ i₂) (ht : Alike zone₁ zone₂ t₁ t₂) :
    i₁.heading t₁ = i₂.heading t₂ := by
  simp only [heading, ht.utc_lt_iff h₁ h₂ hi]

theorem Alike.plus (hi : Alike zone₁ zone₂ i₁ i₂) {n : Int} (hj₁ : i₁.plus u n = .ok j₁)
    (hj₂ : i₂.plus u n = .ok j₂) : Alike zone₁ zone₂ j₁ j₂ := by
  obtain ⟨left, face₁⟩ := face_of_plus h₁ hi.left hj₁
  obtain ⟨right, face₂⟩ := face_of_plus h₂ hi.right hj₂
  exact ⟨left, right, by rw [face₁, face₂, hi.face]⟩

theorem Alike.evaluate (hi : Alike zone₁ zone₂ i₁ i₂) {ts : List Token}
    (hj₁ : RelativeTime.evaluate i₁ ts = .ok j₁) (hj₂ : RelativeTime.evaluate i₂ ts = .ok j₂) :
    Alike zone₁ zone₂ j₁ j₂ := by
  obtain ⟨left, face₁⟩ := face_of_evaluate h₁ hi.left hj₁
  obtain ⟨right, face₂⟩ := face_of_evaluate h₂ hi.right hj₂
  exact ⟨left, right, by rw [face₁, face₂, hi.face]⟩

/-- A leg goes no less far in one zone than in the other, for the counts that it tries cannot
fail. -/
theorem Alike.count_le (hi : Alike zone₁ zone₂ i₁ i₂) (ht : Alike zone₁ zone₂ t₁ t₂)
    (ii : i₁.Inner zone₁ b) (it : t₁.Inner zone₁ b) (hb : b ≤ 80000000) (hu : u.MovesDate)
    {n₁ n₂ : Nat} (leg₁ : i₁.Leg u heading t₁.utc (i₁.most u heading t₁) n₁ j₁)
    (leg₂ : i₂.Leg u heading t₂.utc (i₂.most u heading t₂) n₂ j₂) : n₂ ≤ n₁ := by
  by_contra hlt
  have hmost : n₂ ≤ i₁.most u heading t₁ := by
    rw [most, hi.face, ht.face]
    exact leg₂.count_le
  have hmove := move_of_le_most ii it hu hmost
  obtain ⟨k, hk⟩ := ii.plus_succeeds h₁.bounded hu (by omega) (n := heading.apply n₂)
    ⟨by omega, by omega⟩
  have hpass := leg₁.greedy n₂ (by omega) hmost k hk
  have hj := hi.plus h₁ h₂ hk (leg₂.moves (by omega))
  exact leg₂.short (by omega) ((hj.passes_iff h₁ h₂ ht).mp hpass)

theorem Alike.leg (hi : Alike zone₁ zone₂ i₁ i₂) (ht : Alike zone₁ zone₂ t₁ t₂)
    (ii : i₁.Inner zone₁ b) (it : t₁.Inner zone₁ b) (hb : b ≤ 80000000) (hu : u.MovesDate)
    {n₁ n₂ : Nat} (leg₁ : i₁.Leg u heading t₁.utc (i₁.most u heading t₁) n₁ j₁)
    (leg₂ : i₂.Leg u heading t₂.utc (i₂.most u heading t₂) n₂ j₂) :
    n₁ = n₂ ∧ Alike zone₁ zone₂ j₁ j₂ := by
  have hle := hi.count_le h₁ h₂ ht ii it hb hu leg₁ leg₂
  have hge := hi.symm.count_le h₂ h₁ ht.symm (hi.inner ii) (ht.inner it) hb hu leg₂ leg₁
  obtain rfl := Nat.le_antisymm hge hle
  refine ⟨rfl, ?_⟩
  by_cases hn : n₁ = 0
  · rw [leg₁.stays hn, leg₂.stays hn]
    exact hi
  · exact hi.plus h₁ h₂ (leg₁.moves hn) (leg₂.moves hn)

variable {count₁ count₂ : TimeUnit → Nat} {y₁ y₂ m₁ m₂ w₁ w₂ s₁ s₂ : Instant}

theorem Alike.legs (hi : Alike zone₁ zone₂ i₁ i₂) (ht : Alike zone₁ zone₂ t₁ t₂)
    (ii : i₁.Inner zone₁ b) (it : t₁.Inner zone₁ b) (hb : b ≤ 70000000)
    (hp : ¬ i₁.Passes heading t₁.utc) (legs₁ : Legs i₁ t₁ heading count₁ y₁ m₁ w₁ s₁)
    (legs₂ : Legs i₂ t₂ heading count₂ y₂ m₂ w₂ s₂) :
    count₁ .years = count₂ .years ∧ count₁ .months = count₂ .months ∧
      count₁ .weeks = count₂ .weeks ∧ count₁ .days = count₂ .days ∧ Alike zone₁ zone₂ s₁ s₂ := by
  obtain ⟨iy, im, iw, -⟩ := legs₁.inner h₁.bounded ii it hp
  obtain ⟨hyears, ay⟩ := hi.leg h₁ h₂ ht ii it (by omega) (by decide) legs₁.years legs₂.years
  obtain ⟨hmonths, am⟩ :=
    ay.leg h₁ h₂ ht iy (it.mono (by omega)) (by omega) (by decide) legs₁.months legs₂.months
  obtain ⟨hweeks, aw⟩ :=
    am.leg h₁ h₂ ht im (it.mono (by omega)) (by omega) (by decide) legs₁.weeks legs₂.weeks
  obtain ⟨hdays, as⟩ :=
    aw.leg h₁ h₂ ht iw (it.mono (by omega)) (by omega) (by decide) legs₁.days legs₂.days
  exact ⟨hyears, hmonths, hweeks, hdays, as⟩

theorem Alike.elapsed_eq (hi : Alike zone₁ zone₂ i₁ i₂) (ht : Alike zone₁ zone₂ t₁ t₂)
    (ii : i₁.utc.leap = false) (it : t₁.utc.leap = false) :
    t₁.utc.elapsed i₁.utc = t₂.utc.elapsed i₂.utc := by
  have hplain {i j : Instant} (h : i.face = j.face) (hi : i.utc.leap = false) :
      j.utc.leap = false := (congrArg Reading.leap h).symm.trans hi
  have hcount {zone : Zone} {offset : Int} (h : zone.Unchanging offset) {i : Instant}
      (hz : i.zone = zone) : i.face.nanos = i.utc.nanos + 1000000000 * offset := by
    rw [face_nanos, offset_constant h.rules_eq hz]
  have hface : i₁.face.nanos = i₂.face.nanos := by rw [hi.face]
  have hface' : t₁.face.nanos = t₂.face.nanos := by rw [ht.face]
  rw [hcount h₁ hi.left, hcount h₂ hi.right] at hface
  rw [hcount h₁ ht.left, hcount h₂ ht.right] at hface'
  rw [Reading.elapsed_of_not_leap it ii,
    Reading.elapsed_of_not_leap (hplain ht.face it) (hplain hi.face ii)]
  omega

theorem Alike.difference_eq (hi : Alike zone₁ zone₂ i₁ i₂) (ht : Alike zone₁ zone₂ t₁ t₂)
    (ii : i₁.Inner zone₁ b) (it : t₁.Inner zone₁ b) (hb : b ≤ 70000000) :
    i₁.difference t₁ = i₂.difference t₂ := by
  obtain ⟨years, months, weeks, days, _, _, _, stop₁, legs₁, itinerary₁, -⟩ :=
    ii.exists_legs h₁.bounded hb it
  obtain ⟨years', months', weeks', days', _, _, _, stop₂, legs₂, itinerary₂, -⟩ :=
    (hi.inner ii).exists_legs h₂.bounded hb (ht.inner it)
  have hp := not_passes_heading i₁ t₁
  rw [← hi.heading_eq h₁ h₂ ht] at legs₂ itinerary₂
  obtain ⟨hyears, hmonths, hweeks, hdays, hstop⟩ :=
    hi.legs h₁ h₂ ht ii it hb hp (legs₁ 0) (legs₂ 0)
  obtain rfl : years = years' := hyears
  obtain rfl : months = months' := hmonths
  obtain rfl : weeks = weeks' := hweeks
  obtain rfl : days = days' := hdays
  have istop := ((legs₁ 0).inner h₁.bounded ii it hp).2.2.2
  have helapsed := hstop.elapsed_eq h₁ h₂ ht istop.plain it.plain
  simp only [Instant.difference_eq, itinerary₁, itinerary₂, Except.map, helapsed]

end Walk

theorem format_eq_iff_stem {zone : Zone} {offset : Int} (h : zone.Unchanging offset)
    {i j : Instant} (hi : i.zone = zone) (hj : j.zone = zone) (hr : i.face.InRange) {text : String}
    (hf : j.format = .ok text) : i.format = .ok text ↔ stemChars i.face = stemChars j.face := by
  obtain ⟨-, rfl⟩ := format_eq_ok_iff.mp hf
  rw [format_eq_ok_iff, offset_constant h.rules_eq hi, offset_constant h.rules_eq hj]
  constructor
  · rintro ⟨-, htext⟩
    have hchars := String.ofList_injective htext
    rw [stampChars_eq, stampChars_eq, List.append_left_inj] at hchars
    exact hchars.symm
  · intro hstem
    rw [stampChars_eq, stampChars_eq, hstem]
    exact ⟨hr, rfl⟩

section Trials

variable (h₁ : zone₁.Unchanging offset₁) (h₂ : zone₂.Unchanging offset₂)
include h₁ h₂

theorem Alike.landsOn_eq (hi : Alike zone₁ zone₂ i₁ i₂) (ht : Alike zone₁ zone₂ t₁ t₂)
    {tokens : List Token} (he₁ : RelativeTime.evaluate i₁ tokens = .ok j₁)
    (he₂ : RelativeTime.evaluate i₂ tokens = .ok j₂) (hb : b ≤ 90000000)
    (wj₁ : j₁.Within zone₁ b) (wj₂ : j₂.Within zone₂ b) (wt₁ : t₁.Within zone₁ b)
    (wt₂ : t₂.Within zone₂ b) : i₁.landsOn t₁ tokens = i₂.landsOn t₂ tokens := by
  obtain ⟨written₁, hw₁⟩ := wt₁.exists_format h₁.bounded hb
  obtain ⟨written₂, hw₂⟩ := wt₂.exists_format h₂.bounded hb
  obtain ⟨lands₁, hl₁, hiff₁⟩ := landsOn_eq_ok h₁.bounded hb he₁ wj₁ hw₁
  obtain ⟨lands₂, hl₂, hiff₂⟩ := landsOn_eq_ok h₂.bounded hb he₂ wj₂ hw₂
  have hj := hi.evaluate h₁ h₂ he₁ he₂
  rw [format_eq_iff_stem h₁ hj.left ht.left (wj₁.face_inRange h₁.bounded hb) hw₁] at hiff₁
  rw [format_eq_iff_stem h₂ hj.right ht.right (wj₂.face_inRange h₂.bounded hb) hw₂, ← hj.face,
    ← ht.face] at hiff₂
  have hlands : lands₁ = lands₂ := Bool.eq_iff_iff.mpr (hiff₁.trans hiff₂.symm)
  rw [hl₁, hl₂, hlands]

omit h₁ h₂ in
theorem foldlM_improve_eq {chain : List Token} (us : List TimeUnit)
    (h : ∀ u ∈ us, i₁.landsOn t₁ (attempt chain u) = i₂.landsOn t₂ (attempt chain u))
    (best : String) :
    us.foldlM (i₁.improve t₁ chain) best = us.foldlM (i₂.improve t₂ chain) best := by
  induction us generalizing best with
  | nil => rw [List.foldlM_nil, List.foldlM_nil]
  | cons u us ih =>
    have hstep : i₁.improve t₁ chain best u = i₂.improve t₂ chain best u := by
      rw [improve_eq, improve_eq, h u List.mem_cons_self]
    rw [List.foldlM_cons, List.foldlM_cons, hstep]
    exact bind_congr fun better => ih (fun v hv => h v (List.mem_cons_of_mem u hv)) better

theorem Alike.instructionTo_eq (hi : Alike zone₁ zone₂ i₁ i₂) (ht : Alike zone₁ zone₂ t₁ t₂)
    (ii : i₁.Inner zone₁ b) (it : t₁.Inner zone₁ b) (hb : b ≤ 40000000) :
    i₁.instructionTo t₁ = i₂.instructionTo t₂ := by
  have wi₁ := ii.within h₁.bounded
  have wt₁ := it.within h₁.bounded
  have wi₂ := (hi.inner ii).within h₂.bounded
  have wt₂ := (ht.inner it).within h₂.bounded
  obtain ⟨d, hd₁, hsmall, room₁⟩ := wi₁.exists_difference h₁.bounded (by omega) wt₁
  obtain ⟨d', hd₂, -, room₂⟩ := wi₂.exists_difference h₂.bounded (by omega) wt₂
  have hd : i₁.difference t₁ = i₂.difference t₂ :=
    hi.difference_eq h₁ h₂ ht ii it (by omega)
  obtain rfl : d = d' := by
    rw [hd₁, hd₂] at hd
    exact Except.ok.inj hd
  rw [instructionTo, instructionTo, hd₁, hd₂, Answer.bind_ok, Answer.bind_ok]
  refine foldlM_improve_eq d.units (fun u hu => ?_) _
  have htried : attempt d.chain u ∈ d.chain :: d.units.map (attempt d.chain) :=
    List.mem_cons_of_mem _ (List.mem_map_of_mem hu)
  obtain ⟨j₁, he₁, wj₁, -⟩ := room₁.exists_tried h₁.bounded (by omega) hsmall htried
  obtain ⟨j₂, he₂, wj₂, -⟩ := room₂.exists_tried h₂.bounded (by omega) hsmall htried
  exact hi.landsOn_eq h₁ h₂ ht he₁ he₂ (by omega) wj₁ wj₂ (wt₁.mono (by omega))
    (wt₂.mono (by omega))

end Trials

end Instant

/-! ### Texts in, texts out -/

structure Timestamp.Floating (text : String) (wall : Reading) : Prop where
  without_offset : Timestamp.readAbsolute? text.toList = none
  shows : Timestamp.readLocal? text.toList = some wall
  plain : wall.leap = false

theorem Timestamp.Floating.exists_read {text : String} {wall : Reading} (ht : Floating text wall)
    {zone : Zone} {offset : Int} (h : zone.Unchanging offset) :
    ∃ i, zone.read text = .ok i ∧ i.zone = zone ∧ i.face = wall := by
  have hday := readLocal?_bounds ht.shows
  have hinner : firstDay < wall.day ∧ wall.day < lastDay := by
    rw [firstDay_eq, lastDay_eq]
    omega
  obtain ⟨i, hi⟩ := Zone.resolve_of_inner h.bounded hinner
  refine ⟨i, ?_, (Zone.resolve_constant_iff h.rules_eq h.bounds).mp hi⟩
  simp only [Zone.read, ht.without_offset, ht.shows, hi]

theorem Timestamp.Floating.exists_alike {text : String} {wall : Reading} (ht : Floating text wall)
    {zone₁ zone₂ : Zone} {offset₁ offset₂ : Int} (h₁ : zone₁.Unchanging offset₁)
    (h₂ : zone₂.Unchanging offset₂) : ∃ i₁ i₂, zone₁.read text = .ok i₁ ∧
      zone₂.read text = .ok i₂ ∧ i₁.Inner zone₁ 40000000 ∧ Instant.Alike zone₁ zone₂ i₁ i₂ := by
  obtain ⟨i₁, hi₁, left, face₁⟩ := ht.exists_read h₁
  obtain ⟨i₂, hi₂, right, face₂⟩ := ht.exists_read h₂
  have hplain : i₁.utc.leap = false := (congrArg Reading.leap face₁).trans ht.plain
  exact ⟨i₁, i₂, hi₁, hi₂, Zone.read_inner h₁.bounded hi₁ hplain, left, right,
    face₁.trans face₂.symm⟩

/-- Zones whose clocks are never changed are interchangeable. Where an instruction can be followed
in both, the texts are alike up to the offset; and the instruction that is found is the same. -/
theorem interchange_of_unchanging [Zone.Names] {s₁ s₂ : Setting} {zone₁ zone₂ : Zone}
    {offset₁ offset₂ : Int} (hs₁ : s₁.zone = .ok zone₁) (hs₂ : s₂.zone = .ok zone₂)
    (h₁ : zone₁.Unchanging offset₁) (h₂ : zone₂.Unchanging offset₂) {t u : String}
    {wall wall' : Reading} (ht : Timestamp.Floating t wall) (hu : Timestamp.Floating u wall') :
    (∀ instruction out₁ out₂, instruction ≠ "" → snap s₁ t instruction = .ok out₁ →
      snap s₂ t instruction = .ok out₂ → ∃ stem,
        out₁ = String.ofList (stem ++ offsetChars offset₁) ∧
        out₂ = String.ofList (stem ++ offsetChars offset₂)) ∧
    ∃ instruction, unsnap s₁ t u = .ok instruction ∧ unsnap s₂ t u = .ok instruction := by
  obtain ⟨t₁, t₂, ht₁, ht₂, it, alike⟩ := ht.exists_alike h₁ h₂
  obtain ⟨u₁, u₂, hu₁, hu₂, iu, alike'⟩ := hu.exists_alike h₁ h₂
  rw [← Setting.read_eq hs₁] at ht₁ hu₁
  rw [← Setting.read_eq hs₂] at ht₂ hu₂
  constructor
  · intro instruction out₁ out₂ hne hout₁ hout₂
    rw [snap_of_ne_empty ht₁ hne] at hout₁
    rw [snap_of_ne_empty ht₂ hne] at hout₂
    obtain ⟨tokens, hparse, hout₁⟩ := Answer.bind_eq_ok.mp hout₁
    rw [hparse, Answer.bind_ok] at hout₂
    obtain ⟨j₁, he₁, hf₁⟩ := Answer.bind_eq_ok.mp hout₁
    obtain ⟨j₂, he₂, hf₂⟩ := Answer.bind_eq_ok.mp hout₂
    have hend := alike.evaluate h₁ h₂ he₁ he₂
    refine ⟨stemChars j₁.face, ?_, ?_⟩
    · rw [(Instant.format_eq_ok_iff.mp hf₁).2, Instant.offset_constant h₁.rules_eq hend.left,
        stampChars_eq]
    · rw [(Instant.format_eq_ok_iff.mp hf₂).2, Instant.offset_constant h₂.rules_eq hend.right,
        stampChars_eq, hend.face]
  · have hsame := alike'.instructionTo_eq h₁ h₂ alike iu it (by omega)
    obtain ⟨-, tokens, -, -, -, htext, -⟩ :=
      (iu.within h₁.bounded).exists_instruction h₁.bounded (by omega) (it.within h₁.bounded)
    refine ⟨render tokens, ?_, ?_⟩
    · rw [unsnap, ht₁, Answer.bind_ok, hu₁, Answer.bind_ok, htext]
    · rw [unsnap, ht₂, Answer.bind_ok, hu₂, Answer.bind_ok, ← hsame, htext]

/-- Half past five ahead of UTC and eight hours behind, with a part of a millisecond. -/
theorem interchange_of_east_and_west :
    (∃ stem, "2020-03-24T22:30:00.000+05:30" = String.ofList (stem ++ offsetChars 19800) ∧
      "2020-03-24T22:30:00.000-08:00" = String.ofList (stem ++ offsetChars (-28800))) ∧
    ∃ instruction,
      unsnap ⟨.utc, some "+05:30"⟩ "2020-02-29T10:15:30.1234567" "2023-05-31T09:00" =
        .ok instruction ∧
      unsnap ⟨.utc, some "-08:00"⟩ "2020-02-29T10:15:30.1234567" "2023-05-31T09:00" =
        .ok instruction := by
  have ht : Timestamp.Floating "2020-02-29T10:15:30.1234567" ⟨1582971330123456700, false⟩ :=
    ⟨by decide +kernel, by decide +kernel, rfl⟩
  have hu : Timestamp.Floating "2023-05-31T09:00" ⟨1685523600000000000, false⟩ :=
    ⟨by decide +kernel, by decide +kernel, rfl⟩
  have h₁ : (Zone.fixed ⟨19800, by decide, by decide⟩).Unchanging 19800 := ⟨rfl, by decide⟩
  have h₂ : (Zone.fixed ⟨-28800, by decide, by decide⟩).Unchanging (-28800) := ⟨rfl, by decide⟩
  have hs₁ : Setting.zone ⟨.utc, some "+05:30"⟩ = .ok (.fixed ⟨19800, by decide, by decide⟩) := by
    decide +kernel
  have hs₂ : Setting.zone ⟨.utc, some "-08:00"⟩ =
      .ok (.fixed ⟨-28800, by decide, by decide⟩) := by
    decide +kernel
  obtain ⟨hsnap, hunsnap⟩ := interchange_of_unchanging hs₁ hs₂ h₁ h₂ ht hu
  exact ⟨hsnap "+1mon@w3-90m" _ _ (by decide) (by decide +kernel) (by decide +kernel), hunsnap⟩

end RelativeTime
