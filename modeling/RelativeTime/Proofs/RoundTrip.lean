import RelativeTime.Operations
import RelativeTime.Proofs.ShortOfLeapDay
import RelativeTime.Proofs.Timestamp.Extent
import RelativeTime.Zone.Catalogue

/-! From two timestamps to an instruction and back: the instruction is to lead from the first of
them to the second. It does unless the difference was normalized across legs of the walk that cannot
be exchanged, where clamped dates or a changed clock make the carried counts lead elsewhere. -/
namespace RelativeTime

variable {s : Setting} {zone : Zone} {anchorText targetText : String} {anchor target : Instant}

/-- Under a fixed offset, an instruction is found and can be followed. It leads back to the target
unless the anchor is on a 29 February and the target in the last 24 hours before the anchor's time
of day on a later one. -/
theorem unsnap_returns_iff_not_shortOfLeapDay [Zone.Names] (hs : s.zone = .ok zone) {offset : Int}
    (hz : zone.rules = .constant offset) (ho : -86400 < offset ∧ offset < 86400)
    (ha : zone.read anchorText = .ok anchor) (ht : zone.read targetText = .ok target)
    (hal : anchor.utc.leap = false) (htl : target.utc.leap = false)
    (ham : anchor.utc.nanos % 1000000 = 0) (htm : target.utc.nanos % 1000000 = 0) :
    ∃ text tokens reached written, unsnap s targetText anchorText = .ok text ∧
      parse text = .ok tokens ∧ evaluate anchor tokens = .ok reached ∧
      target.format = .ok written ∧
      (reached.format = .ok written ↔ ¬ anchor.face.ShortOfLeapDay target.face) := by
  have hb : zone.rules.Bounded := hz ▸ Rules.bounded_constant ho
  have ia := Zone.read_inner hb ha hal
  have it := Zone.read_inner hb ht htl
  obtain ⟨tokens, reached, written, htext, hparse, he, hw, hiff⟩ :=
    ia.exists_instruction_constant hz ho (by omega) it (by omega)
  refine ⟨_, tokens, reached, written, ?_, hparse, he, hw, hiff⟩
  rw [unsnap, Setting.read_eq hs, Setting.read_eq hs, ht, ha, Answer.bind_ok, Answer.bind_ok, htext]

/-- From the last day of one month to that of another. -/
theorem unsnap_returns_from_month_end :
    ∃ zone anchor target, Zone.ofText "+05:30" = .ok zone ∧
      zone.read "2023-05-31T09:00" = .ok anchor ∧ zone.read "2020-02-29T10:15" = .ok target ∧
      ∃ text tokens reached written,
        unsnap ⟨.utc, some "+05:30"⟩ "2020-02-29T10:15" "2023-05-31T09:00" = .ok text ∧
        parse text = .ok tokens ∧ evaluate anchor tokens = .ok reached ∧
        target.format = .ok written ∧ reached.format = .ok written := by
  have hanchor : (Zone.fixed ⟨19800, by decide, by decide⟩).read "2023-05-31T09:00" =
      .ok ⟨⟨1685503800000000000, false⟩, .fixed ⟨19800, by decide, by decide⟩, by decide⟩ := by
    decide +kernel
  have htarget : (Zone.fixed ⟨19800, by decide, by decide⟩).read "2020-02-29T10:15" =
      .ok ⟨⟨1582951500000000000, false⟩, .fixed ⟨19800, by decide, by decide⟩, by decide⟩ := by
    decide +kernel
  obtain ⟨text, tokens, reached, written, htext, hparse, he, hwritten, hiff⟩ :=
    unsnap_returns_iff_not_shortOfLeapDay (s := ⟨.utc, some "+05:30"⟩) (by decide +kernel) rfl
      (by decide) hanchor htarget rfl rfl (by decide) (by decide)
  refine ⟨_, _, _, by decide +kernel, hanchor, htarget, text, tokens, reached, written, htext,
    hparse, he, hwritten, hiff.mpr ?_⟩
  rintro ⟨hleap, -⟩
  exact absurd hleap (by decide +kernel)

/-- Three years and twelve months lead to the 28th, four years at once to the 29th. -/
theorem unsnap_misses_short_of_leapDay :
    unsnap ⟨.utc, none⟩ "2024-02-28T12:00:00Z" "2020-02-29T00:00:00Z" = .ok "+4y+12h" ∧
    snap ⟨.utc, none⟩ "2020-02-29T00:00:00Z" "+4y+12h" = .ok "2024-02-29T12:00:00.000Z" ∧
    (Setting.read ⟨.utc, none⟩ "2024-02-28T12:00:00Z" >>= Instant.format) =
      .ok "2024-02-28T12:00:00.000Z" := by
  decide +kernel

/-- With whatever changes of the clock, an instruction is found and can be followed. It leads back
to the target if its years, months, weeks and days, carried or not, lead the date where the walk
led it, as they do where the walk took less than twelve months and less than seven days. Otherwise
it does only if the chain ends beside the target on an instant that is written alike, or if a
collapse of the chain lands. -/
theorem unsnap_returns_iff_date_agrees [Zone.Names] (hs : s.zone = .ok zone)
    (hb : zone.rules.Bounded) (ha : zone.read anchorText = .ok anchor)
    (ht : zone.read targetText = .ok target)
    (hal : anchor.utc.leap = false) (htl : target.utc.leap = false)
    (ham : anchor.utc.nanos % 1000000 = 0) (htm : target.utc.nanos % 1000000 = 0) :
    ∃ raw stop d text tokens reached written,
      anchor.itinerary target = .ok (raw, stop) ∧ anchor.difference target = .ok d ∧
      unsnap s targetText anchorText = .ok text ∧ parse text = .ok tokens ∧
      evaluate anchor tokens = .ok reached ∧ target.format = .ok written ∧
      (¬ raw.Carries → anchor.shiftDate d = .ok stop) ∧
      (reached.format = .ok written ↔ anchor.shiftDate d = .ok stop ∨
        (∃ j, evaluate anchor d.chain = .ok j ∧ j ≠ target ∧ j.format = .ok written) ∨
        anchor.CollapseLands target d) := by
  have ia := Zone.read_inner hb ha hal
  have it := Zone.read_inner hb ht htl
  obtain ⟨raw, stop, d, tokens, reached, written, hitinerary, hd, htext, hparse, he, hw, hsame,
    hiff⟩ := ia.exists_instruction hb (by omega) it (by omega)
  refine ⟨raw, stop, d, _, tokens, reached, written, hitinerary, hd, ?_, hparse, he, hw, hsame,
    hiff⟩
  rw [unsnap, Setting.read_eq hs, Setting.read_eq hs, ht, ha, Answer.bind_ok, Answer.bind_ok, htext]

/-- Two days on the calendar, an hour less by the clock. -/
theorem unsnap_returns_in_chicago :
    ∃ zone anchor target, Zone.ofText "America/Chicago" = .ok zone ∧
      zone.read "2024-03-09T12:00" = .ok anchor ∧ zone.read "2024-03-11T09:30" = .ok target ∧
      ∃ raw stop d text tokens reached written,
        anchor.itinerary target = .ok (raw, stop) ∧ ¬ raw.Carries ∧
        anchor.difference target = .ok d ∧ anchor.shiftDate d = .ok stop ∧
        unsnap ⟨.utc, some "America/Chicago"⟩ "2024-03-11T09:30" "2024-03-09T12:00" = .ok text ∧
        parse text = .ok tokens ∧ evaluate anchor tokens = .ok reached ∧
        target.format = .ok written ∧ reached.format = .ok written := by
  have hanchor : (Zone.named "America/Chicago" Zone.Table.chicago).read "2024-03-09T12:00" =
      .ok ⟨⟨1710007200000000000, false⟩, .named "America/Chicago" Zone.Table.chicago,
        by decide⟩ := by decide +kernel
  have htarget : (Zone.named "America/Chicago" Zone.Table.chicago).read "2024-03-11T09:30" =
      .ok ⟨⟨1710167400000000000, false⟩, .named "America/Chicago" Zone.Table.chicago,
        by decide⟩ := by decide +kernel
  obtain ⟨raw, stop, d, text, tokens, reached, written, hraw, hd, htext, hparse, he, hwritten,
      hsame, hiff⟩ :=
    unsnap_returns_iff_date_agrees (s := ⟨.utc, some "America/Chicago"⟩) (by decide +kernel)
      (by decide +kernel) hanchor htarget rfl rfl (by decide) (by decide)
  have hday : Except.map Prod.fst ((⟨⟨1710007200000000000, false⟩,
      .named "America/Chicago" Zone.Table.chicago, by decide⟩ : Instant).itinerary
      ⟨⟨1710167400000000000, false⟩, .named "America/Chicago" Zone.Table.chicago, by decide⟩) =
      .ok ⟨0, 0, 0, 1, 0, 0, 0, 0⟩ := by decide +kernel
  rw [hraw] at hday
  obtain rfl := Except.ok.inj hday
  have hstop := hsame (by decide)
  exact ⟨_, _, _, by decide +kernel, hanchor, htarget, _, stop, d, text, tokens, reached, written,
    hraw, by decide, hd, hstop, htext, hparse, he, hwritten, hiff.mpr (.inl hstop)⟩

/-- A year back, the clock skips the half hour that the anchor shows; twelve months more lead to
an hour later than two years at once do. -/
theorem unsnap_misses_across_gap :
    unsnap ⟨.utc, some "America/Chicago"⟩ "2022-03-12T03:00:00-06:00" "2024-03-12T02:30:00-05:00" =
      .ok "-2y-30m" ∧
    snap ⟨.utc, some "America/Chicago"⟩ "2024-03-12T02:30:00-05:00" "-2y-30m" =
      .ok "2022-03-12T02:00:00.000-06:00" ∧
    (Setting.read ⟨.utc, some "America/Chicago"⟩ "2022-03-12T03:00:00-06:00" >>= Instant.format) =
      .ok "2022-03-12T03:00:00.000-06:00" := by
  decide +kernel

end RelativeTime
