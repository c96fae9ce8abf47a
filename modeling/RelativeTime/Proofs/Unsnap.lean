import RelativeTime.Operations
import RelativeTime.Proofs.Timestamp.Extent
import RelativeTime.Proofs.Totality
import RelativeTime.Proofs.Zone.Asked

/-! What can keep an instruction from being found: only a text that cannot be read. -/
namespace RelativeTime

section

variable [Zone.Names] [Zone.Names.Lawful] {s : Setting}

theorem Setting.kind_of_read (hh : s.asked = none → s.host.rules.Bounded) {text : String}
    {f : Failure} (h : s.read text = .error f) :
    ∃ e, f = .reported e ∧ (e.kind = .zone ∨ e.kind = .parse) := by
  rcases Answer.bind_eq_error.mp h with h | ⟨zone, hzone, h⟩
  · obtain ⟨e, rfl, he⟩ := kind_of_zone h
    exact ⟨e, rfl, .inl he⟩
  · exact ⟨_, Zone.read_eq_error (Setting.bounded hh hzone) h, .inr rfl⟩

theorem unsnap_of_read (hh : s.asked = none → s.host.rules.Bounded) {targetText anchorText : String}
    {target anchor : Instant} (ht : s.read targetText = .ok target)
    (ha : s.read anchorText = .ok anchor) : ∃ text, unsnap s targetText anchorText = .ok text := by
  obtain ⟨zone, hzone, ht'⟩ := Answer.bind_eq_ok.mp ht
  rw [Setting.read_eq hzone] at ha
  have hb := Setting.bounded hh hzone
  obtain ⟨-, tokens, -, -, -, htext, -⟩ :=
    (Zone.read_within hb ha).exists_instruction hb (by omega) (Zone.read_within hb ht')
  refine ⟨render tokens, ?_⟩
  rw [unsnap, ht, Answer.bind_ok, Setting.read_eq hzone, ha, Answer.bind_ok, htext]

/-- An instruction is found if and only if both timestamps can be read. If one cannot, it is
reported as what cannot be read, and nothing else is ever reported: neither a unit nor a step that
leads nowhere. -/
theorem unsnap_ok_iff_read (hh : s.asked = none → s.host.rules.Bounded)
    (target anchor : String) :
    ((∃ text, unsnap s target anchor = .ok text) ↔
      (∃ i, s.read target = .ok i) ∧ ∃ i, s.read anchor = .ok i) ∧
    ∀ f, unsnap s target anchor = .error f →
      (s.read target = .error f ∨ s.read anchor = .error f) ∧
        ∃ e, f = .reported e ∧ (e.kind = .zone ∨ e.kind = .parse) := by
  constructor
  · constructor
    · rintro ⟨text, h⟩
      obtain ⟨i, hi, h⟩ := Answer.bind_eq_ok.mp h
      obtain ⟨j, hj, -⟩ := Answer.bind_eq_ok.mp h
      exact ⟨⟨i, hi⟩, j, hj⟩
    · rintro ⟨⟨i, hi⟩, j, hj⟩
      exact unsnap_of_read hh hi hj
  · intro f h
    have hread : s.read target = .error f ∨ s.read anchor = .error f := by
      rcases Answer.bind_eq_error.mp h with ht | ⟨i, hi, h'⟩
      · exact .inl ht
      rcases Answer.bind_eq_error.mp h' with ha | ⟨j, hj, -⟩
      · exact .inr ha
      obtain ⟨text, htext⟩ := unsnap_of_read hh hi hj
      rw [htext] at h
      cases h
    refine ⟨hread, ?_⟩
    rcases hread with hread | hread
    · exact Setting.kind_of_read hh hread
    · exact Setting.kind_of_read hh hread

end

/-- From long before the first year to an inserted second, on a clock that is changed; and to a date
that there never was. -/
theorem unsnap_ok_to_inserted_second :
    (∃ text, unsnap ⟨.named "America/Chicago" Zone.Table.chicago, none⟩
      "2016-12-31T23:59:60.9999" "-99999-2-8T02:30:60" = .ok text) ∧
    ∃ e, unsnap ⟨.named "America/Chicago" Zone.Table.chicago, none⟩
        "2015-02-29" "-99999-2-8T02:30:60" = .error (.reported e) ∧
      (e.kind = .zone ∨ e.kind = .parse) := by
  have hbounded : Zone.Table.chicago.Bounded := by decide +kernel
  have h := unsnap_ok_iff_read (s := ⟨.named "America/Chicago" Zone.Table.chicago, none⟩)
    fun _ => hbounded
  have htarget : Setting.read ⟨.named "America/Chicago" Zone.Table.chicago, none⟩
      "2016-12-31T23:59:60.9999" = .ok ⟨⟨1483250399999900000, true⟩,
        .named "America/Chicago" Zone.Table.chicago, by decide⟩ := by decide +kernel
  have hanchor : Setting.read ⟨.named "America/Chicago" Zone.Table.chicago, none⟩
      "-99999-2-8T02:30:60" = .ok ⟨⟨-3217827483505000000000, true⟩,
        .named "America/Chicago" Zone.Table.chicago, by decide⟩ := by decide +kernel
  have hnever : Setting.read ⟨.named "America/Chicago" Zone.Table.chicago, none⟩
      "2015-02-29" = .error (.reported (.unreadableTimestamp "2015-02-29")) := by decide +kernel
  refine ⟨(h _ _).1.mpr ⟨⟨_, htarget⟩, _, hanchor⟩, ?_⟩
  obtain ⟨hok, herror⟩ := h "2015-02-29" "-99999-2-8T02:30:60"
  cases hunsnap : unsnap ⟨.named "America/Chicago" Zone.Table.chicago, none⟩
      "2015-02-29" "-99999-2-8T02:30:60" with
  | ok text =>
    obtain ⟨⟨i, hi⟩, -⟩ := hok.mp ⟨text, hunsnap⟩
    cases hnever.symm.trans hi
  | error f =>
    obtain ⟨-, e, rfl, hkind⟩ := herror f hunsnap
    exact ⟨e, rfl, hkind⟩

end RelativeTime
