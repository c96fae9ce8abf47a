import RelativeTime.Proofs.Evaluation
import RelativeTime.Proofs.Timestamp.Extent
import RelativeTime.Proofs.Zone.Asked

/-! Inserted seconds close a minute. They are read so, and where the clock is never changed and
stands a whole number of minutes from UTC, no instruction moves them anywhere else. -/
namespace RelativeTime

namespace Reading

/-- An inserted second is kept with the last second of a minute. -/
def ClosesMinute (r : Reading) : Prop := r.leap = true → r.seconds % 60 = 59

variable {r : Reading}

theorem closesMinute_ahead_iff {s : Int} (hs : s % 60 = 0) :
    (r.ahead s).ClosesMinute ↔ r.ClosesMinute := by
  have hseconds : (r.ahead s).seconds % 60 = r.seconds % 60 := by
    simp only [seconds, ahead]
    omega
  unfold ClosesMinute
  rw [hseconds]
  rfl

theorem ClosesMinute.onDay (h : r.ClosesMinute) (day : Int) : (r.onDay day).ClosesMinute := by
  intro hleap
  have hlast := h hleap
  simp only [seconds, Reading.onDay, timeOfDay] at hlast ⊢
  omega

theorem closesMinute_midnight (day : Int) : (midnight day).ClosesMinute := by
  intro hleap
  cases hleap

theorem ClosesMinute.after (h : r.ClosesMinute) (nanos : Int) : (r.after nanos).ClosesMinute := by
  unfold Reading.after
  split
  · rename_i hleap
    have hlast := h hleap
    simp only
    split
    · intro hleap'
      cases hleap'
    · intro hwithin
      have hwithin' : r.nanos % 1000000000 + nanos < 1000000000 := of_decide_eq_true hwithin
      simp only [seconds] at hlast ⊢
      omega
  · intro hleap'
    cases hleap'

theorem ofFace?_closesMinute {date : Date} {hour minute second fraction : Nat}
    (h : ofFace? date hour minute second fraction = some r) (hf : fraction < 1000000000) :
    r.ClosesMinute := by
  unfold ofFace? at h
  split at h
  · obtain rfl := Option.some.inj h
    intro hleap
    have hsecond : second = 60 := of_decide_eq_true hleap
    simp only [seconds, hsecond]
    omega
  · cases h

end Reading

namespace FixedOffset

theorem scanSuffix_whole_minutes {cs rest : List Char} {offset : FixedOffset}
    (h : scanSuffix cs = some (offset, rest)) : offset.seconds % 60 = 0 := by
  cases cs with
  | nil => cases h
  | cons c cs =>
    simp only [scanSuffix] at h
    split at h
    · obtain ⟨rfl, -⟩ := Prod.mk.inj (Option.some.inj h)
      rfl
    split at h
    · exact scan_whole_minutes h
    split at h
    · exact scan_whole_minutes h
    · cases h

end FixedOffset

namespace Timestamp

variable {cs : List Char}

theorem readAbsolute?_closesMinute {utc : Reading} (h : readAbsolute? cs = some utc) :
    utc.ClosesMinute := by
  have h := whole_eq_some h
  -- One step for each piece of the layout; only the fraction and the offset matter.
  obtain ⟨_, -, h⟩ := Option.bind_eq_some_iff.mp h
  obtain ⟨_, -, h⟩ := Option.bind_eq_some_iff.mp h
  obtain ⟨_, -, h⟩ := Option.bind_eq_some_iff.mp h
  obtain ⟨_, -, h⟩ := Option.bind_eq_some_iff.mp h
  obtain ⟨_, -, h⟩ := Option.bind_eq_some_iff.mp h
  obtain ⟨_, -, h⟩ := Option.bind_eq_some_iff.mp h
  obtain ⟨_, -, h⟩ := Option.bind_eq_some_iff.mp h
  obtain ⟨_, -, h⟩ := Option.bind_eq_some_iff.mp h
  obtain ⟨_, -, h⟩ := Option.bind_eq_some_iff.mp h
  obtain ⟨_, -, h⟩ := Option.bind_eq_some_iff.mp h
  obtain ⟨_, -, h⟩ := Option.bind_eq_some_iff.mp h
  obtain ⟨⟨fraction, _⟩, hf, h⟩ := Option.bind_eq_some_iff.mp h
  obtain ⟨⟨offset, _⟩, ho, h⟩ := Option.bind_eq_some_iff.mp h
  obtain ⟨face, hface, h⟩ := Option.bind_eq_some_iff.mp h
  obtain ⟨rfl, -⟩ := Prod.mk.inj (Option.some.inj h)
  have hminutes := FixedOffset.scanSuffix_whole_minutes ho
  exact (Reading.closesMinute_ahead_iff (by omega)).mpr
    (Reading.ofFace?_closesMinute hface (Scan.fraction_lt hf))

theorem readLocal?_closesMinute {wall : Reading} (h : readLocal? cs = some wall) :
    wall.ClosesMinute := by
  obtain ⟨_, -, h⟩ := Option.bind_eq_some_iff.mp h
  obtain ⟨date, -, h⟩ := Option.bind_eq_some_iff.mp h
  split at h
  · exact Reading.ofFace?_closesMinute h (by decide)
  · obtain ⟨time, htime, hface⟩ := Option.bind_eq_some_iff.mp h
    exact Reading.ofFace?_closesMinute hface (readTime?_fraction htime)

end Timestamp

structure Zone.Steady (zone : Zone) (offset : Int) : Prop where
  rules_eq : zone.rules = .constant offset
  bounds : -86400 < offset ∧ offset < 86400
  minutes : offset % 60 = 0

theorem Zone.Known.steady [Zone.Names] [Zone.Names.Lawful] {zone : Zone} {offset : Int}
    (h : zone.Known) (hz : zone.rules = .constant offset) : zone.Steady offset :=
  ⟨hz, (h.constant hz).2, (h.constant hz).1⟩

structure Instant.Regular (i : Instant) (zone : Zone) : Prop where
  zone_eq : i.zone = zone
  closesMinute : i.face.ClosesMinute

namespace Zone.Steady

variable {zone : Zone} {offset : Int} {i j : Instant}

theorem face_closesMinute_iff (h : zone.Steady offset) (hi : i.zone = zone) :
    i.face.ClosesMinute ↔ i.utc.ClosesMinute := by
  rw [Instant.face_constant h.rules_eq hi]
  exact Reading.closesMinute_ahead_iff h.minutes

theorem read_regular (h : zone.Steady offset) {text : String} (hr : zone.read text = .ok i) :
    i.Regular zone := by
  unfold Zone.read at hr
  simp only at hr
  split at hr
  · rename_i utc hutc
    split at hr
    · rename_i k hk
      obtain rfl := Except.ok.inj hr
      obtain ⟨hzone, rfl⟩ := Instant.ofUtc?_eq_some hk
      exact ⟨hzone, (h.face_closesMinute_iff hzone).mpr (Timestamp.readAbsolute?_closesMinute hutc)⟩
    · cases hr
  · split at hr
    · rename_i wall hwall
      obtain ⟨hzone, hface⟩ := (resolve_constant_iff h.rules_eq h.bounds).mp hr
      exact ⟨hzone, hface ▸ Timestamp.readLocal?_closesMinute hwall⟩
    · cases hr

theorem move_regular (h : zone.Steady offset) (hm : Instant.Move i j) (hi : i.Regular zone) :
    j.Regular zone := by
  obtain ⟨hzone, hclose⟩ := hi
  cases hm with
  | elapse nanos hafter =>
    obtain ⟨hzone', hutc⟩ := Instant.ofUtc?_eq_some hafter
    have hj : j.zone = zone := hzone'.trans hzone
    refine ⟨hj, (h.face_closesMinute_iff hj).mpr ?_⟩
    rw [hutc]
    exact ((h.face_closesMinute_iff hzone).mp hclose).after nanos
  | date day _ hresolve =>
    rw [hzone] at hresolve
    obtain ⟨hj, hface⟩ := (resolve_constant_iff h.rules_eq h.bounds).mp hresolve
    exact ⟨hj, hface ▸ hclose.onDay day⟩
  | midnight day _ hresolve =>
    rw [hzone] at hresolve
    obtain ⟨hj, hface⟩ := (resolve_constant_iff h.rules_eq h.bounds).mp hresolve
    exact ⟨hj, hface ▸ Reading.closesMinute_midnight day⟩

theorem moves_regular (h : zone.Steady offset) (hm : Relation.ReflTransGen Instant.Move i j)
    (hi : i.Regular zone) : j.Regular zone :=
  Instant.moves_invariant (fun _ _ hmove => h.move_regular hmove) hm hi

theorem evaluate_regular (h : zone.Steady offset) {ts : List Token} (he : evaluate i ts = .ok j)
    (hi : i.Regular zone) : j.Regular zone :=
  h.moves_regular (Instant.moves_of_evaluate he) hi

theorem apply_regular (h : zone.Steady offset) {t : Token} (ht : t.apply i = .ok j)
    (hi : i.Regular zone) : j.Regular zone :=
  h.evaluate_regular ((i.evaluate_singleton t).trans ht) hi

end Zone.Steady

end RelativeTime
