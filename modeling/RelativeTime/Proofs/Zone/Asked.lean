import Mathlib.Data.List.Chain
import Mathlib.Data.Option.Basic
import RelativeTime.Proofs.Evaluation
import RelativeTime.Proofs.Zone.Constant
import RelativeTime.Zone.Catalogue

/-! The zones that texts can ask for. Offsets are asked for in hours and minutes, and of the named
zones a few facts are assumed that hold of all those in the time zone database. -/
namespace RelativeTime

open Calendar

namespace Rules

/-- Less than a day from UTC, and not changed in the first days of the calendar nor in the last. -/
structure Settled (z : Rules) : Prop where
  bounded : z.Bounded
  calm : ∀ c ∈ z.changes, 86400 * (firstDay + 4) ≤ c.since ∧ c.since ≤ 86400 * (lastDay - 4)

theorem settled_iff {z : Rules} : z.Settled ↔ z.Bounded ∧ ∀ c ∈ z.changes,
    86400 * (firstDay + 4) ≤ c.since ∧ c.since ≤ 86400 * (lastDay - 4) :=
  ⟨fun h => ⟨h.bounded, h.calm⟩, fun h => ⟨h.1, h.2⟩⟩

instance (z : Rules) : Decidable z.Settled := decidable_of_iff' _ settled_iff

/-- Two days at least lie between one change and the next. -/
def Spaced (z : Rules) : Prop := z.changes.IsChain fun c d => c.since + 172800 ≤ d.since

instance (z : Rules) : Decidable z.Spaced := inferInstanceAs (Decidable (List.IsChain _ _))

theorem settled_constant {offset : Int} (h : -86400 < offset ∧ offset < 86400) :
    (constant offset).Settled := ⟨bounded_constant h, nofun⟩

end Rules

theorem FixedOffset.scan_whole_minutes {sign : Sign}
    {separator : List Char → Option (List Char)} {cs rest : List Char} {offset : FixedOffset}
    (h : FixedOffset.scan sign separator cs = some (offset, rest)) : offset.seconds % 60 = 0 := by
  obtain ⟨⟨hours, _⟩, -, h⟩ := Option.bind_eq_some_iff.mp h
  obtain ⟨_, -, h⟩ := Option.bind_eq_some_iff.mp h
  obtain ⟨⟨minutes, _⟩, -, h⟩ := Option.bind_eq_some_iff.mp h
  obtain ⟨_, -, h⟩ := Option.bind_eq_some_iff.mp h
  obtain ⟨offset', hoffset, h⟩ := Option.bind_eq_some_iff.mp h
  obtain ⟨rfl, -⟩ := Prod.mk.inj (Option.some.inj h)
  unfold FixedOffset.ofSeconds? at hoffset
  split at hoffset
  · obtain rfl := Option.some.inj hoffset
    cases sign <;> simp only [Sign.apply] <;> omega
  · cases hoffset

theorem FixedOffset.ofChars?_whole_minutes {cs : List Char} {offset : FixedOffset}
    (h : FixedOffset.ofChars? cs = some offset) : offset.seconds % 60 = 0 := by
  cases cs with
  | nil => cases h
  | cons c cs =>
    simp only [FixedOffset.ofChars?] at h
    split at h
    · obtain ⟨_, hscan, rfl⟩ := Option.map_eq_some_iff.mp h
      exact FixedOffset.scan_whole_minutes hscan
    · split at h
      · obtain ⟨_, hscan, rfl⟩ := Option.map_eq_some_iff.mp h
        exact FixedOffset.scan_whole_minutes hscan
      · cases h

namespace Zone

/-- What holds of every zone in the time zone database. -/
class Names.Lawful [Names] : Prop where
  settled {name : String} {rules : Rules} : Names.rules? name = some rules → rules.Settled
  spaced {name : String} {rules : Rules} : Names.rules? name = some rules → rules.Spaced
  /-- A clock that is never changed is whole minutes from UTC. -/
  wholeMinutes {name : String} {rules : Rules} : Names.rules? name = some rules →
    rules.changes = [] → rules.initial % 60 = 0
  /-- No name is taken for an offset. -/
  apart {name : String} {rules : Rules} : Names.rules? name = some rules →
    name ≠ "Z" ∧ name.toList.head? ≠ some '+' ∧ name.toList.head? ≠ some '-'

theorem lawful_of_mem_catalogue : ∀ entry ∈ catalogue, entry.2.Settled ∧ entry.2.Spaced ∧
    (entry.2.changes = [] → entry.2.initial % 60 = 0) ∧
    entry.1 ≠ "Z" ∧ entry.1.toList.head? ≠ some '+' ∧ entry.1.toList.head? ≠ some '-' := by
  decide +kernel

theorem lawful_of_lookup {name : String} {rules : Rules} (h : Names.rules? name = some rules) :
    rules.Settled ∧ rules.Spaced ∧ (rules.changes = [] → rules.initial % 60 = 0) ∧
      name ≠ "Z" ∧ name.toList.head? ≠ some '+' ∧ name.toList.head? ≠ some '-' := by
  obtain ⟨before, after, hmem, -⟩ := List.lookup_eq_some_iff.mp h
  exact lawful_of_mem_catalogue (name, rules) (hmem ▸ List.mem_append_cons_self)

instance : Names.Lawful where
  settled h := (lawful_of_lookup h).1
  spaced h := (lawful_of_lookup h).2.1
  wholeMinutes h := (lawful_of_lookup h).2.2.1
  apart h := (lawful_of_lookup h).2.2.2

section Known

variable [Names]

inductive Known : Zone → Prop where
  | fixed {offset : FixedOffset} (h : offset.seconds % 60 = 0) : Known (.fixed offset)
  | named {name : String} {rules : Rules} (h : Names.rules? name = some rules) :
      Known (.named name rules)
  | utc : Known utc

variable {zone : Zone}

theorem known_of_ofName? {name : String} (h : ofName? name = some zone) : zone.Known := by
  obtain ⟨rules, hrules, rfl⟩ := Option.map_eq_some_iff.mp h
  exact .named hrules

theorem known_of_ofText {text : String} (h : ofText text = .ok zone) : zone.Known := by
  unfold ofText at h
  simp only at h
  split at h
  · rename_i zone' hzone
    obtain rfl := Except.ok.inj h
    split at hzone
    · obtain ⟨offset, hoffset, rfl⟩ := Option.map_eq_some_iff.mp hzone
      exact .fixed (FixedOffset.ofChars?_whole_minutes hoffset)
    · obtain ⟨offset, hoffset, rfl⟩ := Option.map_eq_some_iff.mp hzone
      exact .fixed (FixedOffset.ofChars?_whole_minutes hoffset)
    · obtain rfl := Option.some.inj hzone
      exact .fixed rfl
    · exact known_of_ofName? hzone
  · cases h

theorem kind_of_ofText {text : String} {e : Error} (h : ofText text = .error e) :
    e.kind = .zone := by
  unfold ofText at h
  simp only at h
  split at h
  · cases h
  · obtain rfl := Except.error.inj h
    rfl

theorem known_ofSetting (setting : String) (system : Option String) :
    (ofSetting setting system).Known := by
  unfold ofSetting
  simp only
  split
  · rename_i zone hzone
    exact known_of_ofText hzone
  · cases hsystem : system.bind ofName? with
    | none => exact .utc
    | some zone =>
      obtain ⟨name, -, hname⟩ := Option.bind_eq_some_iff.mp hsystem
      exact known_of_ofName? hname

variable [Names.Lawful]

theorem Known.settled (h : zone.Known) : zone.rules.Settled := by
  cases h with
  | @fixed offset => exact Rules.settled_constant ⟨offset.above, offset.below⟩
  | named h => exact Names.Lawful.settled h
  | utc => exact Rules.settled_constant (by decide)

theorem Known.spaced (h : zone.Known) : zone.rules.Spaced := by
  cases h with
  | fixed => exact List.isChain_nil
  | named h => exact Names.Lawful.spaced h
  | utc => exact List.isChain_nil

theorem Known.bounded (h : zone.Known) : zone.rules.Bounded := h.settled.bounded

theorem Known.constant {offset : Int} (h : zone.Known) (hz : zone.rules = .constant offset) :
    offset % 60 = 0 ∧ -86400 < offset ∧ offset < 86400 := by
  have hbounds : -86400 < offset ∧ offset < 86400 := by
    have hbounded := h.bounded
    rw [hz] at hbounded
    exact hbounded offset List.mem_cons_self
  refine ⟨?_, hbounds⟩
  have hinitial : zone.rules.initial = offset := congrArg Rules.initial hz
  rw [← hinitial]
  cases h with
  | fixed hminutes => exact hminutes
  | named h => exact Names.Lawful.wholeMinutes h (congrArg Rules.changes hz)
  | utc => rfl

end Known

end Zone

namespace Setting

variable [Zone.Names] {s : Setting} {zone : Zone}

theorem known {host : String} {system : Option String} (hh : s.host = .ofSetting host system)
    (h : s.zone = .ok zone) : zone.Known := by
  unfold Setting.zone at h
  cases hasked : s.asked with
  | none =>
    simp only [hasked] at h
    obtain rfl := Except.ok.inj h
    exact hh ▸ Zone.known_ofSetting host system
  | some text =>
    simp only [hasked] at h
    exact Zone.known_of_ofText (Answer.ofExcept_eq_ok.mp h)

theorem bounded [Zone.Names.Lawful] (hh : s.asked = none → s.host.rules.Bounded)
    (h : s.zone = .ok zone) : zone.rules.Bounded := by
  unfold Setting.zone at h
  cases hasked : s.asked with
  | none =>
    simp only [hasked] at h
    obtain rfl := Except.ok.inj h
    exact hh hasked
  | some text =>
    simp only [hasked] at h
    exact (Zone.known_of_ofText (Answer.ofExcept_eq_ok.mp h)).bounded

theorem kind_of_zone {f : Failure} (h : s.zone = .error f) :
    ∃ e, f = .reported e ∧ e.kind = .zone := by
  unfold Setting.zone at h
  cases hasked : s.asked with
  | none =>
    simp only [hasked] at h
    cases h
  | some text =>
    simp only [hasked] at h
    obtain ⟨e, he, rfl⟩ := Answer.ofExcept_eq_error.mp h
    exact ⟨e, rfl, Zone.kind_of_ofText he⟩

end Setting

end RelativeTime
