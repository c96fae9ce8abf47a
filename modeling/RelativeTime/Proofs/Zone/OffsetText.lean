import RelativeTime.Proofs.Timestamp.Reread
import RelativeTime.Proofs.Timestamp.Strictness

/-! Which texts name a zone of one offset. One that is written strictly is `Z`, or a sign, two
digits of hours, a colon or none and two digits of minutes. The reader takes more: any colons and
blanks between the hours and the minutes, and anything at all behind them. -/
namespace RelativeTime

open Timestamp (Field)
open Instruction (Stops takeWhile_of_stops dropWhile_of_stops run_append_inj stops_dropWhile)

theorem Timestamp.Field.append_inj_of_full {most : Nat} {f g : Field most} {rest rest' : List Char}
    (hf : f.Full) (hg : g.Full) (h : f.chars ++ rest = g.chars ++ rest') :
    f = g ∧ rest = rest' := by
  obtain ⟨blanks, number, blank, short⟩ := f
  obtain ⟨blanks', number', blank', short'⟩ := g
  obtain ⟨rfl, hlen⟩ : blanks = [] ∧ number.digits.length = most := hf
  obtain ⟨rfl, hlen'⟩ : blanks' = [] ∧ number'.digits.length = most := hg
  obtain ⟨hdigits, hrest⟩ := List.append_inj h (hlen.trans hlen'.symm)
  obtain rfl := Instruction.Numeral.eq_of_digits hdigits
  exact ⟨rfl, hrest⟩

theorem Sign.symbol_injective : Function.Injective Sign.symbol := by
  intro s s' h
  cases s <;> cases s' <;> first | rfl | cases h

theorem Sign.symbol_ne_z (s : Sign) : s.symbol ≠ 'Z' := by
  cases s <;> decide

namespace FixedOffset

theorem ofSeconds?_eq_some {seconds : Int} {offset : FixedOffset}
    (h : ofSeconds? seconds = some offset) : offset.seconds = seconds := by
  unfold ofSeconds? at h
  split at h
  · obtain rfl := Option.some.inj h
    rfl
  · cases h

def parts (c : Char) : Bool := c == ':' || isBlank c

end FixedOffset

/-- What the reader takes for an offset, in its pieces. -/
structure OffsetText where
  sign : Sign
  hours : Field 2
  separator : List Char
  minutes : Field 2
  tail : List Char
  full : hours.Full ∧ minutes.Full
  parted : ∀ c ∈ separator, FixedOffset.parts c = true

namespace OffsetText

variable {o o' : OffsetText} {cs : List Char} {offset : FixedOffset} {sign : Sign}

def chars (o : OffsetText) : List Char :=
  o.sign.symbol :: (o.hours.chars ++ (o.separator ++ (o.minutes.chars ++ o.tail)))

def seconds (o : OffsetText) : Int := o.sign.apply (3600 * o.hours.value + 60 * o.minutes.value)

def Valid (o : OffsetText) : Prop := o.hours.value ≤ 23 ∧ o.minutes.value ≤ 59

/-- At most one colon between the hours and the minutes, and nothing behind them. -/
def Strict (o : OffsetText) : Prop := (o.separator = [] ∨ o.separator = [':']) ∧ o.tail = []

theorem parts_of_isDigit {c : Char} (h : c.isDigit = true) : FixedOffset.parts c = false := by
  have hcolon : c ≠ ':' := by
    rintro rfl
    cases h
  rw [FixedOffset.parts, isBlank_of_isDigit h, Bool.or_false, beq_eq_false_iff_ne]
  exact hcolon

theorem stops_minutes (o : OffsetText) : Stops FixedOffset.parts (o.minutes.chars ++ o.tail) := by
  rw [Field.chars, o.full.2.1, List.nil_append]
  exact Instruction.stops_of_all _ o.minutes.number.nonempty o.minutes.number.decimal
    fun _ => parts_of_isDigit

theorem chars_ne_z (o : OffsetText) : o.chars ≠ ['Z'] := by
  intro h
  exact o.sign.symbol_ne_z (List.cons.inj h).1

theorem eq_of_chars (h : o.chars = o'.chars) : o = o' := by
  obtain ⟨hsign, h⟩ := List.cons.inj h
  obtain ⟨hhours, h⟩ := Field.append_inj_of_full o.full.1 o'.full.1 h
  obtain ⟨hseparator, h⟩ := run_append_inj h o.parted o'.parted o.stops_minutes o'.stops_minutes
  obtain ⟨hminutes, htail⟩ := Field.append_inj_of_full o.full.2 o'.full.2 h
  have hsign := Sign.symbol_injective hsign
  cases o
  cases o'
  simp only [mk.injEq]
  exact ⟨hsign, hhours, hseparator, hminutes, htail⟩

theorem scan_iff : (∃ tail, FixedOffset.scan sign (fun cs => some (cs.dropWhile FixedOffset.parts))
      cs = some (offset, tail)) ↔
    ∃ o : OffsetText, o.chars = sign.symbol :: cs ∧ o.Valid ∧ o.sign = sign ∧
      offset.seconds = o.seconds := by
  constructor
  · rintro ⟨tail, h⟩
    obtain ⟨⟨_, behindHours⟩, hh, h⟩ := Option.bind_eq_some_iff.mp h
    obtain ⟨_, hc, h⟩ := Option.bind_eq_some_iff.mp h
    obtain ⟨⟨_, behind⟩, hm, h⟩ := Option.bind_eq_some_iff.mp h
    obtain ⟨_, hguard, h⟩ := Option.bind_eq_some_iff.mp h
    obtain ⟨_, hoffset, h⟩ := Option.bind_eq_some_iff.mp h
    obtain ⟨rfl, rfl⟩ := Prod.mk.inj (Option.some.inj h)
    obtain ⟨hours, fullh, rfl, rfl⟩ := Field.full_of_scan (by decide) hh
    obtain rfl := Option.some.inj hc
    obtain ⟨minutes, fullm, rfl, hrest⟩ := Field.full_of_scan (by decide) hm
    have hle := (Option.guard_eq_some' _).mp hguard
    have hhours := (Timestamp.OffsetLayout.exists_ofSeconds?_iff sign hle).mp ⟨_, hoffset⟩
    refine ⟨⟨sign, hours, behindHours.takeWhile FixedOffset.parts, minutes, behind, ⟨fullh, fullm⟩,
      fun c hc => List.mem_takeWhile_imp hc⟩, ?_, ⟨hhours, hle⟩, rfl,
      FixedOffset.ofSeconds?_eq_some hoffset⟩
    rw [chars, ← hrest, List.takeWhile_append_dropWhile]
  · rintro ⟨o, hchars, ⟨-, hle⟩, rfl, hseconds⟩
    obtain ⟨-, rfl⟩ := List.cons.inj hchars
    have hoffset : FixedOffset.ofSeconds? o.seconds = some offset := by
      rw [← hseconds, FixedOffset.ofSeconds?_seconds]
    refine ⟨o.tail, ?_⟩
    refine Option.bind_eq_some_iff.mpr ⟨_, Field.scan_full o.full.1 _, ?_⟩
    refine Option.bind_eq_some_iff.mpr
      ⟨_, congrArg some (dropWhile_of_stops o.parted o.stops_minutes), ?_⟩
    refine Option.bind_eq_some_iff.mpr ⟨_, Field.scan_full o.full.2 _, ?_⟩
    refine Option.bind_eq_some_iff.mpr ⟨(), if_pos hle, ?_⟩
    exact Option.bind_eq_some_iff.mpr ⟨_, hoffset, rfl⟩

theorem ofChars?_cons (sign : Sign) (cs : List Char) : FixedOffset.ofChars? (sign.symbol :: cs) =
    (FixedOffset.scan sign (fun cs => some (cs.dropWhile FixedOffset.parts)) cs).map Prod.fst := by
  cases sign <;> rfl

theorem exists_sign {c : Char} (h : FixedOffset.ofChars? (c :: cs) = some offset) :
    ∃ sign : Sign, c = sign.symbol := by
  simp only [FixedOffset.ofChars?, beq_iff_eq] at h
  split at h
  · exact ⟨.plus, ‹_›⟩
  · split at h
    · exact ⟨.minus, ‹_›⟩
    · cases h

theorem ofChars?_eq_some_iff : FixedOffset.ofChars? cs = some offset ↔
    ∃ o : OffsetText, o.chars = cs ∧ o.Valid ∧ offset.seconds = o.seconds := by
  constructor
  · intro h
    cases cs with
    | nil => cases h
    | cons c cs =>
      obtain ⟨sign, rfl⟩ := exists_sign h
      rw [ofChars?_cons] at h
      obtain ⟨⟨_, tail⟩, hscan, rfl⟩ := Option.map_eq_some_iff.mp h
      obtain ⟨o, ho, hvalid, -, hseconds⟩ := scan_iff.mp ⟨tail, hscan⟩
      exact ⟨o, ho, hvalid, hseconds⟩
  · rintro ⟨o, rfl, hvalid, hseconds⟩
    obtain ⟨tail, hscan⟩ := scan_iff.mpr ⟨o, rfl, hvalid, rfl, hseconds⟩
    rw [chars, ofChars?_cons]
    exact Option.map_eq_some_iff.mpr ⟨_, hscan, rfl⟩

end OffsetText

/-! ### Texts -/

namespace FixedOffset

variable {cs : List Char} {offset : FixedOffset}

/-- The characters are `Z`, for UTC, or the signed hours and minutes of the offset with at most a
colon between them and nothing behind. -/
def Strict (offset : FixedOffset) (cs : List Char) : Prop :=
  (cs = ['Z'] ∧ offset = utc) ∨
    ∃ o : OffsetText, o.chars = cs ∧ o.Strict ∧ o.Valid ∧ offset.seconds = o.seconds

def Loose (offset : FixedOffset) (cs : List Char) : Prop :=
  ∃ o : OffsetText, o.chars = cs ∧ ¬ o.Strict ∧ o.Valid ∧ offset.seconds = o.seconds

theorem Loose.not_strict {offset' : FixedOffset} (h : offset.Loose cs) : ¬ offset'.Strict cs := by
  obtain ⟨o, rfl, hloose, -⟩ := h
  rintro (⟨hz, -⟩ | ⟨o', ho', hstrict, -⟩)
  · exact o.chars_ne_z hz
  · obtain rfl := OffsetText.eq_of_chars ho'
    exact hloose hstrict

theorem ofChars?_eq_some_iff : ofChars? cs = some offset ↔
    (cs ≠ ['Z'] ∧ offset.Strict cs) ∨ offset.Loose cs := by
  rw [OffsetText.ofChars?_eq_some_iff]
  constructor
  · rintro ⟨o, rfl, hvalid, hseconds⟩
    by_cases hstrict : o.Strict
    · exact .inl ⟨o.chars_ne_z, .inr ⟨o, rfl, hstrict, hvalid, hseconds⟩⟩
    · exact .inr ⟨o, rfl, hstrict, hvalid, hseconds⟩
  · rintro (⟨hz, ⟨hz', -⟩ | ⟨o, ho, -, hvalid, hseconds⟩⟩ | ⟨o, ho, -, hvalid, hseconds⟩)
    · exact absurd hz' hz
    · exact ⟨o, ho, hvalid, hseconds⟩
    · exact ⟨o, ho, hvalid, hseconds⟩

end FixedOffset

namespace Zone

def AsksOffset (cs : List Char) : Prop :=
  cs = ['Z'] ∨ cs.head? = some '+' ∨ cs.head? = some '-'

section

variable [Names] {cs : List Char} {text : String} {zone : Zone} {rules : Rules}

theorem ofText_of_not_asksOffset (hname : ¬ AsksOffset (trimBlanks text.toList))
    (h : Names.rules? (String.ofList (trimBlanks text.toList)) = some rules) :
    ofText text = .ok (.named (String.ofList (trimBlanks text.toList)) rules) := by
  unfold ofText
  simp only [ofName?, h, Option.map_some]
  clear h
  generalize trimBlanks text.toList = cs at *
  match cs, hname with
  | [], _ => rfl
  | [c], hname =>
    have hz : c ≠ 'Z' := fun hc => hname (.inl (congrArg List.singleton hc))
    have hplus : c ≠ '+' := fun hc => hname (.inr (.inl (congrArg some hc)))
    have hminus : c ≠ '-' := fun hc => hname (.inr (.inr (congrArg some hc)))
    simp [hz, hplus, hminus]
  | c :: c' :: rest, hname =>
    have hplus : c ≠ '+' := fun hc => hname (.inr (.inl (congrArg some hc)))
    have hminus : c ≠ '-' := fun hc => hname (.inr (.inr (congrArg some hc)))
    simp [hplus, hminus]

theorem offset_or_name_of_ofText (h : ofText text = .ok zone) :
    (∃ offset : FixedOffset, (offset.Strict (trimBlanks text.toList) ∨
        offset.Loose (trimBlanks text.toList)) ∧ zone = .fixed offset) ∨
      ¬ AsksOffset (trimBlanks text.toList) ∧
        ∃ rules, Names.rules? (String.ofList (trimBlanks text.toList)) = some rules ∧
          zone = .named (String.ofList (trimBlanks text.toList)) rules := by
  unfold ofText at h
  simp only at h
  split at h
  · rename_i zone' hzone
    obtain rfl := Except.ok.inj h
    split at hzone
    · obtain ⟨offset, hoffset, rfl⟩ := Option.map_eq_some_iff.mp hzone
      exact .inl ⟨offset, (FixedOffset.ofChars?_eq_some_iff.mp hoffset).imp_left And.right, rfl⟩
    · obtain ⟨offset, hoffset, rfl⟩ := Option.map_eq_some_iff.mp hzone
      exact .inl ⟨offset, (FixedOffset.ofChars?_eq_some_iff.mp hoffset).imp_left And.right, rfl⟩
    · rename_i hz
      obtain rfl := Option.some.inj hzone
      exact .inl ⟨.utc, .inl (.inl ⟨hz, rfl⟩), rfl⟩
    · rename_i hplus hminus hz
      obtain ⟨rules, hrules, rfl⟩ := Option.map_eq_some_iff.mp hzone
      refine .inr ⟨?_, rules, hrules, rfl⟩
      rintro (hcs | hcs | hcs)
      · exact hz hcs
      · obtain ⟨rest, hrest⟩ := List.head?_eq_some_iff.mp hcs
        exact hplus rest hrest
      · obtain ⟨rest, hrest⟩ := List.head?_eq_some_iff.mp hcs
        exact hminus rest hrest
  · cases h

theorem ofText_of_offset {offset : FixedOffset}
    (h : FixedOffset.ofChars? (trimBlanks text.toList) = some offset) :
    ofText text = .ok (.fixed offset) := by
  obtain ⟨o, ho, -⟩ := OffsetText.ofChars?_eq_some_iff.mp h
  unfold ofText
  simp only [h, Option.map_some]
  rw [← ho, OffsetText.chars]
  cases o.sign <;> rfl

theorem ofText_eq_fixed_iff {offset : FixedOffset} : ofText text = .ok (.fixed offset) ↔
    offset.Strict (trimBlanks text.toList) ∨ offset.Loose (trimBlanks text.toList) := by
  constructor
  · intro h
    rcases offset_or_name_of_ofText h with ⟨offset', hread, hzone⟩ | ⟨-, _, -, hzone⟩
    · cases hzone
      exact hread
    · cases hzone
  · intro h
    by_cases hz : trimBlanks text.toList = ['Z']
    · rcases h with (⟨-, rfl⟩ | ⟨o, ho, -⟩) | ⟨o, ho, -⟩
      · unfold ofText
        rw [hz]
        rfl
      · exact absurd (ho.trans hz) o.chars_ne_z
      · exact absurd (ho.trans hz) o.chars_ne_z
    · exact ofText_of_offset (FixedOffset.ofChars?_eq_some_iff.mpr (h.imp_left fun h => ⟨hz, h⟩))

theorem ofText_eq_named_iff {name : String} : ofText text = .ok (.named name rules) ↔
    name = String.ofList (trimBlanks text.toList) ∧ ¬ AsksOffset (trimBlanks text.toList) ∧
      Names.rules? name = some rules := by
  constructor
  · intro h
    rcases offset_or_name_of_ofText h with ⟨_, -, hzone⟩ | ⟨hname, rules', hrules, hzone⟩
    · cases hzone
    · cases hzone
      exact ⟨rfl, hname, hrules⟩
  · rintro ⟨rfl, hname, h⟩
    exact ofText_of_not_asksOffset hname h

theorem ofText_of_name [Names.Lawful]
    (h : Names.rules? (String.ofList (trimBlanks text.toList)) = some rules) :
    ofText text = .ok (.named (String.ofList (trimBlanks text.toList)) rules) := by
  refine ofText_eq_named_iff.mpr ⟨rfl, ?_, h⟩
  obtain ⟨hz, hplus, hminus⟩ := Names.Lawful.apart h
  rw [String.toList_ofList] at hplus hminus
  rintro (hcs | hcs | hcs)
  · exact hz (congrArg String.ofList hcs)
  · exact hplus hcs
  · exact hminus hcs

theorem ofText_eq_error {e : Error} (h : ofText text = .error e) :
    e = .unknownZone (String.ofList (trimBlanks text.toList)) := by
  unfold ofText at h
  simp only at h
  split at h
  · cases h
  · exact (Except.error.inj h).symm

/-- A text names an offset if it is written strictly, and also if it is written loosely; a loose
text is not strict, so that only the strict ones are read just where no offset is written loosely.
A known name is read unless it looks like an offset. All other texts are reported without the blanks
around them. -/
theorem ofText_fixed_iff_strict_unless_loose (text : String) :
    (∀ offset, ofText text = .ok (.fixed offset) ↔
      offset.Strict (trimBlanks text.toList) ∨ offset.Loose (trimBlanks text.toList)) ∧
    ((∀ offset, ofText text = .ok (.fixed offset) ↔ offset.Strict (trimBlanks text.toList)) ↔
      ∀ offset : FixedOffset, ¬ offset.Loose (trimBlanks text.toList)) ∧
    (∀ name rules, ofText text = .ok (.named name rules) ↔
      name = String.ofList (trimBlanks text.toList) ∧ ¬ AsksOffset (trimBlanks text.toList) ∧
        Names.rules? name = some rules) ∧
    (∀ e, ofText text = .error e ↔ e = .unknownZone (String.ofList (trimBlanks text.toList)) ∧
      (∀ offset : FixedOffset, ¬ offset.Strict (trimBlanks text.toList) ∧
        ¬ offset.Loose (trimBlanks text.toList)) ∧
      (AsksOffset (trimBlanks text.toList) ∨
        Names.rules? (String.ofList (trimBlanks text.toList)) = none)) := by
  refine ⟨fun _ => ofText_eq_fixed_iff, ?_, fun _ _ => ofText_eq_named_iff, fun e => ?_⟩
  · constructor
    · intro h offset hloose
      exact hloose.not_strict ((h offset).mp (ofText_eq_fixed_iff.mpr (.inr hloose)))
    · intro h offset
      rw [ofText_eq_fixed_iff]
      simp only [h offset, or_false]
  · constructor
    · intro h
      refine ⟨ofText_eq_error h, fun offset => not_or.mp fun hread => ?_, ?_⟩
      · rw [ofText_eq_fixed_iff.mpr hread] at h
        cases h
      · refine or_iff_not_imp_left.mpr fun hname => ?_
        refine Option.eq_none_iff_forall_ne_some.mpr fun rules hrules => ?_
        rw [ofText_eq_named_iff.mpr ⟨rfl, hname, hrules⟩] at h
        cases h
    · rintro ⟨rfl, hoffset, hname⟩
      cases hread : ofText text with
      | error e => rw [ofText_eq_error hread]
      | ok zone =>
        rcases offset_or_name_of_ofText hread with ⟨offset, hfixed, -⟩ | ⟨hasks, rules, hrules, -⟩
        · exact absurd hfixed (not_or.mpr (hoffset offset))
        · rw [hname.resolve_left hasks] at hrules
          cases hrules

end

/-- What stands behind the minutes is passed over. -/
theorem ofText_ignores_what_follows : ¬ ∀ offset,
    ofText "+05:30abc" = .ok (.fixed offset) ↔
      offset.Strict (trimBlanks "+05:30abc".toList) := by
  intro h
  have hread : ofText "+05:30abc" = .ok (.fixed ⟨19800, by decide, by decide⟩) := by
    decide +kernel
  let hours : Timestamp.Field 2 := ⟨[], ⟨['0', '5'], by simp, List.all_eq_true.mp rfl⟩,
    List.forall_mem_nil _, Nat.le_refl 2⟩
  let minutes : Timestamp.Field 2 := ⟨[], ⟨['3', '0'], by simp, List.all_eq_true.mp rfl⟩,
    List.forall_mem_nil _, Nat.le_refl 2⟩
  have hloose : FixedOffset.Loose ⟨19800, by decide, by decide⟩
      (trimBlanks "+05:30abc".toList) := by
    refine ⟨⟨.plus, hours, [':'], minutes, ['a', 'b', 'c'], ⟨⟨rfl, rfl⟩, rfl, rfl⟩,
      List.all_eq_true.mp rfl⟩, by decide +kernel, ?_, ⟨by decide, by decide⟩, by decide⟩
    rintro ⟨-, htail⟩
    cases htail
  exact hloose.not_strict ((h _).mp hread)

end Zone

end RelativeTime
