import Mathlib.Logic.Relation
import RelativeTime.Operations
import RelativeTime.Proofs.Calendar.Moves

/-! What an evaluation is made of. Every token comes down to moves of two kinds: time elapses, or a
reading of the wall calendar is resolved, and what all moves keep holds at the end of any
instruction. -/
namespace RelativeTime

namespace Answer

variable {α β : Type}

theorem ofExcept_eq_ok {x : Except Error α} {a : α} : ofExcept x = .ok a ↔ x = .ok a := by
  cases x <;> simp [ofExcept, Except.mapError]

theorem ofExcept_eq_error {x : Except Error α} {f : Failure} :
    ofExcept x = .error f ↔ ∃ e, x = .error e ∧ f = .reported e := by
  cases x <;> simp [ofExcept, Except.mapError, eq_comm]

theorem ofExcept_ne_unshowable (x : Except Error α) : ofExcept x ≠ .error .unshowable := by
  cases x <;> simp [ofExcept, Except.mapError]

theorem toOption_eq_some_iff {x : Answer α} {a : α} : x.toOption = some a ↔ x = .ok a := by
  cases x <;> simp [Except.toOption]

theorem toOption_bind (x : Answer α) (f : α → Answer β) :
    (x >>= f).toOption = x.toOption.bind fun a => (f a).toOption := by
  cases x <;> rfl

end Answer

theorem Snap.eq_weeks_or_ne (s : Snap) : (∃ asked, s = ⟨.weeks, asked⟩) ∨ s.unit ≠ .weeks := by
  by_cases hs : s.unit = .weeks
  · exact .inl ⟨s.weekday, hs ▸ rfl⟩
  · exact .inr hs

theorem Snap.apply_of_ne_weeks {s : Snap} (h : s.unit ≠ .weeks) (i : Instant) :
    s.apply i = i.startOf s.unit := by
  unfold Snap.apply
  split
  · exact absurd ‹_› h
  · rfl

namespace Instant

variable {i j : Instant} {u : TimeUnit}

theorem evaluate_nil (i : Instant) : evaluate i [] = .ok i := rfl

theorem evaluate_cons (i : Instant) (t : Token) (ts : List Token) :
    evaluate i (t :: ts) = t.apply i >>= fun j => evaluate j ts :=
  List.foldlM_cons

theorem evaluate_singleton (i : Instant) (t : Token) : evaluate i [t] = t.apply i := by
  rw [evaluate_cons]
  cases t.apply i <;> rfl

theorem evaluate_append (i : Instant) (ts ts' : List Token) :
    evaluate i (ts ++ ts') = evaluate i ts >>= fun j => evaluate j ts' :=
  List.foldlM_append

theorem startOf_elapsed_eq_ok_iff {nanos : Int} (hu : u.stride = .elapsed nanos) :
    i.startOf u = .ok j ↔
      j.zone = i.zone ∧ j.utc = i.utc.after (-(i.face.nanos % nanos)) := by
  have hafter : i.after? (-(i.face.nanos % nanos)) = some j ↔
      j.zone = i.zone ∧ j.utc = i.utc.after (-(i.face.nanos % nanos)) := ofUtc?_eq_some_iff
  rw [← hafter]
  simp only [startOf, hu]
  cases i.after? (-(i.face.nanos % nanos)) with
  | some start => simp
  | none =>
    simp only [reduceCtorEq, iff_false]
    intro h
    obtain ⟨_, -, h⟩ := Answer.bind_eq_ok.mp h
    cases h

theorem startOf_date_eq_ok_iff (hu : u.MovesDate) : i.startOf u = .ok j ↔
    i.face.InRange ∧ i.zone.resolve (.midnight (u.firstDate i.face.day)) = .ok j := by
  have hstart : i.startOf u =
      i.wall >>= fun wall => i.zone.resolve (.midnight (u.firstDate wall.day)) := by
    rcases hu with rfl | rfl | rfl | rfl <;> rfl
  constructor
  · intro h
    rw [hstart] at h
    obtain ⟨wall, hwall, h⟩ := Answer.bind_eq_ok.mp h
    obtain ⟨hd, rfl⟩ := inRange_of_wall hwall
    exact ⟨hd, h⟩
  · rintro ⟨hd, h⟩
    rw [hstart, wall_of_inRange hd, Answer.bind_ok, h]

/-- One move. The reading that is resolved has the time of day of the wall clock or is a midnight,
and neither is asked for unless the wall clock can be dated. -/
inductive Move (i j : Instant) : Prop where
  | elapse (nanos : Int) (h : i.after? nanos = some j)
  | date (day : Int) (dated : i.face.InRange) (h : i.zone.resolve (i.face.onDay day) = .ok j)
  | midnight (day : Int) (dated : i.face.InRange) (h : i.zone.resolve (.midnight day) = .ok j)

theorem move_of_plus {amount : Int} (h : i.plus u amount = .ok j) : Move i j := by
  by_cases hu : u.MovesDate
  · obtain ⟨hdated, hresolve⟩ := resolve_of_plus hu h
    exact .date _ hdated hresolve
  · obtain ⟨nanos, hnanos⟩ := TimeUnit.exists_elapsed hu
    exact .elapse _ (ofUtc?_eq_some_iff.mpr ((plus_elapsed_eq_ok_iff hnanos).mp h))

theorem move_of_startOf (h : i.startOf u = .ok j) : Move i j := by
  by_cases hu : u.MovesDate
  · obtain ⟨hdated, hresolve⟩ := (startOf_date_eq_ok_iff hu).mp h
    exact .midnight _ hdated hresolve
  · obtain ⟨nanos, hnanos⟩ := TimeUnit.exists_elapsed hu
    exact .elapse _ (ofUtc?_eq_some_iff.mpr ((startOf_elapsed_eq_ok_iff hnanos).mp h))

/-- A snap on weeks makes two moves, every other token one. -/
theorem moves_of_apply {t : Token} (h : t.apply i = .ok j) : Relation.ReflTransGen Move i j := by
  cases t with
  | delta d =>
    simp only [Token.apply, Delta.apply] at h
    split at h
    · exact .single (move_of_plus h)
    · cases h
  | snap s =>
    simp only [Token.apply, Snap.apply] at h
    split at h
    · obtain ⟨aligned, haligned, h⟩ := Answer.bind_eq_ok.mp h
      exact .tail (.single (move_of_plus haligned)) (move_of_startOf h)
    · exact .single (move_of_startOf h)

theorem Move.zone_eq (h : Move i j) : j.zone = i.zone := by
  cases h with
  | elapse nanos h => exact (ofUtc?_eq_some h).1
  | date day _ h => exact Zone.zone_of_resolve h
  | midnight day _ h => exact Zone.zone_of_resolve h

theorem Move.plain (h : Move i j) (hl : i.utc.leap = false) : j.utc.leap = false := by
  cases h with
  | elapse nanos h => rw [(ofUtc?_eq_some h).2, Reading.after_of_not_leap hl]
  | date day _ h => exact Zone.plain_of_resolve h hl
  | midnight day _ h => exact Zone.plain_of_resolve h rfl

theorem moves_invariant {P : Instant → Prop} (hmove : ∀ i j, Move i j → P i → P j)
    (h : Relation.ReflTransGen Move i j) (hi : P i) : P j := by
  induction h with
  | refl => exact hi
  | tail _ hlast ih => exact hmove _ _ hlast ih

theorem zone_of_moves (h : Relation.ReflTransGen Move i j) : j.zone = i.zone :=
  moves_invariant (P := fun k => k.zone = i.zone) (fun _ _ hm => hm.zone_eq.trans) h rfl

theorem zone_of_apply {t : Token} (h : t.apply i = .ok j) : j.zone = i.zone :=
  zone_of_moves (moves_of_apply h)

theorem moves_of_evaluate {ts : List Token} (h : evaluate i ts = .ok j) :
    Relation.ReflTransGen Move i j := by
  induction ts generalizing i with
  | nil =>
    obtain rfl := Except.ok.inj h
    exact .refl
  | cons t ts ih =>
    rw [evaluate_cons] at h
    obtain ⟨k, hk, h⟩ := Answer.bind_eq_ok.mp h
    exact (moves_of_apply hk).trans (ih h)

theorem zone_of_evaluate {ts : List Token} (h : evaluate i ts = .ok j) : j.zone = i.zone :=
  zone_of_moves (moves_of_evaluate h)

theorem plain_of_evaluate {ts : List Token} (h : evaluate i ts = .ok j)
    (hl : i.utc.leap = false) : j.utc.leap = false :=
  moves_invariant (P := fun k => k.utc.leap = false) (fun _ _ hm => hm.plain)
    (moves_of_evaluate h) hl

/-- A part of an instruction may be replaced by another that leads to the same from wherever an
instruction comes to. -/
theorem evaluate_replaced (hl : i.utc.leap = false) {part part' : List Token}
    (hsame : ∀ a k : Instant, a.zone = i.zone → a.utc.leap = false →
      (evaluate a part = .ok k ↔ evaluate a part' = .ok k)) {before after : List Token} :
    evaluate i (before ++ part ++ after) = .ok j ↔
      evaluate i (before ++ part' ++ after) = .ok j := by
  simp only [evaluate_append, Answer.bind_eq_ok]
  constructor
  · rintro ⟨k, ⟨a, ha, hk⟩, hj⟩
    exact ⟨k, ⟨a, ha, (hsame a k (zone_of_evaluate ha) (plain_of_evaluate ha hl)).mp hk⟩, hj⟩
  · rintro ⟨k, ⟨a, ha, hk⟩, hj⟩
    exact ⟨k, ⟨a, ha, (hsame a k (zone_of_evaluate ha) (plain_of_evaluate ha hl)).mpr hk⟩, hj⟩

end Instant

/-! ### Texts in, texts out -/

variable [Zone.Names]

theorem Setting.read_eq {s : Setting} {zone : Zone} (h : s.zone = .ok zone) (text : String) :
    s.read text = zone.read text := by
  rw [Setting.read, h, Answer.bind_ok]

variable {s : Setting} {timestamp instruction text : String} {start : Instant}
  {tokens : List Token}

theorem snap_of_not_read {e : Failure} (h : s.read timestamp = .error e) (instruction : String) :
    snap s timestamp instruction = .error e := by
  rw [snap, h]
  rfl

theorem snap_empty (h : s.read timestamp = .ok start) : snap s timestamp "" = .ok timestamp := by
  rw [snap, h]
  rfl

theorem snap_of_ne_empty (hr : s.read timestamp = .ok start) (hne : instruction ≠ "") :
    snap s timestamp instruction =
      (Answer.ofExcept (parse instruction) >>= fun tokens =>
        evaluate start tokens >>= Instant.format) := by
  have hempty : instruction.isEmpty = false := by
    rw [Bool.eq_false_iff]
    exact fun h => hne (String.isEmpty_iff.mp h)
  simp only [snap, hr, Answer.bind_ok, hempty]
  rfl

theorem snap_of_not_parsed {e : Error} (hr : s.read timestamp = .ok start)
    (hp : parse instruction = .error e) (hne : instruction ≠ "") :
    snap s timestamp instruction = .error (.reported e) := by
  rw [snap_of_ne_empty hr hne, hp]
  rfl

theorem snap_of_read (hr : s.read timestamp = .ok start) (hp : parse instruction = .ok tokens)
    (hne : instruction ≠ "") :
    snap s timestamp instruction = evaluate start tokens >>= Instant.format := by
  rw [snap_of_ne_empty hr hne, Answer.ofExcept_eq_ok.mpr hp, Answer.bind_ok]

theorem read_of_snap (h : snap s timestamp instruction = .ok text) :
    ∃ start, s.read timestamp = .ok start := by
  obtain ⟨start, hstart, -⟩ := Answer.bind_eq_ok.mp h
  exact ⟨start, hstart⟩

end RelativeTime
