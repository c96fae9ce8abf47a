import RelativeTime.Proofs.Direction
import RelativeTime.Proofs.InsertedSecond
import RelativeTime.Session

/-! What a session keeps. A step moves the clock, goes on from another timestamp or sees the
instant in another zone, and one that is refused changes nothing. -/
namespace RelativeTime

theorem Answer.eq_ok_of_paired {α β : Type} {x : Answer α} {a : α} {b b' : β}
    (h : (x >>= fun a => pure (a, b')) = .ok (a, b)) : x = .ok a := by
  obtain ⟨a', ha', h⟩ := Answer.bind_eq_ok.mp h
  obtain ⟨rfl, -⟩ := Prod.mk.inj (Except.ok.inj h)
  exact ha'

def Instant.Orderly (i : Instant) : Prop := ∃ offset, i.zone.Steady offset ∧ i.Regular i.zone

theorem Zone.Steady.orderly {zone : Zone} {offset : Int} {i : Instant}
    (h : zone.Steady offset) (hi : i.Regular zone) : i.Orderly :=
  ⟨offset, hi.zone_eq ▸ h, hi.zone_eq ▸ hi⟩

variable [Zone.Names] {step : Step} {steps : List Step} {i j k : Instant} {finding : Finding}

namespace Step

/-- Where a step leads. Timestamps are read in the zone of the session. -/
inductive Leads (step : Step) (i j : Instant) : Prop where
  | moved (h : Relation.ReflTransGen Instant.Move i j)
  | read {text : String} (h : i.zone.read text = .ok j)
  | seen {text : String} {zone : Zone} (hstep : step = .zone text)
      (hzone : Zone.ofText text = .ok zone) (h : j = i.inZone zone)

theorem leads_of_run (h : step.run i = .ok (j, finding)) : step.Leads i j := by
  cases step with
  | snap instruction =>
    obtain ⟨tokens, -, h⟩ := Answer.bind_eq_ok.mp h
    exact .moved (Instant.moves_of_evaluate (Answer.eq_ok_of_paired h))
  | plus unit amount =>
    exact .moved (.single (Instant.move_of_plus (Answer.eq_ok_of_paired h)))
  | startOf unit =>
    exact .moved (.single (Instant.move_of_startOf (Answer.eq_ok_of_paired h)))
  | weekday =>
    obtain ⟨rfl, -⟩ := Prod.mk.inj (Except.ok.inj h)
    exact .moved .refl
  | set timestamp => exact .read (Answer.eq_ok_of_paired h)
  | zone text =>
    obtain ⟨zone, hzone, h⟩ := Answer.bind_eq_ok.mp h
    obtain ⟨rfl, -⟩ := Prod.mk.inj (Except.ok.inj h)
    exact .seen rfl (Answer.ofExcept_eq_ok.mp hzone) rfl
  | difference target =>
    obtain ⟨goal, -, h⟩ := Answer.bind_eq_ok.mp h
    obtain ⟨d, -, h⟩ := Answer.bind_eq_ok.mp h
    obtain ⟨rfl, -⟩ := Prod.mk.inj (Except.ok.inj h)
    exact .moved .refl
  | unsnap target =>
    -- What the target and the timestamp of the instant say matters to the instruction alone.
    obtain ⟨goal, -, h⟩ := Answer.bind_eq_ok.mp h
    obtain ⟨written, -, h⟩ := Answer.bind_eq_ok.mp h
    obtain ⟨anchor, -, h⟩ := Answer.bind_eq_ok.mp h
    obtain ⟨instruction, -, h⟩ := Answer.bind_eq_ok.mp h
    obtain ⟨tokens, -, h⟩ := Answer.bind_eq_ok.mp h
    exact .moved (Instant.moves_of_evaluate (Answer.eq_ok_of_paired h))

end Step

/-- Steps taken in turn. Where the clock cannot be dated the session breaks off. -/
inductive Session : Instant → List Step → Instant → Prop where
  | start {i : Instant} : Session i [] i
  | done {i j k : Instant} {step : Step} {steps : List Step} {finding : Finding}
      (h : step.run i = .ok (j, finding)) (hrest : Session j steps k) : Session i (step :: steps) k
  | refused {i k : Instant} {step : Step} {steps : List Step} {e : Error}
      (h : step.run i = .error (.reported e)) (hrest : Session i steps k) :
      Session i (step :: steps) k

namespace Session

theorem invariant {P : Instant → Prop}
    (hkeeps : ∀ step ∈ steps, ∀ i j, step.Leads i j → P i → P j) (h : Session i steps j)
    (hi : P i) : P j := by
  induction h with
  | start => exact hi
  | done hstep _ ih =>
    obtain ⟨hfirst, hrest⟩ := List.forall_mem_cons.mp hkeeps
    exact ih hrest (hfirst _ _ (Step.leads_of_run hstep) hi)
  | refused _ _ ih => exact ih (List.forall_mem_cons.mp hkeeps).2 hi

end Session

/-! ### The zone -/

variable [Zone.Names.Lawful]

theorem Step.Leads.known (h : step.Leads i j) (hi : i.zone.Known) : j.zone.Known := by
  cases h with
  | moved hmoves => exact Instant.zone_of_moves hmoves ▸ hi
  | read hread => exact (Zone.read_within hi.bounded hread).zone_eq ▸ hi
  | seen _ hzone hj => exact hj ▸ Zone.known_of_ofText hzone

theorem Session.known (h : Session i steps j) (hi : i.zone.Known) : j.zone.Known :=
  h.invariant (P := fun k => k.zone.Known) (fun _ _ _ _ hleads => hleads.known) hi

/-- In a zone that can be asked for, a session can always tell how far a timestamp is, but for
inserted seconds and the ends of the calendar. -/
theorem Session.exists_difference (h : Session i steps j) (hi : i.zone.Known)
    (hplain : j.utc.leap = false) (hdated : j.face.InRange) {target : String} {goal : Instant}
    (hgoal : j.zone.read target = .ok goal) :
    ∃ d, (Step.difference target).run j = .ok (j, .difference d) := by
  have hknown := h.known hi
  have hwithin := Zone.read_within hknown.bounded hgoal
  have hface := hwithin.face_inRange hknown.bounded (by decide)
  rw [← Instant.inZone_of_eq hwithin.zone_eq] at hface
  obtain ⟨d, hd⟩ := Instant.exists_difference_of_known hknown hplain hdated hface
  refine ⟨d, ?_⟩
  rw [Step.run, hgoal, Answer.bind_ok, hd]
  rfl

/-! ### Inserted seconds -/

def Step.Unchanging (step : Step) : Prop :=
  ∀ text zone, step = .zone text → Zone.ofText text = .ok zone →
    ∃ offset, zone.rules = .constant offset

theorem Step.Leads.orderly (h : step.Leads i j) (hstep : step.Unchanging) (hi : i.Orderly) :
    j.Orderly := by
  obtain ⟨offset, hsteady, hregular⟩ := hi
  cases h with
  | moved hmoves => exact hsteady.orderly (hsteady.moves_regular hmoves hregular)
  | read hread => exact hsteady.orderly (hsteady.read_regular hread)
  | @seen text zone hask hzone hj =>
    -- What closes a minute does so under any offset of whole minutes.
    have hclose := (hsteady.face_closesMinute_iff rfl).mp hregular.closesMinute
    obtain ⟨offset', hconstant⟩ := hstep text zone hask hzone
    have hsteady' := (Zone.known_of_ofText hzone).steady hconstant
    subst hj
    exact hsteady'.orderly ⟨rfl, (hsteady'.face_closesMinute_iff rfl).mpr hclose⟩

/-- Whatever is read and asked for on the way, inserted seconds stay at the ends of minutes. -/
theorem Session.orderly (h : Session i steps j) (hsteps : ∀ step ∈ steps, step.Unchanging)
    (hi : i.Orderly) : j.Orderly :=
  h.invariant (fun step hmem _ _ hleads => hleads.orderly (hsteps step hmem)) hi

end RelativeTime
