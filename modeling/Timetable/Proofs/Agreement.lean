import Timetable.Occurrence

/-!
# Offsets that agree

A reading of a wall clock is fixed by two lookups: one for the reading, and one for the
instant that it has by the first offset.  Compared are two readings then, the one that was
to be fixed and the one that the second offset shows.  They are the same exactly when the
offsets are, over the ends of days and within leap seconds too
(`WallTime.onWall_toUtc_eq_iff`).

So the answers to the two queries decide what comes of a reading, however a resolver may
contradict itself (`Resolver.fixExisting_iff_offsets_agree`).  The second answer belongs to
the instant alone, and therefore no two readings are fixed to the same instant.
-/

namespace Timetable

open WallTime

set_option autoImplicit false

/-- A reading that one offset takes to universal time and another takes back is the same reading
exactly when the offsets are the same. -/
theorem WallTime.onWall_toUtc_eq_iff (wall : WallTime) (there back : Offset) :
    (wall.toUtc there).onWall back = wall ↔ there = back := by
  constructor
  · intro same
    have seconds := congrArg WallTime.seconds same
    rw [onWall, toUtc, seconds_shift, seconds_shift] at seconds
    exact Offset.ext (by omega)
  · rintro rfl
    exact Zoned.utc_onWall ⟨wall, there⟩

namespace Resolver

section Answers

variable {σ : Type} {answer : Query → Except Fault Offset} {resolver : Resolver σ} {zone : String}
  {wall : WallTime}

/-! ## Answers by the query alone -/

/-- A resolver that answers by the query alone, whatever it remembers. -/
def AnswersBy (answer : Query → Except Fault Offset) (resolver : Resolver σ) : Prop :=
  ∀ state query, (resolver.answer state query).1 = answer query

theorem AnswersBy.ask (answers : resolver.AnswersBy answer) (query : Query) :
    ∃ later, resolver.ask query = (answer query, later) ∧ later.AnswersBy answer :=
  ⟨_, Prod.ext (answers resolver.state query) rfl, answers⟩

theorem AnswersBy.wallAt (answers : resolver.AnswersBy answer) (zone : String) (utc : WallTime) :
    (resolver.wallAt zone utc).1 =
      match answer { clock := .utc, zone, time := utc } with
      | .ok offset => readingAt utc offset
      | .error fault => .error (.fault fault) := by
  obtain ⟨later, asked, -⟩ := answers.ask { clock := .utc, zone, time := utc }
  rw [Resolver.wallAt, asked]
  cases answer { clock := .utc, zone, time := utc } with
  | error fault => rfl
  | ok offset => rfl

/-! ## What two answers decide -/

/-- What comes of a reading of a wall clock, by the answers to its query and to that of the instant
that it has by the first answer. -/
inductive Decides (answer : Query → Except Fault Offset) (zone : String) (wall : WallTime) :
    Except Failure (Option Zoned) → Prop where
  /-- The offset for the reading is not known. -/
  | unplaced {fault : Fault}
      (placed : answer { clock := .wall, zone, time := wall } = .error fault) :
      Decides answer zone wall (.error (.fault (fault.asResolution zone)))
  /-- No clock can show the instant. -/
  | hidden {there : Offset} (placed : answer { clock := .wall, zone, time := wall } = .ok there)
      (beyond : ¬ (wall.toUtc there).InRange) :
      Decides answer zone wall
        (.error (.fault (.resolution zone (.unrepresentable wall there))))
  /-- The offset for the instant is not known. -/
  | unshown {there : Offset} {fault : Fault}
      (placed : answer { clock := .wall, zone, time := wall } = .ok there)
      (in_range : (wall.toUtc there).InRange)
      (shown : answer { clock := .utc, zone, time := wall.toUtc there } = .error fault) :
      Decides answer zone wall (.error (.fault (fault.asResolution zone)))
  /-- No clock can show what the second offset makes of the instant. -/
  | broken {there back : Offset}
      (placed : answer { clock := .wall, zone, time := wall } = .ok there)
      (in_range : (wall.toUtc there).InRange)
      (shown : answer { clock := .utc, zone, time := wall.toUtc there } = .ok back)
      (beyond : ¬ ((wall.toUtc there).onWall back).InRange) :
      Decides answer zone wall (.error .overrun)
  /-- The offsets agree, and the reading is fixed. -/
  | agreed {offset : Offset} (placed : answer { clock := .wall, zone, time := wall } = .ok offset)
      (in_range : (wall.toUtc offset).InRange)
      (shown : answer { clock := .utc, zone, time := wall.toUtc offset } = .ok offset)
      (within : ((wall.toUtc offset).onWall offset).InRange) :
      Decides answer zone wall (.ok (some { wall, offset }))
  /-- The offsets differ, and the wall clock does not show the reading. -/
  | differing {there back : Offset}
      (placed : answer { clock := .wall, zone, time := wall } = .ok there)
      (in_range : (wall.toUtc there).InRange)
      (shown : answer { clock := .utc, zone, time := wall.toUtc there } = .ok back)
      (within : ((wall.toUtc there).onWall back).InRange) (apart : there ≠ back) :
      Decides answer zone wall (.ok none)

theorem AnswersBy.decides (answers : resolver.AnswersBy answer) (zone : String) (wall : WallTime) :
    Decides answer zone wall (resolver.fixExisting zone wall).1 := by
  obtain ⟨later, asked, later_answers⟩ := answers.ask { clock := .wall, zone, time := wall }
  rw [fixExisting, fix, asked]
  cases placed : answer { clock := .wall, zone, time := wall } with
  | error fault => exact .unplaced placed
  | ok there =>
    by_cases in_range : (wall.toUtc there).InRange
    · obtain ⟨behind, looked, -⟩ :=
        later_answers.ask { clock := .utc, zone, time := wall.toUtc there }
      simp only [zonedAt, if_pos in_range, Resolver.wallAt, Zoned.utc, looked]
      cases shown : answer { clock := .utc, zone, time := wall.toUtc there } with
      | error fault => exact .unshown placed in_range shown
      | ok back =>
        by_cases within : ((wall.toUtc there).onWall back).InRange
        · simp only [readingAt_of_inRange within, WallTime.onWall_toUtc_eq_iff]
          by_cases same : there = back
          · subst same
            rw [if_pos rfl]
            exact .agreed placed in_range shown within
          · rw [if_neg same]
            exact .differing placed in_range shown within same
        · simp only [readingAt_of_not_inRange within, Failure.reword_overrun]
          exact .broken placed in_range shown within
    · simp only [zonedAt, if_neg in_range]
      exact .hidden placed in_range

theorem Decides.unique {outcome other : Except Failure (Option Zoned)}
    (decides : Decides answer zone wall outcome) (decides_other : Decides answer zone wall other) :
    outcome = other := by
  cases decides <;> cases decides_other <;> simp_all

/-- **What comes of a reading is what the two answers decide.** -/
theorem AnswersBy.fixExisting_eq_iff (answers : resolver.AnswersBy answer)
    (outcome : Except Failure (Option Zoned)) :
    (resolver.fixExisting zone wall).1 = outcome ↔ Decides answer zone wall outcome :=
  ⟨fun same => same ▸ answers.decides zone wall, (answers.decides zone wall).unique⟩

/-- **No two readings of a wall clock are fixed to the same instant.** -/
theorem AnswersBy.eq_of_utc_eq (answers : resolver.AnswersBy answer) {other : WallTime}
    {zoned twin : Zoned} (fixed : (resolver.fixExisting zone wall).1 = .ok (some zoned))
    (other_fixed : (resolver.fixExisting zone other).1 = .ok (some twin))
    (same : zoned.utc = twin.utc) : wall = other := by
  cases (answers.fixExisting_eq_iff _).mp fixed with | @agreed offset _ _ shown
  cases (answers.fixExisting_eq_iff _).mp other_fixed with
  | @agreed other_offset _ _ other_shown
  change wall.toUtc offset = other.toUtc other_offset at same
  rw [same, other_shown] at shown
  calc wall
      = (wall.toUtc offset).onWall offset := ((wall.onWall_toUtc_eq_iff _ _).mpr rfl).symm
    _ = (other.toUtc other_offset).onWall other_offset := by rw [same, Except.ok.inj shown]
    _ = other := (other.onWall_toUtc_eq_iff _ _).mpr rfl

/-- **A reading is fixed exactly when the two offsets agree**, as long as clocks can show what the
offsets lead to: it then has that offset, and is what the wall clock shows at its instant.  It does
not exist when they differ, and cannot be fixed when a lookup fails. -/
theorem fixExisting_iff_offsets_agree (answers : resolver.AnswersBy answer) (zone : String)
    (wall : WallTime)
    (in_range : ∀ there, answer { clock := .wall, zone, time := wall } = .ok there →
      (wall.toUtc there).InRange ∧
        ∀ back, answer { clock := .utc, zone, time := wall.toUtc there } = .ok back →
          ((wall.toUtc there).onWall back).InRange) :
    let outcome := (resolver.fixExisting zone wall).1
    let placed := answer { clock := .wall, zone, time := wall }
    let shown (offset : Offset) := answer { clock := .utc, zone, time := wall.toUtc offset }
    (∀ zoned, outcome = .ok (some zoned) ↔
        ∃ offset, placed = .ok offset ∧ shown offset = .ok offset ∧ zoned = ⟨wall, offset⟩) ∧
      (∀ zoned, outcome = .ok (some zoned) → (resolver.wallAt zone zoned.utc).1 = .ok wall) ∧
      (outcome = .ok none ↔
        ∃ there back, placed = .ok there ∧ shown there = .ok back ∧ there ≠ back) ∧
      ((∃ fault, outcome = .error (.fault fault)) ↔
        (∃ fault, placed = .error fault) ∨
          ∃ offset fault, placed = .ok offset ∧ shown offset = .error fault) ∧
      outcome ≠ .error .overrun ∧
      ∀ other zoned twin, outcome = .ok (some zoned) →
        (resolver.fixExisting zone other).1 = .ok (some twin) → zoned.utc = twin.utc →
          wall = other := by
  intro outcome placed shown
  have outcome_eq (result : Except Failure (Option Zoned)) :
      outcome = result ↔ Decides answer zone wall result := answers.fixExisting_eq_iff result
  refine ⟨fun zoned => ?fixed, fun zoned fixed => ?again, ?missing, ?failed, fun broken => ?broken,
    fun other zoned twin fixed other_fixed => answers.eq_of_utc_eq fixed other_fixed⟩
  case fixed =>
    rw [outcome_eq]
    constructor
    · rintro (_ | _ | _ | _ | ⟨placed, -, shown, -⟩)
      exact ⟨_, placed, shown, rfl⟩
    · rintro ⟨offset, placed, shown, rfl⟩
      obtain ⟨represented, within⟩ := in_range offset placed
      exact .agreed placed represented shown (within offset shown)
  case again =>
    cases (outcome_eq _).mp fixed with | agreed _ _ shown within
    rw [answers.wallAt, Zoned.utc, shown]
    simp only [readingAt_of_inRange within, (wall.onWall_toUtc_eq_iff _ _).mpr]
  case missing =>
    rw [outcome_eq]
    constructor
    · rintro (_ | _ | _ | _ | _ | ⟨placed, -, shown, -, apart⟩)
      exact ⟨_, _, placed, shown, apart⟩
    · rintro ⟨there, back, placed, shown, apart⟩
      obtain ⟨represented, within⟩ := in_range there placed
      exact .differing placed represented shown (within back shown) apart
  case failed =>
    simp only [outcome_eq]
    constructor
    · rintro ⟨fault, placed | ⟨placed, beyond⟩ | ⟨placed, -, shown⟩⟩
      · exact .inl ⟨_, placed⟩
      · exact absurd (in_range _ placed).1 beyond
      · exact .inr ⟨_, _, placed, shown⟩
    · rintro (⟨fault, placed⟩ | ⟨offset, fault, placed, shown⟩)
      · exact ⟨_, .unplaced placed⟩
      · exact ⟨_, .unshown placed (in_range offset placed).1 shown⟩
  case broken =>
    cases (outcome_eq _).mp broken with | broken placed _ shown beyond
    exact beyond ((in_range _ placed).2 _ shown)

end Answers

/-! ### A clock that contradicts itself

Readings are said to be fourteen hours ahead of universal time, and instants ten hours
behind it until noon of the last day of 2016 and fourteen hours ahead from then on. -/

namespace Contradiction

/-- The last noon of 2016, in universal time. -/
def noon : WallTime := (midnight ⟨17166⟩).shift 43200

def answer (query : Query) : Except Fault Offset :=
  match query.clock with
  | .wall => .ok ⟨50400⟩
  | .utc => .ok (if noon ≤ query.time then ⟨50400⟩ else ⟨-36000⟩)

/-- A leap second on New Year's morning, the universal clock showing the day before. -/
def leapSecond : WallTime where
  date := ⟨17167⟩
  secondOfDay := 21599
  nanos := 1750000000

/-- Eight in the evening on the last day of the year, which is no evening by the instant. -/
def evening : WallTime := (midnight ⟨17166⟩).shift 72000

/-- The leap second is fixed, and is what the wall clock shows at its instant; the evening does not
exist. -/
theorem leapSecond_agrees :
    (ofFunction answer).AnswersBy answer ∧
      (∀ wall ∈ [leapSecond, evening], ∀ there,
        answer { clock := .wall, zone := "X", time := wall } = .ok there →
          (wall.toUtc there).InRange ∧
            ∀ back, answer { clock := .utc, zone := "X", time := wall.toUtc there } = .ok back →
              ((wall.toUtc there).onWall back).InRange) ∧
        ((ofFunction answer).fixExisting "X" leapSecond).1 =
            .ok (some ⟨leapSecond, ⟨50400⟩⟩) ∧
          ((ofFunction answer).wallAt "X" (leapSecond.toUtc ⟨50400⟩)).1 = .ok leapSecond ∧
            ((ofFunction answer).fixExisting "X" evening).1 = .ok none := by
  have answers : (ofFunction answer).AnswersBy answer := fun _ _ => rfl
  have in_range : ∀ wall ∈ [leapSecond, evening], ∀ there,
      answer { clock := .wall, zone := "X", time := wall } = .ok there →
        (wall.toUtc there).InRange ∧
          ∀ back, answer { clock := .utc, zone := "X", time := wall.toUtc there } = .ok back →
            ((wall.toUtc there).onWall back).InRange := by
    -- The universal clock knows two offsets, and each keeps either reading within the range.
    have by_offset : ∀ wall ∈ [leapSecond, evening], (wall.toUtc ⟨50400⟩).InRange ∧
        ∀ back ∈ [⟨50400⟩, (⟨-36000⟩ : Offset)], ((wall.toUtc ⟨50400⟩).onWall back).InRange := by
      decide
    intro wall member there placed
    obtain rfl := Except.ok.inj placed
    refine ⟨(by_offset wall member).1, fun back shown => (by_offset wall member).2 back ?_⟩
    rw [← Except.ok.inj shown]
    split <;> simp
  obtain ⟨fixed_iff, shown_again, -⟩ :=
    fixExisting_iff_offsets_agree answers "X" leapSecond (in_range _ (by simp))
  obtain ⟨-, -, missing_iff, -⟩ :=
    fixExisting_iff_offsets_agree answers "X" evening (in_range _ (by simp))
  have fixed := (fixed_iff _).mpr ⟨⟨50400⟩, rfl, by rfl, rfl⟩
  exact ⟨answers, in_range, fixed, shown_again _ fixed,
    missing_iff.mpr ⟨⟨50400⟩, ⟨-36000⟩, rfl, by rfl, by decide⟩⟩

end Contradiction

end Resolver

end Timetable
