import Timetable.Proofs.SearchRuns
import Timetable.Schedule.Building

/-!
# What filters choose

A chain of filters cuts a list of minutes short and sifts what is left: the list
ends before the first minute at which the chain says to terminate, and of the
others those stay that every filter accepts (`chosen`).  A search that passes its
matches through the chain lets through what is chosen of the matches ahead of it
(`Search.accepted_eq_chosen`).

The candidates of a window are listed by the scan as well.  A demanded year leaves
out what comes before it, and so does the search of a new schedule, which begins
no earlier than that year (`Schedule.searchFor_spec`).
-/

namespace Timetable

open Calendar WallTime

set_option autoImplicit false

/-! ## What filters choose -/

/-- What filters say together: the first that does not accept decides. -/
def verdict (filters : List Filter) (minute : WallTime) : Decision :=
  ((filters.map (· minute)).find? (· ≠ .accept)).getD .accept

/-- The minutes that filters choose: the list is cut before the first minute at which they end the
sequence, and of what is left every filter accepts. -/
def chosen (filters : List Filter) (minutes : List WallTime) : List WallTime :=
  (minutes.takeWhile (verdict filters · ≠ .terminate)).filter fun minute =>
    ∀ filter ∈ filters, filter minute = .accept

theorem verdict_cons (filter : Filter) (others : List Filter) (minute : WallTime) :
    verdict (filter :: others) minute =
      if filter minute = .accept then verdict others minute else filter minute := by
  rw [verdict, List.map_cons, List.find?_cons]
  by_cases accepted : filter minute = .accept
  · rw [if_pos accepted, decide_eq_false (not_not_intro accepted)]
    rfl
  · rw [if_neg accepted, decide_eq_true accepted]
    rfl

theorem verdict_eq_accept_iff (filters : List Filter) (minute : WallTime) :
    verdict filters minute = .accept ↔ ∀ filter ∈ filters, filter minute = .accept := by
  induction filters with
  | nil => exact ⟨fun _ _ member => absurd member List.not_mem_nil, fun _ => rfl⟩
  | cons filter others ih =>
    rw [verdict_cons, List.forall_mem_cons]
    by_cases accepted : filter minute = .accept
    · rw [if_pos accepted, ih]
      exact ⟨fun rest => ⟨accepted, rest⟩, fun all => all.2⟩
    · rw [if_neg accepted]
      exact ⟨fun here => absurd here accepted, fun all => absurd all.1 accepted⟩

/-- Of two lists of filters the second decides where the first accepts. -/
theorem verdict_append (first second : List Filter) (minute : WallTime) :
    verdict (first ++ second) minute =
      if verdict first minute = .accept then verdict second minute else verdict first minute := by
  induction first with
  | nil => exact (if_pos rfl).symm
  | cons filter others ih =>
    rw [List.cons_append, verdict_cons, verdict_cons, ih]
    by_cases accepted : filter minute = .accept
    · simp only [if_pos accepted]
    · simp only [if_neg accepted]

/-- The last filter decides where all others accept. -/
theorem verdict_concat (filters : List Filter) (last : Filter) (minute : WallTime) :
    verdict (filters ++ [last]) minute =
      if verdict filters minute = .accept then last minute else verdict filters minute := by
  have alone : verdict [last] minute = last minute := by
    rw [verdict_cons]
    split_ifs with accepted
    · exact accepted.symm
    · rfl
  rw [verdict_append, alone]

/-- A chain decides as its filters say together. -/
theorem Chain.decide_eq_verdict (chain : Chain) (minute : WallTime) :
    chain.decide minute = verdict chain.filters minute := by
  obtain ⟨filters⟩ := chain
  induction filters with
  | nil => rfl
  | cons filter others ih =>
    rw [verdict_cons, ← ih, Chain.decide, List.map_cons, firstRefusal_cons, pure_bind]
    split_ifs <;> rfl

theorem chosen_cons (filters : List Filter) (minute : WallTime) (later : List WallTime) :
    chosen filters (minute :: later) =
      match verdict filters minute with
      | .accept => minute :: chosen filters later
      | .reject => chosen filters later
      | .terminate => [] := by
  have accepted := verdict_eq_accept_iff filters minute
  rw [chosen, chosen, List.takeWhile_cons]
  cases answer : verdict filters minute with
  | accept =>
    rw [answer] at accepted
    rw [if_pos (by decide), List.filter_cons_of_pos (by simpa using accepted.mp rfl)]
  | reject =>
    rw [answer] at accepted
    have refused : ¬ ∀ filter ∈ filters, filter minute = .accept :=
      fun all => nomatch accepted.mpr all
    rw [if_pos (by decide), List.filter_cons_of_neg (by rwa [decide_eq_true_iff])]
  | terminate => rfl

theorem chosen_sublist (filters : List Filter) (minutes : List WallTime) :
    (chosen filters minutes).Sublist minutes :=
  List.filter_sublist.trans (List.takeWhile_sublist _)

/-! ## What a search lets through -/

namespace Search

/-- The matches that filters let through, drawn one after the other. -/
def accepted (filters : Chain) (search : Search) : List WallTime :=
  match _ : search.nextAccepted filters with
  | (none, _) => []
  | (some found, rest) => found :: rest.accepted filters
termination_by search.remaining
decreasing_by exact remaining_lt_of_nextAccepted ‹search.nextAccepted filters = (some found, rest)›

theorem exists_accepted_eq_cons {filters : Chain} {search : Search} {found : WallTime}
    (next : (search.nextAccepted filters).1 = some found) :
    ∃ others, search.accepted filters = found :: others := by
  rw [accepted]
  split
  · rename_i none_accepted
    rw [none_accepted] at next
    cases next
  · rename_i first rest accepted
    rw [accepted] at next
    exact ⟨_, congrArg (· :: _) (Option.some.inj next)⟩

/-- The next accepted match is the first that the filters choose among those ahead. -/
theorem nextAccepted_chosen (filters : Chain) {search : Search} (sound : search.Sound) :
    (search.nextAccepted filters).2.Sound ∧
      match (search.nextAccepted filters).1 with
      | none => chosen filters.filters search.upcoming = []
      | some found => chosen filters.filters search.upcoming =
          found :: chosen filters.filters (search.nextAccepted filters).2.upcoming := by
  fun_induction nextAccepted filters search with
  | case1 search rest drawn =>
    have outcome := next_upcoming sound
    rw [drawn] at outcome
    refine ⟨outcome.1, ?_⟩
    show chosen filters.filters search.upcoming = []
    rw [outcome.2.1]
    rfl
  | case2 search found rest drawn decided =>
    have outcome := next_upcoming sound
    rw [drawn] at outcome
    rw [Chain.decide_eq_verdict] at decided
    refine ⟨outcome.1, ?_⟩
    show chosen filters.filters search.upcoming = found :: chosen filters.filters rest.upcoming
    rw [show search.upcoming = found :: rest.upcoming from outcome.2, chosen_cons, decided]
  | case3 search found rest drawn decided ih =>
    have outcome := next_upcoming sound
    rw [drawn] at outcome
    rw [Chain.decide_eq_verdict] at decided
    rw [show search.upcoming = found :: rest.upcoming from outcome.2, chosen_cons, decided]
    exact ih outcome.1
  | case4 search found rest drawn decided =>
    have outcome := next_upcoming sound
    rw [drawn] at outcome
    rw [Chain.decide_eq_verdict] at decided
    refine ⟨outcome.1, ?_⟩
    show chosen filters.filters search.upcoming = []
    rw [show search.upcoming = found :: rest.upcoming from outcome.2, chosen_cons, decided]

/-- **What a search lets through is what the filters choose among the matches ahead of it.** -/
theorem accepted_eq_chosen (filters : Chain) {search : Search} (sound : search.Sound) :
    search.accepted filters = chosen filters.filters search.upcoming := by
  fun_induction accepted filters search with
  | case1 search rest drawn =>
    have outcome := nextAccepted_chosen filters sound
    rw [drawn] at outcome
    exact outcome.2.symm
  | case2 search found rest drawn ih =>
    have outcome := nextAccepted_chosen filters sound
    rw [drawn] at outcome
    rw [ih outcome.1]
    exact outcome.2.symm

end Search

/-! ## The candidates of a window -/

/-- The minutes from `start` to `stop` that match, those before a demanded year left out. -/
def Pattern.candidates (pattern : Pattern) (year : Option Nat) (start : WallTime)
    (stop : Option WallTime) : List WallTime :=
  (pattern.matchesFrom stop start).filter fun minute =>
    ∀ demanded ∈ year, midnight (Date.ofYear demanded) ≤ minute

theorem Pattern.candidates_ascending (pattern : Pattern) (year : Option Nat) (start : WallTime)
    (stop : Option WallTime) : (pattern.candidates year start stop).Pairwise (· < ·) :=
  (pattern.matchesFrom_ascending stop start).filter _

/-- A minute that is scanned is not before the beginning of a year exactly when it is not before the
reading that stands for it, which is the last of all where no clock shows the year. -/
theorem startOfYear_le_iff {minute : WallTime} (scanned : minute ∈ minutesThrough yearLimit)
    (year : Nat) : startOfYear year ≤ minute ↔ midnight (Date.ofYear year) ≤ minute := by
  rw [startOfYear]
  split_ifs with shown
  · rfl
  · have in_years := ((mem_minutesThrough yearLimit minute).mp scanned).2.2
    have last := (lt_searchStop_iff minute.date).mpr in_years
    have margin := searchStop_lt_yearStart
    have beyond : searchStop ≤ yearStart year := by
      apply yearStart_le_yearStart
      simp only [firstYear, lastYear, yearLimit] at *
      omega
    have := minute.secondOfDay_lt
    rw [WallTime.le_iff, WallTime.le_iff]
    simp only [seconds, latest, midnight, Date.ofYear]
    omega

theorem startOfYear_isWholeMinute {year : Int}
    (searched : (startOfYear year).date.number < searchStop) :
    (startOfYear year).IsWholeMinute := by
  rw [startOfYear] at *
  split_ifs with shown
  · exact midnight_isWholeMinute _
  · have margin := searchStop_lt_yearStart
    rw [if_neg shown] at searched
    simp only [latest] at searched
    omega

namespace Schedule

/-- The search of a new schedule has the candidates of its window ahead. -/
theorem searchFor_spec {pattern : Pattern} (domains : pattern.InDomains) {window : Window}
    (first : yearStart firstYear ≤ window.start.date.number) (year : Option Nat) :
    (searchFor pattern window year).Sound ∧
      (searchFor pattern window year).upcoming =
        pattern.candidates year window.start window.stop := by
  have sound := Search.Sound.ofWindow domains first
  have upcoming := Search.upcoming_ofWindow pattern first
  cases year with
  | none =>
    refine ⟨sound, upcoming.trans ?_⟩
    rw [Pattern.candidates, List.filter_eq_self.mpr]
    intro minute _
    exact decide_eq_true nofun
  | some year =>
    refine ⟨sound.skipTo startOfYear_isWholeMinute, ?_⟩
    rw [searchFor, Search.upcoming_skipTo, upcoming, Pattern.candidates]
    apply List.filter_congr
    intro minute member
    have scanned := ((Pattern.mem_matchesFrom _ _ _ _).mp member).1
    rw [decide_eq_decide, startOfYear_le_iff scanned]
    constructor
    · intro after demanded same
      cases same
      exact after
    · exact fun after => after year rfl

end Schedule

end Timetable
