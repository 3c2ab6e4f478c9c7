import Timetable.Proofs.Choice

/-!
# The first refusal

A chain asks its filters in order and stops at the first that does not accept.  What a filter says
may depend on what was asked before, and to ask it may change what others say later, so it matters
which filters are asked, how often and in which order.  A decision is come to (`Concludes`) when
all have accepted and none is left, or when the last that was asked is the only one to refuse.

Filters with effects are those that read and change a state; one that stands in several places, or
in several chains, reads and changes the same state in all of them.  The filters that are asked
are the beginning of the list at which a decision is come to.  Each is asked once and in its order,
and the state they leave is the state that the whole list leaves (`run_firstRefusal`).  To ask one
list and then another is to ask the first, and the second only where the first accepts
(`firstRefusal_append`).

A plain filter that writes down its place is a filter with effects, so the same holds of the places
that a chain of plain filters writes down (`Chain.trace_spec`).
-/

namespace Timetable

set_option autoImplicit false

/-! ## Decisions -/

/-- How a decision is come to by what was said, while `others` were not asked. -/
inductive Concludes {α : Type} (others : List α) : List Decision → Decision → Prop where
  /-- All have accepted, and no other is left. -/
  | accepted {said : List Decision} (all : ∀ decision ∈ said, decision = .accept)
      (none_left : others = []) : Concludes others said .accept
  /-- All have accepted but the last. -/
  | refused {said : List Decision} {refusal : Decision}
      (before : ∀ decision ∈ said, decision = .accept) (refuses : refusal ≠ .accept) :
      Concludes others (said ++ [refusal]) refusal

namespace Concludes

variable {α β : Type} {others : List α} {said : List Decision} {decision : Decision}

/-- One more in front that accepts makes no difference. -/
theorem cons_accept (concludes : Concludes others said decision) :
    Concludes others (.accept :: said) decision := by
  cases concludes with
  | accepted all none_left =>
    exact .accepted (List.forall_mem_cons.mpr ⟨rfl, all⟩) none_left
  | refused before refuses =>
    exact .refused (List.forall_mem_cons.mpr ⟨rfl, before⟩) refuses

theorem map (concludes : Concludes others said decision) (f : α → β) :
    Concludes (others.map f) said decision := by
  cases concludes with
  | accepted all none_left => exact .accepted all (List.map_eq_nil_iff.mpr none_left)
  | refused before refuses => exact .refused before refuses

end Concludes

/-! ## Effects of any kind -/

section Effects

variable {m : Type → Type} [Monad m]

/-- **Of two lists of filters the second is asked where the first accepts, and only there.** -/
theorem firstRefusal_append [LawfulMonad m] (first second : List (m Decision)) :
    firstRefusal (first ++ second) =
      firstRefusal first >>= fun decision =>
        if decision = .accept then firstRefusal second else pure decision := by
  induction first with
  | nil =>
    rw [firstRefusal, pure_bind, if_pos rfl]
    rfl
  | cons filter others ih =>
    rw [List.cons_append, firstRefusal_cons, firstRefusal_cons, ih, bind_assoc]
    congr 1
    funext decision
    by_cases accepts : decision = .accept
    · rw [if_pos accepts, if_pos accepts]
    · rw [if_neg accepts, if_neg accepts, pure_bind, if_neg accepts]

end Effects

/-! ## Filters that read and change a state -/

/-- A filter that may read a state and change it when it is asked. -/
abbrev StatefulFilter (σ : Type) := WallTime → StateM σ Decision

/-- To ask a filter about a candidate. -/
def StatefulFilter.ask {σ : Type} (time : WallTime) (filter : StatefulFilter σ) :
    StateM σ Decision := filter time

section State

variable {α σ : Type} {ask : α → StateM σ Decision} {filter : α} {state behind later : σ}
  {decision : Decision} {said : List Decision}

/-- To ask filters regardless of what they say is to ask the first and then the others. -/
theorem run_mapM_cons {filters : List α} (answer : (ask filter).run state = (decision, behind))
    (answers : (filters.mapM ask).run behind = (said, later)) :
    ((filter :: filters).mapM ask).run state = (decision :: said, later) := by
  rw [List.mapM_cons, StateT.run_bind, answer]
  show (filters.mapM ask >>= fun others => pure (decision :: others)).run behind = _
  rw [StateT.run_bind, answers]
  rfl

/-- The first filter is asked in the state that is there, and the others in the state it leaves. -/
theorem run_firstRefusal_cons (answer : (ask filter).run state = (decision, behind))
    (filters : List α) :
    (firstRefusal ((filter :: filters).map ask)).run state =
      if decision = .accept then (firstRefusal (filters.map ask)).run behind
      else (decision, behind) := by
  rw [List.map_cons, firstRefusal_cons, StateT.run_bind, answer]
  show (if decision = .accept then firstRefusal (filters.map ask) else pure decision).run behind = _
  split_ifs <;> rfl

/-- **The filters asked are a beginning of the list, each asked once and in order, at which a
decision is come to**; nothing else is done to the state. -/
theorem run_firstRefusal (ask : α → StateM σ Decision) (filters : List α) (state : σ) :
    ∃ asked others said decision later, filters = asked ++ others ∧
      (asked.mapM ask).run state = (said, later) ∧ Concludes others said decision ∧
        (firstRefusal (filters.map ask)).run state = (decision, later) := by
  induction filters generalizing state with
  | nil =>
    exact ⟨[], [], [], .accept, state, rfl, rfl, .accepted (List.forall_mem_nil _) rfl, rfl⟩
  | cons filter filters ih =>
    rcases answer : (ask filter).run state with ⟨decision, behind⟩
    rw [run_firstRefusal_cons answer]
    by_cases accepts : decision = .accept
    · obtain ⟨asked, others, said, last, later, rfl, answers, concludes, outcome⟩ := ih behind
      rw [if_pos accepts]
      refine ⟨filter :: asked, others, decision :: said, last, later, rfl,
        run_mapM_cons answer answers, ?_, outcome⟩
      rw [accepts]
      exact concludes.cons_accept
    · rw [if_neg accepts]
      have alone : Concludes filters ([] ++ [decision]) decision :=
        .refused (List.forall_mem_nil _) accepts
      exact ⟨[filter], filters, [decision], decision, behind, rfl, run_mapM_cons answer rfl, alone,
        rfl⟩

end State

/-! ## Chains of plain filters -/

namespace Chain

/-- The chain to which filters are pushed one after the other, each new or from another chain. -/
def ofList (filters : List Filter) : Chain := filters.foldl push empty

theorem filters_foldl_push (chain : Chain) (filters : List Filter) :
    (filters.foldl push chain).filters = chain.filters ++ filters := by
  induction filters generalizing chain with
  | nil => exact (List.append_nil _).symm
  | cons filter others ih =>
    rw [List.foldl_cons, ih, push, List.append_assoc]
    rfl

/-- Filters are in a chain in the order in which they were pushed. -/
theorem filters_ofList (filters : List Filter) : (ofList filters).filters = filters :=
  filters_foldl_push empty filters

/-- A filter with its place, which it writes down when it is asked. -/
def askAt (time : WallTime) (entry : Filter × Nat) : StateM (List Nat) Decision :=
  traced time entry.1 entry.2

theorem trace_eq (chain : Chain) (time : WallTime) :
    chain.trace time = (firstRefusal (chain.filters.zipIdx.map (askAt time))).run [] := by
  rw [trace, List.mapIdx_eq_zipIdx_map]
  rfl

/-- Filters that are asked regardless say what they would say without writing down their places. -/
theorem run_mapM_askAt (time : WallTime) (entries : List (Filter × Nat)) (written : List Nat) :
    (entries.mapM (askAt time)).run written =
      (entries.map fun entry => entry.1 time, written ++ entries.map Prod.snd) := by
  induction entries generalizing written with
  | nil =>
    rw [List.map_nil, List.map_nil, List.append_nil]
    rfl
  | cons entry others ih =>
    have answer : (askAt time entry).run written = (entry.1 time, written ++ [entry.2]) := rfl
    rw [run_mapM_cons answer (ih _), List.append_assoc]
    rfl

theorem fst_run_firstRefusal_askAt (time : WallTime) (entries : List (Filter × Nat))
    (written : List Nat) :
    ((firstRefusal (entries.map (askAt time))).run written).1 =
      verdict (entries.map Prod.fst) time := by
  induction entries generalizing written with
  | nil => rfl
  | cons entry others ih =>
    have answer : (askAt time entry).run written = (entry.1 time, written ++ [entry.2]) := rfl
    rw [run_firstRefusal_cons answer, List.map_cons, verdict_cons]
    split_ifs
    · exact ih _
    · rfl

/-- To write down the places makes no difference to the decision. -/
theorem fst_trace (chain : Chain) (time : WallTime) :
    (chain.trace time).1 = chain.decide time := by
  rw [trace_eq, fst_run_firstRefusal_askAt, List.zipIdx_map_fst, decide_eq_verdict]

/-- The places of a beginning of a list are the first numbers. -/
theorem places_eq_range {filters : List Filter} {asked others : List (Filter × Nat)}
    (entries : filters.zipIdx = asked ++ others) :
    asked.map Prod.snd = List.range asked.length := by
  have all : List.range' 0 filters.length = asked.map Prod.snd ++ others.map Prod.snd := by
    rw [← List.zipIdx_map_snd, entries, List.map_append]
  have length : filters.length = asked.length + others.length := by
    rw [← List.length_append, ← entries, List.length_zipIdx]
  rw [length, ← List.range'_append_1] at all
  have same_length : (List.range' 0 asked.length).length = (asked.map Prod.snd).length := by
    rw [List.length_range', List.length_map]
  rw [List.range_eq_range', List.append_inj_left all same_length]

/-- **A chain writes down the places of its filters up to the one at which the decision is come
to.** -/
theorem trace_spec (chain : Chain) (time : WallTime) :
    ∃ asked others, chain.filters = asked ++ others ∧
      Concludes others (asked.map (· time)) (chain.decide time) ∧
        chain.trace time = (chain.decide time, List.range asked.length) := by
  obtain ⟨asked, others, said, decision, later, entries, answers, concludes, outcome⟩ :=
    run_firstRefusal (askAt time) chain.filters.zipIdx []
  rw [← trace_eq] at outcome
  have decided : chain.decide time = decision := by
    rw [← fst_trace, outcome]
  rw [run_mapM_askAt, List.nil_append, places_eq_range entries] at answers
  cases answers
  refine ⟨asked.map Prod.fst, others.map Prod.fst, ?_, ?_, ?_⟩
  · rw [← List.map_append, ← entries, List.zipIdx_map_fst]
  · rw [decided, List.map_map]
    exact concludes.map Prod.fst
  · rw [decided, List.length_map, outcome]

/-- **A chain says what the first of its filters says that refuses, and asks those up to that one,
each once and in order.  Of two chains in one the second decides, and is asked, where the first
accepts and nowhere else.**  The first two parts are about plain filters that are pushed one after
the other, the last two about filters with any effects on a state. -/
theorem asks_until_refusal (time : WallTime) :
    (∀ filters : List Filter, ∃ asked others, filters = asked ++ others ∧
      Concludes others (asked.map (· time)) ((ofList filters).decide time) ∧
        (ofList filters).trace time =
          ((ofList filters).decide time, List.range asked.length)) ∧
    (∀ first second : List Filter, (ofList (first ++ second)).decide time =
      if (ofList first).decide time = .accept then (ofList second).decide time
      else (ofList first).decide time) ∧
    ∀ σ : Type,
      (∀ (filters : List (StatefulFilter σ)) (state : σ), ∃ asked others said decision later,
        filters = asked ++ others ∧
          (asked.mapM (StatefulFilter.ask time)).run state = (said, later) ∧
            Concludes others said decision ∧
              (firstRefusal (filters.map (StatefulFilter.ask time))).run state =
                (decision, later)) ∧
      ∀ first second : List (StatefulFilter σ),
        firstRefusal ((first ++ second).map (StatefulFilter.ask time)) =
          firstRefusal (first.map (StatefulFilter.ask time)) >>= fun decision =>
            if decision = .accept then firstRefusal (second.map (StatefulFilter.ask time))
            else pure decision := by
  refine ⟨fun filters => ?_, fun first second => ?_, fun σ => ⟨fun filters state => ?_, ?_⟩⟩
  · have spec := trace_spec (ofList filters) time
    rwa [filters_ofList] at spec
  · simp only [decide_eq_verdict, filters_ofList, verdict_append]
  · exact run_firstRefusal (StatefulFilter.ask time) filters state
  · intro first second
    rw [List.map_append, firstRefusal_append]

/-- The order decides between two that refuse. -/
example : (ofList [Filter.ofYear (some 2020), .always .reject]).trace (.midnight (.ofYear 2021)) =
    (.terminate, [0]) := rfl

end Chain

end Timetable
