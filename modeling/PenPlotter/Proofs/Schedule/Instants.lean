import PenPlotter.Proofs.Schedule.Timing

/-! The instants at which the tasks of a run start. The clock is never set back, so that they are in order; if few
tasks start at any one of them, a task that comes many turns later starts at a later instant. -/

namespace PenPlotter

/-- In a sorted row that holds no number more than a few times, what stands that much further on is greater. -/
theorem lt_of_count_le {row : List Nat} {few i j : Nat} (sorted : row.Pairwise (· ≤ ·))
    (rare : ∀ n, row.count n ≤ few) (far : i + few ≤ j) (inside : j < row.length) :
    row[i] < row[j] := by
  have before : i < row.length := by omega
  have ordered {a b : Nat} (inner : b < row.length) (le : a ≤ b) : row[a] ≤ row[b] := by
    rcases Nat.eq_or_lt_of_le le with rfl | lt
    · exact Nat.le_refl _
    · exact List.pairwise_iff_getElem.mp sorted a b (by omega) inner lt
  refine Nat.lt_of_le_of_ne (ordered inside (by omega)) fun same => ?_
  -- Otherwise all that stands between the two is the same number.
  have between : (row.drop i).take (j - i + 1) = List.replicate (j - i + 1) row[i] := by
    refine List.eq_replicate_iff.mpr ⟨by simp; omega,fun n found => ?_⟩
    obtain ⟨k,short,rfl⟩ := List.getElem_of_mem found
    simp only [List.length_take,List.length_drop] at short
    simp only [List.getElem_take,List.getElem_drop]
    have lower := ordered (a := i) (b := i + k) (by omega) (by omega)
    have upper := ordered (a := i + k) (b := j) inside (by omega)
    omega
  have held := ((List.take_sublist (j - i + 1) _).trans (List.drop_sublist i row)).count_le row[i]
  rw [between,List.count_replicate_self] at held
  have most := rare row[i]
  omega

namespace Schedule

theorem now_le_applyAll (s : Schedule α) (requests : List (Request α)) : s.now ≤ (s.applyAll requests).now := by
  rw [applyAll_eq]
  generalize s.now = now
  induction requests generalizing now with
  | nil => exact Nat.le_refl _
  | cons request requests ih =>
    cases request with
    | submit => exact ih now
    | spend time => exact Nat.le_trans (Nat.le_add_right now time) (ih _)

end Schedule

namespace Behaviour

variable {b : Behaviour ε α γ} {fuel : Nat} {s s' : Schedule α} {context context' : γ}

/-- The instants at which the tasks of a run start, but no more than a number of them. -/
def instants (b : Behaviour ε α γ) : Nat → Schedule α → γ → List Nat
  | 0, _, _ => []
  | fuel + 1, s, context =>
    match s.queue with
    | [] => []
    | task :: _ =>
      task.due.start s.now ::
        match b.step s context with
        | .continued s context => b.instants fuel s context
        | .idle .. | .failed .. => []

/-- A task that has started leaves the clock no earlier than it has started. -/
theorem start_le_of_continued {task : Task α} {rest : List (Task α)} (first : s.queue = task :: rest)
    (went : b.step s context = .continued s' context') : task.due.start s.now ≤ s'.now := by
  rw [b.step_taken context first] at went
  simp only at went
  split at went
  · cases went
  · cases went
    exact (s.taken task rest).now_le_applyAll _

theorem le_instants (fuel : Nat) (s : Schedule α) (context : γ) :
    ∀ instant ∈ b.instants fuel s context, s.now ≤ instant := by
  induction fuel generalizing s context with
  | zero => nofun
  | succ fuel ih =>
    intro instant found
    unfold instants at found
    cases first : s.queue with
    | nil => simp [first] at found
    | cons task rest =>
      simp only [first,List.mem_cons] at found
      have started := task.due.le_start s.now
      rcases found with rfl | later
      · exact started
      cases step : b.step s context with
      | continued s' context' =>
        simp only [step] at later
        have went := start_le_of_continued first step
        exact Nat.le_trans started (Nat.le_trans went (ih s' context' instant later))
      | idle | failed => simp [step] at later

theorem instants_sorted (fuel : Nat) (s : Schedule α) (context : γ) :
    (b.instants fuel s context).Pairwise (· ≤ ·) := by
  induction fuel generalizing s context with
  | zero => exact .nil
  | succ fuel ih =>
    unfold instants
    cases first : s.queue with
    | nil => exact .nil
    | cons task rest =>
      refine List.pairwise_cons.mpr ?_
      cases step : b.step s context with
      | continued s' context' =>
        refine ⟨fun instant later => ?_,ih s' context'⟩
        exact Nat.le_trans (start_le_of_continued first step) (le_instants fuel s' context' instant later)
      | idle | failed => exact ⟨nofun,.nil⟩

/-- A run that is not over has started as many tasks as it may. -/
theorem length_instants (ran : b.run fuel s context = .unfinished s' context') :
    (b.instants fuel s context).length = fuel := by
  induction fuel generalizing s context with
  | zero => rfl
  | succ fuel ih =>
    unfold run at ran
    unfold instants
    cases first : s.queue with
    | nil =>
      rw [b.step_idle context first] at ran
      cases ran
    | cons task rest =>
      cases step : b.step s context with
      | continued => simp only [step] at ran ⊢; exact congrArg (· + 1) (ih ran)
      | idle | failed => simp only [step] at ran; cases ran

end Behaviour
end PenPlotter
