import PenPlotter.Proofs.Shop.Clock
import PenPlotter.Proofs.Shop.Followed

/-! When the looks at an operation are taken. The first is due when the operation is accepted, and as long as each look
asks for the next one after the same time, and nothing but the schedule moves the clock, they come one period after
the other, whatever else is waiting. -/

namespace PenPlotter.Shop

variable {access : Access} {μ δ χ : Type} [Motor μ] [Display δ]

section Queued

variable {shop after : Shop access μ δ χ} {event : Event access μ δ χ} {n : Nat} {task : Task (Job access μ δ χ)}
variable {errand : Errand (Ticket access μ δ χ)}

/-- An operation that no look is taken at in an event has no other task after it than before. -/
theorem unlooked_waits (accepted : n < shop.books.accepted) (made : shop.next event = .ok after)
    (other : ∀ look, after.books.looks = look :: shop.books.looks → look.number ≠ n)
    (inside : task ∈ after.schedule.queue) (acts : task.action = .errand errand) (number : errand.next.number = n) :
    task ∈ shop.waiting event := by
  rcases asked_next made inside acts with before | ⟨_,_,_,_,_,⟨fresh,_⟩ | ⟨look,_,looked,_,_,next⟩⟩
  · exact before
  · omega
  · exact absurd ((congrArg Ticket.number next).symm.trans number) (other look looked)

/-- An operation that a look is taken at has no other task after it than the one that the look has asked for. -/
theorem looked_asks (sound : shop.books.Sound) (accepted : n < shop.books.accepted) (made : shop.next event = .ok after)
    {look : Look access μ δ χ} (latest : after.books.looks = look :: shop.books.looks) (looked : look.number = n)
    (inside : task ∈ after.schedule.queue) (acts : task.action = .errand errand) (number : errand.next.number = n) :
    ∃ asked delay p', look.now ≤ asked ∧ asked ≤ after.schedule.now ∧ task.due = .after asked delay ∧
      look.result = .ok (.again delay errand.operation) p' := by
  obtain ⟨head,rest,first,rfl,acting,instant⟩ := look_next made latest
  rcases asked_next made inside acts with before | ⟨asked,delay,early,late,due,⟨fresh,_⟩ | ⟨other,p',again,_,result,_⟩⟩
  · -- The operation has only the one task at which the look was taken.
    have alone := List.count_eq_zero.mp (sound.waits (errands_first first acting)).2.2
    rw [waiting_turn first] at before
    refine absurd (List.mem_map.mpr ⟨errand,List.mem_filterMap.mpr ⟨task,before,?_⟩,?_⟩) alone
    · rw [acts]
      rfl
    · rw [number,looked]
  · omega
  · obtain ⟨rfl,_⟩ := List.cons.inj (latest.symm.trans again)
    exact ⟨asked,delay,p',instant ▸ early,late,due,result⟩

end Queued

/-- The looks at an operation are taken one period after the other, and the next one is due a period after the last. -/
structure Timed (n start period : Nat) (shop : Shop access μ δ χ) : Prop where
  looks : ∀ k look, (shop.books.looksAt n)[k]? = some look → look.now = start + k * period
  waits : ∀ task ∈ shop.schedule.queue, ∀ errand, task.action = .errand errand → errand.next.number = n →
    task.due.start shop.schedule.now = start + (shop.books.looksAt n).length * period

section Timed

variable {shop after : Shop access μ δ χ} {event : Event access μ δ χ} {n start period : Nat}

omit [Motor μ] [Display δ] in
/-- A task that is left where it is keeps its instant. -/
theorem Timed.kept (timed : shop.Timed n start period) (sorted : shop.schedule.queue.Pairwise Task.precedes)
    (punctual : after.schedule.now = shop.instant event) {task : Task (Job access μ δ χ)}
    (inside : task ∈ shop.waiting event) {errand : Errand (Ticket access μ δ χ)} (acts : task.action = .errand errand)
    (number : errand.next.number = n) :
    task.due.start after.schedule.now = start + (shop.books.looksAt n).length * period := by
  rw [punctual,start_instant sorted inside]
  exact timed.waits task (mem_waiting inside) errand acts number

/-- A look at another operation or none leaves the looks at this one in time. -/
theorem Timed.elsewhere (timed : shop.Timed n start period) (sorted : shop.schedule.queue.Pairwise Task.precedes)
    (accepted : n < shop.books.accepted) (made : shop.next event = .ok after)
    (punctual : after.schedule.now = shop.instant event) (same : after.books.looksAt n = shop.books.looksAt n)
    (other : ∀ look, after.books.looks = look :: shop.books.looks → look.number ≠ n) :
    after.Timed n start period where
  looks := by
    rw [same]
    exact timed.looks
  waits := by
    intro task inside errand acts number
    rw [same]
    exact timed.kept sorted punctual (unlooked_waits accepted made other inside acts number) acts number

/-- A look at the operation comes in time and puts off the next one by a period. -/
theorem Timed.looked (timed : shop.Timed n start period) (sound : shop.books.Sound)
    (accepted : n < shop.books.accepted) (made : shop.next event = .ok after)
    (punctual : after.schedule.now = shop.instant event) {look : Look access μ δ χ}
    (latest : after.books.looks = look :: shop.books.looks) (number : look.number = n)
    (regular : ∀ delay operation p', look.result = .ok (.again delay operation) p' → delay = period) :
    after.Timed n start period := by
  obtain ⟨head,rest,first,rfl,acts,instant⟩ := look_next made latest
  have here : look.now = start + (shop.books.looksAt n).length * period := by
    rw [instant,instant_turn first]
    exact timed.waits head (by rw [first]; exact List.mem_cons_self) look.errand acts number
  have grown : after.books.looksAt n = shop.books.looksAt n ++ [look] := by
    rw [Books.looksAt_cons latest,if_pos number]
  constructor
  · intro k other at_
    rw [grown] at at_
    rcases Nat.lt_or_ge k (shop.books.looksAt n).length with earlier | late
    · rw [List.getElem?_append_left earlier] at at_
      exact timed.looks k other at_
    · rw [List.getElem?_append_right late] at at_
      obtain ⟨none,same⟩ := List.getElem?_eq_some_iff.mp at_
      have last : k = (shop.books.looksAt n).length := by simp at none; omega
      rw [last,← here]
      simp [last] at same
      rw [same]
  · intro task inside errand acting its
    rw [grown,List.length_append,List.length_singleton,Nat.add_one_mul,← Nat.add_assoc,← here]
    obtain ⟨asked,delay,p',early,late,due,result⟩ := looked_asks sound accepted made latest number inside acting its
    obtain rfl : asked = look.now := by omega
    rw [due,punctual,← instant,Due.start_of_after,regular delay errand.operation p' result]

/-- An event keeps the looks at an operation in time. -/
theorem Timed.next (timed : shop.Timed n start period) (sound : shop.books.Sound)
    (sorted : shop.schedule.queue.Pairwise Task.precedes) (accepted : n < shop.books.accepted)
    (made : shop.next event = .ok after) (punctual : after.schedule.now = shop.instant event)
    (regular : ∀ look ∈ after.books.looksAt n, ∀ delay operation p',
      look.result = .ok (.again delay operation) p' → delay = period) : after.Timed n start period := by
  rcases (books_next made).looks with same | ⟨look,latest⟩
  · refine timed.elsewhere sorted accepted made punctual (by simp only [Books.looksAt,same]) fun look looked => ?_
    rw [same] at looked
    exact absurd (congrArg List.length looked) (by simp)
  by_cases number : look.number = n
  · refine timed.looked sound accepted made punctual latest number (regular look ?_)
    rw [Books.mem_looksAt,latest]
    exact ⟨List.mem_cons_self,number⟩
  · refine timed.elsewhere sorted accepted made punctual ?_ fun other looked => ?_
    · rw [Books.looksAt_cons latest,if_neg number,List.append_nil]
    · obtain ⟨rfl,_⟩ := List.cons.inj (latest.symm.trans looked)
      exact number

/-- Looks are taken only at operations that were accepted before. -/
theorem looked_accepted (sound : shop.books.Sound) (made : shop.next event = .ok after) :
    ∀ look ∈ after.books.looks, look.number < shop.books.accepted := by
  intro look inside
  rcases (books_next made).looks with same | ⟨latest,looked⟩
  · exact sound.past look (same ▸ inside)
  · rw [looked] at inside
    rcases List.mem_cons.mp inside with rfl | earlier
    · obtain ⟨head,rest,first,_,acts,_⟩ := look_next made looked
      exact (sound.waits (errands_first first acts)).1
    · exact sound.past look earlier

theorem unseen_accepted (sound : shop.books.Sound) (fresh : shop.books.accepted ≤ n)
    (made : shop.next event = .ok after) : after.books.looksAt n = [] := by
  refine List.eq_nil_iff_forall_not_mem.mpr fun look inside => ?_
  obtain ⟨seen,number⟩ := Books.mem_looksAt.mp inside
  have before := looked_accepted sound made look seen
  omega

/-- An operation that has just been accepted is due at once. -/
theorem timed_accepted (sound : shop.books.Sound) (fresh : shop.books.accepted ≤ n)
    (made : shop.next event = .ok after) (punctual : after.schedule.now = shop.instant event) (period : Nat) :
    after.books.looksAt n = [] ∧ after.Timed n after.schedule.now period := by
  have unseen := unseen_accepted sound fresh made
  refine ⟨unseen,fun k look at_ => by simp [unseen] at at_,?_⟩
  intro task inside errand acts number
  rw [unseen,List.length_nil,Nat.zero_mul,Nat.add_zero]
  cases origin_next made punctual inside acts with
  | kept before waits acts' _ =>
    -- It had no task before it was accepted.
    have queued : errand ∈ shop.books.errands := mem_errands.mpr ⟨before,mem_waiting waits,acts'⟩
    have accepted := (sound.queued_iff.mp ⟨errand,queued,number⟩).1
    omega
  | accepted _ due =>
    rw [due]
    rfl
  | again look _ _ looked _ _ next _ =>
    have before := looked_accepted sound made look (by rw [looked]; exact List.mem_cons_self)
    have same : look.number = n := (congrArg Ticket.number next).symm.trans number
    omega

end Timed

end PenPlotter.Shop
