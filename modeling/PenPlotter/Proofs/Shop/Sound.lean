import PenPlotter.Proofs.Shop.Step

/-! What the books of a shop always agree on. An operation has a task waiting as long as its last look
goes on, its callback was called if its last look has completed it, and a waiting homing pass is where
the stalls that its own looks have seen have brought it. -/

namespace PenPlotter.Shop

variable {access : Access} {μ δ χ : Type}

namespace Books

def tasks (b : Books access μ δ χ) (n : Nat) : Nat :=
  (b.errands.map fun errand => errand.next.number).count n

def last? (b : Books access μ δ χ) (n : Nat) : Option (Look access μ δ χ) :=
  b.looks.find? fun look => look.number = n

theorem last?_eq_some {b : Books access μ δ χ} {n : Nat} {look : Look access μ δ χ}
    (latest : b.last? n = some look) :
    look ∈ b.looks ∧ look.number = n :=
  ⟨List.mem_of_find?_eq_some latest,by simpa using List.find?_some latest⟩

/-- An operation has a task if one of the errands that wait is of it. -/
theorem tasks_pos_iff {b : Books access μ δ χ} {n : Nat} :
    0 < b.tasks n ↔ ∃ errand ∈ b.errands, errand.next.number = n := by
  rw [tasks,List.count_pos_iff,List.mem_map]

theorem Adds.tasks {before after : Books access μ δ χ} {new : Errands access μ δ χ}
    (adds : before.Adds new after) (n : Nat) :
    after.tasks n = before.tasks n +
      if before.accepted ≤ n ∧ n < before.accepted + new.length then 1 else 0 := by
  have numbers : (new.map fun errand => errand.next.number).count n =
      if before.accepted ≤ n ∧ n < before.accepted + new.length then 1 else 0 := by
    rw [adds.numbers,List.Nodup.count (List.nodup_range')]
    simp [List.mem_range'_1]
  unfold Books.tasks
  rw [(adds.errands.map _).count_eq,List.map_append,List.count_append,numbers]

theorem tasks_queued {b : Books access μ δ χ} {waiting : Errands access μ δ χ}
    {look : Look access μ δ χ} (queued : b.errands.Perm (look.errand :: waiting)) (n : Nat) :
    b.tasks n = (waiting.map fun errand => errand.next.number).count n + if look.number = n then 1 else 0 := by
  unfold tasks
  rw [(queued.map _).count_eq,List.map_cons,List.count_cons]
  simp only [beq_iff_eq]
  rfl

variable [Motor μ] [Display δ]

/-- What was read at the stalls that the looks at an operation have found, in order. -/
def readings (b : Books access μ δ χ) (n : Nat) : List (Homing.Leg × Raw) :=
  (b.looks.filter fun look => look.number = n).reverse.filterMap Look.reading?

structure Sound (b : Books access μ δ χ) : Prop where
  tasks : ∀ n, b.tasks n = if n < b.accepted ∧ (b.last? n).all fun look => look.next?.isSome then 1 else 0
  calls : ∀ n, b.calls.count n = if (b.last? n).any fun look => look.completion?.isSome then 1 else 0
  past : ∀ look ∈ b.looks, look.number < b.accepted
  fits : ∀ errand ∈ b.errands, Fits (b.readings errand.next.number) errand
  seen : ∀ look ∈ b.looks, (∃ readings, Fits readings look.errand) ∧
    ∀ reason p', look.result = .error reason p' → reason.OfDevice

variable {before after : Books access μ δ χ} {new waiting : Errands access μ δ χ}

theorem Sound.last?_new (sound : before.Sound) {n : Nat} (fresh : before.accepted ≤ n) :
    before.last? n = none := by
  refine List.find?_eq_none.mpr ?_
  intro look inside same
  have past := sound.past look inside
  simp only [decide_eq_true_eq] at same
  omega

theorem Sound.readings_new (sound : before.Sound) {n : Nat} (fresh : before.accepted ≤ n) :
    before.readings n = [] := by
  have none : before.looks.filter (fun look => look.number = n) = [] := by
    refine List.filter_eq_nil_iff.mpr ?_
    intro look inside same
    have past := sound.past look inside
    simp only [decide_eq_true_eq] at same
    omega
  simp [readings,none]

theorem Sound.added (sound : before.Sound) (adds : before.Adds new after) : after.Sound where
  tasks n := by
    have last : after.last? n = before.last? n := by simp [last?,adds.looks]
    rw [adds.tasks,sound.tasks,adds.accepted,last]
    by_cases fresh : before.accepted ≤ n
    · simp [sound.last?_new fresh,fresh,Nat.not_lt_of_le fresh]
    · have known : n < before.accepted := by omega
      have still : n < before.accepted + new.length := by omega
      simp [fresh,known,still]
  calls n := by
    have last : after.last? n = before.last? n := by simp [last?,adds.looks]
    rw [adds.calls,last]
    exact sound.calls n
  past := by
    rw [adds.looks,adds.accepted]
    exact fun look inside => Nat.lt_of_lt_of_le (sound.past look inside) (Nat.le_add_right ..)
  fits := by
    intro errand inside
    have readings : after.readings errand.next.number = before.readings errand.next.number := by
      simp [readings,adds.looks]
    rw [readings]
    rcases List.mem_append.mp (adds.errands.mem_iff.mp inside) with known | fresh
    · exact sound.fits errand known
    · have number : errand.next.number ∈ List.range' before.accepted new.length := by
        rw [← adds.numbers]
        exact List.mem_map_of_mem fresh
      rw [sound.readings_new (List.mem_range'_1.mp number).1]
      exact adds.fits errand fresh
  seen := by
    rw [adds.looks]
    exact sound.seen

/-- The operations that wait are those that were accepted and that their last look has let go on. -/
theorem Sound.queued_iff (sound : before.Sound) {n : Nat} :
    (∃ errand ∈ before.errands, errand.next.number = n) ↔
      n < before.accepted ∧ (before.last? n).all (fun look => look.next?.isSome) = true := by
  rw [← tasks_pos_iff,sound.tasks]
  split
  next going => exact iff_of_true Nat.one_pos going
  next absent => exact iff_of_false (Nat.lt_irrefl 0) absent

/-- The operations whose callback was called are those that their last look has completed. -/
theorem Sound.called_iff (sound : before.Sound) {n : Nat} :
    before.calls.count n = 1 ↔ ∃ look, before.last? n = some look ∧ look.completion?.isSome = true := by
  rw [sound.calls]
  cases before.last? n <;> simp [Option.isSome_iff_ne_none]

/-- An operation that a look is taken at was accepted, goes on and has no other task. -/
theorem Sound.waits (sound : before.Sound) {look : Look access μ δ χ}
    (queued : before.errands.Perm (look.errand :: waiting)) :
    look.number < before.accepted ∧ (before.last? look.number).all (fun look => look.next?.isSome) ∧
      (waiting.map fun errand => errand.next.number).count look.number = 0 := by
  have queue := tasks_queued queued look.number
  have tasks := sound.tasks look.number
  split at tasks
  next going => exact ⟨going.1,going.2,by simp at queue; omega⟩
  next absent => simp at queue; omega

/-- No two errands that wait belong to one operation. -/
theorem Sound.alone (sound : before.Sound) {errand other : Errand (Ticket access μ δ χ)}
    (one : errand ∈ before.errands) (two : other ∈ before.errands)
    (same : errand.next.number = other.next.number) : errand = other := by
  have tasks : before.tasks other.next.number ≤ 1 := by
    rw [sound.tasks]
    split <;> omega
  obtain ⟨earlier,later,split⟩ := List.append_of_mem two
  simp only [Books.tasks,split,List.map_append,List.map_cons,List.count_append,List.count_cons_self] at tasks
  have counted {errands : Errands access μ δ χ} (inside : errand ∈ errands) :
      0 < (errands.map fun errand => errand.next.number).count other.next.number :=
    List.count_pos_iff.mpr (List.mem_map.mpr ⟨errand,inside,same⟩)
  rw [split] at one
  rcases List.mem_append.mp one with inside | inside
  · have := counted inside
    omega
  rcases List.mem_cons.mp inside with rfl | inside
  · rfl
  · have := counted inside
    omega

theorem readings_took (b : Books access μ δ χ) (look : Look access μ δ χ) (n : Nat) :
    (b.took look waiting).readings n =
      b.readings n ++ if look.number = n then look.reading?.toList else [] := by
  unfold readings Books.took
  by_cases same : look.number = n
  · cases read : look.reading? <;> simp [same,read,List.filterMap_append]
  · simp [same]

theorem last?_took (b : Books access μ δ χ) (look : Look access μ δ χ) (n : Nat) :
    (b.took look waiting).last? n = if look.number = n then some look else b.last? n := by
  simp only [last?,Books.took,List.find?_cons]
  split <;> simp_all

theorem tasks_took (b : Books access μ δ χ) (look : Look access μ δ χ) (n : Nat) :
    (b.took look waiting).tasks n = (waiting.map fun errand => errand.next.number).count n +
      if look.number = n ∧ look.next?.isSome then 1 else 0 := by
  have goes : (look.next?.toList.map fun errand => errand.next.number).count n =
      if look.number = n ∧ look.next?.isSome then 1 else 0 := by
    cases next : look.next? with
    | none => simp
    | some errand =>
      by_cases same : look.number = n <;> simp [Look.number_of_next? next,same]
  simp [Books.tasks,Books.took,goes]

theorem calls_took (b : Books access μ δ χ) (look : Look access μ δ χ) (n : Nat) :
    (b.took look waiting).calls.count n =
      b.calls.count n + if look.number = n ∧ look.completion?.isSome then 1 else 0 := by
  cases done : look.completion? with
  | none => simp [Books.took,done]
  | some completion =>
    by_cases same : look.number = n <;> simp [Books.took,done,same]

theorem Sound.took (sound : before.Sound) {look : Look access μ δ χ}
    (queued : before.errands.Perm (look.errand :: waiting))
    (broken : ∀ reason p', look.result = .error reason p' → reason.OfDevice) :
    (before.took look waiting).Sound := by
  obtain ⟨accepted,going,alone⟩ := sound.waits queued
  have known : Fits (before.readings look.number) look.errand :=
    sound.fits look.errand (queued.mem_iff.mpr (by simp))
  constructor
  case tasks =>
    intro n
    rw [tasks_took,last?_took]
    by_cases same : look.number = n
    · subst same
      simp [alone,Books.took,accepted]
    · have queue := tasks_queued queued n
      rw [sound.tasks n] at queue
      simpa [same,Books.took] using queue.symm
  case calls =>
    intro n
    rw [calls_took,last?_took,sound.calls n]
    by_cases same : look.number = n
    · subst same
      cases latest : before.last? look.number with
      | none => simp
      | some other =>
        -- Its last look went on, so its callback was not called before.
        rw [latest,Option.all_some] at going
        simp [Look.completion?_of_next? going]
    · simp [same]
  case past =>
    intro other inside
    rcases List.mem_cons.mp inside with rfl | inside
    · exact accepted
    · exact sound.past other inside
  case fits =>
    intro errand inside
    rw [readings_took]
    rcases List.mem_append.mp inside with behind | goes
    · have other : look.number ≠ errand.next.number := by
        intro same
        have absent := List.count_eq_zero.mp alone
        exact absent (same ▸ List.mem_map_of_mem behind)
      simp only [other,↓reduceIte,List.append_nil]
      exact sound.fits errand (queued.mem_iff.mpr (List.mem_cons_of_mem _ behind))
    · have next := Option.mem_toList.mp goes
      rw [Look.number_of_next? next]
      simp only [↓reduceIte]
      obtain ⟨delay,operation,p',made,rfl⟩ := Look.next?_eq_some next
      cases Operation.poll_ok known.measured made with
      | again _ kind measured => exact ⟨measured,kind.trans known.kind⟩
  case seen =>
    intro other inside
    rcases List.mem_cons.mp inside with rfl | inside
    · exact ⟨⟨_,known⟩,broken⟩
    · exact sound.seen other inside

theorem Sound.step (sound : before.Sound) (step : before.Step after) : after.Sound := by
  cases step with
  | added adds => exact sound.added adds
  | looked look waiting new queued broken adds => exact (sound.took queued broken).added adds

end Books

variable [Motor μ] [Display δ]

theorem sound_opened (now : Nat) (plotter : Plotter μ δ) (notes : χ) :
    (opened now plotter notes : Shop access μ δ χ).books.Sound where
  tasks _ := by simp [opened,books,errands,Books.tasks]
  calls _ := by simp [opened,books,Books.last?]
  past _ inside := by cases inside
  fits _ inside := by cases inside
  seen _ inside := by cases inside

theorem live_cons (shop : Shop access μ δ χ) (event : Event access μ δ χ) (events : List (Event access μ δ χ)) :
    shop.live (event :: events) = (shop.next event).bind fun after => after.live events := rfl

/-- A run is a row of turns. -/
theorem run_turns (fuel : Nat) (shop : Shop access μ δ χ) : ∃ turns ≤ fuel,
    match behaviour.run fuel shop.schedule shop.desk with
    | .finished (.error (.overflow overflow)) .. => shop.live (.replicate turns .turn) = .error overflow
    | .finished _ schedule desk | .unfinished schedule desk =>
      shop.live (.replicate turns .turn) = .ok ⟨schedule,desk⟩ := by
  induction fuel generalizing shop with
  | zero => exact ⟨0,Nat.le_refl 0,rfl⟩
  | succ fuel ih =>
    simp only [Behaviour.run]
    have first : shop.live [.turn] = shop.next .turn := by
      rw [live_cons]
      cases shop.next .turn <;> rfl
    cases stepped : behaviour.step shop.schedule shop.desk with
    | idle schedule desk =>
      exact ⟨1,by omega,by simp [first,next,stepped]⟩
    | failed reason schedule desk =>
      refine ⟨1,by omega,?_⟩
      cases reason <;> simp [first,next,stepped]
    | continued schedule desk =>
      obtain ⟨turns,bound,rest⟩ := ih ⟨schedule,desk⟩
      refine ⟨turns + 1,by omega,?_⟩
      have more : shop.live (.replicate (turns + 1) .turn) =
          (⟨schedule,desk⟩ : Shop access μ δ χ).live (.replicate turns .turn) := by
        rw [List.replicate_succ,live_cons]
        simp [next,stepped,Except.bind]
      rw [more]
      exact rest

/-- What every event preserves holds after a run if it holds before. -/
theorem live_preserves {P : Shop access μ δ χ → Prop} {shop after : Shop access μ δ χ}
    {events : List (Event access μ δ χ)}
    (step : ∀ shop event after, P shop → shop.next event = .ok after → P after) (start : P shop)
    (lived : shop.live events = .ok after) : P after := by
  induction events generalizing shop with
  | nil =>
    cases lived
    exact start
  | cons event events ih =>
    rw [live_cons] at lived
    cases made : shop.next event with
    | error => rw [made] at lived; cases lived
    | ok between =>
      rw [made] at lived
      exact ih (step shop event between start made) lived

theorem sound_live {shop after : Shop access μ δ χ} {events : List (Event access μ δ χ)}
    (sound : shop.books.Sound) (lived : shop.live events = .ok after) : after.books.Sound :=
  live_preserves (P := fun shop => shop.books.Sound) (fun _ _ _ sound made => sound.step (books_next made)) sound
    lived

theorem exists_ok {made : Except ε α} {f : α → β} {b : β} (told : made.toOption.map f = some b) :
    ∃ a, made = .ok a ∧ f a = b := by
  cases made with
  | error => cases told
  | ok a => exact ⟨a,rfl,Option.some.inj told⟩

end PenPlotter.Shop
