import PenPlotter.Proofs.Shop.Sound

/-! The looks at one operation follow one another: each finds the operation as the one before has left it,
and none comes after a look that has ended it. -/

namespace PenPlotter.Shop

variable {access : Access} {μ δ χ : Type} [Motor μ] [Display δ]

/-- Looks at an operation from its first errand on, and what is waiting after them. -/
inductive Followed (first : Errand (Ticket access μ δ χ)) :
    List (Look access μ δ χ) → Option (Errand (Ticket access μ δ χ)) → Prop where
  | begun : Followed first [] (some first)
  | looked : Followed first looks (some look.errand) → Followed first (looks ++ [look]) look.next?

namespace Followed

variable {first : Errand (Ticket access μ δ χ)} {before after : List (Look access μ δ χ)}
variable {look : Look access μ δ χ} {going : Option (Errand (Ticket access μ δ χ))}

theorem going_nil (followed : Followed first [] going) : going = some first := by
  generalize none : ([] : List (Look access μ δ χ)) = looks at followed
  cases followed with
  | begun => rfl
  | looked => simp at none

theorem last (followed : Followed first (before ++ [look]) going) :
    Followed first before (some look.errand) ∧ going = look.next? := by
  generalize whole : before ++ [look] = looks at followed
  cases followed with
  | begun => simp at whole
  | looked earlier =>
    obtain ⟨rfl,same⟩ := List.append_inj' whole rfl
    cases same
    exact ⟨earlier,rfl⟩

/-- A look after which there are others has left something to look at. -/
theorem split (followed : Followed first (before ++ look :: after) going) :
    Followed first before (some look.errand) ∧ (look.next? = none → after = []) := by
  generalize whole : before ++ look :: after = looks at followed
  induction followed generalizing after with
  | begun => simp at whole
  | @looked looks latest earlier ih =>
    rcases List.eq_nil_or_concat after with rfl | ⟨between,_,rfl⟩
    · obtain ⟨rfl,same⟩ := List.append_inj' whole rfl
      cases same
      exact ⟨earlier,fun _ => rfl⟩
    · rw [List.concat_eq_append,← List.cons_append,← List.append_assoc] at whole
      obtain ⟨rfl,same⟩ := List.append_inj' whole rfl
      obtain ⟨here,onward⟩ := ih rfl
      refine ⟨here,fun ended => ?_⟩
      rw [onward ended] at earlier
      have next := earlier.last.2
      simp [ended] at next

/-- What is waiting can be told from the looks. -/
theorem unique {other : Option (Errand (Ticket access μ δ χ))} (followed : Followed first before going)
    (again : Followed first before other) : going = other := by
  rcases List.eq_nil_or_concat before with rfl | ⟨earlier,look,rfl⟩
  · rw [followed.going_nil,again.going_nil]
  · rw [List.concat_eq_append] at followed again
    rw [followed.last.2,again.last.2]

/-- As long as something is waiting every look has let the operation go on. -/
theorem goes_on {errand : Errand (Ticket access μ δ χ)} (followed : Followed first before (some errand)) :
    ∀ look ∈ before, look.next?.isSome = true := by
  intro look inside
  obtain ⟨earlier,later,rfl⟩ := List.append_of_mem inside
  cases next : look.next? with
  | some => rfl
  | none =>
    obtain rfl := followed.split.2 next
    rw [← followed.last.2] at next
    cases next

/-- What no look changes about an errand stays as it was from the first one on. -/
theorem iff {P : Errand (Ticket access μ δ χ) → Prop} {errand : Errand (Ticket access μ δ χ)}
    (kept : ∀ (look : Look access μ δ χ) next, look.next? = some next → (P next ↔ P look.errand))
    (followed : Followed first before (some errand)) : P errand ↔ P first := by
  generalize waits : some errand = going at followed
  induction followed generalizing errand with
  | begun =>
    cases waits
    exact Iff.rfl
  | looked _ ih => exact (kept _ _ waits.symm).trans (ih rfl)

end Followed

namespace Books

variable {before after : Books access μ δ χ} {first : Errand (Ticket access μ δ χ)} {n : Nat}

/-- The looks at an operation, in order. -/
def looksAt (b : Books access μ δ χ) (n : Nat) : List (Look access μ δ χ) :=
  (b.looks.filter fun look => look.number = n).reverse

theorem looksAt_took (b : Books access μ δ χ) (look : Look access μ δ χ) (waiting : Errands access μ δ χ) :
    (b.took look waiting).looksAt n = b.looksAt n ++ if look.number = n then [look] else [] := by
  unfold looksAt took
  by_cases same : look.number = n <;> simp [same]

omit [Motor μ] [Display δ] in
theorem looksAt_cons {look : Look access μ δ χ} (looked : after.looks = look :: before.looks) :
    after.looksAt n = before.looksAt n ++ if look.number = n then [look] else [] := by
  unfold looksAt
  rw [looked]
  by_cases same : look.number = n <;> simp [same]

omit [Motor μ] [Display δ] in
theorem mem_looksAt {b : Books access μ δ χ} {look : Look access μ δ χ} :
    look ∈ b.looksAt n ↔ look ∈ b.looks ∧ look.number = n := by
  simp [looksAt]

omit [Motor μ] [Display δ] in
theorem last?_eq_getLast? (b : Books access μ δ χ) (n : Nat) : b.last? n = (b.looksAt n).getLast? := by
  unfold last? looksAt
  rw [List.getLast?_reverse,List.head?_filter]

omit [Motor μ] [Display δ] in
theorem Adds.looksAt {new : Errands access μ δ χ} (adds : before.Adds new after) (n : Nat) :
    after.looksAt n = before.looksAt n := by
  simp [Books.looksAt,adds.looks]

/-- The looks at an operation follow one another from its first errand, and what is waiting was left by
the last of them. -/
def Follows (b : Books access μ δ χ) (first : Errand (Ticket access μ δ χ)) (n : Nat) : Prop :=
  ∃ going, Followed first (b.looksAt n) going ∧
    ∀ errand ∈ b.errands, errand.next.number = n → going = some errand

theorem Follows.added {new : Errands access μ δ χ} (follows : before.Follows first n)
    (accepted : n < before.accepted) (adds : before.Adds new after) : after.Follows first n := by
  obtain ⟨going,followed,waits⟩ := follows
  refine ⟨going,by rwa [adds.looksAt],?_⟩
  intro errand inside number
  rcases List.mem_append.mp (adds.errands.mem_iff.mp inside) with known | fresh
  · exact waits errand known number
  · have new : errand.next.number ∈ List.range' before.accepted new.length := by
      rw [← adds.numbers]
      exact List.mem_map_of_mem fresh
    have late := (List.mem_range'_1.mp new).1
    omega

theorem Follows.took (follows : before.Follows first n) (sound : before.Sound) {look : Look access μ δ χ}
    {waiting : Errands access μ δ χ} (queued : before.errands.Perm (look.errand :: waiting)) :
    (before.took look waiting).Follows first n := by
  obtain ⟨going,followed,waits⟩ := follows
  have ahead : ∀ errand ∈ waiting, errand ∈ before.errands :=
    fun errand inside => queued.mem_iff.mpr (List.mem_cons_of_mem _ inside)
  have onward : ∀ errand ∈ look.next?.toList, errand.next.number = look.number :=
    fun errand inside => Look.number_of_next? (Option.mem_toList.mp inside)
  by_cases same : look.number = n
  · obtain rfl := waits look.errand (queued.mem_iff.mpr (by simp)) same
    refine ⟨look.next?,by simpa [looksAt_took,same] using followed.looked,?_⟩
    intro errand inside number
    rcases List.mem_append.mp inside with behind | goes
    · have alone := List.count_eq_zero.mp (sound.waits queued).2.2
      exact absurd (same ▸ number ▸ List.mem_map_of_mem behind) alone
    · exact Option.mem_toList.mp goes
  · refine ⟨going,by simpa [looksAt_took,same] using followed,?_⟩
    intro errand inside number
    rcases List.mem_append.mp inside with behind | goes
    · exact waits errand (ahead errand behind) number
    · exact absurd ((onward errand goes).symm.trans number) same

theorem Follows.step (follows : before.Follows first n) (sound : before.Sound) (accepted : n < before.accepted)
    (step : before.Step after) : after.Follows first n := by
  cases step with
  | added adds => exact follows.added accepted adds
  | looked look waiting new queued broken adds => exact (follows.took sound queued).added accepted adds

/-- An operation that is added has seen no looks. -/
theorem Adds.follows {new : Errands access μ δ χ} (adds : before.Adds new after) (sound : before.Sound)
    (fresh : before.accepted ≤ n) (accepted : n < after.accepted) : ∃ first, after.Follows first n := by
  have number : n ∈ new.map fun errand => errand.next.number := by
    rw [adds.numbers]
    rw [adds.accepted] at accepted
    exact List.mem_range'_1.mpr ⟨fresh,accepted⟩
  obtain ⟨first,inside,rfl⟩ := List.mem_map.mp number
  have unseen : after.looksAt first.next.number = [] := by
    rw [adds.looksAt]
    unfold Books.looksAt
    simp only [List.reverse_eq_nil_iff,List.filter_eq_nil_iff,decide_eq_true_eq]
    intro look seen same
    have past := sound.past look seen
    omega
  refine ⟨first,some first,by rw [unseen]; exact .begun,?_⟩
  intro errand waits same
  have waiting : first ∈ after.errands := adds.errands.mem_iff.mpr (List.mem_append_right _ inside)
  rw [(sound.added adds).alone waits waiting same]

/-- The looks at every operation follow one another from its first errand. -/
def Rowed (b : Books access μ δ χ) : Prop := ∀ n < b.accepted, ∃ first, b.Follows first n

theorem Rowed.added {new : Errands access μ δ χ} (rowed : before.Rowed) (sound : before.Sound)
    (adds : before.Adds new after) : after.Rowed := by
  intro n accepted
  by_cases known : n < before.accepted
  · obtain ⟨first,follows⟩ := rowed n known
    exact ⟨first,follows.added known adds⟩
  · exact adds.follows sound (Nat.le_of_not_lt known) accepted

theorem Rowed.step (rowed : before.Rowed) (sound : before.Sound) (step : before.Step after) : after.Rowed := by
  cases step with
  | added adds => exact rowed.added sound adds
  | looked look waiting new queued broken adds =>
    refine Rowed.added ?_ (sound.took queued broken) adds
    intro n accepted
    obtain ⟨first,follows⟩ := rowed n accepted
    exact ⟨first,follows.took sound queued⟩

end Books

theorem follows_live {shop after : Shop access μ δ χ} {events : List (Event access μ δ χ)}
    {first : Errand (Ticket access μ δ χ)} {n : Nat} (follows : shop.books.Follows first n)
    (sound : shop.books.Sound) (accepted : n < shop.books.accepted) (lived : shop.live events = .ok after) :
    after.books.Follows first n := by
  have kept := live_preserves (P := fun shop : Shop access μ δ χ =>
    shop.books.Sound ∧ n < shop.books.accepted ∧ shop.books.Follows first n) ?_ ⟨sound,accepted,follows⟩ lived
  · exact kept.2.2
  rintro shop event after ⟨sound,accepted,follows⟩ made
  have step := books_next made
  exact ⟨sound.step step,Nat.lt_of_lt_of_le accepted step.accepted,follows.step sound accepted step⟩

theorem rowed_live {now : Nat} {plotter : Plotter μ δ} {notes : χ} {events : List (Event access μ δ χ)}
    {shop : Shop access μ δ χ} (lived : (opened now plotter notes).live events = .ok shop) :
    shop.books.Sound ∧ shop.books.Rowed := by
  refine live_preserves (P := fun shop : Shop access μ δ χ => shop.books.Sound ∧ shop.books.Rowed) ?_
    ⟨sound_opened now plotter notes,fun _ none => by cases none⟩ lived
  rintro shop event after ⟨sound,rowed⟩ made
  exact ⟨sound.step (books_next made),rowed.step sound (books_next made)⟩

end PenPlotter.Shop
