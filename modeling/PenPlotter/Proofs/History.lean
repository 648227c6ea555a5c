/-! A history is a row of entries in the order in which they were written. What is the case throughout
holds of each entry in view of those before it; what is the case since an entry was started by it and
kept up by every later one. -/

namespace PenPlotter

def Throughout (holds : List α → α → Prop) (history : List α) : Prop :=
  ∀ before entry after, history = before ++ entry :: after → holds before entry

namespace Throughout

variable {holds weaker : List α → α → Prop} {history more : List α} {entry : α}

@[simp] theorem nil : Throughout holds [] := by
  intro before entry after whole
  simp at whole

@[simp] theorem cons :
    Throughout holds (entry :: more) ↔
      holds [] entry ∧ Throughout (fun before => holds (entry :: before)) more := by
  constructor
  · intro all
    refine ⟨all [] entry more rfl,?_⟩
    intro before other after whole
    exact all (entry :: before) other after (by simp [whole])
  · rintro ⟨first,later⟩ before other after whole
    cases before with
    | nil =>
      obtain ⟨rfl,_⟩ := List.cons.inj whole
      exact first
    | cons head before =>
      obtain ⟨rfl,rest⟩ := List.cons.inj whole
      exact later before other after rest

@[simp] theorem append :
    Throughout holds (history ++ more) ↔
      Throughout holds history ∧ Throughout (fun before => holds (history ++ before)) more := by
  induction history generalizing holds with
  | nil => simp
  | cons head history ih => simp [ih,and_assoc]

theorem imp (all : Throughout holds history) (weaken : ∀ before entry, holds before entry → weaker before entry) :
    Throughout weaker history :=
  fun before entry after whole => weaken before entry (all before entry after whole)

end Throughout

/-- Some entry has started it, and every later one has kept it up, each in view of those before it. -/
def Since (starts keeps : List α → α → Prop) (history : List α) : Prop :=
  ∃ before entry after, history = before ++ entry :: after ∧ starts before entry ∧
    Throughout (fun later => keeps (before ++ entry :: later)) after

namespace Since

variable {starts keeps : List α → α → Prop} {history : List α} {entry : α}

@[simp] theorem nil : ¬ Since starts keeps [] := by
  rintro ⟨before,entry,after,whole,_⟩
  simp at whole

/-- The last entry has started it, or it was the case before and the last entry has kept it up. -/
theorem snoc : Since starts keeps (history ++ [entry]) ↔
    starts history entry ∨ keeps history entry ∧ Since starts keeps history := by
  constructor
  · rintro ⟨before,first,after,whole,started,kept⟩
    rcases after.eq_nil_or_concat with rfl | ⟨init,last,rfl⟩
    · obtain ⟨rfl,same⟩ := List.append_inj' whole rfl
      cases same
      exact .inl started
    · rw [List.concat_eq_append] at whole kept
      obtain ⟨rfl,same⟩ := List.append_inj' (whole.trans (by simp : _ = (before ++ first :: init) ++ [last])) rfl
      cases same
      obtain ⟨earlier,now⟩ := Throughout.append.mp kept
      exact .inr ⟨by simpa using now,before,first,init,rfl,started,earlier⟩
  · rintro (started | ⟨now,before,first,init,rfl,started,earlier⟩)
    · exact ⟨history,entry,[],rfl,started,.nil⟩
    · exact ⟨before,first,init ++ [entry],by simp,started,Throughout.append.mpr ⟨earlier,by simpa using now⟩⟩

end Since
end PenPlotter
