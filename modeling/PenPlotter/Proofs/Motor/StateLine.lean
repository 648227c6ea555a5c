import Mathlib.Data.List.Sort
import Mathlib.Data.String.Basic
import PenPlotter.Motor.State

/-! State lines that are written and read. The flags of a state ascend without repetition, so that a state is
determined by which flags it has; a line is read as the pieces between its blanks. What is written with one space
between the flags is therefore read as the same state as long as every flag is a word. -/

namespace PenPlotter

namespace Text

/-- At least one character, and none of them blank. -/
def IsWord (text : String) : Prop := text ≠ "" ∧ ∀ c ∈ text.toList, isBlank c = false

/-- The words of a text are the pieces between its blanks that are not empty. -/
theorem wordsOf_eq (text : List Char) : wordsOf text = (text.splitOnP isBlank).filter (· ≠ []) := by
  -- A character that is not blank goes to the front of the first piece of what comes after it.
  have inFront {d : Char} (rest : List Char) (black : ¬ isBlank d = true) :
      ∃ piece pieces, (d :: rest).splitOnP isBlank = (d :: piece) :: pieces := by
    obtain ⟨piece,pieces,split⟩ := List.exists_cons_of_ne_nil (List.splitOnP_ne_nil isBlank rest)
    exact ⟨piece,pieces,by simp [List.splitOnP_cons_eq_if_modifyHead,black,split]⟩
  fun_induction wordsOf text with
  | case1 => simp
  | case2 c rest blank ih => simp [List.splitOnP_cons_eq_if_modifyHead,blank,ih]
  | case3 c black => simp [List.splitOnP_cons_eq_if_modifyHead,black]
  | case4 c black d rest blank ih => simp [List.splitOnP_cons_eq_if_modifyHead,black,blank,ih]
  | case5 c black d rest letter none ih =>
    obtain ⟨piece,pieces,split⟩ := inFront rest letter
    simp [none,split] at ih
  | case6 c black d rest letter word others found ih =>
    obtain ⟨piece,pieces,split⟩ := inFront rest letter
    have first : word = d :: piece ∧ others = pieces.filter (· ≠ []) := by simpa [found,split] using ih
    obtain ⟨rfl,rfl⟩ := first
    rw [List.splitOnP_cons_eq_if_modifyHead c,if_neg black,split]
    simp [found]

theorem isWord_of_mem {text word : String} (inside : word ∈ words text) : IsWord word := by
  have apart (text : List Char) : ∀ piece ∈ text.splitOnP isBlank, ∀ c ∈ piece, isBlank c = false := by
    induction text with
    | nil => simp
    | cons head rest ih =>
      obtain ⟨piece,pieces,split⟩ := List.exists_cons_of_ne_nil (List.splitOnP_ne_nil isBlank rest)
      rw [split,List.forall_mem_cons] at ih
      by_cases blank : isBlank head = true
      · simpa [List.splitOnP_cons_eq_if_modifyHead,blank,split] using ih
      · have black : isBlank head = false := by simpa using blank
        simpa [List.splitOnP_cons_eq_if_modifyHead,black,split] using ih
  obtain ⟨piece,member,rfl⟩ := List.mem_map.mp inside
  rw [wordsOf_eq,List.mem_filter] at member
  refine ⟨?_,?_⟩
  · intro empty
    have none : piece = [] := by simpa using congrArg String.toList empty
    simp [none] at member
  · simpa using apart text.toList piece member.1

/-- Words with one space between them are read as they are. -/
theorem words_intercalate {flags : List String} (words : ∀ flag ∈ flags, IsWord flag) :
    Text.words (" ".intercalate flags) = flags := by
  have pieces : (wordsOf (" ".intercalate flags).toList) = flags.map String.toList := by
    induction flags with
    | nil => rfl
    | cons flag rest ih =>
      have ⟨⟨filled,black⟩,others⟩ := List.forall_mem_cons.mp words
      have filled : flag.toList ≠ [] := by simpa using filled
      rw [wordsOf_eq] at ih ⊢
      cases rest with
      | nil => simp [List.splitOnP_eq_singleton black,filled]
      | cons next rest =>
        have behind := ih others
        have space : isBlank ' ' = true := by decide
        simp only [String.intercalate_cons_cons,String.toList_append,List.append_assoc]
        rw [show " ".toList = [' '] from rfl,List.singleton_append,
          List.splitOnP_append_cons_of_forall_mem black ' ' space,List.filter_cons_of_pos (by simpa using filled),
          behind]
        rfl
  rw [Text.words,pieces,List.map_map]
  simp [Function.comp_def]

end Text

namespace Motor.State

theorem insert_ascends (flag : String) {flags : List String} (ascend : flags.Pairwise (· < ·)) :
    (insert flag flags).Pairwise (· < ·) := by
  fun_induction insert flag flags with
  | case1 => simp
  | case2 head rest before =>
    refine List.pairwise_cons.mpr ⟨?_,ascend⟩
    intro other inside
    rcases List.mem_cons.mp inside with rfl | inside
    · exact before
    · exact lt_trans before ((List.pairwise_cons.mp ascend).1 other inside)
  | case3 => exact ascend
  | case4 head rest notBefore other ih =>
    obtain ⟨least,ascend⟩ := List.pairwise_cons.mp ascend
    refine List.pairwise_cons.mpr ⟨?_,ih ascend⟩
    intro found inside
    rcases mem_insert.mp inside with rfl | inside
    · exact lt_of_le_of_ne (not_lt.mp notBefore) (Ne.symm other)
    · exact least found inside

theorem ofList_ascends (flags : List String) : (ofList flags).flags.Pairwise (· < ·) := by
  induction flags with
  | nil => exact .nil
  | cons flag rest ih => exact insert_ascends flag ih

/-- A state is determined by which flags it has. -/
theorem ofList_eq_iff {flags others : List String} :
    ofList flags = ofList others ↔ ∀ flag, flag ∈ flags ↔ flag ∈ others := by
  constructor
  · intro same flag
    rw [← mem_ofList,same,mem_ofList]
  · intro same
    have flags := (ofList_ascends flags).eq_of_mem_iff (ofList_ascends others) fun flag => by
      rw [mem_ofList,mem_ofList,same]
    exact congrArg State.mk flags

/-- The flags of a state, collected again. -/
theorem ofList_flags (flags : List String) : ofList (ofList flags).flags = ofList flags :=
  ofList_eq_iff.mpr fun _ => mem_ofList

theorem ofLine_line_ofList {flags : List String} :
    ofLine (ofList flags).line = ofList flags ↔ ∀ flag ∈ flags, Text.IsWord flag := by
  constructor
  · intro same flag inside
    have read : flag ∈ Text.words (ofList flags).line := (ofList_eq_iff.mp same flag).mpr inside
    exact Text.isWord_of_mem read
  · intro words
    have written : Text.words (ofList flags).line = (ofList flags).flags :=
      Text.words_intercalate fun flag inside => words flag (mem_ofList.mp inside)
    calc ofLine (ofList flags).line
      _ = ofList (ofList flags).flags := congrArg ofList written
      _ = ofList flags := ofList_flags flags

/-- A state that was read from a line is read from its own line, lines are read as the same state when they have the
same words, and a state that was put together from flags is read from its line when all flags are words. -/
theorem lines_are_read_back :
    (∀ text, Text.words text = ((text.toList.splitOnP Text.isBlank).filter (· ≠ [])).map String.ofList) ∧
      (∀ line, ofLine (ofLine line).line = ofLine line) ∧
      (∀ line other, ofLine line = ofLine other ↔ ∀ word, word ∈ Text.words line ↔ word ∈ Text.words other) ∧
      ∀ flags, ofLine (ofList flags).line = ofList flags ↔
        ∀ flag ∈ flags, flag ≠ "" ∧ ∀ c ∈ flag.toList, Text.isBlank c = false := by
  refine ⟨fun text => congrArg (List.map String.ofList) (Text.wordsOf_eq text.toList),fun line => ?_,
    fun line other => ofList_eq_iff,fun flags => ofLine_line_ofList⟩
  exact ofLine_line_ofList.mpr fun word inside => Text.isWord_of_mem inside

-- A flag with a blank in it is read as two.
example : ofLine (ofList ["running", "not stalled"]).line = ofList ["not", "running", "stalled"] := by decide +kernel

end Motor.State
end PenPlotter
