import Mathlib.Data.List.Forall2
import Mathlib.Data.List.Nodup
import PenPlotter.Settings.Reading

/-! Sections that are read from fewer keys. A schema says which values are sections themselves and which keys a section
cannot do without. What comes of a part of a section is told key by key: whatever is left in it is taken up as before,
and the first section that lacks a required key is reported. -/

namespace PenPlotter.Settings

open Toml (Value Entries)

inductive Schema where
  /-- A value without keys. -/
  | value
  /-- A section with the names of its keys, in the order in which an array gives their values, and those of them that it
  requires. -/
  | keyed (keys required : List String) (inside : String → Schema)

/-- The values in a section by their keys. -/
def members (keys : List String) : Value → Entries
  | .table _ entries => entries
  | value => keys.zip ((items? value).getD [])

/-- Two ways to write a section between which no more than keys of a table may have been left out. -/
def SameForm (keys : List String) : Value → Value → Prop
  | .table .., .table .. => True
  | .array less, .array whole => less.length = whole.length ∧ less.drop keys.length = whole.drop keys.length
  | less, whole => less = whole

namespace Schema

/-- No table has a key twice. -/
def Distinct : Schema → Value → Prop
  | .value, _ => True
  | .keyed keys _ inside, section' =>
    ((members keys section').map Prod.fst).Nodup ∧ ∀ e ∈ members keys section', (inside e.1).Distinct e.2

instance decidableDistinct : ∀ (schema : Schema) (value : Value), Decidable (schema.Distinct value)
  | .value, _ => .isTrue trivial
  | .keyed keys _ inside, section' =>
    let _ := fun e : String × Value => decidableDistinct (inside e.1) e.2
    inferInstanceAs (Decidable (((members keys section').map Prod.fst).Nodup ∧
      ∀ e ∈ members keys section', (inside e.1).Distinct e.2))

/-- One value is another one without some of the keys and sections in it, at any depth. -/
def Part : Schema → Value → Value → Prop
  | .value, less, whole => less = whole
  | .keyed keys _ inside, less, whole => SameForm keys less whole ∧
    List.SublistForall₂ (fun l w => l.1 = w.1 ∧ (inside w.1).Part l.2 w.2) (members keys less) (members keys whole)

/-- Whether there is a key in a value, given with the sections it is in. -/
def has : Schema → Value → List String → Bool
  | _, _, [] => true
  | .value, _, _ :: _ => false
  | .keyed keys _ inside, section', key :: path =>
    (members keys section').any fun e => e.1 == key && (inside e.1).has e.2 path

/-- The required keys that are not there, in the order in which their absence is noticed. -/
def lacking : Schema → Value → List String
  | .value, _ => []
  | .keyed keys required inside, section' =>
    ((members keys section').flatMap fun e => (inside e.1).lacking e.2) ++
      required.filter (· ∉ (members keys section').map Prod.fst)

theorem has_nil (schema : Schema) (value : Value) : schema.has value [] = true := by cases schema <;> rfl

theorem Part.refl : ∀ (schema : Schema) (value : Value), schema.Part value value
  | .value, _ => rfl
  | .keyed keys _ inside, section' => by
    refine ⟨?_,List.sublistForall₂_iff.mpr ⟨_,List.forall₂_same.mpr fun e _ => ⟨rfl,Part.refl _ _⟩,.refl _⟩⟩
    cases section' <;> simp [SameForm]

theorem has_singleton (keys required : List String) (inside : String → Schema) (section' : Value) (key : String) :
    (keyed keys required inside).has section' [key] = decide (key ∈ (members keys section').map Prod.fst) := by
  refine Bool.eq_iff_iff.mpr ?_
  simp only [has,has_nil,List.any_eq_true,Bool.and_true,beq_iff_eq,List.mem_map,decide_eq_true_eq]

end Schema

/-- Only tables lose keys. -/
theorem SameForm.keys {keys : List String} {less whole : Value} (form : SameForm keys less whole) :
    items? less = none ∨ (members keys less).map Prod.fst = (members keys whole).map Prod.fst := by
  cases less with
  | array less =>
    cases whole with
    | array whole =>
      refine .inr (List.ext_getElem ?_ ?_)
      · simp [members,items?,form.1]
      · simp [members,items?]
    | _ => exact nomatch form
  | tables less =>
    cases whole with
    | tables whole => exact .inr (congrArg (fun value => (members keys value).map Prod.fst) form)
    | _ => exact nomatch form
  | _ => exact .inl rfl

/-- Takes up entries one by one. -/
def takeAll (take : σ → String → Read σ) (entries : Entries) (s : σ) : Except Mismatch σ :=
  entries.foldlM (fun s (key, value) => take s key value) s

theorem takeAll_cons (take : σ → String → Read σ) (key : String) (value : Value) (rest : Entries) (s : σ) :
    takeAll take ((key, value) :: rest) s = take s key value >>= takeAll take rest := rfl

/-- A section that is written in the form of one that can be read is read entry by entry, too. -/
theorem readSection_sameForm {name : String} {keys : List String} {take : σ → String → Read σ} {start t : σ}
    {less whole : Value} (form : SameForm keys less whole) (read : readSection name keys take start whole = .ok t) :
    takeAll take (members keys whole) start = .ok t ∧
      readSection name keys take start less = takeAll take (members keys less) start := by
  have same (less whole : Value) (equal : less = whole) (read : readSection name keys take start whole = .ok t) :
      takeAll take (members keys whole) start = .ok t ∧
        readSection name keys take start less = takeAll take (members keys less) start := by
    subst equal
    cases less with
    | table | array | tables => exact ⟨read,rfl⟩
    | instant =>
      have none : members keys .instant = [] := List.zip_nil_right
      rw [none]
      exact ⟨read,rfl⟩
    | string | integer | float | boolean => nomatch read
  cases whole with
  | table =>
    cases less with
    | table => exact ⟨read,rfl⟩
    | _ => exact same _ _ form read
  | array =>
    cases less with
    | array => exact ⟨read,rfl⟩
    | _ => exact same _ _ form read
  | _ => cases less <;> exact same _ _ form read

/-- What comes of a reading from which these required keys are missing. -/
def outcome (lacking : List String) (expected : σ) : Except Mismatch σ :=
  lacking.head?.elim (.ok expected) fun key => .error (.missing key)

theorem outcome_bind {lacking further : List String} {a : σ} {b : τ} {next : σ → Except Mismatch τ}
    (later : next a = outcome further b) : outcome lacking a >>= next = outcome (lacking ++ further) b := by
  cases lacking with
  | nil => exact later
  | cons => rfl

theorem ok_of_bind {read : Except Mismatch σ} {next : σ → Except Mismatch τ} {result : τ}
    (done : read >>= next = .ok result) : ∃ value, read = .ok value ∧ next value = .ok result := by
  cases read with
  | error mismatch => nomatch done
  | ok value => exact ⟨value,rfl,done⟩

/-- A reading of values of which parts are read as far as they are there. `only` is what is left of a result if it is
known which of the keys are kept. -/
def Reads (schema : Schema) (read : Read σ) (only : (List String → Bool) → σ → σ) : Prop :=
  ∀ ⦃less whole : Value⦄ ⦃t : σ⦄, schema.Part less whole → schema.Distinct whole → read whole = .ok t →
    read less = outcome (schema.lacking less) (only (schema.has less) t)

/-- How the value of a key is taken up, seen from what is kept of it: it makes no difference if the key is not kept, and
a part of it is taken up as far as it is there. -/
structure Overlays (schema : Schema) (key : String) (take : σ → Read σ) (only : (List String → Bool) → σ → σ) :
    Prop where
  dropped {kept : List String → Bool} {value : Value} {s t : σ} :
    (∀ path, kept (key :: path) = false) → take s value = .ok t → only kept t = only kept s
  taken {kept : List String → Bool} {less whole : Value} {s t : σ} :
    schema.Part less whole → schema.Distinct whole → (∀ path, kept (key :: path) = schema.has less path) →
      take s whole = .ok t → take (only kept s) less = outcome (schema.lacking less) (only kept t)

namespace Overlays

variable {key : String} {only : (List String → Bool) → σ → σ}

theorem ignored : Overlays .value key (fun s _ => .ok s) only where
  dropped _ read := congrArg _ (Except.ok.inj read).symm
  taken _ _ _ read := congrArg (Except.ok ∘ only _) (Except.ok.inj read)

/-- A value that is put in a place of its own. -/
theorem field {schema : Schema} {read : Read τ} {within : (List String → Bool) → τ → τ} {put : σ → τ → σ}
    (reads : Reads schema read within)
    (dropped : ∀ {kept s v}, (∀ path, kept (key :: path) = false) → only kept (put s v) = only kept s)
    (taken : ∀ {kept s v}, kept [key] = true →
      only kept (put s v) = put (only kept s) (within (fun path => kept (key :: path)) v)) :
    Overlays schema key (fun s value => do return put s (← read value)) only where
  dropped gone done := by
    obtain ⟨v,_,placed⟩ := ok_of_bind done
    rw [← Except.ok.inj placed]
    exact dropped gone
  taken {kept less whole s t} part distinct there done := by
    obtain ⟨v,readable,placed⟩ := ok_of_bind done
    have here : kept [key] = true := (there []).trans (schema.has_nil less)
    have inner : (fun path => kept (key :: path)) = schema.has less := funext there
    rw [← Except.ok.inj placed,taken here,inner,reads part distinct readable]
    refine (outcome_bind ?_).trans (by rw [List.append_nil])
    rfl

/-- A value without keys is kept or not, as a whole. -/
theorem leaf {read : Read τ} {put : σ → τ → σ}
    (dropped : ∀ {kept s v}, kept [key] = false → only kept (put s v) = only kept s)
    (taken : ∀ {kept s v}, kept [key] = true → only kept (put s v) = put (only kept s) v) :
    Overlays .value key (fun s value => do return put s (← read value)) only := by
  have reads : Reads .value read fun _ v => v := by
    intro less whole t same _ done
    rw [show less = whole from same]
    exact done
  exact field reads (fun gone => dropped (gone [])) taken

end Overlays

/-- A section that takes up each of its keys so. -/
def Overlaid (inside : String → Schema) (take : σ → String → Read σ) (only : (List String → Bool) → σ → σ) : Prop :=
  ∀ key, Overlays (inside key) key (fun s value => take s key value) only

namespace Overlaid

variable {inside : String → Schema} {take : σ → String → Read σ} {only : (List String → Bool) → σ → σ}
  {keys required : List String} {kept : List String → Bool} {s t : σ}

/-- A section that ignores all keys but some. -/
theorem of_known (known : List String)
    (taken : ∀ key ∈ known, Overlays (inside key) key (fun s value => take s key value) only)
    (ignored : ∀ key ∉ known, inside key = .value ∧ ∀ s value, take s key value = .ok s) :
    Overlaid inside take only := by
  intro key
  by_cases member : key ∈ known
  · exact taken key member
  · obtain ⟨plain,same⟩ := ignored key member
    have same : (fun s value => take s key value) = fun s _ => .ok s := funext fun s => funext fun value => same s value
    rw [plain,same]
    exact .ignored

/-- The keys of a part are keys of the whole, in the same order. -/
theorem keys_sublist {R : String × Value → String × Value → Prop} {less whole : Entries}
    (part : List.SublistForall₂ (fun l w => l.1 = w.1 ∧ R l w) less whole) :
    (less.map Prod.fst).Sublist (whole.map Prod.fst) := by
  induction part with
  | nil => exact List.nil_sublist _
  | cons same _ ih =>
    rw [List.map_cons,List.map_cons,same.1]
    exact ih.cons_cons _
  | cons_right _ ih => exact ih.cons _

/-- Entries taken up one by one, from a part of them that has just the keys that are kept. -/
theorem takeAll (overlaid : Overlaid inside take only) {less whole : Entries}
    (part : List.SublistForall₂ (fun l w => l.1 = w.1 ∧ (inside w.1).Part l.2 w.2) less whole)
    (distinct : (whole.map Prod.fst).Nodup) (within : ∀ e ∈ whole, (inside e.1).Distinct e.2)
    (there : ∀ e ∈ less, ∀ path, kept (e.1 :: path) = (inside e.1).has e.2 path)
    (gone : ∀ e ∈ whole, e.1 ∉ less.map Prod.fst → ∀ path, kept (e.1 :: path) = false)
    (read : Settings.takeAll take whole s = .ok t) :
    Settings.takeAll take less (only kept s) =
      outcome (less.flatMap fun e => (inside e.1).lacking e.2) (only kept t) := by
  induction part generalizing s with
  | @nil whole =>
    -- All that is left of the whole is dropped.
    have same : only kept t = only kept s := by
      induction whole generalizing s with
      | nil => exact congrArg (only kept) (Except.ok.inj read).symm
      | cons e rest ih =>
        obtain ⟨next,first,read⟩ := ok_of_bind read
        have later := ih (List.nodup_cons.mp distinct).2 (fun e member => within e (.tail _ member))
          (fun e member => gone e (.tail _ member)) read
        exact later.trans ((overlaid e.1).dropped (gone e (.head _) List.not_mem_nil) first)
    exact congrArg Except.ok same.symm
  | @cons l w less whole same part ih =>
    obtain ⟨key,left⟩ := l
    obtain ⟨key,value⟩ := w
    obtain ⟨rfl,inner⟩ := same
    obtain ⟨next,first,read⟩ := ok_of_bind read
    obtain ⟨fresh,distinct⟩ := List.nodup_cons.mp distinct
    have one : take (only kept s) key left = _ :=
      (overlaid key).taken inner (within _ (.head _)) (there _ (.head _)) first
    have rest := ih distinct (fun e member => within e (.tail _ member)) (fun e member => there e (.tail _ member))
      (fun e member absent => gone e (.tail _ member) fun found => by
        rcases List.mem_cons.mp found with same | found
        · exact fresh (same ▸ List.mem_map_of_mem member)
        · exact absent found) read
    rw [takeAll_cons,one]
    exact outcome_bind rest
  | @cons_right w less whole part ih =>
    obtain ⟨next,first,read⟩ := ok_of_bind read
    obtain ⟨fresh,distinct⟩ := List.nodup_cons.mp distinct
    have absent : w.1 ∉ less.map Prod.fst := fun found => fresh ((keys_sublist part).subset found)
    rw [← (overlaid w.1).dropped (gone w (.head _) absent) first]
    exact ih distinct (fun e member => within e (.tail _ member)) there
      (fun e member => gone e (.tail _ member)) read

/-- What is kept of a section are the keys that there are in a part of it. -/
theorem members (overlaid : Overlaid inside take only) {less whole : Value}
    (part : (Schema.keyed keys required inside).Part less whole)
    (distinct : (Schema.keyed keys required inside).Distinct whole)
    (read : Settings.takeAll take (members keys whole) s = .ok t) :
    Settings.takeAll take (Settings.members keys less) (only ((Schema.keyed keys required inside).has less) s) =
      outcome ((Settings.members keys less).flatMap fun e => (inside e.1).lacking e.2)
        (only ((Schema.keyed keys required inside).has less) t) := by
  obtain ⟨_,part⟩ := part
  obtain ⟨distinct,within⟩ := distinct
  have once := distinct.sublist (keys_sublist part)
  refine overlaid.takeAll part distinct within ?_ ?_ read
  · intro e member path
    refine Bool.eq_iff_iff.mpr (List.any_eq_true.trans ⟨?_,fun found => ⟨e,member,by simpa using found⟩⟩)
    rintro ⟨other,inside,found⟩
    obtain ⟨named,found⟩ := Bool.and_eq_true_iff.mp found
    have same : other = e := List.inj_on_of_nodup_map once inside member (by simpa using named)
    exact same ▸ found
  · intro e _ absent path
    show (Settings.members keys less).any _ = false
    refine List.any_eq_false.mpr fun other member found => absent ?_
    have same : other.1 = e.1 := by simpa using (Bool.and_eq_true_iff.mp found).1
    exact same ▸ List.mem_map_of_mem member

/-- A section that can do without each of its keys. -/
theorem reads {start : σ} (overlaid : Overlaid inside take only) (unset : ∀ kept, only kept start = start)
    (name : String) (keys : List String) : Reads (.keyed keys [] inside) (readSection name keys take start) only := by
  intro less whole t part distinct read
  obtain ⟨taken,same⟩ := readSection_sameForm part.1 read
  have comes := overlaid.members part distinct taken
  rw [unset] at comes
  rw [same,comes,Schema.lacking,List.filter_nil,List.append_nil]

end Overlaid

/-- A section that can do without each of its keys and ignores all others. -/
theorem Reads.of_known {inside : String → Schema} {take : σ → String → Read σ}
    {only : (List String → Bool) → σ → σ} {start : σ} {name : String} {keys : List String}
    (unset : ∀ kept, only kept start = start)
    (taken : ∀ key ∈ keys, Overlays (inside key) key (fun s value => take s key value) only)
    (ignored : ∀ key ∉ keys, inside key = .value ∧ ∀ s value, take s key value = .ok s) :
    Reads (.keyed keys [] inside) (readSection name keys take start) only :=
  (Overlaid.of_known keys taken ignored).reads unset name keys

end PenPlotter.Settings
