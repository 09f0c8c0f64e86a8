/-
**Dictionaries: entries by strictly increasing key.**

* `Dictionary` — the entries; `Dictionary.ext_lookup` — a dictionary is what it gives for each key.
* `insert`, `erase`, `ofEntries` — with what each gives for a key; the last of two entries for a key stands.
* `ofEntries_entries` — the entries of a dictionary make it again.
-/
import Mathlib.Data.List.Sort

/-- **Entries by strictly increasing key.** -/
structure Dictionary (κ ν : Type*) [LinearOrder κ] where
  entries : List (κ × ν)
  sorted : entries.Pairwise fun first second => first.1 < second.1

namespace Dictionary

variable {κ ν : Type*} [LinearOrder κ] {one two : Dictionary κ ν} {key other : κ} {value : ν}

/-- The value of a key. -/
def lookup (dictionary : Dictionary κ ν) (key : κ) : Option ν := dictionary.entries.lookup key

def empty : Dictionary κ ν := ⟨[], .nil⟩

/-- A key has its value and no other. -/
def insert (dictionary : Dictionary κ ν) (key : κ) (value : ν) : Dictionary κ ν where
  entries := dictionary.entries.filter (fun entry => entry.1 < key) ++
    (key, value) :: dictionary.entries.filter fun entry => key < entry.1
  sorted := by
    have below := dictionary.sorted.filter fun entry => decide (entry.1 < key)
    have above := dictionary.sorted.filter fun entry => decide (key < entry.1)
    refine List.pairwise_append.mpr ⟨below, List.pairwise_cons.mpr ⟨fun entry member => ?_, above⟩,
      fun entry member later follows => ?_⟩
    · exact of_decide_eq_true (List.mem_filter.mp member).2
    · have less := of_decide_eq_true (List.mem_filter.mp member).2
      rcases List.mem_cons.mp follows with rfl | follows
      · exact less
      · exact less.trans (of_decide_eq_true (List.mem_filter.mp follows).2)

def erase (dictionary : Dictionary κ ν) (key : κ) : Dictionary κ ν where
  entries := dictionary.entries.filter fun entry => entry.1 ≠ key
  sorted := dictionary.sorted.filter _

/-- Entries put in one after the other. -/
def ofEntries (entries : List (κ × ν)) : Dictionary κ ν :=
  entries.foldl (fun dictionary entry => dictionary.insert entry.1 entry.2) empty

/-! ### Lookups -/

theorem lookup_eq_some {dictionary : Dictionary κ ν} :
    dictionary.lookup key = some value ↔ (key, value) ∈ dictionary.entries := by
  unfold lookup
  rw [List.lookup_eq_some_iff]
  constructor
  · rintro ⟨before, after, split, -⟩
    rw [split]
    exact List.mem_append_right _ List.mem_cons_self
  · intro member
    obtain ⟨before, after, split⟩ := List.append_of_mem member
    refine ⟨before, after, split, fun entry earlier => ?_⟩
    have sorted := dictionary.sorted
    rw [split] at sorted
    have less := (List.pairwise_append.mp sorted).2.2 entry earlier (key, value) List.mem_cons_self
    simpa using less.ne'

/-- **A dictionary is what it gives for each key.** -/
theorem ext_lookup (same : ∀ key, one.lookup key = two.lookup key) : one = two := by
  have equal : one.entries = two.entries := by
    have irreflexive : Std.Irrefl fun first second : κ × ν => first.1 < second.1 :=
      ⟨fun entry => lt_irrefl entry.1⟩
    have antisymmetric : Std.Antisymm fun first second : κ × ν => first.1 < second.1 :=
      ⟨fun first second less greater => absurd less greater.asymm⟩
    refine List.Pairwise.eq_of_mem_iff one.sorted two.sorted fun entry => ?_
    rw [← Prod.mk.eta (p := entry), ← lookup_eq_some, ← lookup_eq_some, same]
  cases one
  cases two
  cases equal
  rfl

@[simp] theorem lookup_empty : (empty : Dictionary κ ν).lookup key = none := rfl

@[simp] theorem lookup_insert (dictionary : Dictionary κ ν) :
    (dictionary.insert key value).lookup other = if other = key then some value else dictionary.lookup other := by
  ext found
  rw [lookup_eq_some]
  by_cases same : other = key
  · subst same
    simp [insert, eq_comm]
  · rw [if_neg same, lookup_eq_some]
    have apart := lt_or_gt_of_ne same
    simp [insert, same]
    tauto

@[simp] theorem lookup_erase (dictionary : Dictionary κ ν) :
    (dictionary.erase key).lookup other = if other = key then none else dictionary.lookup other := by
  ext found
  rw [lookup_eq_some]
  by_cases same : other = key
  · simp [erase, same]
  · rw [if_neg same, lookup_eq_some]
    simp [erase, same]

/-- **The last entry for a key stands.** -/
theorem lookup_foldl_insert (entries : List (κ × ν)) (dictionary : Dictionary κ ν) :
    (entries.foldl (fun dictionary entry => dictionary.insert entry.1 entry.2) dictionary).lookup key =
      (entries.reverse.lookup key).or (dictionary.lookup key) := by
  induction entries generalizing dictionary with
  | nil => rfl
  | cons entry entries ih =>
    obtain ⟨name, value⟩ := entry
    rw [List.foldl_cons, ih, lookup_insert, List.reverse_cons, List.lookup_append]
    by_cases same : key = name
    · cases entries.reverse.lookup key <;> simp [same]
    · simp [List.lookup_cons, beq_false_of_ne same, same]

theorem lookup_ofEntries (entries : List (κ × ν)) :
    (ofEntries entries).lookup key = entries.reverse.lookup key := by
  unfold ofEntries
  rw [lookup_foldl_insert, lookup_empty, Option.or_none]

/-- The entries of a dictionary from the last one on give what it gives. -/
theorem lookup_reverse (dictionary : Dictionary κ ν) :
    dictionary.entries.reverse.lookup key = dictionary.lookup key := by
  ext value
  rw [lookup_eq_some, List.lookup_eq_some_iff]
  constructor
  · rintro ⟨before, after, split, -⟩
    rw [← List.mem_reverse, split]
    exact List.mem_append_right _ List.mem_cons_self
  · intro member
    obtain ⟨before, after, split⟩ := List.append_of_mem member
    refine ⟨after.reverse, before.reverse, by simp [split], fun entry later => ?_⟩
    have sorted := dictionary.sorted
    rw [split] at sorted
    have less := (List.pairwise_cons.mp (List.pairwise_append.mp sorted).2.1).1 entry
      (List.mem_reverse.mp later)
    simpa using less.ne

/-- **The entries of a dictionary make it again.** -/
@[simp] theorem ofEntries_entries (dictionary : Dictionary κ ν) : ofEntries dictionary.entries = dictionary :=
  ext_lookup fun _ => (lookup_ofEntries _).trans (lookup_reverse dictionary)

end Dictionary
