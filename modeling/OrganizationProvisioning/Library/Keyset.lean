/-
**Keyset pagination.**

The keys of a set that changes between the calls are read in descending order, page by page: each call
gives the keys below a cursor, and the last key of its page is the next cursor.

* `Page` — what one page is; `Page.ends_iff` — there is no next cursor exactly when nothing is left.
* `Page.remaining_lt` — a page with a next cursor leaves less than there was.
* `page_of_sorted` — one key more than asked for tells whether there is a next page.
* `Walk` — pages that follow one another, whatever became of the set between them.
* `Walk.sorted`, `Walk.covers` — the keys of a walk descend strictly, and a key present throughout is among
  them once the walk has passed it.
* `Walk.exhausts` — over one set the keys of an ended walk are all its keys.
-/
import Mathlib.Data.List.Induction
import Mathlib.Data.List.Pairwise
import Mathlib.Data.Set.Defs
import Mathlib.Order.Lattice

namespace Keyset

variable {Key : Type} [LinearOrder Key]

/-- The key is below the cursor; without a cursor every key is. -/
def Below (after : Option Key) (key : Key) : Prop := ∀ cursor, after = some cursor → key < cursor

theorem below_none {key : Key} : Below none key := fun _ impossible => by cases impossible

theorem below_some {cursor key : Key} : Below (some cursor) key ↔ key < cursor :=
  ⟨fun below => below cursor rfl, fun less _ same => by cases same; exact less⟩

/-- **A page** of the keys that are present, after a cursor. -/
structure Page (present : Set Key) (after : Option Key) (keys : List Key) (next : Option Key) :
    Prop where
  sorted : keys.Pairwise (· > ·)
  inside : ∀ key ∈ keys, key ∈ present ∧ Below after key
  covers : ∀ key ∈ present, Below after key → key ∉ keys → ∃ cursor, next = some cursor ∧ key < cursor
  last : ∀ cursor, next = some cursor → keys.getLast? = some cursor
  more : ∀ cursor, next = some cursor → ∃ key ∈ present, key < cursor

section Page

variable {present : Set Key} {after next : Option Key} {keys : List Key} {cursor key : Key}

/-- The last key of a descending list is the least. -/
theorem last_le (sorted : keys.Pairwise (· > ·)) (last : keys.getLast? = some cursor)
    (member : key ∈ keys) : cursor ≤ key := by
  induction keys using List.reverseRecOn with
  | nil => cases member
  | append_singleton keys final _ =>
    rw [List.getLast?_concat, Option.some.injEq] at last
    subst last
    rcases List.mem_append.mp member with early | here
    · exact ((List.pairwise_append.mp sorted).2.2 key early _ List.mem_cons_self).le
    · rw [List.mem_singleton.mp here]

namespace Page

theorem cursor_mem (page : Page present after keys (some cursor)) : cursor ∈ keys :=
  List.mem_of_getLast? (page.last cursor rfl)

/-- The next cursor is below the one before. -/
theorem cursor_below (page : Page present after keys (some cursor)) : Below after cursor :=
  (page.inside cursor page.cursor_mem).2

theorem below_of_lt (page : Page present after keys (some cursor)) (less : key < cursor) :
    Below after key :=
  fun bound same => less.trans (page.cursor_below bound same)

/-- **There is no next cursor exactly when no key is left.** -/
theorem ends_iff (page : Page present after keys next) :
    next = none ↔ ∀ key ∈ present, Below after key → key ∈ keys := by
  constructor
  · rintro rfl key member below
    by_contra missing
    obtain ⟨cursor, impossible, -⟩ := page.covers key member below missing
    cases impossible
  · intro all
    cases next with
    | none => rfl
    | some cursor =>
      obtain ⟨key, member, less⟩ := page.more cursor rfl
      have listed := all key member (page.below_of_lt less)
      exact absurd less (last_le page.sorted (page.last cursor rfl) listed).not_gt

end Page

/-! ### What is left -/

/-- The keys after a cursor. -/
def remaining (all : List Key) (after : Option Key) : List Key :=
  all.filter fun key => after.all fun cursor => key < cursor

theorem mem_remaining {all : List Key} : key ∈ remaining all after ↔ key ∈ all ∧ Below after key := by
  unfold remaining
  rw [List.mem_filter, Option.all_eq_true]
  exact and_congr_right fun _ => forall_congr' fun _ => imp_congr_right fun _ => decide_eq_true_iff

/-- **A page with a next cursor leaves less than there was.** -/
theorem Page.remaining_lt {all : List Key} (mem : ∀ key, key ∈ all ↔ key ∈ present)
    (page : Page present after keys (some cursor)) :
    (remaining all (some cursor)).length < (remaining all after).length := by
  have left : remaining all (some cursor) =
      (remaining all after).filter fun key => key < cursor := by
    unfold remaining
    rw [List.filter_filter]
    refine List.filter_congr fun key _ => ?_
    rw [Option.all_some, Bool.eq_iff_iff, Bool.and_eq_true, decide_eq_true_eq]
    refine ⟨fun less => ⟨less, ?_⟩, fun both => both.1⟩
    rw [Option.all_eq_true]
    exact fun bound same => decide_eq_true (page.below_of_lt less bound same)
  rw [left, List.length_filter_lt_length_iff_exists]
  refine ⟨cursor, mem_remaining.mpr ⟨(mem cursor).mpr ?_, page.cursor_below⟩, by simp⟩
  exact (page.inside cursor page.cursor_mem).1

/-! ### A page with one key of lookahead -/

/-- The keys of a page that was asked for with one key more, and its next cursor. -/
def truncate (limit : Nat) (found : List Key) : List Key × Option Key :=
  if limit < found.length then (found.take limit, (found.take limit).getLast?) else (found, none)

/-- **One key more than asked for tells whether there is a next page.** -/
theorem page_of_sorted {limit : Nat} {all : List Key} (positive : 0 < limit)
    (sorted : all.Pairwise (· > ·)) (mem : ∀ key, key ∈ all ↔ key ∈ present ∧ Below after key) :
    Page present after (truncate limit (all.take (limit + 1))).1
      (truncate limit (all.take (limit + 1))).2 := by
  have split : all.take limit ++ all.drop limit = all := List.take_append_drop limit all
  have ordered : ∀ early ∈ all.take limit, ∀ late ∈ all.drop limit, early > late := by
    rw [← split] at sorted
    exact (List.pairwise_append.mp sorted).2.2
  unfold truncate
  rw [List.take_take, Nat.min_eq_left (Nat.le_succ limit), List.length_take]
  by_cases full : limit < all.length
  · rw [if_pos (by omega)]
    have some : all.take limit ≠ [] := by
      rw [← List.length_pos_iff, List.length_take]
      omega
    have last := List.getLast?_eq_some_getLast some
    refine ⟨sorted.sublist (List.take_sublist _ _), fun key member =>
      (mem key).mp (List.mem_of_mem_take member), fun key member below missing => ?_,
      fun cursor same => same, fun cursor same => ?_⟩
    · have late : key ∈ all.drop limit := by
        have listed := (mem key).mpr ⟨member, below⟩
        rw [← split] at listed
        exact (List.mem_append.mp listed).resolve_left missing
      exact ⟨_, last, ordered _ (List.getLast_mem some) key late⟩
    · have rest : all.drop limit ≠ [] := by
        rw [← List.length_pos_iff, List.length_drop]
        omega
      have late := List.head_mem rest
      refine ⟨_, ((mem _).mp (List.mem_of_mem_drop late)).1, ordered cursor ?_ _ late⟩
      exact List.mem_of_getLast? same
  · rw [if_neg (by omega), List.take_of_length_le (by omega)]
    refine ⟨sorted, fun key => (mem key).mp, fun key member below missing => ?_, ?_, ?_⟩
    · exact absurd ((mem key).mpr ⟨member, below⟩) missing
    · exact fun _ impossible => by cases impossible
    · exact fun _ impossible => by cases impossible

end Page

/-! ### Walks -/

/-- **Pages that follow one another**, each after the cursor the one before gave. -/
inductive Walk : Option Key → List (Set Key × List Key) → Option Key → Prop
  | last {present : Set Key} {after next : Option Key} {keys : List Key}
      (page : Page present after keys next) : Walk after [(present, keys)] next
  | step {present : Set Key} {after next : Option Key} {keys : List Key} {cursor : Key}
      {pages : List (Set Key × List Key)} (page : Page present after keys (some cursor))
      (rest : Walk (some cursor) pages next) : Walk after ((present, keys) :: pages) next

/-- The keys of a walk. -/
def walked (pages : List (Set Key × List Key)) : List Key := pages.flatMap fun page => page.2

namespace Walk

variable {after next : Option Key} {pages : List (Set Key × List Key)} {key : Key}

theorem keys_below (walk : Walk after pages next) (member : key ∈ walked pages) : Below after key := by
  induction walk with
  | last page =>
    rw [walked, List.flatMap_cons, List.flatMap_nil, List.append_nil] at member
    exact (page.inside key member).2
  | step page rest ih =>
    rw [walked, List.flatMap_cons] at member
    rcases List.mem_append.mp member with here | later
    · exact (page.inside key here).2
    · exact page.below_of_lt (below_some.mp (ih later))

/-- **The keys of a walk descend strictly.** -/
theorem sorted (walk : Walk after pages next) : (walked pages).Pairwise (· > ·) := by
  induction walk with
  | last page =>
    rw [walked, List.flatMap_cons, List.flatMap_nil, List.append_nil]
    exact page.sorted
  | step page rest ih =>
    rw [walked, List.flatMap_cons, List.pairwise_append]
    refine ⟨page.sorted, ih, fun early here late later => ?_⟩
    exact (below_some.mp (rest.keys_below later)).trans_le (last_le page.sorted (page.last _ rfl) here)

/-- **A key present throughout is in the walk**, once the walk has passed it. -/
theorem covers (walk : Walk after pages next) (below : Below after key)
    (throughout : ∀ page ∈ pages, key ∈ page.1) :
    key ∈ walked pages ∨ ∃ cursor, next = some cursor ∧ key < cursor := by
  induction walk with
  | @last present after next keys page =>
    rw [walked, List.flatMap_cons, List.flatMap_nil, List.append_nil]
    by_cases listed : key ∈ keys
    · exact Or.inl listed
    · exact Or.inr (page.covers key (throughout _ List.mem_cons_self) below listed)
  | @step present after next keys cursor pages page rest ih =>
    rw [walked, List.flatMap_cons]
    by_cases listed : key ∈ keys
    · exact Or.inl (List.mem_append_left _ listed)
    · obtain ⟨bound, same, less⟩ := page.covers key (throughout _ List.mem_cons_self) below listed
      cases same
      rcases ih (below_some.mpr less) fun other member =>
        throughout other (List.mem_cons_of_mem _ member) with later | beyond
      · exact Or.inl (List.mem_append_right _ later)
      · exact Or.inr beyond

/-- The keys of a walk are of its sets. -/
theorem inside (walk : Walk after pages next) (member : key ∈ walked pages) :
    ∃ page ∈ pages, key ∈ page.1 ∧ key ∈ page.2 := by
  induction walk with
  | last page =>
    rw [walked, List.flatMap_cons, List.flatMap_nil, List.append_nil] at member
    exact ⟨_, List.mem_cons_self, (page.inside key member).1, member⟩
  | step page rest ih =>
    rw [walked, List.flatMap_cons] at member
    rcases List.mem_append.mp member with here | later
    · exact ⟨_, List.mem_cons_self, (page.inside key here).1, here⟩
    · obtain ⟨other, listed, holds⟩ := ih later
      exact ⟨other, List.mem_cons_of_mem _ listed, holds⟩

/-- Descending lists with the same members are one. -/
theorem eq_of_sorted {first second : List Key} (one : first.Pairwise (· > ·))
    (two : second.Pairwise (· > ·)) (same : ∀ key, key ∈ first ↔ key ∈ second) : first = second := by
  have distinct : ∀ {keys : List Key}, keys.Pairwise (· > ·) → keys.Nodup := fun sorted =>
    sorted.imp fun greater => (ne_of_gt greater)
  refine List.Perm.eq_of_pairwise ?_ one two ?_
  · exact fun a b _ _ greater less => absurd greater less.not_gt
  · exact (List.perm_ext_iff_of_nodup (distinct one) (distinct two)).mpr same

/-- **Over one set an ended walk gives all its keys.** -/
theorem exhausts {present : Set Key} {all : List Key} (walk : Walk none pages none)
    (unchanged : ∀ page ∈ pages, page.1 = present) (sorted : all.Pairwise (· > ·))
    (mem : ∀ key, key ∈ all ↔ key ∈ present) : walked pages = all := by
  refine eq_of_sorted walk.sorted sorted fun key => ?_
  rw [mem]
  constructor
  · intro member
    obtain ⟨page, listed, holds, -⟩ := walk.inside member
    rwa [unchanged page listed] at holds
  · intro member
    refine (walk.covers below_none fun page listed => ?_).resolve_right ?_
    · rw [unchanged page listed]
      exact member
    · rintro ⟨cursor, impossible, -⟩
      cases impossible

end Walk

end Keyset
