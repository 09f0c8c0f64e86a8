/-
**Texts that show where they end.**

* `Reveals` — a text, whatever follows it, tells something of its origin and where it ends; `Delimited` — it
  tells its origin.
* `Reveals.append`, `Reveals.literal`, `Reveals.intercalate` — texts one after the other.
* `delimited_of_prefix` — texts none of which begins another.
* `Delimited.optional`, `Delimited.terminated` — a text for no value; a list up to a mark.
-/
import Mathlib.Data.List.Basic
import Mathlib.Data.List.Infix

namespace Delimiting

variable {α β σ : Type*}

/-! ### Revealing an origin -/

/-- **A text tells that two origins are the same** in some respect, and what follows it. -/
def Reveals (write : α → List σ) (same : α → α → Prop) : Prop :=
  ∀ one two rest rest', write one ++ rest = write two ++ rest' → same one two ∧ rest = rest'

/-- **A text tells its origin.** -/
abbrev Delimited (write : α → List σ) : Prop := Reveals write Eq

section Reveals

variable {write first second : α → List σ} {same same' : α → α → Prop}

theorem Reveals.mono (reveals : Reveals write same) (weaker : ∀ one two, same one two → same' one two) :
    Reveals write same' := by
  intro one two rest rest' equal
  obtain ⟨told, follows⟩ := reveals one two rest rest' equal
  exact ⟨weaker one two told, follows⟩

/-- A fixed text tells nothing. -/
theorem Reveals.literal (text : List σ) : Reveals (fun _ : α => text) fun _ _ => True :=
  fun _ _ _ _ equal => ⟨trivial, List.append_cancel_left equal⟩

/-- **Two texts, one after the other**, tell what both tell. -/
theorem Reveals.append (one : Reveals first same) (two : Reveals second same') :
    Reveals (fun origin => first origin ++ second origin) fun left right =>
      same left right ∧ same' left right := by
  intro left right rest rest' equal
  rw [List.append_assoc, List.append_assoc] at equal
  obtain ⟨here, follows⟩ := one left right _ _ equal
  obtain ⟨there, rests⟩ := two left right _ _ follows
  exact ⟨⟨here, there⟩, rests⟩

/-- **Texts with a fixed text between them** tell what each of them tells. -/
theorem Reveals.intercalate (between : List σ) {parts : List ((α → List σ) × (α → α → Prop))}
    (each : ∀ part ∈ parts, Reveals part.1 part.2) :
    Reveals (fun origin => between.intercalate (parts.map fun part => part.1 origin)) fun left right =>
      ∀ part ∈ parts, part.2 left right := by
  induction parts with
  | nil => exact (Reveals.literal []).mono fun _ _ _ _ impossible => nomatch impossible
  | cons part parts ih =>
    have head := each part List.mem_cons_self
    have tail := ih fun other member => each other (List.mem_cons_of_mem _ member)
    cases parts with
    | nil =>
      intro left right rest rest' equal
      simp only [List.map_singleton, List.intercalate_singleton] at equal
      obtain ⟨told, follows⟩ := head left right rest rest' equal
      exact ⟨fun other member => List.mem_singleton.mp member ▸ told, follows⟩
    | cons next parts =>
      intro left right rest rest' equal
      simp only [List.map_cons, List.intercalate_cons_cons] at equal
      have both := (head.append (Reveals.literal between)).append tail
      obtain ⟨⟨⟨told, -⟩, others⟩, follows⟩ := both left right rest rest' (by simpa using equal)
      exact ⟨fun other member => (List.mem_cons.mp member).elim (fun here => here ▸ told)
        (others other), follows⟩

/-- **A text that tells enough is delimited.** -/
theorem Reveals.delimited (reveals : Reveals write same) (enough : ∀ one two, same one two → one = two) :
    Delimited write :=
  reveals.mono enough

/-- The text of a part tells the part. -/
theorem Delimited.part {write : β → List σ} (delimited : Delimited write) (part : α → β) :
    Reveals (fun origin => write (part origin)) fun one two => part one = part two :=
  fun one two rest rest' equal => delimited (part one) (part two) rest rest' equal

/-- Different values have different texts. -/
theorem Delimited.injective (delimited : Delimited write) : Function.Injective write :=
  fun one two equal => (delimited one two [] [] (congrArg (· ++ []) equal)).1

/-- **Texts none of which begins another** are delimited. -/
theorem delimited_of_prefix (free : ∀ one two, write one <+: write two → one = two) : Delimited write := by
  intro one two rest rest' equal
  have origins : one = two := by
    rcases List.prefix_or_prefix_of_prefix ⟨rest, equal⟩ ⟨rest', rfl⟩ with begins | begins
    · exact free one two begins
    · exact (free two one begins).symm
  subst origins
  exact ⟨rfl, List.append_cancel_left equal⟩

end Reveals

/-! ### Options and lists -/

section Containers

variable {write : α → List σ} {mark : σ}

/-- The text of an optional value, with one for no value. -/
def optional (write : α → List σ) (absent : List σ) : Option α → List σ
  | none => absent
  | some value => write value

/-- **An optional value**, when no text starts as the one for no value. -/
theorem Delimited.optional (delimited : Delimited write) {absent : List σ}
    (apart : ∀ value, ∃ first rest, write value = first :: rest ∧ first ≠ mark) :
    Delimited (optional write (mark :: absent)) := by
  intro one two rest rest' equal
  cases one with
  | none =>
    cases two with
    | none => exact ⟨rfl, List.append_cancel_left equal⟩
    | some value =>
      obtain ⟨first, others, shape, differs⟩ := apart value
      simp only [Delimiting.optional, shape] at equal
      exact absurd (List.cons.inj equal).1.symm differs
  | some value =>
    cases two with
    | none =>
      obtain ⟨first, others, shape, differs⟩ := apart value
      simp only [Delimiting.optional, shape] at equal
      exact absurd (List.cons.inj equal).1 differs
    | some value' =>
      obtain ⟨values, rests⟩ := delimited value value' rest rest' equal
      exact ⟨congrArg some values, rests⟩

/-- The text of a list up to a mark. -/
def terminated (write : α → List σ) (mark : σ) (items : List α) : List σ :=
  items.flatMap write ++ [mark]

/-- **A list up to a mark**, when the mark begins the text of no item. -/
theorem Delimited.terminated (delimited : Delimited write)
    (apart : ∀ item, ∃ first rest, write item = first :: rest ∧ first ≠ mark) :
    Delimited (terminated write mark) := by
  intro one
  unfold Delimiting.terminated
  induction one with
  | nil =>
    intro two rest rest' equal
    cases two with
    | nil => exact ⟨rfl, (List.cons.inj equal).2⟩
    | cons item items =>
      obtain ⟨first, others, shape, differs⟩ := apart item
      rw [List.flatMap_cons, shape] at equal
      exact absurd (List.cons.inj equal).1.symm differs
  | cons item items ih =>
    intro two rest rest' equal
    cases two with
    | nil =>
      obtain ⟨first, others, shape, differs⟩ := apart item
      rw [List.flatMap_cons, shape] at equal
      exact absurd (List.cons.inj equal).1 differs
    | cons item' items' =>
      rw [List.flatMap_cons, List.flatMap_cons, List.append_assoc, List.append_assoc, List.append_assoc,
        List.append_assoc] at equal
      obtain ⟨here, follows⟩ := delimited item item' _ _ equal
      rw [← List.append_assoc, ← List.append_assoc] at follows
      obtain ⟨others, rests⟩ := ih items' rest rest' follows
      exact ⟨List.cons_eq_cons.mpr ⟨here, others⟩, rests⟩

end Containers

end Delimiting
