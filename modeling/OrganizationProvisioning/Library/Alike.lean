/-
**Two runs of one program.**

* `Alike` — from any two related stores the program ends alike: with one value and related stores, or with
  one error.
* `Alike.pure`, `Alike.abort`, `Alike.bind`, `Alike.mono`, `Alike.fact`, `Alike.frame` — the rules of a
  relational logic.
* `Alike.of_asks` — where every statement of the program answers alike and keeps the relation, so does the
  program.
-/
import OrganizationProvisioning.Library.Computed

namespace Transactional.Engine

variable {Op : Type} {Answer : Op → Type} {ε Store Image α β : Type}
  (engine : Engine Op Answer ε Store Image) [∀ op store, Decidable (engine.refuses op store)]
  (answer : (op : Op) → Store → Answer op)

/-- **From related stores the program ends alike.** -/
def Alike (Pre : Store → Store → Prop) (program : Tx Op Answer ε α)
    (Post : α → Store → Store → Prop) : Prop :=
  ∀ one two, Pre one two →
    (∃ value final final', engine.run answer program one = .ok (value, final) ∧
      engine.run answer program two = .ok (value, final') ∧ Post value final final') ∨
    ∃ error, engine.run answer program one = .error error ∧
      engine.run answer program two = .error error

/-- The statement is refused in both stores or in none, and where it is not it answers alike. -/
def AnswersAlike (Pre : Store → Store → Prop) (op : Op) (Post : Answer op → Store → Store → Prop) : Prop :=
  ∀ one two, Pre one two → (engine.refuses op one ↔ engine.refuses op two) ∧
    (¬ engine.refuses op one → answer op one = answer op two ∧
      Post (answer op one) (engine.after op one (answer op one))
        (engine.after op two (answer op two)))

omit [∀ op store, Decidable (engine.refuses op store)] in
/-- Related stores stay related under row versions that keep the relation. -/
theorem install_related {Rel : Store → Store → Prop} {images : List Image}
    (keeps : ∀ image ∈ images, ∀ one two, Rel one two → Rel (engine.apply image one) (engine.apply image two))
    {one two : Store} (related : Rel one two) :
    Rel (engine.install images one) (engine.install images two) := by
  induction images generalizing one two with
  | nil => exact related
  | cons image images ih =>
    refine ih (fun other member => keeps other (List.mem_cons_of_mem _ member)) ?_
    exact keeps image List.mem_cons_self one two related

namespace Alike

variable {engine answer} {Pre Pre' : Store → Store → Prop} {program : Tx Op Answer ε α}
  {Post Post' : α → Store → Store → Prop}

theorem pure {value : α} (holds : ∀ one two, Pre one two → Post value one two) :
    engine.Alike answer Pre (.pure value) Post :=
  fun one two related => Or.inl ⟨value, one, two, rfl, rfl, holds one two related⟩

theorem abort {error : ε} : engine.Alike answer Pre (.abort error) Post :=
  fun _ _ _ => Or.inr ⟨error, rfl, rfl⟩

/-- The relation before may be stronger, the one after weaker. -/
theorem mono (alike : engine.Alike answer Pre program Post) (before : ∀ one two, Pre' one two → Pre one two)
    (after : ∀ value one two, Post value one two → Post' value one two) :
    engine.Alike answer Pre' program Post' := by
  intro one two related
  rcases alike one two (before one two related) with ⟨value, final, final', ran, ran', holds⟩ | failed
  · exact Or.inl ⟨value, final, final', ran, ran', after value final final' holds⟩
  · exact Or.inr failed

/-- A fact that speaks of no store may be assumed. -/
theorem fact {holds : Prop} (alike : holds → engine.Alike answer Pre program Post) :
    engine.Alike answer (fun one two => holds ∧ Pre one two) program Post :=
  fun one two related => alike related.1 one two related.2

/-- **What every run of the program makes of the first store may be carried along.** -/
theorem frame {Inv : Store → Prop} {Inv' : α → Store → Prop} (alike : engine.Alike answer Pre program Post)
    (makes : ∀ store value final, engine.run answer program store = .ok (value, final) → Inv store →
      Inv' value final) :
    engine.Alike answer (fun one two => Pre one two ∧ Inv one) program
      fun value one two => Post value one two ∧ Inv' value one := by
  rintro one two ⟨related, holds⟩
  rcases alike one two related with ⟨value, final, final', ran, ran', after⟩ | failed
  · exact Or.inl ⟨value, final, final', ran, ran', after, makes one value final ran holds⟩
  · exact Or.inr failed

/-- **A sequence ends alike when its parts do.** -/
theorem bind {rest : α → Tx Op Answer ε β} {Mid : α → Store → Store → Prop}
    {Last : β → Store → Store → Prop} (first : engine.Alike answer Pre program Mid)
    (second : ∀ value, engine.Alike answer (Mid value) (rest value) Last) :
    engine.Alike answer Pre (program.bind rest) Last := by
  intro one two related
  rcases first one two related with ⟨value, middle, middle', ran, ran', holds⟩ | ⟨error, ran, ran'⟩
  · rw [engine.run_bind, engine.run_bind, ran, ran']
    exact second value middle middle' holds
  · refine Or.inr ⟨error, ?_, ?_⟩
    · rw [engine.run_bind, ran]
      rfl
    · rw [engine.run_bind, ran']
      rfl

/-- One statement. -/
theorem perform {op : Op} {Last : Answer op → Store → Store → Prop}
    (alike : engine.AnswersAlike answer Pre op Last) :
    engine.Alike answer Pre (Tx.perform op) Last := by
  intro one two related
  obtain ⟨refusal, accepted⟩ := alike one two related
  by_cases refused : engine.refuses op one
  · refine Or.inr ⟨engine.failure op, ?_, ?_⟩
    · rw [Tx.perform, run, if_pos refused]
    · rw [Tx.perform, run, if_pos (refusal.mp refused)]
  · obtain ⟨same, holds⟩ := accepted refused
    refine Or.inl ⟨answer op one, _, _, engine.run_perform refused, ?_, holds⟩
    rw [engine.run_perform (fun other => refused (refusal.mpr other)), same]

/-- **A program ends alike when every statement it sends does.** -/
theorem of_asks {P : Op → Prop} {Rel : Store → Store → Prop}
    (statement : ∀ op, P op → engine.AnswersAlike answer Rel op fun _ => Rel)
    (asks : Asks P program) : engine.Alike answer Rel program fun _ => Rel := by
  induction asks with
  | pure value => exact .pure fun _ _ related => related
  | abort error => exact .abort
  | @query op next holds _ ih =>
    have first : engine.Alike answer Rel (Tx.perform op) fun _ => Rel := .perform (statement op holds)
    exact first.bind ih

end Alike

end Transactional.Engine
