import ObjectMemory.Proofs.Store.Marks

/-!
# Edits that take effect

An edit changes an instance or it does not, and its answer tells: a variable is written, also with
the value that it has, or one that is there is removed, and neither is refused because the name is
reserved.  The mark of the instance says the same, and the store turns it into the dirty flag of the
entry.  As no cached instance has a mark before an update (`Unmarked`), the flag is set by the
update exactly if an edit took effect.

* `Edit.TookEffect`, `SomeTookEffect` — edits that change an instance, by their answers;
* `modified_editAll_iff` — they are those that mark it;
* `isDirty_edit`, `isDirty_editAll` — the dirty flag after an update;
* `exists_setVar_eq_ok_iff`, `exists_removeVar_eq_ok_iff` — edits of one variable;
* `isDirty_load`, `isDirty_markDirty` — the flag after the other uses of an entry.
-/

namespace ObjectMemory

open Backend Json

/-! ## Edits that take effect -/

/-- An edit took effect, as its answer tells: a variable was written, or one that was there was
removed. -/
def Edit.TookEffect : Edit → Except ReservedField (Option Value) → Prop
  | set _ _, .ok _ => True
  | remove _, .ok (some _) => True
  | _, _ => False

lemma Edit.modified_perform_iff (edit : Edit) (object : Instance) :
    (edit.perform object).2.modified = true ↔
      object.modified = true ∨ edit.TookEffect (edit.perform object).1 := by
  cases edit with
  | set name value =>
      simp only [perform, Instance.set]
      split_ifs <;> simp [TookEffect]
  | remove name =>
      simp only [perform, Instance.remove]
      split_ifs
      · simp [TookEffect]
      · split <;> simp [TookEffect]

/-- One of several edits took effect, as their answers tell. -/
def SomeTookEffect (edits : List Edit)
    (answers : List (Except ReservedField (Option Value))) : Prop :=
  ∃ step ∈ edits.zip answers, step.1.TookEffect step.2

/-- Edits mark an instance exactly if one of them took effect. -/
lemma modified_editAll_iff {edits : List Edit} : ∀ {object : Instance},
    (editAll edits object).2.modified = true ↔
      object.modified = true ∨ SomeTookEffect edits (editAll edits object).1 := by
  induction edits with
  | nil => simp [editAll, SomeTookEffect]
  | cons edit rest ih =>
      intro object
      have hrest := @ih (edit.perform object).2
      rw [edit.modified_perform_iff] at hrest
      rw [SomeTookEffect] at hrest ⊢
      simp only [editAll, List.zip_cons_cons, List.exists_mem_cons_iff, hrest, or_assoc]

namespace Store

/-! ## Updates -/

section

variable {β : Type} [DocumentStore β] {store : Store β} {id : String}

lemma update_eq_ok_iff {α : Type} {edit : Instance → α × Instance} {answer : α} :
    (store.update id edit).1 = .ok answer ↔
      ∃ object, (store.load id).1 = .ok object ∧ (edit object).1 = answer := by
  cases hdemand : store.demand id with
  | error error => simp [update_of_error edit hdemand, load_of_error hdemand]
  | ok entry => simp [update_of_demand edit hdemand, load_of_demand hdemand]

lemma flatten_eq_ok_iff {α : Type} {outcome : Except Error (Except ReservedField α)} {answer : α} :
    flatten outcome = .ok answer ↔ outcome = .ok (.ok answer) := by
  rcases outcome with error | field | before <;> simp [flatten]

lemma isDirty_load (id : String) : (store.load id).2.isDirty id = store.isDirty id := by
  cases hdemand : store.demand id with
  | error error => rw [load_of_error hdemand]
  | ok entry =>
      rw [load_of_demand hdemand, isDirty_remember_self, isDirty_of_demand hdemand]
      rfl

/-- An update makes an entry dirty exactly if it leaves a mark on the instance. -/
lemma isDirty_update {α : Type} (unmarked : store.Unmarked) (id : String)
    (edit : Instance → α × Instance) :
    (store.update id edit).2.isDirty id = true ↔ store.isDirty id = true ∨
      ∃ object, (store.load id).1 = .ok object ∧ object.modified = false ∧
        (edit object).2.modified = true := by
  cases hdemand : store.demand id with
  | error error => simp [update_of_error edit hdemand, load_of_error hdemand]
  | ok entry =>
      have hmark := unmarked.demand hdemand
      simp [update_of_demand edit hdemand, load_of_demand hdemand, isDirty_remember_self,
        isDirty_of_demand hdemand, Entry.edited, hmark]

lemma isDirty_edit (unmarked : store.Unmarked) (id : String) (edit : Edit) :
    (store.update id edit.perform).2.isDirty id = true ↔ store.isDirty id = true ∨
      ∃ answer, (store.update id edit.perform).1 = .ok answer ∧ edit.TookEffect answer := by
  rw [isDirty_update unmarked]
  refine or_congr_right ⟨?_, ?_⟩
  · rintro ⟨object, hload, hmark, hmodified⟩
    rw [edit.modified_perform_iff, hmark] at hmodified
    exact ⟨_, update_eq_ok_iff.mpr ⟨object, hload, rfl⟩, hmodified.resolve_left (by decide)⟩
  · rintro ⟨answer, hanswer, heffect⟩
    obtain ⟨object, hload, rfl⟩ := update_eq_ok_iff.mp hanswer
    obtain ⟨entry, hdemand, rfl⟩ := demand_of_load hload
    exact ⟨_, hload, unmarked.demand hdemand, edit.modified_perform_iff _ |>.mpr (.inr heffect)⟩

lemma isDirty_editAll (unmarked : store.Unmarked) (id : String) (edits : Instance → List Edit) :
    (store.update id fun object => editAll (edits object) object).2.isDirty id = true ↔
      store.isDirty id = true ∨ ∃ object answers, (store.load id).1 = .ok object ∧
        (store.update id fun object => editAll (edits object) object).1 = .ok answers ∧
        SomeTookEffect (edits object) answers := by
  rw [isDirty_update unmarked]
  refine or_congr_right ⟨?_, ?_⟩
  · rintro ⟨object, hload, hmark, hmodified⟩
    rw [modified_editAll_iff, hmark] at hmodified
    exact ⟨object, _, hload, update_eq_ok_iff.mpr ⟨object, hload, rfl⟩,
      hmodified.resolve_left (by decide)⟩
  · rintro ⟨object, answers, hload, hanswers, heffect⟩
    obtain ⟨same, hsame, rfl⟩ := update_eq_ok_iff.mp hanswers
    obtain rfl : object = same := Except.ok.inj (hload.symm.trans hsame)
    obtain ⟨entry, hdemand, rfl⟩ := demand_of_load hload
    exact ⟨_, hload, unmarked.demand hdemand, modified_editAll_iff.mpr (.inr heffect)⟩

/-- Writing a variable takes effect whenever it is not refused. -/
lemma exists_setVar_eq_ok_iff {name : String} {value : Value} :
    (∃ before, (store.setVar id name value).1 = .ok before) ↔
      ∃ answer, (store.update id (Edit.set name value).perform).1 = .ok answer ∧
        (Edit.set name value).TookEffect answer := by
  constructor
  · rintro ⟨before, h⟩
    exact ⟨.ok before, flatten_eq_ok_iff.mp h, trivial⟩
  · rintro ⟨field | before, hanswer, heffect⟩
    · exact heffect.elim
    · exact ⟨before, flatten_eq_ok_iff.mpr hanswer⟩

lemma exists_removeVar_eq_ok_iff {name : String} :
    (∃ value, (store.removeVar id name).1 = .ok (some value)) ↔
      ∃ answer, (store.update id (Edit.remove name).perform).1 = .ok answer ∧
        (Edit.remove name).TookEffect answer := by
  constructor
  · rintro ⟨value, h⟩
    exact ⟨.ok (some value), flatten_eq_ok_iff.mp h, trivial⟩
  · rintro ⟨field | ⟨- | value⟩, hanswer, heffect⟩
    · exact heffect.elim
    · exact heffect.elim
    · exact ⟨value, flatten_eq_ok_iff.mpr hanswer⟩

omit [DocumentStore β] in
lemma isDirty_markDirty (id : String) :
    (store.markDirty id).2.isDirty id = true ↔
      store.isDirty id = true ∨ (store.markDirty id).1 = true := by
  rw [markDirty]
  cases hcached : store.cache.get? id with
  | none => simp
  | some entry => simp [isDirty_remember_self]

end

end Store

end ObjectMemory
