import ObjectMemory.Instance.Document
import ObjectMemory.Proofs.Json.Limits
import ObjectMemory.SortedMap.Lemmas

/-!
# The standard fields among the data

An instance keeps its standard fields twice, and its document is its data with the fields written
over them.  An instance is `Mirrored` when that changes nothing, which is to say that the data agree
with the fields at the three reserved keys (`mirrored_iff`).  Writing the fields makes data agree
with them (`mirrored_withStandardFields`), and no edit touches a reserved key, so the two never
drift apart.

* `ofData_eq_ok_iff` — data that give an instance, and which one;
* `Edit`, `editAll` — changes of a variable, and of several one after the other;
* `Edit.mirrored` — edits keep data and fields together;
* `Instance.Marks` — a change leaves its mark; `Edit.marks`, `marks_editAll` — edits do.
-/

namespace ObjectMemory

open Json

/-! ## Reserved keys -/

lemma isReserved_iff {name : String} :
    isReserved name = true ↔ name = classKey ∨ name = createdAtKey ∨ name = declaredKey := by
  simp [isReserved, or_assoc]

lemma createdAtKey_ne_classKey : createdAtKey ≠ classKey := by decide

lemma declaredKey_ne_classKey : declaredKey ≠ classKey := by decide

lemma declaredKey_ne_createdAtKey : declaredKey ≠ createdAtKey := by decide

namespace Instance

/-- The member for the declared names, if there are any. -/
def declaredMember (declared : List String) : Option Value :=
  if declared.isEmpty then none else some (.arr (declared.map .str))

variable {className : String} {createdAt : Timestamp} {declared : List String} {data : Object}

@[simp] lemma get?_withStandardFields_class :
    (withStandardFields className createdAt declared data).get? classKey
      = some (.str className) := by
  rw [withStandardFields]
  split_ifs
  · rw [SortedMap.get?_erase_of_ne declaredKey_ne_classKey.symm,
      SortedMap.get?_insert_of_ne createdAtKey_ne_classKey.symm, SortedMap.get?_insert_self]
  · rw [SortedMap.get?_insert_of_ne declaredKey_ne_classKey.symm,
      SortedMap.get?_insert_of_ne createdAtKey_ne_classKey.symm, SortedMap.get?_insert_self]

@[simp] lemma get?_withStandardFields_createdAt :
    (withStandardFields className createdAt declared data).get? createdAtKey
      = some (.str createdAt.encode) := by
  rw [withStandardFields]
  split_ifs
  · rw [SortedMap.get?_erase_of_ne declaredKey_ne_createdAtKey.symm, SortedMap.get?_insert_self]
  · rw [SortedMap.get?_insert_of_ne declaredKey_ne_createdAtKey.symm, SortedMap.get?_insert_self]

@[simp] lemma get?_withStandardFields_declared :
    (withStandardFields className createdAt declared data).get? declaredKey
      = declaredMember declared := by
  rw [withStandardFields, declaredMember]
  split_ifs
  · exact SortedMap.get?_erase_self ..
  · exact SortedMap.get?_insert_self ..

lemma get?_withStandardFields_variable {name : String} (h : isReserved name = false) :
    (withStandardFields className createdAt declared data).get? name = data.get? name := by
  have hne : ¬(name = classKey ∨ name = createdAtKey ∨ name = declaredKey) := by
    rw [← isReserved_iff, h]
    exact Bool.false_ne_true
  push Not at hne
  rw [withStandardFields]
  split_ifs
  · rw [SortedMap.get?_erase_of_ne hne.2.2, SortedMap.get?_insert_of_ne hne.2.1,
      SortedMap.get?_insert_of_ne hne.1]
  · rw [SortedMap.get?_insert_of_ne hne.2.2, SortedMap.get?_insert_of_ne hne.2.1,
      SortedMap.get?_insert_of_ne hne.1]

/-! ## Agreement -/

/-- The data have the standard fields as the instance has them. -/
def Mirrored (object : Instance) : Prop := object.document = object.data

/-- Data and fields agree when they do at each reserved key. -/
lemma mirrored_iff {object : Instance} :
    object.Mirrored ↔ object.data.get? classKey = some (.str object.className) ∧
      object.data.get? createdAtKey = some (.str object.createdAt.encode) ∧
      object.data.get? declaredKey = declaredMember object.declared := by
  rw [Mirrored, document]
  constructor
  · intro h
    rw [← h]
    simp
  · rintro ⟨hclass, hcreated, hdeclared⟩
    refine SortedMap.ext_get? fun name => ?_
    rcases hname : isReserved name with _ | _
    · exact get?_withStandardFields_variable hname
    · rcases isReserved_iff.mp hname with rfl | rfl | rfl
      · rw [get?_withStandardFields_class, hclass]
      · rw [get?_withStandardFields_createdAt, hcreated]
      · rw [get?_withStandardFields_declared, hdeclared]

/-- Data with the fields written over them agree with them. -/
lemma mirrored_withStandardFields (id : String) (modified : Bool) :
    Mirrored ⟨id, className, createdAt, declared,
      withStandardFields className createdAt declared data, modified⟩ :=
  mirrored_iff.mpr ⟨by simp, by simp, by simp⟩

lemma new_mirrored (id className : String) (createdAt : Timestamp) (defaults : Object) :
    (new id className createdAt defaults).Mirrored :=
  mirrored_withStandardFields ..

lemma text?_eq_some_iff {value : Value} {text : String} :
    value.text? = some text ↔ value = .str text := by
  cases value <;> simp [Value.text?]

/-- Data give an instance exactly if they have a string for the class, and then one instance. -/
lemma ofData_eq_ok_iff {id : String} {data : Object} {object : Instance} :
    ofData id data = .ok object ↔ ∃ className, data.get? classKey = some (.str className) ∧
      object = ⟨id, className, createdAtOf data, declaredOf data,
        withStandardFields className (createdAtOf data) (declaredOf data) data, false⟩ := by
  rw [ofData]
  cases hclass : (data.get? classKey).bind Value.text? with
  | none =>
      simp only [reduceCtorEq, false_iff, not_exists, not_and]
      intro className hfound
      rw [hfound] at hclass
      cases hclass
  | some className =>
      obtain ⟨value, hfound, hvalue⟩ := Option.bind_eq_some_iff.mp hclass
      obtain rfl := text?_eq_some_iff.mp hvalue
      simp [hfound, eq_comm]

lemma ofData_mirrored {id : String} {data : Object} {object : Instance}
    (h : ofData id data = .ok object) : object.Mirrored := by
  obtain ⟨className, -, rfl⟩ := ofData_eq_ok_iff.mp h
  exact mirrored_withStandardFields ..

/-- A text that is read as an instance is one of data that name a class. -/
lemma decode_eq_ok {id text : String} {object : Instance} (h : decode id text = .ok object) :
    ∃ data, decodeObject text = .ok data ∧ ofData id data = .ok object := by
  rw [decode] at h
  split at h
  · next data hdata => exact ⟨data, hdata, h⟩
  · cases h

lemma decode_mirrored {id text : String} {object : Instance} (h : decode id text = .ok object) :
    object.Mirrored := by
  obtain ⟨data, -, hdata⟩ := decode_eq_ok h
  exact ofData_mirrored hdata

lemma unmodified_eq {object : Instance} (h : object.modified = false) :
    object.unmodified = object := by
  rw [unmodified, ← h]

end Instance

/-! ## Edits -/

/-- A change of one variable. -/
inductive Edit where
  | set (name : String) (value : Value)
  | remove (name : String)

namespace Edit

/-- The answer of an edit, and the instance after it. -/
def perform : Edit → Instance → Except ReservedField (Option Value) × Instance
  | set name value => Instance.set name value
  | remove name => Instance.remove name

/-- An edit that writes a canonical value, if it writes one. -/
def Canonical : Edit → Prop
  | set _ value => value.Canonical
  | remove _ => True

instance : (edit : Edit) → Decidable edit.Canonical
  | set _ value => inferInstanceAs (Decidable value.Canonical)
  | remove _ => .isTrue trivial

/-- What an edit can do: nothing, or a change of the data at a key that is not reserved, which it
marks. -/
lemma perform_cases (edit : Edit) (object : Instance) :
    (edit.perform object).2 = object ∨
    ∃ data name, (edit.perform object).2 = { object with data, modified := true } ∧
      isReserved name = false ∧
      ((∃ value, edit = set name value ∧ data = object.data.insert name value) ∨
        data = object.data.erase name) := by
  cases edit with
  | set name value =>
      simp only [perform, Instance.set]
      split_ifs with hname
      · exact .inl rfl
      · exact .inr ⟨_, name, rfl, by simpa using hname, .inl ⟨value, rfl, rfl⟩⟩
  | remove name =>
      simp only [perform, Instance.remove]
      split_ifs with hname
      · exact .inl rfl
      · split
        · exact .inr ⟨_, name, rfl, by simpa using hname, .inr rfl⟩
        · exact .inl rfl

/-- What is true of all members is true of them after an edit, if it is of what that writes. -/
lemma forall_members {edit : Edit} {P : Value → Prop}
    (hwritten : ∀ name value, edit = set name value → P value) {object : Instance}
    (h : ∀ m ∈ object.data.entries, P m.2) : ∀ m ∈ (edit.perform object).2.data.entries, P m.2 := by
  rcases edit.perform_cases object with heq | ⟨data, name, heq, -, hdata⟩
  · rwa [heq]
  · rw [heq]
    rcases hdata with ⟨value, hedit, rfl⟩ | rfl
    · exact SortedMap.forall_insert name (hwritten name value hedit) h
    · exact SortedMap.forall_erase name h

lemma perform_fields (edit : Edit) (object : Instance) :
    (edit.perform object).2.id = object.id ∧
      (edit.perform object).2.className = object.className ∧
      (edit.perform object).2.createdAt = object.createdAt ∧
      (edit.perform object).2.declared = object.declared := by
  rcases edit.perform_cases object with heq | ⟨data, name, heq, -⟩
  · rw [heq]
    exact ⟨rfl, rfl, rfl, rfl⟩
  · rw [heq]
    exact ⟨rfl, rfl, rfl, rfl⟩

/-- **An edit keeps data and fields together.** -/
lemma mirrored (edit : Edit) {object : Instance} (h : object.Mirrored) :
    (edit.perform object).2.Mirrored := by
  rcases edit.perform_cases object with heq | ⟨data, name, heq, hname, hdata⟩
  · rwa [heq]
  · have hkey : ∀ key, isReserved key = true → data.get? key = object.data.get? key := by
      intro key hkey
      have hne : key ≠ name := by
        rintro rfl
        rw [hkey] at hname
        cases hname
      rcases hdata with ⟨value, -, rfl⟩ | rfl
      · exact SortedMap.get?_insert_of_ne hne
      · exact SortedMap.get?_erase_of_ne hne
    rw [heq, Instance.mirrored_iff]
    rw [Instance.mirrored_iff] at h
    rwa [hkey classKey rfl, hkey createdAtKey rfl, hkey declaredKey rfl]

end Edit

/-- The answers of edits one after the other, and the instance after them. -/
def editAll : List Edit → Instance → List (Except ReservedField (Option Value)) × Instance
  | [], object => ([], object)
  | edit :: rest, object =>
    let (answer, object) := edit.perform object
    let (answers, object) := editAll rest object
    (answer :: answers, object)

/-- What each edit keeps, edits in a row keep. -/
lemma editAll_keeps {P : Instance → Prop} {edits : List Edit}
    (h : ∀ edit ∈ edits, ∀ object, P object → P (edit.perform object).2) :
    ∀ {object : Instance}, P object → P (editAll edits object).2 := by
  induction edits with
  | nil => exact fun hobject => hobject
  | cons edit rest ih =>
      intro object hobject
      exact ih (fun e he => h e (List.mem_cons_of_mem _ he)) (h edit List.mem_cons_self _ hobject)

lemma Edit.modified_of_modified (edit : Edit) {object : Instance} (h : object.modified = true) :
    (edit.perform object).2.modified = true := by
  rcases edit.perform_cases object with heq | ⟨data, name, heq, -⟩
  · rwa [heq]
  · rw [heq]

/-- **Edits that modify nothing change nothing.** -/
lemma editAll_unmodified {edits : List Edit} :
    ∀ {object : Instance}, (editAll edits object).2.modified = false →
      (editAll edits object).2 = object := by
  induction edits with
  | nil => exact fun _ => rfl
  | cons edit rest ih =>
      intro object h
      have hrest := ih h
      rcases edit.perform_cases object with heq | ⟨data, name, heq, -⟩
      · exact hrest.trans heq
      · have hmod : (editAll rest (edit.perform object).2).2.modified = true :=
          editAll_keeps (P := fun o => o.modified = true)
            (fun e _ o ho => e.modified_of_modified ho) (by rw [heq])
        exact absurd (hmod.symm.trans h) (by decide)

/-! ## Changes that are seen -/

/-- What changes an instance leaves a mark on it. -/
def Instance.Marks {α : Type} (edit : Instance → α × Instance) : Prop :=
  ∀ object, (edit object).2.modified = false → (edit object).2 = object

lemma Edit.marks (edit : Edit) : Instance.Marks edit.perform := by
  intro object h
  rcases edit.perform_cases object with heq | ⟨data, name, heq, -⟩
  · exact heq
  · rw [heq] at h
    cases h

lemma marks_editAll (edits : Instance → List Edit) :
    Instance.Marks fun object => editAll (edits object) object :=
  fun _ h => editAll_unmodified h

end ObjectMemory
