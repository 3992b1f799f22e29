import ObjectMemory.Proofs.Instance.StandardFields

/-!
# Two views that do not drift apart

Whatever an instance was made of, its fields and its data say the same of its class, of the moment
of its creation and of its declared names.  A default or a document may claim otherwise under the
three reserved keys, or hold something there that is no class, moment or list of names at all: the
constructors write the fields over it.  After that no edit gets at a reserved key.

* `Instance.Built` — the instances that constructors give; `Built.mirrored` — their data agree;
* `set_reserved`, `remove_reserved` — edits of reserved keys;
* `declared_new` — the declared names of a fresh instance;
* **`fields_agree_with_data`** — after any edits.
-/

namespace ObjectMemory

open Json

namespace Instance

/-- An instance as it comes about: fresh with some defaults, or from a document. -/
inductive Built : Instance → Prop
  | new (id className : String) (createdAt : Timestamp) (defaults : Object) :
    Built (new id className createdAt defaults)
  | decoded {id text : String} {object : Instance} (h : decode id text = .ok object) : Built object

lemma Built.mirrored {object : Instance} (built : object.Built) : object.Mirrored := by
  cases built with
  | new id className createdAt defaults => exact new_mirrored ..
  | decoded h => exact decode_mirrored h

/-! ## Reserved keys -/

variable {name : String}

lemma set_reserved (h : isReserved name = true) (value : Value) (object : Instance) :
    Instance.set name value object = (.error ⟨name⟩, object) := by
  rw [Instance.set, if_pos h]

lemma remove_reserved (h : isReserved name = true) (object : Instance) :
    Instance.remove name object = (.error ⟨name⟩, object) := by
  rw [Instance.remove, if_pos h]

/-- A fresh instance declares the defaults that have no reserved names, in ascending order. -/
lemma declared_new (id className : String) (createdAt : Timestamp) (defaults : Object) :
    (new id className createdAt defaults).declared.Pairwise (· < ·) ∧
      ∀ name, name ∈ (new id className createdAt defaults).declared ↔
        defaults.contains name = true ∧ isReserved name = false := by
  have hascending : defaults.keys.Pairwise (· < ·) :=
    defaults.keys_pairwise.imp fun hlt => compare_lt_iff_lt.mp hlt
  refine ⟨hascending.filter _, fun name => ?_⟩
  rw [new, List.mem_filter, SortedMap.mem_keys_iff, Bool.not_eq_true']

/-! ## After any edits -/

lemma editAll_fields (edits : List Edit) (object : Instance) :
    (editAll edits object).2.id = object.id ∧
      (editAll edits object).2.className = object.className ∧
      (editAll edits object).2.createdAt = object.createdAt ∧
      (editAll edits object).2.declared = object.declared := by
  refine editAll_keeps (P := fun o => o.id = object.id ∧ o.className = object.className ∧
    o.createdAt = object.createdAt ∧ o.declared = object.declared)
    (fun edit _ o ho => ?_) ⟨rfl, rfl, rfl, rfl⟩
  obtain ⟨hid, hclass, hcreated, hdeclared⟩ := edit.perform_fields o
  exact ⟨hid.trans ho.1, hclass.trans ho.2.1, hcreated.trans ho.2.2.1, hdeclared.trans ho.2.2.2⟩

/-- **Fields and data agree at all times.**  Of an instance that was built in either way, with
whatever defaults or document, and edited in any way: the data have the class, the moment of
creation as a text, and the declared names if there are any; the fields are those it was built with;
its document is just its data; and edits of a reserved key are refused and change nothing.  What a
fresh instance declares are its defaults without the reserved names, ascending. -/
theorem fields_agree_with_data {object : Instance} (built : object.Built) (edits : List Edit) :
    let edited := (editAll edits object).2
    (edited.data.get? classKey = some (.str edited.className) ∧
      edited.data.get? createdAtKey = some (.str edited.createdAt.encode) ∧
      (edited.declared ≠ [] →
        edited.data.get? declaredKey = some (.arr (edited.declared.map .str))) ∧
      (edited.declared = [] → edited.data.get? declaredKey = none)) ∧
    (edited.id = object.id ∧ edited.className = object.className ∧
      edited.createdAt = object.createdAt ∧ edited.declared = object.declared) ∧
    edited.document = edited.data ∧
    (∀ name, isReserved name = true →
      (∀ value, Instance.set name value edited = (.error ⟨name⟩, edited)) ∧
      Instance.remove name edited = (.error ⟨name⟩, edited)) ∧
    ∀ id className createdAt defaults, object = new id className createdAt defaults →
      object.declared.Pairwise (· < ·) ∧
      ∀ name, name ∈ object.declared ↔ defaults.contains name = true ∧ isReserved name = false := by
  intro edited
  have hmirrored : edited.Mirrored := editAll_keeps (fun edit _ _ h => edit.mirrored h)
    built.mirrored
  obtain ⟨hclass, hcreated, hdeclared⟩ := mirrored_iff.mp hmirrored
  refine ⟨⟨hclass, hcreated, fun hsome => ?_, fun hnone => ?_⟩, editAll_fields edits object,
    hmirrored, fun name hname => ⟨fun value => set_reserved hname value edited,
      remove_reserved hname edited⟩, ?_⟩
  · rw [hdeclared, declaredMember, if_neg (by simpa using hsome)]
  · rw [hdeclared, declaredMember, if_pos (by simpa using hnone)]
  · rintro id className createdAt defaults rfl
    exact declared_new id className createdAt defaults

/-- A document with a moment that is a number, and names that are not all texts. -/
def oddDocument : String :=
  "\x7b\"_vars\":[\"n\",3,\"class\"],\"created_at\":7,\"class\":\"Counter\",\"n\":1\x7d"

/-- Edits of which some name reserved keys. -/
def oddEdits : List Edit :=
  [.set "class" (.str "Other"), .remove "n", .set "_vars" .null, .set "m" (.arr [])]

theorem fields_agree_with_data_odd : ∃ object, decode "counter_1" oddDocument = .ok object ∧
    object.declared = ["n", "class"] ∧
    let edited := (editAll oddEdits object).2
    edited.data.get? classKey = some (.str "Counter") ∧
    edited.data.get? createdAtKey = some (.str "1970-01-01T00:00:00+00:00") ∧
    edited.data.get? declaredKey = some (.arr [.str "n", .str "class"]) ∧
    edited.document = edited.data := by
  have hread : (decode "counter_1" oddDocument).toOption.map
      (fun o => (o.className, o.createdAt.encode, o.declared))
        = some ("Counter", "1970-01-01T00:00:00+00:00", ["n", "class"]) := by
    decide +kernel
  obtain ⟨object, hobject, hfields⟩ := Option.map_eq_some_iff.mp hread
  have hdecode : decode "counter_1" oddDocument = .ok object := by
    cases h : decode "counter_1" oddDocument with
    | error error => rw [h] at hobject; cases hobject
    | ok other => rw [h] at hobject; exact congrArg _ (Option.some.inj hobject)
  simp only [Prod.mk.injEq] at hfields
  obtain ⟨hclass, hcreated, hdeclared⟩ := hfields
  obtain ⟨⟨hc, ht, hd, -⟩, ⟨-, hsame, htime, hnames⟩, hdocument, -⟩ :=
    fields_agree_with_data (.decoded hdecode) oddEdits
  refine ⟨object, hdecode, hdeclared, ?_⟩
  dsimp only at *
  rw [hsame, hclass] at hc
  rw [htime, hcreated] at ht
  rw [hnames, hdeclared] at hd
  exact ⟨hc, ht, hd (by decide), hdocument⟩

end Instance

end ObjectMemory
