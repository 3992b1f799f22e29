import ObjectMemory.Proofs.Instance.RoundTrip

/-!
# Instances whose documents can be read

A document is read if its brackets are not too deep, whatever else is in it.  So an instance has a
document that is read when each of its variables leaves room for the brackets of the document
itself, and every change keeps it so that writes such values only.  What is read is a readable
instance again, though its numbers need not be those that were written.

* `Value.Containable` — values that a document has room for;
* `Instance.Readable` — instances of such values; `Made.readable`, `decode_readable`,
  `new_readable` — where they come from;
* `Edit.readable`, `editAll_readable` — changes that keep them so;
* `Readable.decode_encode` — the document of one is decoded.
-/

namespace ObjectMemory

open Json

/-- A value that a document has room for as a member. -/
structure Json.Value.Containable (value : Value) : Prop where
  canonical : value.Canonical
  shallow : value.depth < depthLimit

instance (value : Value) : Decidable value.Containable :=
  decidable_of_iff (value.Canonical ∧ value.depth < depthLimit)
    ⟨fun h => ⟨h.1, h.2⟩, fun h => ⟨h.canonical, h.shallow⟩⟩

lemma containable_str (text : String) : (Value.str text).Containable :=
  ⟨(storable_str text).canonical, (storable_str text).shallow⟩

lemma containable_texts (texts : List String) : (Value.arr (texts.map .str)).Containable :=
  ⟨(storable_texts texts).canonical, (storable_texts texts).shallow⟩

namespace Instance

/-- An instance with a document that can be read. -/
structure Readable (object : Instance) : Prop where
  mirrored : object.Mirrored
  members : ∀ m ∈ object.data.entries, m.2.Containable

lemma Storable.readable {object : Instance} (h : object.Storable) : object.Readable :=
  ⟨h.mirrored, fun m hm => ⟨(h.members m hm).canonical, (h.members m hm).shallow⟩⟩

lemma Made.readable {object : Instance} (made : object.Made)
    (shallow : ∀ m ∈ object.data.entries, m.2.depth < depthLimit) : object.Readable :=
  ⟨made.mirrored, fun m hm => ⟨membersCanonical.mp made.canonical m hm, shallow m hm⟩⟩

lemma decode_readable {id text : String} {object : Instance} (h : decode id text = .ok object) :
    object.Readable :=
  (Made.decoded h).readable (decode_shallow h)

lemma new_readable (id className : String) (createdAt : Timestamp) {defaults : Object}
    (h : ∀ m ∈ defaults.entries, m.2.Containable) :
    (new id className createdAt defaults).Readable :=
  ⟨new_mirrored .., forall_withStandardFields containable_str containable_texts h _ _ _⟩

variable {object : Instance}

lemma Readable.unmodified (h : object.Readable) : object.unmodified.Readable :=
  ⟨h.mirrored, h.members⟩

lemma Readable.canonical (h : object.Readable) : (Value.ofObject object.data).Canonical :=
  ⟨object.data.ascending, membersCanonical.mpr fun m hm => (h.members m hm).canonical⟩

lemma Readable.shallow (h : object.Readable) : (Value.ofObject object.data).depth ≤ depthLimit :=
  depth_ofObject_le.mpr fun m hm => Nat.le_pred_of_lt (h.members m hm).shallow

lemma Readable.decode_encode (h : object.Readable) :
    Json.decode object.encode = .ok (.ofObject object.data.reread) := by
  rw [h.mirrored.encode_eq]
  exact Json.decode_encode_reread h.canonical h.shallow

lemma Readable.decodeObject_encode (h : object.Readable) :
    decodeObject object.encode = .ok object.data.reread := by
  rw [h.mirrored.encode_eq]
  exact Json.decodeObject_encode_reread h.canonical.2 h.shallow

end Instance

/-! ## Edits -/

/-- An edit that writes a value that a document has room for, if it writes one. -/
def Edit.Containable : Edit → Prop
  | set _ value => value.Containable
  | remove _ => True

lemma Edit.readable {edit : Edit} (hedit : edit.Containable) {object : Instance}
    (h : object.Readable) : (edit.perform object).2.Readable := by
  refine ⟨edit.mirrored h.mirrored, Edit.forall_members (fun name value heq => ?_) h.members⟩
  subst heq
  exact hedit

lemma editAll_readable {edits : List Edit} (hedits : ∀ edit ∈ edits, edit.Containable)
    {object : Instance} (h : object.Readable) : (editAll edits object).2.Readable :=
  editAll_keeps (fun edit hedit _ hobject => Edit.readable (hedits edit hedit) hobject) h

end ObjectMemory
