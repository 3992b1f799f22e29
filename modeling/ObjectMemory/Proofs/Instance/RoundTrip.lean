import ObjectMemory.Proofs.Instance.StandardFields
import ObjectMemory.Proofs.Json.Levels
import ObjectMemory.Proofs.Timestamp.RoundTrip

/-!
# Reading an instance from its document

The document of an instance is its data, once the standard fields in it agree with the fields of the
instance (`Mirrored`).  So what a reader gets is the data again, if the text is read back, and it
takes from them the class, the moment and the declared names that were written there.

* `Instance.Made` — the instances there are: fresh ones and ones from documents, after any edits;
* `Instance.Storable` — what lets an instance read back: integers for numbers, no more levels of
  brackets than a reader goes, and a year of four digits;
* `Instance.Fits` — changes that leave it so; `Edit.fits`, `fits_editAll` — edits do;
* **`Instance.decode_encode`** — a storable instance is read from its document again;
* `Instance.decode_encode_reread`, `Instance.decode_encode_deep` — what becomes of other ones;
  `Instance.decode_shallow` — how deep what is read can be.
-/

namespace ObjectMemory

open Json

/-! ## Storable values -/

/-- A value that reads back as a member of a document. -/
structure Json.Value.Storable (value : Value) : Prop where
  integers : value.IntegersOnly
  canonical : value.Canonical
  shallow : value.depth < depthLimit

lemma storable_str (text : String) : (Value.str text).Storable :=
  ⟨trivial, trivial, by simp [Value.depth, depthLimit]⟩

lemma storable_texts (texts : List String) : (Value.arr (texts.map .str)).Storable := by
  refine ⟨itemsIntegersOnly.mpr ?_, itemsCanonical.mpr ?_, ?_⟩
  · intro x hx
    obtain ⟨text, -, rfl⟩ := List.mem_map.mp hx
    trivial
  · intro x hx
    obtain ⟨text, -, rfl⟩ := List.mem_map.mp hx
    trivial
  · have hflat : depthItems (texts.map .str) ≤ 0 := depthItems_le.mpr fun x hx => by
      obtain ⟨text, -, rfl⟩ := List.mem_map.mp hx
      rfl
    rw [Value.depth, depthLimit]
    omega

namespace Instance

/-- Data with the standard fields in them are still of storable values. -/
lemma forall_withStandardFields {P : Value → Prop} {data : Object}
    (hstr : ∀ text, P (.str text)) (harr : ∀ texts : List String, P (.arr (texts.map .str)))
    (h : ∀ m ∈ data.entries, P m.2) (className : String) (createdAt : Timestamp)
    (declared : List String) :
    ∀ m ∈ (withStandardFields className createdAt declared data).entries, P m.2 := by
  have hclass := SortedMap.forall_insert classKey (hstr className) h
  have hcreated := SortedMap.forall_insert createdAtKey (hstr createdAt.encode) hclass
  rw [withStandardFields]
  split_ifs
  · exact SortedMap.forall_erase declaredKey hcreated
  · exact SortedMap.forall_insert declaredKey (harr declared) hcreated

/-! ## The instances there are -/

/-- The instances that can be made: a fresh one or one of a document, with any edits, and with the
mark of a modification taken off. -/
inductive Made : Instance → Prop
  | new (id className : String) (createdAt : Timestamp) {defaults : Object}
      (canonical : MembersCanonical defaults.entries) : Made (new id className createdAt defaults)
  | decoded {id text : String} {object : Instance} (h : decode id text = .ok object) : Made object
  | edited {object : Instance} (edit : Edit) (canonical : edit.Canonical) (made : Made object) :
      Made (edit.perform object).2
  | unmodified {object : Instance} (made : Made object) : Made object.unmodified

lemma Made.editAll {edits : List Edit} (canonical : ∀ edit ∈ edits, edit.Canonical)
    {object : Instance} (made : object.Made) : (editAll edits object).2.Made :=
  editAll_keeps (fun edit hedit _ hobject => hobject.edited edit (canonical edit hedit)) made

lemma Made.mirrored {object : Instance} (made : object.Made) : object.Mirrored := by
  induction made with
  | new id className createdAt _ => exact new_mirrored ..
  | decoded h => exact decode_mirrored h
  | edited edit _ _ ih => exact edit.mirrored ih
  | unmodified _ ih => exact ih

lemma Made.canonical {object : Instance} (made : object.Made) :
    MembersCanonical object.data.entries := by
  have hfields : ∀ {className createdAt declared} {data : Object}, MembersCanonical data.entries →
      MembersCanonical (withStandardFields className createdAt declared data).entries := by
    intro className createdAt declared data h
    rw [membersCanonical] at h ⊢
    exact forall_withStandardFields (fun text => (storable_str text).canonical)
      (fun texts => (storable_texts texts).canonical) h _ _ _
  induction made with
  | new id className createdAt canonical => exact hfields canonical
  | decoded h =>
      obtain ⟨data, hdata, hobject⟩ := decode_eq_ok h
      obtain ⟨className, -, rfl⟩ := ofData_eq_ok_iff.mp hobject
      exact hfields (decodeObject_canonical hdata)
  | edited edit canonical _ ih =>
      rw [membersCanonical] at ih ⊢
      refine Edit.forall_members (fun name value hedit => ?_) ih
      subst hedit
      exact canonical
  | unmodified _ ih => exact ih

lemma Mirrored.encode_eq {object : Instance} (h : object.Mirrored) :
    object.encode = object.data.encode :=
  congrArg Object.encode h

lemma decode_unmodified {id text : String} {object : Instance} (h : decode id text = .ok object) :
    object.modified = false := by
  obtain ⟨data, -, hobject⟩ := decode_eq_ok h
  obtain ⟨className, -, rfl⟩ := ofData_eq_ok_iff.mp hobject
  rfl

/-! ## Storable instances -/

/-- An instance that is read from its document again. -/
structure Storable (object : Instance) : Prop where
  mirrored : object.Mirrored
  members : ∀ m ∈ object.data.entries, m.2.Storable
  year_nonneg : 0 ≤ object.createdAt.date.year
  year_le : object.createdAt.date.year ≤ 9999

lemma Made.storable {object : Instance} (made : object.Made)
    (integers : MembersIntegersOnly object.data.entries)
    (shallow : (Value.ofObject object.document).depth ≤ depthLimit)
    (years : 0 ≤ object.createdAt.date.year ∧ object.createdAt.date.year ≤ 9999) :
    object.Storable := by
  have canonical := made.canonical
  rw [membersIntegersOnly] at integers
  rw [membersCanonical] at canonical
  rw [made.mirrored] at shallow
  have shallow : ∀ m ∈ object.data.entries, m.2.depth ≤ depthLimit - 1 :=
    depth_ofObject_le.mp shallow
  exact ⟨made.mirrored,
    fun m hm => ⟨integers m hm, canonical m hm, Nat.lt_of_le_pred (by decide) (shallow m hm)⟩,
    years.1, years.2⟩

lemma Storable.unmodified {object : Instance} (h : object.Storable) :
    object.unmodified.Storable :=
  ⟨h.mirrored, h.members, h.year_nonneg, h.year_le⟩

lemma new_storable (id className : String) {createdAt : Timestamp} {defaults : Object}
    (h : ∀ m ∈ defaults.entries, m.2.Storable)
    (years : 0 ≤ createdAt.date.year ∧ createdAt.date.year ≤ 9999) :
    (new id className createdAt defaults).Storable :=
  ⟨new_mirrored .., forall_withStandardFields storable_str storable_texts h _ _ _, years.1, years.2⟩

lemma Storable.document {object : Instance} (h : object.Storable) :
    (Value.ofObject object.data).IntegersOnly ∧ (Value.ofObject object.data).Canonical ∧
      (Value.ofObject object.data).depth ≤ depthLimit :=
  ⟨membersIntegersOnly.mpr fun m hm => (h.members m hm).integers,
    ⟨object.data.ascending, membersCanonical.mpr fun m hm => (h.members m hm).canonical⟩,
    depth_ofObject_le.mpr fun m hm => Nat.le_pred_of_lt (h.members m hm).shallow⟩

lemma Storable.decodeObject_encode {object : Instance} (h : object.Storable) :
    decodeObject object.encode = .ok object.data := by
  obtain ⟨hi, hc, hd⟩ := h.document
  rw [h.mirrored.encode_eq]
  exact Json.decodeObject_encode hi hc.2 hd

end Instance

/-- An edit that writes a storable value, if it writes one. -/
def Edit.Storable : Edit → Prop
  | set _ value => value.Storable
  | remove _ => True

lemma Edit.storable {edit : Edit} (hedit : edit.Storable) {object : Instance}
    (h : object.Storable) : (edit.perform object).2.Storable := by
  obtain ⟨-, -, hcreated, -⟩ := edit.perform_fields object
  refine ⟨edit.mirrored h.mirrored, ?_, hcreated ▸ h.year_nonneg, hcreated ▸ h.year_le⟩
  refine Edit.forall_members (fun name value heq => ?_) h.members
  subst heq
  exact hedit

/-- What changes a storable instance leaves it storable, and leaves its id and class alone. -/
def Instance.Fits {α : Type} (edit : Instance → α × Instance) : Prop :=
  ∀ object, object.Storable → (edit object).2.Storable ∧ (edit object).2.id = object.id ∧
    (edit object).2.className = object.className

lemma Edit.fits {edit : Edit} (h : edit.Storable) : Instance.Fits edit.perform := by
  intro object hobject
  obtain ⟨hid, hclass, -⟩ := edit.perform_fields object
  exact ⟨Edit.storable h hobject, hid, hclass⟩

lemma fits_editAll {edits : Instance → List Edit}
    (h : ∀ object, ∀ edit ∈ edits object, edit.Storable) :
    Instance.Fits fun object => editAll (edits object) object := by
  intro object hobject
  refine editAll_keeps (P := fun o => o.Storable ∧ o.id = object.id ∧
    o.className = object.className) (fun edit hedit o ho => ?_) ⟨hobject, rfl, rfl⟩
  obtain ⟨hstorable, hid, hclass⟩ := Edit.fits (h object edit hedit) o ho.1
  exact ⟨hstorable, hid.trans ho.2.1, hclass.trans ho.2.2⟩

namespace Instance

/-- What is read of the data of an instance is the instance, but for its moment of creation, which
is read from its text. -/
lemma ofData_of_mirrored {object : Instance} (mirrored : object.Mirrored) {createdAt : Timestamp}
    (h : (Timestamp.decode? object.createdAt.encode).getD .epoch = createdAt) (id : String) :
    ofData id object.data = .ok { object with
      id, createdAt, modified := false
      data := object.data.insert createdAtKey (.str createdAt.encode) } := by
  obtain ⟨hclass, hcreated, hdeclared⟩ := mirrored_iff.mp mirrored
  have hmoment : createdAtOf object.data = createdAt := by
    rw [createdAtOf, hcreated]
    simp only [Option.bind_some, Value.text?, h]
  have hnames : declaredOf object.data = object.declared := by
    rw [declaredOf, hdeclared, declaredMember]
    split_ifs with hempty
    · exact (List.isEmpty_iff.mp hempty).symm
    · simp [List.filterMap_map, Function.comp_def, Value.text?]
  have hdata : withStandardFields object.className createdAt object.declared object.data
      = object.data.insert createdAtKey (.str createdAt.encode) := by
    refine SortedMap.ext_get? fun name => ?_
    rcases hname : isReserved name with _ | _
    · have hne : name ≠ createdAtKey := by
        rintro rfl
        cases hname
      rw [get?_withStandardFields_variable hname, SortedMap.get?_insert_of_ne hne]
    · rcases isReserved_iff.mp hname with rfl | rfl | rfl
      · rw [get?_withStandardFields_class, SortedMap.get?_insert_of_ne createdAtKey_ne_classKey.symm,
          hclass]
      · rw [get?_withStandardFields_createdAt, SortedMap.get?_insert_self]
      · rw [get?_withStandardFields_declared, SortedMap.get?_insert_of_ne declaredKey_ne_createdAtKey,
          hdeclared]
  simp only [ofData, hclass, Option.bind_some, Value.text?, hmoment, hnames, hdata]

lemma ofData_data {object : Instance} (mirrored : object.Mirrored)
    (years : 0 ≤ object.createdAt.date.year ∧ object.createdAt.date.year ≤ 9999) (id : String) :
    ofData id object.data = .ok { object with id, modified := false } := by
  have hmoment : (Timestamp.decode? object.createdAt.encode).getD .epoch = object.createdAt := by
    rw [Timestamp.decode?_encode years, Option.getD_some]
  rw [ofData_of_mirrored mirrored hmoment id,
    SortedMap.insert_of_get? (mirrored_iff.mp mirrored).2.1]

/-- **A storable instance is read from its document again**, under any id. -/
theorem decode_encode {object : Instance} (h : object.Storable) (id : String) :
    decode id object.encode = .ok { object with id, modified := false } := by
  rw [decode, h.decodeObject_encode]
  exact ofData_data h.mirrored ⟨h.year_nonneg, h.year_le⟩ id

/-- **Decoding the document of an instance undoes encoding it**: every instance with integers for
numbers, a document of at most 127 levels and a year of four digits is read from its document with
all its fields and data, unmodified, and has the same document again. -/
theorem decode_encode_of_made {object : Instance} (made : object.Made)
    (integers : MembersIntegersOnly object.data.entries)
    (shallow : (Value.ofObject object.document).depth ≤ depthLimit)
    (years : 0 ≤ object.createdAt.date.year ∧ object.createdAt.date.year ≤ 9999) :
    ∃ again, decode object.id object.encode = .ok again ∧
      (again.id = object.id ∧ again.className = object.className ∧
        again.createdAt = object.createdAt ∧ again.declared = object.declared ∧
        again.data = object.data) ∧
      again.modified = false ∧ again.encode = object.encode :=
  ⟨_, decode_encode (made.storable integers shallow years) object.id,
    ⟨rfl, rfl, rfl, rfl, rfl⟩, rfl, rfl⟩

/-- A counter of a leap second, with a reserved default, an escape, the greatest integer, and a
variable that is gone. -/
def leapCounter : Instance :=
  (editAll
    [.set "\"\n" (.arr [.num (.integer 18446744073709551615 (by decide)), .null]), .remove "n"]
    (.new "counter_1" "Counter"
      ⟨⟨2015, 6, 30, by decide, by decide⟩, 23, 59, 60, 500000000, by decide, by decide, by decide,
        by decide⟩
      (.ofList [("n", .num (.integer (-1) (by decide))), ("class", .null)]))).2

lemma leapCounter_made : leapCounter.Made := by
  refine Made.editAll ?_ (.new _ _ _ ?_)
  · decide +kernel
  · decide +kernel

theorem decode_encode_of_leapCounter :
    leapCounter.Made ∧ MembersIntegersOnly leapCounter.data.entries ∧
      (Value.ofObject leapCounter.document).depth ≤ depthLimit ∧
      (0 ≤ leapCounter.createdAt.date.year ∧ leapCounter.createdAt.date.year ≤ 9999) ∧
      ∃ again, decode leapCounter.id leapCounter.encode = .ok again ∧
        (again.id = leapCounter.id ∧ again.className = leapCounter.className ∧
          again.createdAt = leapCounter.createdAt ∧ again.declared = leapCounter.declared ∧
          again.data = leapCounter.data) ∧
        again.modified = false ∧ again.encode = leapCounter.encode :=
  have integers : MembersIntegersOnly leapCounter.data.entries := by decide +kernel
  have shallow : (Value.ofObject leapCounter.document).depth ≤ depthLimit := by decide +kernel
  have years : 0 ≤ leapCounter.createdAt.date.year ∧ leapCounter.createdAt.date.year ≤ 9999 := by
    decide +kernel
  ⟨leapCounter_made, integers, shallow, years,
    decode_encode_of_made leapCounter_made integers shallow years⟩

/-! ## Any numbers and any depth -/

/-- Whatever numbers an instance has, it is read from its document, and its variables are what is
reread of them. -/
theorem decode_encode_reread {object : Instance} (mirrored : object.Mirrored)
    (canonical : MembersCanonical object.data.entries)
    (shallow : (Value.ofObject object.data).depth ≤ depthLimit) (id : String) :
    ∃ again, decode id object.encode = .ok again ∧ ∀ name, isReserved name = false →
      again.get? name = (object.get? name).map Value.reread := by
  have hclass : object.data.reread.get? classKey = some (.str object.className) := by
    rw [Object.get?_reread, (mirrored_iff.mp mirrored).1]
    rfl
  rw [decode, mirrored.encode_eq, decodeObject_encode_reread canonical shallow]
  simp only [ofData, hclass, Option.bind_some, Value.text?]
  refine ⟨_, rfl, fun name hname => ?_⟩
  rw [get?, get?_withStandardFields_variable hname, Object.get?_reread]
  rfl

/-- An instance that is deeper than a document may be has a document that is not read. -/
theorem decode_encode_deep {object : Instance} (mirrored : object.Mirrored)
    (canonical : MembersCanonical object.data.entries)
    (deep : depthLimit < (Value.ofObject object.data).depth) (id : String) :
    ∃ error, decode id object.encode = .error (.malformed error) := by
  obtain ⟨error, herror⟩ := decodeObject_encode_deep canonical deep
  exact ⟨error, by rw [decode, mirrored.encode_eq, herror]⟩

/-- An instance that was read has variables of fewer levels than a document may have. -/
lemma decode_shallow {id text : String} {object : Instance} (h : decode id text = .ok object) :
    ∀ m ∈ object.data.entries, m.2.depth < depthLimit := by
  obtain ⟨data, hdata, hobject⟩ := decode_eq_ok h
  have hread : ∀ m ∈ data.entries, m.2.depth < depthLimit := fun m hm =>
    Nat.lt_succ_of_le (depth_ofObject_le.mp (decode_depth (decode_of_decodeObject hdata)) m hm)
  obtain ⟨className, -, rfl⟩ := ofData_eq_ok_iff.mp hobject
  exact forall_withStandardFields (P := fun v => v.depth < depthLimit)
    (fun text => (storable_str text).shallow) (fun texts => (storable_texts texts).shallow)
    hread _ _ _

end Instance

end ObjectMemory
