import ObjectMemory.Proofs.Backend.Faithful
import ObjectMemory.Proofs.Json.Meaning

/-!
# Two readers of a class

The class of a document is read in two ways.  To load an instance its document is decoded, and the
last member for the class has to be a string.  Documents in memory are decoded for their class in
the same way (`namesClass_iff_decode`), so there is one reader only.

A table looks into the spelling instead.  It takes the first member that goes for the name, and what
is behind a null character in the name of a member does not count.  It takes the JSON text of an
array or object for a class, and does not ask whether the rest of the document stands for a value.
So the two readers may name different classes, or only one of them names any.  They name the same
class, or none, if the document is unequivocal: it stands for a value, and whatever is a member for
the class is so for both readers, and always the same scalar (`Unequivocal.classOf?_eq`).

* `valueClass?`, `readClass?` — the class of a value, and of what a document stands for;
* `namesClass_iff_decode`, `namesClass_encode_iff` — decoding a document for its class;
* `Unequivocal`, **`Unequivocal.classOf?_eq`** — documents that name one class;
* `classOf?_eq_of_readable` — those of instances;
* `Table.Checked` — a table of documents that it has checked itself;
* `Checked.findByClass`, `Checked.get_names_iff` — what it lists, and what can be read back.
-/

namespace ObjectMemory.Backend

open Json

/-! ## Decoded documents -/

/-- The class that a value names: it is an object with a string for the class. -/
def valueClass? (value : Value) : Option String :=
  (value.object?.bind (·.get? classKey)).bind Value.text?

lemma namesClass_iff {className text : String} :
    namesClass className text = true ↔
      ∃ value, decode text = .ok value ∧ valueClass? value = some className := by
  rw [namesClass]
  cases decode text with
  | error error => simp
  | ok value => simp [valueClass?]

/-- Data give an instance of the class that they name. -/
lemma ofData_className_iff {id className : String} {data : Object} :
    (∃ object, Instance.ofData id data = .ok object ∧ object.className = className) ↔
      (data.get? classKey).bind Value.text? = some className := by
  rw [Instance.ofData]
  cases (data.get? classKey).bind Value.text? with
  | none => simp
  | some found => simp

/-- **A document names the class of the instance that it is decoded as**, and none if it is decoded
as no instance. -/
theorem namesClass_iff_decode {className text : String} (id : String) :
    namesClass className text = true ↔
      ∃ object, Instance.decode id text = .ok object ∧ object.className = className := by
  rw [namesClass_iff]
  constructor
  · rintro ⟨value, hvalue, hclass⟩
    obtain ⟨found, hfound, -⟩ := Option.bind_eq_some_iff.mp hclass
    obtain ⟨data, hobject, -⟩ := Option.bind_eq_some_iff.mp hfound
    obtain rfl := object?_of_decode hvalue hobject
    rw [valueClass?, hobject] at hclass
    rw [Instance.decode, decodeObject_eq_ok_iff.mpr hvalue]
    exact ofData_className_iff.mpr hclass
  · rintro ⟨object, hobject, hclass⟩
    obtain ⟨data, hdata, hobject⟩ := Instance.decode_eq_ok hobject
    refine ⟨_, decode_of_decodeObject hdata, ?_⟩
    rw [valueClass?, Value.ofObject, Value.object?, SortedMap.ofList_entries]
    exact ofData_className_iff.mp ⟨object, hobject, hclass⟩

/-- The class of what a document stands for. -/
def readClass? (document : Spelled) : Option String :=
  (document.value? depthLimit).bind valueClass?

lemma namesClass_encode_iff {document : Spelled} (sound : document.Sound) {className : String} :
    namesClass className document.encode = true ↔ readClass? document = some className := by
  rw [namesClass_iff, readClass?, Option.bind_eq_some_iff]
  exact exists_congr fun value => and_congr_left fun _ => decode_spelled_iff sound

/-- A document that is no object names no class. -/
lemma readClass?_of_not_obj {document : Spelled} (h : ∀ members, document ≠ .obj members) :
    readClass? document = none := by
  have hvalue : ∀ value ∈ document.value? depthLimit, value.object? = none := by
    intro value hvalue
    cases document with
    | null | bool b =>
        obtain rfl := Option.some.inj hvalue
        rfl
    | num spelling =>
        obtain ⟨n, rfl⟩ := exists_num_of_numberOf? hvalue
        rfl
    | str inside =>
        obtain ⟨text, -, rfl⟩ := Option.map_eq_some_iff.mp hvalue
        rfl
    | arr items =>
        obtain ⟨values, -, rfl⟩ := Option.map_eq_some_iff.mp hvalue
        rfl
    | obj members => exact absurd rfl (h members)
  rw [readClass?, Option.bind_eq_none_iff]
  intro value hmem
  rw [valueClass?, hvalue value hmem]
  rfl

/-! ## Members -/

variable {members : List (List Char × Spelled)} {depth : ℕ} {bindings : List (String × Value)}

/-- The first member that goes for a name is a member that does. -/
lemma mem_of_spelledMember? {name : String} {found : Spelled}
    (h : spelledMember? name members = some found) :
    ∃ key, (key, found) ∈ members ∧ unescape? (untilNull key) = some name := by
  induction members with
  | nil => cases h
  | cons member rest ih =>
      obtain ⟨key, value⟩ := member
      rw [spelledMember?] at h
      split_ifs at h with hkey
      · obtain rfl := Option.some.inj h
        exact ⟨key, List.mem_cons_self, hkey⟩
      · obtain ⟨key, hmem, hkey⟩ := ih h
        exact ⟨key, List.mem_cons_of_mem _ hmem, hkey⟩

/-- If there is none, no member goes for the name. -/
lemma ne_of_spelledMember?_eq_none {name : String} (h : spelledMember? name members = none) :
    ∀ member ∈ members, unescape? (untilNull member.1) ≠ some name := by
  induction members with
  | nil => exact fun _ hmem => absurd hmem List.not_mem_nil
  | cons member rest ih =>
      obtain ⟨key, value⟩ := member
      rw [spelledMember?] at h
      split_ifs at h with hkey
      exact List.forall_mem_cons.mpr ⟨hkey, ih h⟩

/-- What members stand for, they stand for one by one. -/
lemma mem_bindings_iff (h : membersValue? members depth = some bindings) {key : String}
    {value : Value} :
    (key, value) ∈ bindings ↔
      ∃ member ∈ members, unescape? member.1 = some key ∧ member.2.value? depth = some value := by
  induction members generalizing bindings with
  | nil =>
      obtain rfl := Option.some.inj h
      simp
  | cons member rest ih =>
      obtain ⟨inside, document⟩ := member
      obtain ⟨name, hname, h⟩ := Option.bind_eq_some_iff.mp h
      obtain ⟨first, hfirst, h⟩ := Option.bind_eq_some_iff.mp h
      obtain ⟨others, hothers, rfl⟩ := Option.map_eq_some_iff.mp h
      rw [List.mem_cons, ih hothers, List.exists_mem_cons_iff, hname, hfirst, Option.some.injEq,
        Option.some.injEq, Prod.mk.injEq, eq_comm (a := key), eq_comm (a := value)]

/-- A scalar stands for the same at every level. -/
lemma value?_of_level {document : Spelled} {value : Value} (h : document.value? 0 = some value) :
    document.value? depth = some value := by
  cases document with
  | arr items => cases h
  | obj members => cases h
  | _ => exact h

/-- A name that no member has is not in the object of the members. -/
lemma get?_ofList_eq_none (h : membersValue? members depth = some bindings) {name : String}
    (hname : ∀ member ∈ members, unescape? member.1 ≠ some name) :
    (SortedMap.ofList bindings).get? name = none := by
  rw [Option.eq_none_iff_forall_ne_some]
  intro value hvalue
  have hmem := SortedMap.mem_of_mem_ofList (SortedMap.mem_entries_iff.mpr hvalue)
  obtain ⟨member, hmember, hkey, -⟩ := (mem_bindings_iff h).mp hmem
  exact hname member hmember hkey

/-- A name whose members are all the same scalar is that scalar in the object. -/
lemma get?_ofList_eq_some (h : membersValue? members depth = some bindings) {name : String}
    {scalar : Value} (hscalar : ∀ member ∈ members, unescape? member.1 = some name →
      member.2.value? 0 = some scalar) {member : List Char × Spelled} (hmember : member ∈ members)
    (hname : unescape? member.1 = some name) :
    (SortedMap.ofList bindings).get? name = some scalar := by
  have hbound : (name, scalar) ∈ bindings := (mem_bindings_iff h).mpr
    ⟨member, hmember, hname, value?_of_level (hscalar member hmember hname)⟩
  obtain ⟨value, hvalue⟩ := Option.isSome_iff_exists.mp (SortedMap.isSome_get?_ofList hbound)
  have hmem := SortedMap.mem_of_mem_ofList (SortedMap.mem_entries_iff.mpr hvalue)
  obtain ⟨last, hlast, hkey, hread⟩ := (mem_bindings_iff h).mp hmem
  rw [value?_of_level (hscalar last hlast hkey)] at hread
  rw [hvalue, hread]

/-- The class that an object stands for is the one that its members give. -/
lemma readClass?_obj (h : membersValue? members (depthLimit - 1) = some bindings) :
    readClass? (.obj members)
      = ((SortedMap.ofList bindings).get? classKey).bind Value.text? := by
  have hvalue : (Spelled.obj members).value? depthLimit
      = some (.ofObject (.ofList bindings)) := by
    show (membersValue? members (depthLimit - 1)).map _ = _
    rw [h]
    rfl
  rw [readClass?, hvalue, Option.bind_some, valueClass?, Value.ofObject, Value.object?,
    SortedMap.ofList_entries]
  rfl

/-! ## Documents that name one class -/

/-- The members of a document that is an object. -/
def membersOf : Spelled → List (List Char × Spelled)
  | .obj members => members
  | _ => []

/-- A document that stands for a value, and all of whose members for the class are such to both
readers, and the same scalar. -/
structure Unequivocal (document : Spelled) : Prop where
  readable : (document.value? depthLimit).isSome
  /-- No key goes on behind the name and a null character. -/
  named : ∀ member ∈ membersOf document,
    unescape? (untilNull member.1) = some classKey ↔ unescape? member.1 = some classKey
  agreed : ∃ scalar, ∀ member ∈ membersOf document, unescape? member.1 = some classKey →
    member.2.value? 0 = some scalar

/-- The class of a scalar is the text that it stands for. -/
lemma classOf?_of_scalar {document found : Spelled} {scalar : Value}
    (hfound : document.member? classKey = some found) (hscalar : found.value? 0 = some scalar) :
    classOf? document = scalar.text? := by
  rw [classOf?, hfound]
  cases found with
  | null | bool b =>
      obtain rfl := Option.some.inj hscalar
      rfl
  | num spelling =>
      obtain ⟨n, rfl⟩ := exists_num_of_numberOf? hscalar
      rfl
  | str inside =>
      obtain ⟨text, htext, rfl⟩ := Option.map_eq_some_iff.mp hscalar
      exact htext
  | arr items | obj members => cases hscalar

/-- **Both readers name the same class of an unequivocal document**, or none. -/
theorem Unequivocal.classOf?_eq {document : Spelled} (h : Unequivocal document) :
    classOf? document = readClass? document := by
  cases document with
  | obj members =>
      obtain ⟨value, hvalue⟩ := Option.isSome_iff_exists.mp h.readable
      obtain ⟨bindings, hbindings, -⟩ := Option.map_eq_some_iff.mp
        (show (membersValue? members (depthLimit - 1)).map _ = some value from hvalue)
      obtain ⟨scalar, hscalar⟩ := h.agreed
      have hmember? : (Spelled.obj members).member? classKey = spelledMember? classKey members :=
        rfl
      rw [readClass?_obj hbindings]
      cases hfound : spelledMember? classKey members with
      | none =>
          have hnone : (SortedMap.ofList bindings).get? classKey = none :=
            get?_ofList_eq_none hbindings fun member hmember hname =>
              ne_of_spelledMember?_eq_none hfound member hmember
                ((h.named member hmember).mpr hname)
          rw [classOf?, hmember?, hfound, hnone]
          rfl
      | some found =>
          obtain ⟨key, hmember, hkey⟩ := mem_of_spelledMember? hfound
          have hname : unescape? key = some classKey := (h.named (key, found) hmember).mp hkey
          rw [classOf?_of_scalar (hmember?.trans hfound) (hscalar (key, found) hmember hname),
            get?_ofList_eq_some hbindings hscalar hmember hname]
          rfl
  | _ => exact Eq.symm (readClass?_of_not_obj fun _ h => by cases h)

/-- The documents of instances are read alike too, even if a name among their variables starts with
that of the class and a null character: it comes after the class. -/
theorem classOf?_eq_of_readable {object : Instance} (h : object.Readable) :
    classOf? (Value.ofObject object.data).spelled
      = readClass? (Value.ofObject object.data).spelled := by
  have hspelled := decode?_encode h.canonical h.shallow
  have hnames : namesClass object.className (Value.ofObject object.data).spelled.encode = true := by
    rw [Value.spelled_encode]
    show namesClass object.className object.data.encode = true
    rw [← h.mirrored.encode_eq, Memory.namesClass_encode h]
    exact beq_self_eq_true _
  rw [classOf?_spelled h, (namesClass_encode_iff (decode?_sound hspelled)).mp hnames]

/-! ## Tables of checked documents -/

namespace Table

/-- A table whose rows are documents that it checked when they were put, one for each id.  A check
that takes more than JSON leaves such rows too, as long as it stores what it takes as JSON. -/
structure Checked (table : Table) : Prop where
  /-- There are no two rows of one id. -/
  once : (table.rows.map Prod.fst).Nodup
  checked : ∀ row ∈ table.rows, ∃ text document,
    Spelled.decode? tableDepthLimit text = some document ∧ row.2 = .document document

variable {table table' : Table}

lemma empty_checked : empty.Checked := ⟨List.nodup_nil, fun _ h => by cases h⟩

lemma Checked.rowsWithout (h : table.Checked) (id : String) :
    Checked { table with rows := table.rowsWithout id } where
  once := nodup_rowsWithout h.once id
  checked row hrow := h.checked row (List.mem_of_mem_filter hrow)

/-- **A table stays checked** when another document is put, … -/
theorem Checked.put (h : table.Checked) {id text : String} (hput : table.put id text = .ok table') :
    table'.Checked := by
  obtain ⟨document, hdocument, rfl⟩ := put_eq_ok hput
  refine ⟨nodup_put h.once id _, fun row hrow => ?_⟩
  rcases List.mem_append.mp hrow with hrow | hrow
  · exact (h.rowsWithout id).checked row hrow
  · obtain rfl := List.mem_singleton.mp hrow
    exact ⟨text, document, hdocument, rfl⟩

/-- … and when one is deleted. -/
theorem Checked.delete (h : table.Checked) {id : String} (hdelete : table.delete id = .ok table') :
    table'.Checked := by
  obtain rfl := delete_eq_ok hdelete
  exact h.rowsWithout id

/-- A checked table lists the ids of the documents whose spelling names the class. -/
lemma Checked.findByClass (h : table.Checked) (className : String) :
    ∃ ids, table.findByClass className = .ok ids ∧ ∀ id, id ∈ ids ↔
      ∃ document, (id, .document document) ∈ table.rows ∧ classOf? document = some className := by
  have hclass : ∀ row ∈ table.rows, row.2.className? = .ok row.2.className?.toOption.join := by
    intro row hrow
    obtain ⟨-, document, -, hcell⟩ := h.checked row hrow
    rw [hcell]
    rfl
  refine ⟨_, idsOfClass_eq hclass, fun id => ?_⟩
  rw [List.mem_map]
  constructor
  · rintro ⟨⟨_, cell⟩, hrow, rfl⟩
    obtain ⟨hrow, hname⟩ := List.mem_filter.mp hrow
    obtain ⟨-, document, -, rfl⟩ := h.checked _ hrow
    exact ⟨document, hrow, beq_iff_eq.mp hname⟩
  · rintro ⟨document, hrow, hname⟩
    exact ⟨_, List.mem_filter.mpr ⟨hrow, beq_iff_eq.mpr hname⟩, rfl⟩

/-- A document is found as its text, unless it is nothing but a number. -/
lemma get_document_iff (once : (table.rows.map Prod.fst).Nodup) {id text : String}
    {document : Spelled} (hrow : (id, .document document) ∈ table.rows) :
    table.get id = .ok (some text) ↔
      (∀ spelling, document ≠ .num spelling) ∧ document.encode = text := by
  rw [get_of_mem once hrow]
  cases document <;> simp [Cell.read, Except.map]

/-- What is found under an id names the class of what the document of the id stands for.  A document
that is nothing but a number cannot be read, and names no class either. -/
lemma Checked.get_names_iff (h : table.Checked) {id className : String} :
    (∃ text, table.get id = .ok (some text) ∧ namesClass className text = true) ↔
      ∃ document, (id, .document document) ∈ table.rows ∧ readClass? document = some className := by
  constructor
  · rintro ⟨text, hget, hname⟩
    by_cases hrow : ∃ cell, (id, cell) ∈ table.rows
    · obtain ⟨cell, hrow⟩ := hrow
      obtain ⟨_, document, hdocument, rfl⟩ := h.checked _ hrow
      obtain ⟨-, rfl⟩ := (get_document_iff h.once hrow).mp hget
      exact ⟨document, hrow, (namesClass_encode_iff (decode?_sound hdocument)).mp hname⟩
    · rw [get_of_notMem (not_exists.mp hrow)] at hget
      cases hget
  · rintro ⟨document, hrow, hclass⟩
    obtain ⟨_, _, hdocument, heq⟩ := h.checked _ hrow
    obtain rfl := Cell.document.inj heq
    refine ⟨document.encode, (get_document_iff h.once hrow).mpr ⟨?_, rfl⟩,
      (namesClass_encode_iff (decode?_sound hdocument)).mpr hclass⟩
    rintro spelling rfl
    rw [readClass?_of_not_obj fun _ h => by cases h] at hclass
    cases hclass

end Table

end ObjectMemory.Backend
