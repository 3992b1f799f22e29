import ObjectMemory.Proofs.Instance.Agreement
import ObjectMemory.Proofs.Json.Members
import ObjectMemory.Proofs.Timestamp.Calendar

/-!
# What is read of a document

A document comes from anywhere: its members stand in any order, some of them twice, and those of the
standard fields may be anything or missing.  It is refused for one reason only, that it is no object
with a string for its class.  The other two standard fields are read for what they are worth, and
what takes their place when they are worth nothing is written over them.  Nothing else is touched,
so the variables of the instance are the members of the document.

* `ReadFrom` — what an instance has of the members of its document;
* `decode_eq_ok_iff_members` — texts that give an instance;
* `createdAtOf_of_timeText`, `createdAtOf_eq_epoch`, `map_str_declaredOf` — the two lenient fields;
* `get?_withStandardFields_kept`, `readFrom_ofData` — the members of the instance;
* **`decode_reads_members`** — when a document is read, and as what.
-/

namespace ObjectMemory.Instance

open Json

/-- What an instance has of the members of its document.  Of a repeated member the last one
counts. -/
structure ReadFrom (id : String) (members : List (String × Value)) (object : Instance) : Prop where
  id_eq : object.id = id
  className_eq : lastMember? classKey members = some (.str object.className)
  /-- A moment of creation that is one is the one in UTC. -/
  dated : ∀ text localTime ahead, lastMember? createdAtKey members = some (.str text) →
    TimeText text.toList localTime ahead →
    ∀ moment : Timestamp, moment.IsUtcOf localTime ahead ↔ moment = object.createdAt
  undated : (¬ ∃ text localTime ahead, lastMember? createdAtKey members = some (.str text) ∧
    TimeText text.toList localTime ahead) → object.createdAt = .epoch
  /-- Of the declared names those that are strings count. -/
  named : ∀ names, lastMember? declaredKey members = some (.arr names) →
    object.declared.map .str = names.filter fun name => name.text?.isSome
  unnamed : (∀ names, lastMember? declaredKey members ≠ some (.arr names)) → object.declared = []
  unmodified : object.modified = false
  kept : ∀ key, key ≠ createdAtKey → key ≠ declaredKey →
    object.data.get? key = lastMember? key members
  nothing_else : ∀ key, object.data.contains key = true →
    key = createdAtKey ∨ (lastMember? key members).isSome
  declared_iff : object.data.contains declaredKey = true ↔ object.declared ≠ []
  /-- The data say the same of the standard fields as the fields do. -/
  mirrored : object.Mirrored

/-! ## Instances of data -/

section Data

variable {id className : String} {data : Object} {object : Instance}

/-- The moment of creation of data is that of its text. -/
lemma createdAtOf_of_timeText {text : String} {localTime : Timestamp} {ahead : ℤ}
    (hmember : data.get? createdAtKey = some (.str text))
    (htext : TimeText text.toList localTime ahead) :
    (createdAtOf data).IsUtcOf localTime ahead := by
  have hread := Timestamp.decode?_of_timeText htext
  have hcreated : createdAtOf data = localTime.shift ahead := by
    rw [createdAtOf, hmember, Option.bind_some, Value.text?, Option.bind_some, hread,
      Option.getD_some]
  rw [hcreated]
  exact Timestamp.isUtcOf_of_timeText htext hread

/-- Without such a text it is the start of 1970. -/
lemma createdAtOf_eq_epoch
    (h : ¬ ∃ text localTime ahead, data.get? createdAtKey = some (.str text) ∧
      TimeText text.toList localTime ahead) : createdAtOf data = .epoch := by
  rw [createdAtOf]
  cases hmoment : ((data.get? createdAtKey).bind Value.text?).bind Timestamp.decode? with
  | none => rfl
  | some moment =>
      obtain ⟨text, hwritten, hread⟩ := Option.bind_eq_some_iff.mp hmoment
      obtain ⟨value, hmember, hvalue⟩ := Option.bind_eq_some_iff.mp hwritten
      obtain ⟨localTime, ahead, htext, -⟩ := Timestamp.timeText_of_decode? hread
      rw [text?_eq_some_iff.mp hvalue] at hmember
      exact absurd ⟨text, localTime, ahead, hmember, htext⟩ h

lemma map_str_filterMap_text? (names : List Value) :
    (names.filterMap Value.text?).map .str = names.filter fun name => name.text?.isSome := by
  induction names with
  | nil => rfl
  | cons name rest ih =>
      cases hname : name.text? with
      | none =>
          rw [List.filterMap_cons_none hname, List.filter_cons_of_neg (by simp [hname]), ih]
      | some text =>
          rw [List.filterMap_cons_some hname, List.filter_cons_of_pos (by simp [hname]),
            List.map_cons, ih, text?_eq_some_iff.mp hname]

/-- The declared names of data are the strings among the names that they give. -/
lemma map_str_declaredOf {names : List Value} (h : data.get? declaredKey = some (.arr names)) :
    (declaredOf data).map .str = names.filter fun name => name.text?.isSome := by
  rw [declaredOf, h]
  exact map_str_filterMap_text? names

lemma declaredOf_eq_nil (h : ∀ names, data.get? declaredKey ≠ some (.arr names)) :
    declaredOf data = [] := by
  rw [declaredOf]
  split
  · next names hnames => exact absurd hnames (h names)
  · rfl

/-! ## Members of the instance -/

variable {createdAt : Timestamp} {declared : List String} {key : String}

/-- The class that is written is the one that was read, so only two members are written over. -/
lemma get?_withStandardFields_kept (hclass : data.get? classKey = some (.str className))
    (hcreated : key ≠ createdAtKey) (hdeclared : key ≠ declaredKey) :
    (withStandardFields className createdAt declared data).get? key = data.get? key := by
  rcases eq_or_ne key classKey with rfl | hne
  · rw [get?_withStandardFields_class, hclass]
  · refine get?_withStandardFields_variable (Bool.eq_false_iff.mpr fun hreserved => ?_)
    rcases isReserved_iff.mp hreserved with h | h | h
    · exact hne h
    · exact hcreated h
    · exact hdeclared h

/-- There is a member for the declared names when there are any. -/
lemma contains_withStandardFields_declared :
    (withStandardFields className createdAt declared data).contains declaredKey = true ↔
      declared ≠ [] := by
  rw [SortedMap.contains, get?_withStandardFields_declared, declaredMember]
  split_ifs with hempty
  · simpa using hempty
  · simpa using hempty

/-- What an instance has of its data, it has of the members that they were made of. -/
lemma readFrom_ofData {members : List (String × Value)}
    (h : ofData id (.ofList members) = .ok object) : ReadFrom id members object := by
  obtain ⟨className, hclass, hobject⟩ := ofData_eq_ok_iff.mp h
  have hmirrored := ofData_mirrored h
  subst hobject
  have hkept : ∀ key, key ≠ createdAtKey → key ≠ declaredKey →
      (withStandardFields className (createdAtOf (.ofList members)) (declaredOf (.ofList members))
        (.ofList members)).get? key = lastMember? key members := by
    intro key hcreated hdeclared
    rw [get?_withStandardFields_kept hclass hcreated hdeclared, get?_ofMembers]
  simp only [get?_ofMembers] at hclass
  exact
    { id_eq := rfl
      className_eq := hclass
      dated := by
        intro text localTime ahead hmember htext moment
        have hutc := createdAtOf_of_timeText ((get?_ofMembers members _).trans hmember) htext
        exact ⟨fun hmoment => hmoment.unique hutc, fun heq => heq ▸ hutc⟩
      undated := fun hnone => createdAtOf_eq_epoch (by simpa only [get?_ofMembers] using hnone)
      named := fun names hnames => map_str_declaredOf ((get?_ofMembers members _).trans hnames)
      unnamed := fun hother => declaredOf_eq_nil (by simpa only [get?_ofMembers] using hother)
      unmodified := rfl
      kept := hkept
      nothing_else := by
        intro key hkey
        rcases eq_or_ne key createdAtKey with rfl | hcreated
        · exact .inl rfl
        refine .inr ?_
        rcases eq_or_ne key declaredKey with rfl | hdeclared
        · -- Names that were read were read of an array.
          by_contra hnone
          refine contains_withStandardFields_declared.mp hkey (declaredOf_eq_nil ?_)
          intro names hnames
          rw [← get?_ofMembers, hnames] at hnone
          exact hnone rfl
        · rw [← hkept key hcreated hdeclared]
          exact hkey
      declared_iff := contains_withStandardFields_declared
      mirrored := hmirrored }

end Data

/-! ## Documents -/

variable {id text : String} {object : Instance}

/-- A document is that of an instance exactly if its members are. -/
lemma decode_eq_ok_iff_members :
    decode id text = .ok object ↔ ∃ members, writtenMembers? text = some members ∧
      ofData id (.ofList members) = .ok object := by
  constructor
  · intro h
    obtain ⟨data, hdata, hobject⟩ := decode_eq_ok h
    obtain ⟨members, hmembers, rfl⟩ := decodeObject_eq_ok_iff_members.mp hdata
    exact ⟨members, hmembers, hobject⟩
  · rintro ⟨members, hmembers, hobject⟩
    rw [decode, decodeObject_eq_ok_iff_members.mpr ⟨members, hmembers, rfl⟩]
    exact hobject

/-- **A document is read as what its members say.**  A text stands for an object exactly if it has
members, and for the object of those.  It is read as an instance exactly if there is a last member
for the class and it is a string.  The instance then has all else of the members: the moment of
creation as the one in UTC, or else the start of 1970; the strings among the declared names; and
every other member as it is. -/
theorem decode_reads_members (id text : String) :
    (∀ data : Object, Json.decode text = .ok (.ofObject data) ↔
      ∃ members, writtenMembers? text = some members ∧ data = .ofList members) ∧
    ((∃ object, decode id text = .ok object) ↔
      ∃ members className, writtenMembers? text = some members ∧
        lastMember? classKey members = some (.str className)) ∧
    ∀ object, decode id text = .ok object →
      ∃ members, writtenMembers? text = some members ∧ ReadFrom id members object := by
  refine ⟨fun data => ?_, ?_, fun object h => ?_⟩
  · rw [← decodeObject_eq_ok_iff]
    exact decodeObject_eq_ok_iff_members
  · simp only [decode_eq_ok_iff_members, ofData_eq_ok_iff, get?_ofMembers]
    constructor
    · rintro ⟨object, members, hmembers, className, hclass, -⟩
      exact ⟨members, className, hmembers, hclass⟩
    · rintro ⟨members, className, hmembers, hclass⟩
      exact ⟨_, members, hmembers, className, hclass, rfl⟩
  · obtain ⟨members, hmembers, hobject⟩ := decode_eq_ok_iff_members.mp h
    exact ⟨members, hmembers, readFrom_ofData hobject⟩

/-- A document that says its class, its declared names and a variable twice, the class first as a
number, and in which a name is no string. -/
def repeatedDocument : String :=
  "\x7b\"class\":1,\"n\":1,\"_vars\":[\"m\"],\"created_at\":\"2016-12-31 23:59:60.5-07:30\"," ++
    "\"n\":[null],\"_vars\":[\"n\",5,\"class\"],\"class\":\"Counter\"\x7d"

theorem decode_reads_members_repeated : ∃ object members,
    decode "counter_1" repeatedDocument = .ok object ∧
    writtenMembers? repeatedDocument = some members ∧ members.length = 7 ∧
    ReadFrom "counter_1" members object ∧ object.className = "Counter" ∧
    object.createdAt.encode = "2017-01-01T07:29:60.500+00:00" ∧
    object.declared = ["n", "class"] ∧ object.data.keys = ["_vars", "class", "created_at", "n"] := by
  have hread : (decode "counter_1" repeatedDocument).toOption.map (fun object =>
      (object.className, object.createdAt.encode, object.declared, object.data.keys))
        = some ("Counter", "2017-01-01T07:29:60.500+00:00", ["n", "class"],
            ["_vars", "class", "created_at", "n"]) := by decide +kernel
  have hlength : (writtenMembers? repeatedDocument).map List.length = some 7 := by decide +kernel
  obtain ⟨object, hobject, hfields⟩ := Option.map_eq_some_iff.mp hread
  have hdecode := of_toOption_some hobject
  obtain ⟨members, hmembers, hfrom⟩ :=
    (decode_reads_members "counter_1" repeatedDocument).2.2 object hdecode
  rw [hmembers, Option.map_some, Option.some.injEq] at hlength
  obtain ⟨hclass, hcreated, hdeclared, hkeys⟩ := by simpa only [Prod.mk.injEq] using hfields
  exact ⟨object, members, hdecode, hmembers, hlength, hfrom, hclass, hcreated, hdeclared, hkeys⟩

end ObjectMemory.Instance
