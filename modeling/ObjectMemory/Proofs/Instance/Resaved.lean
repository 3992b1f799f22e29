import ObjectMemory.Proofs.Instance.RoundTrip
import ObjectMemory.Proofs.Timestamp.Years

/-!
# Reading a document and saving it again

Documents come from elsewhere.  Their keys may be in any order, their moment of creation may be
spelled in any way and at any offset, and their declared names may be mixed with other values.
Reading brings all of that into one form, and saving writes that form.  The question is whether the
second reader gets what the first one got.

All but the moment of creation is read again as it was (`ofData_of_mirrored`).  The moment is
written in UTC, so an offset at the edge of the years can lead to one that is written with a sign,
and then the second reader falls back to the start of 1970.

* `decodeObject_encode_of_decode` — the data are read again;
* **`saved_again`** — the whole instance.
-/

namespace ObjectMemory.Instance

open Json

variable {id text : String} {object : Instance}

/-- The data of an instance that was read are read again from its document. -/
lemma decodeObject_encode_of_decode (h : decode id text = .ok object)
    (integers : MembersIntegersOnly object.data.entries) :
    decodeObject object.encode = .ok object.data := by
  have hshallow : (Value.ofObject object.data).depth ≤ depthLimit :=
    depth_ofObject_le.mpr fun m hm => Nat.le_pred_of_lt (decode_shallow h m hm)
  rw [(decode_mirrored h).encode_eq]
  exact Json.decodeObject_encode integers (Made.decoded h).canonical hshallow

/-- What is read has the id that it was read under. -/
lemma decode_id (h : decode id text = .ok object) : object.id = id := by
  obtain ⟨data, -, hobject⟩ := decode_eq_ok h
  obtain ⟨className, -, rfl⟩ := ofData_eq_ok_iff.mp hobject
  rfl

/-- The moment of creation that is read of data lies in a year of four digits, or on one of the two
days next to them. -/
lemma decode_createdAt (h : decode id text = .ok object) :
    object.createdAt.FourDigitYear ∨
      object.createdAt.date.year = -1 ∧ object.createdAt.date.month = 12 ∧
        object.createdAt.date.day = 31 ∨
      object.createdAt.date.year = 10000 ∧ object.createdAt.date.month = 1 ∧
        object.createdAt.date.day = 1 := by
  obtain ⟨data, -, hobject⟩ := decode_eq_ok h
  obtain ⟨className, -, rfl⟩ := ofData_eq_ok_iff.mp hobject
  dsimp only
  rw [createdAtOf]
  cases hmoment : ((data.get? createdAtKey).bind Value.text?).bind Timestamp.decode? with
  | none => exact .inl Timestamp.epoch_fourDigitYear
  | some moment =>
      obtain ⟨written, -, hread⟩ := Option.bind_eq_some_iff.mp hmoment
      exact Timestamp.decode?_date hread

/-- **Reading a document and saving it again** is stable for documents of integers: the second
reader gets the instance that the first one got.  This fails exactly where an offset led to a moment
of creation on the last day of year -1 or the first day of year 10000, and then only the moment is
lost. -/
theorem saved_again (h : decode id text = .ok object)
    (integers : MembersIntegersOnly object.data.entries) :
    (object.createdAt.FourDigitYear → decode id object.encode = .ok object) ∧
    (¬ object.createdAt.FourDigitYear →
      decode id object.encode = .ok { object with
        createdAt := .epoch
        data := object.data.insert createdAtKey (.str Timestamp.epoch.encode) } ∧
      (object.createdAt.date.year = -1 ∧ object.createdAt.date.month = 12 ∧
          object.createdAt.date.day = 31 ∨
        object.createdAt.date.year = 10000 ∧ object.createdAt.date.month = 1 ∧
          object.createdAt.date.day = 1)) := by
  have hdata := decodeObject_encode_of_decode h integers
  have hid := decode_id h
  have hunmodified := decode_unmodified h
  constructor
  · intro hyear
    rw [decode, hdata]
    simp only [ofData_data (decode_mirrored h) hyear, ← hid, ← hunmodified]
  · intro hyear
    have hmoment : (Timestamp.decode? object.createdAt.encode).getD .epoch = .epoch := by
      rw [Timestamp.decode?_encode_eq_none hyear, Option.getD_none]
    rw [decode, hdata]
    refine ⟨?_, (decode_createdAt h).resolve_left hyear⟩
    simp only [ofData_of_mirrored (decode_mirrored h) hmoment, ← hid, ← hunmodified]

/-- A document with its keys in no order, some of them twice, a leap second in another offset, and
declared names among other values. -/
def foreignDocument : String :=
  "\x7b\"n\":1,\"_vars\":[\"n\",5,\"m\"],\"n\":18446744073709551615,\"class\":\"Counter\"," ++
    "\"created_at\":\"2016-12-31 23:59:60.1234567890\u221207:30\"\x7d"

/-- A document of the first minute of year 0, in a place that is a minute ahead of UTC. -/
def edgeDocument : String :=
  "\x7b\"class\":\"Counter\",\"created_at\":\"0000-01-01T00:00:00+00:01\"\x7d"

theorem saved_again_foreignDocument : ∃ foreign edge,
    decode "counter_1" foreignDocument = .ok foreign ∧
    MembersIntegersOnly foreign.data.entries ∧ foreign.createdAt.FourDigitYear ∧
    foreign.declared = ["n", "m"] ∧ decode "counter_1" foreign.encode = .ok foreign ∧
    decode "counter_1" edgeDocument = .ok edge ∧ MembersIntegersOnly edge.data.entries ∧
    ¬ edge.createdAt.FourDigitYear ∧
    decode "counter_1" edge.encode = .ok { edge with
      createdAt := .epoch
      data := edge.data.insert createdAtKey (.str Timestamp.epoch.encode) } := by
  have hforeign : (decode "counter_1" foreignDocument).toOption.map (fun object =>
      (decide (MembersIntegersOnly object.data.entries ∧ object.createdAt.FourDigitYear),
        object.declared)) = some (true, ["n", "m"]) := by decide +kernel
  have hedge : (decode "counter_1" edgeDocument).toOption.map (fun object =>
      decide (MembersIntegersOnly object.data.entries ∧ ¬ object.createdAt.FourDigitYear))
        = some true := by decide +kernel
  obtain ⟨foreign, hread, hforeign⟩ := Option.map_eq_some_iff.mp hforeign
  obtain ⟨edge, hread', hedge⟩ := Option.map_eq_some_iff.mp hedge
  have hread := of_toOption_some hread
  have hread' := of_toOption_some hread'
  obtain ⟨hforeign, hdeclared⟩ := Prod.mk.inj hforeign
  obtain ⟨hintegers, hyear⟩ := of_decide_eq_true hforeign
  obtain ⟨hintegers', hyear'⟩ := of_decide_eq_true hedge
  exact ⟨foreign, edge, hread, hintegers, hyear, hdeclared,
    (saved_again hread hintegers).1 hyear, hread', hintegers', hyear',
    ((saved_again hread' hintegers').2 hyear').1⟩

/-- The moment of creation of a document that is read is another one once it was saved. -/
theorem createdAt_lost_edgeDocument : ∃ object again,
    decode "counter_1" edgeDocument = .ok object ∧
    MembersIntegersOnly object.data.entries ∧
    decode "counter_1" object.encode = .ok again ∧ again.createdAt ≠ object.createdAt := by
  have hread : (decode "counter_1" edgeDocument).toOption.map (fun object =>
      (decide (MembersIntegersOnly object.data.entries),
        (decode "counter_1" object.encode).toOption.map fun again =>
          decide (again.createdAt = object.createdAt))) = some (true, some false) := by
    decide +kernel
  obtain ⟨object, hobject, hread⟩ := Option.map_eq_some_iff.mp hread
  obtain ⟨hintegers, hread⟩ := Prod.mk.inj hread
  obtain ⟨again, hagain, hread⟩ := Option.map_eq_some_iff.mp hread
  exact ⟨object, again, of_toOption_some hobject, of_decide_eq_true hintegers,
    of_toOption_some hagain, of_decide_eq_false hread⟩

end ObjectMemory.Instance
