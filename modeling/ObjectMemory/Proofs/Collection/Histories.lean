import ObjectMemory.Collection.Dictionary
import ObjectMemory.Proofs.Json.Members
import ObjectMemory.Proofs.Text.Bytes

/-!
# Dictionaries and their histories

A dictionary starts empty, or with the members that a text or a value has, and is then changed key
by key.  Starting with members is a history as well, of members that are put one after the other as
they are written.  What a dictionary has for a key is what was last written under that key
(`Follows.run`), and as a dictionary lists its keys in an order of their own, nothing else of a
history can be seen in it.

* `Source`, `Change`, `changeAll` — where a dictionary comes from, and what is done to it;
* `Source.history`, `lastWrite?` — what was written, and what of it is left under a key;
* `Follows` — a dictionary has what is left of a history; `Source.follows`, `Follows.perform`,
  `Follows.run` — a start, a step and a run;
* `Value.same_refl` — a value is equal to itself;
* **`contents_of_history`** — all that can be seen of a dictionary.
-/

namespace ObjectMemory

namespace Json

/-! ## Equality -/

lemma Number.same_refl (n : Number) : n.same n = true := by
  cases n with
  | integer => simp [Number.same]
  | float => simp [Number.same, Decimal.Binary64.sameValue]

mutual

/-- A value is equal to itself. -/
lemma Value.same_refl : ∀ v : Value, v.same v = true
  | .null => rfl
  | .bool b => by simp [Value.same]
  | .num n => n.same_refl
  | .str text => by simp [Value.same]
  | .arr items => sameItems_refl items
  | .obj members => sameMembers_refl members

lemma sameItems_refl : ∀ items : List Value, sameItems items items = true
  | [] => rfl
  | v :: rest => by rw [sameItems, v.same_refl, sameItems_refl rest]; rfl

lemma sameMembers_refl : ∀ members : List (String × Value), sameMembers members members = true
  | [] => rfl
  | (key, v) :: rest => by
      rw [sameMembers, v.same_refl, sameMembers_refl rest, BEq.refl]
      rfl

end

end Json

namespace Collection

open Json

/-! ## Histories -/

/-- Where a dictionary comes from. -/
inductive Source where
  | new
  | text (spelled : String)
  | held (value : Option Value)

/-- A change of one key. -/
inductive Change where
  | put (key : String) (value : Value)
  | remove (key : String)

namespace Change

def key : Change → String
  | put key _ => key
  | remove key => key

/-- What a change leaves under its key. -/
def left : Change → Option Value
  | put _ value => some value
  | remove _ => none

/-- What a change returns, and the dictionary after it. -/
def perform (dictionary : Dictionary) : Change → Option Value × Dictionary
  | put key value => dictionary.put key value
  | remove key => dictionary.remove key

/-- A change as a write of its key. -/
def write (change : Change) : String × Option Value := (change.key, change.left)

end Change

/-- What changes in a row return, and the dictionary after them. -/
def changeAll : List Change → Dictionary → List (Option Value) × Dictionary
  | [], dictionary => ([], dictionary)
  | change :: rest, dictionary =>
    let (before, dictionary) := change.perform dictionary
    let (befores, dictionary) := changeAll rest dictionary
    (before :: befores, dictionary)

namespace Source

def dictionary : Source → Dictionary
  | new => .empty
  | text spelled => .ofText spelled
  | held value => .ofVariable value

/-- The members that a dictionary starts with, in the order in which they are written.  A text or
value that is no object has none. -/
def members : Source → List (String × Value)
  | text spelled | held (some (.str spelled)) => (writtenMembers? spelled).getD []
  | held (some (.obj members)) => members
  | _ => []

/-- All that is written: the members of the source, and then the changes. -/
def history (source : Source) (changes : List Change) : List (String × Option Value) :=
  source.members.map (fun m => (m.1, some m.2)) ++ changes.map Change.write

end Source

/-- What is left under a key: what was written there last, if it was not removed. -/
def lastWrite? (history : List (String × Option Value)) (key : String) : Option Value :=
  (history.reverse.lookup key).join

/-- The last of some bindings is the first from the end. -/
lemma lookup_reverse_concat {α : Type} (bindings : List (String × α)) (last : String × α)
    (key : String) :
    (bindings ++ [last]).reverse.lookup key
      = if key = last.1 then some last.2 else bindings.reverse.lookup key := by
  rw [List.reverse_concat, List.lookup_cons]
  rcases eq_or_ne key last.1 with heq | hne
  · rw [if_pos heq, beq_iff_eq.mpr heq]
  · rw [if_neg hne, beq_false_of_ne hne]

lemma lastWrite?_concat (history : List (String × Option Value)) (write : String × Option Value)
    (key : String) :
    lastWrite? (history ++ [write]) key
      = if key = write.1 then write.2 else lastWrite? history key := by
  rw [lastWrite?, lastWrite?, lookup_reverse_concat]
  split_ifs <;> rfl

/-- Members that are all written leave what the last one of a key has. -/
lemma lastWrite?_members (members : List (String × Value)) (key : String) :
    lastWrite? (members.map fun m => (m.1, some m.2)) key = lastMember? key members := by
  induction members using List.reverseRecOn with
  | nil => rfl
  | append_singleton members m ih =>
      rw [List.map_append, List.map_singleton, lastWrite?_concat, ih, lastMember?, lastMember?,
        lookup_reverse_concat]

/-! ## A start -/

/-- A text is read as the dictionary of its members, and as an empty one if it has none. -/
lemma dictionary_ofText (text : String) :
    Dictionary.ofText text = ⟨.ofList ((writtenMembers? text).getD [])⟩ := by
  cases hmembers : writtenMembers? text with
  | some members =>
      have hobject := decodeObject_eq_ok_iff_members.mpr ⟨members, hmembers, rfl⟩
      rw [Dictionary.ofText, decodeObject_eq_ok_iff.mp hobject]
      show Dictionary.mk (.ofList (SortedMap.ofList members).entries) = _
      rw [SortedMap.ofList_entries]
      rfl
  | none =>
      have hnone : ∀ object, decodeObject text ≠ .ok object := by
        intro object hobject
        obtain ⟨members, hsome, -⟩ := decodeObject_eq_ok_iff_members.mp hobject
        rw [hmembers] at hsome
        cases hsome
      rw [Dictionary.ofText]
      cases hdecode : decode text with
      | error error => rfl
      | ok value =>
          cases value with
          | obj members =>
              -- what is read lists its members in order, so it would have been an object
              have hcanonical := (decode_canonical hdecode).1
              rw [← SortedMap.entries_ofList hcanonical] at hdecode
              exact absurd (decodeObject_eq_ok_iff.mpr hdecode) (hnone _)
          | _ => rfl

/-- A dictionary starts with what the last member of each key has. -/
lemma Source.get?_dictionary (source : Source) (key : String) :
    source.dictionary.get? key = lastMember? key source.members := by
  have hmembers : source.dictionary = ⟨.ofList source.members⟩ := by
    cases source with
    | new => rfl
    | text spelled => exact dictionary_ofText spelled
    | held value =>
        cases value with
        | none => rfl
        | some value =>
            cases value with
            | str spelled => exact dictionary_ofText spelled
            | _ => rfl
  rw [hmembers]
  exact get?_ofMembers source.members key

/-! ## Changes -/

/-- A dictionary has what is left of a history. -/
def Follows (dictionary : Dictionary) (history : List (String × Option Value)) : Prop :=
  ∀ key, dictionary.get? key = lastWrite? history key

lemma Source.lastWrite?_history_nil (source : Source) (key : String) :
    lastWrite? (source.history []) key = lastMember? key source.members := by
  rw [history, List.map_nil, List.append_nil, lastWrite?_members]

/-- The last change of a history is the last write. -/
lemma Source.lastWrite?_history_concat (source : Source) (changes : List Change) (change : Change)
    (key : String) :
    lastWrite? (source.history (changes ++ [change])) key
      = if key = change.key then change.left else lastWrite? (source.history changes) key := by
  rw [history, List.map_append, List.map_singleton, ← List.append_assoc]
  exact lastWrite?_concat ..

lemma Source.follows (source : Source) : Follows source.dictionary (source.history []) := fun key =>
  (source.get?_dictionary key).trans (source.lastWrite?_history_nil key).symm

lemma Change.get?_perform (change : Change) (dictionary : Dictionary) (key : String) :
    (change.perform dictionary).2.get? key
      = if key = change.key then change.left else dictionary.get? key := by
  rcases eq_or_ne key change.key with rfl | hne
  · rw [if_pos rfl]
    cases change with
    | put key value => exact SortedMap.get?_insert_self ..
    | remove key => exact SortedMap.get?_erase_self ..
  · rw [if_neg hne]
    cases change with
    | put key value => exact SortedMap.get?_insert_of_ne hne
    | remove key => exact SortedMap.get?_erase_of_ne hne

/-- What a change returns is what its key had. -/
lemma Change.perform_fst (change : Change) (dictionary : Dictionary) :
    (change.perform dictionary).1 = dictionary.get? change.key := by
  cases change <;> rfl

variable {dictionary : Dictionary} {history : List (String × Option Value)}

/-- **A change is one more write.** -/
lemma Follows.perform (h : Follows dictionary history) (change : Change) :
    Follows (change.perform dictionary).2 (history ++ [change.write]) := by
  intro key
  rw [change.get?_perform, lastWrite?_concat, h key]
  rfl

lemma Follows.run (changes : List Change) (h : Follows dictionary history) :
    Follows (changeAll changes dictionary).2 (history ++ changes.map Change.write) := by
  induction changes generalizing dictionary history with
  | nil => rwa [List.map_nil, List.append_nil]
  | cons change rest ih =>
      have hrest := ih (h.perform change)
      rwa [List.append_assoc] at hrest

lemma changeAll_append (changes more : List Change) (dictionary : Dictionary) :
    changeAll (changes ++ more) dictionary
      = ((changeAll changes dictionary).1 ++ (changeAll more (changeAll changes dictionary).2).1,
        (changeAll more (changeAll changes dictionary).2).2) := by
  induction changes generalizing dictionary with
  | nil => rfl
  | cons change rest ih => simp only [List.cons_append, changeAll, ih]

lemma length_changeAll (changes : List Change) (dictionary : Dictionary) :
    (changeAll changes dictionary).1.length = changes.length := by
  induction changes generalizing dictionary with
  | nil => rfl
  | cons change rest ih => simp only [changeAll, List.length_cons, ih]

/-- Each change returns what was left under its key by all that was written before. -/
lemma Follows.returned (h : Follows dictionary history) (done : List Change) (change : Change)
    (rest : List Change) :
    (changeAll (done ++ change :: rest) dictionary).1[done.length]?
      = some (lastWrite? (history ++ done.map Change.write) change.key) := by
  have hreturned : (change.perform (changeAll done dictionary).2).1
      = lastWrite? (history ++ done.map Change.write) change.key :=
    (change.perform_fst _).trans (h.run done change.key)
  rw [changeAll_append, ← length_changeAll done dictionary, List.getElem?_append_right le_rfl,
    Nat.sub_self, ← hreturned]
  rfl

/-! ## What can be seen -/

/-- The keys of a dictionary ascend by their bytes. -/
lemma keys_ascending (dictionary : Dictionary) :
    dictionary.keys.Pairwise fun a b => Text.bytes a < Text.bytes b :=
  dictionary.entries.keys_pairwise.imp fun hlt => Text.bytes_lt_iff.mpr (compare_lt_iff_lt.mp hlt)

/-- A dictionary is what it has. -/
lemma dictionary_ext {a b : Dictionary} (h : ∀ key, a.get? key = b.get? key) : a = b := by
  cases a
  cases b
  exact congrArg _ (SortedMap.ext_get? h)

lemma beq_self (dictionary : Dictionary) : (dictionary == dictionary) = true :=
  sameMembers_refl _

/-- Changes of two keys may be made in either order. -/
lemma perform_comm {a b : Change} (h : a.key ≠ b.key) (dictionary : Dictionary) :
    (b.perform (a.perform dictionary).2).2 = (a.perform (b.perform dictionary).2).2 := by
  refine dictionary_ext fun key => ?_
  simp only [Change.get?_perform]
  split_ifs with hb ha
  · exact absurd (ha.symm.trans hb) h
  all_goals rfl

/-- What is put under a new key and removed again leaves nothing. -/
lemma perform_undone {key : String} (h : dictionary.get? key = none) (value : Value) :
    (Change.perform (Change.perform dictionary (.put key value)).2 (.remove key)).2
      = dictionary := by
  refine dictionary_ext fun other => ?_
  rcases eq_or_ne other key with rfl | hne
  · exact (SortedMap.get?_erase_self ..).trans h.symm
  · exact (SortedMap.get?_erase_of_ne hne).trans (SortedMap.get?_insert_of_ne hne)

/-- **Nothing of a history can be seen but what it leaves.**  The keys of a dictionary ascend by
their bytes, each of them once; it has, and each change returned, what was last written under a key;
and another history that leaves the same under each key, from whatever source, gives an equal
dictionary and the same text.  So changes of two keys may be made in either order, and what is put
under a new key and removed again leaves nothing. -/
theorem contents_of_history (source : Source) (changes : List Change) :
    let dictionary := (changeAll changes source.dictionary).2
    let contents := lastWrite? (source.history changes)
    (dictionary.keys.Pairwise (fun a b => Text.bytes a < Text.bytes b) ∧ dictionary.keys.Nodup ∧
      dictionary.size = dictionary.keys.length) ∧
    (∀ key, dictionary.get? key = contents key ∧
      dictionary.contains key = (contents key).isSome ∧
      (key ∈ dictionary.keys ↔ (contents key).isSome = true)) ∧
    (∀ done change rest, changes = done ++ change :: rest →
      (changeAll changes source.dictionary).1[done.length]?
        = some (lastWrite? (source.history done) change.key)) ∧
    (∀ (other : Source) (others : List Change),
      (∀ key, lastWrite? (other.history others) key = contents key) →
      let same := (changeAll others other.dictionary).2
      same = dictionary ∧ (same == dictionary) = true ∧ same.encode = dictionary.encode) ∧
    (∀ a b : Change, a.key ≠ b.key →
      (changeAll [a, b] dictionary).2 = (changeAll [b, a] dictionary).2 ∧
        (changeAll [a, b] dictionary).2.encode = (changeAll [b, a] dictionary).2.encode) ∧
    ∀ key value, contents key = none →
      (changeAll [.put key value, .remove key] dictionary).2 = dictionary ∧
        (changeAll [.put key value, .remove key] dictionary).2.encode = dictionary.encode := by
  intro dictionary contents
  have hhistory : ∀ (source : Source) changes,
      source.history [] ++ changes.map Change.write = source.history changes := fun source changes =>
    by rw [Source.history, List.map_nil, List.append_nil, Source.history]
  have hfollows : ∀ (source : Source) changes,
      Follows (changeAll changes source.dictionary).2 (source.history changes) :=
    fun source changes => hhistory source changes ▸ source.follows.run changes
  have hget : ∀ key, dictionary.get? key = contents key := hfollows source changes
  have hcontains : ∀ key, dictionary.contains key = (contents key).isSome := fun key =>
    congrArg Option.isSome (hget key)
  have hascending := keys_ascending dictionary
  refine ⟨⟨hascending, hascending.imp ?_, ?_⟩, fun key => ⟨hget key, hcontains key, ?_⟩, ?_, ?_,
    ?_, ?_⟩
  · rintro a _ hlt rfl
    exact List.lt_irrefl _ hlt
  · exact (List.length_map _).symm
  · rw [← hcontains key]
    exact SortedMap.mem_keys_iff
  · rintro done change rest rfl
    rw [← hhistory source done]
    exact source.follows.returned done change rest
  · intro other others hsame same
    have heq : same = dictionary := dictionary_ext fun key => by
      rw [hget key, ← hsame key]
      exact hfollows other others key
    rw [heq]
    exact ⟨rfl, beq_self dictionary, rfl⟩
  · intro a b hne
    have hcomm : (changeAll [a, b] dictionary).2 = (changeAll [b, a] dictionary).2 :=
      perform_comm hne dictionary
    exact ⟨hcomm, congrArg _ hcomm⟩
  · intro key value hnone
    have hundone : (changeAll [.put key value, .remove key] dictionary).2 = dictionary :=
      perform_undone ((hget key).trans hnone) value
    exact ⟨hundone, congrArg _ hundone⟩

/-- A text with two keys, the first of them twice.  In UTF-16 their order is the other one. -/
def unsortedText : String := "\x7b\"𐀀\":1,\"\uFFFD\":2,\"\\ud800\\udc00\":null\x7d"

/-- Changes that write over both keys. -/
def overwriting : List Change :=
  [.put "𐀀" (.bool true), .remove "\uFFFD", .put "\uFFFD" (.str "é"), .put "𐀀" .null]

/-- What is left of them. -/
def leftover : List Change := [.put "𐀀" .null, .put "\uFFFD" (.str "é")]

theorem contents_of_history_unsortedText :
    (∀ key, lastWrite? (Source.new.history leftover) key
      = lastWrite? ((Source.text unsortedText).history overwriting) key) ∧
    (changeAll leftover .empty).2.encode = (changeAll overwriting (.ofText unsortedText)).2.encode ∧
    (changeAll leftover .empty).2.encode = "\x7b\"\uFFFD\":\"é\",\"𐀀\":null\x7d" := by
  have hkeys : (writtenMembers? unsortedText).map (List.map Prod.fst)
      = some ["𐀀", "\uFFFD", "𐀀"] := by decide +kernel
  obtain ⟨members, hmembers, hkeys⟩ := Option.map_eq_some_iff.mp hkeys
  have hstart : (Source.text unsortedText).members = members := by
    rw [Source.members, hmembers, Option.getD_some]
  have hold : ∀ key, key ≠ "𐀀" → key ≠ "\uFFFD" → lastMember? key members = none := by
    intro key hfirst hsecond
    refine List.lookup_eq_none_iff.mpr fun m hm => bne_iff_ne.mpr ?_
    rintro rfl
    have hkey : m.1 ∈ members.map Prod.fst := List.mem_map_of_mem (List.mem_reverse.mp hm)
    simp [hkeys, hfirst, hsecond] at hkey
  have hleft : ∀ key, lastWrite? (Source.new.history leftover) key
      = if key = "\uFFFD" then some (.str "é") else if key = "𐀀" then some .null else none := by
    intro key
    rw [show leftover = ([] ++ [.put "𐀀" .null]) ++ [.put "\uFFFD" (.str "é")] from rfl,
      Source.lastWrite?_history_concat, Source.lastWrite?_history_concat,
      Source.lastWrite?_history_nil]
    rfl
  have hright : ∀ key, lastWrite? ((Source.text unsortedText).history overwriting) key
      = if key = "𐀀" then some .null else if key = "\uFFFD" then some (.str "é")
        else if key = "\uFFFD" then none else if key = "𐀀" then some (.bool true)
        else lastMember? key members := by
    intro key
    rw [show overwriting = ((([] ++ [.put "𐀀" (.bool true)]) ++ [.remove "\uFFFD"])
        ++ [.put "\uFFFD" (.str "é")]) ++ [.put "𐀀" .null] from rfl,
      Source.lastWrite?_history_concat, Source.lastWrite?_history_concat,
      Source.lastWrite?_history_concat, Source.lastWrite?_history_concat,
      Source.lastWrite?_history_nil, hstart]
    rfl
  have hsame : ∀ key, lastWrite? (Source.new.history leftover) key
      = lastWrite? ((Source.text unsortedText).history overwriting) key := by
    intro key
    rw [hleft, hright]
    split_ifs with hsecond hfirst hfirst
    · exact absurd (hsecond.symm.trans hfirst) (by decide)
    · rfl
    · rfl
    · exact (hold key hfirst hsecond).symm
  exact ⟨hsame, ((contents_of_history (.text unsortedText) overwriting).2.2.2.1 .new leftover
    hsame).2.2, by decide +kernel⟩

end Collection

end ObjectMemory
