import ObjectMemory.Proofs.Message.Calls
import ObjectMemory.Proofs.Message.Contents

/-!
# Contents as text and inline

The contents of a collection may be a text, or the array or object itself.  A behavior of
collections cannot tell: of an instance it sees the sequence and the dictionary that it holds
(`Behavior.SeesContents`), and a text and what it spells are one sequence and one dictionary, also
where one of these is empty because the other is not.  So two instances that differ in the form of
their contents go the same way.  They differ until a message writes, which leaves one text in both,
and from there on they are one instance.

Nothing is assumed about the numbers and the depth of the contents, since it is the text that
decides what they are.  But a text that spells a text is left out: inline, it would be decoded once
more.

* `keeping` — an instance with contents, in whatever form;
* `sequenceOf_keeping`, `dictionaryOf_keeping`, `withItems_keeping` — what does not depend on it;
* `Registry.Collects`, `dispatch_collects` — a message to a collection;
* `Registry.Writes`, `Registry.Wrote` — one that writes, and messages of which one does;
* `Registry.GoAlike`, `goAlike_keeping` — two instances that go the same way;
* **`text_as_inline`** — the two forms do.
-/

namespace ObjectMemory.Message

open Json Builtin Collection

/-! ## Contents in two forms -/

/-- An instance with these contents, as they are. -/
def keeping (object : Instance) (contents : Value) : Instance :=
  { object with data := object.data.insert itemsKey contents }

lemma items_keeping (object : Instance) (contents : Value) :
    items (keeping object contents) = some contents := SortedMap.get?_insert_self _ _ _

/-- Contents that are written replace the others, of whatever form they were. -/
lemma withItems_keeping (object : Instance) (contents : Value) (text : String) :
    withItems (keeping object contents) text = withItems object text := by
  rw [withItems_eq, withItems_eq, keeping, SortedMap.insert_insert]

variable {text : String} {value : Value}

lemma sequenceOf_keeping (object : Instance) (decodes : decode text = .ok value)
    (notText : ∀ spelled, value ≠ .str spelled) :
    sequenceOf (keeping object (.str text)) = sequenceOf (keeping object value) := by
  rw [sequenceOf, sequenceOf, items_keeping, items_keeping, Sequence.ofVariable, Sequence.ofText,
    decodes]
  cases value with
  | str spelled => exact absurd rfl (notText spelled)
  | _ => rfl

lemma dictionaryOf_keeping (object : Instance) (decodes : decode text = .ok value)
    (notText : ∀ spelled, value ≠ .str spelled) :
    dictionaryOf (keeping object (.str text)) = dictionaryOf (keeping object value) := by
  rw [dictionaryOf, dictionaryOf, items_keeping, items_keeping, Dictionary.ofVariable,
    Dictionary.ofText, decodes]
  cases value with
  | str spelled => exact absurd rfl (notText spelled)
  | _ => rfl

/-! ## Messages to a collection -/

namespace Registry

variable {registry : Registry} {className selector : String} {calls : List Call}
  {object : Instance}

/-- What a class does on a message is a behavior of arrays or of dictionaries. -/
def Collects (registry : Registry) (className selector : String) : Prop :=
  ∃ behavior, (selector, behavior) ∈ arrayBehaviors ++ dictionaryBehaviors ∧
    registry.lookup className selector = some behavior

lemma Serves.collects {behaviors : List (String × Behavior)}
    (serves : registry.Serves className behaviors)
    (hsub : behaviors ⊆ arrayBehaviors ++ dictionaryBehaviors)
    (h : selector ∈ behaviors.map Prod.fst) : registry.Collects className selector := by
  obtain ⟨b, hb, rfl⟩ := List.mem_map.mp h
  exact ⟨b.2, hsub hb, serves b hb⟩

/-- **A message to a collection** does the same to all instances of one class and id that hold the
same, sequence and dictionary. -/
lemma dispatch_collects (collects : registry.Collects className selector)
    (arguments : List Value) (id : String) (sequence : Sequence) (dictionary : Dictionary) :
    ∃ outcome text, ∀ object, object.className = className → object.id = id →
      sequenceOf object = sequence → dictionaryOf object = dictionary →
        registry.dispatch selector arguments object = (outcome, withContents object text) := by
  obtain ⟨behavior, hmem, hfound⟩ := collects
  have hsees : behavior.SeesContents := by
    rcases List.mem_append.mp hmem with h | h
    · exact arrayBehaviors_seeContents _ h
    · exact dictionaryBehaviors_seeContents _ h
  obtain ⟨answer, text, hanswer⟩ := hsees ⟨className, selector, id⟩ arguments sequence dictionary
  refine ⟨.ofAnswer answer, text, ?_⟩
  rintro object rfl rfl hsequence hdictionary
  rw [dispatch_of_some hfound, hanswer object hsequence hdictionary]
  rfl

/-- A message writes the contents of an instance: it would leave a mark if there were none.  This
shows also where the text that it writes was there before. -/
def Writes (registry : Registry) (call : Call) (object : Instance) : Prop :=
  (registry.dispatch call.selector call.arguments object.unmodified).2.modified = true

instance (registry : Registry) (call : Call) (object : Instance) :
    Decidable (registry.Writes call object) := inferInstanceAs (Decidable (_ = true))

/-- One of these messages in a row writes. -/
def Wrote (registry : Registry) : List Call → Instance → Prop
  | [], _ => False
  | call :: rest, object =>
    registry.Writes call object ∨
      registry.Wrote rest (registry.dispatch call.selector call.arguments object).2

/-- Two instances go the same way on messages in a row. -/
structure GoAlike (registry : Registry) (calls : List Call) (object other : Instance) : Prop where
  outcomes : (registry.sendAll calls object).1 = (registry.sendAll calls other).1
  modified : (registry.sendAll calls object).2.modified = (registry.sendAll calls other).2.modified
  wrote_iff : registry.Wrote calls object ↔ registry.Wrote calls other
  /-- Once a message wrote, there is nothing left to tell them apart. -/
  merged : registry.Wrote calls object →
    (registry.sendAll calls object).2 = (registry.sendAll calls other).2
  /-- Until then each is what it was. -/
  untouched : ¬ registry.Wrote calls object →
    (registry.sendAll calls object).2 = object ∧ (registry.sendAll calls other).2 = other

/-- A message does the same to both forms, and writes to both or to neither. -/
lemma dispatch_keeping (collects : registry.Collects object.className selector)
    (decodes : decode text = .ok value) (notText : ∀ spelled, value ≠ .str spelled)
    (arguments : List Value) :
    ∃ outcome written, ∀ contents, contents = .str text ∨ contents = value →
      registry.dispatch selector arguments (keeping object contents)
        = (outcome, withContents (keeping object contents) written) ∧
      (registry.Writes ⟨selector, arguments⟩ (keeping object contents) ↔
        written.isSome = true) := by
  obtain ⟨outcome, written, hall⟩ := dispatch_collects collects arguments object.id
    (sequenceOf (keeping object value)) (dictionaryOf (keeping object value))
  have hsame : ∀ contents, contents = .str text ∨ contents = value →
      sequenceOf (keeping object contents) = sequenceOf (keeping object value) ∧
        dictionaryOf (keeping object contents) = dictionaryOf (keeping object value) := by
    rintro _ (rfl | rfl)
    · exact ⟨sequenceOf_keeping object decodes notText, dictionaryOf_keeping object decodes notText⟩
    · exact ⟨rfl, rfl⟩
  refine ⟨outcome, written, fun contents hcontents => ?_⟩
  obtain ⟨hsequence, hdictionary⟩ := hsame contents hcontents
  refine ⟨hall _ rfl rfl hsequence hdictionary, ?_⟩
  have hunmarked := hall (keeping object contents).unmodified rfl rfl hsequence hdictionary
  rw [Writes, hunmarked]
  cases written with
  | none => simp [withContents, Instance.unmodified]
  | some written => simp [withContents, withItems_eq]

lemma goAlike_keeping (decodes : decode text = .ok value)
    (notText : ∀ spelled, value ≠ .str spelled)
    (collects : ∀ call ∈ calls, registry.Collects object.className call.selector) :
    registry.GoAlike calls (keeping object (.str text)) (keeping object value) := by
  induction calls with
  | nil => exact ⟨rfl, rfl, Iff.rfl, fun h => h.elim, fun _ => ⟨rfl, rfl⟩⟩
  | cons call rest ih =>
      obtain ⟨outcome, written, hall⟩ :=
        dispatch_keeping (collects call List.mem_cons_self) decodes notText call.arguments
      obtain ⟨hspelled, hwritesSpelled⟩ := hall (.str text) (.inl rfl)
      obtain ⟨hinline, hwritesInline⟩ := hall value (.inr rfl)
      cases written with
      | none =>
          have hrest := ih fun call hcall => collects call (List.mem_cons_of_mem _ hcall)
          simp only [Option.isSome_none, Bool.false_eq_true, iff_false] at hwritesSpelled
          simp only [Option.isSome_none, Bool.false_eq_true, iff_false] at hwritesInline
          constructor
          all_goals simp only [sendAll, Wrote, hspelled, hinline, withContents, hwritesSpelled,
            hwritesInline, false_or]
          · rw [hrest.outcomes]
          · exact hrest.modified
          · exact hrest.wrote_iff
          · exact hrest.merged
          · exact hrest.untouched
      | some contents =>
          -- both instances are now the one in which the contents are written
          have hmerged : withContents (keeping object (.str text)) (some contents)
              = withContents (keeping object value) (some contents) :=
            (withItems_keeping object _ contents).trans (withItems_keeping object _ contents).symm
          constructor
          all_goals simp [sendAll, Wrote, hspelled, hinline, hmerged, hwritesSpelled, hwritesInline]

/-- **Contents go by what they are, not by their form.**  Whatever text spells a value that is no
text, such as an array or an object, and whatever instance holds either of them: to messages that
its class has a behavior of arrays or dictionaries for, the two answer alike and fail alike, one
after the other, and are marked alike.  Up to the first message that writes, each is what it was;
from there on, they are one. -/
theorem text_as_inline (decodes : decode text = .ok value)
    (notText : ∀ spelled, value ≠ .str spelled)
    (collects : ∀ call ∈ calls, registry.Collects object.className call.selector) :
    ∀ sent, sent <+: calls →
      registry.GoAlike sent (keeping object (.str text)) (keeping object value) := by
  intro sent hsent
  exact goAlike_keeping decodes notText fun call hcall => collects call (hsent.subset hcall)

/-- An array without contents. -/
def basket : Instance := .new "array_7" "Array" .epoch .empty

/-- A text of an array, with blanks, an escape and a repeated key. -/
def basketText : String := " [null, [\"\\u0061\", \x7b\"b\": [], \"b\": true\x7d ] ]"

def basketValue : Value := .arr [.null, .arr [.str "a", .obj [("b", .bool true)]]]

/-- Messages to an array: some that only read, some that fail, and then one that writes. -/
def basketCalls : List Call :=
  [⟨"at:", [.str "-1"]⟩, ⟨"at:put:", [.null]⟩, ⟨"setItems:", [.bool true]⟩, ⟨"getItems", []⟩,
    ⟨"at:put:", [.str "9", .null]⟩, ⟨"pop", []⟩, ⟨"size", []⟩]

theorem text_as_inline_basket :
    decode basketText = .ok basketValue ∧ (∀ spelled, basketValue ≠ .str spelled) ∧
      (∀ call ∈ basketCalls, builtin.Collects basket.className call.selector) ∧
      builtin.GoAlike (basketCalls.take 4) (keeping basket (.str basketText))
        (keeping basket basketValue) ∧
      (builtin.sendAll basketCalls (keeping basket (.str basketText))).2
        = (builtin.sendAll basketCalls (keeping basket basketValue)).2 := by
  have hdecodes : decode basketText = .ok basketValue := by cbv
  have hnotText : ∀ spelled, basketValue ≠ .str spelled := fun _ h => by cases h
  have hselectors : ∀ call ∈ basketCalls, call.selector ∈ arrayBehaviors.map Prod.fst := by
    decide +kernel
  have hcollects : ∀ call ∈ basketCalls, builtin.Collects basket.className call.selector :=
    fun call hcall => builtin_serves_array.collects (List.subset_append_left _ _)
      (hselectors call hcall)
  have hwrote : builtin.Wrote basketCalls (keeping basket (.str basketText)) :=
    .inr (.inr (.inr (.inr (.inl (by decide +kernel)))))
  have halike := text_as_inline hdecodes hnotText hcollects
  exact ⟨hdecodes, hnotText, hcollects, halike _ (List.take_prefix 4 _),
    (halike _ List.prefix_rfl).merged hwrote⟩

end Registry

end ObjectMemory.Message
