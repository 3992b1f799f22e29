import ObjectMemory.Proofs.Message.Calls
import ObjectMemory.Proofs.Message.Contents

/-!
# Arrays are lists

What an array answers is what a list answers that is kept as it is: the texts that the array is
decoded from and encoded to between two messages do not show.  The list starts as what the array
holds, however it holds it.  Numbers have to be integers and brackets no deeper than a document may
have them, because this is what decoding undoes encoding for.

Contents that are given to an array are the one thing that need not be as deep as that: what cannot
be decoded is an empty list.

* `ArrayCall`, `ArrayCall.answer` — the messages, and what a list answers;
* `place?`, `position?_eq_place?` — places in a list;
* `ArrayCall.behavior_eq` — one message to an array;
* `IsList`, `IsList.answers` — an array that holds a list, and one message to it;
* **`array_answers_as_list`** — messages in a row.
-/

namespace ObjectMemory.Message

open Json Builtin Collection

/-! ## Lists -/

/-- The place that an index has in a list: from the front, or from the end if it is negative. -/
def place? (length : ℕ) (index : ℤ) : Option ℕ :=
  if 0 ≤ index ∧ index < length then some index.toNat
  else if -(length : ℤ) ≤ index ∧ index < 0 then some (length + index).toNat
  else none

/-- What arrays understand. -/
inductive ArrayCall where
  | size
  | isEmpty
  | first
  | last
  | element (index : Value)
  | replace (index value : Value)
  | push (value : Value)
  | pop
  | getItems
  | setItems (given : Value)

/-- The list that a text spells, empty if it spells something else or nothing. -/
def listOf (text : String) : List Value :=
  match decode text with
  | .ok (.arr items) => items
  | _ => []

namespace ArrayCall

def selector : ArrayCall → String
  | size => "size"
  | isEmpty => "isEmpty"
  | first => "first"
  | last => "last"
  | element _ => "at:"
  | replace _ _ => "at:put:"
  | push _ => "push:"
  | pop => "pop"
  | getItems => "getItems"
  | setItems _ => "setItems:"

def arguments : ArrayCall → List Value
  | element index => [index]
  | replace index value => [index, value]
  | push value => [value]
  | setItems given => [given]
  | _ => []

/-- The message of a call, with arguments that nobody asks for behind its own. -/
def message (call : ArrayCall × List Value) : Call :=
  ⟨call.1.selector, call.1.arguments ++ call.2⟩

/-- The place in a list that an argument addresses. -/
def slot? (list : List Value) (index : Value) : Option ℕ :=
  index.index?.bind fun i => place? list.length i.toInt

/-- What a list answers, and the list afterwards. -/
def answer (list : List Value) : ArrayCall → String × List Value
  | size => (toString list.length, list)
  | isEmpty => (boolean list.isEmpty, list)
  | first => (render? list.head?, list)
  | last => (render? list.getLast?, list)
  | element index => (render? ((slot? list index).bind (list[·]?)), list)
  | replace index value =>
    (value.render, match slot? list index with
      | some place => list.set place value
      | none => list)
  | push value => (value.render, list ++ [value])
  | pop => (render? list.getLast?, list.dropLast)
  | getItems => ((Value.arr list).encode, list)
  | setItems given => (given.render, listOf given.render)

/-- What a list answers to a call with further arguments. -/
def step (list : List Value) (call : ArrayCall × List Value) : String × List Value :=
  call.1.answer list

/-- The arguments are of the kind that is expected, and what is written can be read back. -/
def Fits : ArrayCall → Prop
  | element index => index.index?.isSome
  | replace index value => index.index?.isSome ∧ value.Storable
  | push value => value.Storable
  | setItems given => GivesContents given
  | _ => True

/-- The arguments are of the kind that is expected. -/
def Accepts : ArrayCall → Prop
  | element index => index.index?.isSome
  | replace index _ => index.index?.isSome
  | setItems given => GivesContents given
  | _ => True

lemma Fits.accepts {call : ArrayCall} (h : call.Fits) : call.Accepts := by
  cases call with
  | replace index value => exact h.1
  | element index => exact h
  | setItems given => exact h
  | _ => trivial

/-- The contents that a call writes into an array that holds a list, if it writes any. -/
def written? (list : List Value) (call : ArrayCall) : Option String :=
  match call with
  | replace _ _ | push _ | pop => some (Value.arr (call.answer list).2).encode
  | setItems given => some given.render
  | _ => none

end ArrayCall

lemma position?_eq_place? (size : ℕ) (index : Int64) :
    Sequence.position? size index = place? size index.toInt := by
  rw [Sequence.position?, place?]
  generalize index.toInt = i
  by_cases hfront : 0 ≤ i
  · rw [if_neg (show ¬ i < 0 by omega), if_neg (show ¬ (-(size : ℤ) ≤ i ∧ i < 0) by omega)]
  · rw [if_pos (show i < 0 by omega), if_neg (show ¬ (0 ≤ i ∧ i < size) by omega), Int.add_comm]
    have hsame : (0 ≤ size + i ∧ size + i < size) ↔ (-(size : ℤ) ≤ i ∧ i < 0) := by omega
    simp only [hsame]

/-! ## Arrays -/

lemma sequenceOf_withItems (object : Instance) (text : String) :
    sequenceOf (withItems object text) = ⟨listOf text⟩ := by
  rw [sequenceOf, items_withItems, Sequence.ofVariable, Sequence.ofText, listOf]
  cases decode text with
  | error error => rfl
  | ok value => cases value <;> rfl

/-- The items of an array that can be decoded again are storable, and the other way round. -/
lemma arr_storable_iff {list : List Value} :
    (∀ x ∈ list, x.Storable) ↔ (Value.arr list).IntegersOnly ∧ (Value.arr list).Canonical ∧
      (Value.arr list).depth ≤ depthLimit := by
  rw [Value.IntegersOnly, Value.Canonical, Value.depth, itemsIntegersOnly, itemsCanonical,
    Nat.succ_le_iff, Nat.lt_iff_le_pred (show 0 < depthLimit by decide), depthItems_le]
  refine ⟨fun h => ⟨fun x hx => (h x hx).integers, fun x hx => (h x hx).canonical,
    fun x hx => Nat.le_pred_of_lt (h x hx).shallow⟩, ?_⟩
  rintro ⟨integers, canonical, shallow⟩ x hx
  exact ⟨integers x hx, canonical x hx, Nat.lt_of_le_pred (by decide) (shallow x hx)⟩

/-- An instance of a class that holds a list, which can be written and read again. -/
structure IsList (className : String) (object : Instance) (list : List Value) : Prop where
  className : object.className = className
  holds : sequenceOf object = ⟨list⟩
  storable : ∀ x ∈ list, x.Storable

variable {className : String} {object : Instance} {list : List Value}

lemma listOf_encode (h : ∀ x ∈ list, x.Storable) : listOf (Value.arr list).encode = list := by
  obtain ⟨integers, canonical, shallow⟩ := arr_storable_iff.mp h
  rw [listOf, decode_encode integers canonical shallow]

/-- What is written as a text is the list that the text spells. -/
lemma IsList.given (h : IsList className object list) {text : String}
    (storable : ∀ x ∈ listOf text, x.Storable) :
    IsList className (withItems object text) (listOf text) :=
  ⟨(className_withItems object text).trans h.className, sequenceOf_withItems object text, storable⟩

/-- What is written as a list is the list. -/
lemma IsList.written (h : IsList className object list) {after : List Value}
    (storable : ∀ x ∈ after, x.Storable) :
    IsList className (withItems object (Value.arr after).encode) after := by
  have hsame := listOf_encode storable
  have hgiven := h.given (hsame.symm ▸ storable)
  rwa [hsame] at hgiven

lemma storable_given {given : Value} (h : GivesContents given) :
    ∀ x ∈ listOf given.render, x.Storable := by
  rw [listOf]
  split
  · next items hdecode => exact arr_storable_iff.mpr (decode_contents h hdecode)
  · exact fun x hx => by cases hx

/-! ## One message -/

/-- The behavior of arrays for a call. -/
def ArrayCall.behavior : ArrayCall → Behavior
  | size => answeringSequence fun sequence => toString sequence.size
  | isEmpty => answeringSequence fun sequence => boolean sequence.isEmpty
  | first => answeringSequence fun sequence => render? sequence.first?
  | last => answeringSequence fun sequence => render? sequence.last?
  | element _ => arrayAt
  | replace _ _ => arrayAtPut
  | push _ => arrayPush
  | pop => arrayPop
  | getItems => answeringSequence Sequence.encode
  | setItems _ => Builtin.setItems

lemma ArrayCall.behavior_mem (call : ArrayCall) :
    (call.selector, call.behavior) ∈ arrayBehaviors := by
  cases call <;> simp [arrayBehaviors, selector, behavior]

lemma indexArgument_cons {index : Value} {i : Int64} (h : index.index? = some i)
    (context : Context) (rest : List Value) : indexArgument context (index :: rest) = .ok i := by
  simp [indexArgument, h, bind, Except.bind, pure, Except.pure]

lemma set?_getD (list : List Value) (index : Int64) (value : Value) :
    ((Sequence.mk list).set? index value).getD ⟨list⟩
      = ⟨match place? list.length index.toInt with
        | some place => list.set place value
        | none => list⟩ := by
  rw [Sequence.set?, show (Sequence.mk list).size = list.length from rfl, position?_eq_place?]
  cases place? list.length index.toInt <;> rfl

/-- The behavior of an array answers as the list does that the array holds, and writes what becomes
of the list. -/
lemma ArrayCall.behavior_eq (holds : sequenceOf object = ⟨list⟩) (context : Context)
    (call : ArrayCall) (extra : List Value) (accepts : call.Accepts) :
    call.behavior context (call.arguments ++ extra) object
      = (.ok (call.answer list).1, withContents object (call.written? list)) := by
  cases call with
  | size | isEmpty | first | last | getItems =>
      simp only [behavior, answeringSequence, Behavior.reading, holds]
      rfl
  | element index =>
      obtain ⟨i, hi⟩ := Option.isSome_iff_exists.mp accepts
      have hslot : slot? list index = Sequence.position? list.length i := by
        rw [slot?, hi, position?_eq_place?]
        rfl
      simp only [behavior, arrayAt, Behavior.reading, arguments, List.cons_append,
        indexArgument_cons hi, holds, answer, hslot]
      rfl
  | replace index value =>
      obtain ⟨i, hi⟩ := Option.isSome_iff_exists.mp accepts
      have hslot : slot? list index = place? list.length i.toInt := by
        rw [slot?, hi]
        rfl
      -- outside of the list, the list is written as it was
      simp only [behavior, arrayAtPut, Behavior.atomic, arguments, List.cons_append,
        Context.argument_second, indexArgument_cons hi, holds, set?_getD, written?, answer, hslot,
        bind, Except.bind]
      rfl
  | push value =>
      simp only [behavior, arrayPush, Behavior.atomic, arguments, List.cons_append,
        Context.argument_first, holds, answer, bind, Except.bind]
      rfl
  | pop =>
      simp only [behavior, arrayPop, Behavior.atomic, holds]
      rfl
  | setItems given => exact setItems_of_gives accepts context extra object

/-- **The behavior of an array that holds a list answers as the list does**, and the array then
holds what the list has become. -/
lemma IsList.answers (h : IsList className object list) (context : Context) (call : ArrayCall)
    (extra : List Value) (fits : call.Fits) :
    ∃ after, call.behavior context (call.arguments ++ extra) object
        = (.ok (call.answer list).1, after) ∧
      IsList className after (call.answer list).2 := by
  refine ⟨_, call.behavior_eq h.holds context extra fits.accepts, ?_⟩
  cases call with
  | size | isEmpty | first | last | getItems | element index => exact h
  | replace index value =>
      refine h.written fun x hx => ?_
      rw [ArrayCall.answer] at hx
      cases hslot : ArrayCall.slot? list index with
      | none =>
          rw [hslot] at hx
          exact h.storable x hx
      | some place =>
          rw [hslot] at hx
          rcases List.mem_or_eq_of_mem_set hx with hold | rfl
          · exact h.storable x hold
          · exact fits.2
  | push value =>
      refine h.written fun x hx => ?_
      rcases List.mem_append.mp hx with hold | hnew
      · exact h.storable x hold
      · exact List.mem_singleton.mp hnew ▸ fits
  | pop => exact h.written fun x hx => h.storable x (List.mem_of_mem_dropLast hx)
  | setItems given => exact h.given (storable_given fits)

/-! ## Messages in a row -/

lemma isList_of_canonical (canonical : ∀ value, items object = some value → value.Canonical)
    (integers : (Value.arr (sequenceOf object).items).IntegersOnly)
    (shallow : (Value.arr (sequenceOf object).items).depth ≤ depthLimit) :
    IsList object.className object (sequenceOf object).items := by
  refine ⟨rfl, rfl, arr_storable_iff.mpr ⟨integers, ?_, shallow⟩⟩
  rw [sequenceOf]
  cases hitems : items object with
  | none => exact trivial
  | some value =>
      have hvalue := canonical value hitems
      cases value with
      | arr list => exact hvalue
      | str text =>
          rw [Sequence.ofVariable, Sequence.ofText]
          split
          · next value hdecode =>
              cases value with
              | arr list => exact decode_canonical hdecode
              | _ => exact trivial
          · exact trivial
      | _ => exact trivial

/-- **Arrays answer as lists.**  Whatever an instance holds that has the behaviors of arrays, as a
text, inline or not at all: of integers for numbers and not too deep, it answers all messages in a
row as the list that it holds, and holds in the end what the list has become. -/
theorem array_answers_as_list {registry : Registry} {object : Instance}
    (serves : registry.Serves object.className arrayBehaviors)
    (canonical : ∀ value, items object = some value → value.Canonical)
    (integers : (Value.arr (sequenceOf object).items).IntegersOnly)
    (shallow : (Value.arr (sequenceOf object).items).depth ≤ depthLimit)
    (calls : List (ArrayCall × List Value)) (fits : ∀ call ∈ calls, call.1.Fits) :
    ∃ after,
      registry.sendAll (calls.map ArrayCall.message) object
        = ((answerAll ArrayCall.step (sequenceOf object).items calls).1.map .handled, after) ∧
      sequenceOf after = ⟨(answerAll ArrayCall.step (sequenceOf object).items calls).2⟩ := by
  have hstart := isList_of_canonical canonical integers shallow
  have hstep : ∀ context current list, ∀ call ∈ calls, IsList object.className current list →
      ∃ behavior after, ((ArrayCall.message call).selector, behavior) ∈ arrayBehaviors ∧
        behavior context (ArrayCall.message call).arguments current
          = (.ok (ArrayCall.step list call).1, after) ∧
        IsList object.className after (ArrayCall.step list call).2 := by
    intro context current list call hcall hlist
    obtain ⟨after, hanswer, hafter⟩ := hlist.answers context call.1 call.2 (fits call hcall)
    exact ⟨call.1.behavior, after, call.1.behavior_mem, hanswer, hafter⟩
  obtain ⟨after, hsent, hafter⟩ :=
    serves.simulates (fun _ _ hlist => hlist.className) hstep hstart
  exact ⟨after, hsent, hafter.holds⟩

/-- A stack that holds an inline array. -/
def stack : Instance := .new "stack_1" "Stack" .epoch (.ofList [("items", .arr [.bool true])])

/-- Messages to a stack: at its ends, past them, and with contents that are no list. -/
def stackCalls : List (ArrayCall × List Value) :=
  [(.push (.str "a"), []), (.element (.str " -2 "), [.null]), (.replace (.str "7") .null, []),
    (.replace (.str "-1") (.arr [.null]), []), (.pop, []), (.getItems, []),
    (.setItems (.obj [("a", .null)]), []), (.pop, []), (.setItems (.str " [null, [ ]] "), []),
    (.last, []), (.size, [])]

theorem array_answers_as_list_stack :
    (Registry.builtin.registerArray "Stack").Serves stack.className arrayBehaviors ∧
      (∀ value, items stack = some value → value.Canonical) ∧
      (Value.arr (sequenceOf stack).items).IntegersOnly ∧
      (Value.arr (sequenceOf stack).items).depth ≤ depthLimit ∧
      (∀ call ∈ stackCalls, call.1.Fits) ∧
      ∃ after,
        (Registry.builtin.registerArray "Stack").sendAll (stackCalls.map ArrayCall.message) stack
          = (["a", "true", "", "[null]", "[null]", "[true]", "\x7b\"a\":null\x7d", "",
              " [null, [ ]] ", "[]", "2"].map .handled, after) ∧
        sequenceOf after
          = ⟨(answerAll ArrayCall.step (sequenceOf stack).items stackCalls).2⟩ := by
  have hserves : (Registry.builtin.registerArray "Stack").Serves stack.className arrayBehaviors :=
    Registry.serves_registerAll (by decide)
  have hitems : items stack = some (.arr [.bool true]) := rfl
  have hcanonical : ∀ value, items stack = some value → value.Canonical := by
    rw [hitems]
    rintro _ ⟨⟩
    exact ⟨trivial, trivial⟩
  have hheld : sequenceOf stack = ⟨[.bool true]⟩ := by
    rw [sequenceOf, hitems]
    rfl
  have hintegers : (Value.arr (sequenceOf stack).items).IntegersOnly := by
    rw [hheld]
    exact ⟨trivial, trivial⟩
  have hshallow : (Value.arr (sequenceOf stack).items).depth ≤ depthLimit := by
    rw [hheld]
    decide
  have hgiven : GivesContents (.str " [null, [ ]] ") := by
    rw [GivesContents]
    decide +kernel
  have hfits : ∀ call ∈ stackCalls, call.1.Fits := by
    simp only [stackCalls, List.forall_mem_cons]
    have hback : (Value.str " -2 ").index?.isSome = true := by decide
    have hpast : (Value.str "7").index?.isSome = true := by decide
    have hend : (Value.str "-1").index?.isSome = true := by decide
    refine ⟨storable_str "a", hback, ⟨hpast, trivial, trivial, by decide⟩,
      ⟨hend, ⟨trivial, trivial⟩, ⟨trivial, trivial⟩, by decide⟩, trivial, trivial, ?_, trivial,
      hgiven, trivial, trivial, fun call hcall => by cases hcall⟩
    exact ⟨⟨trivial, trivial⟩, List.pairwise_singleton _ _, trivial, trivial⟩
  have hanswers : (answerAll ArrayCall.step (sequenceOf stack).items stackCalls).1
      = ["a", "true", "", "[null]", "[null]", "[true]", "\x7b\"a\":null\x7d", "",
        " [null, [ ]] ", "[]", "2"] := by
    decide +kernel
  obtain ⟨after, hsent, hafter⟩ :=
    array_answers_as_list hserves hcanonical hintegers hshallow stackCalls hfits
  rw [hanswers] at hsent
  exact ⟨hserves, hcanonical, hintegers, hshallow, hfits, after, hsent, hafter⟩

end ObjectMemory.Message
