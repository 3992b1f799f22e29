import ObjectMemory.Proofs.Json.Indices
import ObjectMemory.Proofs.Message.Arguments

/-!
# Numbers and texts as indices of arrays

Who sends an index to an array may send a number or its decimal text, with blanks around it or not.
An array sees nothing of the argument but the index that it is (`dispatch_of_index?_eq`), so inside
of the signed 64-bit range the two messages are one.  Past that range a number is still an index,
which addresses nothing, and its text is refused.

* `dispatch_arrayCall` — what becomes of a message whose arguments are accepted;
* `dispatch_of_index?_eq` — two messages with one index; `dispatch_refused` — one without an index;
* **`number_sent_as_text`** — both messages of an array that take an index.
-/

namespace ObjectMemory.Message

open Json Builtin Collection

variable {registry : Registry} {object : Instance}

/-- A message to an array whose arguments are accepted is answered as its list answers it. -/
lemma dispatch_arrayCall (serves : registry.Serves object.className arrayBehaviors)
    (call : ArrayCall) (extra : List Value) (accepts : call.Accepts) :
    registry.dispatch call.selector (call.arguments ++ extra) object
      = (.handled (call.answer (sequenceOf object).items).1,
        withContents object (call.written? (sequenceOf object).items)) :=
  serves.dispatch call.behavior_mem (call.behavior_eq rfl _ extra accepts)

/-- Two values that are one index are one argument of a message to an array. -/
lemma dispatch_of_index?_eq (serves : registry.Serves object.className arrayBehaviors)
    {a b : Value} {i : Int64} (ha : a.index? = some i) (hb : b.index? = some i) :
    (∀ rest, registry.dispatch "at:" (a :: rest) object
      = registry.dispatch "at:" (b :: rest) object) ∧
    ∀ value rest, registry.dispatch "at:put:" (a :: value :: rest) object
      = registry.dispatch "at:put:" (b :: value :: rest) object := by
  have hslot : ∀ list, ArrayCall.slot? list a = ArrayCall.slot? list b := fun list => by
    rw [ArrayCall.slot?, ArrayCall.slot?, ha, hb]
  have hasome : a.index?.isSome := Option.isSome_iff_exists.mpr ⟨i, ha⟩
  have hbsome : b.index?.isSome := Option.isSome_iff_exists.mpr ⟨i, hb⟩
  constructor
  · intro rest
    have hleft := dispatch_arrayCall serves (.element a) rest hasome
    have hright := dispatch_arrayCall serves (.element b) rest hbsome
    simp only [ArrayCall.answer, hslot] at hleft
    exact hleft.trans hright.symm
  · intro value rest
    have hleft := dispatch_arrayCall serves (.replace a value) rest hasome
    have hright := dispatch_arrayCall serves (.replace b value) rest hbsome
    simp only [ArrayCall.written?, ArrayCall.answer, hslot] at hleft
    exact hleft.trans hright.symm

/-- A message whose first argument is no index is refused, if it is not short of arguments. -/
lemma dispatch_refused (serves : registry.Serves object.className arrayBehaviors)
    {selector : String} (hselector : selector = "at:" ∨ selector = "at:put:") {index : Value}
    (hindex : index.index? = none) {rest : List Value}
    (hcount : argumentsNeeded selector ≤ (index :: rest).length) :
    ∃ message, registry.dispatch selector (index :: rest) object
      = (.failed (.invalidArgument selector message), object) := by
  have hmem : ∃ behavior, (selector, behavior) ∈ arrayBehaviors := by
    rcases hselector with rfl | rfl <;> simp [arrayBehaviors]
  obtain ⟨behavior, hmem⟩ := hmem
  have hunfit : Family.array.Unfit selector (index :: rest) :=
    ⟨index, rfl, .inl ⟨rfl, hselector, hindex⟩⟩
  obtain ⟨message, hmessage⟩ := ((Family.array.governed _ hmem).ends
    ⟨object.className, selector, object.id⟩ (index :: rest) object hcount).of_unfit hunfit
  refine ⟨message, ?_⟩
  rw [Registry.dispatch_of_some (serves _ hmem), hmessage]
  rfl

/-- **An array takes a number and its decimal text for one index** as long as the number is a signed
64-bit number: what becomes of a message, and of the array, does not depend on which of the two was
sent.  A number past that range is an index past every end, and its text is refused. -/
theorem number_sent_as_text (serves : registry.Serves object.className arrayBehaviors) {n : ℤ}
    (inRange : -0x8000000000000000 ≤ n ∧ n < 0x10000000000000000) {before after : List Char}
    (hbefore : ∀ c ∈ before, Text.isBlank c = true) (hafter : ∀ c ∈ after, Text.isBlank c = true) :
    let number := Value.num (.integer n inRange)
    let text := Value.str (.ofList (before ++ ((toString n).toList ++ after)))
    (n < 0x8000000000000000 →
      (number.index? = text.index? ∧ number.index?.map Int64.toInt = some n) ∧
      (∀ rest, registry.dispatch "at:" (number :: rest) object
        = registry.dispatch "at:" (text :: rest) object) ∧
      ∀ value rest, registry.dispatch "at:put:" (number :: value :: rest) object
        = registry.dispatch "at:put:" (text :: value :: rest) object) ∧
    (0x8000000000000000 ≤ n →
      (number.index? = some Int64.maxValue ∧ text.index? = none) ∧
      (∀ rest, (∃ answer, registry.dispatch "at:" (number :: rest) object
          = (.handled answer, object)) ∧
        ∃ message, registry.dispatch "at:" (text :: rest) object
          = (.failed (.invalidArgument "at:" message), object)) ∧
      ∀ value rest, (∃ written, registry.dispatch "at:put:" (number :: value :: rest) object
          = (.handled value.render, withItems object written)) ∧
        ∃ message, registry.dispatch "at:put:" (text :: value :: rest) object
          = (.failed (.invalidArgument "at:put:" message), object)) := by
  intro number text
  obtain ⟨hnumber, htext⟩ := index?_decimal inRange hbefore hafter
  constructor
  · intro hsmall
    rw [if_pos hsmall] at htext
    refine ⟨⟨hnumber.trans htext.symm, ?_⟩, dispatch_of_index?_eq serves hnumber htext⟩
    rw [hnumber, Option.map_some, toInt_clamp]
    exact congrArg some (by omega)
  · intro hlarge
    rw [if_neg (by omega)] at htext
    have hsome : number.index?.isSome := Option.isSome_iff_exists.mpr ⟨_, hnumber⟩
    refine ⟨⟨by rw [hnumber, clamp_of_le hlarge], htext⟩, fun rest => ⟨?_, ?_⟩,
      fun value rest => ⟨?_, ?_⟩⟩
    · exact ⟨_, dispatch_arrayCall serves (.element number) rest hsome⟩
    · exact dispatch_refused serves (.inl rfl) htext (Nat.le_add_left _ _)
    · exact ⟨_, dispatch_arrayCall serves (.replace number value) rest hsome⟩
    · exact dispatch_refused serves (.inr rfl) htext (Nat.le_add_left _ _)

/-- An array of one text. -/
def letterbox : Instance := .new "array_3" "Array" .epoch (.ofList [("items", .arr [.str "a"])])

/-- The least number is sent as a text between a line feed and a wide blank, and the greatest as
one without blanks. -/
theorem number_sent_as_text_letterbox :
    Registry.builtin.Serves letterbox.className arrayBehaviors ∧
    ((Value.num (.integer (-0x8000000000000000) (by decide))).index?
        = (Value.str "\n-9223372036854775808\u3000").index? ∧
      Registry.builtin.dispatch "at:" [.num (.integer (-0x8000000000000000) (by decide))] letterbox
        = Registry.builtin.dispatch "at:" [.str "\n-9223372036854775808\u3000"] letterbox) ∧
    ∃ message, Registry.builtin.dispatch "at:" [.str "18446744073709551615"] letterbox
      = (.failed (.invalidArgument "at:" message), letterbox) := by
  have hserves : Registry.builtin.Serves letterbox.className arrayBehaviors :=
    Registry.builtin_serves_array
  have hfeed : ∀ c ∈ ['\n'], Text.isBlank c = true := by simp [Text.isBlank]
  have hwide : ∀ c ∈ ['\u3000'], Text.isBlank c = true := by simp [Text.isBlank]
  have hnone : ∀ c ∈ ([] : List Char), Text.isBlank c = true := by simp
  obtain ⟨⟨hindex, -⟩, hat, -⟩ :=
    (number_sent_as_text hserves (n := -0x8000000000000000) (by decide) hfeed hwide).1 (by decide)
  obtain ⟨-, hlarge, -⟩ :=
    (number_sent_as_text hserves (n := 0xffffffffffffffff) (by decide) hnone hnone).2 (by decide)
  exact ⟨hserves, ⟨hindex, hat []⟩, (hlarge []).2⟩

/-- The first number past the range is answered, and its text is refused. -/
theorem number_unlike_text_letterbox :
    (Value.num (.integer 0x8000000000000000 (by decide))).index? = some Int64.maxValue ∧
    (Value.str "9223372036854775808").index? = none ∧
    (Registry.builtin.dispatch "at:" [.num (.integer 0x8000000000000000 (by decide))] letterbox).1
      = .handled "" ∧
    (Registry.builtin.dispatch "at:" [.str "9223372036854775808"] letterbox).1
      = .failed (.invalidArgument "at:"
          "expected an integer index, got \"9223372036854775808\"") := by
  refine ⟨by decide, by decide, by decide +kernel, by decide +kernel⟩

end ObjectMemory.Message
