import ObjectMemory.Proofs.Message.FiniteMaps
import ObjectMemory.Proofs.Message.Lists

/-!
# What built-in behaviors ask of their arguments

A built-in behavior counts its arguments, then looks at the first of them, and only then at the
instance.  So a message fails for its arguments or not at all, whatever the instance holds, and when
it fails nothing was written.  When it does not, it has written the contents or has left the
instance alone, mark included, and which of the two can be told from the selector; only `removeAt:`
has to look whether there is anything to remove.

* `Family` — the built-in behaviors of objects, arrays and dictionaries;
* `argumentsNeeded`, `Family.Unfit`, `WritesItems` — what a selector asks for, refuses and writes;
* `Ends`, `Behavior.Governed` — a behavior that keeps to that; `Family.governed` — all of them do;
* `FailsByArguments` — what becomes of a message to such a behavior;
* **`builtins_fail_by_arguments`** — any built-in message.
-/

namespace ObjectMemory.Message

open Json Builtin Collection

/-! ## Selectors -/

/-- The families of built-in behaviors, each of which can be registered for a class. -/
inductive Family where
  | object
  | array
  | dictionary

def Family.behaviors : Family → List (String × Behavior)
  | object => objectBehaviors
  | array => arrayBehaviors
  | dictionary => dictionaryBehaviors

/-- How many arguments a built-in selector asks for. -/
def argumentsNeeded (selector : String) : ℕ :=
  if selector = "at:put:" then 2
  else if selector ∈ ["at:", "push:", "setItems:", "includesKey:", "removeAt:"] then 1
  else 0

/-- Values that contents can be given as. -/
def IsContents : Value → Prop
  | .str _ | .arr _ | .obj _ => True
  | _ => False

/-- The first argument is of no use to a selector. -/
def Family.Unfit (family : Family) (selector : String) (arguments : List Value) : Prop :=
  ∃ first ∈ arguments.head?,
    family = array ∧ (selector = "at:" ∨ selector = "at:put:") ∧ first.index? = none ∨
      selector = "setItems:" ∧ ¬IsContents first

/-- A built-in message that is answered writes the contents of the instance. -/
def WritesItems (selector : String) (arguments : List Value) (object : Instance) : Prop :=
  selector ∈ ["at:put:", "push:", "pop", "setItems:"] ∨
    selector = "removeAt:" ∧
      ∃ key ∈ arguments.head?, (dictionaryOf object).contains key.render = true

/-! ## Behaviors -/

/-- The ends of a behavior that has all its arguments: one of them is refused, or there is an answer
and perhaps a text was written. -/
inductive Ends (context : Context) (object : Instance) (unfit writes : Prop) :
    Except Error String × Instance → Prop where
  | refused (message : String) (h : unfit) :
      Ends context object unfit writes (.error (context.invalid message), object)
  | answered (answer : String) (text : Option String) (fit : ¬unfit) (h : text.isSome ↔ writes) :
      Ends context object unfit writes (.ok answer, withContents object text)

/-- A behavior that fails for its arguments or not at all: there are fewer than it needs, or they
are unfit.  It does not see more than it needs. -/
structure Behavior.Governed (behavior : Behavior) (needed : ℕ) (Unfit : List Value → Prop)
    (Writes : List Value → Instance → Prop) : Prop where
  missing : ∀ context arguments object, arguments.length < needed →
    behavior context arguments object
      = (.error (.missingArgument context.selector needed arguments.length), object)
  surplus : ∀ context arguments extra object, needed ≤ arguments.length →
    behavior context (arguments ++ extra) object = behavior context arguments object
  ends : ∀ context arguments object, needed ≤ arguments.length →
    Ends context object (Unfit arguments) (Writes arguments object)
      (behavior context arguments object)

section Ends

variable {context : Context} {object : Instance} {unfit writes : Prop}

lemma Ends.read (fit : ¬unfit) (h : ¬writes) (answer : String) :
    Ends context object unfit writes (.ok answer, object) :=
  .answered answer none fit (by simp [h])

lemma Ends.written (fit : ¬unfit) (h : writes) (answer text : String) :
    Ends context object unfit writes (.ok answer, withItems object text) :=
  .answered answer (some text) fit (by simp [h])

lemma Ends.of_unfit {result : Except Error String × Instance}
    (ends : Ends context object unfit writes result) (h : unfit) :
    ∃ message, result = (.error (context.invalid message), object) := by
  cases ends with
  | refused message => exact ⟨message, rfl⟩
  | answered answer text fit => exact absurd h fit

end Ends

lemma Context.argument_of_lt (context : Context) {arguments : List Value} {expected : ℕ}
    (h : arguments.length < expected) (position : ℕ) :
    context.argument arguments position expected
      = .error (.missingArgument context.selector expected arguments.length) := by
  simp [argument, h]

section Arity

variable {behavior : Behavior} {Unfit : List Value → Prop} {Writes : List Value → Instance → Prop}

/-- A behavior that needs one argument is known by what it does without any and with a first. -/
lemma governed_of_first
    (missing : ∀ context object, behavior context [] object
      = (.error (.missingArgument context.selector 1 0), object))
    (h : ∀ context first object, ∃ outcome, ∀ rest,
      behavior context (first :: rest) object = outcome ∧
        Ends context object (Unfit (first :: rest)) (Writes (first :: rest) object) outcome) :
    behavior.Governed 1 Unfit Writes where
  missing context arguments object hcount := by
    obtain rfl : arguments = [] := List.length_eq_zero_iff.mp (by omega)
    exact missing context object
  surplus context arguments extra object hcount := by
    obtain ⟨first, rest, rfl⟩ := List.exists_cons_of_length_pos hcount
    obtain ⟨outcome, houtcome⟩ := h context first object
    rw [List.cons_append, (houtcome _).1, (houtcome _).1]
  ends context arguments object hcount := by
    obtain ⟨first, rest, rfl⟩ := List.exists_cons_of_length_pos hcount
    obtain ⟨outcome, houtcome⟩ := h context first object
    rw [(houtcome rest).1]
    exact (houtcome rest).2

/-- A behavior that needs two arguments is known by what it does with fewer and with both. -/
lemma governed_of_second
    (missing : ∀ context arguments object, arguments.length < 2 →
      behavior context arguments object
        = (.error (.missingArgument context.selector 2 arguments.length), object))
    (h : ∀ context first second object, ∃ outcome, ∀ rest,
      behavior context (first :: second :: rest) object = outcome ∧
        Ends context object (Unfit (first :: second :: rest))
          (Writes (first :: second :: rest) object) outcome) :
    behavior.Governed 2 Unfit Writes where
  missing := missing
  surplus context arguments extra object hcount := by
    match arguments, hcount with
    | first :: second :: rest, _ =>
      obtain ⟨outcome, houtcome⟩ := h context first second object
      rw [List.cons_append, List.cons_append, (houtcome _).1, (houtcome _).1]
  ends context arguments object hcount := by
    match arguments, hcount with
    | first :: second :: rest, _ =>
      obtain ⟨outcome, houtcome⟩ := h context first second object
      rw [(houtcome rest).1]
      exact (houtcome rest).2

/-- Reading something about the instance needs no arguments. -/
lemma governed_answering (about : Instance → String) (fit : ∀ arguments, ¬Unfit arguments)
    (reads : ∀ arguments object, ¬Writes arguments object) :
    (Behavior.reading fun _ _ object => .ok (about object)).Governed 0 Unfit Writes where
  missing _ _ _ hcount := absurd hcount (Nat.not_lt_zero _)
  surplus _ _ _ _ _ := rfl
  ends _ arguments object _ := .read (fit arguments) (reads arguments object) _

/-! ## What is written and what is refused -/

lemma itemsText_of_isContents {given : Value} (h : IsContents given) (context : Context) :
    itemsText context given = .ok given.render := by
  cases given with
  | str | arr | obj => rfl
  | null | bool | num => cases h

lemma itemsText_of_not {given : Value} (h : ¬IsContents given) (context : Context) :
    ∃ message, itemsText context given = .error (context.invalid message) := by
  cases given with
  | str | arr | obj => exact absurd trivial h
  | null | bool | num => exact ⟨_, rfl⟩

lemma governed_setItems (unfit : ∀ first rest, Unfit (first :: rest) ↔ ¬IsContents first)
    (writes : ∀ arguments object, Writes arguments object) :
    setItems.Governed 1 Unfit Writes := by
  refine governed_of_first (fun _ _ => rfl) fun context first object => ?_
  by_cases hcontents : IsContents first
  · refine ⟨(.ok first.render, withItems object first.render), fun rest => ⟨?_, ?_⟩⟩
    · simp [setItems, Behavior.atomic, itemsText_of_isContents hcontents, bind, Except.bind, pure,
        Except.pure]
    · exact .written (by simpa [unfit] using hcontents) (writes _ _) _ _
  · obtain ⟨message, hmessage⟩ := itemsText_of_not hcontents context
    refine ⟨(.error (context.invalid message), object), fun rest => ⟨?_, ?_⟩⟩
    · simp [setItems, Behavior.atomic, hmessage, bind, Except.bind]
    · exact .refused message ((unfit _ _).mpr hcontents)

lemma indexArgument_of_none {first : Value} (h : first.index? = none) (context : Context) :
    ∃ message, ∀ rest,
      indexArgument context (first :: rest) = .error (context.invalid message) := by
  refine ⟨"expected an integer index, got " ++ first.encode, fun rest => ?_⟩
  simp [indexArgument, h, bind, Except.bind]
  rfl

lemma governed_arrayAt (unfit : ∀ first rest, Unfit (first :: rest) ↔ first.index? = none)
    (reads : ∀ arguments object, ¬Writes arguments object) :
    arrayAt.Governed 1 Unfit Writes := by
  refine governed_of_first (fun _ _ => rfl) fun context first object => ?_
  cases hindex : first.index? with
  | none =>
      obtain ⟨message, hmessage⟩ := indexArgument_of_none hindex context
      refine ⟨(.error (context.invalid message), object), fun rest => ⟨?_, ?_⟩⟩
      · simp [arrayAt, Behavior.reading, hmessage, bind, Except.bind]
      · exact .refused _ ((unfit _ _).mpr hindex)
  | some index =>
      refine ⟨(.ok (render? ((sequenceOf object).get? index)), object), fun rest => ⟨?_, ?_⟩⟩
      · simp [arrayAt, Behavior.reading, indexArgument_cons hindex, bind, Except.bind, pure,
          Except.pure]
      · exact .read (by simp [unfit, hindex]) (reads _ _) _

/-- The value is looked for before the index, so a lone argument is missed and not refused. -/
lemma governed_arrayAtPut (unfit : ∀ first rest, Unfit (first :: rest) ↔ first.index? = none)
    (writes : ∀ arguments object, Writes arguments object) :
    arrayAtPut.Governed 2 Unfit Writes := by
  refine governed_of_second (fun context arguments object hcount => ?_)
    fun context first second object => ?_
  · simp [arrayAtPut, Behavior.atomic, context.argument_of_lt hcount, bind, Except.bind]
  cases hindex : first.index? with
  | none =>
      obtain ⟨message, hmessage⟩ := indexArgument_of_none hindex context
      refine ⟨(.error (context.invalid message), object), fun rest => ⟨?_, ?_⟩⟩
      · simp [arrayAtPut, Behavior.atomic, hmessage, bind, Except.bind]
      · exact .refused _ ((unfit _ _).mpr hindex)
  | some index =>
      refine ⟨(.ok second.render, withItems object
        (((sequenceOf object).set? index second).getD (sequenceOf object)).encode),
        fun rest => ⟨?_, ?_⟩⟩
      · simp [arrayAtPut, Behavior.atomic, indexArgument_cons hindex, bind, Except.bind, pure,
          Except.pure]
      · exact .written (by simp [unfit, hindex]) (writes _ _) _ _

lemma governed_arrayPush (fit : ∀ arguments, ¬Unfit arguments)
    (writes : ∀ arguments object, Writes arguments object) :
    arrayPush.Governed 1 Unfit Writes := by
  refine governed_of_first (fun _ _ => rfl) fun context first object => ?_
  refine ⟨(.ok first.render, withItems object ((sequenceOf object).push first).encode),
    fun rest => ⟨?_, .written (fit _) (writes _ _) _ _⟩⟩
  simp [arrayPush, Behavior.atomic, bind, Except.bind, pure, Except.pure]

lemma governed_arrayPop (fit : ∀ arguments, ¬Unfit arguments)
    (writes : ∀ arguments object, Writes arguments object) :
    arrayPop.Governed 0 Unfit Writes where
  missing _ _ _ hcount := absurd hcount (Nat.not_lt_zero _)
  surplus _ _ _ _ _ := rfl
  ends _ _ _ _ := .written (fit _) (writes _ _) _ _

/-- Reading something about a key. -/
lemma governed_readingKey (about : Dictionary → String → String)
    (fit : ∀ arguments, ¬Unfit arguments) (reads : ∀ arguments object, ¬Writes arguments object) :
    (Behavior.reading fun context arguments object => do
      let key ← keyArgument context arguments
      return about (dictionaryOf object) key).Governed 1 Unfit Writes := by
  refine governed_of_first (fun _ _ => rfl) fun context first object => ?_
  refine ⟨(.ok (about (dictionaryOf object) first.render), object),
    fun rest => ⟨?_, .read (fit _) (reads _ _) _⟩⟩
  simp [Behavior.reading, keyArgument_cons, bind, Except.bind, pure, Except.pure]

lemma governed_dictionaryAtPut (fit : ∀ arguments, ¬Unfit arguments)
    (writes : ∀ arguments object, Writes arguments object) :
    dictionaryAtPut.Governed 2 Unfit Writes := by
  refine governed_of_second (fun context arguments object hcount => ?_)
    fun context first second object => ?_
  · simp [dictionaryAtPut, Behavior.atomic, context.argument_of_lt hcount, bind, Except.bind]
  · exact ⟨_, fun rest => ⟨dictionaryAtPut_cons context first second rest object,
      .written (fit _) (writes _ _) _ _⟩⟩

/-- Only removing looks at the instance to find whether there is anything to write. -/
lemma governed_dictionaryRemove (fit : ∀ arguments, ¬Unfit arguments)
    (writes : ∀ key rest object, Writes (key :: rest) object ↔
      (dictionaryOf object).contains key.render = true) :
    dictionaryRemove.Governed 1 Unfit Writes := by
  refine governed_of_first (fun _ _ => rfl) fun context key object => ?_
  -- what is removed is what would be found, so the answer of `remove` tells whether it writes
  cases hvalue : (dictionaryOf object).get? key.render with
  | none =>
      have habsent : (dictionaryOf object).contains key.render = false :=
        Option.isSome_eq_false_iff.mpr (Option.isNone_iff_eq_none.mpr hvalue)
      refine ⟨(.ok "", object), fun rest => ⟨?_, .read (fit _) ?_ _⟩⟩
      · simp [dictionaryRemove, Behavior.atomic, keyArgument_cons, Dictionary.remove, hvalue, bind,
          Except.bind, pure, Except.pure]
      · simp [writes, habsent]
  | some value =>
      have hpresent : (dictionaryOf object).contains key.render = true :=
        Option.isSome_iff_exists.mpr ⟨value, hvalue⟩
      refine ⟨(.ok value.render,
        withItems object ((dictionaryOf object).remove key.render).2.encode),
        fun rest => ⟨?_, .written (fit _) ((writes _ _ _).mpr hpresent) _ _⟩⟩
      simp [dictionaryRemove, Behavior.atomic, keyArgument_cons, Dictionary.remove, hvalue, bind,
        Except.bind, pure, Except.pure]

end Arity

/-! ## Families -/

/-- **Every built-in behavior** keeps to what is asked for, refused and written under its
selector. -/
lemma Family.governed (family : Family) : ∀ b ∈ family.behaviors,
    b.2.Governed (argumentsNeeded b.1) (family.Unfit b.1) (WritesItems b.1) := by
  intro b hb
  cases family with
  | object =>
      simp only [behaviors, objectBehaviors, List.mem_cons, List.not_mem_nil, or_false] at hb
      rcases hb with rfl | rfl | rfl | rfl | rfl <;>
        exact governed_answering _ (by simp [Unfit]) (by simp [WritesItems])
  | array =>
      simp only [behaviors, arrayBehaviors, List.mem_cons, List.not_mem_nil, or_false] at hb
      rcases hb with rfl | rfl | rfl | rfl | rfl | rfl | rfl | rfl | rfl | rfl
      iterate 4 exact governed_answering _ (by simp [Unfit]) (by simp [WritesItems])
      · exact governed_arrayAt (by simp [Unfit]) (by simp [WritesItems])
      · exact governed_arrayAtPut (by simp [Unfit]) (by simp [WritesItems])
      · exact governed_arrayPush (by simp [Unfit]) (by simp [WritesItems])
      · exact governed_arrayPop (by simp [Unfit]) (by simp [WritesItems])
      · exact governed_answering _ (by simp [Unfit]) (by simp [WritesItems])
      · exact governed_setItems (by simp [Unfit]) (by simp [WritesItems])
  | dictionary =>
      simp only [behaviors, dictionaryBehaviors, List.mem_cons, List.not_mem_nil, or_false] at hb
      rcases hb with rfl | rfl | rfl | rfl | rfl | rfl | rfl | rfl | rfl
      · exact governed_answering _ (by simp [Unfit]) (by simp [WritesItems])
      · exact governed_answering _ (by simp [Unfit]) (by simp [WritesItems])
      · exact governed_readingKey (fun dictionary key => render? (dictionary.get? key))
          (by simp [Unfit]) (by simp [WritesItems])
      · exact governed_dictionaryAtPut (by simp [Unfit]) (by simp [WritesItems])
      · exact governed_readingKey (fun dictionary key => boolean (dictionary.contains key))
          (by simp [Unfit]) (by simp [WritesItems])
      · exact governed_dictionaryRemove (by simp [Unfit]) (by simp [WritesItems])
      · exact governed_answering _ (by simp [Unfit]) (by simp [WritesItems])
      · exact governed_answering _ (by simp [Unfit]) (by simp [WritesItems])
      · exact governed_setItems (by simp [Unfit]) (by simp [WritesItems])

/-! ## Messages -/

/-- An instance that differs from another in its contents and its mark at most. -/
structure DiffersInItems (object after : Instance) : Prop where
  id : after.id = object.id
  className : after.className = object.className
  createdAt : after.createdAt = object.createdAt
  declared : after.declared = object.declared
  others : ∀ key, key ≠ itemsKey → after.get? key = object.get? key

lemma differsInItems_withContents (object : Instance) (text : Option String) :
    DiffersInItems object (withContents object text) := by
  cases text with
  | none => exact ⟨rfl, rfl, rfl, rfl, fun _ _ => rfl⟩
  | some text =>
      rw [withContents, withItems_eq]
      exact ⟨rfl, rfl, rfl, rfl, fun _ hkey => SortedMap.get?_insert_of_ne hkey⟩

/-- What becomes of a built-in message, and what it leaves of the instance. -/
structure FailsByArguments (family : Family) (selector : String) (arguments : List Value)
    (object : Instance) (outcome : Dispatch) (after : Instance) : Prop where
  /-- An argument is missed exactly if there are fewer than the selector asks for. -/
  missing : (∃ asked expected given, outcome = .failed (.missingArgument asked expected given)) ↔
    arguments.length < argumentsNeeded selector
  counts : arguments.length < argumentsNeeded selector →
    outcome = .failed (.missingArgument selector (argumentsNeeded selector) arguments.length)
  /-- An argument is refused exactly if they are enough, and the first is of no use. -/
  invalid : (∃ asked message, outcome = .failed (.invalidArgument asked message)) ↔
    argumentsNeeded selector ≤ arguments.length ∧ family.Unfit selector arguments
  /-- There is no other failure, and the message is always handled. -/
  handled : (∃ answer, outcome = .handled answer) ↔
    argumentsNeeded selector ≤ arguments.length ∧ ¬family.Unfit selector arguments
  failure : ∀ error, outcome = .failed error → after = object
  frame : DiffersInItems object after
  marked : (∃ answer, outcome = .handled answer) → WritesItems selector arguments object →
    after.modified = true
  untouched : ¬WritesItems selector arguments object → after = object

section Messages

variable {family : Family} {selector : String} {arguments : List Value} {object : Instance}

lemma failsByArguments_of_missing (h : arguments.length < argumentsNeeded selector) :
    FailsByArguments family selector arguments object
      (.failed (.missingArgument selector (argumentsNeeded selector) arguments.length)) object where
  missing := by simp [h]
  counts _ := rfl
  invalid := by simp [h]
  handled := by simp [h]
  failure _ _ := rfl
  frame := differsInItems_withContents object none
  marked := by simp
  untouched _ := rfl

lemma failsByArguments_of_refused (h : argumentsNeeded selector ≤ arguments.length)
    (unfit : family.Unfit selector arguments) (message : String) :
    FailsByArguments family selector arguments object
      (.failed (.invalidArgument selector message)) object where
  missing := by simp [h]
  counts hcount := absurd hcount (Nat.not_lt.mpr h)
  invalid := by simp [h, unfit]
  handled := by simp [unfit]
  failure _ _ := rfl
  frame := differsInItems_withContents object none
  marked := by simp
  untouched _ := rfl

lemma failsByArguments_of_answered (h : argumentsNeeded selector ≤ arguments.length)
    (fit : ¬family.Unfit selector arguments) (answer : String) {text : Option String}
    (hwrites : text.isSome ↔ WritesItems selector arguments object) :
    FailsByArguments family selector arguments object (.handled answer)
      (withContents object text) where
  missing := by simp [h]
  counts hcount := absurd hcount (Nat.not_lt.mpr h)
  invalid := by simp [fit]
  handled := by simp [h, fit]
  failure _ hfailed := by cases hfailed
  frame := differsInItems_withContents object text
  marked _ hmarked := by
    obtain ⟨text, rfl⟩ := Option.isSome_iff_exists.mp (hwrites.mpr hmarked)
    rw [withContents, withItems_eq]
  untouched hunwritten := by
    rw [← hwrites, Option.not_isSome_iff_eq_none] at hunwritten
    rw [hunwritten, withContents]

lemma failsByArguments_of_ends (h : argumentsNeeded selector ≤ arguments.length)
    {className id : String} {result : Except Error String × Instance}
    (ends : Ends ⟨className, selector, id⟩ object (family.Unfit selector arguments)
      (WritesItems selector arguments object) result) :
    FailsByArguments family selector arguments object (.ofAnswer result.1) result.2 := by
  cases ends with
  | refused message unfit => exact failsByArguments_of_refused h unfit message
  | answered answer text fit hwrites => exact failsByArguments_of_answered h fit answer hwrites

/-- **A built-in message fails exactly for its arguments.**  It changes the contents at most, and
nothing when it fails or only reads; arguments that the selector does not ask for change nothing at
all. -/
theorem builtins_fail_by_arguments {registry : Registry}
    (serves : registry.Serves object.className family.behaviors)
    (hselector : selector ∈ family.behaviors.map Prod.fst) (arguments : List Value) :
    FailsByArguments family selector arguments object
      (registry.dispatch selector arguments object).1
      (registry.dispatch selector arguments object).2 ∧
    (argumentsNeeded selector ≤ arguments.length → ∀ extra,
      registry.dispatch selector (arguments ++ extra) object
        = registry.dispatch selector arguments object) := by
  obtain ⟨⟨selector, behavior⟩, hmem, rfl⟩ := List.mem_map.mp hselector
  -- the behavior is found without a look at the arguments, so the rest is about it alone
  have hdispatch := Registry.dispatch_of_some (serves _ hmem)
  have hgoverned := family.governed _ hmem
  refine ⟨?_, fun hcount extra => ?_⟩
  · rw [hdispatch]
    rcases Nat.lt_or_ge arguments.length (argumentsNeeded selector) with hcount | hcount
    · rw [hgoverned.missing _ _ _ hcount]
      exact failsByArguments_of_missing hcount
    · exact failsByArguments_of_ends hcount (hgoverned.ends _ arguments object hcount)
  · rw [hdispatch, hdispatch, hgoverned.surplus _ _ _ _ hcount]

end Messages

/-- An array with a label of its own. -/
def tray : Instance :=
  .new "array_2" "Array" .epoch (.ofList [("items", .arr [.null]), ("label", .str "a")])

/-- One selector and its three ends: the value is missing, the index is no number, and both are
there and something more. -/
theorem builtins_fail_by_arguments_tray :
    Registry.builtin.Serves tray.className Family.array.behaviors ∧
    "at:put:" ∈ Family.array.behaviors.map Prod.fst ∧
    Registry.builtin.dispatch "at:put:" [.null] tray
      = (.failed (.missingArgument "at:put:" 2 1), tray) ∧
    (∃ asked message, Registry.builtin.dispatch "at:put:" [.null, .null] tray
      = (.failed (.invalidArgument asked message), tray)) ∧
    ∃ answer after, Registry.builtin.dispatch "at:put:" [.str "-1", .null, .null] tray
        = (.handled answer, after) ∧
      after.modified = true ∧ after.get? "label" = some (.str "a") ∧
      Registry.builtin.dispatch "at:put:" [.str "-1", .null] tray = (.handled answer, after) := by
  have hserves : Registry.builtin.Serves tray.className Family.array.behaviors :=
    Registry.builtin_serves_array
  have hselector : "at:put:" ∈ Family.array.behaviors.map Prod.fst := by
    simp [Family.behaviors, arrayBehaviors]
  obtain ⟨hmissing, -⟩ := builtins_fail_by_arguments hserves hselector [.null]
  obtain ⟨hinvalid, -⟩ := builtins_fail_by_arguments hserves hselector [.null, .null]
  obtain ⟨hhandled, hsurplus⟩ := builtins_fail_by_arguments hserves hselector [.str "-1", .null]
  have hcounts := hmissing.counts (by decide)
  have hunfit : Family.array.Unfit "at:put:" [.null, .null] :=
    ⟨.null, rfl, .inl ⟨rfl, .inr rfl, rfl⟩⟩
  have hfit : ¬Family.array.Unfit "at:put:" [.str "-1", .null] := by
    have hindex : (Value.str "-1").index? = some (-1) := by decide
    simp [Family.Unfit, hindex]
  obtain ⟨asked, message, hrefused⟩ := hinvalid.invalid.mpr ⟨by decide, hunfit⟩
  obtain ⟨answer, hanswer⟩ := hhandled.handled.mpr ⟨by decide, hfit⟩
  refine ⟨hserves, hselector, Prod.ext hcounts (hmissing.failure _ hcounts),
    ⟨asked, message, Prod.ext hrefused (hinvalid.failure _ hrefused)⟩, answer, _,
    (hsurplus (by decide) [.null]).trans (Prod.ext hanswer rfl),
    hhandled.marked ⟨answer, hanswer⟩ (.inl (by simp)), ?_, Prod.ext hanswer rfl⟩
  rw [hhandled.frame.others "label" (by decide)]
  rfl

end ObjectMemory.Message
