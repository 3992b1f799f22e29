import ObjectMemory.Proofs.Instance.RoundTrip
import ObjectMemory.Proofs.Message.Bindings

/-!
# What built-in behaviors do to an instance

A built-in behavior may write the contents of an instance, which are a text, and does nothing else
to it.  What it answers and what it writes does not depend on whether the instance is marked as
modified.  So a message does the same to an instance that was written and read in between as to one
that was not, and what it changes is marked.

The behaviors of collections see still less: of an instance they see the sequence and the dictionary
that it holds, in whatever form it holds them.

* `Behavior.WritesContents`, `objectBehaviors_writeContents` — a behavior of the first kind;
* `Behavior.SeesContents` — one of the second; `setItems_seesContents`, `arrayAtPut_seesContents`, …
  — each of them; `SeesContents.writesContents` — it is of the first kind;
* `Registry.All` — a property of all behaviors in a registry;
* `dispatch_writesContents` — messages to a registry of such behaviors;
* `dispatch_marks`, `dispatch_fits` — they mark what they change, and leave it storable.
-/

namespace ObjectMemory.Message

open Json Builtin Collection

/-! ## Behaviors -/

/-- An instance with the mark of a modification, or without. -/
def withMark (object : Instance) (modified : Bool) : Instance := { object with modified }

/-- An instance with other contents, if there are any to write. -/
def withContents (object : Instance) : Option String → Instance
  | some text => withItems object text
  | none => object

lemma withContents_marks {object : Instance} {text : Option String}
    (h : (withContents object text).modified = false) : withContents object text = object := by
  cases text with
  | none => rfl
  | some text => exact (Edit.set itemsKey (.str text)).marks object h

lemma withContents_fits (text : Option String) :
    Instance.Fits fun object => ((), withContents object text) := by
  cases text with
  | none => exact fun object hstorable => ⟨hstorable, rfl, rfl⟩
  | some text =>
      exact Edit.fits (show (Edit.set itemsKey (.str text)).Storable from storable_str text)

/-- A behavior that only writes contents, and heeds no mark. -/
def Behavior.WritesContents (behavior : Behavior) : Prop :=
  ∀ context arguments object, ∃ answer text, ∀ modified,
    behavior context arguments (withMark object modified)
      = (answer, withContents (withMark object modified) text)

lemma writesContents_reading
    {act : Context → (arguments : List Value) → Instance → Except Error String}
    (h : ∀ context arguments object modified,
      act context arguments (withMark object modified) = act context arguments object) :
    (Behavior.reading act).WritesContents := by
  intro context arguments object
  refine ⟨act context arguments object, none, fun modified => ?_⟩
  rw [Behavior.reading, h]
  rfl

lemma objectBehaviors_writeContents : ∀ b ∈ objectBehaviors, b.2.WritesContents := by
  intro b hb
  simp only [objectBehaviors, List.mem_cons, List.not_mem_nil, or_false] at hb
  rcases hb with rfl | rfl | rfl | rfl | rfl <;>
    exact writesContents_reading fun _ _ _ _ => rfl

/-! ## Behaviors of collections -/

/-- A behavior to which an instance is the collection that it holds: what it answers and what it
writes depends on nothing else of it. -/
def Behavior.SeesContents (behavior : Behavior) : Prop :=
  ∀ context arguments sequence dictionary, ∃ answer text, ∀ object,
    sequenceOf object = sequence → dictionaryOf object = dictionary →
      behavior context arguments object = (answer, withContents object text)

lemma Behavior.SeesContents.writesContents {behavior : Behavior} (h : behavior.SeesContents) :
    behavior.WritesContents := by
  intro context arguments object
  obtain ⟨answer, text, hanswer⟩ :=
    h context arguments (sequenceOf object) (dictionaryOf object)
  exact ⟨answer, text, fun modified => hanswer (withMark object modified) rfl rfl⟩

lemma seesContents_reading
    {act : Context → (arguments : List Value) → Instance → Except Error String}
    (h : ∀ context arguments sequence dictionary, ∃ answer, ∀ object,
      sequenceOf object = sequence → dictionaryOf object = dictionary →
        act context arguments object = answer) :
    (Behavior.reading act).SeesContents := by
  intro context arguments sequence dictionary
  obtain ⟨answer, hanswer⟩ := h context arguments sequence dictionary
  refine ⟨answer, none, fun object hsequence hdictionary => ?_⟩
  rw [Behavior.reading, hanswer object hsequence hdictionary]
  rfl

/-- What an atomic behavior does when it succeeds is enough to know. -/
lemma seesContents_atomic
    {act : Context → (arguments : List Value) → Instance → Except Error (String × Instance)}
    (h : ∀ context arguments sequence dictionary,
      ∃ outcome : Except Error (String × Option String), ∀ object,
        sequenceOf object = sequence → dictionaryOf object = dictionary →
          act context arguments object
            = outcome.map fun result => (result.1, withContents object result.2)) :
    (Behavior.atomic act).SeesContents := by
  intro context arguments sequence dictionary
  obtain ⟨outcome, houtcome⟩ := h context arguments sequence dictionary
  cases outcome with
  | error error =>
      refine ⟨.error error, none, fun object hsequence hdictionary => ?_⟩
      rw [Behavior.atomic, houtcome object hsequence hdictionary]
      rfl
  | ok result =>
      refine ⟨.ok result.1, result.2, fun object hsequence hdictionary => ?_⟩
      rw [Behavior.atomic, houtcome object hsequence hdictionary]
      rfl

lemma setItems_seesContents : setItems.SeesContents := by
  refine seesContents_atomic fun context arguments _ _ => ?_
  cases context.argument arguments 0 1 with
  | error error => exact ⟨.error error, fun _ _ _ => rfl⟩
  | ok value =>
      refine ⟨(itemsText context value).map fun text => (text, some text), fun object _ _ => ?_⟩
      show (itemsText context value >>= _) = _
      cases itemsText context value <;> rfl

lemma answeringSequence_seesContents (about : Sequence → String) :
    (answeringSequence about).SeesContents :=
  seesContents_reading fun _ _ sequence _ =>
    ⟨.ok (about sequence), fun _ hsequence _ => by rw [hsequence]⟩

lemma arrayAt_seesContents : arrayAt.SeesContents :=
  seesContents_reading fun context arguments sequence _ =>
    ⟨(indexArgument context arguments).map fun index => render? (sequence.get? index),
      fun object hsequence _ => by
        subst hsequence
        cases indexArgument context arguments <;> rfl⟩

lemma arrayAtPut_seesContents : arrayAtPut.SeesContents := by
  refine seesContents_atomic fun context arguments sequence _ => ?_
  cases context.argument arguments 1 2 with
  | error error => exact ⟨.error error, fun _ _ _ => rfl⟩
  | ok value =>
      cases indexArgument context arguments with
      | error error => exact ⟨.error error, fun _ _ _ => rfl⟩
      | ok index =>
          refine ⟨.ok (value.render, some ((sequence.set? index value).getD sequence).encode),
            fun object hsequence _ => ?_⟩
          subst hsequence
          rfl

lemma arrayPush_seesContents : arrayPush.SeesContents := by
  refine seesContents_atomic fun context arguments sequence _ => ?_
  cases context.argument arguments 0 1 with
  | error error => exact ⟨.error error, fun _ _ _ => rfl⟩
  | ok value =>
      refine ⟨.ok (value.render, some (sequence.push value).encode), fun object hsequence _ => ?_⟩
      subst hsequence
      rfl

lemma arrayPop_seesContents : arrayPop.SeesContents := by
  refine seesContents_atomic fun _ _ sequence _ => ?_
  refine ⟨.ok (render? sequence.pop.1, some sequence.pop.2.encode), fun object hsequence _ => ?_⟩
  subst hsequence
  rfl

lemma answeringDictionary_seesContents (about : Dictionary → String) :
    (answeringDictionary about).SeesContents :=
  seesContents_reading fun _ _ _ dictionary =>
    ⟨.ok (about dictionary), fun _ _ hdictionary => by rw [hdictionary]⟩

/-- A behavior that reads something about one key. -/
lemma readingKey_seesContents (about : Dictionary → String → String) :
    (Behavior.reading fun context arguments object => do
      let key ← keyArgument context arguments
      return about (dictionaryOf object) key).SeesContents :=
  seesContents_reading fun context arguments _ dictionary =>
    ⟨(keyArgument context arguments).map (about dictionary), fun object _ hdictionary => by
      subst hdictionary
      cases keyArgument context arguments <;> rfl⟩

lemma dictionaryAtPut_seesContents : dictionaryAtPut.SeesContents := by
  refine seesContents_atomic fun context arguments _ dictionary => ?_
  cases context.argument arguments 1 2 with
  | error error => exact ⟨.error error, fun _ _ _ => rfl⟩
  | ok value =>
      cases keyArgument context arguments with
      | error error => exact ⟨.error error, fun _ _ _ => rfl⟩
      | ok key =>
          refine ⟨.ok (value.render, some (dictionary.put key value).2.encode),
            fun object _ hdictionary => ?_⟩
          subst hdictionary
          rfl

lemma dictionaryRemove_seesContents : dictionaryRemove.SeesContents := by
  refine seesContents_atomic fun context arguments _ dictionary => ?_
  cases keyArgument context arguments with
  | error error => exact ⟨.error error, fun _ _ _ => rfl⟩
  | ok key =>
      cases hremove : dictionary.remove key with
      | mk before rest =>
          cases before with
          | none =>
              refine ⟨.ok ("", none), fun object _ hdictionary => ?_⟩
              simp only [hdictionary, hremove, bind, Except.bind]
              rfl
          | some value =>
              refine ⟨.ok (value.render, some rest.encode), fun object _ hdictionary => ?_⟩
              simp only [hdictionary, hremove, bind, Except.bind]
              rfl

lemma arrayBehaviors_seeContents : ∀ b ∈ arrayBehaviors, b.2.SeesContents := by
  intro b hb
  simp only [arrayBehaviors, List.mem_cons, List.not_mem_nil, or_false] at hb
  rcases hb with rfl | rfl | rfl | rfl | rfl | rfl | rfl | rfl | rfl | rfl <;> dsimp only
  · exact answeringSequence_seesContents _
  · exact answeringSequence_seesContents _
  · exact answeringSequence_seesContents _
  · exact answeringSequence_seesContents _
  · exact arrayAt_seesContents
  · exact arrayAtPut_seesContents
  · exact arrayPush_seesContents
  · exact arrayPop_seesContents
  · exact answeringSequence_seesContents _
  · exact setItems_seesContents

lemma dictionaryBehaviors_seeContents : ∀ b ∈ dictionaryBehaviors, b.2.SeesContents := by
  intro b hb
  simp only [dictionaryBehaviors, List.mem_cons, List.not_mem_nil, or_false] at hb
  rcases hb with rfl | rfl | rfl | rfl | rfl | rfl | rfl | rfl | rfl <;> dsimp only
  · exact answeringDictionary_seesContents _
  · exact answeringDictionary_seesContents _
  · exact readingKey_seesContents fun dictionary key => render? (dictionary.get? key)
  · exact dictionaryAtPut_seesContents
  · exact readingKey_seesContents fun dictionary key => boolean (dictionary.contains key)
  · exact dictionaryRemove_seesContents
  · exact answeringDictionary_seesContents _
  · exact answeringDictionary_seesContents _
  · exact setItems_seesContents

/-! ## Registries -/

namespace Registry

/-- Every behavior in the registry has a property. -/
def All (registry : Registry) (P : Behavior → Prop) : Prop :=
  ∀ signature behavior, registry.behaviors.get? signature = some behavior → P behavior

variable {registry : Registry} {P : Behavior → Prop}

lemma empty_all : empty.All P := fun _ _ h => by cases h

lemma All.register (h : registry.All P) (className selector : String) {behavior : Behavior}
    (hbehavior : P behavior) : (registry.register className selector behavior).All P := by
  intro signature found hfound
  rw [Registry.register] at hfound
  rcases eq_or_ne signature ⟨className, selector⟩ with rfl | hne
  · rw [SortedMap.get?_insert_self] at hfound
    exact Option.some.inj hfound ▸ hbehavior
  · rw [SortedMap.get?_insert_of_ne hne] at hfound
    exact h signature found hfound

lemma All.registerAll {behaviors : List (String × Behavior)} (hbehaviors : ∀ b ∈ behaviors, P b.2)
    (className : String) (h : registry.All P) :
    (registry.registerAll className behaviors).All P := by
  induction behaviors generalizing registry with
  | nil => exact h
  | cons b rest ih =>
      exact ih (fun c hc => hbehaviors c (List.mem_cons_of_mem _ hc))
        (h.register className b.1 (hbehaviors b List.mem_cons_self))

lemma All.lookup (h : registry.All P) {className selector : String} {behavior : Behavior}
    (hfound : registry.lookup className selector = some behavior) : P behavior := by
  rw [Registry.lookup] at hfound
  cases hown : registry.behaviors.get? ⟨className, selector⟩ with
  | some own =>
      rw [hown] at hfound
      exact Option.some.inj hfound ▸ h _ _ hown
  | none =>
      rw [hown] at hfound
      exact h _ _ hfound

lemma builtin_writesContents : builtin.All Behavior.WritesContents :=
  ((empty_all.registerAll objectBehaviors_writeContents wildcard).registerAll
    (fun b hb => (arrayBehaviors_seeContents b hb).writesContents) "Array").registerAll
    (fun b hb => (dictionaryBehaviors_seeContents b hb).writesContents) "Dictionary"

/-! ## Messages -/

/-- A message writes contents at most, and does it with or without a mark. -/
lemma dispatch_writesContents (h : registry.All Behavior.WritesContents) (selector : String)
    (arguments : List Value) (object : Instance) : ∃ outcome text,
      registry.dispatch selector arguments object = (outcome, withContents object text) ∧
      registry.dispatch selector arguments object.unmodified
        = (outcome, withContents object.unmodified text) := by
  cases hfound : registry.lookup object.className selector with
  | none =>
      have hunmarked : registry.lookup object.unmodified.className selector = none := hfound
      exact ⟨.notHandled, none, dispatch_of_none hfound arguments,
        dispatch_of_none hunmarked arguments⟩
  | some behavior =>
      have hunmarked : registry.lookup object.unmodified.className selector = some behavior :=
        hfound
      obtain ⟨answer, text, hanswer⟩ :=
        h.lookup hfound ⟨object.className, selector, object.id⟩ arguments object
      refine ⟨.ofAnswer answer, text, ?_, ?_⟩
      · rw [dispatch_of_some hfound]
        exact congrArg (Prod.map Dispatch.ofAnswer id) (hanswer object.modified)
      · rw [dispatch_of_some hunmarked]
        exact congrArg (Prod.map Dispatch.ofAnswer id) (hanswer false)

lemma dispatch_marks (h : registry.All Behavior.WritesContents) (selector : String)
    (arguments : List Value) : Instance.Marks (registry.dispatch selector arguments) := by
  intro object hunmarked
  obtain ⟨outcome, text, heq, -⟩ := dispatch_writesContents h selector arguments object
  rw [heq] at hunmarked ⊢
  exact withContents_marks hunmarked

lemma dispatch_fits (h : registry.All Behavior.WritesContents) (selector : String)
    (arguments : List Value) : Instance.Fits (registry.dispatch selector arguments) := by
  intro object hstorable
  obtain ⟨outcome, text, heq, -⟩ := dispatch_writesContents h selector arguments object
  rw [heq]
  exact withContents_fits text object hstorable

/-- A message does the same to an instance without its mark. -/
lemma dispatch_unmodified (h : registry.All Behavior.WritesContents) (selector : String)
    (arguments : List Value) (object : Instance) :
    (registry.dispatch selector arguments object.unmodified).1
        = (registry.dispatch selector arguments object).1 ∧
      (registry.dispatch selector arguments object.unmodified).2.unmodified
        = (registry.dispatch selector arguments object).2.unmodified := by
  obtain ⟨outcome, text, heq, hunmarked⟩ := dispatch_writesContents h selector arguments object
  rw [heq, hunmarked]
  refine ⟨rfl, ?_⟩
  cases text <;> rfl

end Registry

end ObjectMemory.Message
