import ObjectMemory.Proofs.Instance.RoundTrip
import ObjectMemory.Proofs.Json.Levels
import ObjectMemory.Proofs.Message.Bindings

/-!
# Messages to a collection, one after the other

A collection is decoded, edited and encoded anew by every message that changes it.  Seen from
outside it is a machine that answers and has a state, and to compare the two it is enough to look at
one message: an instance that agrees with a state answers what the machine answers, and agrees with
its next state (`sendAll_simulates`).

What arrays and dictionaries have in common is here: how their behaviors are found, how these get at
their arguments, and how the contents are written and may be given.

* `Call`, `Registry.sendAll`, `answerAll` — messages in a row, to an instance and to a machine;
* `Registry.Serves`, `serves_registerAll` — the behaviors that a class has; `builtin_serves_array`,
  `builtin_serves_dictionary` — the built-in classes;
* `sendAll_simulates`, `Registry.Serves.simulates` — one message, or one behavior, is enough to
  look at;
* `items_withItems`, `decode_contents` — contents that are written, and that are given.
-/

namespace ObjectMemory.Message

open Json Builtin

/-! ## Messages in a row -/

structure Call where
  selector : String
  arguments : List Value

/-- What becomes of messages to an instance in a row, and the instance after them. -/
def Registry.sendAll (registry : Registry) : List Call → Instance → List Dispatch × Instance
  | [], object => ([], object)
  | call :: rest, object =>
    let (outcome, object) := registry.dispatch call.selector call.arguments object
    let (outcomes, object) := registry.sendAll rest object
    (outcome :: outcomes, object)

/-- The answers of a machine in a row, and its state after them. -/
def answerAll {σ γ : Type} (step : σ → γ → String × σ) : σ → List γ → List String × σ
  | state, [] => ([], state)
  | state, call :: rest =>
    let (answer, state) := step state call
    let (answers, state) := answerAll step state rest
    (answer :: answers, state)

/-- **An instance answers as a machine does** if each message keeps it in agreement with the state
of the machine. -/
lemma sendAll_simulates {σ γ : Type} {registry : Registry} {step : σ → γ → String × σ}
    {message : γ → Call} {calls : List γ} (Agrees : Instance → σ → Prop)
    (h : ∀ object state, ∀ call ∈ calls, Agrees object state → ∃ after,
      registry.dispatch (message call).selector (message call).arguments object
        = (.handled (step state call).1, after) ∧ Agrees after (step state call).2)
    {object : Instance} {state : σ} (agrees : Agrees object state) :
    ∃ after, registry.sendAll (calls.map message) object
        = ((answerAll step state calls).1.map .handled, after) ∧
      Agrees after (answerAll step state calls).2 := by
  induction calls generalizing object state with
  | nil => exact ⟨object, rfl, agrees⟩
  | cons call rest ih =>
      obtain ⟨next, hnext, hagrees⟩ := h object state call List.mem_cons_self agrees
      obtain ⟨after, hafter, hfinal⟩ :=
        ih (fun object state call hcall => h object state call (List.mem_cons_of_mem _ hcall))
          hagrees
      refine ⟨after, ?_, hfinal⟩
      rw [List.map_cons, Registry.sendAll, hnext]
      simp only [hafter, answerAll, List.map_cons]

/-! ## Behaviors of a class -/

namespace Registry

variable {registry : Registry} {className selector : String}

/-- A class has these behaviors, by their selectors. -/
def Serves (registry : Registry) (className : String) (behaviors : List (String × Behavior)) :
    Prop :=
  ∀ b ∈ behaviors, registry.lookup className b.1 = some b.2

/-- What is registered for other selectors leaves a behavior as it is, of whatever class. -/
lemma get?_registerAll_of_notMem {other : String} {behaviors : List (String × Behavior)}
    (h : selector ∉ behaviors.map Prod.fst) :
    (registry.registerAll other behaviors).behaviors.get? ⟨className, selector⟩
      = registry.behaviors.get? ⟨className, selector⟩ := by
  induction behaviors generalizing registry with
  | nil => rfl
  | cons b rest ih =>
      rw [List.map_cons, List.mem_cons, not_or] at h
      have hne : (⟨className, selector⟩ : Signature) ≠ ⟨other, b.1⟩ := fun heq =>
        h.1 (congrArg Signature.selector heq)
      exact (ih h.2).trans (SortedMap.get?_insert_of_ne hne)

/-- A class has the behaviors that were registered for it. -/
lemma serves_registerAll {behaviors : List (String × Behavior)}
    (distinct : (behaviors.map Prod.fst).Nodup) :
    (registry.registerAll className behaviors).Serves className behaviors := by
  intro b hb
  have hown : (registry.registerAll className behaviors).behaviors.get? ⟨className, b.1⟩
      = some b.2 := by
    induction behaviors generalizing registry with
    | nil => cases hb
    | cons c rest ih =>
        rw [List.map_cons, List.nodup_cons] at distinct
        rcases List.mem_cons.mp hb with rfl | hrest
        · exact (get?_registerAll_of_notMem distinct.1).trans (SortedMap.get?_insert_self _ _ _)
        · exact ih distinct.2 hrest
  rw [lookup, hown]
  rfl

/-- What is registered for another class leaves the behaviors of a class as they are. -/
lemma get?_registerAll_of_ne {other : String} (behaviors : List (String × Behavior))
    (hclass : className ≠ other) :
    (registry.registerAll other behaviors).behaviors.get? ⟨className, selector⟩
      = registry.behaviors.get? ⟨className, selector⟩ := by
  induction behaviors generalizing registry with
  | nil => rfl
  | cons b rest ih =>
      have hne : (⟨className, selector⟩ : Signature) ≠ ⟨other, b.1⟩ := fun heq =>
        hclass (congrArg Signature.className heq)
      exact ih.trans (SortedMap.get?_insert_of_ne hne)

lemma lookup_registerAll_of_ne {other : String} (behaviors : List (String × Behavior))
    (hclass : className ≠ other) (hwildcard : wildcard ≠ other) :
    (registry.registerAll other behaviors).lookup className selector
      = registry.lookup className selector := by
  rw [lookup, lookup, get?_registerAll_of_ne behaviors hclass,
    get?_registerAll_of_ne behaviors hwildcard]

lemma builtin_serves_array : builtin.Serves "Array" arrayBehaviors := fun b hb =>
  (lookup_registerAll_of_ne _ (by decide) (by decide)).trans
    (serves_registerAll (by decide) b hb)

lemma builtin_serves_dictionary : builtin.Serves "Dictionary" dictionaryBehaviors :=
  serves_registerAll (by decide)

/-- What stands in for every class is what a class has that has nothing of its own. -/
lemma lookup_of_get?_eq_none (h : registry.behaviors.get? ⟨className, selector⟩ = none) :
    registry.lookup className selector = registry.lookup wildcard selector := by
  rw [lookup, lookup, h]
  cases registry.behaviors.get? ⟨wildcard, selector⟩ <;> rfl

/-- **Every class** has the behaviors of all objects. -/
lemma builtin_serves_object (className : String) : builtin.Serves className objectBehaviors := by
  intro b hb
  have hdictionary : ∀ b ∈ objectBehaviors, b.1 ∉ dictionaryBehaviors.map Prod.fst := by
    decide +kernel
  have harray : ∀ b ∈ objectBehaviors, b.1 ∉ arrayBehaviors.map Prod.fst := by decide +kernel
  have hcollections : ∀ name, builtin.behaviors.get? ⟨name, b.1⟩
      = (empty.registerAll wildcard objectBehaviors).behaviors.get? ⟨name, b.1⟩ := fun name => by
    rw [builtin, registerDictionary, get?_registerAll_of_notMem (hdictionary b hb), registerArray,
      get?_registerAll_of_notMem (harray b hb), registerObject]
  have hwildcard : builtin.lookup wildcard b.1 = some b.2 := by
    rw [lookup, hcollections]
    exact serves_registerAll (by decide) b hb
  rcases eq_or_ne className wildcard with rfl | hne
  · exact hwildcard
  · have hnone : builtin.behaviors.get? ⟨className, b.1⟩ = none := by
      rw [hcollections, get?_registerAll_of_ne _ hne]
      rfl
    rw [lookup_of_get?_eq_none hnone, hwildcard]

lemma Serves.dispatch {behaviors : List (String × Behavior)} {object after : Instance}
    (serves : registry.Serves object.className behaviors) {behavior : Behavior}
    (hmem : (selector, behavior) ∈ behaviors) {arguments : List Value} {answer : String}
    (h : behavior ⟨object.className, selector, object.id⟩ arguments object = (.ok answer, after)) :
    registry.dispatch selector arguments object = (.handled answer, after) := by
  have hfound : registry.lookup object.className selector = some behavior := serves _ hmem
  rw [dispatch_of_some hfound, h]
  rfl

/-- **An instance of a class answers as a machine does** if each behavior of the class keeps it in
agreement with the state of the machine. -/
lemma Serves.simulates {σ γ : Type} {behaviors : List (String × Behavior)}
    (serves : registry.Serves className behaviors) {step : σ → γ → String × σ}
    {message : γ → Call} {calls : List γ} {Agrees : Instance → σ → Prop}
    (hclass : ∀ object state, Agrees object state → object.className = className)
    (h : ∀ context object state, ∀ call ∈ calls, Agrees object state → ∃ behavior after,
      ((message call).selector, behavior) ∈ behaviors ∧
      behavior context (message call).arguments object = (.ok (step state call).1, after) ∧
      Agrees after (step state call).2)
    {object : Instance} {state : σ} (agrees : Agrees object state) :
    ∃ after, registry.sendAll (calls.map message) object
        = ((answerAll step state calls).1.map .handled, after) ∧
      Agrees after (answerAll step state calls).2 := by
  refine sendAll_simulates Agrees (fun object state call hcall hagrees => ?_) agrees
  have hserves : registry.Serves object.className behaviors :=
    (hclass object state hagrees).symm ▸ serves
  obtain ⟨behavior, after, hmem, hanswer, hafter⟩ := h
    ⟨object.className, (message call).selector, object.id⟩ object state call hcall hagrees
  exact ⟨after, hserves.dispatch hmem hanswer, hafter⟩

end Registry

/-! ## Arguments -/

@[simp] lemma Context.argument_first (context : Context) (value : Value) (rest : List Value) :
    context.argument (value :: rest) 0 1 = .ok value := by
  simp [argument]

@[simp] lemma Context.argument_second (context : Context) (first value : Value)
    (rest : List Value) : context.argument (first :: value :: rest) 1 2 = .ok value := by
  simp [argument]

/-! ## Contents -/

lemma withItems_eq (object : Instance) (text : String) :
    withItems object text
      = { object with data := object.data.insert itemsKey (.str text), modified := true } := by
  have hfree : isReserved itemsKey = false := by decide
  rw [withItems, Instance.set, hfree]
  rfl

lemma items_withItems (object : Instance) (text : String) :
    items (withItems object text) = some (.str text) := by
  rw [withItems_eq]
  exact SortedMap.get?_insert_self _ _ _

lemma className_withItems (object : Instance) (text : String) :
    (withItems object text).className = object.className := by
  rw [withItems_eq]

/-- A value that contents can be given as, of integers for numbers: a text, whatever it is of, or an
array or object. -/
def GivesContents : Value → Prop
  | .str text => ∀ value, decode text = .ok value → value.IntegersOnly
  | .arr items => (Value.arr items).IntegersOnly ∧ (Value.arr items).Canonical
  | .obj members => (Value.obj members).IntegersOnly ∧ (Value.obj members).Canonical
  | _ => False

/-- Contents are kept as the plain text of what they are given as. -/
lemma itemsText_of_gives {given : Value} (h : GivesContents given) (context : Context) :
    itemsText context given = .ok given.render := by
  cases given with
  | str text => rfl
  | arr items => rfl
  | obj members => rfl
  | _ => cases h

lemma setItems_of_gives {given : Value} (h : GivesContents given) (context : Context)
    (rest : List Value) (object : Instance) :
    setItems context (given :: rest) object
      = (.ok given.render, withItems object given.render) := by
  simp [setItems, Behavior.atomic, itemsText_of_gives h, bind, Except.bind, pure, Except.pure]

/-- Contents that are given in whatever way have integers for numbers when they are decoded. -/
lemma decode_contents {given value : Value} (h : GivesContents given)
    (hdecode : decode given.render = .ok value) :
    value.IntegersOnly ∧ value.Canonical ∧ value.depth ≤ depthLimit := by
  refine ⟨?_, decode_canonical hdecode, decode_depth hdecode⟩
  cases given with
  | str text => exact h value hdecode
  | arr items => exact decode_encode_unique h.1 h.2 hdecode ▸ h.1
  | obj members => exact decode_encode_unique h.1 h.2 hdecode ▸ h.1
  | _ => cases h

end ObjectMemory.Message
