import Mathlib
import ObjectMemory.Message.Builtin
import ObjectMemory.Proofs.Text.Bytes
import ObjectMemory.SortedMap.Lemmas

/-!
# What a registry finds

A registry is what was done to it: behaviors were registered, replaced and removed, in some order.
What it finds for a message depends on two signatures, that of the class and that of every class,
and either may have come and gone any number of times.  But for one signature only the last change
about it counts (`Live`), so the whole table is known from the histories of its signatures, and
every question to the registry is a question about them.

* `Change`, `ofHistory`, `exists_ofHistory` — changes, and registries as their outcome;
* `Live`, `Bound` — what the last change about a signature left;
* `live_concat`, `get?_perform`, **`get?_ofHistory_iff`** — one more change, and all of them;
* `Resolves`, `lookup_ofHistory_iff`, `lookup_eq_none_iff` — what is found for a class;
* `Dispatch.ofAnswer`, `dispatchAs_of_some`, `dispatchAs_of_none` — what becomes of a message;
* `list_ascending` — the order in which signatures are listed, by bytes;
* **`lookup_follows_history`** — all that can be asked of a registry.
-/

namespace ObjectMemory.Message

open Json

/-- What becomes of a message that has a behavior. -/
def Dispatch.ofAnswer : Except Error String → Dispatch
  | .ok answer => .handled answer
  | .error error => .failed error

lemma Dispatch.ofAnswer_ne (answer : Except Error String) : ofAnswer answer ≠ .notHandled := by
  cases answer <;> exact fun h => by cases h

namespace Registry

/-! ## Histories -/

/-- What may be done to a registry. -/
inductive Change where
  | register (signature : Signature) (behavior : Behavior)
  | unregister (signature : Signature)

/-- The signature that a change is about. -/
def Change.signature : Change → Signature
  | register signature _ => signature
  | unregister signature => signature

def Change.perform (registry : Registry) : Change → Registry
  | register signature behavior =>
    registry.register signature.className signature.selector behavior
  | unregister signature => (registry.unregister signature.className signature.selector).2

/-- The registry after a history of changes. -/
def ofHistory (history : List Change) : Registry := history.foldl Change.perform empty

/-- Every registry is what some history leaves. -/
lemma exists_ofHistory (registry : Registry) : ∃ history, ofHistory history = registry := by
  refine ⟨registry.behaviors.entries.map fun entry => .register entry.1 entry.2, ?_⟩
  have hfold : ∀ (entries : List (Signature × Behavior)) (before : Registry),
      (entries.map fun entry => Change.register entry.1 entry.2).foldl Change.perform before
        = ⟨entries.foldl (fun map entry => map.insert entry.1 entry.2) before.behaviors⟩ := by
    intro entries
    induction entries with
    | nil => exact fun _ => rfl
    | cons entry rest ih => exact fun before => ih _
  rw [ofHistory, hfold]
  exact congrArg Registry.mk (SortedMap.ofList_entries registry.behaviors)

/-- The last change about a signature registered a behavior. -/
def Live (history : List Change) (signature : Signature) (behavior : Behavior) : Prop :=
  ∃ earlier later, history = earlier ++ .register signature behavior :: later ∧
    ∀ change ∈ later, change.signature ≠ signature

/-- The last change about a signature registered something. -/
def Bound (history : List Change) (signature : Signature) : Prop :=
  ∃ behavior, Live history signature behavior

variable {history : List Change} {change : Change} {signature : Signature} {behavior : Behavior}

/-- The last change registered the behavior, or it was about another signature and changed nothing
about this one. -/
lemma live_concat : Live (history ++ [change]) signature behavior ↔
    change = .register signature behavior ∨
      Live history signature behavior ∧ change.signature ≠ signature := by
  constructor
  · rintro ⟨earlier, later, heq, hlater⟩
    rcases List.eq_nil_or_concat' later with rfl | ⟨front, last, rfl⟩
    · obtain ⟨-, rfl⟩ := List.append_singleton_inj.mp heq
      exact .inl rfl
    · rw [← List.cons_append, ← List.append_assoc] at heq
      obtain ⟨rfl, rfl⟩ := List.append_singleton_inj.mp heq
      exact .inr ⟨⟨earlier, front, rfl, fun c hc => hlater c (List.mem_append_left _ hc)⟩,
        hlater change (by simp)⟩
  · rintro (rfl | ⟨⟨earlier, later, rfl, hlater⟩, hother⟩)
    · exact ⟨history, [], rfl, fun c hc => by cases hc⟩
    · refine ⟨earlier, later ++ [change], by simp, fun c hc => ?_⟩
      rcases List.mem_append.mp hc with hc | hc
      · exact hlater c hc
      · exact List.mem_singleton.mp hc ▸ hother

/-- A change is about its own signature, which then has what was registered, if anything was. -/
lemma get?_perform (registry : Registry) :
    (change.perform registry).behaviors.get? signature = some behavior ↔
      change = .register signature behavior ∨
        registry.behaviors.get? signature = some behavior ∧ change.signature ≠ signature := by
  cases change with
  | register own registered =>
      show (registry.behaviors.insert own registered).get? signature = _ ↔ _
      rcases eq_or_ne own signature with rfl | hne
      · simp [SortedMap.get?_insert_self, Change.signature]
      · simp [SortedMap.get?_insert_of_ne hne.symm, Change.signature, hne]
  | unregister own =>
      show (registry.behaviors.erase own).get? signature = _ ↔ _
      rcases eq_or_ne own signature with rfl | hne
      · simp [SortedMap.get?_erase_self, Change.signature]
      · simp [SortedMap.get?_erase_of_ne hne.symm, Change.signature, hne]

/-- **A registry has for a signature what the last change about it left.** -/
theorem get?_ofHistory_iff :
    (ofHistory history).behaviors.get? signature = some behavior ↔
      Live history signature behavior := by
  induction history using List.reverseRecOn with
  | nil =>
      have hempty : (ofHistory []).behaviors.get? signature = none := rfl
      rw [hempty]
      constructor
      · intro h
        cases h
      · rintro ⟨earlier, later, heq, -⟩
        simp at heq
  | append_singleton history change ih =>
      rw [ofHistory, List.foldl_concat, get?_perform, live_concat, ← ih]
      rfl

lemma contains_ofHistory_iff {className selector : String} :
    (ofHistory history).contains className selector = true ↔
      Bound history ⟨className, selector⟩ := by
  rw [contains, SortedMap.contains, Option.isSome_iff_exists]
  exact exists_congr fun _ => get?_ofHistory_iff

/-! ## Lookup -/

/-- A behavior is live for a class, or it is for every class and the class has none. -/
def Resolves (history : List Change) (className selector : String) (behavior : Behavior) : Prop :=
  Live history ⟨className, selector⟩ behavior ∨
    ¬ Bound history ⟨className, selector⟩ ∧ Live history ⟨wildcard, selector⟩ behavior

lemma lookup_ofHistory_iff {className selector : String} :
    (ofHistory history).lookup className selector = some behavior ↔
      Resolves history className selector behavior := by
  have hnone : (ofHistory history).behaviors.get? ⟨className, selector⟩ = none ↔
      ¬ Bound history ⟨className, selector⟩ := by
    rw [← contains_ofHistory_iff, contains, SortedMap.contains, Option.not_isSome_iff_eq_none]
  rw [lookup, Option.orElse_eq_some, get?_ofHistory_iff, hnone, get?_ofHistory_iff]
  rfl

variable {registry : Registry} {className selector : String}

/-- There is a behavior for a class when there is one of its own, or one of every class. -/
lemma lookup_eq_none_iff :
    registry.lookup className selector = none ↔
      registry.contains className selector = false ∧
        registry.contains wildcard selector = false := by
  simp [lookup, contains, SortedMap.contains]

/-! ## Messages -/

lemma dispatchAs_of_none (h : registry.lookup className selector = none) (arguments : List Value)
    (object : Instance) :
    registry.dispatchAs className selector arguments object = (.notHandled, object) := by
  rw [dispatchAs, h]

lemma dispatchAs_of_some (h : registry.lookup className selector = some behavior)
    (arguments : List Value) (object : Instance) :
    registry.dispatchAs className selector arguments object
      = (behavior ⟨className, selector, object.id⟩ arguments object).map Dispatch.ofAnswer id := by
  simp only [dispatchAs, h]
  rcases behavior ⟨className, selector, object.id⟩ arguments object with ⟨error | answer, after⟩ <;>
    rfl

/-- Nothing handles a message exactly if nothing is found for it. -/
lemma dispatchAs_eq_notHandled_iff {arguments : List Value} {object : Instance} :
    (registry.dispatchAs className selector arguments object).1 = .notHandled ↔
      registry.lookup className selector = none := by
  cases hfound : registry.lookup className selector with
  | none => simp [dispatchAs_of_none hfound]
  | some behavior => simp [dispatchAs_of_some hfound, Dispatch.ofAnswer_ne]

lemma dispatch_of_none {object : Instance}
    (h : registry.lookup object.className selector = none) (arguments : List Value) :
    registry.dispatch selector arguments object = (.notHandled, object) :=
  dispatchAs_of_none h arguments object

lemma dispatch_of_some {object : Instance}
    (h : registry.lookup object.className selector = some behavior) (arguments : List Value) :
    registry.dispatch selector arguments object
      = (behavior ⟨object.className, selector, object.id⟩ arguments object).map
          Dispatch.ofAnswer id :=
  dispatchAs_of_some h arguments object

/-! ## Lists -/

/-- The order in which signatures are listed: by the bytes of the class, then of the selector. -/
def Precedes (a b : Signature) : Prop :=
  Text.bytes a.className < Text.bytes b.className ∨
    a.className = b.className ∧ Text.bytes a.selector < Text.bytes b.selector

lemma precedes_of_compare {a b : Signature} (h : compare a b = .lt) : Precedes a b := by
  have hlex : (compare a.className b.className).then (compare a.selector b.selector) = .lt := h
  rw [Ordering.then_eq_lt, compare_lt_iff_lt, compare_eq_iff_eq, compare_lt_iff_lt] at hlex
  rwa [Precedes, Text.bytes_lt_iff, Text.bytes_lt_iff]

lemma list_ascending (registry : Registry) : registry.list.Pairwise Precedes :=
  registry.behaviors.keys_pairwise.imp precedes_of_compare

/-! ## All questions -/

/-- **A registry answers by its history.**  After any changes, it finds for a message the behavior
that is live for the class, or else the one for every class, or nothing.  What it has of a class,
and whether there is anything to remove, is what is live for just that class; and what it lists, in
order, are the signatures that are.  A message is not handled exactly if nothing is live for it, and
then it leaves the instance alone; anything else is what the one behavior does, which is told of the
class that it was found for, and whose failures are failures. -/
theorem lookup_follows_history (history : List Change) (className selector : String) :
    let registry := ofHistory history
    (∀ behavior, registry.lookup className selector = some behavior ↔
      Resolves history className selector behavior) ∧
    (registry.lookup className selector = none ↔
      ¬ Bound history ⟨className, selector⟩ ∧ ¬ Bound history ⟨wildcard, selector⟩) ∧
    (registry.contains className selector = true ↔ Bound history ⟨className, selector⟩) ∧
    ((registry.unregister className selector).1 = true ↔ Bound history ⟨className, selector⟩) ∧
    registry.list.Pairwise Precedes ∧
    (∀ signature, signature ∈ registry.list ↔ Bound history signature) ∧
    registry.size = registry.list.length ∧
    ∀ arguments object,
      ((registry.dispatchAs className selector arguments object).1 = .notHandled ↔
        ¬ Bound history ⟨className, selector⟩ ∧ ¬ Bound history ⟨wildcard, selector⟩) ∧
      (¬ Bound history ⟨className, selector⟩ → ¬ Bound history ⟨wildcard, selector⟩ →
        registry.dispatchAs className selector arguments object = (.notHandled, object)) ∧
      (∀ behavior, Resolves history className selector behavior →
        registry.dispatchAs className selector arguments object
          = (behavior ⟨className, selector, object.id⟩ arguments object).map
              Dispatch.ofAnswer id) ∧
      registry.dispatch selector arguments object
        = registry.dispatchAs object.className selector arguments object := by
  intro registry
  have hnone : registry.lookup className selector = none ↔
      ¬ Bound history ⟨className, selector⟩ ∧ ¬ Bound history ⟨wildcard, selector⟩ := by
    rw [lookup_eq_none_iff, ← Bool.not_eq_true, ← Bool.not_eq_true, contains_ofHistory_iff,
      contains_ofHistory_iff]
  refine ⟨fun _ => lookup_ofHistory_iff, hnone, contains_ofHistory_iff, contains_ofHistory_iff,
    list_ascending _, fun signature => ?_, (List.length_map _).symm, fun arguments object =>
    ⟨dispatchAs_eq_notHandled_iff.trans hnone, fun hown hevery => ?_, fun behavior h => ?_, rfl⟩⟩
  · rw [list, SortedMap.mem_keys_iff]
    exact contains_ofHistory_iff
  · exact dispatchAs_of_none (hnone.mpr ⟨hown, hevery⟩) arguments object
  · exact dispatchAs_of_some (lookup_ofHistory_iff.mpr h) arguments object

/-- Tells what a behavior is told. -/
def introduction : Behavior := .reading fun context _ _ =>
  .ok (context.className ++ " " ++ context.selector ++ " " ++ context.id)

/-- Fails, of itself. -/
def refusal : Behavior := .reading fun _ _ _ => .error (.failed "locked")

/-- A class gets a behavior of its own, and another in its place, and loses it again. -/
def shadowing : List Change :=
  [.register ⟨wildcard, "describe"⟩ introduction, .register ⟨"Counter", "describe"⟩ refusal,
    .register ⟨"Counter", "describe"⟩ introduction, .unregister ⟨"Counter", "describe"⟩,
    .register ⟨"Counter", "reset"⟩ refusal, .unregister ⟨"Vault", "reset"⟩]

/-- An instance, of a class that nothing is registered for. -/
def tally : Instance := .new "tally_1" "Tally" .epoch .empty

theorem lookup_follows_history_shadowing :
    Resolves shadowing "Counter" "describe" introduction ∧
      Resolves shadowing "Counter" "reset" refusal ∧
      (¬ Bound shadowing ⟨"Vault", "reset"⟩ ∧ ¬ Bound shadowing ⟨wildcard, "reset"⟩) ∧
      (ofHistory shadowing).dispatchAs "Counter" "describe" [] tally
        = (.handled "Counter describe tally_1", tally) ∧
      (ofHistory shadowing).dispatchAs "Counter" "reset" [] tally
        = (.failed (.failed "locked"), tally) ∧
      (ofHistory shadowing).dispatchAs "Vault" "reset" [] tally = (.notHandled, tally) := by
  have hdescribe : Resolves shadowing "Counter" "describe" introduction := by
    refine .inr ⟨?_, [], _, rfl, by simp [Change.signature, wildcard]⟩
    rw [← contains_ofHistory_iff]
    decide +kernel
  have hreset : Resolves shadowing "Counter" "reset" refusal :=
    .inl ⟨shadowing.take 4, [.unregister ⟨"Vault", "reset"⟩], rfl, by simp [Change.signature]⟩
  have hvault : ¬ Bound shadowing ⟨"Vault", "reset"⟩ := by
    rw [← contains_ofHistory_iff]
    decide +kernel
  have hevery : ¬ Bound shadowing ⟨wildcard, "reset"⟩ := by
    rw [← contains_ofHistory_iff]
    decide +kernel
  obtain ⟨-, -, -, -, -, -, -, hmessages⟩ := lookup_follows_history shadowing "Counter" "describe"
  obtain ⟨-, -, hintroduced, -⟩ := hmessages [] tally
  obtain ⟨-, -, -, -, -, -, -, hmessages⟩ := lookup_follows_history shadowing "Counter" "reset"
  obtain ⟨-, -, hrefused, -⟩ := hmessages [] tally
  obtain ⟨-, -, -, -, -, -, -, hmessages⟩ := lookup_follows_history shadowing "Vault" "reset"
  obtain ⟨-, hunhandled, -⟩ := hmessages [] tally
  exact ⟨hdescribe, hreset, ⟨hvault, hevery⟩, hintroduced _ hdescribe, hrefused _ hreset,
    hunhandled hvault hevery⟩

end Registry

end ObjectMemory.Message
