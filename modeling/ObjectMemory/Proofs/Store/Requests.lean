import ObjectMemory.Backend.Memory
import ObjectMemory.Proofs.Instance.StandardFields
import ObjectMemory.Store.Persistence

/-!
# Requests to a store, one after the other

Everything that can be asked of a store of instances, as data, so that statements can be made about
whatever is asked in whatever order.  A request may fail; the store goes on either way, with the
state that it was left in.

* `Request`, `Answer`, `Store.perform` — a request, its answer, and what it does;
* `Store.run` — requests in a row;
* `Meets` — an answer beside that of a reference, which may have none;
* `Event`, `Store.runEvents` — over documents in memory, requests and what happens between them.
-/

namespace ObjectMemory

open Backend Json

/-- An answer is the expected one, if one is expected. -/
def Meets {α : Type} (answer : α) (expected : Option α) : Prop :=
  ∀ a, expected = some a → answer = a

lemma meets_self {α : Type} (answer : α) : Meets answer (some answer) :=
  fun _ h => Option.some.inj h

lemma meets_none {α : Type} (answer : α) : Meets answer none := fun _ h => by cases h

namespace Store

/-- What can be asked of a store of instances. -/
inductive Request where
  | load (id : String)
  | save (id : String) (object : Instance)
  | saveCached (id : String)
  | create (className : String) (defaults : Object) (suffix : String) (now : Timestamp)
  | delete (id : String)
  /-- Edits in a row, which may depend on the instance. -/
  | update (id : String) (edits : Instance → List Edit)
  | setVar (id name : String) (value : Value)
  | removeVar (id name : String)
  | markDirty (id : String)
  | flush
  | clear
  | evict (id : String)
  | findByClass (className : String)
  | tick

/-- What a store of instances answers. -/
inductive Answer where
  | done (outcome : Except Error Unit)
  | found (outcome : Except Error Instance)
  | created (outcome : Except Error (String × Instance))
  | edited (outcome : Except Error (List (Except ReservedField (Option Value))))
  | before (outcome : Except Error (Option Value))
  | counted (outcome : Except Error Nat)
  | listed (outcome : Except Error (List String))
  | whether (b : Bool)
  | nothing

variable {β : Type} [DocumentStore β]

/-- What one operation gave, with its answer as one of all answers. -/
def Answer.wrap {α : Type} (tag : α → Answer) (result : α × Store β) : Answer × Store β :=
  (tag result.1, result.2)

def perform (store : Store β) : Request → Answer × Store β
  | .load id => Answer.wrap .found (store.load id)
  | .save id object => Answer.wrap .done (store.save id object)
  | .saveCached id => Answer.wrap .done (store.saveCached id)
  | .create className defaults suffix now =>
    Answer.wrap .created (store.create className defaults suffix now)
  | .delete id => Answer.wrap .done (store.delete id)
  | .update id edits =>
    Answer.wrap .edited (store.update id fun object => editAll (edits object) object)
  | .setVar id name value => Answer.wrap .before (store.setVar id name value)
  | .removeVar id name => Answer.wrap .before (store.removeVar id name)
  | .markDirty id => Answer.wrap .whether (store.markDirty id)
  | .flush => Answer.wrap .counted store.flush
  | .clear => (.nothing, store.clear)
  | .evict id => Answer.wrap .whether (store.evict id)
  | .findByClass className => (.listed (store.findByClass className), store)
  | .tick => (.nothing, store.tick)

def run (store : Store β) : List Request → List Answer × Store β
  | [] => ([], store)
  | request :: rest =>
    let (answer, store) := store.perform request
    let (answers, store) := store.run rest
    (answer :: answers, store)

/-! ## Over documents in memory -/

/-- What can happen to a store over documents in memory. -/
inductive Event where
  | request (asked : Request)
  /-- The documents take no changes any more, or take them again. -/
  | setReadOnly (readOnly : Bool)

def Event.happen (store : Store Memory) : Event → Store Memory
  | .request asked => (store.perform asked).2
  | .setReadOnly readOnly => { store with backend := store.backend.setReadOnly readOnly }

def runEvents (store : Store Memory) (events : List Event) : Store Memory :=
  events.foldl Event.happen store

end Store

end ObjectMemory
