import ObjectMemory.Store.Error

/-!
# The store of instances

Instances by id, over a document store that keeps their documents.  What was used is cached, and
what is changed is changed in the cache first: an entry is *dirty* while it holds changes that were
not written.  Entries also know when they were brought in line with the document store, and when
they were last used.

Time is a counter of the store's own that only its user advances (`tick`).

* `Entry`, `Store` — the types; `Store.new` — a store with an empty cache;
* `isCached`, `isDirty`, `inspect`, `dirtyIds`, `stats` — what is cached; nothing of this counts as
  a use;
* `markDirty`, `evict`, `clear` — flags and entries, without the document store.
-/

namespace ObjectMemory

structure Entry where
  object : Instance
  /-- Whether there are changes that were not written. -/
  dirty : Bool
  /-- When the entry was last brought in line with the document store. -/
  loadedAt : Nat
  /-- When the entry was last used. -/
  accessedAt : Nat

/-- The entry of an instance that is as the document store has it. -/
def Entry.clean (object : Instance) (moment : Nat) : Entry :=
  { object := object.unmodified, dirty := false, loadedAt := moment, accessedAt := moment }

/-- The entry after a use. -/
def Entry.touch (entry : Entry) (moment : Nat) : Entry := { entry with accessedAt := moment }

/-- Instances by id over a document store. -/
structure Store (β : Type) where
  backend : β
  cache : SortedMap String Entry
  moment : Nat

/-- How many entries there are, and how many of them are dirty. -/
structure CacheStats where
  entries : Nat
  dirty : Nat
  deriving DecidableEq, Repr

namespace Store

variable {β : Type}

def new (backend : β) : Store β := ⟨backend, .empty, 0⟩

def tick (store : Store β) : Store β := { store with moment := store.moment + 1 }

/-- The store with an entry of an id. -/
def remember (store : Store β) (id : String) (entry : Entry) : Store β :=
  { store with cache := store.cache.insert id entry }

/-! ## What is cached -/

def inspect (store : Store β) (id : String) : Option Entry := store.cache.get? id

def isCached (store : Store β) (id : String) : Bool := store.cache.contains id

/-- Whether an id is cached with changes that were not written. -/
def isDirty (store : Store β) (id : String) : Bool :=
  match store.cache.get? id with
  | some entry => entry.dirty
  | none => false

/-- The ids of the dirty entries, ascending. -/
def dirtyIds (store : Store β) : List String :=
  (store.cache.entries.filter fun entry => entry.2.dirty).map Prod.fst

def stats (store : Store β) : CacheStats :=
  { entries := store.cache.size
    dirty := store.cache.values.countP Entry.dirty }

/-! ## Flags and entries -/

/-- Makes the entry of an id dirty; whether there is one. -/
def markDirty (store : Store β) (id : String) : Bool × Store β :=
  match store.cache.get? id with
  | some entry => (true, store.remember id { entry with dirty := true })
  | none => (false, store)

/-- Drops the entry of an id with all its changes; whether there was one. -/
def evict (store : Store β) (id : String) : Bool × Store β :=
  (store.isCached id, { store with cache := store.cache.erase id })

def clear (store : Store β) : Store β := { store with cache := .empty }

end Store

end ObjectMemory
