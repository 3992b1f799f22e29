import ObjectMemory.Collection.Sequence
import ObjectMemory.Proofs.Json.Indices

/-!
# Addressing in words of 64 bits

The operations of a sequence find a position among the integers and look it up as one that may not
be there.  A machine has words: it adds two of them and hopes for the sum, and it takes the element
at a position without a question.  Here the operations are told a second time as it does them, with
a fault where a sum is no word and where a position is past the end.

As long as sequences have fewer than `2 ^ 63` elements there is never a fault, because only a
negative index is added to the length (`addWords_length`), and a position that is used was compared
with the length.  What the operations do to the elements is said without either of the two, by
taking the sequence apart at the element (`Meets`).

* `Fault`, `addWords`, `Sequence.positionInWords?`, `Sequence.atElement` — positions in words, and
  the elements there;
* `Access`, `Access.perform`, `Access.performInWords` — operations, among the integers and in words;
* `Addresses`, `Meets` — what an index addresses, and what an operation has to do;
* `performInWords_eq`, `perform_meets` — one operation;
* **`accesses_in_words`** — operations in a row, with indices from anywhere.
-/

namespace ObjectMemory.Collection

open Json

/-! ## Words -/

/-- What ends a machine of words. -/
inductive Fault where
  /-- A sum is no word. -/
  | overflow
  /-- There is no element at a position. -/
  | outOfBounds
  deriving DecidableEq, Repr

/-- The sum of two words, if it is one. -/
def addWords (a b : Int64) : Except Fault Int64 :=
  if IsSigned (a.toInt + b.toInt) then .ok (a + b) else .error .overflow

/-- The element at a position. -/
def elementAt (items : List Value) (position : ℕ) : Except Fault Value :=
  if h : position < items.length then .ok items[position] else .error .outOfBounds

namespace Sequence

/-- An index counted from the front, in words. -/
def fromFront (size : ℕ) (index : Int64) : Except Fault Int64 :=
  if index < 0 then addWords index (Int64.ofNat size) else .ok index

/-- The position that an index addresses among `size` elements, in words. -/
def positionInWords? (size : ℕ) (index : Int64) : Except Fault (Option ℕ) := do
  let position ← fromFront size index
  return if 0 ≤ position ∧ position < Int64.ofNat size then some position.toUInt64.toNat else none

/-- What is done with the element that an index addresses, or without one. -/
def atElement {α : Type} (sequence : Sequence) (index : Int64) (absent : α)
    (present : ℕ → Value → α) : Except Fault α := do
  match ← positionInWords? sequence.size index with
  | some position => return present position (← elementAt sequence.items position)
  | none => return absent

end Sequence

/-! ## Operations -/

/-- An operation on a sequence. -/
inductive Access where
  | get (index : Int64)
  | set (index : Int64) (value : Value)
  | push (value : Value)
  | pop
  | first
  | last
  | remove (index : Int64)

/-- What an operation returns. -/
inductive Reply where
  | element (found : Option Value)
  | written (done : Bool)
  | done

namespace Access

/-- What an operation returns, and the sequence after it. -/
def perform (sequence : Sequence) : Access → Reply × Sequence
  | get index => (.element (sequence.get? index), sequence)
  | set index value =>
    match sequence.set? index value with
    | some after => (.written true, after)
    | none => (.written false, sequence)
  | push value => (.done, sequence.push value)
  | pop => (.element sequence.pop.1, sequence.pop.2)
  | first => (.element sequence.first?, sequence)
  | last => (.element sequence.last?, sequence)
  | remove index =>
    match sequence.remove? index with
    | some (value, after) => (.element (some value), after)
    | none => (.element none, sequence)

/-- The same in words. -/
def performInWords (sequence : Sequence) : Access → Except Fault (Reply × Sequence)
  | get index =>
    sequence.atElement index (.element none, sequence) fun _ value =>
      (.element (some value), sequence)
  | set index value =>
    sequence.atElement index (.written false, sequence) fun position _ =>
      (.written true, ⟨sequence.items.set position value⟩)
  | remove index =>
    sequence.atElement index (.element none, sequence) fun position value =>
      (.element (some value), ⟨sequence.items.eraseIdx position⟩)
  | access => .ok (access.perform sequence)

/-- What operations in a row return, and the sequence after them. -/
def performAll : List Access → Sequence → List Reply × Sequence
  | [], sequence => ([], sequence)
  | access :: rest, sequence =>
    let (reply, sequence) := access.perform sequence
    let (replies, sequence) := performAll rest sequence
    (reply :: replies, sequence)

/-- The same in words. -/
def performAllInWords : List Access → Sequence → Except Fault (List Reply × Sequence)
  | [], sequence => return ([], sequence)
  | access :: rest, sequence => do
    let (reply, sequence) ← access.performInWords sequence
    let (replies, sequence) ← performAllInWords rest sequence
    return (reply :: replies, sequence)

end Access

/-! ## What is asked of them -/

/-- An index addresses a position among `size` elements: counted from the front, or from the end if
it is negative. -/
def Addresses (size : ℕ) (index : ℤ) (position : ℕ) : Prop :=
  (0 ≤ index ∧ index < size ∧ (position : ℤ) = index) ∨
    (-size ≤ index ∧ index < 0 ∧ (position : ℤ) = size + index)

/-- An operation on elements returns the reply and leaves the elements that it is asked for. -/
inductive Meets : Access → List Value → Reply → List Value → Prop
  | got {front back : List Value} {value : Value} {index : Int64}
    (h : Addresses (front ++ value :: back).length index.toInt front.length) :
    Meets (.get index) (front ++ value :: back) (.element (some value)) (front ++ value :: back)
  | unfound {items : List Value} {index : Int64}
    (h : ∀ position, ¬ Addresses items.length index.toInt position) :
    Meets (.get index) items (.element none) items
  | replaced {front back : List Value} {old value : Value} {index : Int64}
    (h : Addresses (front ++ old :: back).length index.toInt front.length) :
    Meets (.set index value) (front ++ old :: back) (.written true) (front ++ value :: back)
  | unwritten {items : List Value} {index : Int64} {value : Value}
    (h : ∀ position, ¬ Addresses items.length index.toInt position) :
    Meets (.set index value) items (.written false) items
  | removed {front back : List Value} {value : Value} {index : Int64}
    (h : Addresses (front ++ value :: back).length index.toInt front.length) :
    Meets (.remove index) (front ++ value :: back) (.element (some value)) (front ++ back)
  | unremoved {items : List Value} {index : Int64}
    (h : ∀ position, ¬ Addresses items.length index.toInt position) :
    Meets (.remove index) items (.element none) items
  | pushed {items : List Value} {value : Value} : Meets (.push value) items .done (items ++ [value])
  | popped {items : List Value} {value : Value} :
    Meets .pop (items ++ [value]) (.element (some value)) items
  | unpopped : Meets .pop [] (.element none) []
  | first {items : List Value} : Meets .first items (.element items.head?) items
  | last {items : List Value} : Meets .last items (.element items.getLast?) items

/-- Operations in a row do what is asked of each of them. -/
inductive MeetsAll : List Access → List Value → List Reply → List Value → Prop
  | nil {items : List Value} : MeetsAll [] items [] items
  | cons {access : Access} {reply : Reply} {rest : List Access} {replies : List Reply}
    {items next after : List Value} (here : Meets access items reply next)
    (there : MeetsAll rest next replies after) :
    MeetsAll (access :: rest) items (reply :: replies) after

/-! ## Positions -/

section Positions

variable {size : ℕ} {index : Int64} {position : ℕ}

lemma position?_eq_some_iff :
    Sequence.position? size index = some position ↔ Addresses size index.toInt position := by
  rw [Sequence.position?, Addresses]
  generalize index.toInt = i
  split_ifs with hneg hinside hinside
  · simp only [Option.some.injEq]
    omega
  · simp only [false_iff]
    omega
  · simp only [Option.some.injEq]
    omega
  · simp only [false_iff]
    omega

lemma position?_eq_none_iff :
    Sequence.position? size index = none ↔ ∀ p, ¬ Addresses size index.toInt p := by
  simp only [Option.eq_none_iff_forall_ne_some, ne_eq, position?_eq_some_iff]

lemma Addresses.lt {i : ℤ} (h : Addresses size i position) : position < size := by
  rw [Addresses] at h
  omega

/-- A negative index and a length have a sum. -/
lemma addWords_length (h : size < 2 ^ 63) (hneg : index.toInt < 0) :
    ∃ sum, addWords index (Int64.ofNat size) = .ok sum ∧ sum.toInt = index.toInt + size := by
  have hlength : (Int64.ofNat size).toInt = size := Int64.toInt_ofNat_of_lt h
  have hlower := index.le_toInt
  have hsigned : IsSigned (index.toInt + (Int64.ofNat size).toInt) := by
    rw [IsSigned, hlength]
    omega
  refine ⟨_, if_pos hsigned, ?_⟩
  rw [Int64.toInt_add, hlength, Int.bmod_eq_of_le (by omega) (by omega)]

lemma fromFront_eq (h : size < 2 ^ 63) (index : Int64) :
    ∃ front, Sequence.fromFront size index = .ok front ∧
      front.toInt = if index.toInt < 0 then index.toInt + size else index.toInt := by
  rw [Sequence.fromFront]
  simp only [Int64.lt_iff_toInt_lt, Int64.toInt_zero]
  split_ifs with hneg
  · exact addWords_length h hneg
  · exact ⟨index, rfl, rfl⟩

/-- The position in words is the one among the integers. -/
lemma positionInWords?_eq (h : size < 2 ^ 63) (index : Int64) :
    Sequence.positionInWords? size index = .ok (Sequence.position? size index) := by
  have hlength : (Int64.ofNat size).toInt = size := Int64.toInt_ofNat_of_lt h
  obtain ⟨front, hfront, hvalue⟩ := fromFront_eq h index
  simp only [Sequence.positionInWords?, Sequence.position?, hfront, ← hvalue, bind, Except.bind,
    Int64.le_iff_toInt_le, Int64.lt_iff_toInt_lt, hlength, Int64.toInt_zero]
  split_ifs with hinside
  · have hword : front.toUInt64.toNat = front.toInt.toNat :=
      Int64.toNat_toUInt64_of_le (Int64.le_iff_toInt_le.mpr hinside.1)
    rw [hword]
    rfl
  · rfl

/-- An integer as a JSON number is an index that addresses what the integer does: one past the
words is past the end, and so is the index that it is. -/
lemma addresses_clamp (h : size < 2 ^ 63) {n : ℤ}
    (inRange : -0x8000000000000000 ≤ n ∧ n < 0x10000000000000000) (position : ℕ) :
    Addresses size (clamp n).toInt position ↔ Addresses size n position := by
  rw [toInt_clamp, Addresses, Addresses]
  omega

end Positions

/-! ## One operation -/

section Step

variable {sequence : Sequence}

lemma atElement_of_none {α : Type} (h : sequence.size < 2 ^ 63) {index : Int64}
    (hp : Sequence.position? sequence.size index = none) (absent : α) (present : ℕ → Value → α) :
    sequence.atElement index absent present = .ok absent := by
  simp only [Sequence.atElement, positionInWords?_eq h, hp, bind, Except.bind]
  rfl

lemma atElement_of_some {α : Type} (h : sequence.size < 2 ^ 63) {index : Int64} {position : ℕ}
    (hp : Sequence.position? sequence.size index = some position) {value : Value}
    (hvalue : sequence.items[position]? = some value) (absent : α) (present : ℕ → Value → α) :
    sequence.atElement index absent present = .ok (present position value) := by
  obtain ⟨hlt, rfl⟩ := List.getElem?_eq_some_iff.mp hvalue
  simp only [Sequence.atElement, positionInWords?_eq h, hp, bind, Except.bind, elementAt, dif_pos hlt]
  rfl

/-- **One operation has no fault** on a sequence whose length is a word. -/
lemma performInWords_eq (h : sequence.size < 2 ^ 63) (access : Access) :
    access.performInWords sequence = .ok (access.perform sequence) := by
  have hfound : ∀ {index position}, Sequence.position? sequence.size index = some position →
      ∃ value, sequence.items[position]? = some value := fun hp =>
    ⟨_, List.getElem?_eq_getElem (position?_eq_some_iff.mp hp).lt⟩
  cases access with
  | get index =>
      rw [Access.performInWords, Access.perform, Sequence.get?]
      cases hp : Sequence.position? sequence.size index with
      | none => exact atElement_of_none h hp ..
      | some position =>
          obtain ⟨value, hvalue⟩ := hfound hp
          rw [atElement_of_some h hp hvalue, Option.bind_some, hvalue]
  | set index value =>
      rw [Access.performInWords, Access.perform, Sequence.set?]
      cases hp : Sequence.position? sequence.size index with
      | none => exact atElement_of_none h hp ..
      | some position =>
          obtain ⟨old, hold⟩ := hfound hp
          exact atElement_of_some h hp hold ..
  | remove index =>
      rw [Access.performInWords, Access.perform, Sequence.remove?]
      cases hp : Sequence.position? sequence.size index with
      | none => exact atElement_of_none h hp ..
      | some position =>
          obtain ⟨value, hvalue⟩ := hfound hp
          simp only [atElement_of_some h hp hvalue, bind, Option.bind, hvalue]
          rfl
  | push value | pop | first | last => rfl

/-- A list taken apart at an element. -/
lemma exists_split {items : List Value} {position : ℕ} (h : position < items.length) :
    ∃ front value back, items = front ++ value :: back ∧ front.length = position :=
  ⟨items.take position, items[position], items.drop (position + 1), by simp,
    List.length_take_of_le h.le⟩

/-- **One operation does what is asked of it**, whatever the length. -/
lemma perform_meets (access : Access) (items : List Value) :
    Meets access items (access.perform ⟨items⟩).1 (access.perform ⟨items⟩).2.items := by
  cases access with
  | get index =>
      rw [Access.perform, Sequence.get?]
      cases hp : Sequence.position? (Sequence.mk items).size index with
      | none => exact .unfound (position?_eq_none_iff.mp hp)
      | some position =>
          have h := position?_eq_some_iff.mp hp
          obtain ⟨front, value, back, rfl, rfl⟩ := exists_split h.lt
          have hfound : (front ++ value :: back)[front.length]? = some value := by simp
          rw [Option.bind_some, hfound]
          exact .got h
  | set index value =>
      rw [Access.perform, Sequence.set?]
      cases hp : Sequence.position? (Sequence.mk items).size index with
      | none => exact .unwritten (position?_eq_none_iff.mp hp)
      | some position =>
          have h := position?_eq_some_iff.mp hp
          obtain ⟨front, old, back, rfl, rfl⟩ := exists_split h.lt
          have hwritten : (front ++ old :: back).set front.length value = front ++ value :: back := by
            simp
          simp only [Option.map_some, hwritten]
          exact .replaced h
  | remove index =>
      rw [Access.perform, Sequence.remove?]
      cases hp : Sequence.position? (Sequence.mk items).size index with
      | none => exact .unremoved (position?_eq_none_iff.mp hp)
      | some position =>
          have h := position?_eq_some_iff.mp hp
          obtain ⟨front, value, back, rfl, rfl⟩ := exists_split h.lt
          have hfound : (front ++ value :: back)[front.length]? = some value := by simp
          have hrest : (front ++ value :: back).eraseIdx front.length = front ++ back := by
            simp [List.eraseIdx_append_of_length_le]
          simp only [bind, Option.bind, hfound, hrest]
          exact .removed h
  | push value => exact .pushed
  | pop =>
      rcases List.eq_nil_or_concat' items with rfl | ⟨front, value, rfl⟩
      · exact .unpopped
      · rw [Access.perform, Sequence.pop, Sequence.last?]
        simp only [List.getLast?_concat, List.dropLast_concat]
        exact .popped
  | first => exact .first
  | last => exact .last

end Step

/-! ## Operations in a row -/

lemma performAll_meets (accesses : List Access) (items : List Value) :
    MeetsAll accesses items (Access.performAll accesses ⟨items⟩).1
      (Access.performAll accesses ⟨items⟩).2.items := by
  induction accesses generalizing items with
  | nil => exact .nil
  | cons access rest ih => exact .cons (perform_meets access items) (ih _)

/-- Operations in a row have no fault if each of them finds a sequence whose length is a word. -/
lemma performAllInWords_eq {accesses : List Access} {start : Sequence}
    (fits : ∀ done rest, accesses = done ++ rest →
      (Access.performAll done start).2.size < 2 ^ 63) :
    Access.performAllInWords accesses start = .ok (Access.performAll accesses start) := by
  induction accesses generalizing start with
  | nil => rfl
  | cons access rest ih =>
      have hhere : access.performInWords start = .ok (access.perform start) :=
        performInWords_eq (fits [] (access :: rest) rfl) access
      have hthere : Access.performAllInWords rest (access.perform start).2
          = .ok (Access.performAll rest (access.perform start).2) :=
        ih fun done more hrest => fits (access :: done) more (by rw [hrest]; rfl)
      rw [Access.performAllInWords, hhere]
      simp only [bind, Except.bind, hthere]
      rfl

/-- **Operations on a sequence never have a fault** as long as its length is a word, whatever the
indices.  Each does what is asked of it, an index addresses what it is said to, and an integer that
is sent as an index addresses what the integer itself would. -/
theorem accesses_in_words (accesses : List Access) (start : Sequence)
    (fits : ∀ done rest, accesses = done ++ rest →
      (Access.performAll done start).2.size < 2 ^ 63) :
    Access.performAllInWords accesses start = .ok (Access.performAll accesses start) ∧
    MeetsAll accesses start.items (Access.performAll accesses start).1
      (Access.performAll accesses start).2.items ∧
    ∀ done rest, accesses = done ++ rest →
      let size := (Access.performAll done start).2.size
      (∀ index, Sequence.positionInWords? size index = .ok (Sequence.position? size index) ∧
        ∀ position, Sequence.position? size index = some position ↔
          Addresses size index.toInt position) ∧
      ∀ n inRange, ∃ index, (Value.num (.integer n inRange)).index? = some index ∧
        ∀ position, Sequence.position? size index = some position ↔ Addresses size n position := by
  refine ⟨performAllInWords_eq fits, performAll_meets accesses start.items,
    fun done rest hsplit => ⟨fun index => ⟨?_, fun position => position?_eq_some_iff⟩,
      fun n inRange => ⟨clamp n, rfl, fun position => ?_⟩⟩⟩
  · exact positionInWords?_eq (fits done rest hsplit) index
  · rw [position?_eq_some_iff, addresses_clamp (fits done rest hsplit) inRange]

/-- Operations with the least and the greatest index, at both ends and past them. -/
def extremeAccesses : List Access :=
  [.set Int64.minValue .null, .push (.str "b"), .get Int64.maxValue, .remove (-2), .get (-1),
    .set 0 (.bool true), .remove Int64.minValue, .pop, .pop, .remove (-1)]

theorem accesses_in_words_extremes :
    (∀ done rest, extremeAccesses = done ++ rest →
      (Access.performAll done ⟨[.str "a"]⟩).2.size < 2 ^ 63) ∧
    Access.performAllInWords extremeAccesses ⟨[.str "a"]⟩
      = .ok ([.written false, .done, .element none, .element (some (.str "a")),
          .element (some (.str "b")), .written true, .element none,
          .element (some (.bool true)), .element none, .element none], .empty) := by
  have hfits : ∀ done ∈ extremeAccesses.inits,
      (Access.performAll done ⟨[.str "a"]⟩).2.size < 2 ^ 63 := by
    decide +kernel
  have hsplits : ∀ done rest, extremeAccesses = done ++ rest →
      (Access.performAll done ⟨[.str "a"]⟩).2.size < 2 ^ 63 :=
    fun done rest hsplit => hfits done (List.mem_inits _ _ |>.mpr ⟨rest, hsplit.symm⟩)
  refine ⟨hsplits, (accesses_in_words extremeAccesses ⟨[.str "a"]⟩ hsplits).1.trans ?_⟩
  rfl

end ObjectMemory.Collection
