import ObjectMemory.Proofs.Json.Levels

/-!
# Members as they are written

An object keeps one value of a key, but the text of an object may have a key any number of times,
and its members in any order.  What a reader makes of the members as they are written is told by the
last one of each key: the object has its value, and no other (`get?_ofMembers`).

* `writtenMembers?`, `lastMember?` — the members of a text, and the last one of a key;
* **`decodeObject_eq_ok_iff_members`** — decoding a text that has members, and one that has none.
-/

namespace ObjectMemory.Json

/-- The members of a text that is one object and blanks, in the order in which they are written. -/
def writtenMembers? (text : String) : Option (List (String × Value)) :=
  match skipBlanks text.toList with
  | '\x7b' :: inside =>
    (readObject readString (readNested valueBuilder (depthLimit - 1)) inside
      >>= complete).toOption
  | _ => none

/-- The value of the last member of a key: the first one from the end. -/
def lastMember? (key : String) (members : List (String × Value)) : Option Value :=
  members.reverse.lookup key

variable {text : String} {data : Object}

lemma get?_ofMembers (members : List (String × Value)) (key : String) :
    (SortedMap.ofList members : Object).get? key = lastMember? key members :=
  SortedMap.get?_ofList members key

/-! ## Reading members -/

/-- What was read is followed by blanks only, or it is not, whatever is made of it. -/
lemma complete_map {α β : Type} (f : α → β) (read : α) (rest : List Char) :
    complete (f read, rest) = (complete (read, rest)).map f := by
  rw [complete, complete]
  cases skipBlanks rest <;> rfl

lemma readDocument_of_brace {chars inside : List Char} (h : skipBlanks chars = '\x7b' :: inside) :
    readDocument chars >>= complete
      = (readObject readString (readNested valueBuilder (depthLimit - 1)) inside >>= complete).map
          fun members => (.ofList members : Object) := by
  simp only [readDocument, h]
  cases readObject readString (readNested valueBuilder (depthLimit - 1)) inside with
  | error fault => rfl
  | ok front => exact complete_map (fun members => (.ofList members : Object)) front.1 front.2

lemma readDocument_of_not_brace {chars : List Char}
    (h : ∀ inside, skipBlanks chars ≠ '\x7b' :: inside) :
    ∃ fault, readDocument chars = .error fault := by
  rw [readDocument]
  split
  · next inside hopen => exact absurd hopen (h inside)
  · exact ⟨_, rfl⟩

/-- **A text is decoded as the object of its members**, and not at all if it has none. -/
theorem decodeObject_eq_ok_iff_members :
    decodeObject text = .ok data ↔
      ∃ members, writtenMembers? text = some members ∧ data = .ofList members := by
  rw [decodeObject, writtenMembers?]
  split
  · next inside hopen =>
      rw [readDocument_of_brace hopen]
      cases readObject readString (readNested valueBuilder (depthLimit - 1)) inside
        >>= complete with
      | error fault => simp [Except.map, Except.mapError, Except.toOption]
      | ok members => simp [Except.map, Except.mapError, Except.toOption, eq_comm]
  · next hother =>
      obtain ⟨fault, hfault⟩ := readDocument_of_not_brace hother
      rw [hfault]
      simp [bind, Except.bind, Except.mapError]

end ObjectMemory.Json
