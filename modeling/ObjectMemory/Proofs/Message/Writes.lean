import ObjectMemory.Proofs.Message.Lists
import ObjectMemory.Proofs.Message.FiniteMaps

/-!
# What a write leaves of a collection

A message that changes a collection writes all of it anew, within one more level of brackets than
its elements have, and the next message decodes what was written.  What cannot be decoded counts as
empty.  Values are accepted as elements whatever their depth.  So a value with fewer levels than a
document may have is added to what is there, which stays; and a value that takes up all levels is
accepted and takes everything with it, itself included.

Doubles are the other thing that a write may change, because a double is not always read from its
digits as the double that it was.  An element that has such a double is still there, and counted,
but may be answered by another text; how it is answered does not change exactly if it is faithful,
as all values without doubles are.

* `Faithful` — a value that is answered by the same text when it was written and read;
* `Contains` — what an instance holds, as a text or inline;
* `Pushed`, `Replaced`, `Entered` — what a write leaves; `Emptied` — that it leaves nothing;
* `push_leaves`, `replace_leaves`, `enter_leaves` — one kind of write;
* **`write_keeps_contents`** — all of them.
-/

namespace ObjectMemory.Message

open Json Builtin Collection

/-! ## Contents -/

/-- A value that is answered by the same text when it was written and read. -/
def Faithful (value : Value) : Prop := value.reread.render = value.render

lemma faithful_of_integersOnly {value : Value} (h : value.IntegersOnly) : Faithful value :=
  congrArg Value.render (reread_of_integersOnly value h)

/-- The contents of an instance: a text that is decoded to them, or they themselves inline. -/
inductive Contains (object : Instance) (contents : Value) : Prop where
  | text (text : String) (holds : items object = some (.str text))
      (decodes : decode text = .ok contents)
  | inline (holds : items object = some contents) (decodable : contents.Decodable)

variable {registry : Registry} {object held : Instance} {list : List Value} {entries : Object}

lemma Contains.decodable {contents : Value} (h : Contains object contents) :
    contents.Decodable := by
  cases h with
  | text spelled holds decodes => exact ⟨_, decodes⟩
  | inline holds decodable => exact decodable

lemma Contains.sequenceOf (h : Contains object (.arr list)) :
    Builtin.sequenceOf object = ⟨list⟩ := by
  cases h with
  | text spelled holds decodes =>
      rw [Builtin.sequenceOf, holds, Sequence.ofVariable, Sequence.ofText, decodes]
      rfl
  | inline holds decodable =>
      rw [Builtin.sequenceOf, holds]
      rfl

lemma Contains.dictionaryOf (h : Contains held (.ofObject entries)) :
    Builtin.dictionaryOf held = ⟨entries⟩ := by
  have hvalue : Dictionary.ofValue (.ofObject entries) = ⟨entries⟩ :=
    dictionaries.ofValue_value ⟨entries⟩
  cases h with
  | text spelled holds decodes =>
      rwa [Builtin.dictionaryOf, holds, Dictionary.ofVariable, Dictionary.ofText, decodes]
  | inline holds decodable =>
      rw [Builtin.dictionaryOf, holds]
      exact hvalue

lemma Contains.items_shallow (h : Contains object (.arr list)) :
    ∀ x ∈ list, x.Canonical ∧ x.depth < depthLimit := fun x hx =>
  ⟨itemsCanonical.mp h.decodable.canonical x hx,
    Nat.lt_succ_of_le (depth_arr_le.mp h.decodable.depth_le x hx)⟩

lemma Contains.members_shallow (h : Contains held (.ofObject entries)) :
    ∀ m ∈ entries.entries, m.2.Canonical ∧ m.2.depth < depthLimit := fun m hm =>
  ⟨membersCanonical.mp h.decodable.canonical.2 m hm,
    Nat.lt_succ_of_le (depth_ofObject_le.mp h.decodable.depth_le m hm)⟩

/-! ## Answers -/

/-- What an instance answers to a message. -/
def Registry.reply (registry : Registry) (object : Instance) (selector : String)
    (arguments : List Value) : Dispatch :=
  (registry.dispatch selector arguments object).1

lemma Registry.Serves.array (serves : registry.Serves object.className arrayBehaviors)
    (holds : sequenceOf object = ⟨list⟩) (call : ArrayCall) (extra : List Value)
    (accepts : call.Accepts) :
    registry.dispatch call.selector (call.arguments ++ extra) object
      = (.handled (call.answer list).1, withContents object (call.written? list)) :=
  serves.dispatch call.behavior_mem (call.behavior_eq holds _ extra accepts)

lemma reply_size (serves : registry.Serves object.className arrayBehaviors)
    (holds : sequenceOf object = ⟨list⟩) (rest : List Value) :
    registry.reply object "size" rest = .handled (toString list.length) :=
  congrArg Prod.fst (serves.array holds .size rest trivial)

lemma reply_at (serves : registry.Serves object.className arrayBehaviors)
    (holds : sequenceOf object = ⟨list⟩) {index x : Value} {place : ℕ}
    (hslot : ArrayCall.slot? list index = some place) (hx : list[place]? = some x)
    (rest : List Value) : registry.reply object "at:" (index :: rest) = .handled x.render := by
  have hindex : index.index?.isSome := by
    rw [ArrayCall.slot?] at hslot
    exact Option.isSome_of_isSome_bind (Option.isSome_of_eq_some hslot)
  have hreply := congrArg Prod.fst (serves.array holds (.element index) rest hindex)
  rwa [ArrayCall.answer, hslot, Option.bind_some, hx] at hreply

lemma dispatch_pop (serves : registry.Serves object.className arrayBehaviors) {last : Value}
    (holds : sequenceOf object = ⟨list ++ [last]⟩) (rest : List Value) :
    registry.dispatch "pop" rest object
      = (.handled last.render, withItems object (Value.arr list).encode) := by
  have hpop := serves.array holds .pop rest trivial
  rwa [ArrayCall.written?, ArrayCall.answer, List.getLast?_concat, List.dropLast_concat] at hpop

/-! ## What is written -/

/-- What is written as a list comes back as what is reread of it. -/
lemma contains_written (object : Instance) (h : ∀ x ∈ list, x.Canonical ∧ x.depth < depthLimit) :
    Contains (withItems object (Value.arr list).encode) (.arr (list.map Value.reread)) := by
  have hcanonical : (Value.arr list).Canonical := itemsCanonical.mpr fun x hx => (h x hx).1
  have hdepth : (Value.arr list).depth ≤ depthLimit :=
    depth_arr_le.mpr fun x hx => Nat.le_pred_of_lt (h x hx).2
  refine .text _ (items_withItems object _) ?_
  rw [decode_encode_reread hcanonical hdepth, Value.reread, rereadItems_eq_map]

lemma sequenceOf_written_deep (object : Instance) (canonical : ∀ x ∈ list, x.Canonical)
    {x : Value} (hx : x ∈ list) (deep : depthLimit ≤ x.depth) :
    sequenceOf (withItems object (Value.arr list).encode) = ⟨[]⟩ := by
  have hcanonical : (Value.arr list).Canonical := itemsCanonical.mpr canonical
  have hdeep : depthLimit < (Value.arr list).depth :=
    Nat.lt_of_not_le fun h => absurd (depth_arr_le.mp h x hx) (Nat.not_le_of_lt deep)
  obtain ⟨error, hdecode⟩ := decode_encode_deep hcanonical hdeep
  rw [sequenceOf_withItems, listOf, hdecode]

/-- What is written as an object comes back as what is reread of it. -/
lemma contains_written_object (held : Instance)
    (h : ∀ m ∈ entries.entries, m.2.Canonical ∧ m.2.depth < depthLimit) :
    Contains (withItems held entries.encode) (.ofObject entries.reread) := by
  have hcanonical : (Value.ofObject entries).Canonical :=
    ⟨entries.ascending, membersCanonical.mpr fun m hm => (h m hm).1⟩
  have hdepth : (Value.ofObject entries).depth ≤ depthLimit :=
    depth_ofObject_le.mpr fun m hm => Nat.le_pred_of_lt (h m hm).2
  exact .text _ (items_withItems held _) (decode_encode_reread hcanonical hdepth)

lemma dictionaryOf_written_deep (held : Instance) (canonical : ∀ m ∈ entries.entries, m.2.Canonical)
    {m : String × Value} (hm : m ∈ entries.entries) (deep : depthLimit ≤ m.2.depth) :
    dictionaryOf (withItems held entries.encode) = .empty := by
  have hcanonical : (Value.ofObject entries).Canonical :=
    ⟨entries.ascending, membersCanonical.mpr canonical⟩
  have hdeep : depthLimit < (Value.ofObject entries).depth :=
    Nat.lt_of_not_le fun h => absurd (depth_ofObject_le.mp h m hm) (Nat.not_le_of_lt deep)
  obtain ⟨error, hdecode⟩ := decode_encode_deep hcanonical hdeep
  rw [dictionaryOf_withItems, Dictionary.ofText, Object.encode, hdecode]

/-! ## Writes to arrays -/

/-- A collection that nothing is left of. -/
def Emptied (registry : Registry) (after : Instance) : Prop :=
  ∀ rest, registry.reply after "size" rest = .handled "0"

/-- What is left of an array, of the elements of a list, when a value is pushed: one element more,
which `pop` takes away again.  Elements are addressed from the front. -/
structure Pushed (registry : Registry) (list : List Value) (value : Value)
    (before after : Instance) : Prop where
  held : ∀ rest, registry.reply before "size" rest = .handled (toString list.length)
  size : ∀ rest, registry.reply after "size" rest = .handled (toString (list.length + 1))
  elements : ∀ index i x rest, index.index? = some i → 0 ≤ i.toInt →
    list[i.toInt.toNat]? = some x →
    (registry.reply after "at:" (index :: rest) = registry.reply before "at:" (index :: rest) ↔
      Faithful x)
  popped : ∀ rest, registry.reply after "pop" rest = .handled value.render ↔ Faithful value
  restored : ∀ pops rest, registry.reply (registry.dispatch "pop" pops after).2 "size" rest
    = registry.reply before "size" rest

/-- What is left of an array, of the elements of a list, when another value is put at an index: as
many elements, and all the others. -/
structure Replaced (registry : Registry) (list : List Value) (index value : Value)
    (before after : Instance) : Prop where
  size : ∀ rest, registry.reply after "size" rest = registry.reply before "size" rest
  elements : ∀ other place x rest, ArrayCall.slot? list other = some place →
    ArrayCall.slot? list index ≠ some place → list[place]? = some x →
    (registry.reply after "at:" (other :: rest) = registry.reply before "at:" (other :: rest) ↔
      Faithful x)
  replaced : ∀ rest, (ArrayCall.slot? list index).isSome →
    (registry.reply after "at:" (index :: rest) = .handled value.render ↔ Faithful value)

/-! ## Pushing -/

lemma slot?_front {index : Value} {i : Int64} (hi : index.index? = some i) (hfront : 0 ≤ i.toInt)
    (hlt : i.toInt.toNat < list.length) : ArrayCall.slot? list index = some i.toInt.toNat := by
  rw [ArrayCall.slot?, hi]
  show place? list.length i.toInt = _
  rw [place?, if_pos (by omega)]

/-- A value with fewer levels than a document may have is pushed onto what is there. -/
lemma pushed_of_shallow {value : Value} (serves : registry.Serves object.className arrayBehaviors)
    (contains : Contains object (.arr list)) (canonical : value.Canonical)
    (shallow : value.depth < depthLimit) :
    Pushed registry list value object (withItems object (Value.arr (list ++ [value])).encode) := by
  have hshallow : ∀ x ∈ list ++ [value], x.Canonical ∧ x.depth < depthLimit := fun x hx => by
    rcases List.mem_append.mp hx with hold | hnew
    · exact contains.items_shallow x hold
    · exact List.mem_singleton.mp hnew ▸ ⟨canonical, shallow⟩
  have hclass := className_withItems object (Value.arr (list ++ [value])).encode
  have hcontains := contains_written object hshallow
  rw [List.map_append, List.map_singleton] at hcontains
  generalize withItems object (Value.arr (list ++ [value])).encode = after at hclass hcontains
  have hserves : registry.Serves after.className arrayBehaviors := hclass ▸ serves
  have hpop := dispatch_pop hserves hcontains.sequenceOf
  refine ⟨reply_size serves contains.sequenceOf, fun rest => ?_,
    fun index i x rest hi hfront hx => ?_, fun rest => ?_, fun pops rest => ?_⟩
  · rw [reply_size hserves hcontains.sequenceOf, List.length_append, List.length_map]
    rfl
  · have hlt : i.toInt.toNat < list.length := (List.getElem?_eq_some_iff.mp hx).1
    have hafter : (list.map Value.reread ++ [value.reread])[i.toInt.toNat]? = some x.reread := by
      rw [List.getElem?_append_left (by rwa [List.length_map]), List.getElem?_map, hx,
        Option.map_some]
    rw [reply_at serves contains.sequenceOf (slot?_front hi hfront hlt) hx,
      reply_at hserves hcontains.sequenceOf
        (slot?_front hi hfront (List.getElem?_eq_some_iff.mp hafter).1) hafter,
      Dispatch.handled.injEq, Faithful]
  · rw [Registry.reply, hpop, Dispatch.handled.injEq, Faithful]
  · -- what `pop` leaves is written and read once more
    have hleft := contains_written after fun x hx =>
      hcontains.items_shallow x (List.mem_append_left [value.reread] hx)
    rw [hpop, reply_size serves contains.sequenceOf,
      reply_size ((className_withItems after _).trans hclass ▸ serves) hleft.sequenceOf,
      List.length_map, List.length_map]

/-- A value that takes up all levels of a document takes everything with it. -/
lemma emptied_of_push {value : Value} (serves : registry.Serves object.className arrayBehaviors)
    (contains : Contains object (.arr list)) (canonical : value.Canonical)
    (deep : depthLimit ≤ value.depth) :
    Emptied registry (withItems object (Value.arr (list ++ [value])).encode) := by
  have hcanonical : ∀ x ∈ list ++ [value], x.Canonical := fun x hx => by
    rcases List.mem_append.mp hx with hold | hnew
    · exact (contains.items_shallow x hold).1
    · exact List.mem_singleton.mp hnew ▸ canonical
  exact reply_size ((className_withItems object _).symm ▸ serves)
    (sequenceOf_written_deep object hcanonical (List.mem_append_right list List.mem_cons_self) deep)

/-- **What a push leaves**: all that there was and the value, or nothing if the value takes up all
levels of a document. -/
lemma push_leaves {value : Value} (serves : registry.Serves object.className arrayBehaviors)
    (contains : Contains object (.arr list)) (decodable : value.Decodable) (rest : List Value) :
    ∃ after, registry.dispatch "push:" (value :: rest) object = (.handled value.render, after) ∧
      if value.depth < depthLimit then Pushed registry list value object after
      else Emptied registry after := by
  refine ⟨_, serves.array contains.sequenceOf (.push value) rest trivial, ?_⟩
  split
  · next shallow => exact pushed_of_shallow serves contains decodable.canonical shallow
  · next deep => exact emptied_of_push serves contains decodable.canonical (Nat.le_of_not_lt deep)

/-! ## Putting at an index -/

lemma slot?_lt {index : Value} {place : ℕ} (h : ArrayCall.slot? list index = some place) :
    place < list.length := by
  obtain ⟨i, -, hplace⟩ := Option.bind_eq_some_iff.mp h
  rw [place?] at hplace
  split_ifs at hplace <;> simp only [Option.some.injEq] at hplace <;> omega

/-- A list with another value at an index, or as it is if the index addresses nothing. -/
def replaceAt (list : List Value) (index value : Value) : List Value :=
  (ArrayCall.slot? list index).elim list (list.set · value)

lemma answer_replace (list : List Value) (index value : Value) :
    ((ArrayCall.replace index value).answer list).2 = replaceAt list index value := by
  rw [ArrayCall.answer, replaceAt]
  cases ArrayCall.slot? list index <;> rfl

lemma length_replaceAt (list : List Value) (index value : Value) :
    (replaceAt list index value).length = list.length := by
  rw [replaceAt]
  cases ArrayCall.slot? list index with
  | none => rfl
  | some place => exact List.length_set

lemma getElem?_replaceAt_of_ne {index : Value} {place : ℕ} (value : Value)
    (h : ArrayCall.slot? list index ≠ some place) :
    (replaceAt list index value)[place]? = list[place]? := by
  rw [replaceAt]
  cases hindex : ArrayCall.slot? list index with
  | none => rfl
  | some changed =>
      have hplaces : changed ≠ place := fun heq => h (heq ▸ hindex)
      exact List.getElem?_set_ne hplaces

lemma mem_replaceAt {index value x : Value} (h : x ∈ replaceAt list index value) :
    x ∈ list ∨ x = value ∧ ArrayCall.slot? list index ≠ none := by
  rw [replaceAt] at h
  cases hslot : ArrayCall.slot? list index with
  | none => exact .inl (by rwa [hslot] at h)
  | some place =>
      rw [hslot] at h
      exact (List.mem_or_eq_of_mem_set h).imp_right fun hvalue => ⟨hvalue, Option.some_ne_none _⟩

/-- A list in which a value is put in the place of another, or nowhere, and which can be written and
read again. -/
lemma replaced_of_shallow {index value : Value}
    (serves : registry.Serves object.className arrayBehaviors)
    (contains : Contains object (.arr list))
    (shallow : ∀ x ∈ replaceAt list index value, x.Canonical ∧ x.depth < depthLimit) :
    Replaced registry list index value object
      (withItems object (Value.arr (replaceAt list index value)).encode) := by
  have hclass := className_withItems object (Value.arr (replaceAt list index value)).encode
  have hcontains := contains_written object shallow
  generalize withItems object _ = after at hclass hcontains
  have hserves : registry.Serves after.className arrayBehaviors := hclass ▸ serves
  have hlength : ((replaceAt list index value).map Value.reread).length = list.length := by
    rw [List.length_map, length_replaceAt]
  have hslot : ∀ other, ArrayCall.slot? ((replaceAt list index value).map Value.reread) other
      = ArrayCall.slot? list other := fun other => by rw [ArrayCall.slot?, hlength, ArrayCall.slot?]
  refine ⟨fun rest => ?_, fun other place x rest hother hne hx => ?_, fun rest hinside => ?_⟩
  · rw [reply_size hserves hcontains.sequenceOf, reply_size serves contains.sequenceOf, hlength]
  · have hafter : ((replaceAt list index value).map Value.reread)[place]? = some x.reread := by
      rw [List.getElem?_map, getElem?_replaceAt_of_ne value hne, hx, Option.map_some]
    rw [reply_at serves contains.sequenceOf hother hx,
      reply_at hserves hcontains.sequenceOf ((hslot other).trans hother) hafter,
      Dispatch.handled.injEq, Faithful]
  · obtain ⟨place, hplace⟩ := Option.isSome_iff_exists.mp hinside
    have hafter : ((replaceAt list index value).map Value.reread)[place]? = some value.reread := by
      rw [List.getElem?_map, replaceAt, hplace, Option.elim_some,
        List.getElem?_set_self (slot?_lt hplace), Option.map_some]
    rw [reply_at hserves hcontains.sequenceOf ((hslot index).trans hplace) hafter,
      Dispatch.handled.injEq, Faithful]

/-- **What a put at an index leaves**: all that there was, but for the element at the index, which
is the value; or nothing if the value is put there and takes up all levels of a document. -/
lemma replace_leaves {index value : Value}
    (serves : registry.Serves object.className arrayBehaviors)
    (contains : Contains object (.arr list)) (decodable : value.Decodable)
    (hindex : index.index?.isSome) (rest : List Value) :
    ∃ after, registry.dispatch "at:put:" (index :: value :: rest) object
        = (.handled value.render, after) ∧
      if value.depth < depthLimit ∨ ArrayCall.slot? list index = none then
        Replaced registry list index value object after
      else Emptied registry after := by
  have hanswer : registry.dispatch "at:put:" (index :: value :: rest) object
      = (.handled value.render,
          withItems object (Value.arr (replaceAt list index value)).encode) := by
    rw [← answer_replace]
    exact serves.array contains.sequenceOf (.replace index value) rest hindex
  refine ⟨_, hanswer, ?_⟩
  split
  · next hshallow =>
      refine replaced_of_shallow serves contains fun x hx => ?_
      rcases mem_replaceAt hx with hold | ⟨rfl, hplaced⟩
      · exact contains.items_shallow x hold
      · exact ⟨decodable.canonical, hshallow.resolve_right hplaced⟩
  · next hdeep =>
      rw [not_or] at hdeep
      obtain ⟨place, hplace⟩ := Option.ne_none_iff_exists'.mp hdeep.2
      have hmem : value ∈ replaceAt list index value := by
        rw [replaceAt, hplace, Option.elim_some]
        exact List.mem_set (slot?_lt hplace) value
      have hempty := sequenceOf_written_deep object (fun x hx => ?_) hmem
        (Nat.le_of_not_lt hdeep.1)
      · exact reply_size ((className_withItems object _).symm ▸ serves) hempty
      · rcases mem_replaceAt hx with hold | ⟨rfl, -⟩
        · exact (contains.items_shallow x hold).1
        · exact decodable.canonical

/-! ## Writes to dictionaries -/

lemma reply_dictionary_size (serves : registry.Serves held.className dictionaryBehaviors)
    (rest : List Value) :
    registry.reply held "size" rest = .handled (toString (dictionaryOf held).size) :=
  congrArg Prod.fst (serves.dispatch DictionaryCall.size.behavior_mem rfl)

lemma reply_dictionary_at (serves : registry.Serves held.className dictionaryBehaviors)
    (key : Value) (rest : List Value) : registry.reply held "at:" (key :: rest)
      = .handled (render? ((dictionaryOf held).get? key.render)) :=
  congrArg Prod.fst (serves.dispatch (DictionaryCall.lookup key).behavior_mem
    (dictionaryAt_cons _ key rest held))

lemma reply_dictionary_includes (serves : registry.Serves held.className dictionaryBehaviors)
    (key : Value) (rest : List Value) : registry.reply held "includesKey:" (key :: rest)
      = .handled (boolean ((dictionaryOf held).contains key.render)) :=
  congrArg Prod.fst (serves.dispatch (DictionaryCall.includes key).behavior_mem
    (dictionaryIncludes_cons _ key rest held))

/-- What is left of a dictionary, of certain entries, when the value of a key is put: one entry more
if the key had none, and all those of other keys. -/
structure Entered (registry : Registry) (entries : Object) (key value : Value)
    (before after : Instance) : Prop where
  held : ∀ rest, registry.reply before "size" rest = .handled (toString entries.size)
  size : ∀ rest, registry.reply after "size" rest = .handled (toString
    (if entries.contains key.render then entries.size else entries.size + 1))
  others : ∀ other rest, other.render ≠ key.render →
    (registry.reply after "at:" (other :: rest) = registry.reply before "at:" (other :: rest) ↔
      ∀ x, entries.get? other.render = some x → Faithful x)
  keys : ∀ other rest, other.render ≠ key.render →
    registry.reply after "includesKey:" (other :: rest)
      = registry.reply before "includesKey:" (other :: rest)
  entered : ∀ other rest, other.render = key.render →
    registry.reply after "includesKey:" (other :: rest) = .handled "true" ∧
      (registry.reply after "at:" (other :: rest) = .handled value.render ↔ Faithful value)

/-- A value with fewer levels than a document may have is entered beside what is there. -/
lemma entered_of_shallow {key value : Value}
    (serves : registry.Serves held.className dictionaryBehaviors)
    (contains : Contains held (.ofObject entries)) (canonical : value.Canonical)
    (shallow : value.depth < depthLimit) :
    Entered registry entries key value held
      (withItems held (Object.encode (entries.insert key.render value))) := by
  have hclass := className_withItems held (Object.encode (entries.insert key.render value))
  have hshallow : ∀ m ∈ (entries.insert key.render value).entries,
      m.2.Canonical ∧ m.2.depth < depthLimit :=
    SortedMap.forall_insert key.render (P := fun x : Value => x.Canonical ∧ x.depth < depthLimit)
      ⟨canonical, shallow⟩ contains.members_shallow
  have hafter := (contains_written_object held hshallow).dictionaryOf
  generalize withItems held _ = after at hclass hafter
  have hserves : registry.Serves after.className dictionaryBehaviors := hclass ▸ serves
  have hbefore := contains.dictionaryOf
  have hget : ∀ probe, (dictionaryOf after).get? probe
      = ((entries.insert key.render value).get? probe).map Value.reread := fun probe => by
    rw [hafter]
    exact Object.get?_reread _ probe
  have hcontains : ∀ probe, (dictionaryOf after).contains probe
      = ((entries.insert key.render value).get? probe).isSome := fun probe => by
    rw [← Option.isSome_map (f := Value.reread), ← hget]
    rfl
  refine ⟨fun rest => ?_, fun rest => ?_, fun other rest hne => ?_, fun other rest hne => ?_,
    fun other rest heq => ⟨?_, ?_⟩⟩
  · rw [reply_dictionary_size serves, hbefore]
    rfl
  · rw [reply_dictionary_size hserves, hafter, ← SortedMap.size_insert entries _ value,
      ← Object.size_reread]
    rfl
  · rw [reply_dictionary_at hserves, reply_dictionary_at serves, hget,
      SortedMap.get?_insert_of_ne hne, hbefore]
    show _ = Dispatch.handled (render? (entries.get? other.render)) ↔ _
    cases entries.get? other.render with
    | none => simp
    | some x => simp [Faithful, render?]
  · rw [reply_dictionary_includes hserves, reply_dictionary_includes serves, hcontains,
      SortedMap.get?_insert_of_ne hne, hbefore]
    rfl
  · rw [reply_dictionary_includes hserves, hcontains, heq, SortedMap.get?_insert_self]
    rfl
  · rw [reply_dictionary_at hserves, hget, heq, SortedMap.get?_insert_self, Option.map_some,
      Dispatch.handled.injEq]
    rfl

/-- **What a put at a key leaves**: all that there was at other keys, and the value; or nothing if
the value takes up all levels of a document. -/
lemma enter_leaves {key value : Value} (serves : registry.Serves held.className dictionaryBehaviors)
    (contains : Contains held (.ofObject entries)) (decodable : value.Decodable)
    (rest : List Value) :
    ∃ after, registry.dispatch "at:put:" (key :: value :: rest) held
        = (.handled value.render, after) ∧
      if value.depth < depthLimit then Entered registry entries key value held after
      else Emptied registry after := by
  have hanswer := dictionaryAtPut_cons ⟨held.className, "at:put:", held.id⟩ key value rest held
  rw [contains.dictionaryOf] at hanswer
  refine ⟨_, serves.dispatch (DictionaryCall.put key value).behavior_mem hanswer, ?_⟩
  split
  · next shallow => exact entered_of_shallow serves contains decodable.canonical shallow
  · next deep =>
      have hcanonical : ∀ m ∈ (entries.insert key.render value).entries, m.2.Canonical :=
        SortedMap.forall_insert key.render decodable.canonical fun m hm =>
          (contains.members_shallow m hm).1
      have hempty := dictionaryOf_written_deep held hcanonical
        (SortedMap.mem_entries_iff.mpr (SortedMap.get?_insert_self _ _ _)) (Nat.le_of_not_lt deep)
      intro rest
      rw [reply_dictionary_size ((className_withItems held _).symm ▸ serves), hempty]
      rfl

/-! ## All writes -/

/-- **A write keeps what a collection contains**, unless the value that is written takes up all
levels of a document: then nothing is left.  For all others, a push makes an array longer by one and
`pop` undoes it, a put at an index replaces one element, and a put at a key replaces one entry or
makes the dictionary larger by one. -/
theorem write_keeps_contents {registry : Registry} {object : Instance} {value : Value}
    (decodable : value.Decodable) :
    (∀ list, registry.Serves object.className arrayBehaviors → Contains object (.arr list) →
      (∀ rest, ∃ after,
        registry.dispatch "push:" (value :: rest) object = (.handled value.render, after) ∧
          if value.depth < depthLimit then Pushed registry list value object after
          else Emptied registry after) ∧
      ∀ index rest, index.index?.isSome → ∃ after,
        registry.dispatch "at:put:" (index :: value :: rest) object
            = (.handled value.render, after) ∧
          if value.depth < depthLimit ∨ ArrayCall.slot? list index = none then
            Replaced registry list index value object after
          else Emptied registry after) ∧
    ∀ entries, registry.Serves object.className dictionaryBehaviors →
      Contains object (.ofObject entries) → ∀ key rest, ∃ after,
        registry.dispatch "at:put:" (key :: value :: rest) object
            = (.handled value.render, after) ∧
          if value.depth < depthLimit then Entered registry entries key value object after
          else Emptied registry after :=
  ⟨fun _ serves contains => ⟨fun rest => push_leaves serves contains decodable rest,
    fun _ rest hindex => replace_leaves serves contains decodable hindex rest⟩,
    fun _ serves contains _ rest => enter_leaves serves contains decodable rest⟩

/-- An array that holds a text. -/
def shelf : Instance := .new "array_1" "Array" .epoch (.ofList [("items", .str "[null,[true]]")])

/-- A dictionary that holds an object inline. -/
def glossary : Instance :=
  .new "dictionary_1" "Dictionary" .epoch (.ofList [("items", .obj [("a", .bool true)])])

lemma contains_shelf : Contains shelf (.arr [.null, .arr [.bool true]]) := by
  have hspelled : "[null,[true]]" = (Value.arr [.null, .arr [.bool true]]).encode := by decide
  refine .text "[null,[true]]" rfl ?_
  rw [hspelled]
  exact decode_encode (by decide) (by decide) (by decide)

lemma contains_glossary : Contains glossary (.ofObject (.ofList [("a", .bool true)])) :=
  .inline rfl (decodable_of_integersOnly (by decide) (by decide) (by decide))

theorem write_keeps_contents_shelf : (Value.str "x").Decodable ∧
    Registry.builtin.Serves shelf.className arrayBehaviors ∧
    Contains shelf (.arr [.null, .arr [.bool true]]) ∧
    Registry.builtin.Serves glossary.className dictionaryBehaviors ∧
    Contains glossary (.ofObject (.ofList [("a", .bool true)])) ∧
    (∃ after, Registry.builtin.dispatch "push:" [.str "x"] shelf = (.handled "x", after) ∧
      Registry.builtin.reply after "size" [] = .handled "3" ∧
      Registry.builtin.reply after "at:" [.str "1"]
        = Registry.builtin.reply shelf "at:" [.str "1"] ∧
      Registry.builtin.reply after "pop" [] = .handled "x") ∧
    (∃ after, Registry.builtin.dispatch "at:put:" [.str "0", .str "x"] shelf
        = (.handled "x", after) ∧
      Registry.builtin.reply after "at:" [.str "0"] = .handled "x" ∧
      Registry.builtin.reply after "at:" [.str "1"]
        = Registry.builtin.reply shelf "at:" [.str "1"]) ∧
    ∃ after, Registry.builtin.dispatch "at:put:" [.str "b", .str "x"] glossary
        = (.handled "x", after) ∧
      Registry.builtin.reply after "size" [] = .handled "2" ∧
      Registry.builtin.reply after "at:" [.str "a"]
        = Registry.builtin.reply glossary "at:" [.str "a"] := by
  have hdecodable : (Value.str "x").Decodable :=
    decodable_of_integersOnly trivial trivial (by decide)
  have hshelf : Registry.builtin.Serves shelf.className arrayBehaviors :=
    Registry.builtin_serves_array
  have hglossary : Registry.builtin.Serves glossary.className dictionaryBehaviors :=
    Registry.builtin_serves_dictionary
  obtain ⟨pushed, hpush, hleft⟩ :=
    ((write_keeps_contents hdecodable).1 _ hshelf contains_shelf).1 []
  obtain ⟨replaced, hreplace, hothers⟩ :=
    ((write_keeps_contents hdecodable).1 _ hshelf contains_shelf).2 (.str "0") [] (by decide)
  obtain ⟨entered, henter, hkept⟩ :=
    (write_keeps_contents hdecodable).2 _ hglossary contains_glossary (.str "b") []
  rw [if_pos (by decide)] at hleft hkept
  rw [if_pos (.inl (by decide))] at hothers
  have hnested : Faithful (.arr [.bool true]) := faithful_of_integersOnly ⟨trivial, trivial⟩
  refine ⟨hdecodable, hshelf, contains_shelf, hglossary, contains_glossary,
    ⟨pushed, hpush, hleft.size [], ?_, ?_⟩, ⟨replaced, hreplace, ?_, ?_⟩,
    entered, henter, hkept.size [], ?_⟩
  · exact (hleft.elements (.str "1") 1 (.arr [.bool true]) [] (by decide) (by decide) rfl).mpr
      hnested
  · exact (hleft.popped []).mpr (faithful_of_integersOnly trivial)
  · exact (hothers.replaced [] (by decide)).mpr (faithful_of_integersOnly trivial)
  · exact (hothers.elements (.str "1") 1 (.arr [.bool true]) [] (by decide) (by decide) rfl).mpr
      hnested
  · refine (hkept.others (.str "a") [] (by decide)).mpr fun x hx => ?_
    obtain rfl : Value.bool true = x := Option.some.inj hx
    exact faithful_of_integersOnly trivial

/-- A push is accepted that leaves nothing of the array, and one that `pop` does not undo. -/
theorem push_loses_shelf :
    (nested depthLimit).Decodable ∧ Registry.builtin.Serves shelf.className arrayBehaviors ∧
    Contains shelf (.arr [.null, .arr [.bool true]]) ∧
    (∃ after, Registry.builtin.dispatch "push:" [nested depthLimit] shelf
        = (.handled (nested depthLimit).render, after) ∧
      Registry.builtin.reply shelf "size" [] = .handled "2" ∧
      Registry.builtin.reply after "size" [] = .handled "0") ∧
    ∃ value, decode "30e22" = .ok value ∧ value.render = "3e+23" ∧
      Registry.builtin.reply (Registry.builtin.dispatch "push:" [value] shelf).2 "pop" []
        = .handled "2.9999999999999997e+23" := by
  have hserves : Registry.builtin.Serves shelf.className arrayBehaviors :=
    Registry.builtin_serves_array
  have hdecodable : (nested depthLimit).Decodable := decodable_nested depthLimit le_rfl
  have hempty := emptied_of_push hserves contains_shelf hdecodable.canonical
    (depth_nested depthLimit).ge
  refine ⟨hdecodable, hserves, contains_shelf, ⟨_, hserves.array contains_shelf.sequenceOf
    (.push (nested depthLimit)) [] trivial, reply_size hserves contains_shelf.sequenceOf [],
    hempty []⟩, ?_⟩
  have hpopped : (decode "30e22").toOption.map (fun value => (value.render,
      Registry.builtin.reply (Registry.builtin.dispatch "push:" [value] shelf).2 "pop" []))
      = some ("3e+23", .handled "2.9999999999999997e+23") := by
    decide +kernel
  obtain ⟨value, hvalue, hpair⟩ := Option.map_eq_some_iff.mp hpopped
  exact ⟨value, of_toOption_some hvalue, congrArg Prod.fst hpair, congrArg Prod.snd hpair⟩

end ObjectMemory.Message
