import ObjectMemory.Proofs.Store.Requests

/-!
# What is left of a history

Some of what a store has is there because of one thing that happened long ago, and is there as long
as nothing undoes it.  To say so of a run is to name the event, and all that came after it.  To
prove it, only the last event has to be looked at.

* `Since` — something happened, and nothing has undone it since;
* `since_concat` — what one more event makes of that.
-/

namespace ObjectMemory.Store

open Backend

/-- Something happened, and nothing has undone it since.  What an event does depends on the store
that it happens to. -/
def Since (does undoes : Store Memory → Event → Prop) (start : Store Memory) (events : List Event) :
    Prop :=
  ∃ earlier event later, events = earlier ++ event :: later ∧
    does (runEvents start earlier) event ∧
    ∀ between next rest, later = between ++ next :: rest →
      ¬ undoes (runEvents start (earlier ++ event :: between)) next

variable {does undoes : Store Memory → Event → Prop} {start : Store Memory} {events : List Event}
  {event : Event}

lemma runEvents_concat (start : Store Memory) (events : List Event) (event : Event) :
    runEvents start (events ++ [event]) = event.happen (runEvents start events) :=
  List.foldl_concat ..

lemma not_since_nil : ¬ Since does undoes start [] := by
  rintro ⟨earlier, event, later, heq, -⟩
  simp at heq

/-- The last event does it, or it was done before and the last event does not undo it. -/
lemma since_concat : Since does undoes start (events ++ [event]) ↔
    does (runEvents start events) event ∨
      Since does undoes start events ∧ ¬ undoes (runEvents start events) event := by
  constructor
  · rintro ⟨earlier, doing, later, heq, hdoes, hkept⟩
    rcases List.eq_nil_or_concat' later with rfl | ⟨front, last, rfl⟩
    · obtain ⟨rfl, rfl⟩ := List.append_singleton_inj.mp heq
      exact .inl hdoes
    · rw [← List.cons_append, ← List.append_assoc] at heq
      obtain ⟨rfl, rfl⟩ := List.append_singleton_inj.mp heq
      refine .inr ⟨⟨earlier, doing, front, rfl, hdoes, ?_⟩, hkept front event [] rfl⟩
      rintro between next rest rfl
      exact hkept between next (rest ++ [event]) (by simp)
  · rintro (hdoes | ⟨⟨earlier, doing, later, rfl, hdoes, hkept⟩, hlast⟩)
    · exact ⟨events, event, [], rfl, hdoes, fun between next rest h => by simp at h⟩
    · refine ⟨earlier, doing, later ++ [event], by simp, hdoes, fun between next rest h => ?_⟩
      rcases List.eq_nil_or_concat' rest with rfl | ⟨front, last, rfl⟩
      · obtain ⟨rfl, rfl⟩ := List.append_singleton_inj.mp h
        exact hlast
      · rw [← List.cons_append, ← List.append_assoc] at h
        obtain ⟨rfl, rfl⟩ := List.append_singleton_inj.mp h
        exact hkept between next front rfl

/-- What happened since is among the events. -/
lemma exists_mem_of_since (h : Since does undoes start events) :
    ∃ event ∈ events, ∃ store, does store event := by
  obtain ⟨earlier, event, later, rfl, hdoes, -⟩ := h
  exact ⟨event, by simp, _, hdoes⟩

end ObjectMemory.Store
