import Mathlib
import ObjectMemory.Json.Value

/-!
# Limits of a value, part by part

The depth of a value, having no double in it and being canonical are defined along the value, list
by list.  Each of them is a condition on all parts of an array or object, and in that form it passes
to the members of an object with one member more or less.

* `depthItems_le`, `itemsIntegersOnly`, `itemsCanonical` — the items of an array;
* `depthMembers_le`, `membersIntegersOnly`, `membersCanonical` — the members of an object.

All of them can be computed, so that a given value can be checked.
-/

namespace ObjectMemory.Json

/-! ## Items -/

lemma depthItems_le {depth : ℕ} {items : List Value} :
    depthItems items ≤ depth ↔ ∀ x ∈ items, x.depth ≤ depth := by
  induction items with
  | nil => simp [depthItems]
  | cons x xs ih => simp [depthItems, ih]

lemma itemsIntegersOnly {items : List Value} :
    ItemsIntegersOnly items ↔ ∀ x ∈ items, x.IntegersOnly := by
  induction items with
  | nil => simp [ItemsIntegersOnly]
  | cons x xs ih => simp [ItemsIntegersOnly, ih]

lemma itemsCanonical {items : List Value} :
    ItemsCanonical items ↔ ∀ x ∈ items, x.Canonical := by
  induction items with
  | nil => simp [ItemsCanonical]
  | cons x xs ih => simp [ItemsCanonical, ih]

/-! ## Members -/

lemma depthMembers_le {depth : ℕ} {members : List (String × Value)} :
    depthMembers members ≤ depth ↔ ∀ m ∈ members, m.2.depth ≤ depth := by
  induction members with
  | nil => simp [depthMembers]
  | cons m ms ih => simp [depthMembers, ih]

lemma membersIntegersOnly {members : List (String × Value)} :
    MembersIntegersOnly members ↔ ∀ m ∈ members, m.2.IntegersOnly := by
  induction members with
  | nil => simp [MembersIntegersOnly]
  | cons m ms ih => simp [MembersIntegersOnly, ih]

lemma membersCanonical {members : List (String × Value)} :
    MembersCanonical members ↔ ∀ m ∈ members, m.2.Canonical := by
  induction members with
  | nil => simp [MembersCanonical]
  | cons m ms ih => simp [MembersCanonical, ih]

/-! ## Checking a value -/

mutual

def Value.decideIntegersOnly : (v : Value) → Decidable v.IntegersOnly
  | .null | .bool _ | .str _ | .num (.integer ..) => .isTrue trivial
  | .num (.float _) => .isFalse id
  | .arr items => decideItemsIntegersOnly items
  | .obj members => decideMembersIntegersOnly members

def decideItemsIntegersOnly : (items : List Value) → Decidable (ItemsIntegersOnly items)
  | [] => .isTrue trivial
  | x :: xs => @instDecidableAnd _ _ x.decideIntegersOnly (decideItemsIntegersOnly xs)

def decideMembersIntegersOnly :
    (members : List (String × Value)) → Decidable (MembersIntegersOnly members)
  | [] => .isTrue trivial
  | (_, x) :: xs => @instDecidableAnd _ _ x.decideIntegersOnly (decideMembersIntegersOnly xs)

end

mutual

def Value.decideCanonical : (v : Value) → Decidable v.Canonical
  | .null | .bool _ | .str _ | .num _ => .isTrue trivial
  | .arr items => decideItemsCanonical items
  | .obj members => @instDecidableAnd _ _ inferInstance (decideMembersCanonical members)

def decideItemsCanonical : (items : List Value) → Decidable (ItemsCanonical items)
  | [] => .isTrue trivial
  | x :: xs => @instDecidableAnd _ _ x.decideCanonical (decideItemsCanonical xs)

def decideMembersCanonical :
    (members : List (String × Value)) → Decidable (MembersCanonical members)
  | [] => .isTrue trivial
  | (_, x) :: xs => @instDecidableAnd _ _ x.decideCanonical (decideMembersCanonical xs)

end

instance (v : Value) : Decidable v.IntegersOnly := v.decideIntegersOnly

instance (members : List (String × Value)) : Decidable (MembersIntegersOnly members) :=
  decideMembersIntegersOnly members

instance (v : Value) : Decidable v.Canonical := v.decideCanonical

instance (members : List (String × Value)) : Decidable (MembersCanonical members) :=
  decideMembersCanonical members

end ObjectMemory.Json
