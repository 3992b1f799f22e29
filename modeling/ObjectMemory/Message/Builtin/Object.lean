import ObjectMemory.Message.Registry

/-!
# What every object answers

The behaviors of the class that stands in for every class.  They look at the instance, take no
arguments, and do not mind any.

* `objectBehaviors` — by selector.
-/

namespace ObjectMemory.Message.Builtin

/-- The behavior that answers something about the instance. -/
def answering (about : Instance → String) : Behavior :=
  Behavior.reading fun _ _ object => .ok (about object)

def objectBehaviors : List (String × Behavior) :=
  [("class", answering Instance.className),
    ("yourself", answering Instance.id),
    ("id", answering Instance.id),
    ("printString", answering fun object =>
      "<" ++ object.className ++ " " ++ object.id ++ ">"),
    ("asJson", answering Instance.encode)]

end ObjectMemory.Message.Builtin
