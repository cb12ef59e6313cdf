import Mustache.Fault
import Mustache.View.Value

/-!
**Reading attributes and items.**

What attributes a value has is settled by its class: those of texts, numbers and days by the
language that views are written in, those of other classes by the host. A rendering is given a way
of reading them. A class of the host may have attributes that fail to be read, and sequences that
fail to give an item.

* `Access`: how attributes and items are read.
* `Access.read`: **the attribute of a value.**
* `Access.item`: **an item of a list-like value.**
-/

namespace Mustache

/-- **How attributes and items are read.** -/
structure Access where
  /-- The attribute of a value under a name, public or not, if there is one; reading it may fail. -/
  attribute? : Value → String → Except Fault (Option Value)
  /-- What a sequence of a class of the host, known by its handle, fails with when it is asked for
  the item at an index, if it does. -/
  itemFault? : Nat → Nat → Option Fault

namespace Access

/-- Attributes that can be read without fail, and sequences that give all their items. -/
def ofTable (attribute? : Value → String → Option Value) : Access where
  attribute? value name := .ok (attribute? value name)
  itemFault? _ _ := none

/-- The function of an accessor or a higher-order section, and the method of an accessor that
resolves it. -/
def wrapperAttribute? (wrapper : Value) (function : HostFunction) (name : String) : Option Value :=
  match wrapper, name with
  | _, "func" => some (.function function)
  | .accessor _, "resolve" => some (.method wrapper name)
  | _, _ => none

/-- **The attribute of a value** under a name, public or not. A plain object has what it was given,
and lists, mappings and no value are never asked. -/
def read (access : Access) (value : Value) (name : String) : Except Fault (Option Value) :=
  match value with
  | .object attributes => .ok (Value.attribute? name attributes)
  | .accessor callee => .ok (wrapperAttribute? (.accessor callee) callee name)
  | .sectionLambda callee => .ok (wrapperAttribute? (.sectionLambda callee) callee name)
  | .null | .missing | .items _ _ | .range _ _ _ | .mapping _ | .knot _ _ | .back _ => .ok none
  | value => access.attribute? value name

/-- What the reading of an item of a list-like value fails with: only a sequence of a class of the
host may fail to give it. -/
def refusal? (access : Access) (value : Value) (index : Nat) : Option Fault :=
  match value with
  | .items (.row handle _) _ => access.itemFault? handle index
  | _ => none

/-- **An item of a list-like value**, or no value. -/
def item (access : Access) (value : Value) (index : Nat) : Except Fault Value :=
  match access.refusal? value index with
  | some fault => .error fault
  | none => .ok ((value.listItem? index).getD .null)

end Access

end Mustache
