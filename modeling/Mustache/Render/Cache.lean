import Mustache.Text.Blank
import Mustache.Text.Case

/-!
**A cache.**

Entries under keys, kept until they are cleared. A cache that is not enabled answers nothing and
stores nothing, but keeps the entries it has.

* `Cache.get?`, `Cache.insert`, `Cache.clear`: reading, storing and clearing.
* `Cache.enabledBy`: whether a cache starts enabled.
-/

namespace Mustache

/-- Entries under keys, in the order of their first insertion. -/
structure Cache (κ ε : Type) where
  enabled : Bool
  entries : List (κ × ε)

namespace Cache

variable {κ ε : Type} [BEq κ]

/-- A cache without entries. -/
def empty (enabled : Bool) : Cache κ ε := ⟨enabled, []⟩

/-- The entry under a key, if the cache is enabled. -/
def get? (cache : Cache κ ε) (key : κ) : Option ε :=
  if cache.enabled then cache.entries.lookup key else none

/-- Entries with one stored under a key. -/
def store (key : κ) (entry : ε) : List (κ × ε) → List (κ × ε)
  | [] => [(key, entry)]
  | (known, old) :: rest =>
    if known == key then (known, entry) :: rest else (known, old) :: store key entry rest

/-- The cache with an entry stored under a key, if it is enabled. -/
def insert (cache : Cache κ ε) (key : κ) (entry : ε) : Cache κ ε :=
  if cache.enabled then { cache with entries := store key entry cache.entries } else cache

/-- The cache without entries. -/
def clear (cache : Cache κ ε) : Cache κ ε := { cache with entries := [] }

/-- The number of entries. -/
def size (cache : Cache κ ε) : Nat := cache.entries.length

/-- Whether there is an entry under a key, enabled or not. -/
def contains (cache : Cache κ ε) (key : κ) : Bool := (cache.entries.lookup key).isSome

/-- The words that switch a cache off. -/
def offWords : List String := ["0", "false", "no", "off", ""]

/-- **Whether a cache starts enabled**: as it is told, else by a setting of the environment that may
switch it off, else yes. -/
def enabledBy (told : Option Bool) (setting : Option String) : Bool :=
  match told, setting with
  | some flag, _ => flag
  | none, some words => !offWords.contains (Text.lower (Text.strip words))
  | none, none => true

end Cache

end Mustache
