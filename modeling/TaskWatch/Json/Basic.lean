/-
# JSON values

What a JSON text denotes.  Three decisions are made here once for every reader and writer
of the library.

* **Numbers keep their kind.**  A counter on the wire is a non-negative integer literal
  that fits 64 bits (`natural`).  A negative integer that fits 64 bits is `negative`, and
  whatever else is written as a number (a fraction, an exponent, a minus sign before a
  zero, too many digits) is a `real`, kept as the bits of the nearest double.
* **Objects keep their members in the order written,** repeated names included.  Whether a
  name may be repeated is the reader's decision, not the syntax's.
* **A text can be in the grammar and denote nothing.**  A number beyond the doubles and a
  string with half a surrogate pair are read as `unreadable`.  A reader that needs every
  part refuses such a value (`isReadable`); one that skips a part does not look at it.
-/

namespace TaskWatch

/-- **A JSON value.** -/
inductive Json where
  | null
  | bool (b : Bool)
  /-- A non-negative integer literal below 2^64. -/
  | natural (n : UInt64)
  /-- The integer literal `-n`, for an `n` from 1 to 2^63. -/
  | negative (n : UInt64)
  /-- Any other number, as the bits of a finite double. -/
  | real (bits : UInt64)
  | string (s : String)
  | array (items : List Json)
  | object (members : List (String × Json))
  /-- In the grammar, but no value: see the module's comment. -/
  | unreadable
  deriving Inhabited, Repr, BEq

namespace Json

/-! ## Measures over a whole value -/

mutual

/-- Every part denotes a value. -/
def isReadable : Json → Bool
  | array items => areReadable items
  | object members => haveReadable members
  | unreadable => false
  | _ => true

def areReadable : List Json → Bool
  | [] => true
  | j :: js => j.isReadable && areReadable js

def haveReadable : List (String × Json) → Bool
  | [] => true
  | (_, j) :: ms => j.isReadable && haveReadable ms

end

mutual

/-- **Nesting**: how many arrays and objects are open at the deepest point. -/
def depth : Json → Nat
  | array items => depths items + 1
  | object members => memberDepths members + 1
  | _ => 0

def depths : List Json → Nat
  | [] => 0
  | j :: js => max j.depth (depths js)

def memberDepths : List (String × Json) → Nat
  | [] => 0
  | (_, j) :: ms => max j.depth (memberDepths ms)

end

/-! ## Scalars read out of a value -/

def natural? : Json → Option UInt64
  | natural n => some n
  | _ => none

def bool? : Json → Option Bool
  | bool b => some b
  | _ => none

def string? : Json → Option String
  | string s => some s
  | _ => none

end Json

end TaskWatch
