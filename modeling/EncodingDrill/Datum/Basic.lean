import EncodingDrill.Binary64

/-!
# Loosely typed values

A `Datum` is a value handed to the drill from outside: nothing, a truth value, a whole number of
any size, a binary64 real, text, a list, or a record whose keys keep their insertion order.
Entry points that ask for a whole number take a truth value as 0 or 1, and their errors name the
kind of the value they were given, so the kinds stay apart here.

* `Datum.kindName`: the name of a value's kind, as error texts show it.
* `Datum.asInt?`: the whole number a value stands for, if any.
* `Datum.same`: equality across kinds, where numbers compare by their exact value.
-/

namespace EncodingDrill

/-- A loosely typed value. -/
inductive Datum where
  | null
  | bool (b : Bool)
  | int (n : Int)
  | float (x : Binary64)
  | str (s : String)
  | list (xs : List Datum)
  | obj (kvs : List (String × Datum))

instance : Inhabited Datum := ⟨.null⟩

namespace Datum

def kindName : Datum → String
  | .null => "NoneType"
  | .bool _ => "bool"
  | .int _ => "int"
  | .float _ => "float"
  | .str _ => "str"
  | .list _ => "list"
  | .obj _ => "dict"

def classText (d : Datum) : String := "<class '" ++ d.kindName ++ "'>"

def asInt? : Datum → Option Int
  | .int n => some n
  | .bool b => some (if b then 1 else 0)
  | _ => none

def isInt (d : Datum) : Bool := d.asInt?.isSome

/-- Whether a value counts as true: nothing, zero, empty text and empty containers do not. -/
def truthy : Datum → Bool
  | .null => false
  | .bool b => b
  | .int n => n != 0
  | .float x => x != 0.0
  | .str s => !s.isEmpty
  | .list xs => !xs.isEmpty
  | .obj kvs => !kvs.isEmpty

def lookup? (kvs : List (String × Datum)) (k : String) : Option Datum :=
  (kvs.find? (·.1 == k)).map (·.2)

/-- The exact comparison of two numbers (whole, truth or real); `none` if either is no number
or a NaN is involved. -/
def cmpNum? : Datum → Datum → Option Ordering
  | .float x, .float y =>
    if x < y then some .lt else if y < x then some .gt else if x == y then some .eq else none
  | .float x, d => d.asInt?.bind fun n => (Binary64.shape x).cmpInt n
  | d, .float y => d.asInt?.bind fun n => ((Binary64.shape y).cmpInt n).map Ordering.swap
  | a, b => match a.asInt?, b.asInt? with
    | some m, some n => some (compare m n)
    | _, _ => none

/-- Equality across kinds: numbers by exact value, text by its characters, lists item by item,
records by their sets of keys and the values under them; values of other kinds differ. -/
def same : Datum → Datum → Bool
  | .null, .null => true
  | .str s, .str t => s == t
  | .list xs, .list ys =>
    xs.length == ys.length &&
      (xs.attach.zip ys).all fun (⟨x, _⟩, y) => same x y
  | .obj xs, .obj ys =>
    xs.length == ys.length &&
      xs.attach.all fun ⟨(k, v), _⟩ => match lookup? ys k with
        | some w => same v w
        | none => false
  | a, b => cmpNum? a b == some .eq
termination_by a => sizeOf a
decreasing_by
  all_goals simp_wf
  · have := List.sizeOf_lt_of_mem ‹_ ∈ xs›; omega
  · have := List.sizeOf_lt_of_mem ‹_ ∈ xs›; simp at this; omega

end Datum

end EncodingDrill
