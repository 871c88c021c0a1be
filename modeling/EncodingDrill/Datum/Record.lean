import EncodingDrill.Fault

/-!
# Entries of records read from JSON

Reports read records whose entries may be absent, so each entry is looked up with a default.
Looking up an entry of a value that is no record is a fault that names the operation asked for.

* `Datum.getD?`: the entry under a key, or a default when the record lacks it.
* `Datum.items?`: the entries of a record, in their order.
* `Datum.items`: the entries of a value if it is a record, none otherwise.
* `Datum.at?`, `Datum.put?`: the entry under a key that must be there, and a record with an
  entry set; both refuse values that are no record.
-/

namespace EncodingDrill

namespace Datum

def getD? (d : Datum) (k : String) (dflt : Datum) : Except Fault Datum :=
  match d with
  | .obj kvs => .ok ((lookup? kvs k).getD dflt)
  | d => .error (Fault.noAttribute d.kindName "get")

def items? : Datum → Except Fault (List (String × Datum))
  | .obj kvs => .ok kvs
  | d => .error (Fault.noAttribute d.kindName "items")

def items : Datum → List (String × Datum)
  | .obj kvs => kvs
  | _ => []

def keyRefused (d : Datum) : Fault :=
  match d with
  | .list _ => Fault.wrongType "list indices must be integers or slices, not str"
  | .str _ => Fault.wrongType "string indices must be integers, not 'str'"
  | d => Fault.notSubscriptable d.kindName

def at? (d : Datum) (k : String) : Except Fault Datum :=
  match d with
  | .obj kvs => match lookup? kvs k with
    | some v => .ok v
    | none => .error (Fault.missingKey k)
  | d => .error d.keyRefused

/-- A record with the entry under a key set: replaced where it stands, or added at the end. -/
def put? (d : Datum) (k : String) (v : Datum) : Except Fault Datum :=
  match d with
  | .obj kvs =>
    if kvs.any (·.1 == k) then .ok (.obj (kvs.map fun (k', w) => if k' == k then (k', v) else (k', w)))
    else .ok (.obj (kvs ++ [(k, v)]))
  | .list _ => .error (Fault.wrongType "list indices must be integers or slices, not str")
  | d => .error (Fault.wrongType ("'" ++ d.kindName ++ "' object does not support item assignment"))

def elems : Datum → List Datum
  | .list xs => xs
  | _ => []

end Datum

end EncodingDrill
