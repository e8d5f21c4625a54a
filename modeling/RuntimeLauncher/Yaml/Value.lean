import RuntimeLauncher.Decimal.Binary

/-!
# Values without a schema

Where a file may hold anything, its nodes are read as values: nothing, truth values, integers,
numbers, texts, sequences and mappings.

## Main Definitions

* `Yaml.Value` — a value
* `Yaml.Value.same` — equality of values, where the order of a mapping's entries does not count
* `Yaml.Value.distinctKeys` — no mapping inside the value names one key twice

## Design Notes

A mapping keeps its entries in the order in which they were written. A number that is not an integer
never equals an integer.
-/

namespace RuntimeLauncher.Yaml

/-- A value of any shape. -/
inductive Value where
  | null
  | bool (b : Bool)
  | int (n : Int)
  | float (x : Binary64)
  | string (s : String)
  | seq (items : List Value)
  | map (entries : List (Value × Value))

namespace Value

mutual

/-- Equality of values, with the entries of a mapping in any order. -/
def same : Value → Value → Bool
  | .null, .null => true
  | .bool a, .bool b => a == b
  | .int a, .int b => a == b
  | .float a, .float b => a.sameValue b
  | .string a, .string b => a == b
  | .seq as, .seq bs => sameItems as bs
  | .map as, .map bs => as.length == bs.length && allAmong as bs
  | _, _ => false
termination_by a b => sizeOf a + sizeOf b

/-- Equality of sequences, item by item. -/
def sameItems : List Value → List Value → Bool
  | [], [] => true
  | a :: as, b :: bs => same a b && sameItems as bs
  | _, _ => false
termination_by as bs => sizeOf as + sizeOf bs

/-- Every entry of the first list is among those of the second. -/
def allAmong : List (Value × Value) → List (Value × Value) → Bool
  | [], _ => true
  | (key, value) :: rest, bs => among key value bs && allAmong rest bs
termination_by as bs => sizeOf as + sizeOf bs

/-- An entry is in the list. -/
def among (key value : Value) : List (Value × Value) → Bool
  | [] => false
  | (otherKey, other) :: rest =>
    (same key otherKey && same value other) || among key value rest
termination_by bs => sizeOf key + sizeOf value + sizeOf bs

end

/-- A key is among the keys of the entries. -/
def keyAmong (key : Value) (entries : List (Value × Value)) : Bool :=
  entries.any fun entry => same key entry.1

mutual

/-- No mapping inside the value has two entries with one key. -/
def distinctKeys : Value → Bool
  | .seq items => distinctItems items
  | .map entries => distinctEntries entries
  | _ => true

/-- `distinctKeys` for each item. -/
def distinctItems : List Value → Bool
  | [] => true
  | item :: rest => distinctKeys item && distinctItems rest

/-- `distinctKeys` inside each entry, and no key again among the later ones. -/
def distinctEntries : List (Value × Value) → Bool
  | [] => true
  | (key, value) :: rest =>
    !keyAmong key rest && distinctKeys key && distinctKeys value && distinctEntries rest

end

end Value

end RuntimeLauncher.Yaml
