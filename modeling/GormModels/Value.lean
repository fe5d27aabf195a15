/-!
Values of unknown shape, as they come from JSON and YAML texts and as errors show them.
-/

namespace GormModels

structure Date where
  year : Nat
  month : Nat
  day : Nat
  deriving DecidableEq, Repr

/-- A time of a day, with the offset of its zone in minutes where it is known. -/
structure Moment where
  date : Date
  hour : Nat
  minute : Nat
  second : Nat
  microsecond : Nat
  offset : Option Int
  deriving DecidableEq, Repr

inductive Value
  | null
  | bool (b : Bool)
  | int (i : Int)
  | float (x : Float)
  | text (s : String)
  | bytes (bs : List UInt8)
  | date (d : Date)
  | moment (m : Moment)
  | list (items : List Value)
  | set (items : List Value)
  | pair (first second : Value)
  | map (entries : List (Value × Value))
  /-- A list or map that this value stands in. -/
  | outerList
  | outerMap
  deriving Repr, Inhabited

namespace Value

def isNull : Value → Bool
  | null => true
  | _ => false

/-- Whether a value counts as something given: not null, false, zero or empty. -/
def isTruthy : Value → Bool
  | null => false
  | bool b => b
  | int i => i != 0
  | float x => x != 0
  | text s => s != ""
  | bytes bs => !bs.isEmpty
  | date _ => true
  | moment _ => true
  | list items => !items.isEmpty
  | set items => !items.isEmpty
  | pair _ _ => true
  | map entries => !entries.isEmpty
  | outerList | outerMap => true

mutual

/-- Equality of values as keys: numbers compare by what they count, whatever their form. -/
def same : Value → Value → Bool
  | null, null => true
  | bool a, bool b => a == b
  | bool a, int j => (if a then 1 else 0) == j
  | int i, bool b => i == (if b then 1 else 0)
  | int i, int j => i == j
  | float x, float y => x == y
  | int i, float y => Float.ofInt i == y
  | float x, int j => x == Float.ofInt j
  | text s, text t => s == t
  | bytes a, bytes b => a == b
  | date a, date b => a == b
  | moment a, moment b => a == b
  | list a, list b => sameAll a b
  | _, _ => false

def sameAll : List Value → List Value → Bool
  | [], [] => true
  | a :: as, b :: bs => same a b && sameAll as bs
  | _, _ => false

end

/-- Entries with one of them set: a key that is there keeps its place, a new one goes to the end. -/
def insert (key value : Value) : List (Value × Value) → List (Value × Value)
  | [] => [(key, value)]
  | (k, v) :: rest => if k.same key then (k, value) :: rest else (k, v) :: insert key value rest

end Value

end GormModels
