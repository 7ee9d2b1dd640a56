import Mathlib.Data.List.Dedup
import Mathlib.Data.List.Sort

/-!
# PinkGlasses.Lib.Jsonb

The `jsonb` values of PostgreSQL and the operators on them, as the manual describes them.

SQL `NULL` is `none`, which is **not** the value `null`: an operator given `NULL` answers `NULL`,
one given `null` treats it as a scalar. An object is its entries; of two entries with one key the
first counts, and `||` puts the right-hand entries first, so `get` alone says what an object is.
-/

namespace Lib

/-- A `jsonb` value. -/
inductive Jsonb
  | null
  | boolean (b : Bool)
  | number (n : Int)
  | string (s : String)
  | array (vs : List Jsonb)
  | object (kvs : List (String × Jsonb))

namespace Jsonb

/-- `v -> 'k'`. -/
def get (k : String) : Jsonb → Option Jsonb
  | object kvs => kvs.lookup k
  | _ => none

/-- The elements `||` concatenates when not both sides are objects. -/
def elements : Jsonb → List Jsonb
  | array vs => vs
  | v => [v]

/-- `v || w`: two objects are merged, and the right-hand value is taken for every key it has;
anything else is made an array and appended. -/
def concat : Jsonb → Jsonb → Jsonb
  | object kvs, object kvs' => object (kvs' ++ kvs)
  | v, w => array (v.elements ++ w.elements)

/-- `v -> 'k'` of a value that may be `NULL`. -/
def at? (v : Option Jsonb) (k : String) : Option Jsonb := v.bind (get k)

/-- `CASE WHEN jsonb_typeof(v) = 'object' THEN v ELSE '{}' END`. -/
def orObject : Option Jsonb → Jsonb
  | some (object kvs) => object kvs
  | _ => object []

/-- `CASE WHEN jsonb_typeof(v) = 'array' THEN v ELSE '[]' END`. -/
def orArray : Option Jsonb → Jsonb
  | some (array vs) => array vs
  | _ => array []

section Elements

variable (text : Jsonb → String)

/-- An element as `jsonb_array_elements_text` gives it; `text` is how a value other than a string or
`null` is printed. -/
def elementText : Jsonb → Option String
  | null => none
  | string s => some s
  | v => some (text v)

/-- `jsonb_array_elements_text(v)`. -/
def elementsText : Jsonb → List (Option String)
  | array vs => vs.map (elementText text)
  | _ => []

end Elements

/-- `COALESCE(jsonb_agg(DISTINCT c ORDER BY c), '[]')`; a `NULL` comes last, as `null`. -/
def aggDistinct (cs : List (Option String)) : Jsonb :=
  array (((cs.filterMap id).dedup.insertionSort (· ≤ ·)).map string ++
    if none ∈ cs then [null] else [])

/-- The value is neither `null` nor empty. -/
def filled : Jsonb → Bool
  | null => false
  | string s => s != ""
  | array vs => !vs.isEmpty
  | object kvs => !kvs.isEmpty
  | boolean _ | number _ => true

/-- The strings of an array. -/
def strings : Jsonb → List String
  | array vs => vs.filterMap fun | string s => some s | _ => none
  | _ => []

/-! ### What the operators do to an object -/

@[simp] theorem get_object (k : String) (kvs : List (String × Jsonb)) :
    (object kvs).get k = kvs.lookup k := rfl

/-- Strings are aggregated into an array of strings. -/
theorem aggDistinct_some (ss : List String) :
    aggDistinct (ss.map some) = array ((ss.dedup.insertionSort (· ≤ ·)).map string) := by
  have hnull : none ∉ ss.map some := by simp
  rw [aggDistinct, if_neg hnull, List.append_nil, List.filterMap_map, Function.id_comp,
    List.filterMap_some]

/-- The texts of an array of strings are the strings. -/
theorem elementsText_strings (text : Jsonb → String) (ss : List String) :
    elementsText text (array (ss.map string)) = ss.map some := by
  simp [elementsText, elementText]

@[simp] theorem strings_map (ss : List String) : (array (ss.map string)).strings = ss := by
  simp [strings, List.filterMap_map]

end Jsonb

end Lib
