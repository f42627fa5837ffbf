import OpenCloud.Lib.Dicts
import OpenCloud.Lib.Floats

/-!
# Values of JSON

A value as `json.loads` gives it, and what Python does with one: its truth, `x or y`, `x.get(key)`,
a loop over it. What a value of the wrong kind raises is a `PyError`.

`Json.Fields` are the values that may stand before `.get` once `or {}` has replaced the false ones,
and `Json.Iterable` those that a loop may run over once `or []` has (`get_or_empty_eq_ok`,
`iterate_iff`).
-/

namespace OpenCloud

/-- What is raised for a value of the wrong kind. -/
inductive PyError where
  | attributeError
  | typeError
  deriving DecidableEq

/-- A value of JSON. -/
inductive Json where
  | null
  | bool (b : Bool)
  | int (n : ℤ)
  | float (x : PyFloat)
  | string (s : String)
  | list (items : List Json)
  | object (fields : List (String × Json))

namespace Json

/-- `bool(x)`. -/
def truth : Json → Bool
  | null => false
  | bool b => b
  | int n => n != 0
  | float x => x != .ofRat 0
  | string s => s != ""
  | list items => !items.isEmpty
  | object fields => !fields.isEmpty

/-- `x or y`. -/
def or (x y : Json) : Json := if x.truth then x else y

/-- `x.get(key)`; what an object does not have is null. -/
def get (key : String) : Json → Except PyError Json
  | object fields => .ok ((Dict.get? fields key).getD null)
  | _ => .error .attributeError

/-- The value under a key of an object; null elsewhere. -/
def entry (x : Json) (key : String) : Json :=
  match x with
  | object fields => (Dict.get? fields key).getD null
  | _ => null

/-- The items of a loop over `x`: those of a list, the letters of a text, the keys of an object. -/
def iterate : Json → Except PyError (List Json)
  | list items => .ok items
  | string s => .ok (s.toList.map fun ch => string (String.singleton ch))
  | object fields => .ok (fields.map fun e => string e.1)
  | _ => .error .typeError

/-- `isinstance(x, dict)`. -/
def isObject : Json → Bool
  | object _ => true
  | _ => false

/-- `{}`. -/
def empty : Json := object []

/-- `x or {}` is an object. -/
def Fields (x : Json) : Prop := x.truth = false ∨ x.isObject = true

instance : DecidablePred Fields := fun _ => inferInstanceAs (Decidable (_ ∨ _))

/-- `x or []` can be looped over. -/
def Iterable (x : Json) : Prop :=
  match x with
  | list _ | string _ | object _ => True
  | x => x.truth = false

variable {x y : Json} {key : String}

/-- What `or {}` makes an object of can be looked into. -/
theorem get_or_empty_eq_ok : (x.or empty).get key = .ok y ↔ x.Fields ∧ x.entry key = y := by
  unfold Json.or Fields
  cases x with
  | object fields => cases fields <;> simp [truth, get, empty, entry, isObject, Dict.get?]
  | list items => cases items <;> simp [truth, get, empty, entry, isObject, Dict.get?]
  | string s => by_cases hs : s = "" <;> simp [truth, get, empty, entry, isObject, Dict.get?, hs]
  | null => simp [truth, get, empty, entry, isObject, Dict.get?]
  | bool b => cases b <;> simp [truth, get, empty, entry, isObject, Dict.get?]
  | int n => by_cases hn : n = 0 <;> simp [truth, get, empty, entry, isObject, Dict.get?, hn]
  | float f =>
    by_cases hf : f = .ofRat 0 <;> simp [truth, get, empty, entry, isObject, Dict.get?, hf]

theorem get_or_empty (h : x.Fields) : (x.or empty).get key = .ok (x.entry key) :=
  get_or_empty_eq_ok.2 ⟨h, rfl⟩

theorem iterate_iff : (∃ items, (x.or (list [])).iterate = .ok items) ↔ x.Iterable := by
  unfold or Iterable
  cases x with
  | list items => cases items <;> simp [truth, iterate]
  | string s => by_cases hs : s = "" <;> simp [truth, iterate, hs]
  | object fields => cases fields <;> simp [truth, iterate]
  | null => simp [truth, iterate]
  | bool b => cases b <;> simp [truth, iterate]
  | int n => by_cases hn : n = 0 <;> simp [truth, iterate, hn]
  | float f => by_cases hf : f = .ofRat 0 <;> simp [truth, iterate, hf]

end Json

end OpenCloud
