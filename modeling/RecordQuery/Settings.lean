import RecordQuery.Filter.Compile
import RecordQuery.Json.Basic
import RecordQuery.Page.Paginator

/-!
# `RecordQuery.Settings` — options and limits as JSON

Settings are an object of named values or an array of values in order. What is left out takes its
default, and names that mean nothing are passed over.
-/

namespace RecordQuery.Settings

/-- The values of the settings with these names, as far as they are given. -/
def given? (names : List String) : Json → Option (List (Option Json))
  | .object fields =>
    some (names.map fun name => (fields.find? fun f => Json.text? f.1 == some name).map (·.2))
  | .array items =>
    if names.length < items.length then none
    else some (items.map some ++ List.replicate (names.length - items.length) none)
  | _ => none

/-- A truth value, or the default where none is given. -/
def boolean? (default : Bool) : Option Json → Option Bool
  | none => some default
  | some (.boolean b) => some b
  | some _ => none

/-- A count, null, or null where nothing is given. -/
def count? : Option Json → Option (Option Nat)
  | none | some .null => some none
  | some (.number n) =>
    n.integer?.bind fun n => if 0 ≤ n ∧ n < 2 ^ 64 then some (some n.toNat) else none
  | some _ => none

/-- The options of the filter compiler. -/
def compileOptions? (document : Json) : Option Filter.CompileOptions :=
  match given? ["null_guards", "parameterize_values"] document with
  | some [guards, parameters] => do
    some ⟨← boolean? true guards, ← boolean? false parameters⟩
  | _ => none

/-- The limits of a paginator. -/
def pageLimits? (document : Json) : Option PageLimits :=
  match given? ["max_page_size"] document with
  | some [greatest] => (count? greatest).map fun greatest => ⟨greatest⟩
  | _ => none

end RecordQuery.Settings
