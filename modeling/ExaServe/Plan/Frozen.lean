import ExaServe.Lib.JsonCanonical
import ExaServe.Plan.Topology

namespace ExaServe.Plan

open Lib Control

def numberValue : Number → ℚ
  | .int value => value
  | .float value => value.value

/-- The number converts to a finite double. -/
def isFinite (number : Number) : Bool := |numberValue number| < floatLimit

section Freeze

mutual

/-- `deep_freeze`: mappings become sorted pairs. A frozen value is written with the
    arrays its tuples are printed as. -/
def deepFreeze (path : String) : Json → Except Raised Json
  | .null => .ok .null
  | .bool value => .ok (.bool value)
  | .int value => .ok (.int value)
  | .str value => .ok (.str value)
  | .float value =>
    if isFinite (.float value) then .ok (.float value)
    else
      let shown := String.ofList value.text
      .error (planError s!"{path} must be finite, got {shown}")
  | .arr items => (deepFreezeItems path 0 items).map .arr
  | .obj fields => (deepFreezeFields path fields).map fun frozen =>
      .arr ((Json.sortFields frozen).map fun field => .arr [.str field.1, field.2])

def deepFreezeItems (path : String) : Nat → List Json → Except Raised (List Json)
  | _, [] => .ok []
  | index, item :: rest => do
    let first ← deepFreeze s!"{path}[{index}]" item
    let others ← deepFreezeItems path (index + 1) rest
    .ok (first :: others)

def deepFreezeFields (path : String) : List (String × Json) → Except Raised (List (String × Json))
  | [] => .ok []
  | (key, value) :: rest => do
    let first ← deepFreeze s!"{path}.{key}" value
    let others ← deepFreezeFields path rest
    .ok ((key, first) :: others)

end

mutual

/-- What `deep_freeze` returns: no mapping and no float that is not finite. -/
def isFrozen : Json → Bool
  | .float value => isFinite (.float value)
  | .arr items => areFrozen items
  | .obj _ => false
  | _ => true

def areFrozen : List Json → Bool
  | [] => true
  | item :: rest => isFrozen item && areFrozen rest

end

end Freeze

/-- A deeply frozen mapping: pairs in the order of their keys. -/
structure FrozenMap where
  items : List (String × Json)
  sorted : items.Pairwise fun left right => left.1 < right.1
  frozen : ∀ item ∈ items, isFrozen item.2 = true

namespace FrozenMap

def empty : FrozenMap := ⟨[], List.Pairwise.nil, nofun⟩

def get? (map : FrozenMap) (key : String) : Option Json := Json.lookup key map.items

def toJson (map : FrozenMap) : Json := .arr (map.items.map fun item => .arr [.str item.1, item.2])

@[ext] theorem ext {left right : FrozenMap} (same : left.items = right.items) : left = right := by
  cases left
  cases right
  cases same
  rfl

end FrozenMap

end ExaServe.Plan
