import Mathlib.Data.List.Forall2
import Walkthrough.Proofs.Json
import Walkthrough.Proofs.Table

/-! # Normal forms of JSON values

Values are compared as nested maps, where the order of members does not count. The normal form of a
value has a whole number in place of every float of the same value. -/

namespace Walkthrough.Json

/-- The same value but for the order of members. -/
inductive Same : Json → Json → Prop
  | refl (v : Json) : Same v v
  | arr {xs ys : List Json} (items : List.Forall₂ Same xs ys) : Same (.arr xs) (.arr ys)
  | obj {ms ms' : Table Json}
      (members : ∀ key, Option.Rel Same (Table.get? ms key) (Table.get? ms' key)) :
      Same (.obj ms) (.obj ms')

mutual

/-- A value with all floats inside it settled. -/
def settleAll : Json → Json
  | .arr items => .arr (settleItems items)
  | .obj members => .obj (settleMembers members)
  | v => v.settle

/-- Items with all floats inside them settled. -/
def settleItems : List Json → List Json
  | [] => []
  | v :: rest => v.settleAll :: settleItems rest

/-- Members with all floats inside them settled. -/
def settleMembers : Table Json → Table Json
  | [] => []
  | (key, v) :: rest => (key, v.settleAll) :: settleMembers rest

end

theorem settleItems_eq_map (items : List Json) : settleItems items = items.map settleAll := by
  induction items with
  | nil => rfl
  | cons v rest ih => rw [settleItems, ih, List.map_cons]

theorem get?_settleMembers (members : Table Json) (key : String) :
    Table.get? (settleMembers members) key = (Table.get? members key).map settleAll := by
  have hmap : settleMembers members = members.map fun entry => (entry.1, entry.2.settleAll) := by
    induction members with
    | nil => rfl
    | cons entry rest ih => rw [settleMembers, ih, List.map_cons]
  rw [hmap, Table.get?_map_values]

end Walkthrough.Json
