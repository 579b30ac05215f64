import Walkthrough.Proofs.Schema

/-! # The violation that is reported

Relevance puts violations in an order, and one that no other is more relevant than is reported: of those
nearest to the root, one with the last path. -/

namespace Walkthrough.Schema

/-! ## The order of violations -/

instance : Std.TransCmp PathPart.compare where
  eq_swap {a b} := by
    cases a <;> cases b
    case key.key => exact Std.OrientedOrd.eq_swap (α := String)
    case index.index => exact Std.OrientedOrd.eq_swap (α := Nat)
    all_goals rfl
  isLE_trans {a b c} hab hbc := by
    cases a <;> cases b <;> cases c
    case key.key.key => exact Std.TransOrd.isLE_trans (α := String) hab hbc
    case index.index.index => exact Std.TransOrd.isLE_trans (α := Nat) hab hbc
    case key.key.index | key.index.index => rfl
    case key.index.key | index.index.key => cases hbc
    case index.key.key | index.key.index => cases hab

theorem comparePaths_eq (as bs : List PathPart) :
    comparePaths as bs = List.compareLex PathPart.compare as bs := by
  induction as generalizing bs with
  | nil => cases bs <;> rfl
  | cons a as ih =>
      cases bs with
      | nil => rfl
      | cons b bs => rw [comparePaths, List.compareLex_cons_cons, ih]

/-- What is ordered by something of it is ordered as that is. -/
theorem transCmp_on {α β : Type} (cmp : β → β → Ordering) [h : Std.TransCmp cmp] (f : α → β) :
    Std.TransCmp fun x y => cmp (f x) (f y) where
  eq_swap := h.eq_swap
  isLE_trans := h.isLE_trans

theorem Violation.compare_eq : Violation.compare =
    compareLex (fun x y => Ord.compare y.path.length x.path.length)
      (compareLex (fun x y => List.compareLex PathPart.compare x.path y.path)
        (compareLex (compareOn fun x => !x.isWeak) (compareOn fun x => !x.ofKind))) := by
  funext x y
  rw [Violation.compare, comparePaths_eq]
  rfl

instance : Std.TransCmp Violation.compare := by
  have hdepth : Std.TransCmp fun x y : Violation => Ord.compare y.path.length x.path.length :=
    transCmp_on (fun m n : Nat => Ord.compare n m) fun x : Violation => x.path.length
  have hpath : Std.TransCmp fun x y : Violation => List.compareLex PathPart.compare x.path y.path :=
    transCmp_on (List.compareLex PathPart.compare) Violation.path
  rw [Violation.compare_eq]
  infer_instance

/-- What is nearer to the root is more relevant. -/
theorem Violation.compare_of_shorter {x y : Violation} (h : x.path.length < y.path.length) :
    x.compare y = .gt := by
  rw [Violation.compare, Nat.compare_eq_gt.mpr h]
  rfl

/-- Of what is equally near, the one with the later path is more relevant. -/
theorem Violation.compare_of_later {x y : Violation} (hdepth : x.path.length = y.path.length)
    (h : comparePaths x.path y.path = .gt) : x.compare y = .gt := by
  rw [Violation.compare, hdepth, Nat.compare_eq_eq.mpr rfl, h]
  rfl

/-! ## The most relevant violation -/

theorem greatest_mem (first : Violation) (others : List Violation) :
    greatest first others ∈ first :: others := by
  induction others generalizing first with
  | nil => exact List.mem_singleton_self first
  | cons x others ih =>
      rw [greatest, List.foldl_cons]
      split
      · exact List.mem_cons_of_mem first (ih x)
      · rcases List.mem_cons.mp (ih first) with heq | hmem
        · exact List.mem_cons.mpr (.inl heq)
        · exact List.mem_cons_of_mem first (List.mem_cons_of_mem x hmem)

/-- Nothing is more relevant than the greatest. -/
theorem isLE_greatest {first x : Violation} {others : List Violation} (h : x ∈ first :: others) :
    (x.compare (greatest first others)).isLE := by
  induction others generalizing first x with
  | nil =>
      obtain rfl := List.mem_singleton.mp h
      exact Std.ReflCmp.isLE_rfl
  | cons y others ih =>
      rw [greatest, List.foldl_cons]
      split
      · rename_i hgt
        -- The first one is less relevant than the one that takes its place.
        have hfirst : (first.compare y).isLE := by
          rw [Std.OrientedCmp.gt_iff_lt.mp hgt]
          rfl
        rcases List.mem_cons.mp h with rfl | hmem
        · exact Std.TransCmp.isLE_trans hfirst (ih List.mem_cons_self)
        · exact ih hmem
      · rename_i hle
        have hy : (y.compare first).isLE := Ordering.ne_gt_iff_isLE.mp hle
        rcases List.mem_cons.mp h with rfl | hmem
        · exact ih List.mem_cons_self
        · rcases List.mem_cons.mp hmem with rfl | hrest
          · exact Std.TransCmp.isLE_trans hy (ih List.mem_cons_self)
          · exact ih (List.mem_cons_of_mem first hrest)

theorem sharpen_of_plain {x : Violation} (h : x.options = []) (fuel : Nat) : sharpen fuel x = x := by
  cases fuel with
  | zero => rfl
  | succ fuel => rw [sharpen, h]; rfl

/-- Where no violation lists options, the one reported is one that no other is more relevant than. -/
theorem mostRelevant?_of_plain {found : List Violation} {x : Violation}
    (hplain : ∀ y ∈ found, y.options = []) (h : mostRelevant? found = some x) :
    x ∈ found ∧ ∀ y ∈ found, y.compare x ≠ .gt := by
  cases found with
  | nil => cases h
  | cons first others =>
      have hmem := greatest_mem first others
      rw [mostRelevant?, sharpen_of_plain (hplain _ hmem)] at h
      obtain rfl := Option.some.inj h
      exact ⟨hmem, fun y hy => Ordering.ne_gt_iff_isLE.mpr (isLE_greatest hy)⟩

end Walkthrough.Schema
