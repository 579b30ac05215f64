import Walkthrough.Profile
import Walkthrough.Proofs.Primitive
import Walkthrough.Proofs.Table

/-! # Plans without selectors

A plan whose clicks and fills bring no selectors with them is compiled like the plan that does, and to
the same domain: nothing differs but the selectors. -/

namespace Walkthrough

/-! ## Steps -/

/-- A step without the selector of what it clicks on or fills. -/
def Step.withoutSelector : Step → Step
  | .click target _ => .click target .null
  | .fill field value _ => .fill field value .null
  | step => step

@[simp] theorem Step.tag_withoutSelector (step : Step) : step.withoutSelector.tag = step.tag := by
  cases step <;> rfl

namespace Action

/-- An action with an empty selector, if it clicks on something or fills a field. -/
def withoutSelector (action : Action) : Action :=
  if action.kind = "click" ∨ action.kind = "fill" then
    { action with payload := Table.set action.payload "selector" (.str "") }
  else action

@[simp] theorem kind_withoutSelector (action : Action) : action.withoutSelector.kind = action.kind := by
  unfold withoutSelector
  split <;> rfl

theorem get?_withoutSelector (action : Action) {key : String} (h : key ≠ "selector") :
    Table.get? action.withoutSelector.payload key = Table.get? action.payload key := by
  unfold withoutSelector
  split
  · rw [Table.get?_set, if_neg h.symm]
  · rfl

theorem withoutSelector_of_ne {action : Action} (hclick : action.kind ≠ "click")
    (hfill : action.kind ≠ "fill") : action.withoutSelector = action :=
  if_neg (by simp [hclick, hfill])

theorem ofStep_withoutSelector (step : Step) :
    ofStep step.withoutSelector = (ofStep step).map (List.map withoutSelector) := by
  cases step with
  | goto | expect | waitFor | extractTextList | login => rfl
  | click target selector | fill target value selector =>
      simp only [ofStep, Step.withoutSelector]
      cases stripped target <;> rfl

end Action

/-! ## Compiled steps -/

namespace Primitive

/-- A compiled step with an empty selector, if it clicks on something or fills a field. -/
def withoutSelector (p : Primitive) : Primitive :=
  { p with toAction := p.toAction.withoutSelector }

end Primitive

/-! ## Plans -/

/-- A plan without the selectors of what it clicks on and fills. -/
def Plan.withoutSelectors (plan : Plan) : Plan :=
  { plan with steps := plan.steps.map Step.withoutSelector }

theorem Plan.compile_withoutSelectors (plan : Plan) :
    plan.withoutSelectors.compile = plan.compile.map (List.map Primitive.withoutSelector) :=
  compile_map Step.tag_withoutSelector Action.ofStep_withoutSelector plan

/-- The domain is that of a page gone to, which needs no selector. -/
theorem Profile.domainOf_withoutSelector (primitives : List Primitive) :
    domainOf ((primitives.map Primitive.withoutSelector).map Primitive.toAction) =
      domainOf (primitives.map Primitive.toAction) := by
  induction primitives with
  | nil => rfl
  | cons p rest ih =>
      have haction : p.withoutSelector.toAction = p.toAction.withoutSelector := rfl
      rw [List.map_cons, List.map_cons, List.map_cons, domainOf, domainOf, haction,
        Action.kind_withoutSelector, Action.get?_withoutSelector _ (by decide), ih]

end Walkthrough
