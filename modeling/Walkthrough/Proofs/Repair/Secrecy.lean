import Walkthrough.Page
import Walkthrough.Proofs.Repair.History
import Walkthrough.Proofs.Run.Secrecy

/-! # What the values of secrets reach in a repair

A repair with other values for the same secrets does the same, deed by deed: the same plans are run
with the same reports, the adapter is shown the same, and the same files are written. -/

namespace Walkthrough.Repair

open Effect

variable {σ : Type} {same : σ → σ → Prop} {host host' : Host σ} {options : RunOptions}
  {adapter : Adapter} {patience : Json} {number : Nat} {plan : Plan} {report : Report}
  {w v w' : World σ}

/-! ## Parts of a repair -/

theorem respects_readSnapshot (artifacts : Artifacts) :
    Respects (World.Alike same) (readSnapshot artifacts : Work σ String) := by
  unfold readSnapshot
  cases artifacts.snapshot with
  | none => exact lockstep_pure rfl
  | some path =>
      exact (World.Alike.respects_look _).handling fun _ =>
        (World.Alike.respects_note _ _).bind_eq fun _ => lockstep_pure rfl

theorem respects_ask (request : Request) :
    Respects (World.Alike same) (ask adapter patience number request : Work σ Patch) := by
  unfold ask
  split
  · exact lockstep_throw _
  · refine Lockstep.bind_eq (lockstep_modify fun _ _ h => h.record (.same _)) fun _ =>
      Lockstep.bind_eq (lockstep_modify fun _ _ => ?_) fun _ => respects_ofExcept _
    exact World.Alike.map (fun w => { w with files := adapter.touch number request w.files })
      fun _ _ _ => rfl

theorem respects_proposedPlan (request : Request) :
    Respects (World.Alike same)
      (proposedPlan adapter patience number plan request : Work σ (String × Option Plan)) := by
  refine (respects_ask request).bind_eq fun patch => ?_
  split
  · exact lockstep_pure rfl
  · exact (respects_ofExcept _).bind_eq fun _ => lockstep_pure rfl

theorem respects_conclude (proposed : Except Failure (String × Option Plan)) :
    Respects (World.Alike same) (conclude number proposed : Work σ Turn) := by
  match proposed with
  | .ok (reason, none) => exact (World.Alike.respects_note _ _).bind_eq fun _ => lockstep_pure rfl
  | .ok (reason, some repaired) => exact lockstep_pure rfl
  | .error failure =>
      cases failure with
      | adapterTimeout | model | patchRejected =>
          exact (World.Alike.respects_note _ _).bind_eq fun _ => lockstep_pure rfl
      | _ => exact lockstep_throw _

theorem respects_attempt :
    Respects (World.Alike same) (attempt adapter patience number plan report : Work σ Turn) := by
  rw [attempt_eq]
  exact (respects_readSnapshot _).bind_eq fun snapshot =>
    (respects_proposedPlan (requestFor plan report snapshot)).attempt_eq.bind_eq fun proposed =>
      respects_conclude proposed

theorem respects_keepPlan (runDir : String) :
    Respects (World.Alike same) (keepPlan runDir number plan : Work σ Unit) :=
  (World.Alike.respects_writeFile _ _).handling fun _ => World.Alike.respects_note _ _

/-! ## Deeds -/

/-- The same deeds, in worlds that are the same but for what fields were filled with. -/
inductive Deed.Alike (same : σ → σ → Prop) : Deed σ → Deed σ → Prop
  | ran {plan : Plan} {before before' after after' : World σ} {result : Except Failure Report}
      (start : World.Alike same before before') (finish : World.Alike same after after') :
      Deed.Alike same (.ran plan before result after) (.ran plan before' result after')
  | attempted (number : Nat) (request : Request) (answer : Option Answer)
      (turn : Except Failure Turn) :
      Deed.Alike same (.attempted number request answer turn)
        (.attempted number request answer turn)
  | kept {path : Path} {plan : Plan} {before before' after after' : World σ} {done : Bool}
      (start : World.Alike same before before') (finish : World.Alike same after after') :
      Deed.Alike same (.kept path plan before done after) (.kept path plan before' done after')

/-- The same reports or failures, in worlds that are the same but for what fields were filled
with. -/
structure EndsAlike (same : σ → σ → Prop) (ending ending' : Ending σ) : Prop where
  answer : ending'.1 = ending.1
  world : World.Alike same ending.2 ending'.2

theorem Attempted.alike {request : Request} {answer : Option Answer} {turn : Except Failure Turn}
    (h : Attempted adapter patience number plan report w request answer turn w')
    (hw : World.Alike same w v) :
    ∃ v', Attempted adapter patience number plan report v request answer turn v' ∧
      World.Alike same w' v' := by
  obtain ⟨v', hv', halike⟩ := respects_attempt.outcome_eq hw h.execution
  obtain ⟨snapshot, hsnapshot, rfl⟩ := h.shown
  rw [← hw.files_eq] at hsnapshot
  obtain ⟨_, _, _, _, hattempt⟩ := exists_attempted adapter patience number plan report v hsnapshot
  obtain ⟨_, hshown, rfl⟩ := hattempt.shown
  obtain rfl := Except.ok.inj (hsnapshot.symm.trans hshown)
  obtain rfl := h.answered.trans hattempt.answered.symm
  obtain ⟨rfl, rfl⟩ := Prod.mk.inj (hattempt.execution.symm.trans hv')
  exact ⟨_, hattempt, halike⟩

/-- Trying to keep a plan that goes well is what `Kept` says, and it depends on the files alone
whether the plan is kept. -/
theorem kept_of_execution {runDir : String}
    (h : outcome (keepPlan runDir number plan) w = (.ok (), w')) :
    Kept runDir number plan w
      (w.files.write (planFile runDir number) (.text plan.redact.text)).isOk w' := by
  have hstep := h
  simp only [keepPlan, outcome_handling, Work.writeFile, outcome_bind, outcome_get] at hstep
  cases hwrite : w.files.write (planFile runDir number) (.text plan.redact.text) with
  | ok files =>
      rw [hwrite] at hstep
      exact ⟨h, files, hwrite, (Prod.mk.inj hstep).2.symm⟩
  | error failure =>
      simp only [hwrite, Work.record, outcome_modify, outcome_bind, outcome_throw] at hstep
      obtain ⟨w'', hnote, hlogged⟩ := outcome_note .error
        (Failure.noArtifact (.repairedPlan (planFile runDir number).text) failure.message).message
        { w with events := w.events ++ [.write (planFile runDir number).text false] }
      split at hstep
      · obtain ⟨-, rfl⟩ := Prod.mk.inj (hnote.symm.trans hstep)
        exact ⟨h, ⟨failure, hwrite⟩, hlogged⟩
      · cases hstep

theorem Kept.alike {runDir : String} {done : Bool} (h : Kept runDir number plan w done w')
    (hw : World.Alike same w v) :
    ∃ v', Kept runDir number plan v done v' ∧ World.Alike same w' v' := by
  obtain ⟨v', hv', halike⟩ := (respects_keepPlan runDir).outcome_eq hw h.execution
  refine ⟨v', ?_, halike⟩
  rw [h.done_eq, ← hw.files_eq]
  exact kept_of_execution hv'

theorem Patched.alike {request : Request} {answer : Option Answer} {repaired : Plan}
    {reason : String} {done : Bool} {w₁ w₂ w₃ : World σ}
    (h : Patched adapter patience number plan report w request answer repaired reason w₁ done w₂ w₃)
    (hw : World.Alike same w v) :
    ∃ v₁ v₂ v₃,
      Patched adapter patience number plan report v request answer repaired reason v₁ done v₂ v₃ ∧
      World.Alike same w₁ v₁ ∧ World.Alike same w₂ v₂ ∧ World.Alike same w₃ v₃ := by
  obtain ⟨v₁, hattempt, h₁⟩ := h.attempt.alike hw
  obtain ⟨v₂, hkept, h₂⟩ := h.kept.alike h₁
  obtain ⟨v₃, hannounced, h₃⟩ := (World.Alike.respects_note _ _).outcome_eq h₂ h.announced
  exact ⟨v₁, v₂, v₃, ⟨hattempt, hkept, hannounced⟩, h₁, h₂, h₃⟩

/-! ## Histories -/

/-- What follows on a report, follows on it with other values for the same secrets. -/
theorem Rounds.alike (hgiven : Run.GivenAlike same host host') {left : Nat} {deeds : List (Deed σ)}
    {ending : Ending σ}
    (h : Rounds host options adapter patience left number plan report w deeds ending)
    (hw : World.Alike same w v) :
    ∃ deeds' ending',
      Rounds host' options adapter patience left number plan report v deeds' ending' ∧
      List.Forall₂ (Deed.Alike same) deeds deeds' ∧ EndsAlike same ending ending' := by
  induction h generalizing v with
  | spent => exact ⟨_, _, .spent, .nil, rfl, hw⟩
  | passed passed => exact ⟨_, _, .passed passed, .nil, rfl, hw⟩
  | unread failed unread attempt =>
      obtain ⟨v', hv', halike⟩ := respects_attempt.outcome_eq hw attempt
      exact ⟨_, _, .unread failed (by rwa [hw.files_eq]) hv', .nil, rfl, halike⟩
  | raised failed attempt =>
      obtain ⟨v', hattempt, halike⟩ := attempt.alike hw
      exact ⟨_, _, .raised failed hattempt, .cons (.attempted ..) .nil, rfl, halike⟩
  | stopped failed attempt =>
      obtain ⟨v', hattempt, halike⟩ := attempt.alike hw
      exact ⟨_, _, .stopped failed hattempt, .cons (.attempted ..) .nil, rfl, halike⟩
  | again failed attempt _ ih =>
      obtain ⟨v', hattempt, halike⟩ := attempt.alike hw
      obtain ⟨deeds', ending', hrest, hdeeds, hends⟩ := ih halike
      exact ⟨_, _, .again failed hattempt hrest, .cons (.attempted ..) hdeeds, hends⟩
  | crashed failed patched run =>
      obtain ⟨v₁, v₂, v₃, hpatched, h₁, h₂, h₃⟩ := patched.alike hw
      obtain ⟨v', hrun, halike⟩ := (hgiven.run _ _).outcome_eq h₃ run
      exact ⟨_, _, .crashed failed hpatched hrun,
        .cons (.attempted ..) (.cons (.kept h₁ h₂) (.cons (.ran h₃ halike) .nil)), rfl, halike⟩
  | repaired failed patched run _ ih =>
      obtain ⟨v₁, v₂, v₃, hpatched, h₁, h₂, h₃⟩ := patched.alike hw
      obtain ⟨v', hrun, halike⟩ := (hgiven.run _ _).outcome_eq h₃ run
      obtain ⟨deeds', ending', hrest, hdeeds, hends⟩ := ih halike
      exact ⟨_, _, .repaired failed hpatched hrun hrest,
        .cons (.attempted ..) (.cons (.kept h₁ h₂) (.cons (.ran h₃ halike) hdeeds)), hends⟩

theorem History.alike (hgiven : Run.GivenAlike same host host') {maxAttempts : Int}
    {deeds : List (Deed σ)} {ending : Ending σ}
    (h : History host options adapter patience maxAttempts plan w deeds ending)
    (hw : World.Alike same w v) :
    ∃ deeds' ending', History host' options adapter patience maxAttempts plan v deeds' ending' ∧
      List.Forall₂ (Deed.Alike same) deeds deeds' ∧ EndsAlike same ending ending' := by
  cases h with
  | crashed run =>
      obtain ⟨v', hrun, halike⟩ := (hgiven.run _ _).outcome_eq hw run
      exact ⟨_, _, .crashed hrun, .cons (.ran hw halike) .nil, rfl, halike⟩
  | dry dry run =>
      obtain ⟨v', hrun, halike⟩ := (hgiven.run _ _).outcome_eq hw run
      exact ⟨_, _, .dry dry hrun, .cons (.ran hw halike) .nil, rfl, halike⟩
  | live live run rest =>
      obtain ⟨v', hrun, halike⟩ := (hgiven.run _ _).outcome_eq hw run
      obtain ⟨deeds', ending', hrest, hdeeds, hends⟩ := rest.alike hgiven halike
      exact ⟨_, _, .live live hrun hrest, .cons (.ran hw halike) hdeeds, hends⟩

/-- A repair with other values for the same secrets does the same and ends in the same way; only what
fields are filled with may differ. -/
theorem runWithRepair_hides_secrets {b : Browser σ} (hides : b.Hides same)
    {store store' : Secret.Store} (hnames : store.SameNames store')
    (environment environment' : Table String) (options : RunOptions) (adapter : Adapter)
    (patience : Json) (maxAttempts : Int) (plan : Plan) (w : World σ) :
    let host : Host σ := ⟨b, environment, some store⟩
    let host' : Host σ := ⟨b, environment', some store'⟩
    (∃ deeds ending, History host options adapter patience maxAttempts plan w deeds ending) ∧
      ∀ deeds ending, History host options adapter patience maxAttempts plan w deeds ending →
        ∃ deeds' ending',
          History host' options adapter patience maxAttempts plan w deeds' ending' ∧
          outcome (runWithRepair host options adapter patience maxAttempts plan) w = ending ∧
          outcome (runWithRepair host' options adapter patience maxAttempts plan) w = ending' ∧
          List.Forall₂ (Deed.Alike same) deeds deeds' ∧ EndsAlike same ending ending' := by
  intro host host'
  have hgiven : Run.GivenAlike same host host' := ⟨rfl, hides, store, store', rfl, rfl, hnames⟩
  refine ⟨exists_history host options adapter patience maxAttempts plan w, ?_⟩
  intro deeds ending h
  obtain ⟨deeds', ending', h', hdeeds, hends⟩ := h.alike hgiven (.refl hides w)
  exact ⟨deeds', ending', h', h.execution, h'.execution, hdeeds, hends⟩

/-- A scripted page does not even keep what its fields are filled with. -/
theorem hides_page : Page.browser.Hides Eq where
  refl _ := rfl
  url h := h ▸ rfl
  reply _ _ _ h := h ▸ ⟨rfl, rfl, rfl⟩
  innerText _ _ _ _ h := h ▸ ⟨rfl, rfl, rfl⟩
  fill _ _ _ _ _ _ h := h ▸ ⟨rfl, rfl, rfl⟩

/-- The texts that fields were filled with. -/
def filledTexts (events : List Event) : List String :=
  events.filterMap fun
    | .call (.fill _ s _) => some s
    | _ => none

/-- Two values for a password are filled in, and nothing else differs. -/
theorem runWithRepair_hides_secrets_password :
    let page : Json := .str "https://example.com/"
    let p : Plan := ⟨.str "1", .null, .null,
      [.goto page, .fill (.str "Password") (.str "$\x7bSECRET:PASSWORD\x7d") .null]⟩
    let shown : Page := { Page.blank with elements := [("label:Password", [])] }
    let w : World Page := ⟨shown, 0, .empty [], .empty Profile.defaultDomain, 0, [], [], []⟩
    let store : Secret.Store := [("PASSWORD", "alpha")]
    let store' : Secret.Store := [("PASSWORD", "beta")]
    Page.browser.Hides Eq ∧ store.SameNames store' ∧
      ∃ deeds ending deeds' ending',
        History ⟨Page.browser, [], some store⟩ .usual builtIn defaultPatience 3 p w deeds ending ∧
        History ⟨Page.browser, [], some store'⟩ .usual builtIn defaultPatience 3 p w deeds' ending' ∧
        List.Forall₂ (Deed.Alike Eq) deeds deeds' ∧ EndsAlike Eq ending ending' ∧
        filledTexts ending.2.events = ["alpha"] ∧ filledTexts ending'.2.events = ["beta"] := by
  intro page p shown w store store'
  have hnames : store.SameNames store' := by
    intro name
    by_cases hname : name = "PASSWORD"
    · subst hname
      decide
    · simp [store, store', Secret.Store.value?, Table.get?, Ne.symm hname]
  obtain ⟨⟨deeds, ending, h⟩, hall⟩ := runWithRepair_hides_secrets hides_page hnames [] []
    .usual builtIn defaultPatience 3 p w
  obtain ⟨deeds', ending', h', hending, hending', hdeeds, hends⟩ := hall deeds ending h
  refine ⟨hides_page, hnames, deeds, ending, deeds', ending', h, h', hdeeds, hends, ?_, ?_⟩
  · rw [← hending]
    decide +kernel
  · rw [← hending']
    decide +kernel

end Walkthrough.Repair
