import Walkthrough.Proofs.Plan.Compile
import Walkthrough.Proofs.Plan.Language
import Walkthrough.Proofs.Repair.Conduct
import Walkthrough.Proofs.Repair.Intent

/-! # Where a browser goes

A browser goes where a plan says and nowhere else. The grammar asks of the URLs of a plan that they have
a scheme and an authority; which scheme, and whether the authority names a host, it does not ask. -/

namespace Walkthrough

open Effect

/-! ## URLs -/

namespace Url

/-- A URL with the scheme http or https and with a host. -/
def IsWeb (s : String) : Prop :=
  ∃ url, split s = .ok url ∧ (url.scheme = "http".toList ∨ url.scheme = "https".toList) ∧
    url.host ≠ []

theorem host_of_authority {url : Url} (h : url.authority = []) : url.host = [] := by
  obtain ⟨scheme, authority⟩ := url
  obtain rfl : authority = [] := h
  rfl

/-- Of a URL of the web, less is asked for it to be absolute. -/
theorem IsWeb.isAbsolute {s : String} (h : IsWeb s) : Url.isAbsolute s = .ok true := by
  obtain ⟨url, hsplit, hscheme, hhost⟩ := h
  refine isAbsolute_eq_true_iff.mpr ⟨url, hsplit, ?_, mt host_of_authority hhost⟩
  rcases hscheme with hscheme | hscheme <;> simp [hscheme]

end Url

/-! ## Plans -/

namespace Step

theorem reads_goto_iff {s : String} :
    Reads (Step.goto (.str s)).toJson (.goto (.str s)) ↔ Url.isAbsolute s = .ok true := by
  constructor
  · intro h
    obtain ⟨t, ht, -, habsolute⟩ : FieldKind.url.Admits (.str s) :=
      h.admits "url" (by simp [fields]) (by simp [shape, tag]) (by simp [shape, tag])
    rwa [Json.str.inj ht]
  · intro h
    have hurl : Json.IsUrl (.str s) := by
      refine ⟨s, rfl, ?_, Url.isAbsolute_eq_true_iff.mp h⟩
      rintro rfl
      cases h
    refine ⟨_, rfl, (conforms_iff_form (tag_mem_tags _)).mpr
      ⟨rfl, ?_, fun _ hnone => absurd hnone List.not_mem_nil, ?_⟩, rfl⟩
    · simpa [members, entries, tag, fields, Json.isSet, Table.get?_cons] using hurl
    · intro key v hv
      have hmem := Table.mem_of_get? hv
      simp [tag, fields, Json.isSet] at hmem
      rcases hmem with ⟨rfl, -⟩ | ⟨rfl, -⟩ <;> simp

end Step

namespace Plan

/-- A plan visits a URL: one of its steps says to go there. -/
def Visits (p : Plan) (url : String) : Prop :=
  Step.goto (.str url) ∈ p.steps

/-- The base URL of a plan, if there is one, and the URLs that the plan goes to are absolute. -/
structure IsAbsolute (p : Plan) : Prop where
  base (h : p.baseUrl.isSet) : ∃ s, p.baseUrl = .str s ∧ Url.isAbsolute s = .ok true
  goto {v : Json} (h : Step.goto v ∈ p.steps) : ∃ s, v = .str s ∧ Url.isAbsolute s = .ok true

variable {p : Plan}

theorem Accepted.isAbsolute (hp : p.Accepted) : p.IsAbsolute where
  base h := by
    obtain ⟨-, -, hbase, -⟩ := accepted_iff.mp hp
    obtain ⟨s, hs, -, habsolute⟩ := hbase h
    exact ⟨s, hs, habsolute⟩
  goto {v} h := by
    obtain ⟨s, hs, -, habsolute⟩ : FieldKind.url.Admits v := (hp.reads _ h).admits "url"
      (by simp [Step.fields]) (by simp [Step.shape, Step.tag]) (by simp [Step.shape, Step.tag])
    exact ⟨s, hs, habsolute⟩

/-- One more step that goes to a URL is accepted if and only if the URL is absolute. -/
theorem Accepted.append_goto_iff (hp : p.Accepted) {s : String} :
    ({ p with steps := p.steps ++ [.goto (.str s)] } : Plan).Accepted ↔
      Url.isAbsolute s = .ok true := by
  obtain ⟨hversion, hname, hbase, -, hreads⟩ := accepted_iff.mp hp
  rw [accepted_iff, ← Step.reads_goto_iff]
  constructor
  · rintro ⟨-, -, -, -, hall⟩
    exact hall _ (by simp)
  · intro hgoto
    refine ⟨hversion, hname, hbase, by simp, fun t ht => ?_⟩
    rcases List.mem_append.mp ht with ht | ht
    · exact hreads t ht
    · exact List.mem_singleton.mp ht ▸ hgoto

/-- Another base URL is accepted if and only if it is absolute. -/
theorem Accepted.base_iff (hp : p.Accepted) {s : String} :
    ({ p with baseUrl := .str s } : Plan).Accepted ↔ Url.isAbsolute s = .ok true := by
  obtain ⟨hversion, hname, -, hsteps, hreads⟩ := accepted_iff.mp hp
  constructor
  · intro h
    obtain ⟨t, ht, habsolute⟩ := h.isAbsolute.base rfl
    rwa [Json.str.inj ht]
  · intro h
    refine accepted_iff.mpr ⟨hversion, hname, fun _ => ⟨s, rfl, ?_, h⟩, hsteps, hreads⟩
    rintro rfl
    cases h

/-- A compiled step that goes to a page goes where its plan does. -/
theorem visits_of_mem_compile {primitives : List Primitive} (h : p.compile = .ok primitives)
    {primitive : Primitive} (hmem : primitive ∈ primitives) (hkind : primitive.kind = "goto")
    {url : String} (hurl : Stage.ensureText primitive.payload "url" = .ok url) : p.Visits url := by
  obtain ⟨step, hstep, actions, hactions, haction⟩ := exists_of_mem_compile h hmem
  rcases Action.kind_of_ofStep hactions haction with htag | ⟨-, hother⟩
  · rw [hkind] at htag
    cases step with
    | goto v =>
        obtain rfl := Except.ok.inj hactions
        rw [show primitive.payload = _ from congrArg Action.payload (List.mem_singleton.mp haction)]
          at hurl
        unfold Stage.ensureText at hurl
        simp only [Table.get?_cons, if_true] at hurl
        split at hurl
        · split at hurl
          · cases hurl
          · rename_i s hs _
            obtain rfl := Option.some.inj hs
            obtain rfl := Except.ok.inj hurl
            exact hstep
        · cases hurl
    | click | fill | expect | login | waitFor | extractTextList => simp [Step.tag] at htag
  · exact absurd hkind hother

end Plan

/-! ## Runs -/

/-- More calls than earlier, of which those that go to a page go to URLs that may be visited. -/
def Visiting (visits : String → Prop) (earlier calls : List Call) : Prop :=
  ∃ more, calls = earlier ++ more ∧ ∀ url limit, .goto url limit ∈ more → visits url

namespace Visiting

variable {visits visits' : String → Prop} {earlier calls calls' : List Call}

theorem refl (visits : String → Prop) (calls : List Call) : Visiting visits calls calls :=
  ⟨[], (List.append_nil calls).symm, nofun⟩

theorem mono (h : Visiting visits earlier calls) (hvisits : ∀ url, visits url → visits' url) :
    Visiting visits' earlier calls := by
  obtain ⟨more, hmore, hvisited⟩ := h
  exact ⟨more, hmore, fun url limit hcall => hvisits url (hvisited url limit hcall)⟩

theorem trans (h : Visiting visits earlier calls) (h' : Visiting visits calls calls') :
    Visiting visits earlier calls' := by
  obtain ⟨more, rfl, hvisited⟩ := h
  obtain ⟨more', rfl, hvisited'⟩ := h'
  refine ⟨more ++ more', List.append_assoc .., fun url limit hcall => ?_⟩
  rcases List.mem_append.mp hcall with hcall | hcall
  · exact hvisited url limit hcall
  · exact hvisited' url limit hcall

end Visiting

/-- Any browser keeps to the URLs that it is sent to. -/
theorem Browser.behaves_visiting {σ : Type} (b : Browser σ) (visits : String → Prop)
    (earlier : List Call) :
    b.Behaves (fun _ => Visiting visits earlier)
      (fun c => ∀ url limit, c = .goto url limit → visits url) fun _ => True where
  called {_ c _} _ hc {_ _} hs := by
    refine ⟨hs.trans ⟨[c], rfl, fun url limit hcall => ?_⟩, fun _ _ => trivial⟩
    exact hc url limit (List.mem_singleton.mp hcall).symm
  read _ _ {_ _} hs := ⟨hs, fun _ _ => trivial⟩

/-- A run goes where its plan does and nowhere else. -/
theorem Run.visits_run {σ : Type} {host : Host σ} {options : RunOptions} {plan : Plan}
    (hplan : plan.Accepted) {answer : Except Failure Report} {w final : World σ}
    (hrun : outcome (run host options plan) w = (answer, final)) :
    Visiting plan.Visits (callsIn w.events) (callsIn final.events) := by
  obtain ⟨primitives, hcompile⟩ : ∃ primitives, plan.compile = .ok primitives :=
    hplan.exists_ofTagged 0 0
  have hconducts : Conducts (fun _ => Visiting plan.Visits (callsIn w.events))
      (fun c => ∀ url limit, c = .goto url limit → plan.Visits url) (fun _ => True) (fun _ => True)
      host options := fun _ _ =>
    Stage.conducts_of_behaves (host.browser.behaves_visiting _ _)
      fun _ hfree url limit hcall => absurd hcall (hfree url limit)
  have hends : Ends (fun _ => Visiting plan.Visits (callsIn w.events)) host options
      (fun _ => True) (fun _ => True) fun _ => True :=
    { action := fun _ _ => trivial
      page := fun _ _ => trivial
      refused := fun _ => trivial
      unkept := fun _ => trivial }
  have hsuits : Suits (fun c => ∀ url limit, c = .goto url limit → plan.Visits url)
      (fun _ => True) options primitives :=
    { admits := fun hmem hkind url hurl other limit hcall => by
        obtain ⟨rfl, -⟩ := Call.goto.inj hcall
        exact Plan.visits_of_mem_compile hcompile hmem hkind hurl
      guards := fun _ _ _ => trivial }
  exact (fair_run hconducts hends hcompile hsuits (.refl _ _) hrun).1

namespace Repair

variable {σ : Type}

/-- The URLs of an accepted plan and of a patched plan are absolute, and any absolute URL will do. A
repair of an accepted plan goes to URLs of the plans that it runs, each while that plan is run, and to no
others: it stays on the web where all these plans do. -/
theorem navigation_is_absolute (host : Host σ) (options : RunOptions) (adapter : Adapter)
    (patience : Json) (maxAttempts : Int) (w : World σ) {raw : Json} {plan : Plan}
    (hplan : Plan.validate raw = .ok plan) :
    (plan.IsAbsolute ∧ ∀ p repaired (patch : Patch), patch.apply p = .ok repaired →
      repaired.IsAbsolute) ∧
    (∀ s, (({ plan with baseUrl := .str s } : Plan).Accepted ↔ Url.isAbsolute s = .ok true) ∧
      (({ plan with steps := plan.steps ++ [.goto (.str s)] } : Plan).Accepted ↔
        Url.isAbsolute s = .ok true)) ∧
    ∃ deeds ending, History host options adapter patience maxAttempts plan w deeds ending ∧
      outcome (runWithRepair host options adapter patience maxAttempts plan) w = ending ∧
      (∀ p before result after, .ran p before result after ∈ deeds → p.IsAbsolute ∧
        Visiting p.Visits (Run.callsIn before.events) (Run.callsIn after.events)) ∧
      Visiting (fun url => ∃ p before result after, .ran p before result after ∈ deeds ∧ p.Visits url)
        (Run.callsIn w.events) (Run.callsIn ending.2.events) ∧
      ((∀ p before result after, .ran p before result after ∈ deeds →
          ∀ url, p.Visits url → Url.IsWeb url) →
        Visiting Url.IsWeb (Run.callsIn w.events) (Run.callsIn ending.2.events)) := by
  have haccepted := Plan.accepted_of_validate hplan
  refine ⟨⟨haccepted.isAbsolute, fun p repaired patch happly =>
    (Patch.accepted_of_apply happly).isAbsolute⟩,
    fun s => ⟨haccepted.base_iff, haccepted.append_goto_iff⟩, ?_⟩
  obtain ⟨deeds, ending, h⟩ := exists_history host options adapter patience maxAttempts plan w
  have hran : ∀ p before result after, .ran p before result after ∈ deeds → p.IsAbsolute ∧
      Visiting p.Visits (Run.callsIn before.events) (Run.callsIn after.events) := by
    intro p before result after hmem
    obtain ⟨hp, -⟩ := h.agrees haccepted hmem
    obtain ⟨runId, hrun⟩ := h.ran hmem
    exact ⟨hp.isAbsolute, Run.visits_run hp hrun⟩
  have hfair : ∀ deed ∈ deeds, deed.LeavesFair fun _ => Visiting
      (fun url => ∃ p before result after, .ran p before result after ∈ deeds ∧ p.Visits url)
      (Run.callsIn w.events) := by
    intro deed hdeed
    cases deed with
    | ran p before result after =>
        intro hbefore
        obtain ⟨-, hvisits⟩ := hran p before result after hdeed
        exact hbefore.trans (hvisits.mono fun url hurl => ⟨p, before, result, after, hdeed, hurl⟩)
    | attempted | kept => trivial
  obtain ⟨-, hvisiting⟩ := h.isFair hfair (.refl _ _)
  refine ⟨deeds, ending, h, h.execution, hran, hvisiting, fun hweb => hvisiting.mono ?_⟩
  rintro url ⟨p, before, result, after, hmem, hurl⟩
  exact hweb p before result after hmem url hurl

/-- A repaired plan goes to the page of the plan before once more. -/
theorem navigation_is_absolute_click :
    let plan : Plan := ⟨.str "1", .null, .null, [.goto (.str "https://example.com/"),
      .click (.str "Help") .null]⟩
    let raw : Json := .obj [("reason", .str "renamed"), ("operations", .arr [.obj [
      ("op", .str "replace"), ("path", .str "/steps/1/target"), ("value", .str "Guide")]])]
    let shown : Page := { Page.blank with elements := [("role:button:Guide", ["Guide"])] }
    let w : World Page := ⟨shown, 0, .empty [], .empty Profile.defaultDomain, 0, [], [], []⟩
    Plan.validate plan.toJson = .ok plan ∧ plan.IsAbsolute ∧ Url.IsWeb "https://example.com/" ∧
      ∃ deeds ending, History ⟨Page.browser, [], none⟩ .usual (.ofAnswer fun _ _ => .value raw)
          defaultPatience 3 plan w deeds ending ∧
        Visiting (fun url => ∃ p before result after,
            .ran p before result after ∈ deeds ∧ p.Visits url) [] (Run.callsIn ending.2.events) ∧
        (Run.callsIn ending.2.events).count (.goto "https://example.com/" 10000) = 2 := by
  intro plan raw shown w
  have hplan : Plan.validate plan.toJson = .ok plan := rfl
  obtain ⟨⟨habsolute, -⟩, -, deeds, ending, h, hending, -, hvisiting, -⟩ :=
    navigation_is_absolute ⟨Page.browser, [], none⟩ .usual (.ofAnswer fun _ _ => .value raw)
      defaultPatience 3 w hplan
  refine ⟨hplan, habsolute, ⟨_, rfl, .inr rfl, by decide⟩, deeds, ending, h, hvisiting, ?_⟩
  rw [← hending]
  decide +kernel

/-- A plan is accepted that goes to a file server and to a URL without a host, and its run goes there. -/
theorem visits_beyond_web :
    let plan : Plan := ⟨.str "1", .null, .str "mailto://x", [.goto (.str "ftp://x/"),
      .goto (.str "http://:80")]⟩
    let host : Host Page := ⟨Page.browser, [], some []⟩
    let w : World Page := ⟨.blank, 0, .empty [], .empty Profile.defaultDomain, 0, [], [], []⟩
    Plan.validate plan.toJson = .ok plan ∧
      (¬ Url.IsWeb "mailto://x" ∧ ¬ Url.IsWeb "ftp://x/" ∧ ¬ Url.IsWeb "http://:80") ∧
      endsIn (run host .usual plan) w (fun report final => report.verdict == .passed &&
        (Run.callsIn final.events).contains (.goto "ftp://x/" 10000) &&
        (Run.callsIn final.events).contains (.goto "http://:80" 10000)) = true := by
  intro plan host w
  have hweb : ∀ s url, Url.split s = .ok url → ¬ ((url.scheme = "http".toList ∨
      url.scheme = "https".toList) ∧ url.host ≠ []) → ¬ Url.IsWeb s := by
    rintro s url hsplit hnot ⟨found, hfound, h⟩
    obtain rfl := Except.ok.inj (hsplit.symm.trans hfound)
    exact hnot h
  refine ⟨rfl, ⟨hweb _ _ rfl ?_, hweb _ _ rfl ?_, hweb _ _ rfl ?_⟩, by decide +kernel⟩
  · decide
  · decide
  · decide

end Repair
end Walkthrough
