import Walkthrough.Page
import Walkthrough.Proofs.Http.Serving

/-! # The records of all runs

Requests to one server come in a row, and each finds the files as the one before left them. A run that
is told of as created is kept: whatever is asked later, its record is sent as it was given. -/

namespace Walkthrough.Http

open Effect

variable {σ : Type}

/-! ## Exchanges -/

/-- A request that was answered, with the worlds before and after that. -/
structure Exchange (σ : Type) where
  request : Request
  before : World σ
  response : Response
  after : World σ

/-- Exchanges in a row, from files to files. Only files are kept between two of them. -/
inductive Exchanges (host : Host σ) (config : Config) : Files → List (Exchange σ) → Files → Prop
  | done {files : Files} : Exchanges host config files [] files
  | next {exchange : Exchange σ} {rest : List (Exchange σ)} {last : Files}
      (served : outcome (serve host config exchange.request) exchange.before =
        (.ok exchange.response, exchange.after))
      (later : Exchanges host config exchange.after.files rest last) :
      Exchanges host config exchange.before.files (exchange :: rest) last

/-- The name of the run that is asked for in an exchange. -/
def Exchange.name? (config : Config) (exchange : Exchange σ) : Option String :=
  (exchange.request.order? config).map fun order => Run.nameOf order.options exchange.before

/-- A run that was asked for gave a report, and was told of as created. -/
structure Completed (host : Host σ) (config : Config) (exchange : Exchange σ) (order : Order)
    (report : Report) : Prop where
  ordered : exchange.request.order? config = some order
  ran : outcome (run host order.options order.plan) exchange.before = (.ok report, exchange.after)
  told : exchange.response = order.response (.ok report)

section Exchange

variable {host : Host σ} {config : Config} {exchange : Exchange σ}

/-- Any requests can be made in a row. -/
theorem exists_exchanges (host : Host σ) (config : Config) (requests : List Request) (w : World σ) :
    ∃ exchanges last, Exchanges host config w.files exchanges last ∧
      exchanges.map Exchange.request = requests := by
  induction requests generalizing w with
  | nil => exact ⟨[], w.files, .done, rfl⟩
  | cons request requests ih =>
      obtain ⟨response, w', hserved⟩ : ∃ response w',
          outcome (serve host config request) w = (.ok response, w') := by
        cases horder : request.order? config with
        | none =>
            obtain ⟨response, hserved, -⟩ := exists_response_of_no_order host horder w
            exact ⟨response, w, hserved⟩
        | some order => exact ⟨_, _, outcome_serve_of_order host horder w⟩
      obtain ⟨exchanges, last, hlater, hrequests⟩ := ih w'
      have hnext := @Exchanges.next _ host config ⟨request, w, response, w'⟩ _ _ hserved hlater
      exact ⟨⟨request, w, response, w'⟩ :: exchanges, last, hnext, by rw [List.map_cons, hrequests]⟩

theorem Completed.name_eq {order : Order} {report : Report}
    (h : Completed host config exchange order report) :
    report.runId = Run.nameOf order.options exchange.before ∧
      exchange.name? config = some report.runId := by
  have hname := (Run.exists_kept_of_run h.ran).1
  exact ⟨hname, by rw [Exchange.name?, h.ordered, hname]; rfl⟩

theorem Completed.isPart_runId {order : Order} {report : Report}
    (h : Completed host config exchange order report) :
    Path.IsPart report.runId ∧ report.runId ≠ ".." := by
  obtain ⟨-, hnone, -⟩ := Request.accepted_of_order h.ordered
  rw [h.name_eq.1, Run.nameOf_of_none hnone]
  exact isPart_runName _ _

/-- The report of a completed run is kept under the name of the run. -/
theorem Completed.resolve_reportFile {order : Order} {report : Report}
    (h : Completed host config exchange order report) (home : List String) :
    (Run.reportFile (Run.dirOf order.options exchange.before)).resolve home =
      config.place home ++ [report.runId, "RunResult.json"] := by
  obtain ⟨-, -, hroot⟩ := Request.accepted_of_order h.ordered
  obtain ⟨hpart, hup⟩ := h.isPart_runId
  rw [Run.reportFile, Path.resolve_child _ (by decide) (by decide), Run.dirOf, ← h.name_eq.1,
    Path.resolve_child _ hpart hup, hroot, List.append_assoc]
  rfl

/-- What an exchange comes to: a run, or nothing. -/
theorem served_cases
    (h : outcome (serve host config exchange.request) exchange.before =
      (.ok exchange.response, exchange.after)) :
    (∃ order result, exchange.request.order? config = some order ∧
      outcome (run host order.options order.plan) exchange.before = (result, exchange.after) ∧
      exchange.response = order.response result) ∨
    (exchange.after = exchange.before ∧ exchange.response.status ≠ 201) := by
  cases horder : exchange.request.order? config with
  | some order =>
      rw [outcome_serve_of_order host horder] at h
      obtain ⟨hresponse, hafter⟩ := Prod.mk.inj h
      exact .inl ⟨order, _, rfl, by rw [← hafter], (Except.ok.inj hresponse).symm⟩
  | none =>
      obtain ⟨response, hserved, hstatus⟩ := exists_response_of_no_order host horder exchange.before
      obtain ⟨hresponse, hafter⟩ := Prod.mk.inj (h.symm.trans hserved)
      exact .inr ⟨hafter, Except.ok.inj hresponse ▸ hstatus⟩

/-- Only a run that gave a report is told of as created. -/
theorem exists_completed
    (h : outcome (serve host config exchange.request) exchange.before =
      (.ok exchange.response, exchange.after)) (hcreated : exchange.response.status = 201) :
    ∃ order report, Completed host config exchange order report := by
  rcases served_cases h with ⟨order, result, horder, hrun, hresponse⟩ | ⟨-, hstatus⟩
  · cases result with
    | ok report => exact ⟨order, report, horder, hrun, hresponse⟩
    | error failure =>
        rw [hresponse, Order.response] at hcreated
        split at hcreated <;> cases hcreated
  · exact absurd hcreated hstatus

/-- A refused request does nothing. -/
theorem after_of_refused
    (h : outcome (serve host config exchange.request) exchange.before =
      (.ok exchange.response, exchange.after)) (hrefused : exchange.response.status = 400) :
    exchange.after = exchange.before := by
  rcases served_cases h with ⟨order, result, -, -, hresponse⟩ | ⟨hafter, -⟩
  · cases result with
    | ok report => rw [hresponse] at hrefused; cases hrefused
    | error failure =>
        rw [hresponse, Order.response] at hrefused
        split at hrefused <;> cases hrefused
  · exact hafter

theorem home_of_served
    (h : outcome (serve host config exchange.request) exchange.before =
      (.ok exchange.response, exchange.after))
    (hhome : ".." ∉ exchange.before.files.home) :
    exchange.after.files.home = exchange.before.files.home := by
  rcases served_cases h with ⟨order, result, -, hrun, -⟩ | ⟨hafter, -⟩
  · exact (Run.onlyAt_run hhome hrun).home
  · rw [hafter]

/-- An exchange that completes no run of a name leaves the record under that name alone. -/
theorem onlyAt_elsewhere
    (h : outcome (serve host config exchange.request) exchange.before =
      (.ok exchange.response, exchange.after))
    (hhome : ".." ∉ exchange.before.files.home) {runId : String}
    (hother : ∀ order report, Completed host config exchange order report → report.runId ≠ runId) :
    Files.OnlyAt (fun path => path.resolve exchange.before.files.home ≠
      config.place exchange.before.files.home ++ [runId, "RunResult.json"])
      exchange.before.files exchange.after.files := by
  rcases served_cases h with ⟨order, result, horder, hrun, hresponse⟩ | ⟨hafter, -⟩
  · refine (Run.onlyAt_run hhome hrun).mono fun path hpath heq => ?_
    rcases hpath.given_or_ne exchange.before.files.home with ⟨report, rfl, rfl⟩ | hname
    · have hcompleted : Completed host config exchange order report := ⟨horder, hrun, hresponse⟩
      refine hother order report hcompleted ?_
      rw [hcompleted.resolve_reportFile] at heq
      simpa using heq
    · exact hname (by rw [heq, List.getLast?_append]; rfl)
  · rw [hafter]
    exact .refl _

/-- After a completed run its record is found where it is sent from. -/
theorem Completed.read_recordFile {order : Order} {report : Report}
    (h : Completed host config exchange order report) (hhome : ".." ∉ exchange.before.files.home) :
    exchange.after.files.read (config.recordFile exchange.before.files.home report.runId) =
      .ok (.text report.toJson.pretty) := by
  have hstay := (Run.onlyAt_run hhome h.ran).home
  have hdir : Run.dirOf order.options exchange.before =
      order.options.artifactsRoot.child report.runId := by
    rw [Run.dirOf, h.name_eq.1]
  have hfile : Path.ofParts ((Run.reportFile (Run.dirOf order.options exchange.before)).resolve
      exchange.after.files.home) = config.recordFile exchange.before.files.home report.runId := by
    rw [hstay, h.resolve_reportFile]
    rfl
  rw [← hfile]
  refine Files.read_ofParts (hstay ▸ hhome) ?_ (Run.exists_kept_of_run h.ran).2.2
  -- The log of the run was opened beside the record, so this place has a name.
  obtain ⟨opened, _, hsame, hopen⟩ := (Run.delivered_of_run h.ran).opened
  have hnamed := Files.hasNull_of_openForAppend hopen
  rw [runLog, Path.resolve_child _ (by decide) (by decide), hsame] at hnamed
  rw [hstay, hdir, Run.reportFile, Path.resolve_child _ (by decide) (by decide)]
  exact Path.hasNull_ofParts_concat hnamed (by decide)

/-- The record of a completed run is sent as it was given. -/
theorem Completed.sends {order : Order} {report : Report}
    (h : Completed host config exchange order report) {w : World σ}
    (hread : w.files.read (config.recordFile w.files.home report.runId) =
      .ok (.text report.toJson.pretty)) :
    outcome (sendRecord config report.runId) w = (.ok (delivery 200 report.toJson), w) := by
  have hdelivered := Run.delivered_of_run h.ran
  obtain ⟨haccepted, hnone, -⟩ := Request.accepted_of_order h.ordered
  have hplain := Report.plain_toJson (hdelivered.plan ▸ haccepted).plain hdelivered.outputs
  have hdocument : report.toJson.document = .ok report.toJson.pretty :=
    Json.document_eq_ok_iff.mpr ⟨hdelivered.short, rfl⟩
  have hnull : Path.hasNull report.runId = false := by
    rw [h.name_eq.1, Run.nameOf_of_none hnone]
    exact hasNull_runName _ _
  obtain ⟨hpart, hup⟩ := h.isPart_runId
  exact outcome_sendRecord_of_read hnull hpart hup hread (Json.read_document hplain hdocument)
    (Json.parse_document hplain hdocument)

end Exchange

/-! ## Exchanges in a row -/

section Exchanges

variable {host : Host σ} {config : Config} {files last : Files} {exchanges : List (Exchange σ)}

/-- Each exchange finds the files as those before left them, and leaves them to those after. -/
theorem Exchanges.split {pre post : List (Exchange σ)} {exchange : Exchange σ}
    (h : Exchanges host config files exchanges last) (hsplit : exchanges = pre ++ exchange :: post) :
    Exchanges host config files pre exchange.before.files ∧
      outcome (serve host config exchange.request) exchange.before =
        (.ok exchange.response, exchange.after) ∧
      Exchanges host config exchange.after.files post last := by
  induction h generalizing pre with
  | done => simp at hsplit
  | next served later ih =>
      cases pre with
      | nil =>
          obtain ⟨rfl, rfl⟩ := List.cons.inj hsplit
          exact ⟨.done, served, later⟩
      | cons first pre =>
          obtain ⟨rfl, hrest⟩ := List.cons.inj hsplit
          obtain ⟨hpre, hserved, hpost⟩ := ih hrest
          exact ⟨.next served hpre, hserved, hpost⟩

theorem Exchanges.home_eq (h : Exchanges host config files exchanges last)
    (hhome : ".." ∉ files.home) : last.home = files.home := by
  induction h with
  | done => rfl
  | next served later ih =>
      have hfirst := home_of_served served hhome
      exact (ih (hfirst ▸ hhome)).trans hfirst

/-- Exchanges that complete no run of a name leave the record under that name alone. -/
theorem Exchanges.onlyAt_elsewhere (h : Exchanges host config files exchanges last)
    (hhome : ".." ∉ files.home) {runId : String}
    (hother : ∀ exchange ∈ exchanges, ∀ order report,
      Completed host config exchange order report → report.runId ≠ runId) :
    Files.OnlyAt (fun path => path.resolve files.home ≠
      config.place files.home ++ [runId, "RunResult.json"]) files last := by
  induction h with
  | done => exact .refl _
  | next served later ih =>
      have hfirst := Http.onlyAt_elsewhere served hhome (hother _ List.mem_cons_self)
      rw [← hfirst.home] at hhome
      have hrest := ih hhome fun exchange hmem => hother exchange (List.mem_cons_of_mem _ hmem)
      rw [hfirst.home] at hrest
      exact hfirst.trans hrest

/-- What is kept of runs by a server whose runs all have names of their own. -/
structure StoreKept (host : Host σ) (config : Config) (files : Files)
    (exchanges : List (Exchange σ)) : Prop where
  /-- What is told of as created is a run that gave a report. -/
  created : ∀ exchange ∈ exchanges, exchange.response.status = 201 →
    ∃ order report, Completed host config exchange order report
  /-- From then on the record of the run is sent as the report that was given. -/
  fetched : (exchanges.filterMap (Exchange.name? config)).Nodup →
    ∀ pre posted mid got post order report, exchanges = pre ++ posted :: (mid ++ got :: post) →
    Completed host config posted order report → got.request.Fetches report.runId →
    got.response = delivery 200 report.toJson
  /-- Where there were no files below the root of all runs, nothing else is sent. -/
  missing : (∀ key content, config.place files.home <+: key →
      files.node? key ≠ some (.file content)) →
    ∀ pre got post runId, exchanges = pre ++ got :: post → got.request.Fetches runId →
    Path.hasNull runId = false →
    (∀ exchange ∈ pre, ∀ order report,
      Completed host config exchange order report → report.runId ≠ runId) →
    got.response = refusal 404 "RUN_NOT_FOUND" "Run not found"
  /-- A refused request does nothing at all. -/
  refused : ∀ exchange ∈ exchanges, exchange.response.status = 400 →
    exchange.after = exchange.before

/-- Names that are all different are found once. -/
theorem Completed.runId_ne {exchange posted : Exchange σ} {order order' : Order}
    {report report' : Report} {pre mid post : List (Exchange σ)}
    (hnames : ((pre ++ posted :: (mid ++ post)).filterMap (Exchange.name? config)).Nodup)
    (hposted : Completed host config posted order report) (hmem : exchange ∈ mid)
    (h : Completed host config exchange order' report') : report'.runId ≠ report.runId := by
  rw [List.filterMap_append, List.filterMap_cons_some hposted.name_eq.2] at hnames
  have htail := (List.nodup_append.mp hnames).2.1
  have hother := List.mem_filterMap.mpr ⟨exchange, List.mem_append_left post hmem, h.name_eq.2⟩
  exact fun heq => (List.nodup_cons.mp htail).1 (heq ▸ hother)

theorem Exchanges.storeKept (h : Exchanges host config files exchanges last)
    (hhome : ".." ∉ files.home) : StoreKept host config files exchanges where
  created exchange hmem hstatus := by
    obtain ⟨pre, post, hsplit⟩ := List.append_of_mem hmem
    exact exists_completed (h.split hsplit).2.1 hstatus
  fetched hnames pre posted mid got post order report hsplit hposted hfetches := by
    obtain ⟨hpre, hserved, hlater⟩ := h.split hsplit
    obtain ⟨hmid, hgot, -⟩ := hlater.split rfl
    have hstart : ".." ∉ posted.before.files.home := hpre.home_eq hhome ▸ hhome
    have hafter := home_of_served hserved hstart
    have hread := hposted.read_recordFile hstart
    have honly := hmid.onlyAt_elsewhere (hafter ▸ hstart) fun exchange hmem order' report' h' =>
      Completed.runId_ne (hsplit ▸ hnames) hposted hmem h'
    obtain ⟨-, hup⟩ := hposted.isPart_runId
    have hkept : got.before.files.read (config.recordFile posted.before.files.home report.runId) =
        .ok (.text report.toJson.pretty) := by
      refine honly.read (fun path hpath => ?_) hread
      rw [hafter, config.resolve_recordFile hstart hup]
      rwa [hafter] at hpath
    rw [← hafter, ← honly.home] at hkept
    have hsend := hfetches.outcome_serve host (hposted.sends hkept)
    exact Except.ok.inj (congrArg Prod.fst (hgot.symm.trans hsend))
  missing hempty pre got post runId hsplit hfetches hnull hother := by
    obtain ⟨hpre, hgot, -⟩ := h.split hsplit
    have honly := hpre.onlyAt_elsewhere hhome hother
    have hstart : ".." ∉ got.before.files.home := honly.home ▸ hhome
    obtain ⟨hname, hslash⟩ := Route.name_of_ofPath (Route.ofPath_of_found hfetches.1).1
    have hfree : ∀ content, got.before.files.node?
        (config.place got.before.files.home ++ [runId, "RunResult.json"]) ≠ some (.file content) := by
      intro content hnode
      rw [honly.home] at hnode
      have hfound := (honly.file _ (fun _ hpath => hpath) content).mp hnode
      exact hempty _ content (List.prefix_append _ _) hfound
    have hsend := hfetches.outcome_serve host
      (outcome_sendRecord_of_free hstart hnull hname hslash hfree)
    exact Except.ok.inj (congrArg Prod.fst (hgot.symm.trans hsend))
  refused exchange hmem hstatus := by
    obtain ⟨pre, post, hsplit⟩ := List.append_of_mem hmem
    exact after_of_refused (h.split hsplit).2.1 hstatus

end Exchanges

end Walkthrough.Http
