import Walkthrough.Proofs.Json.RoundTrip
import Walkthrough.Proofs.Repair.Conduct
import Walkthrough.Proofs.Run.Artifacts

/-! # The page that an adapter is shown

After a failed run the adapter is shown the snapshot of the page, which is read back from its file.
Reading unifies line ends, so that the adapter sees the page as it was only without carriage returns. -/

namespace Walkthrough

theorem Files.readText_of_text {files : Files} {path : Path} {s : String}
    (h : files.read path = .ok (.text s)) :
    files.readText path = .ok (String.ofList (Text.unifyNewlines s.toList)) := by
  rw [Files.readText, h]
  rfl

namespace Repair

open Effect
open Run (FailsAt Prepared snapshot?)

variable {σ : Type} {host : Host σ} {options : RunOptions} {adapter : Adapter} {patience : Json}
  {p : Plan} {before after : World σ} {report : Report} {number : Nat} {request : Request}
  {answer : Option Answer} {turn : Except Failure Turn} {pre post : List (Deed σ)}

/-! ## Attempts right after a run -/

/-- The attempt that follows on a run is made on its report, in the world that it left. -/
theorem Rounds.attempted_after_run {left n : Nat} {plan : Plan} {last : Report} {w : World σ}
    {deeds : List (Deed σ)} {ending : Ending σ}
    (h : Rounds host options adapter patience left n plan last w deeds ending)
    (hdeeds : deeds =
      pre ++ .ran p before (.ok report) after :: .attempted number request answer turn :: post) :
    report.verdict = .failed ∧
      ∃ w', Attempted adapter patience number p report after request answer turn w' := by
  induction h generalizing pre with
  | spent | passed | unread => simp at hdeeds
  | raised | stopped => rcases pre with _ | ⟨deed, pre⟩ <;> simp at hdeeds
  | again _ _ _ ih =>
      rcases pre with _ | ⟨deed, pre⟩
      · simp at hdeeds
      · exact ih (List.cons.inj hdeeds).2
  | crashed =>
      rcases pre with _ | ⟨deed, _ | ⟨deed', _ | ⟨deed'', pre⟩⟩⟩ <;> simp at hdeeds
  | repaired _ _ _ rest ih =>
      rcases pre with _ | ⟨deed, _ | ⟨deed', _ | ⟨deed'', pre⟩⟩⟩
      · simp at hdeeds
      · simp at hdeeds
      · simp only [List.cons_append, List.nil_append, List.cons.injEq, Deed.ran.injEq,
          Except.ok.injEq] at hdeeds
        obtain ⟨-, -, ⟨rfl, -, rfl, rfl⟩, rfl⟩ := hdeeds
        exact ⟨rest.failed, rest.attempted⟩
      · simp only [List.cons_append, List.cons.injEq] at hdeeds
        exact ih hdeeds.2.2.2

theorem History.attempted_after_run {maxAttempts : Int} {plan : Plan} {w : World σ}
    {deeds : List (Deed σ)} {ending : Ending σ}
    (h : History host options adapter patience maxAttempts plan w deeds ending)
    (hdeeds : deeds =
      pre ++ .ran p before (.ok report) after :: .attempted number request answer turn :: post) :
    options.dryRun = false ∧ report.verdict = .failed ∧
      ∃ w', Attempted adapter patience number p report after request answer turn w' := by
  cases h with
  | crashed | dry => rcases pre with _ | ⟨deed, pre⟩ <;> simp at hdeeds
  | live live run rest =>
      refine ⟨live, ?_⟩
      rcases pre with _ | ⟨deed, pre⟩
      · simp only [List.nil_append, List.cons.injEq, Deed.ran.injEq, Except.ok.injEq] at hdeeds
        obtain ⟨⟨rfl, -, rfl, rfl⟩, rfl⟩ := hdeeds
        exact ⟨rest.failed, rest.attempted⟩
      · exact rest.attempted_after_run (List.cons.inj hdeeds).2

/-! ## Pages in requests -/

/-- What a request shows of the page on which a run failed: the beginning of its text with unified line
ends, if a snapshot was kept, and nothing otherwise. It is what the page began with exactly if there is
no carriage return in it. -/
inductive ShowsPage (host : Host σ) (options : RunOptions) (plan : Plan) (w : World σ)
    (request : Request) : Prop
  | kept {known : Prepared} {p : Primitive} {noted : World σ} {html : String}
      (fails : FailsAt host options plan w known p noted)
      (page : snapshot? (known.stage host options) (p.index + 1) noted = some html)
      (shown : request.snapshot =
        some (String.ofList (Text.unifyNewlines (html.toList.take 20000))))
      (whole : request.snapshot = some (String.ofList (html.toList.take 20000)) ↔
        '\r' ∉ html.toList.take 20000)
  | lost {known : Prepared} {p : Primitive} {noted : World σ}
      (fails : FailsAt host options plan w known p noted)
      (page : snapshot? (known.stage host options) (p.index + 1) noted = none)
      (shown : request.snapshot = some "")

theorem ShowsPage.of_attempted {w' : World σ} (hlive : options.dryRun = false)
    (hroot : options.artifactsRoot.Proper)
    (hrun : outcome (run host options p) before = (.ok report, after))
    (hfailed : report.verdict = .failed)
    (h : Attempted adapter patience number p report after request answer turn w') :
    ShowsPage host options p before request := by
  obtain ⟨known, outs, start, stopped, closed, saved, hran⟩ := Run.exists_ran hlive hrun
  obtain ⟨snapshot, hread, rfl⟩ := h.shown
  cases hran.evidenced with
  | passed verdict => rw [hfailed] at verdict; cases verdict
  | @failed known step noted screenshot kept _ last _ fails _ _ index hkept artifacts _ _ =>
      rw [index] at hkept
      have hnamed : report.artifacts.snapshot = kept := congrArg Artifacts.snapshot artifacts
      rw [snapshotText, hnamed, hkept.snapshot] at hread
      cases hpage : snapshot? (known.stage host options) (step.index + 1) noted with
      | none =>
          rw [hpage] at hread
          cases hread
          exact .lost fails hpage rfl
      | some html =>
          have hproper : (Run.snapshotFile (known.stage host options).runDir (step.index + 1)).Proper :=
            (hroot.child known.runId).child _
          have htext := Files.readText_of_text (hkept.page html hpage)
          simp only [hpage, Option.map_some, Path.ofText_text hproper, htext,
            String.toList_ofList] at hread
          cases hread
          refine .kept fails hpage rfl ?_
          rw [requestFor, Option.some.injEq, String.ofList_inj, Text.unifyNewlines_eq_self_iff]

/-- In every repair the request after a failed run shows the beginning of the page on which the run
failed, if its snapshot was kept, but with unified line ends: it shows the first twenty thousand
characters as they were exactly if no carriage return is among them. -/
theorem runWithRepair_shows_pages (host : Host σ) (options : RunOptions) (adapter : Adapter)
    (patience : Json) (maxAttempts : Int) (plan : Plan) (w : World σ)
    (hroot : options.artifactsRoot.Proper) :
    (∃ deeds ending, History host options adapter patience maxAttempts plan w deeds ending) ∧
      ∀ deeds ending, History host options adapter patience maxAttempts plan w deeds ending →
        outcome (runWithRepair host options adapter patience maxAttempts plan) w = ending ∧
        ∀ pre p before report after number request answer turn post,
          deeds = pre ++ .ran p before (.ok report) after ::
            .attempted number request answer turn :: post →
          ∃ runId, ShowsPage host { options with runId := runId } p before request := by
  refine ⟨exists_history host options adapter patience maxAttempts plan w, ?_⟩
  intro deeds ending h
  refine ⟨h.execution, ?_⟩
  intro pre p before report after number request answer turn post hdeeds
  obtain ⟨hlive, hfailed, w', hattempt⟩ := h.attempted_after_run hdeeds
  have hran : .ran p before (.ok report) after ∈ deeds := by simp [hdeeds]
  obtain ⟨runId, hrun⟩ := h.ran hran
  exact ⟨runId, .of_attempted hlive hroot hrun hfailed hattempt⟩

/-- A page of one line, on which a click fails, is shown as it was. -/
theorem runWithRepair_shows_pages_line :
    let p : Plan := ⟨.str "1", .null, .null, [.goto (.str "https://example.com/"),
      .click (.str "Help") .null]⟩
    let adapter : Adapter := .ofAnswer fun _ _ => .value (proposal "none" [])
    let host : Host Page := ⟨Page.browser, [], some []⟩
    let w : World Page := ⟨.blank, 0, .empty [], .empty Profile.defaultDomain, 0, [], [], []⟩
    RunOptions.usual.artifactsRoot.Proper ∧ ∃ report after request answer ending,
      History host .usual adapter defaultPatience 1 p w
        [.ran p w (.ok report) after, .attempted 1 request answer (.ok .stop)] ending ∧
      request.snapshot = some Page.blank.html ∧
      ∃ runId, ShowsPage host { RunOptions.usual with runId := runId } p w request := by
  intro p adapter host w
  have hroot : RunOptions.usual.artifactsRoot.Proper := Path.proper_ofText _
  have hended : endsIn (run host .usual p) w (fun report final =>
      decide (report.verdict = .failed ∧
        (snapshotText final.files report.artifacts).toOption = some Page.blank.html)) = true := by
    decide +kernel
  obtain ⟨report, after, hrun, hfailed⟩ := endsIn_iff.mp hended
  obtain ⟨hverdict, htext⟩ := of_decide_eq_true hfailed
  have hsnapshot : snapshotText after.files report.artifacts = .ok Page.blank.html := by
    cases hread : snapshotText after.files report.artifacts with
    | error failure => rw [hread] at htext; cases htext
    | ok s => rw [hread] at htext; exact congrArg Except.ok (Option.some.inj htext)
  obtain ⟨request, answer, turn, w', hattempt⟩ :=
    exists_attempted adapter defaultPatience 1 p report after hsnapshot
  have hturn : turn = .ok .stop := by
    rw [hattempt.decided, hattempt.answered]
    rfl
  subst hturn
  have hhistory : History host .usual adapter defaultPatience 1 p w
      [.ran p w (.ok report) after, .attempted 1 request answer (.ok .stop)] (.ok report, w') :=
    .live rfl hrun (.stopped hverdict hattempt)
  obtain ⟨snapshot, hread, rfl⟩ := hattempt.shown
  obtain rfl := Except.ok.inj (hsnapshot.symm.trans hread)
  exact ⟨hroot, report, after, _, answer, _, hhistory, rfl,
    ((runWithRepair_shows_pages host .usual adapter defaultPatience 1 p w hroot).2 _ _ hhistory).2
      [] p w report after 1 _ answer _ [] rfl⟩

/-- A page of two lines that end as on other systems is shown with one character less. -/
theorem shown_lines_differ :
    let p : Plan := ⟨.str "1", .null, .null, [.goto (.str "https://example.com/"),
      .click (.str "Help") .null]⟩
    let adapter : Adapter := .ofAnswer fun _ _ => .value (proposal "none" [])
    let host : Host Page := ⟨Page.browser, [], some []⟩
    let page : Page := { Page.blank with html := "<p>first\r\nsecond</p>" }
    let w : World Page := ⟨page, 0, .empty [], .empty Profile.defaultDomain, 0, [], [], []⟩
    ∃ report final,
      outcome (runWithRepair host .usual adapter defaultPatience 1 p) w = (.ok report, final) ∧
      report.artifacts.snapshot.isSome = true ∧
      (Run.requestsIn final).map Request.snapshot = [some "<p>first\nsecond</p>"] := by
  intro p adapter host page w
  have hended : endsIn (runWithRepair host .usual adapter defaultPatience 1 p) w
      (fun report final => decide (report.artifacts.snapshot.isSome = true ∧
        (Run.requestsIn final).map Request.snapshot = [some "<p>first\nsecond</p>"])) = true := by
    decide +kernel
  obtain ⟨report, final, hrun, hshown⟩ := endsIn_iff.mp hended
  exact ⟨report, final, hrun, of_decide_eq_true hshown⟩

end Repair
end Walkthrough
