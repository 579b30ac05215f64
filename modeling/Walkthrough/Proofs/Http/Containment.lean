import Walkthrough.Proofs.Files.Settling
import Walkthrough.Proofs.Http.Answers

/-! # Artifacts stay in their directories

A name stands for a place inside a directory only if it leads strictly inside it. So every file that is
sent is an artifact, strictly inside the directory of a run, and that is strictly inside the root of all
runs. -/

namespace Walkthrough

/-! ## Places inside directories -/

namespace Path

theorem isInside_iff {dir place : List String} :
    isInside dir place = true ↔ StrictlyInside dir place := by
  rw [isInside, Bool.and_eq_true, List.isPrefixOf_iff_prefix, decide_eq_true_eq]
  refine and_congr_right fun habove => ?_
  constructor
  · rintro hlength rfl
    exact Nat.lt_irrefl _ hlength
  · intro hne
    exact Nat.lt_of_le_of_ne habove.length_le fun hlength => hne (habove.eq_of_length hlength)

theorem inside?_eq (base : List String) (name : String) :
    inside? base name =
      if StrictlyInside base ((ofText name).resolve base) then some ((ofText name).resolve base)
      else none := by
  simp only [inside?, isInside_iff]

theorem inside?_eq_some {base place : List String} {name : String}
    (h : inside? base name = some place) :
    (ofText name).resolve base = place ∧ StrictlyInside base place := by
  rw [inside?_eq] at h
  split at h
  · rename_i hinside
    obtain rfl := Option.some.inj h
    exact ⟨rfl, hinside⟩
  · cases h

end Path

namespace Files

variable {files : Files}

/-- The places that parts are followed through are directories. -/
theorem node?_of_follow {text : String} {start key parts above : List String}
    (h : files.follow text start parts = .ok key) (habove : above <+: parts) (hne : above ≠ parts) :
    files.node? (above.foldl Path.step start) = some .directory := by
  induction parts generalizing start above with
  | nil => exact absurd (List.prefix_nil.mp habove) hne
  | cons part rest ih =>
      unfold follow at h
      split at h
      · rename_i hnode
        rcases List.prefix_cons_iff.mp habove with rfl | ⟨more, rfl, hmore⟩
        · exact hnode
        · have hrest := ih h hmore fun heq => hne (heq ▸ rfl)
          exact hrest
      · cases h
      · cases h

/-- A file that is read under its place is there, and there are directories all the way to it. -/
theorem node?_of_read {place : List String} {content : Text.Content} (hplace : ".." ∉ place)
    (h : files.read (Path.ofParts place) = .ok content) :
    files.node? place = some (.file content) ∧
      ∀ above, Path.StrictlyInside above place → files.node? above = some .directory := by
  obtain ⟨key, hkey, hnode⟩ := read_eq_ok_iff.mp h
  obtain ⟨-, rfl⟩ := locate_eq_ok hkey
  rw [Path.resolve_ofParts hplace] at hnode
  refine ⟨hnode, fun above habove => ?_⟩
  unfold locate at hkey
  split at hkey
  · cases hkey
  · have hup : ".." ∉ above := fun hup => hplace (habove.1.subset hup)
    have hfollowed := node?_of_follow hkey habove.1 habove.2
    rwa [if_neg (by simp [Path.ofParts]), Path.foldl_step_of_notMem [] hup, List.nil_append]
      at hfollowed

end Files

/-! ## Files that are sent -/

namespace Http

open Effect

variable {σ : Type} {host : Host σ} {config : Config} {r : Request} {w w' : World σ}

/-- A file that is strictly inside the directory of a run, and this strictly inside the root of all
runs. -/
structure Contained (config : Config) (files : Files) (runId name : String) (dir place : List String)
    (content : Text.Content) : Prop where
  run : Path.StrictlyInside (config.place files.home) dir
  runs : (Path.ofText runId).resolve (config.place files.home) = dir
  directory : files.node? dir = some .directory
  artifact : Path.StrictlyInside dir place
  leads : (Path.ofText name).resolve dir = place
  file : files.node? place = some (.file content)

theorem Responds.contained {runId name : String} {response : Response} {disposition : String}
    {content : Text.Content} (hhome : ".." ∉ w.files.home)
    (h : Responds host config r w (.artifact runId name) response)
    (hfile : response.body = .file disposition content) :
    ∃ dir place, Contained config w.files runId name dir place content := by
  cases h with
  | noPlace => cases hfile
  | noArtifact => cases hfile
  | @artifact _ _ place found disposes _ _ inside read =>
      obtain ⟨rfl, rfl⟩ := Body.file.inj hfile
      obtain ⟨dir, hrun, hname⟩ := Option.bind_eq_some_iff.mp inside
      obtain ⟨hdir, hrun⟩ := Path.inside?_eq_some hrun
      obtain ⟨hplace, hartifact⟩ := Path.inside?_eq_some hname
      have hsettled : ".." ∉ dir := hdir ▸ Path.notMem_resolve _ (Path.notMem_resolve _ hhome)
      obtain ⟨hnode, habove⟩ := Files.node?_of_read (hplace ▸ Path.notMem_resolve _ hsettled) read
      exact ⟨dir, place, hrun, hdir, habove dir hartifact, hartifact, hplace, hnode⟩

/-- What tells of a submission is no file. -/
theorem not_file_of_submit {response : Response}
    (h : (outcome (submit host config r) w).1 = .ok response) (disposition : String)
    (content : Text.Content) : response.body ≠ .file disposition content := by
  intro hfile
  cases hbody : r.json? config with
  | none =>
      obtain rfl : bare 413 = response := by simpa [submit, hbody] using h
      cases hfile
  | some v =>
      cases hsubmits : Submission.ofJson v with
      | error problem =>
          obtain rfl : refusal 400 "INVALID_REQUEST" problem.message = response := by
            simpa [submit, hbody, hsubmits] using h
          cases hfile
      | ok submission =>
          cases hplan : Plan.validate submission.plan with
          | error failure =>
              rw [submit_of_error hbody hsubmits hplan] at h
              split at h
              · cases h
                cases hfile
              · cases h
          | ok plan =>
              have hordered : r.body? config =
                  some ⟨plan, submission.options config, submission.labels⟩ := by
                simp [Request.body?, hbody, hsubmits, hplan]
              rw [answer_of_order hordered] at h
              split at h
              · cases h
                cases hfile
              · split at h
                · cases h
                  cases hfile
                · cases h

/-- Only the route of an artifact sends a file. -/
theorem exists_contained_of_answer {route : Route} {response : Response} {disposition : String}
    {content : Text.Content} (hhome : ".." ∉ w.files.home)
    (h : (outcome (answer host config r route) w).1 = .ok response)
    (hfile : response.body = .file disposition content) :
    ∃ runId name dir place, route = .artifact runId name ∧
      Contained config w.files runId name dir place content := by
  cases route with
  | runs => exact absurd hfile (not_file_of_submit h _ _)
  | run runId =>
      rcases @responds_or_escapes_run σ host config r w runId with ⟨other, hresponds⟩ |
        ⟨failure, hescapes⟩
      · obtain rfl := Except.ok.inj (hresponds.answers.symm.trans h)
        cases hresponds <;> cases hfile
      · exact absurd (hescapes.answers.symm.trans h) nofun
  | artifact runId name =>
      rcases @responds_or_escapes_artifact σ host config r w runId name with ⟨other, hresponds⟩ |
        ⟨failure, hescapes⟩
      · obtain rfl := Except.ok.inj (hresponds.answers.symm.trans h)
        obtain ⟨dir, place, hcontained⟩ := hresponds.contained hhome hfile
        exact ⟨runId, name, dir, place, rfl, hcontained⟩
      · exact absurd (hescapes.answers.symm.trans h) nofun
  | fixedFile =>
      obtain rfl : bare 404 = response := by simpa [answer] using h
      cases hfile

/-- A name stands for the place that it leads to after a directory if that is strictly inside the
directory, and else for none. So a file is served only as an artifact, from strictly inside the directory
of a run that is strictly inside the root of all runs; a request for the head alone is not sent what is in
it. -/
theorem artifacts_are_contained (host : Host σ) (config : Config) :
    (∀ {dir name : String} (home : List String), dir.toList.head? = some '/' →
      Path.hasNull name = false →
      ∃ base place, (∀ other, Path.LeadsTo dir other ↔ other = base) ∧
        (∀ other, Path.LeadsTo (Path.after dir name) other ↔ other = place) ∧
        (Path.ofText dir).resolve home = base ∧
        within? base name =
          .ok (if Path.StrictlyInside base place then some place else none)) ∧
    ∀ {r : Request} {w w' : World σ} {response : Response} {disposition : String}
      {content : Text.Content}, ".." ∉ w.files.home →
      outcome (serve host config r) w = (.ok response, w') →
      response.body = .file disposition content →
      ∃ runId name dir place kept, r.destination = .found (.artifact runId name) ∧
        Contained config w.files runId name dir place kept ∧
        content = if Text.upper r.method = "HEAD" then .text "" else kept := by
  constructor
  · intro dir name home hdir hnull
    refine ⟨(Path.ofText dir).resolve home,
      (Path.ofText name).resolve ((Path.ofText dir).resolve home),
      Path.leadsTo_iff hdir home, Path.leadsTo_after_iff hdir name home, rfl, ?_⟩
    rw [within?_of_inside? hnull (Path.inside?_eq _ _)]
  · intro r w w' response disposition content hhome hserve hfile
    by_cases hserved : ∃ route, r.destination = .found route ∧ Text.upper r.method ≠ "OPTIONS"
    · obtain ⟨route, hfound, hmethod⟩ := hserved
      rw [serve_of_found hfound hmethod, outcome_bind, outcome_attempt] at hserve
      obtain rfl := Except.ok.inj (Prod.mk.inj hserve).1
      cases hanswer : (outcome (answer host config r route) w).1 with
      | error failure =>
          rw [hanswer] at hfile
          cases hfile
      | ok sent =>
          rw [hanswer, settled] at hfile
          by_cases hhead : Text.upper r.method = "HEAD"
          · rw [if_pos hhead, Response.head] at hfile
            split at hfile
            · rename_i kept hbody
              obtain ⟨-, rfl⟩ := Body.file.inj hfile
              obtain ⟨runId, name, dir, place, rfl, hcontained⟩ :=
                exists_contained_of_answer hhome hanswer hbody
              exact ⟨runId, name, dir, place, kept, hfound, hcontained, by rw [if_pos hhead]⟩
            · cases hfile
          · rw [if_neg hhead] at hfile
            obtain ⟨runId, name, dir, place, rfl, hcontained⟩ :=
              exists_contained_of_answer hhome hanswer hfile
            exact ⟨runId, name, dir, place, content, hfound, hcontained, by rw [if_neg hhead]⟩
    · obtain ⟨status, hbare, -⟩ := exists_serve_eq_bare host config fun route hroute =>
        not_not.mp fun hmethod => hserved ⟨route, hroute, hmethod⟩
      rw [hbare] at hserve
      obtain rfl := Except.ok.inj (Prod.mk.inj hserve).1
      cases hfile

/-- A name may climb out of the directory of a run and back in, but a run with a longer name is no part
of it. A picture of the run is served. -/
theorem artifacts_are_contained_picture :
    let host : Host Page := ⟨Page.browser, [], none⟩
    let config : Config := ⟨"/srv", some defaultBodyLimit⟩
    let files := ((Files.empty ["srv"]).put ["srv", "run_1"] .directory).put
      ["srv", "run_1", "shot.png"] (.file (.text "pixels"))
    let w : World Page := ⟨.blank, 0, files, .empty Profile.defaultDomain, 0, [], [], []⟩
    let get : Request := ⟨"GET", "/runs/run_1/artifacts/shot.png", none, ""⟩
    (∀ place, Path.LeadsTo "/srv/run_1" place ↔ place = ["srv", "run_1"]) ∧
      (∀ place, Path.LeadsTo (Path.after "/srv/run_1" "../run_1/./shot.png") place ↔
        place = ["srv", "run_1", "shot.png"]) ∧
      within? ["srv", "run_1"] "../run_1/./shot.png" = .ok (some ["srv", "run_1", "shot.png"]) ∧
      within? ["srv", "run_1"] "../run_10/shot.png" = .ok none ∧
      ∃ response w' disposition dir place, outcome (serve host config get) w = (.ok response, w') ∧
        response.body = .file disposition (.text "pixels") ∧
        Contained config files "run_1" "shot.png" dir place (.text "pixels") := by
  intro host config files w get
  obtain ⟨hinside, hserved⟩ := artifacts_are_contained host config
  obtain ⟨base, place, hbase, hplace, hresolve, hwithin⟩ :=
    @hinside "/srv/run_1" "../run_1/./shot.png" [] (by decide) (by decide)
  obtain rfl : ["srv", "run_1"] = base := by
    rw [← hresolve]
    decide
  have hback : within? ["srv", "run_1"] "../run_1/./shot.png" =
      .ok (some ["srv", "run_1", "shot.png"]) := by rfl
  rw [hback] at hwithin
  split at hwithin
  · obtain rfl := Option.some.inj (Except.ok.inj hwithin)
    have hsent : endsIn (serve host config get) w (fun response _ => match response.body with
        | .empty => false
        | .json _ => false
        | .file _ content => content = .text "pixels") = true := by decide +kernel
    obtain ⟨response, w', hserve, hbody⟩ := endsIn_iff.mp hsent
    cases hfile : response.body with
    | empty | json => simp [hfile] at hbody
    | file disposition content =>
        obtain rfl : content = .text "pixels" := by simpa [hfile] using hbody
        obtain ⟨runId, name, dir, place, kept, hfound, hcontained, hkept⟩ :=
          @hserved get w w' response disposition (.text "pixels") (by decide) hserve hfile
        have hroute : get.destination = .found (.artifact "run_1" "shot.png") := by decide +kernel
        obtain ⟨rfl, rfl⟩ := Route.artifact.inj
          (Route.Destination.found.inj (hfound.symm.trans hroute))
        have hget : Text.upper get.method ≠ "HEAD" := by decide
        rw [if_neg hget] at hkept
        exact ⟨hbase, hplace, hback, by rfl, response, w', disposition, dir, place, hserve, hfile,
          hkept ▸ hcontained⟩
  · cases hwithin

end Http
end Walkthrough
