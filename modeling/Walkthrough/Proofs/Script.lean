import Walkthrough.Proofs.Plan.Lines
import Walkthrough.Proofs.Text.Newline
import Walkthrough.Script

/-! # What a script is made of

A script starts with a docstring that names its plan. All else in it is a fixed skeleton, with the plan's
lines as comments. The lines keep to their comments; the name keeps to the docstring only if it has neither
a line end nor the docstring's quotes in it. -/

namespace Walkthrough

/-! ## Texts up to a mark -/

namespace Text

theorem occursIn_iff {part cs : List Char} : occursIn part cs = true ↔ part <:+: cs := by
  induction cs with
  | nil => simp [occursIn]
  | cons c cs ih =>
      rw [occursIn, Bool.or_eq_true, List.isPrefixOf_iff_prefix, ih, List.infix_cons_iff]

/-- The text before a mark and the text after it, where the mark comes first. -/
def cutAt? (mark : List Char) : List Char → Option (List Char × List Char)
  | [] => none
  | c :: cs =>
    if mark.isPrefixOf (c :: cs) then some ([], (c :: cs).drop mark.length)
    else (cutAt? mark cs).map fun (front, rest) => (c :: front, rest)

variable {mark front rest cs : List Char}

/-- There is no mark in the text before it. -/
theorem occursIn_of_cutAt? (hmark : mark ≠ []) (h : cutAt? mark cs = some (front, rest)) :
    front <+: cs ∧ occursIn mark front = false := by
  induction cs generalizing front rest with
  | nil => cases h
  | cons c cs ih =>
      rw [cutAt?] at h
      split at h
      · obtain ⟨rfl, -⟩ := Prod.mk.inj (Option.some.inj h)
        exact ⟨List.nil_prefix, by simpa [occursIn] using hmark⟩
      · rename_i hother
        obtain ⟨⟨more, after⟩, hcut, heq⟩ := Option.map_eq_some_iff.mp h
        obtain ⟨rfl, -⟩ := Prod.mk.inj heq
        obtain ⟨hmore, hnone⟩ := ih hcut
        have hfront : c :: more <+: c :: cs := (List.prefix_cons_inj c).mpr hmore
        refine ⟨hfront, ?_⟩
        rw [occursIn, hnone, Bool.or_false, Bool.eq_false_iff]
        intro hstarts
        rw [List.isPrefixOf_iff_prefix] at hstarts hother
        exact hother (hstarts.trans hfront)

/-- A text without the mark, up to a character that is not in the mark, is before the mark. -/
theorem cutAt?_append {c : Char} (hmark : mark ≠ []) (hfront : occursIn mark front = false)
    (hc : c ∉ mark) :
    cutAt? mark (front ++ c :: rest) =
      (cutAt? mark rest).map fun (more, after) => (front ++ c :: more, after) := by
  induction front with
  | nil =>
      have hother : ¬ mark.isPrefixOf (c :: rest) = true := by
        rw [List.isPrefixOf_iff_prefix]
        intro hstarts
        obtain ⟨m, ms, rfl⟩ := List.exists_cons_of_ne_nil hmark
        obtain ⟨rfl, -⟩ := List.cons_prefix_cons.mp hstarts
        exact hc List.mem_cons_self
      rw [List.nil_append, cutAt?, if_neg hother]
      rfl
  | cons d front ih =>
      rw [occursIn, Bool.or_eq_false_iff] at hfront
      have hother : ¬ mark.isPrefixOf (d :: (front ++ c :: rest)) = true := by
        rw [List.isPrefixOf_iff_prefix]
        intro hstarts
        have hupto : d :: front ++ [c] <+: d :: (front ++ c :: rest) := ⟨rest, by simp⟩
        rcases List.prefix_or_prefix_of_prefix hstarts hupto with hwithin | hbeyond
        · rcases List.prefix_concat_iff.mp hwithin with rfl | hbefore
          · exact hc (by simp)
          · rw [← List.isPrefixOf_iff_prefix, hfront.1] at hbefore
            cases hbefore
        · exact hc (hbeyond.subset (by simp))
      rw [List.cons_append, cutAt?, if_neg hother, ih hfront.2, Option.map_map]
      rfl

end Text

/-! ## Skeletons -/

namespace Script

/-- What a docstring starts and ends with. -/
def quotes : List Char :=
  ['"', '"', '"']

/-- The text between the first quotes and the next. -/
def quoted? (cs : List Char) : Option (List Char) :=
  (Text.cutAt? quotes cs).bind fun opened => (Text.cutAt? quotes opened.2).map (·.1)

/-- Whether a line is a comment on a step. -/
def isComment (line : String) : Bool :=
  (comment "").toList.isPrefixOf line.toList

/-- A script whose first line is its docstring and all of it, with a title in it. After it there are the
fixed lines in their order, and comments. -/
structure Laid (title : String) (comments : List String) (script : String) (body : List Char)
    (rest : List String) : Prop where
  quoted : quoted? script.toList = some body
  titled : title.toList <:+: body
  lines : Text.lines script = String.ofList (quotes ++ body ++ quotes) :: rest
  fixed : rest.filter (!isComment ·) = opening ++ closing ++ [""]
  commented : rest.filter (isComment ·) = comments.map comment

/-- A script that is a skeleton with comments under a title, and nothing else. -/
def Skeletal (title : String) (comments : List String) (script : String) : Prop :=
  ∃ body rest, Laid title comments script body rest

/-- A title that a docstring can hold on one line. -/
structure Holds (title : String) : Prop where
  lineFeed : '\n' ∉ title.toList
  carriageReturn : '\r' ∉ title.toList
  unquoted : Text.occursIn quotes title.toList = false

variable {title script : String} {steps : List String}

theorem Skeletal.holds (h : Skeletal title steps script) : Holds title := by
  obtain ⟨body, rest, h⟩ := h
  have hfirst : String.ofList (quotes ++ body ++ quotes) ∈ Text.lines script := by simp [h.lines]
  obtain ⟨hfeed, hreturn⟩ := Text.notMem_of_mem_lines hfirst
  rw [String.toList_ofList] at hfeed hreturn
  have hbody : ∀ c ∈ title.toList, c ∈ quotes ++ body ++ quotes := fun c hc => by
    simp [h.titled.subset hc]
  refine ⟨fun hc => hfeed (hbody _ hc), fun hc => hreturn (hbody _ hc), ?_⟩
  obtain ⟨opened, -, hclosed⟩ := Option.bind_eq_some_iff.mp h.quoted
  obtain ⟨closed, hcut, rfl⟩ := Option.map_eq_some_iff.mp hclosed
  have hnone : Text.occursIn quotes closed.1 = false :=
    (Text.occursIn_of_cutAt? (by decide) hcut).2
  rw [Bool.eq_false_iff, ne_eq, Text.occursIn_iff] at hnone ⊢
  exact fun hmark => hnone (hmark.trans h.titled)

/-- The words of a docstring before the title. -/
def lead : String :=
  "Playwright skeleton exported from"

/-- What is between the quotes of a docstring. -/
def body (title : String) : List Char :=
  lead.toList ++ ' ' :: (title.toList ++ ['.'])

theorem toList_docstring (title : String) :
    (docstring title).toList = quotes ++ body title ++ quotes := by
  have hopening : "\"\"\"Playwright skeleton exported from " = "\"\"\"" ++ lead ++ " " := by decide
  have hclosing : ".\"\"\"" = "." ++ "\"\"\"" := by decide
  have hdocstring : docstring title =
      "\"\"\"Playwright skeleton exported from " ++ title ++ ".\"\"\"" := rfl
  have hquotes : "\"\"\"".toList = quotes := rfl
  have hspace : " ".toList = [' '] := rfl
  have hdot : ".".toList = ['.'] := rfl
  simp only [hdocstring, hopening, hclosing, String.toList_append, hquotes, hspace, hdot, body,
    List.append_assoc, List.cons_append, List.nil_append]

theorem quoted?_docstring (h : Text.occursIn quotes title.toList = false) (more : List Char) :
    quoted? ((docstring title).toList ++ more) = some (body title) := by
  have hopen : ∀ cs, Text.cutAt? quotes (quotes ++ cs) = some ([], cs) := fun cs => rfl
  have htext : (docstring title).toList ++ more =
      quotes ++ (lead.toList ++ ' ' :: (title.toList ++ '.' :: (quotes ++ more))) := by
    simp [toList_docstring, body]
  have hlead : Text.occursIn quotes lead.toList = false := by decide
  rw [quoted?, htext, hopen, Option.bind_some]
  dsimp only
  rw [Text.cutAt?_append (by decide) hlead (by decide), Text.cutAt?_append (by decide) h (by decide),
    hopen]
  rfl

theorem isComment_comment (step : String) : isComment (comment step) = true := by
  rw [isComment, List.isPrefixOf_iff_prefix]
  exact ⟨step.toList, by simp [comment]⟩

theorem isComment_of_mem_fixed {line : String} (h : line ∈ opening ++ (closing ++ [""])) :
    isComment line = false := by
  have hnone : (opening ++ (closing ++ [""])).all (!isComment ·) = true := by decide +kernel
  simpa using List.all_eq_true.mp hnone line h

theorem notMem_of_mem_fixed {line : String} (h : line ∈ opening ++ (closing ++ [""])) :
    '\n' ∉ line.toList ∧ '\r' ∉ line.toList := by
  have hnone : (opening ++ (closing ++ [""])).all
      (fun line => !line.toList.contains '\n' && !line.toList.contains '\r') = true := by decide +kernel
  simpa using List.all_eq_true.mp hnone line h

/-- Whatever the title, each step is a comment on one line, and after the docstring there is nothing else
but the fixed lines. -/
theorem lines_script (title : String)
    (hsteps : ∀ step ∈ steps, '\n' ∉ step.toList ∧ '\r' ∉ step.toList) :
    Text.lines (Text.unlines (scriptLines title steps)) =
      Text.lines (docstring title) ++ (opening ++ steps.map comment ++ (closing ++ [""])) := by
  have hend : (docstring title).toList.getLast? ≠ some '\r' := by
    have hquotes : quotes.getLast? = some '"' := rfl
    rw [toList_docstring, List.getLast?_append, hquotes]
    exact fun h => absurd (Option.some.inj h) (by decide)
  have hparts : ∀ part ∈ opening ++ steps.map comment ++ closing,
      '\n' ∉ part.toList ∧ '\r' ∉ part.toList := by
    intro part hpart
    simp only [List.mem_append, List.mem_map] at hpart
    rcases hpart with (hopening | ⟨step, hstep, rfl⟩) | hclosing
    · exact notMem_of_mem_fixed (by simp [hopening])
    · simpa [comment] using hsteps step hstep
    · exact notMem_of_mem_fixed (by simp [hclosing])
  rw [scriptLines, List.append_assoc, List.cons_append, Text.unlines, Text.lines_append hend,
    ← List.append_assoc, Text.lines_unlines hparts, List.append_assoc]

/-- A script is a skeleton with its steps as comments exactly if the docstring can hold its title. -/
theorem skeletal_iff (hsteps : ∀ step ∈ steps, '\n' ∉ step.toList ∧ '\r' ∉ step.toList) :
    Skeletal title steps (Text.unlines (scriptLines title steps)) ↔ Holds title := by
  refine ⟨Skeletal.holds, fun h => ?_⟩
  have hdocstring : '\n' ∉ (docstring title).toList ∧ '\r' ∉ (docstring title).toList := by
    have hlead : '\n' ∉ lead.toList ∧ '\r' ∉ lead.toList := by decide
    have hquotes : '\n' ∉ quotes ∧ '\r' ∉ quotes := by decide
    rw [toList_docstring]
    simp [hquotes, body, hlead, h.lineFeed, h.carriageReturn]
  have hopening : ∀ line ∈ opening, isComment line = false := fun line hline =>
    isComment_of_mem_fixed (by simp [hline])
  have hclosing : ∀ line ∈ closing ++ [""], isComment line = false := fun line hline =>
    isComment_of_mem_fixed (List.mem_append_right _ hline)
  refine ⟨body title, opening ++ steps.map comment ++ (closing ++ [""]), ?_, ?_, ?_, ?_, ?_⟩
  · rw [scriptLines, List.append_assoc, List.cons_append, Text.unlines, String.toList_append,
      String.toList_append, List.append_assoc]
    exact quoted?_docstring h.unquoted _
  · exact ⟨lead.toList ++ [' '], ['.'], by simp [body]⟩
  · rw [lines_script title hsteps, Text.lines_of_notMem hdocstring, ← toList_docstring,
      String.ofList_toList]
    rfl
  · rw [List.filter_append, List.filter_append, List.filter_eq_self.mpr (by simpa using hopening),
      List.filter_eq_nil_iff.mpr (by simp [isComment_comment]),
      List.filter_eq_self.mpr fun line hline => by simp [hclosing line hline]]
    simp
  · rw [List.filter_append, List.filter_append, List.filter_eq_nil_iff.mpr (by simpa using hopening),
      List.filter_eq_self.mpr (by simp [isComment_comment]),
      List.filter_eq_nil_iff.mpr fun line hline => by simp [hclosing line hline]]
    simp

end Script

/-! ## Scripts of plans -/

namespace Plan

open Script

/-- What a plan is called in its script. -/
def title (p : Plan) : String :=
  if p.name.isTruthy then p.name.display else fallbackName

theorem Accepted.title_eq {p : Plan} (hp : p.Accepted) :
    p.name = .str p.title ∨ p.name = .null ∧ p.title = fallbackName := by
  obtain ⟨-, hname, -⟩ := accepted_iff.mp hp
  unfold title
  cases hset : p.name.isSet with
  | true =>
      obtain ⟨s, hs, hne⟩ := hname hset
      exact .inl (by simp [hs, Json.isTruthy, Json.display, hne])
  | false =>
      have hnull : p.name = .null := by
        cases hcase : p.name <;> simp [hcase, Json.isSet] at hset ⊢
      exact .inr ⟨hnull, by simp [hnull, Json.isTruthy]⟩

theorem script_of_lines {p : Plan} {steps : List String} (h : p.lines = .ok steps) :
    p.script = .ok (Text.unlines (Script.scriptLines p.title steps)) := by
  rw [script, Plan.scriptLines, h]
  rfl

theorem script_of_error {p : Plan} {failure : Failure} (h : p.lines = .error failure) :
    p.script = .error failure := by
  rw [script, Plan.scriptLines, h]

/-- The script of an accepted plan, which is made unless a number in it is too long, is its docstring and
then a fixed skeleton with the plan's lines as comments. All of it is as it should be, the docstring on one
line with the plan's name in it, exactly if the name has neither a line end nor the docstring's quotes in
it. -/
theorem scripts_are_skeletal_iff {v : Json} {p : Plan} (hp : validate v = .ok p) :
    (p.name = .str p.title ∨ p.name = .null ∧ p.title = fallbackName) ∧
      (∀ failure, p.script = .error failure → failure = .value .overlongInteger ∧
        ∃ primitives, p.compile = .ok primitives ∧ ∃ primitive ∈ primitives, ¬ IsShort primitive) ∧
      ∀ {source}, p.script = .ok source → ∃ steps, p.lines = .ok steps ∧
        Text.lines source =
          Text.lines (docstring p.title) ++ (opening ++ steps.map comment ++ (closing ++ [""])) ∧
        (Skeletal p.title steps source ↔ Holds p.title) := by
  have haccepted := accepted_of_validate hp
  obtain ⟨primitives, hcompile⟩ : ∃ primitives, p.compile = .ok primitives :=
    haccepted.exists_ofTagged 0 0
  refine ⟨haccepted.title_eq, fun failure hfails => ?_, fun {source} hsource => ?_⟩
  · cases hlines : p.lines with
    | ok steps => simp [script_of_lines hlines] at hfails
    | error problem =>
        obtain rfl : problem = failure := by simpa [script_of_error hlines] using hfails
        refine ⟨failsOnly_lines hcompile problem hlines, primitives, hcompile, ?_⟩
        by_contra hshort
        obtain ⟨steps, hsteps⟩ := (exists_lines_iff hcompile).mpr fun primitive hmem =>
          not_not.mp fun hlong => hshort ⟨primitive, hmem, hlong⟩
        cases hlines.symm.trans hsteps
  · cases hlines : p.lines with
    | error problem => simp [script_of_error hlines] at hsource
    | ok steps =>
        obtain rfl := Except.ok.inj ((script_of_lines hlines).symm.trans hsource)
        have hplain : ∀ step ∈ steps, '\n' ∉ step.toList ∧ '\r' ∉ step.toList :=
          fun step hstep => haccepted.notMem_lines hlines hstep
        exact ⟨steps, rfl, lines_script p.title hplain, skeletal_iff hplain⟩

/-- A plan with a plain name. -/
theorem scripts_are_skeletal_iff_smoke :
    let p : Plan := ⟨.str "1", .str "Smoke", .null, [.goto (.str "https://example.com")]⟩
    validate p.toJson = .ok p ∧ ∃ steps source, p.lines = .ok steps ∧ p.script = .ok source ∧
      Skeletal "Smoke" steps source := by
  intro p
  have hp : validate p.toJson = .ok p := by rfl
  have hlines : p.lines = .ok ["1. goto(url=\"https://example.com\")"] := by rfl
  have hscript := script_of_lines hlines
  obtain ⟨-, -, hmade⟩ := scripts_are_skeletal_iff hp
  obtain ⟨steps, hsteps, -, hskeletal⟩ := hmade hscript
  have htitle : p.title = "Smoke" := rfl
  have hholds : Holds p.title := by
    rw [htitle]
    exact ⟨by decide, by decide, by decide⟩
  exact ⟨hp, steps, _, hsteps, hscript, htitle ▸ hskeletal.mpr hholds⟩

/-- A name that ends the docstring puts a line of its own among those of the script. -/
theorem name_leaves_docstring :
    let p : Plan := ⟨.str "1", .str "x\"\"\"\nimport os\n\"\"\"", .null,
      [.goto (.str "https://example.com")]⟩
    let steps := ["1. goto(url=\"https://example.com\")"]
    validate p.toJson = .ok p ∧ p.lines = .ok steps ∧ ∃ source, p.script = .ok source ∧
      "import os" ∈ Text.lines source ∧ isComment "import os" = false ∧
      "import os" ∉ opening ++ closing ∧ ¬ Skeletal p.title steps source := by
  intro p steps
  have hlines : p.lines = .ok steps := by rfl
  have hp : validate p.toJson = .ok p := by rfl
  have hfeed : '\n' ∈ p.title.toList := by decide
  have hline : "import os" ∈ Text.lines (docstring p.title) := by decide +kernel
  have hplain : ∀ step ∈ steps, '\n' ∉ step.toList ∧ '\r' ∉ step.toList := fun step hstep =>
    (accepted_of_validate hp).notMem_lines hlines hstep
  refine ⟨hp, hlines, _, script_of_lines hlines, ?_, by decide, by decide, ?_⟩
  · rw [lines_script p.title hplain]
    exact List.mem_append_left _ hline
  · exact fun h => h.holds.lineFeed hfeed

end Plan
end Walkthrough
