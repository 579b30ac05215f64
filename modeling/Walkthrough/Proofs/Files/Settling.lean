import Mathlib.Logic.Relation
import Walkthrough.Proofs.Path

/-! # Settled places

The place of a path is what is left of its parts when those that name nothing are dropped and double
dots are taken away with the name before them. In whichever order that is done it ends in one place,
the one that the path is resolved to. -/

namespace Walkthrough

namespace Path

/-! ## Parts of names -/

/-- The parts of a name: the texts without slashes that are the name when slashes join them. -/
structure Spells (name : String) (parts : List String) : Prop where
  nonempty : parts ≠ []
  joined : Text.join "/" parts = name
  plain : ∀ part ∈ parts, '/' ∉ part.toList

/-- What a name stands for after a directory; one that starts with a slash stands for itself. -/
def after (dir name : String) : String :=
  if name.toList.head? = some '/' then name else dir ++ "/" ++ name

theorem spells_iff {name : String} {parts : List String} :
    Spells name parts ↔ parts = (Text.splitAt '/' name.toList).map String.ofList := by
  constructor
  · rintro ⟨hne, rfl, hplain⟩
    rw [Text.splitAt_join hne hplain]
    simp [Function.comp_def]
  · rintro rfl
    refine ⟨by simp [Text.splitAt_ne_nil], ?_, ?_⟩
    · rw [← String.toList_inj, Text.join_splitAt]
    · intro part hpart
      obtain ⟨piece, hpiece, rfl⟩ := List.mem_map.mp hpart
      simpa using Text.notMem_of_mem_splitAt hpiece

theorem Spells.after {dir name : String} {parts more : List String} (h : Spells dir parts)
    (hmore : Spells name more) (hname : name.toList.head? ≠ some '/') :
    Spells (Path.after dir name) (parts ++ more) := by
  refine ⟨by simp [h.nonempty], ?_, ?_⟩
  · rw [Text.join_append h.nonempty hmore.nonempty, h.joined, hmore.joined, Path.after, if_neg hname]
  · intro part hpart
    rcases List.mem_append.mp hpart with hmem | hmem
    · exact h.plain part hmem
    · exact hmore.plain part hmem

/-! ## Settling -/

/-- The texts that are no names: the empty one and the dots. -/
def silent : List String :=
  ["", ".", ".."]

/-- One step of settling parts that are seen from the root: a part that names nothing is dropped, and
double dots are taken away with the name before them, or alone at the root. -/
inductive Shortens : List String → List String → Prop
  | empty (before after : List String) : Shortens (before ++ "" :: after) (before ++ after)
  | dot (before after : List String) : Shortens (before ++ "." :: after) (before ++ after)
  | up (before after : List String) {name : String} (named : name ∉ silent) :
      Shortens (before ++ name :: ".." :: after) (before ++ after)
  | root (after : List String) : Shortens (".." :: after) after

/-- Names that are left of parts when they are settled. -/
structure Settles (parts place : List String) : Prop where
  steps : Relation.ReflTransGen Shortens parts place
  settled : ∀ part ∈ place, part ∉ silent

/-- Parts that name something, or go up. -/
def kept (parts : List String) : List String :=
  parts.filter fun part => part ≠ "" && part ≠ "."

/-- Settling parts in their order comes to a place that no other order of the steps can miss. -/
theorem foldl_step_of_shortens {parts parts' : List String} (h : Shortens parts parts') :
    (kept parts).foldl step [] = (kept parts').foldl step [] := by
  cases h with
  | empty before after => simp [kept]
  | dot before after => simp [kept]
  | up before after named =>
      simp only [silent, List.mem_cons, List.not_mem_nil, or_false, not_or] at named
      simp [kept, named, step]
  | root after => simp [kept, step]

theorem foldl_step_of_settled {place : List String} (h : ∀ part ∈ place, part ∉ silent) :
    (kept place).foldl step [] = place := by
  have hkept : kept place = place := by
    refine List.filter_eq_self.mpr fun part hpart => ?_
    have hnamed := h part hpart
    simp only [silent, List.mem_cons, List.not_mem_nil, or_false, not_or] at hnamed
    simp [hnamed]
  rw [hkept, foldl_step_of_notMem [] fun hup => h ".." hup (by decide), List.nil_append]

/-- Parts after settled ones are settled from left to right. -/
theorem steps_foldl_step (parts : List String) {place : List String}
    (h : ∀ part ∈ place, part ∉ silent) :
    Relation.ReflTransGen Shortens (place ++ parts) ((kept parts).foldl step place) ∧
      ∀ part ∈ (kept parts).foldl step place, part ∉ silent := by
  induction parts generalizing place with
  | nil => exact ⟨by simpa using .refl, h⟩
  | cons part rest ih =>
      by_cases hempty : part = ""
      · subst hempty
        obtain ⟨hsteps, hsettled⟩ := ih h
        exact ⟨.head (.empty place rest) hsteps, hsettled⟩
      by_cases hdot : part = "."
      · subst hdot
        obtain ⟨hsteps, hsettled⟩ := ih h
        exact ⟨.head (.dot place rest) hsteps, hsettled⟩
      have hkept : kept (part :: rest) = part :: kept rest := by simp [kept, hempty, hdot]
      rw [hkept, List.foldl_cons]
      by_cases hup : part = ".."
      · subst hup
        have hstep : step place ".." = place.dropLast := rfl
        obtain ⟨hsteps, hsettled⟩ := ih fun q hq => h q (List.dropLast_subset place hq)
        rw [hstep]
        refine ⟨.head ?_ hsteps, hsettled⟩
        rcases List.eq_nil_or_concat place with rfl | ⟨above, name, rfl⟩
        · exact .root rest
        · simpa using Shortens.up above rest (h name (by simp))
      · have hstep : step place part = place ++ [part] := if_neg hup
        have hnamed : part ∉ silent := by simp [silent, hempty, hdot, hup]
        obtain ⟨hsteps, hsettled⟩ := @ih (place ++ [part]) fun q hq => by
          rcases List.mem_append.mp hq with hmem | hmem
          · exact h q hmem
          · exact List.mem_singleton.mp hmem ▸ hnamed
        rw [hstep]
        exact ⟨by simpa using hsteps, hsettled⟩

/-- Whatever is settled first, parts settle in one place. -/
theorem settles_iff {parts place : List String} :
    Settles parts place ↔ place = (kept parts).foldl step [] := by
  constructor
  · rintro ⟨hsteps, hsettled⟩
    have hsame : (kept parts).foldl step [] = (kept place).foldl step [] := by
      clear hsettled
      induction hsteps with
      | refl => rfl
      | tail _ hlast ih => exact ih.trans (foldl_step_of_shortens hlast)
    rw [hsame, foldl_step_of_settled hsettled]
  · rintro rfl
    obtain ⟨hsteps, hsettled⟩ := @steps_foldl_step parts [] (by simp)
    exact ⟨hsteps, hsettled⟩

/-! ## Places of names -/

/-- The place that a name leads to from the root on: what its parts settle in. -/
def LeadsTo (name : String) (place : List String) : Prop :=
  ∃ parts, Spells name parts ∧ Settles parts place

theorem parts_ofText {name : String} {parts : List String} (h : Spells name parts) :
    (ofText name).parts = kept parts := by
  rw [spells_iff.mp h, kept, List.filter_map]
  refine congrArg (List.map String.ofList) (List.filter_congr fun piece _ => ?_)
  have hempty : String.ofList piece = "" ↔ piece = [] := by
    rw [← String.toList_inj, String.toList_ofList, String.toList_empty]
  have hdot : String.ofList piece = "." ↔ piece = ['.'] := by
    rw [← String.toList_inj, String.toList_ofList]
    rfl
  simp [hempty, hdot]

theorem root_ofText_eq_iff {name : String} :
    (ofText name).root = "" ↔ name.toList.head? ≠ some '/' := by
  cases hname : name.toList with
  | nil => simp [ofText, hname]
  | cons c cs =>
      by_cases hc : c = '/'
      · simp only [ofText, hname, hc]
        split_ifs <;> simp_all
      · simp [ofText, hname, hc]

theorem leadsTo_iff {name : String} (h : name.toList.head? = some '/') (home place : List String) :
    LeadsTo name place ↔ place = (ofText name).resolve home := by
  have hroot : (ofText name).root ≠ "" := fun heq => root_ofText_eq_iff.mp heq h
  have hspells : Spells name _ := spells_iff.mpr rfl
  rw [resolve, if_neg hroot, parts_ofText hspells]
  constructor
  · rintro ⟨parts, hparts, hsettles⟩
    rw [spells_iff.mp hparts] at hsettles
    exact settles_iff.mp hsettles
  · rintro rfl
    exact ⟨_, hspells, settles_iff.mpr rfl⟩

/-- A name after a directory leads where it is resolved to from the place of the directory. -/
theorem leadsTo_after_iff {dir : String} (h : dir.toList.head? = some '/') (name : String)
    (home place : List String) :
    LeadsTo (after dir name) place ↔ place = (ofText name).resolve ((ofText dir).resolve home) := by
  by_cases hname : name.toList.head? = some '/'
  · rw [after, if_pos hname]
    exact leadsTo_iff hname _ place
  · have hroot : (ofText dir).root ≠ "" := fun heq => root_ofText_eq_iff.mp heq h
    have hdir : Spells dir _ := spells_iff.mpr rfl
    have hlast : Spells name _ := spells_iff.mpr rfl
    have hafter := hdir.after hlast hname
    have hhead : (after dir name).toList.head? = some '/' := by
      simp [after, hname, List.head?_append, h]
    have hfirst : (ofText (after dir name)).root ≠ "" := fun heq => root_ofText_eq_iff.mp heq hhead
    rw [leadsTo_iff hhead home, resolve, if_neg hfirst, parts_ofText hafter, resolve,
      if_pos (root_ofText_eq_iff.mpr hname), resolve, if_neg hroot, parts_ofText hdir,
      parts_ofText hlast, ← List.foldl_append, kept, kept, kept, List.filter_append]

/-! ## Inside directories -/

/-- A place further in than a directory. -/
def StrictlyInside (dir place : List String) : Prop :=
  dir <+: place ∧ dir ≠ place

instance (dir place : List String) : Decidable (StrictlyInside dir place) :=
  inferInstanceAs (Decidable (_ ∧ _))

theorem strictlyInside_child (dir : Path) {name : String} (hname : IsPart name) (hup : name ≠ "..")
    (home : List String) : StrictlyInside (dir.resolve home) ((dir.child name).resolve home) := by
  rw [resolve_child dir hname hup]
  exact ⟨List.prefix_append _ _, by simp⟩

end Path
end Walkthrough
