import Walkthrough.Profile.Store
import Walkthrough.Proofs.Path

/-! # Domains as names of files

The domain of a plan is lower case at its start and holds no slash, so the file of its profile lies
in the directory of profiles and has a name of its own there. -/

namespace Walkthrough.Profile

theorem toLower_ne_capital (c : Char) : c.toLower ≠ 'R' := by
  unfold Char.toLower
  split
  · rename_i hc
    intro h
    have hval : c.val + ('a'.val - 'A'.val) = 'R'.val := congrArg Char.val h
    have hsum := congrArg UInt32.toNat hval
    have hlow : 'A'.val.toNat ≤ c.val.toNat := hc.1
    have hhigh : c.val.toNat ≤ 'Z'.val.toNat := hc.2
    simp at hsum hlow hhigh
    omega
  · rename_i hc
    rintro rfl
    exact hc (by decide)

theorem head?_lowerHostChar (c : Char) : (Url.lowerHostChar c).head? ≠ some 'R' := by
  unfold Url.lowerHostChar
  split
  · decide
  · split
    · decide
    · simpa using toLower_ne_capital c

/-- A host starts with a lower case letter, if with a letter, or with its zone. -/
theorem head?_host (url : Url) : url.host.head? ≠ some 'R' := by
  unfold Url.host
  cases hraw : url.rawHost with
  | nil => simp [Text.before]
  | cons c cs =>
      by_cases hc : c = '%'
      · subst hc
        simp [Text.before]
      · have hlower : Url.lowerHostChar c ≠ [] := by
          unfold Url.lowerHostChar
          split
          · simp
          · split <;> simp
        have hhead := head?_lowerHostChar c
        obtain ⟨d, ds, hd⟩ := List.exists_cons_of_ne_nil hlower
        simpa [Text.before, hc, hd] using hhead

/-- The name of a domain, as it is made from a host. -/
structure IsDomain (domain : String) : Prop where
  slash : '/' ∉ domain.toList
  head : domain.toList.head? ≠ some 'R'

theorem isDomain_default : IsDomain defaultDomain :=
  ⟨by decide, by decide⟩

theorem isDomain_domainOfHost {host : List Char} (h : host.head? ≠ some 'R') :
    IsDomain (domainOfHost host) := by
  refine ⟨?_, ?_⟩
  · rw [domainOfHost, String.toList_ofList]
    intro hmem
    obtain ⟨c, -, hc⟩ := List.mem_map.mp hmem
    split at hc
    · rename_i hkept
      subst hc
      exact absurd hkept (by decide)
    · cases hc
  · rw [domainOfHost, String.toList_ofList]
    cases host with
    | nil => simp
    | cons c cs =>
        simp only [List.map_cons, List.head?_cons, ne_eq, Option.some.injEq] at h ⊢
        split
        · exact h
        · decide

theorem isDomain_of_domainOf {actions : List Action} {domain : String}
    (h : domainOf actions = .ok domain) : IsDomain domain := by
  induction actions with
  | nil =>
      obtain rfl := Except.ok.inj h
      exact isDomain_default
  | cons action rest ih =>
      unfold domainOf at h
      split at h
      · split at h
        · unfold domainOfUrl at h
          split at h
          · cases h
          · obtain rfl := Except.ok.inj h
            split
            · exact isDomain_default
            · exact isDomain_domainOfHost (head?_host _)
        · obtain rfl := Except.ok.inj h
          exact isDomain_default
      · exact ih h

/-- The first page that actions go to decides, so actions that follow do not matter. -/
theorem domainOf_append_of_mem {actions : List Action}
    (h : ∃ action ∈ actions, action.kind = "goto") (more : List Action) :
    domainOf (actions ++ more) = domainOf actions := by
  induction actions with
  | nil => simp at h
  | cons action rest ih =>
      rw [List.cons_append, domainOf, domainOf]
      by_cases hkind : action.kind = "goto"
      · rw [if_pos hkind, if_pos hkind]
      · have hrest : ∃ other ∈ rest, other.kind = "goto" := by simpa [hkind] using h
        rw [if_neg hkind, if_neg hkind, ih hrest]

/-- Actions that go to no page do not matter. -/
theorem domainOf_append_of_forall (actions : List Action) {more : List Action}
    (h : ∀ action ∈ more, action.kind ≠ "goto") :
    domainOf (actions ++ more) = domainOf actions := by
  have hmore : domainOf more = .ok defaultDomain := by
    induction more with
    | nil => rfl
    | cons action rest ih =>
        obtain ⟨hkind, hrest⟩ := List.forall_mem_cons.mp h
        rw [domainOf, if_neg hkind, ih hrest]
  induction actions with
  | nil => exact hmore
  | cons action rest ih =>
      rw [List.cons_append, domainOf, domainOf, ih]

theorem fileName_ne {s : String} (h : s.toList.length < 5) (domain : String) :
    domain ++ ".json" ≠ s := by
  rintro rfl
  have hlength : (domain ++ ".json").toList.length = domain.toList.length + 5 := by
    rw [String.toList_append, List.length_append]
    rfl
  omega

/-- The file of a name without a slash lies right in the directory of profiles. -/
theorem isPart_fileName {domain : String} (h : '/' ∉ domain.toList) :
    Path.IsPart (domain ++ ".json") ∧ domain ++ ".json" ≠ ".." := by
  refine ⟨⟨fileName_ne (by decide) domain, fileName_ne (by decide) domain, ?_⟩,
    fileName_ne (by decide) domain⟩
  rw [String.toList_append, List.mem_append, not_or]
  exact ⟨h, by decide⟩

/-- The file of a domain has a name that ends like all of them, and is not that of a report. -/
theorem IsDomain.isPart {domain : String} (h : IsDomain domain) :
    Path.IsPart (domain ++ ".json") ∧ domain ++ ".json" ≠ ".." ∧
      domain ++ ".json" ≠ "RunResult.json" := by
  obtain ⟨hpart, hup⟩ := isPart_fileName h.slash
  refine ⟨hpart, hup, fun heq => ?_⟩
  have hhead := congrArg (fun s : String => s.toList.head?) heq
  simp only [String.toList_append] at hhead
  cases hdomain : domain.toList with
  | nil =>
      rw [hdomain] at hhead
      exact absurd hhead (by decide)
  | cons c cs =>
      refine h.head ?_
      rw [hdomain] at hhead ⊢
      simpa using hhead

/-- The file of a domain is not the log of a run, whose name ends in another way. -/
theorem name_ne_log (domain : String) : domain ++ ".json" ≠ "runner.log" := by
  intro heq
  have hlast := congrArg (fun s : String => s.toList.getLast?) heq
  simp only [String.toList_append, List.getLast?_append] at hlast
  simp at hlast

end Walkthrough.Profile
