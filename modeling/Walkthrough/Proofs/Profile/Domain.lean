import Walkthrough.Proofs.Plan.Compile
import Walkthrough.Proofs.Plan.Language
import Walkthrough.Proofs.Profile

/-! # Domains and the hosts that they are made from

The domain of a plan is the host of the first page gone to, character by character. What stays is what is
safe in the name of a file, and four characters that count as ASCII letters when case is ignored. -/

namespace Walkthrough.Profile

/-! ## Characters -/

/-- ASCII letters and digits, the point and the hyphen. -/
def isSafe (c : Char) : Bool :=
  c.isAlphanum || c = '.' || c = '-'

/-- The characters beyond ASCII that differ from an ASCII letter only by case folding. -/
def folded : List Char :=
  ['\u0130', '\u0131', '\u017F', '\u212A']

theorem isDomainChar_iff {c : Char} : isDomainChar c ↔ isSafe c ∨ c ∈ folded := by
  simp [isDomainChar, isSafe, folded, or_assoc]

theorem isSafe_of_mem_folded {c : Char} (h : c ∈ folded) : isSafe c = false := by
  have hall : folded.all (!isSafe ·) := by decide
  simpa using List.all_eq_true.mp hall c h

/-- A host with an underscore in place of each character that is not safe. -/
def safeName (host : List Char) : String :=
  String.ofList (host.map fun c => if isSafe c then c else '_')

theorem toList_domainOfHost (host : List Char) :
    (domainOfHost host).toList =
      host.map fun c => if isSafe c ∨ c ∈ folded then c else '_' := by
  simp only [domainOfHost, String.toList_ofList, isDomainChar_iff]

/-- A domain is the safe name of its host unless the host has one of the four characters. -/
theorem domainOfHost_eq_safeName_iff {host : List Char} :
    domainOfHost host = safeName host ↔ ∀ c ∈ host, c ∉ folded := by
  rw [← String.toList_inj, toList_domainOfHost, safeName, String.toList_ofList, List.map_inj_left]
  refine forall₂_congr fun c _ => ?_
  by_cases hfolded : c ∈ folded
  · have hunsafe := isSafe_of_mem_folded hfolded
    -- One of the four stays, and the safe name has an underscore there.
    have hne : c ≠ '_' := by
      rintro rfl
      revert hfolded
      decide
    simp [hfolded, hunsafe, hne]
  · simp [hfolded]

/-! ## First pages -/

/-- The host of the first page that steps go to; it is empty if they go to none. -/
inductive FirstHost : List Primitive → List Char → Prop
  | none {steps : List Primitive} (stays : ∀ q ∈ steps, q.kind ≠ "goto") : FirstHost steps []
  | goto {before after : List Primitive} {q : Primitive} {s : String} {url : Url}
      (stays : ∀ q ∈ before, q.kind ≠ "goto") (kind : q.kind = "goto")
      (payload : Table.get? q.payload "url" = some (.str s)) (split : Url.split s = .ok url) :
      FirstHost (before ++ q :: after) url.host

/-- The domain made from a host. -/
def domainFor (host : List Char) : String :=
  if host.isEmpty then defaultDomain else domainOfHost host

theorem domainOf_of_forall {actions : List Action} (h : ∀ action ∈ actions, action.kind ≠ "goto") :
    domainOf actions = .ok defaultDomain := by
  exact domainOf_append_of_forall [] h

/-- Actions before the first page gone to do not matter. -/
theorem domainOf_append_of_stays {before : List Action} (h : ∀ action ∈ before, action.kind ≠ "goto")
    (more : List Action) : domainOf (before ++ more) = domainOf more := by
  induction before with
  | nil => rfl
  | cons action rest ih =>
      obtain ⟨hkind, hrest⟩ := List.forall_mem_cons.mp h
      rw [List.cons_append, domainOf, if_neg hkind, ih hrest]

/-- The domain of steps is made from the host of the first page that they go to. -/
theorem FirstHost.domainOf_eq {steps : List Primitive} {host : List Char} (h : FirstHost steps host) :
    domainOf (steps.map Primitive.toAction) = .ok (domainFor host) := by
  cases h with
  | none stays => exact domainOf_of_forall (by simpa using stays)
  | goto stays kind payload split =>
      rw [List.map_append, domainOf_append_of_stays (by simpa using stays), List.map_cons, domainOf,
        if_pos kind, payload]
      simp [domainOfUrl, split, domainFor]

/-- A compiled step of an accepted plan that goes to a page goes to a URL that can be split. -/
theorem exists_split_of_mem_compile {p : Plan} (hp : p.Accepted) {primitives : List Primitive}
    (h : p.compile = .ok primitives) {q : Primitive} (hmem : q ∈ primitives) (hkind : q.kind = "goto") :
    ∃ s url, Table.get? q.payload "url" = some (.str s) ∧ Url.split s = .ok url := by
  obtain ⟨step, hstep, actions, hactions, haction⟩ := Plan.exists_of_mem_compile h hmem
  rcases Action.kind_of_ofStep hactions haction with htag | ⟨-, hother⟩
  · rw [hkind] at htag
    cases step with
    | goto v =>
        obtain rfl := Except.ok.inj hactions
        obtain ⟨s, rfl, -, habsolute⟩ : FieldKind.url.Admits v := (hp.reads _ hstep).admits "url"
          (by simp [Step.fields]) (by simp [Step.shape, Step.tag]) (by simp [Step.shape, Step.tag])
        obtain ⟨url, hsplit, -⟩ := Url.isAbsolute_eq_true_iff.mp habsolute
        refine ⟨s, url, ?_, hsplit⟩
        rw [show q.payload = _ from congrArg Action.payload (List.mem_singleton.mp haction)]
        rfl
    | click | fill | expect | login | waitFor | extractTextList => simp [Step.tag] at htag
  · exact absurd hkind hother

theorem exists_firstHost {p : Plan} (hp : p.Accepted) {primitives : List Primitive}
    (h : p.compile = .ok primitives) : ∃ host, FirstHost primitives host := by
  cases hfind : primitives.find? (·.kind = "goto") with
  | none => exact ⟨[], .none (by simpa using hfind)⟩
  | some q =>
      obtain ⟨hkind, before, after, rfl, hstays⟩ := List.find?_eq_some_iff_append.mp hfind
      rw [decide_eq_true_eq] at hkind
      obtain ⟨s, url, hpayload, hsplit⟩ := exists_split_of_mem_compile hp h (by simp) hkind
      exact ⟨url.host, .goto (by simpa using hstays) hkind hpayload hsplit⟩

/-- The domain of an accepted plan is a name made from the host of the first page gone to: each character
that is safe stays, others become underscores, and so the name is safe unless the host has one of the
four characters that case folding takes for ASCII letters, which stay. In any case the profile lies right
in the directory of profiles, wherever that is. -/
theorem domains_are_safe_unless_folded {v : Json} {p : Plan} (h : Plan.validate v = .ok p)
    (root : Path) (home : List String) :
    ∃ primitives host domain, p.compile = .ok primitives ∧ FirstHost primitives host ∧
      domainOf (primitives.map Primitive.toAction) = .ok domain ∧
      (host = [] → domain = defaultDomain) ∧
      (host ≠ [] →
        domain.toList = host.map (fun c => if isSafe c ∨ c ∈ folded then c else '_') ∧
        (domain = safeName host ↔ ∀ c ∈ host, c ∉ folded)) ∧
      (∀ c ∈ domain.toList, isSafe c ∨ c = '_' ∨ c ∈ host ∧ c ∈ folded) ∧
      file root domain = ⟨root.root, root.parts ++ [domain ++ ".json"]⟩ ∧
      (file root domain).resolve home = root.resolve home ++ [domain ++ ".json"] := by
  have hp := Plan.accepted_of_validate h
  obtain ⟨primitives, hcompile⟩ := hp.exists_ofTagged 0 0
  obtain ⟨host, hhost⟩ := exists_firstHost hp hcompile
  have hdomain := hhost.domainOf_eq
  have hpart := (isDomain_of_domainOf hdomain).isPart
  refine ⟨primitives, host, domainFor host, hcompile, hhost, hdomain, ?_, ?_, ?_,
    Path.child_of_isPart root hpart.1, Path.resolve_child root hpart.1 hpart.2.1 home⟩
  · rintro rfl
    rfl
  · intro hne
    rw [domainFor, if_neg (by simpa using hne)]
    exact ⟨toList_domainOfHost host, domainOfHost_eq_safeName_iff⟩
  · intro c hc
    unfold domainFor at hc
    split at hc
    · have hdefault : defaultDomain.toList.all isSafe := by decide
      exact .inl (List.all_eq_true.mp hdefault c hc)
    · rw [toList_domainOfHost, List.mem_map] at hc
      obtain ⟨d, hd, rfl⟩ := hc
      by_cases hsafe : isSafe d <;> by_cases hfolded : d ∈ folded <;> simp [hsafe, hfolded, hd]

/-- The port and the path are no part of a domain. -/
theorem domains_are_safe_unless_folded_port :
    let p : Plan := ⟨.str "1", .null, .null, [.goto (.str "https://shop.example.com:8443/cart"),
      .goto (.str "https://other.test/")]⟩
    Plan.validate p.toJson = .ok p ∧ ∃ primitives host, p.compile = .ok primitives ∧
      FirstHost primitives host ∧
      domainOf (primitives.map Primitive.toAction) = .ok "shop.example.com" ∧
      "shop.example.com".toList = host.map (fun c => if isSafe c ∨ c ∈ folded then c else '_') ∧
      file ⟨"", ["profiles"]⟩ "shop.example.com" = ⟨"", ["profiles", "shop.example.com.json"]⟩ := by
  intro p
  have hp : Plan.validate p.toJson = .ok p := by rfl
  obtain ⟨primitives, host, domain, hcompile, hhost, hdomain, hempty, hname, -, hfile, -⟩ :=
    domains_are_safe_unless_folded hp ⟨"", ["profiles"]⟩ []
  obtain rfl : domain = "shop.example.com" := by
    cases hcompile
    exact (Except.ok.inj hdomain).symm
  have hne : host ≠ [] := fun hnone => absurd (hempty hnone) (by decide)
  exact ⟨hp, primitives, host, hcompile, hhost, hdomain, (hname hne).1, hfile⟩

/-- A host of which the first letter is a long s keeps it. -/
theorem long_s_stays :
    let p : Plan := ⟨.str "1", .null, .null, [.goto (.str "http://\u017F.example/")]⟩
    Plan.validate p.toJson = .ok p ∧ ∃ primitives host, p.compile = .ok primitives ∧
      FirstHost primitives host ∧ host = "\u017F.example".toList ∧
      domainOf (primitives.map Primitive.toAction) = .ok "\u017F.example" ∧
      safeName host = "_.example" := by
  intro p
  have hsplit : Url.split "http://\u017F.example/" =
      .ok ⟨"http".toList, "\u017F.example".toList⟩ := by rfl
  have hstays : ∀ q ∈ ([] : List Primitive), q.kind ≠ "goto" := by simp
  exact ⟨rfl, _, _, rfl, .goto hstays rfl rfl hsplit, rfl, rfl, by decide⟩

end Walkthrough.Profile
