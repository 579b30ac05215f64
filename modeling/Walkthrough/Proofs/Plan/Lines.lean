import Walkthrough.Proofs.Effect
import Walkthrough.Proofs.Plan.Sources
import Walkthrough.Proofs.Text.Split

/-! # What a plan's lines tell

A line shows a compiled step as a numbered call with JSON arguments, without those that are empty texts.
No plan is shown by two plans' lines at once: the arguments are read back one by one, and which ones are
left out is known from the kind of the call. -/

namespace Walkthrough

/-! ## Values on one line -/

namespace Json

/-- A text or a whole number. -/
inductive IsBasic : Json → Prop
  | str (s : String) : IsBasic (.str s)
  | int (n : Int) : IsBasic (.int n)

/-- A value is shown on one line unless a number in it is too long. -/
theorem failsOnly_oneLine (v : Json) :
    Effect.FailsOnly (fun failure => failure = .value .overlongInteger) v.oneLine := by
  unfold oneLine
  split
  · exact Effect.failsOnly_error rfl
  · exact Effect.failsOnly_ok _ _

theorem IsBasic.readsBack {v : Json} (hv : v.IsBasic) (hshort : v.isOverlong = false) :
    ReadsBack 0 v := by
  cases hv with
  | str s => exact readsBack_str 0 s
  | int n => exact readsBack_int 0 hshort

theorem IsBasic.line_eq {v : Json} (hv : v.IsBasic) : line .unicode v = block .unicode 0 v := by
  cases hv <;> simp [line]

/-- What follows a value tells nothing of it: the value is read back from the text first. -/
theorem IsBasic.line_append_inj {v w : Json} {rest more : List Char} (hv : v.IsBasic)
    (hw : w.IsBasic) (hvshort : v.isOverlong = false) (hwshort : w.isOverlong = false)
    (hrest : EndsNumber rest) (hmore : EndsNumber more)
    (h : line .unicode v ++ rest = line .unicode w ++ more) : v = w ∧ rest = more := by
  rw [hv.line_eq, hw.line_eq] at h
  have hleft := (hv.readsBack hvshort).reads
    (2 * (block .unicode 0 v).length + 2 * (block .unicode 0 w).length) rest (by omega) hrest
  have hright := (hw.readsBack hwshort).reads
    (2 * (block .unicode 0 v).length + 2 * (block .unicode 0 w).length) more (by omega) hmore
  rw [h, hright] at hleft
  obtain ⟨hvalue, hafter⟩ := Prod.mk.inj (Except.ok.inj hleft)
  exact ⟨hvalue.symm, hafter.symm⟩

theorem le_of_mem_toString {n : Int} {c : Char} (h : c ∈ (toString n).toList) : ' ' ≤ c := by
  rw [toList_int] at h
  rcases List.mem_append.mp h with hsign | hdigits
  · split at hsign
    · rw [List.mem_singleton.mp hsign]
      decide
    · cases hsign
  · have hdigit := isDigit_of_mem hdigits
    simp only [Char.isDigit, Bool.and_eq_true, decide_eq_true_eq] at hdigit
    exact Char.le_trans (by decide) hdigit.1

theorem IsBasic.le_of_mem_line {v : Json} (hv : v.IsBasic) {c : Char}
    (h : c ∈ line .unicode v) : ' ' ≤ c := by
  cases hv with
  | str s => exact le_of_mem_literal (by simpa [line] using h)
  | int n => exact le_of_mem_toString (by simpa [line] using h)

end Json

/-! ## Calls -/

namespace Action

def argumentText (argument : String × Json) : String :=
  argument.1 ++ "=" ++ argument.2.compact

/-- A call is shown if no number in it is too long. -/
theorem callText_eq_ok_iff {number : Int} {kind text : String} {payload : Table Json} :
    callText number kind payload = .ok text ↔
      (Json.int number).isOverlong = false ∧
      (∀ argument ∈ shown payload, argument.2.isOverlong = false) ∧
      toString number ++ ". " ++ kind ++ "(" ++
        Text.join ", " ((shown payload).map argumentText) ++ ")" = text := by
  have hargument : ∀ (argument : String × Json) (s : String),
      argument.2.oneLine.map (fun text => argument.1 ++ "=" ++ text) = .ok s ↔
        argument.2.isOverlong = false ∧ argumentText argument = s := by
    intro argument s
    unfold Json.oneLine argumentText
    cases argument.2.isOverlong <;> simp [Except.map]
  have harguments : ∀ texts, (shown payload).mapM (fun argument =>
      argument.2.oneLine.map fun text => argument.1 ++ "=" ++ text) = .ok texts ↔
        (∀ argument ∈ shown payload, argument.2.isOverlong = false) ∧
          (shown payload).map argumentText = texts := by
    intro texts
    simp only [mapM_eq_ok_iff, hargument]
    rw [List.forall₂_and_left, ← List.forall₂_map_left_iff, List.forall₂_eq_eq_eq]
  unfold callText
  cases hshown : (shown payload).mapM fun argument =>
      argument.2.oneLine.map fun text => argument.1 ++ "=" ++ text with
  | error failure =>
      refine iff_of_false nofun fun ⟨_, hshort, _⟩ => ?_
      rw [(harguments _).mpr ⟨hshort, rfl⟩] at hshown
      cases hshown
  | ok texts =>
      obtain ⟨hshort, rfl⟩ := (harguments _).mp hshown
      unfold Json.oneLine
      cases (Json.int number).isOverlong with
      | true => simp [bind, Except.bind]
      | false =>
          rw [and_iff_right rfl, and_iff_right hshort]
          simp [bind, Except.bind, pure, Except.pure, Json.compact, Json.line]

/-! ## Arguments -/

/-- The text of arguments and the bracket that closes them. -/
def argumentsText (arguments : Table Json) : List Char :=
  (Text.join ", " (arguments.map argumentText)).toList ++ [')']

theorem argumentsText_cons (argument : String × Json) (rest : Table Json) :
    argumentsText (argument :: rest) = argument.1.toList ++ '=' :: (Json.line .unicode argument.2 ++
      if rest = [] then [')'] else ',' :: ' ' :: argumentsText rest) := by
  cases rest with
  | nil => simp [argumentsText, argumentText, Text.join, Json.compact]
  | cons next rest => simp [argumentsText, argumentText, Text.join, Json.compact]

/-- An argument whose name and value can be told apart. -/
structure IsLegible (argument : String × Json) : Prop where
  name : argument.1.toList.all Char.isAlpha
  basic : argument.2.IsBasic

theorem notMem_of_isAlpha {cs : List Char} (h : cs.all Char.isAlpha) {c : Char}
    (hc : c.isAlpha = false) : c ∉ cs := by
  intro hmem
  rw [List.all_eq_true.mp h c hmem] at hc
  cases hc

/-- Arguments are read back from their text, each up to the mark after it. -/
theorem argumentsText_inj {xs ys : Table Json} (hx : ∀ x ∈ xs, IsLegible x ∧ x.2.isOverlong = false)
    (hy : ∀ y ∈ ys, IsLegible y ∧ y.2.isOverlong = false)
    (h : argumentsText xs = argumentsText ys) : xs = ys := by
  have hends : ∀ rest : Table Json,
      Json.EndsNumber (if rest = [] then [')'] else ',' :: ' ' :: argumentsText rest) := by
    intro rest
    split <;> exact Json.endsNumber_cons (by decide)
  -- The text of no arguments is shorter than that of any.
  have hempty : ∀ (argument : String × Json) (rest : Table Json),
      argumentsText [] ≠ argumentsText (argument :: rest) := by
    intro argument rest heq
    have hlength := congrArg List.length heq
    rw [argumentsText_cons] at hlength
    simp only [argumentsText, Text.join, List.map_nil, String.toList_empty, List.nil_append,
      List.length_append, List.length_cons, List.length_nil] at hlength
    split at hlength <;> simp only [List.length_cons] at hlength <;> omega
  induction xs generalizing ys with
  | nil =>
      cases ys with
      | nil => rfl
      | cons y ys => exact absurd h (hempty y ys)
  | cons x xs ih =>
      cases ys with
      | nil => exact absurd h.symm (hempty x xs)
      | cons y ys =>
          obtain ⟨hxlegible, hxshort⟩ := hx x (by simp)
          obtain ⟨hylegible, hyshort⟩ := hy y (by simp)
          rw [argumentsText_cons, argumentsText_cons] at h
          obtain ⟨hname, hvalues⟩ := Text.append_cons_inj
            (notMem_of_isAlpha hxlegible.name (by decide))
            (notMem_of_isAlpha hylegible.name (by decide)) h
          obtain ⟨hvalue, hrest⟩ := hxlegible.basic.line_append_inj hylegible.basic hxshort hyshort
            (hends xs) (hends ys) hvalues
          have htail : xs = ys := by
            split at hrest <;> split at hrest
            · simp_all
            · cases hrest
            · cases hrest
            · exact ih (fun z hz => hx z (by simp [hz])) (fun z hz => hy z (by simp [hz]))
                (List.cons.inj (List.cons.inj hrest).2).2
          rw [htail, Prod.ext (String.toList_inj.mp hname) hvalue]

/-! ## Arguments that are left out -/

/-- The arguments of the calls that can have empty texts as arguments. -/
def argumentNames? : String → Option (List String)
  | "click" => some ["target", "selector"]
  | "fill" => some ["field", "value", "selector"]
  | _ => none

/-- All arguments of a call of a kind, from those that it shows. -/
def restore (kind : String) (arguments : Table Json) : Table Json :=
  match argumentNames? kind with
  | some names => names.map fun name => (name, (Table.get? arguments name).getD (.str ""))
  | none => arguments

/-- An action that is known from its call. -/
structure IsEvident (action : Action) : Prop where
  kind : action.kind.toList.all Char.isAlpha
  legible : ∀ argument ∈ action.payload, IsLegible argument
  restored : restore action.kind (shown action.payload) = action.payload

theorem isEvident_of_names {action : Action} {names : List String}
    (hnames : argumentNames? action.kind = some names) (hkeys : Table.keys action.payload = names)
    (hbasic : ∀ argument ∈ action.payload, argument.2.IsBasic) : IsEvident action := by
  have hknown : action.kind.toList.all Char.isAlpha ∧
      (names.all fun name => name.toList.all Char.isAlpha) = true ∧ names.Nodup := by
    unfold argumentNames? at hnames
    split at hnames
    · rename_i hkind
      rw [hkind, ← Option.some.inj hnames]
      decide
    · rename_i hkind
      rw [hkind, ← Option.some.inj hnames]
      decide
    · cases hnames
  obtain ⟨hkind, halpha, hnodup⟩ := hknown
  refine ⟨hkind, fun argument hmem => ⟨?_, hbasic argument hmem⟩, ?_⟩
  · exact List.all_eq_true.mp halpha _ (hkeys ▸ List.mem_map_of_mem hmem)
  · subst hkeys
    have hmap := Table.map_keys hnodup (.str "")
    rw [restore, hnames]
    conv => rhs; rw [← hmap]
    refine List.map_congr_left fun name hname => ?_
    have hget := Table.get?_filter_map (Table.keys action.payload)
      (fun key => (Table.get? action.payload key).getD (.str "")) (fun v => v.str? != some "") name
    rw [hmap] at hget
    rw [shown, hget]
    split
    · rfl
    · rename_i hdropped
      have hempty : (Table.get? action.payload name).getD (.str "") = .str "" := by
        simpa [hname, Json.str?_eq_some_iff] using hdropped
      rw [hempty, Option.getD_none]

theorem isEvident_of_filled {action : Action} (hkind : action.kind.toList.all Char.isAlpha)
    (hnames : argumentNames? action.kind = none)
    (h : ∀ argument ∈ action.payload, IsLegible argument ∧ argument.2 ≠ .str "") :
    IsEvident action := by
  refine ⟨hkind, fun argument hmem => (h argument hmem).1, ?_⟩
  rw [restore, hnames]
  refine List.filter_eq_self.mpr fun argument hmem => ?_
  simpa [Json.str?_eq_some_iff] using (h argument hmem).2

/-- A call shows one action only. -/
theorem IsEvident.callText_inj {a b : Action} {number : Int} {text : String} (ha : IsEvident a)
    (hb : IsEvident b) (h : callText number a.kind a.payload = .ok text)
    (h' : callText number b.kind b.payload = .ok text) : a.kind = b.kind ∧ a.payload = b.payload := by
  obtain ⟨-, hashort, hatext⟩ := callText_eq_ok_iff.mp h
  obtain ⟨-, hbshort, hbtext⟩ := callText_eq_ok_iff.mp h'
  have hchars : a.kind.toList ++ '(' :: argumentsText (shown a.payload) =
      b.kind.toList ++ '(' :: argumentsText (shown b.payload) := by
    have htexts := congrArg String.toList (hatext.trans hbtext.symm)
    simpa [String.toList_append, argumentsText] using htexts
  obtain ⟨hkind, harguments⟩ := Text.append_cons_inj (notMem_of_isAlpha ha.kind (by decide))
    (notMem_of_isAlpha hb.kind (by decide)) hchars
  have hlegible : ∀ {action : Action}, IsEvident action →
      (∀ argument ∈ shown action.payload, argument.2.isOverlong = false) →
      ∀ argument ∈ shown action.payload, IsLegible argument ∧ argument.2.isOverlong = false :=
    fun hevident hshort argument hmem =>
      ⟨hevident.legible argument (List.mem_of_mem_filter hmem), hshort argument hmem⟩
  have hshown := argumentsText_inj (hlegible ha hashort) (hlegible hb hbshort) harguments
  have hsame := String.toList_inj.mp hkind
  exact ⟨hsame, by rw [← ha.restored, ← hb.restored, hshown, hsame]⟩

/-- No line ends in a call. -/
theorem IsEvident.le_of_mem_callText {action : Action} {number : Int} {text : String}
    (ha : IsEvident action) (h : callText number action.kind action.payload = .ok text) {c : Char}
    (hmem : c ∈ text.toList) : ' ' ≤ c := by
  have hplain : ∀ {s : String}, s.toList.all (' ' ≤ ·) = true → c ∈ s.toList → ' ' ≤ c :=
    fun hs hc => of_decide_eq_true (List.all_eq_true.mp hs c hc)
  have hname : ∀ {cs : List Char}, cs.all Char.isAlpha → c ∈ cs → ' ' ≤ c := by
    intro cs halpha hc
    rcases Bool.or_eq_true_iff.mp (List.all_eq_true.mp halpha c hc) with hupper | hlower
    · have hlow : 'A' ≤ c := (of_decide_eq_true hupper).1
      exact Char.le_trans (by decide) hlow
    · have hlow : 'a' ≤ c := of_decide_eq_true (Bool.and_eq_true_iff.mp hlower).1
      exact Char.le_trans (by decide) hlow
  have hargument : ∀ argument ∈ action.payload, c ∈ (argumentText argument).toList → ' ' ≤ c := by
    intro argument hargument hc
    obtain ⟨halpha, hbasic⟩ := ha.legible argument hargument
    simp only [argumentText, String.toList_append, List.mem_append, Json.compact,
      String.toList_ofList] at hc
    rcases hc with (hc | hc) | hc
    · exact hname halpha hc
    · exact hplain (by decide) hc
    · exact hbasic.le_of_mem_line hc
  obtain ⟨-, -, rfl⟩ := callText_eq_ok_iff.mp h
  simp only [String.toList_append, List.mem_append] at hmem
  rcases hmem with ((((hnumber | hdot) | hkind) | hopen) | harguments) | hclose
  · exact Json.le_of_mem_toString hnumber
  · exact hplain (by decide) hdot
  · exact hname ha.kind hkind
  · exact hplain (by decide) hopen
  · by_cases hcomma : c ∈ ", ".toList
    · exact hplain (by decide) hcomma
    · obtain ⟨text, htext, hc⟩ := (Text.mem_join_iff hcomma).mp harguments
      obtain ⟨argument, hshown, rfl⟩ := List.mem_map.mp htext
      exact hargument argument (List.mem_of_mem_filter hshown) hc
  · exact hplain (by decide) hclose

/-! ## Actions of accepted steps -/

theorem basic_orEmpty {v : Json} (h : v.isSet → v.IsBasic) : (orEmpty v).IsBasic := by
  unfold orEmpty
  split
  · rename_i htruthy
    refine h ?_
    cases v with
    | null => cases htruthy
    | _ => rfl
  · exact .str ""

end Action

namespace Step

theorem isAlpha_of_mem_fields {s : Step} {field : String × Json} (h : field ∈ s.fields) :
    field.1.toList.all Char.isAlpha := by
  have hnames : (s.fields.all fun field => field.1.toList.all Char.isAlpha) = true := by
    cases s <;> simp only [fields, List.all_cons, List.all_nil] <;> decide
  exact List.all_eq_true.mp hnames field h

/-- What is set in a step that was read is a text with something in it, or a whole number. -/
theorem Reads.filled {raw : Json} {s : Step} (h : Reads raw s) {key : String} {v : Json}
    (hfield : (key, v) ∈ s.fields) (hset : v.isSet) : v.IsBasic ∧ v ≠ .str "" := by
  have hmem : (key, v) ∈ s.members := List.mem_cons_of_mem _ (List.mem_filter.mpr ⟨hfield, hset⟩)
  rcases h.admits_of_mem hmem with ⟨-, rfl⟩ | ⟨kind, -, hadmits, hsettled⟩
  · refine ⟨.str _, fun hempty => ?_⟩
    have htag := s.tag_mem_tags
    rw [Json.str.inj hempty] at htag
    revert htag
    decide
  · cases kind with
    | text =>
        obtain ⟨t, rfl, ht⟩ := hadmits
        exact ⟨.str t, by simpa using ht⟩
    | url =>
        obtain ⟨t, rfl, ht, -⟩ := hadmits
        exact ⟨.str t, by simpa using ht⟩
    | whole most =>
        obtain ⟨n, hn, -⟩ := hadmits
        obtain rfl := hsettled.symm.trans hn
        exact ⟨.int n, by simp⟩

theorem Reads.isSet_of_required {raw : Json} {s : Step} (h : Reads raw s) {key : String} {v : Json}
    (hv : (key, v) ∈ s.fields) (hrequired : key ∈ (shape s.tag).required) : v.isSet := by
  obtain ⟨ms, hms, hc, -⟩ := h.toJson
  obtain rfl : s.members = ms := Json.obj.inj hms
  obtain ⟨w, hw⟩ := hc.complete key hrequired
  have hmem := Table.mem_of_get? hw
  have hfound := Table.get?_of_mem s.nodup_keys_entries (s.members_sublist_entries.subset hmem)
  have hsame := Table.get?_of_mem s.nodup_keys_entries (List.mem_cons_of_mem _ hv)
  obtain rfl : w = v := Option.some.inj (hfound.symm.trans hsame)
  rcases List.mem_cons.mp hmem with htag | hkept
  · rw [(Prod.mk.inj htag).2]
    rfl
  · exact (List.mem_filter.mp hkept).2

theorem Reads.legible_setArguments {raw : Json} {s : Step} (h : Reads raw s) :
    ∀ argument ∈ Action.setArguments s.fields,
      Action.IsLegible argument ∧ argument.2 ≠ .str "" := by
  rintro ⟨key, v⟩ hmem
  obtain ⟨hfield, hset⟩ := List.mem_filter.mp hmem
  obtain ⟨hbasic, hfilled⟩ := h.filled hfield hset
  exact ⟨⟨isAlpha_of_mem_fields hfield, hbasic⟩, hfilled⟩

/-- Every action of a step that was read is known from its call. -/
theorem Reads.isEvident {raw : Json} {s : Step} (h : Reads raw s) {actions : List Action}
    (hactions : Action.ofStep s = .ok actions) {action : Action} (hmem : action ∈ actions) :
    action.IsEvident := by
  have halpha : ∀ name ∈ ["goto", "expect", "waitFor", "extractTextList", "url", "selector",
      "limit", "outputKey", "timeoutMs"], name.toList.all Char.isAlpha = true :=
    List.all_eq_true.mp (by decide)
  have hbasic : ∀ key v, (key, v) ∈ s.fields → v.isSet → v.IsBasic :=
    fun key v hv hset => (h.filled hv hset).1
  have hrequired : ∀ key v, (key, v) ∈ s.fields → key ∈ (shape s.tag).required →
      v.IsBasic ∧ v ≠ .str "" := fun key v hv hkey => h.filled hv (h.isSet_of_required hv hkey)
  have hstripped : ∀ {v t : Json}, Action.stripped v = .ok t → t.IsBasic := by
    intro v t ht
    unfold Action.stripped at ht
    split at ht
    · exact Except.ok.inj ht ▸ .str _
    · cases ht
  cases s with
  | goto url =>
      obtain rfl := Except.ok.inj hactions
      obtain rfl := List.mem_singleton.mp hmem
      obtain ⟨hurl, hfilled⟩ := hrequired "url" url (by simp [fields]) (by simp [shape, tag])
      exact Action.isEvident_of_filled (halpha _ (by simp)) rfl
        (List.forall_mem_singleton.mpr ⟨⟨halpha _ (by simp), hurl⟩, hfilled⟩)
  | click target selector =>
      have hselector := Action.basic_orEmpty (hbasic "selector" selector (by simp [fields]))
      simp only [Action.ofStep] at hactions
      split at hactions
      · cases hactions
      · rename_i t ht
        obtain rfl := Except.ok.inj hactions
        obtain rfl := List.mem_singleton.mp hmem
        refine Action.isEvident_of_names rfl rfl ?_
        simp only [List.forall_mem_cons]
        exact ⟨hstripped ht, hselector, List.forall_mem_nil _⟩
  | fill field value selector =>
      have hvalue := (hrequired "value" value (by simp [fields]) (by simp [shape, tag])).1
      have hselector := Action.basic_orEmpty (hbasic "selector" selector (by simp [fields]))
      simp only [Action.ofStep] at hactions
      split at hactions
      · cases hactions
      · rename_i t ht
        obtain rfl := Except.ok.inj hactions
        obtain rfl := List.mem_singleton.mp hmem
        refine Action.isEvident_of_names rfl rfl ?_
        simp only [List.forall_mem_cons]
        exact ⟨hstripped ht, hvalue, hselector, List.forall_mem_nil _⟩
  | login username password =>
      have husername := (hrequired "username" username (by simp [fields]) (by simp [shape, tag])).1
      have hpassword := (hrequired "password" password (by simp [fields]) (by simp [shape, tag])).1
      obtain rfl := Except.ok.inj hactions
      simp only [Action.login, List.mem_cons, List.not_mem_nil, or_false] at hmem
      rcases hmem with rfl | rfl | rfl | rfl
      · refine Action.isEvident_of_names rfl rfl ?_
        simp only [List.forall_mem_cons]
        exact ⟨.str _, husername, .str _, List.forall_mem_nil _⟩
      · refine Action.isEvident_of_names rfl rfl ?_
        simp only [List.forall_mem_cons]
        exact ⟨.str _, hpassword, .str _, List.forall_mem_nil _⟩
      · refine Action.isEvident_of_names rfl rfl ?_
        simp only [List.forall_mem_cons]
        exact ⟨.str _, .str _, List.forall_mem_nil _⟩
      · exact Action.isEvident_of_filled (halpha _ (by simp)) rfl
          (List.forall_mem_singleton.mpr ⟨⟨halpha _ (by simp), .int _⟩, by simp⟩)
  | extractTextList selector outputKey limit =>
      obtain ⟨hselector, hselected⟩ :=
        hrequired "selector" selector (by simp [fields]) (by simp [shape, tag])
      obtain ⟨houtput, hnamed⟩ :=
        hrequired "outputKey" outputKey (by simp [fields]) (by simp [shape, tag])
      have hlimit : (if limit.isSet then limit else .int Action.defaultLimit).IsBasic ∧
          (if limit.isSet then limit else .int Action.defaultLimit) ≠ .str "" := by
        split
        · rename_i hset
          exact h.filled (show ("limit", limit) ∈ _ by simp [fields]) hset
        · exact ⟨.int _, by simp⟩
      obtain rfl := Except.ok.inj hactions
      obtain rfl := List.mem_singleton.mp hmem
      refine Action.isEvident_of_filled (halpha _ (by simp)) rfl ?_
      simp only [List.forall_mem_cons]
      exact ⟨⟨⟨halpha _ (by simp), hselector⟩, hselected⟩,
        ⟨⟨halpha _ (by simp), hlimit.1⟩, hlimit.2⟩,
        ⟨⟨halpha _ (by simp), houtput⟩, hnamed⟩, List.forall_mem_nil _⟩
  | expect | waitFor =>
      obtain rfl := Except.ok.inj hactions
      obtain rfl := List.mem_singleton.mp hmem
      exact Action.isEvident_of_filled (halpha _ (by simp)) rfl h.legible_setArguments

end Step

/-! ## Lines of accepted plans -/

namespace Plan

/-- A compiled step has the kind and the arguments of another, at the same place. -/
structure Matches (a b : Primitive) : Prop where
  index : a.index = b.index
  kind : a.kind = b.kind
  payload : a.payload = b.payload

theorem Accepted.isEvident {p : Plan} (hp : p.Accepted) {primitives : List Primitive}
    (h : p.compile = .ok primitives) {primitive : Primitive} (hmem : primitive ∈ primitives) :
    primitive.IsEvident := by
  obtain ⟨step, hstep, actions, hactions, haction⟩ := exists_of_mem_compile h hmem
  exact (hp.reads step hstep).isEvident hactions haction

theorem lines_eq_ok_iff {p : Plan} {lines : List String} :
    p.lines = .ok lines ↔ ∃ primitives, p.compile = .ok primitives ∧
      List.Forall₂ (fun primitive line => primitive.line = .ok line) primitives lines := by
  unfold Plan.lines
  cases p.compile with
  | error failure => simp
  | ok primitives => simp [mapM_eq_ok_iff]

/-- No line of an accepted plan has a control character in it. -/
theorem Accepted.le_of_mem_lines {p : Plan} (hp : p.Accepted) {lines : List String}
    (h : p.lines = .ok lines) {line : String} (hline : line ∈ lines) {c : Char}
    (hc : c ∈ line.toList) : ' ' ≤ c := by
  obtain ⟨primitives, hcompile, hshown⟩ := lines_eq_ok_iff.mp h
  obtain ⟨primitive, hmem, hcall⟩ := exists_of_mem_right hshown hline
  exact (hp.isEvident hcompile hmem).le_of_mem_callText hcall hc

theorem Accepted.notMem_lines {p : Plan} (hp : p.Accepted) {lines : List String}
    (h : p.lines = .ok lines) {line : String} (hline : line ∈ lines) :
    '\n' ∉ line.toList ∧ '\r' ∉ line.toList :=
  ⟨fun hc => absurd (hp.le_of_mem_lines h hline hc) (by decide),
    fun hc => absurd (hp.le_of_mem_lines h hline hc) (by decide)⟩

/-- A compiled step that is shown: its number and the numbers among its arguments are not too long. -/
def IsShort (primitive : Primitive) : Prop :=
  (Json.int (primitive.index + 1)).isOverlong = false ∧
    ∀ argument ∈ Action.shown primitive.payload, argument.2.isOverlong = false

theorem exists_line_iff {primitive : Primitive} :
    (∃ line, primitive.line = .ok line) ↔ IsShort primitive := by
  simp only [Primitive.line, Action.callText_eq_ok_iff, exists_and_left, exists_eq', and_true, IsShort]

/-- A compiled plan has lines exactly if all its steps are shown. -/
theorem exists_lines_iff {p : Plan} {primitives : List Primitive} (h : p.compile = .ok primitives) :
    (∃ lines, p.lines = .ok lines) ↔ ∀ primitive ∈ primitives, IsShort primitive := by
  simp only [lines_eq_ok_iff, h, Except.ok.injEq, exists_eq_left', ← exists_line_iff]
  constructor
  · rintro ⟨lines, hlines⟩ primitive hmem
    obtain ⟨line, -, hline⟩ := exists_of_mem_left hlines hmem
    exact ⟨line, hline⟩
  · exact exists_forall₂

/-- A compiled plan has lines unless a number is too long. -/
theorem failsOnly_lines {p : Plan} {primitives : List Primitive} (h : p.compile = .ok primitives) :
    Effect.FailsOnly (fun failure => failure = .value .overlongInteger) p.lines := by
  rw [Plan.lines, h]
  refine Effect.FailsOnly.mapM (fun primitive => ?_) primitives
  unfold Primitive.line Action.callText
  refine Effect.FailsOnly.bind (.mapM (fun argument => ?_) _) fun _ => ?_
  · exact (Json.failsOnly_oneLine argument.2).map _
  · exact (Json.failsOnly_oneLine _).bind fun _ => Effect.failsOnly_ok _ _

/-- Compiled steps with the same lines at the same places match. -/
theorem forall₂_matches {lines : List String} {as bs : List Primitive}
    (ha : ∀ a ∈ as, a.IsEvident) (hb : ∀ b ∈ bs, b.IsEvident)
    (hindex : as.map Primitive.index = bs.map Primitive.index)
    (hlines : List.Forall₂ (fun a line => a.line = .ok line) as lines)
    (hlines' : List.Forall₂ (fun b line => b.line = .ok line) bs lines) :
    List.Forall₂ Matches as bs := by
  induction hlines generalizing bs with
  | nil =>
      cases hlines'
      exact .nil
  | @cons a line as lines hline hrest ih =>
      cases hlines' with
      | @cons b _ bs _ hline' hrest' =>
          obtain ⟨hsame, hmore⟩ := List.cons.inj hindex
          have hcall : Action.callText (a.index + 1) b.kind b.payload = .ok line := hsame ▸ hline'
          obtain ⟨hkind, hpayload⟩ := (ha a (by simp)).callText_inj (hb b (by simp)) hline hcall
          exact .cons ⟨hsame, hkind, hpayload⟩ (ih (fun x hx => ha x (by simp [hx]))
            (fun x hx => hb x (by simp [hx])) hmore hrest')

/-- The lines of an accepted plan show what it does: another plan with the same lines is compiled to steps
of the same kinds with the same arguments in the same places, and so carries out the same actions. Each line
is one line. -/
theorem lines_are_unambiguous {v : Json} {p : Plan} {lines : List String} (hp : validate v = .ok p)
    (hlines : p.lines = .ok lines) :
    (∀ line ∈ lines, '\n' ∉ line.toList ∧ '\r' ∉ line.toList) ∧
      ∀ {w : Json} {q : Plan}, validate w = .ok q → q.lines = .ok lines →
        ∃ ps qs, p.compile = .ok ps ∧ q.compile = .ok qs ∧ List.Forall₂ Matches ps qs ∧
          ∀ {σ : Type} (stage : Stage σ), ps.map (fun a => stage.act a.toAction) =
            qs.map fun b => stage.act b.toAction := by
  have haccepted := accepted_of_validate hp
  obtain ⟨ps, hcompile, hshown⟩ := lines_eq_ok_iff.mp hlines
  refine ⟨fun line => haccepted.notMem_lines hlines, fun {w q} hq hlines' => ?_⟩
  obtain ⟨qs, hcompile', hshown'⟩ := lines_eq_ok_iff.mp hlines'
  have hindex : ps.map Primitive.index = qs.map Primitive.index := by
    rw [map_index_compile hcompile, map_index_compile hcompile', hshown.length_eq,
      hshown'.length_eq]
  have hmatches := forall₂_matches (fun a ha => haccepted.isEvident hcompile ha)
    (fun b hb => (accepted_of_validate hq).isEvident hcompile' hb) hindex hshown hshown'
  refine ⟨ps, qs, hcompile, hcompile', hmatches, fun stage => ?_⟩
  clear hshown hshown' hindex hcompile hcompile'
  induction hmatches with
  | nil => rfl
  | cons hmatch _ ih =>
      rw [List.map_cons, List.map_cons, ih, stage.act_eq, stage.act_eq, hmatch.kind, hmatch.payload]

/-- A login is shown as the four steps that it comes to. -/
theorem lines_are_unambiguous_login :
    let p : Plan := ⟨.str "1", .null, .null, [.login (.str "ada") (.str "p, \"w")]⟩
    let q : Plan := ⟨.str "1", .null, .null, [.fill (.str "username ") (.str "ada") .null,
      .fill (.str "password") (.str "p, \"w") .null, .click (.str " Sign in") .null,
      .waitFor .null .null (.int 2000)]⟩
    let lines := ["1. fill(field=\"username\", value=\"ada\")",
      "2. fill(field=\"password\", value=\"p, \\\"w\")", "3. click(target=\"Sign in\")",
      "4. waitFor(timeoutMs=2000)"]
    validate p.toJson = .ok p ∧ p.lines = .ok lines ∧ validate q.toJson = .ok q ∧
      q.lines = .ok lines ∧ (∀ line ∈ lines, '\n' ∉ line.toList ∧ '\r' ∉ line.toList) ∧
      ∃ ps qs, p.compile = .ok ps ∧ q.compile = .ok qs ∧ List.Forall₂ Matches ps qs := by
  intro p q lines
  have hp : validate p.toJson = .ok p := by rfl
  have hq : validate q.toJson = .ok q := by rfl
  have hlines : p.lines = .ok lines := by rfl
  have hlines' : q.lines = .ok lines := by rfl
  obtain ⟨hends, hsame⟩ := lines_are_unambiguous hp hlines
  obtain ⟨ps, qs, hps, hqs, hmatches, -⟩ := hsame hq hlines'
  exact ⟨hp, hlines, hq, hlines', hends, ps, qs, hps, hqs, hmatches⟩

end Plan
end Walkthrough
