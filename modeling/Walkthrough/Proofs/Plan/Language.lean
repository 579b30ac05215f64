import Walkthrough.Proofs.Json.Normal
import Walkthrough.Proofs.Plan

/-! # The language of plans

The values that the grammar accepts, written out kind by kind. An accepted value is read as a plan
whose JSON object is the normal form of the value, without the members that plans do not have. -/

namespace Walkthrough

/-! ## Values -/

namespace Json

/-- A text that is not empty. -/
def IsText (v : Json) : Prop :=
  ∃ s, v = .str s ∧ s ≠ ""

/-- A text that is not empty and that splits as a URL with a scheme and an authority. -/
def IsUrl (v : Json) : Prop :=
  ∃ s, v = .str s ∧ s ≠ "" ∧
    ∃ url, Url.split s = .ok url ∧ url.scheme ≠ [] ∧ url.authority ≠ []

/-- A whole number, or a float of the same value. -/
def IsWhole (v : Json) (n : Int) : Prop :=
  v = .int n ∨ ∃ x : Binary64, v = .float x ∧ x.Equals n

/-- A whole number that is at least one and not above a bound, if there is a bound. -/
def IsCount (bound : Option Int) (v : Json) : Prop :=
  ∃ n, v.IsWhole n ∧ 1 ≤ n ∧ ∀ most ∈ bound, n ≤ most

theorem settle_eq_int_iff_isWhole {v : Json} {n : Int} : v.settle = .int n ↔ v.IsWhole n := by
  simp only [settle_eq_int_iff, IsWhole, Binary64.toInt?_eq_some_iff]

end Json

theorem Url.isAbsolute_eq_true_iff {s : String} :
    Url.isAbsolute s = .ok true ↔
      ∃ url, Url.split s = .ok url ∧ url.scheme ≠ [] ∧ url.authority ≠ [] := by
  cases h : Url.split s with
  | error fault => simp [Url.isAbsolute, h, bind, Except.bind]
  | ok url => simp [Url.isAbsolute, h, bind, Except.bind, pure, Except.pure]

namespace FieldKind

/-- The values of a kind of fields, written out. -/
def Holds : FieldKind → Json → Prop
  | .text => Json.IsText
  | .url => Json.IsUrl
  | .whole most => Json.IsCount most

theorem admits_iff_holds {kind : FieldKind} {v : Json} : kind.Admits v ↔ kind.Holds v := by
  cases kind with
  | text => rfl
  | url => simp only [Admits, Holds, Json.IsUrl, Url.isAbsolute_eq_true_iff]
  | whole most => simp only [Admits, Holds, Json.IsCount, Json.settle_eq_int_iff_isWhole]

/-- A field holds no list and no object. -/
theorem Admits.settleAll {kind : FieldKind} {v : Json} (h : kind.Admits v) :
    v.settleAll = v.settle := by
  cases v with
  | arr items => cases kind <;> simp [Admits, Json.settle] at h
  | obj members => cases kind <;> simp [Admits, Json.settle] at h
  | _ => rfl

end FieldKind

/-! ## Steps -/

namespace Step

/-- The members of a step of a kind: its tag, the fields that have to be there, those that may be
there, and no others. -/
structure HasMembers (tag : String) (required optional : List (String × (Json → Prop)))
    (members : Table Json) : Prop where
  tagged : Table.get? members "type" = some (.str tag)
  complete : ∀ field ∈ required, ∃ v, Table.get? members field.1 = some v ∧ field.2 v
  allowed : ∀ field ∈ optional, ∀ v, Table.get? members field.1 = some v → field.2 v
  closed : ∀ key v, Table.get? members key = some v →
    key = "type" ∨ key ∈ (required ++ optional).map Prod.fst

/-- Exactly one of the keys is there. -/
def ExactlyOne (keys : List String) (members : Table Json) : Prop :=
  ∃! key, key ∈ keys ∧ ∃ v, Table.get? members key = some v

open Json in
/-- The members of the steps of each kind. -/
def Form : String → Table Json → Prop
  | "goto", ms => HasMembers "goto" [("url", IsUrl)] [] ms
  | "click", ms => HasMembers "click" [("target", IsText)] [("selector", IsText)] ms
  | "fill", ms =>
    HasMembers "fill" [("field", IsText), ("value", IsText)] [("selector", IsText)] ms
  | "expect", ms =>
    HasMembers "expect" [] [("textVisible", IsText), ("urlIncludes", IsText),
      ("elementVisible", IsText), ("timeoutMs", IsCount (some 60000))] ms ∧
    ExactlyOne ["textVisible", "urlIncludes", "elementVisible"] ms
  | "login", ms => HasMembers "login" [("username", IsText), ("password", IsText)] [] ms
  | "waitFor", ms =>
    HasMembers "waitFor" [] [("textVisible", IsText), ("selector", IsText),
      ("timeoutMs", IsCount (some 120000))] ms ∧
    ExactlyOne ["textVisible", "selector", "timeoutMs"] ms
  | "extractTextList", ms =>
    HasMembers "extractTextList" [("selector", IsText), ("outputKey", IsText)]
      [("limit", IsCount none)] ms
  | _, _ => False

/-- The values that are steps: the objects of one of the seven kinds. -/
def InLanguage (v : Json) : Prop :=
  ∃ tag ms, v = .obj ms ∧ Form tag ms

/-- Fields with the values that their kinds hold. -/
def holding (fields : List (String × FieldKind)) : List (String × (Json → Prop)) :=
  fields.map fun field => (field.1, field.2.Holds)

theorem exactlyOne_iff {keys : List String} (hkeys : keys.Nodup) {members : Table Json} :
    (∃ key, keys.filter (Table.has members) = [key]) ↔ ExactlyOne keys members := by
  have hmem : ∀ key, key ∈ keys.filter (Table.has members) ↔
      key ∈ keys ∧ ∃ v, Table.get? members key = some v := by
    intro key
    rw [List.mem_filter, Table.has_eq_isSome, Option.isSome_iff_exists]
  constructor
  · rintro ⟨key, hkey⟩
    refine ⟨key, (hmem key).mp (by simp [hkey]), fun other hother => ?_⟩
    simpa [hkey] using (hmem other).mpr hother
  · rintro ⟨key, hkey, honly⟩
    refine ⟨key, List.perm_singleton.mp ?_⟩
    rw [List.perm_ext_iff_of_nodup (hkeys.filter _) (by simp)]
    intro other
    rw [hmem, List.mem_singleton]
    exact ⟨honly other, fun h => h ▸ hkey⟩

/-- A step conforms to the shape of its tag when it has the members that the shape lists. -/
theorem conforms_iff_hasMembers {tag : String} {required optional : List (String × FieldKind)}
    (hknown : tag ∈ tags) (hfields : (shape tag).fields = required ++ optional)
    (hrequired : (shape tag).required = required.map Prod.fst) {members : Table Json} :
    Conforms tag members ↔ HasMembers tag (holding required) (holding optional) members ∧
      (Plan.conditionKeys tag = [] ∨
        ∃ key, (Plan.conditionKeys tag).filter (Table.has members) = [key]) := by
  have hnames : (holding required ++ holding optional).map Prod.fst = fieldNames tag := by
    simp [holding, fieldNames, hfields, Function.comp_def]
  constructor
  · intro h
    refine ⟨⟨h.tagged, ?_, ?_, ?_⟩, h.condition⟩
    · intro field hfield
      obtain ⟨⟨key, kind⟩, hmem, rfl⟩ := List.mem_map.mp hfield
      obtain ⟨v, hv⟩ := h.complete key (hrequired ▸ List.mem_map_of_mem hmem)
      exact ⟨v, hv, FieldKind.admits_iff_holds.mp
        (h.admitted (key, kind) (hfields ▸ List.mem_append_left _ hmem) v hv)⟩
    · intro field hfield v hv
      obtain ⟨⟨key, kind⟩, hmem, rfl⟩ := List.mem_map.mp hfield
      exact FieldKind.admits_iff_holds.mp
        (h.admitted (key, kind) (hfields ▸ List.mem_append_right _ hmem) v hv)
    · intro key v hv
      rw [hnames]
      exact List.mem_cons.mp (h.exclusive key v hv)
  · rintro ⟨h, hcondition⟩
    refine ⟨hknown, h.tagged, ?_, ?_, ?_, hcondition⟩
    · intro field hfield v hv
      rw [hfields, List.mem_append] at hfield
      rw [FieldKind.admits_iff_holds]
      rcases hfield with hmem | hmem
      · obtain ⟨w, hw, hholds⟩ := h.complete _ (List.mem_map_of_mem hmem)
        obtain rfl : w = v := Option.some.inj (hw.symm.trans hv)
        exact hholds
      · exact h.allowed _ (List.mem_map_of_mem hmem) v hv
    · intro key hkey
      rw [hrequired] at hkey
      obtain ⟨field, hmem, rfl⟩ := List.mem_map.mp hkey
      obtain ⟨v, hv, -⟩ := h.complete _ (List.mem_map_of_mem hmem)
      exact ⟨v, hv⟩
    · intro key v hv
      rw [← hnames]
      exact List.mem_cons.mpr (h.closed key v hv)

theorem conforms_iff_of_plain {tag : String} (required optional : List (String × FieldKind))
    (hknown : tag ∈ tags) (hfields : (shape tag).fields = required ++ optional)
    (hrequired : (shape tag).required = required.map Prod.fst)
    (hnone : Plan.conditionKeys tag = []) {members : Table Json} :
    Conforms tag members ↔ HasMembers tag (holding required) (holding optional) members := by
  rw [conforms_iff_hasMembers hknown hfields hrequired]
  exact and_iff_left (.inl hnone)

theorem conforms_iff_of_conditions {tag : String} (required optional : List (String × FieldKind))
    (hknown : tag ∈ tags) (hfields : (shape tag).fields = required ++ optional)
    (hrequired : (shape tag).required = required.map Prod.fst)
    (hsome : Plan.conditionKeys tag ≠ []) (hnodup : (Plan.conditionKeys tag).Nodup)
    {members : Table Json} :
    Conforms tag members ↔ HasMembers tag (holding required) (holding optional) members ∧
      ExactlyOne (Plan.conditionKeys tag) members := by
  rw [conforms_iff_hasMembers hknown hfields hrequired, exactlyOne_iff hnodup]
  exact and_congr_right fun _ => or_iff_right hsome

/-- A step of a known kind conforms to the grammar when it has the form of its kind. -/
theorem conforms_iff_form {tag : String} (hknown : tag ∈ tags) {ms : Table Json} :
    Conforms tag ms ↔ Form tag ms := by
  simp only [tags, List.mem_cons, List.not_mem_nil, or_false] at hknown
  rcases hknown with rfl | rfl | rfl | rfl | rfl | rfl | rfl
  · exact conforms_iff_of_plain [("target", .text)] [("selector", .text)] (by decide) rfl rfl rfl
  · exact conforms_iff_of_conditions [] [("textVisible", .text), ("urlIncludes", .text),
      ("elementVisible", .text), ("timeoutMs", .whole (some 60000))] (by decide) rfl rfl
      (by decide) (by decide)
  · exact conforms_iff_of_plain [("selector", .text), ("outputKey", .text)]
      [("limit", .whole none)] (by decide) rfl rfl rfl
  · exact conforms_iff_of_plain [("field", .text), ("value", .text)] [("selector", .text)]
      (by decide) rfl rfl rfl
  · exact conforms_iff_of_plain [("url", .url)] [] (by decide) rfl rfl rfl
  · exact conforms_iff_of_plain [("username", .text), ("password", .text)] [] (by decide) rfl rfl
      rfl
  · exact conforms_iff_of_conditions [] [("textVisible", .text), ("selector", .text),
      ("timeoutMs", .whole (some 120000))] (by decide) rfl rfl (by decide) (by decide)

theorem Form.known {tag : String} {ms : Table Json} (h : Form tag ms) : tag ∈ tags := by
  unfold Form at h
  split at h
  case h_8 => exact h.elim
  all_goals decide

theorem inLanguage_iff_exists_reads {v : Json} : InLanguage v ↔ ∃ s, Reads v s := by
  rw [exists_reads_iff]
  refine exists_congr fun tag => exists_congr fun ms => and_congr_right fun _ => ?_
  exact ⟨fun h => (conforms_iff_form h.known).mpr h, fun h => (conforms_iff_form h.known).mp h⟩

/-- The normal form of a value that is read as a step is the object of the step. -/
theorem Reads.same {v : Json} {s : Step} (h : Reads v s) : Json.Same s.toJson v.settleAll := by
  obtain ⟨ms, rfl, hc, hs⟩ := h
  rw [toJson_eq]
  refine .obj fun key => ?_
  rw [Step.get?_members hc hs, Json.get?_settleMembers]
  cases hv : Table.get? ms key with
  | none => exact .none
  | some v =>
      have hplain : v.settleAll = v.settle := by
        rcases List.mem_cons.mp (hc.exclusive key v hv) with rfl | hkey
        · obtain rfl := Option.some.inj (hv.symm.trans hc.tagged)
          rfl
        · obtain ⟨field, hfield, rfl⟩ := List.mem_map.mp hkey
          exact (hc.admitted field hfield v hv).settleAll
      exact .some (hplain ▸ .refl _)

end Step

/-! ## Plans -/

namespace Plan

/-- The members that plans have. -/
def known : List String :=
  ["version", "name", "baseUrl", "steps"]

/-- The values that are plans: objects with the version, maybe a name and a base URL, and at least
one step. -/
def InLanguage (v : Json) : Prop :=
  ∃ ms steps, v = .obj ms ∧
    Table.get? ms "version" = some (.str "1") ∧
    (∀ name, Table.get? ms "name" = some name → name.IsText) ∧
    (∀ url, Table.get? ms "baseUrl" = some url → url.IsUrl) ∧
    Table.get? ms "steps" = some (.arr steps) ∧ steps ≠ [] ∧
    ∀ step ∈ steps, Step.InLanguage step

/-- The normal form of a value, without the members that plans do not have. -/
def normalForm : Json → Json
  | .obj ms => Json.settleAll (.obj (ms.filter fun member => known.contains member.1))
  | v => v.settleAll

theorem conforms_iff {ms : Table Json} {steps : List Json} :
    Conforms ms steps ↔ Table.get? ms "version" = some (.str "1") ∧
      (∀ name, Table.get? ms "name" = some name → name.IsText) ∧
      (∀ url, Table.get? ms "baseUrl" = some url → url.IsUrl) ∧
      Table.get? ms "steps" = some (.arr steps) ∧ steps ≠ [] := by
  constructor
  · intro h
    exact ⟨h.version, h.name, fun url hurl => FieldKind.admits_iff_holds.mp (h.baseUrl url hurl),
      h.listed, h.nonempty⟩
  · rintro ⟨hversion, hname, hbaseUrl, hlisted, hne⟩
    exact ⟨hversion, hname, fun url hurl => FieldKind.admits_iff_holds.mpr (hbaseUrl url hurl),
      hlisted, hne⟩

theorem exists_validate_iff {v : Json} : (∃ p, validate v = .ok p) ↔ InLanguage v := by
  constructor
  · rintro ⟨p, h⟩
    obtain ⟨ms, steps, rfl, hc, hreads, -⟩ := validate_eq_ok_iff.mp h
    obtain ⟨hversion, hname, hbaseUrl, hlisted, hne⟩ := conforms_iff.mp hc
    refine ⟨ms, steps, rfl, hversion, hname, hbaseUrl, hlisted, hne, fun step hstep => ?_⟩
    obtain ⟨s, -, hs⟩ := exists_of_mem_left hreads hstep
    exact Step.inLanguage_iff_exists_reads.mpr ⟨s, hs⟩
  · rintro ⟨ms, steps, rfl, hversion, hname, hbaseUrl, hlisted, hne, hsteps⟩
    obtain ⟨read, hread⟩ := exists_forall₂ fun step hstep =>
      Step.inLanguage_iff_exists_reads.mp (hsteps step hstep)
    refine ⟨⟨.str "1", (Table.get? ms "name").getD .null, (Table.get? ms "baseUrl").getD .null, read⟩,
      validate_eq_ok_iff.mpr ⟨ms, steps, rfl, ?_, hread, rfl, rfl, rfl⟩⟩
    exact conforms_iff.mpr ⟨hversion, hname, hbaseUrl, hlisted, hne⟩

theorem get?_members_of_notMem (p : Plan) {key : String} (hkey : key ∉ known) :
    Table.get? p.members key = none := by
  simp only [known, List.mem_cons, List.not_mem_nil, or_false, not_or] at hkey
  obtain ⟨hversion, hname, hbaseUrl, hsteps⟩ := hkey
  by_cases hn : p.name.isSet <;> by_cases hb : p.baseUrl.isSet <;>
    simp [members, hn, hb, Table.get?_cons, Ne.symm hversion, Ne.symm hname, Ne.symm hbaseUrl,
      Ne.symm hsteps]

/-- An optional text that was read into a plan stands in the plan's object as it was. -/
theorem rel_of_text {ms : Table Json} {key : String}
    (htext : ∀ v, Table.get? ms key = some v → ∃ s, v = .str s) {v : Json}
    (hv : v = (Table.get? ms key).getD .null) :
    Option.Rel Json.Same (if v.isSet then some v else none)
      ((Table.get? ms key).map Json.settleAll) := by
  subst hv
  cases hmember : Table.get? ms key with
  | none => exact .none
  | some v =>
      obtain ⟨s, rfl⟩ := htext v hmember
      exact .some (.refl _)

/-- The object of a plan is the normal form of the value that the plan was read from. -/
theorem same_of_validate {v : Json} {p : Plan} (h : validate v = .ok p) :
    Json.Same p.toJson (normalForm v) := by
  obtain ⟨ms, steps, rfl, hc, hreads, hversion, hname, hbaseUrl⟩ := validate_eq_ok_iff.mp h
  rw [toJson_eq]
  refine .obj fun key => ?_
  rw [Json.get?_settleMembers, Table.get?_filter_keys]
  by_cases hkey : key ∈ known
  swap
  · rw [get?_members_of_notMem p hkey, if_neg (by simpa using hkey)]
    exact .none
  rw [if_pos (by simpa using hkey)]
  simp only [known, List.mem_cons, List.not_mem_nil, or_false] at hkey
  rcases hkey with rfl | rfl | rfl | rfl
  · rw [get?_members_version, hc.version, hversion]
    exact .some (.refl _)
  · rw [get?_members_name]
    refine rel_of_text (fun v hv => ?_) hname
    obtain ⟨s, hs, -⟩ := hc.name v hv
    exact ⟨s, hs⟩
  · rw [get?_members_baseUrl]
    refine rel_of_text (fun v hv => ?_) hbaseUrl
    obtain ⟨s, hs, -⟩ := hc.baseUrl v hv
    exact ⟨s, hs⟩
  · rw [get?_members_steps, hc.listed]
    refine .some (.arr ?_)
    rw [Json.settleItems_eq_map, List.forall₂_map_left_iff, List.forall₂_map_right_iff]
    exact hreads.flip.imp fun _ _ hs => Step.Reads.same hs

/-- The grammar accepts exactly the language of plans. The object of an accepted plan is the normal
form of the value that it was read from, and is accepted as the same plan. -/
theorem validate_accepts_language (v : Json) :
    ((∃ p, validate v = .ok p) ↔ InLanguage v) ∧
      ∀ p, validate v = .ok p →
        Json.Same p.toJson (normalForm v) ∧ validate p.toJson = .ok p :=
  ⟨exists_validate_iff, fun _ h => ⟨same_of_validate h, accepted_of_validate h⟩⟩

/-- A float limit and an unknown member are accepted, and are gone from the plan's object. -/
theorem validate_accepts_language_limit :
    let step (limit : Json) : Json := .obj [("type", .str "extractTextList"), ("limit", limit),
      ("selector", .str "li"), ("outputKey", .str "rows")]
    let v : Json := .obj [("version", .str "1"), ("note", .bool true),
      ("steps", .arr [step (.float (.ofInt 3))])]
    let p : Plan := ⟨.str "1", .null, .null, [.extractTextList (.str "li") (.str "rows") (.int 3)]⟩
    validate v = .ok p ∧ InLanguage v ∧
      Json.Same p.toJson (.obj [("version", .str "1"), ("steps", .arr [step (.int 3)])]) ∧
      validate p.toJson = .ok p := by
  intro step v p
  have hp : validate v = .ok p := by rfl
  obtain ⟨haccepts, hnormal⟩ := validate_accepts_language v
  obtain ⟨hsame, hagain⟩ := hnormal p hp
  exact ⟨hp, haccepts.mp ⟨p, hp⟩, hsame, hagain⟩

end Plan
end Walkthrough
