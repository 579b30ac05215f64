import Walkthrough.Proofs.Json.RoundTrip
import Walkthrough.Proofs.Plan

/-! # Plans as documents

The JSON object of an accepted plan holds texts and whole numbers, each under a key of its own, and the
plan is read back from it on trust. -/

namespace Walkthrough

namespace FieldKind

/-- A settled value of a field is a text or a whole number. -/
theorem Admits.plain {kind : FieldKind} {v : Json} (h : kind.Admits v) (hsettled : v.settle = v) :
    v.Plain := by
  cases kind with
  | text =>
      obtain ⟨s, rfl, -⟩ := h
      exact .str s
  | url =>
      obtain ⟨s, rfl, -⟩ := h
      exact .str s
  | whole most =>
      obtain ⟨n, hn, -⟩ := h
      rw [← hsettled, hn]
      exact .int n

/-- Of the settled values of fields only whole numbers without a bound of a few digits can have too many
digits. -/
theorem Admits.isOverlong {kind : FieldKind} {v : Json} (h : kind.Admits v) (hsettled : v.settle = v)
    (hlong : v.isOverlong) :
    ∃ most, kind = .whole most ∧ ¬ ∃ bound < 1000000, most = some bound := by
  cases kind with
  | text =>
      obtain ⟨s, rfl, -⟩ := h
      cases hlong
  | url =>
      obtain ⟨s, rfl, -⟩ := h
      cases hlong
  | whole most =>
      refine ⟨most, rfl, ?_⟩
      rintro ⟨bound, hbound, rfl⟩
      obtain ⟨n, hn, hone, hmost⟩ := h
      have hle : n ≤ bound := hmost bound rfl
      have hsmall : n.natAbs < 10 ^ 6 := by omega
      have hshort : (Json.int n).isOverlong = false := Json.isOverlong_int_eq_false_iff.mpr
        (((Nat.length_toDigits_le_iff (by decide) (by decide)).mpr hsmall).trans (by decide))
      rw [← hsettled, hn, hshort] at hlong
      cases hlong

end FieldKind

namespace Step

/-- The tag and the fields of a step, set or not. -/
def entries (s : Step) : Table Json :=
  ("type", .str s.tag) :: s.fields

theorem nodup_keys_entries (s : Step) : (Table.keys s.entries).Nodup := by
  cases s <;> simp [entries, fields, Table.keys]

theorem members_sublist_entries (s : Step) : s.members.Sublist s.entries :=
  List.filter_sublist.cons_cons _

theorem nodup_keys_members (s : Step) : (Table.keys s.members).Nodup :=
  s.nodup_keys_entries.sublist (s.members_sublist_entries.map _)

/-- A member of a step that was read is its tag, or a settled value of the kind of a field. -/
theorem Reads.admits_of_mem {v : Json} {s : Step} (h : Reads v s) {key : String} {w : Json}
    (hmem : (key, w) ∈ s.members) :
    key = "type" ∧ w = .str s.tag ∨
      ∃ kind, (key, kind) ∈ (shape s.tag).fields ∧ kind.Admits w ∧ w.settle = w := by
  obtain ⟨ms, hms, hc, -⟩ := h.toJson
  obtain rfl : s.members = ms := Json.obj.inj hms
  have hget := Table.get?_of_mem s.nodup_keys_members hmem
  rcases List.mem_cons.mp (hc.exclusive key w hget) with rfl | hname
  · rw [hc.tagged] at hget
    exact .inl ⟨rfl, (Option.some.inj hget).symm⟩
  · obtain ⟨⟨_, kind⟩, hfield, rfl⟩ := List.mem_map.mp hname
    exact .inr ⟨kind, hfield, hc.admitted _ hfield w hget, h.get?_settled hget⟩

theorem Reads.plain {v : Json} {s : Step} (h : Reads v s) : s.toJson.Plain := by
  refine .obj s.nodup_keys_members fun entry hentry => ?_
  rcases h.admits_of_mem hentry with ⟨-, htag⟩ | ⟨kind, -, hadmits, hsettled⟩
  · exact htag ▸ .str s.tag
  · exact hadmits.plain hsettled

/-! ## Long numbers -/

/-- How many texts a step extracts at most; other steps set no limit. -/
def limit : Step → Json
  | .extractTextList _ _ limit => limit
  | _ => .null

theorem bounded_or_limit {tag : String} (hknown : tag ∈ tags) {key : String} {most : Option Int}
    (h : (key, .whole most) ∈ (shape tag).fields) :
    (∃ bound < 1000000, most = some bound) ∨ tag = "extractTextList" ∧ key = "limit" := by
  simp only [tags, List.mem_cons, List.not_mem_nil, or_false] at hknown
  rcases hknown with rfl | rfl | rfl | rfl | rfl | rfl | rfl <;> simp_all [shape]

/-- No number of a step has too many digits unless its limit has. -/
theorem Reads.isOverlong_eq {v : Json} {s : Step} (h : Reads v s) :
    s.toJson.isOverlong = s.limit.isOverlong := by
  rw [toJson_eq, Json.isOverlong_obj, Bool.eq_iff_iff, List.any_eq_true]
  constructor
  · rintro ⟨⟨key, w⟩, hmem, hlong⟩
    rcases h.admits_of_mem hmem with ⟨-, rfl⟩ | ⟨kind, hkind, hadmits, hsettled⟩
    · cases hlong
    · rcases hadmits.isOverlong hsettled hlong with ⟨most, rfl, hunbounded⟩
      obtain ⟨htag, rfl⟩ := (bounded_or_limit s.tag_mem_tags hkind).resolve_left hunbounded
      cases s with
      | extractTextList selector outputKey limit =>
          obtain ⟨rfl, -⟩ : w = limit ∧ w.isSet := by simpa [members, fields] using hmem
          exact hlong
      | goto | click | fill | expect | login | waitFor => simp [tag] at htag
  · intro hlong
    cases s with
    | extractTextList selector outputKey limit =>
        have hset : limit.isSet := by
          cases limit with
          | null => cases hlong
          | _ => rfl
        exact ⟨("limit", limit), by simp [members, fields, hset], hlong⟩
    | goto | click | fill | expect | login | waitFor => cases hlong

end Step

namespace Plan

theorem nodup_keys_members (p : Plan) : (Table.keys p.members).Nodup := by
  unfold members
  by_cases hn : p.name.isSet <;> by_cases hb : p.baseUrl.isSet <;> simp [hn, hb, Table.keys]

theorem mem_members_iff {p : Plan} {entry : String × Json} :
    entry ∈ p.members ↔ entry = ("version", p.version) ∨
      (p.name.isSet ∧ entry = ("name", p.name)) ∨
      (p.baseUrl.isSet ∧ entry = ("baseUrl", p.baseUrl)) ∨
      entry = ("steps", .arr (p.steps.map Step.toJson)) := by
  unfold members
  by_cases hn : p.name.isSet <;> by_cases hb : p.baseUrl.isSet <;> simp [hn, hb]

/-- The object of an accepted plan is plain. -/
theorem Accepted.plain {p : Plan} (hp : p.Accepted) : p.toJson.Plain := by
  obtain ⟨ms, steps, hms, hc, -, hversion, -⟩ := validate_eq_ok_iff.mp hp
  obtain rfl : p.members = ms := Json.obj.inj hms
  have htext : ∀ kind : FieldKind, ∀ v : Json, kind = .text ∨ kind = .url → kind.Admits v →
      v.Plain := by
    rintro kind v (rfl | rfl) ⟨s, hs⟩
    · exact hs.1 ▸ .str s
    · exact hs.1 ▸ .str s
  refine .obj p.nodup_keys_members fun entry hentry => ?_
  rcases mem_members_iff.mp hentry with rfl | ⟨hset, rfl⟩ | ⟨hset, rfl⟩ | rfl
  · exact hversion ▸ .str "1"
  · have hname := hc.name p.name (by rw [get?_members_name, if_pos hset])
    exact htext .text p.name (.inl rfl) hname
  · have hbaseUrl := hc.baseUrl p.baseUrl (by rw [get?_members_baseUrl, if_pos hset])
    exact htext .url p.baseUrl (.inr rfl) hbaseUrl
  · refine .arr fun v hv => ?_
    obtain ⟨s, hs, rfl⟩ := List.mem_map.mp hv
    exact (hp.reads s hs).plain

/-- No number of an accepted plan has too many digits unless a limit has. -/
theorem Accepted.isOverlong_eq {p : Plan} (hp : p.Accepted) :
    p.toJson.isOverlong = p.steps.any fun s => s.limit.isOverlong := by
  obtain ⟨hversion, hname, hbaseUrl, -, hreads⟩ := accepted_iff.mp hp
  have hsteps : (Json.arr (p.steps.map Step.toJson)).isOverlong =
      p.steps.any fun s => s.limit.isOverlong := by
    rw [Json.isOverlong_arr, List.any_map, Bool.eq_iff_iff, List.any_eq_true, List.any_eq_true]
    refine exists_congr fun s => and_congr_right fun hs => ?_
    rw [Function.comp_apply, (hreads s hs).isOverlong_eq]
  have hshort : ∀ entry ∈ p.members, entry.2.isOverlong →
      entry.2 = .arr (p.steps.map Step.toJson) := by
    intro entry hentry hlong
    rcases mem_members_iff.mp hentry with rfl | ⟨hset, rfl⟩ | ⟨hset, rfl⟩ | rfl
    · rw [hversion] at hlong
      cases hlong
    · obtain ⟨s, hs, -⟩ := hname hset
      rw [hs] at hlong
      cases hlong
    · obtain ⟨s, hs, -⟩ := hbaseUrl hset
      rw [hs] at hlong
      cases hlong
    · rfl
  rw [toJson_eq, Json.isOverlong_obj, ← hsteps, Bool.eq_iff_iff, List.any_eq_true]
  constructor
  · rintro ⟨entry, hentry, hlong⟩
    exact hshort entry hentry hlong ▸ hlong
  · intro hlong
    exact ⟨("steps", _), mem_members_iff.mpr (.inr (.inr (.inr rfl))), hlong⟩

/-- An accepted plan is read back from its own object. -/
theorem Accepted.ofJson_toJson {p : Plan} (hp : p.Accepted) : ofJson p.toJson = .ok p := by
  obtain ⟨ms, steps, hms, hc, hreads, hversion, hname, hbaseUrl⟩ := validate_eq_ok_iff.mp hp
  rw [hms, ofJson_eq_ok_iff hc]
  refine ⟨(mapM_ofJson_eq_ok_iff ?_).mpr hreads, hversion, hname, hbaseUrl⟩
  intro step hstep
  obtain ⟨s, -, hs⟩ := exists_of_mem_left hreads hstep
  exact ⟨s, hs⟩

end Plan
end Walkthrough
