import Walkthrough.Json.Reader
import Walkthrough.Proofs.Table

/-! # Keys of objects that were read

Of two members with one key an object that is read keeps one, so no object in a value that was read has
two members under one key. -/

namespace Walkthrough.Json

/-- A value in which no object has two members under one key. -/
inductive Keyed : Json → Prop
  | null : Keyed .null
  | bool (b : Bool) : Keyed (.bool b)
  | int (n : Int) : Keyed (.int n)
  | float (x : Binary64) : Keyed (.float x)
  | str (s : String) : Keyed (.str s)
  | arr {items : List Json} (all : ∀ v ∈ items, Keyed v) : Keyed (.arr items)
  | obj {members : Table Json} (keys : (Table.keys members).Nodup)
      (all : ∀ entry ∈ members, Keyed entry.2) : Keyed (.obj members)

theorem Keyed.members {members : Table Json} (h : (Json.obj members).Keyed) :
    (Table.keys members).Nodup ∧ ∀ entry ∈ members, entry.2.Keyed := by
  cases h with
  | obj keys all => exact ⟨keys, all⟩

theorem keyed_arr_nil : (Json.arr []).Keyed :=
  .arr (List.forall_mem_nil _)

theorem keyed_obj_nil : (Json.obj []).Keyed :=
  .obj List.nodup_nil (List.forall_mem_nil _)

theorem Keyed.set {members : Table Json} (h : (Json.obj members).Keyed) (key : String) {v : Json}
    (hv : v.Keyed) : (Json.obj (Table.set members key v)).Keyed := by
  refine .obj (Table.nodup_keys_set h.members.1 key v) fun entry hentry => ?_
  rcases Table.mem_of_mem_set hentry with hmem | rfl
  · exact h.members.2 entry hmem
  · exact hv

theorem keyed_of_readMagnitude {negative : Bool} {start cs rest : List Char} {v : Json}
    (h : readMagnitude negative start cs = .ok (v, rest)) : v.Keyed := by
  unfold readMagnitude at h
  dsimp only at h
  split_ifs at h <;> cases h
  · exact .int _
  · exact .int _
  · exact .float _

theorem keyed_of_readScalar {cs rest : List Char} {v : Json} (h : readScalar cs = .ok (v, rest)) :
    v.Keyed := by
  unfold readScalar at h
  split at h
  · split at h
    · cases h
      exact .float _
    · exact keyed_of_readMagnitude h
  · dsimp only at h
    split at h
    · rename_i answer hword
      obtain ⟨word, hmem, hafter⟩ := List.exists_of_findSome?_eq_some hword
      obtain ⟨more, -, rfl⟩ := Option.map_eq_some_iff.mp hafter
      cases h
      simp only [List.mem_cons, List.not_mem_nil, or_false] at hmem
      rcases hmem with rfl | rfl | rfl | rfl | rfl
      · exact .null
      · exact .bool true
      · exact .bool false
      · exact .float .nan
      · exact .float (.infinite false)
    · exact keyed_of_readMagnitude h

/-- Readers with some fuel give keyed values. -/
structure ReadsKeyed (fuel : Nat) : Prop where
  value {cs rest : List Char} {v : Json} (h : readValue fuel cs = .ok (v, rest)) : v.Keyed
  items {done : List Json} {cs rest : List Char} {v : Json} (hdone : ∀ w ∈ done, w.Keyed)
    (h : readItems fuel done cs = .ok (v, rest)) : v.Keyed
  members {done : Table Json} {cs rest : List Char} {v : Json} (hdone : (Json.obj done).Keyed)
    (h : readMembers fuel done cs = .ok (v, rest)) : v.Keyed

theorem readsKeyed (fuel : Nat) : ReadsKeyed fuel := by
  induction fuel with
  | zero => exact ⟨nofun, fun _ => nofun, fun _ => nofun⟩
  | succ fuel ih =>
      refine ⟨fun {cs rest v} h => ?_, fun {done cs rest v} hdone h => ?_,
        fun {done cs rest v} hdone h => ?_⟩
      · unfold readValue at h
        split at h
        · split at h
          · cases h
          · cases h
            exact .str _
        · split at h
          · cases h
            exact keyed_arr_nil
          · exact ih.items (List.forall_mem_nil _) h
        · split at h
          · cases h
            exact keyed_obj_nil
          · exact ih.members keyed_obj_nil h
        · exact keyed_of_readScalar h
      · unfold readItems at h
        split at h
        · cases h
        rename_i hread
        have hcons := List.forall_mem_cons.mpr ⟨ih.value hread, hdone⟩
        split at h
        · cases h
          exact .arr fun w hw => hcons w (List.mem_reverse.mp hw)
        · exact ih.items hcons h
        · cases h
      · unfold readMembers at h
        split at h
        · split at h
          · cases h
          split at h
          · split at h
            · cases h
            rename_i hread
            have hset := fun key => hdone.set key (ih.value hread)
            split at h
            · cases h
              exact hset _
            · exact ih.members (hset _) h
            · cases h
          · cases h
        · cases h

/-- No object in a value that was read has two members under one key. -/
theorem keyed_of_parse {s : String} {v : Json} (h : parse s = .ok v) : v.Keyed := by
  have hread : readText s.toList = .ok v := by
    unfold parse at h
    dsimp only at h
    split at h
    · rename_i hread
      rwa [Except.ok.inj h] at hread
    · cases h
  unfold readText at hread
  split at hread
  · cases hread
  · cases hvalue : readValue (2 * s.toList.length + 2) (skipGap s.toList) with
    | error stop => simp [hvalue, bind, Except.bind] at hread
    | ok answer =>
        obtain ⟨found, rest⟩ := answer
        simp only [hvalue, bind, Except.bind] at hread
        split at hread
        · obtain rfl := Except.ok.inj hread
          exact (readsKeyed _).value hvalue
        · cases hread

end Walkthrough.Json
