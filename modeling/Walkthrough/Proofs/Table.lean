import Mathlib.Data.List.Basic
import Mathlib.Data.List.Nodup
import Walkthrough.Table

/-! # Tables as maps

A table is read through `Table.get?`. Writing changes what is under one key, and a table made from
a list of keys holds what was put under each of them. -/

namespace Walkthrough.Table

variable {α : Type}

@[simp] theorem get?_nil (key : String) : get? ([] : Table α) key = none :=
  rfl

theorem get?_cons (k : String) (v : α) (t : Table α) (key : String) :
    get? ((k, v) :: t) key = if k = key then some v else get? t key := by
  by_cases h : k = key
  · simp [get?, h]
  · simp [get?, h]

@[simp] theorem get?_cons_self (k : String) (v : α) (t : Table α) :
    get? ((k, v) :: t) k = some v := by
  simp [get?_cons]

theorem get?_cons_of_ne {k key : String} (h : k ≠ key) (v : α) (t : Table α) :
    get? ((k, v) :: t) key = get? t key := by
  simp [get?_cons, h]

theorem get?_append (t other : Table α) (key : String) :
    get? (t ++ other) key = (get? t key).or (get? other key) := by
  simp only [get?, List.find?_append]
  cases t.find? fun entry => entry.1 == key <;> rfl

theorem get?_set (t : Table α) (key : String) (value : α) (k : String) :
    get? (set t key value) k = if key = k then some value else get? t k := by
  induction t with
  | nil => simp [set, get?_cons]
  | cons entry t ih =>
      obtain ⟨k', v⟩ := entry
      by_cases h : k' = key
      · subst h
        by_cases hk : k' = k <;> simp [set, get?_cons, hk]
      · by_cases hk : k' = k
        · subst hk
          simp [set, h, Ne.symm h]
        · simp [set, h, get?_cons, hk, ih]

theorem has_eq_isSome (t : Table α) (key : String) : has t key = (get? t key).isSome := by
  induction t with
  | nil => rfl
  | cons entry t ih =>
      obtain ⟨k, v⟩ := entry
      have hcons : has ((k, v) :: t) key = (k == key || has t key) := by simp [has]
      rw [hcons, ih, get?_cons]
      by_cases h : k = key <;> simp [h]

theorem mem_keys_iff (t : Table α) (key : String) : key ∈ keys t ↔ ∃ v, get? t key = some v := by
  induction t with
  | nil => simp [keys]
  | cons entry t ih =>
      obtain ⟨k, v⟩ := entry
      have hcons : key ∈ keys ((k, v) :: t) ↔ key = k ∨ key ∈ keys t := by simp [keys]
      rw [hcons, ih, get?_cons]
      by_cases h : k = key
      · simp [h]
      · simp [h, Ne.symm h]

/-- A table made from a list of keys holds under each of them what passes the test. -/
theorem get?_filter_map (keys : List String) (f : String → α) (test : α → Bool) (key : String) :
    get? ((keys.map fun k => (k, f k)).filter fun entry => test entry.2) key =
      if key ∈ keys ∧ test (f key) then some (f key) else none := by
  induction keys with
  | nil => simp
  | cons k keys ih =>
      rw [List.map_cons, List.filter_cons]
      by_cases hk : k = key
      · subst hk
        by_cases ht : test (f k) <;> simp [ht, ih]
      · by_cases ht : test (f k) <;> simp [ht, hk, get?_cons, ih, Ne.symm hk]

theorem get?_map_values {β : Type} (t : Table α) (f : α → β) (key : String) :
    get? (t.map fun entry => (entry.1, f entry.2)) key = (get? t key).map f := by
  induction t with
  | nil => rfl
  | cons entry t ih =>
      obtain ⟨k, v⟩ := entry
      by_cases hk : k = key <;> simp [get?_cons, hk, ih]

/-- A table from which some keys are kept holds what was under them. -/
theorem get?_filter_keys (t : Table α) (test : String → Bool) (key : String) :
    get? (t.filter fun entry => test entry.1) key = if test key then get? t key else none := by
  induction t with
  | nil => simp
  | cons entry t ih =>
      obtain ⟨k, v⟩ := entry
      rw [List.filter_cons]
      by_cases hk : k = key
      · subst hk
        by_cases ht : test k <;> simp [ht, ih]
      · by_cases ht : test k <;> simp [ht, hk, get?_cons, ih]

theorem update_append (t other more : Table α) :
    update t (other ++ more) = update (update t other) more :=
  List.foldl_append

/-- Under a key that is written there is what is written last. -/
theorem get?_update (t other : Table α) (key : String) :
    get? (update t other) key = (get? other.reverse key).or (get? t key) := by
  induction other generalizing t with
  | nil => rfl
  | cons entry other ih =>
      rw [update, List.foldl_cons]
      refine (ih (set t entry.1 entry.2)).trans ?_
      rw [List.reverse_cons, get?_append, get?_set, get?_cons, get?_nil, Option.or_assoc]
      split <;> rfl

theorem get?_update_of_notMem {t other : Table α} {key : String} (h : key ∉ keys other) :
    get? (update t other) key = get? t key := by
  induction other generalizing t with
  | nil => rfl
  | cons entry other ih =>
      obtain ⟨k, v⟩ := entry
      obtain ⟨hk, hother⟩ : key ≠ k ∧ key ∉ keys other := by simpa [keys] using h
      rw [update, List.foldl_cons]
      exact (ih hother).trans (by rw [get?_set, if_neg hk.symm])

/-! ## Keys -/

@[simp] theorem keys_map_values {β : Type} (t : Table α) (f : α → β) :
    keys (t.map fun entry => (entry.1, f entry.2)) = keys t := by
  simp [keys]

theorem set_of_notMem {t : Table α} {key : String} (h : key ∉ keys t) (value : α) :
    set t key value = t ++ [(key, value)] := by
  induction t with
  | nil => rfl
  | cons entry t ih =>
      obtain ⟨k, v⟩ := entry
      obtain ⟨hk, ht⟩ : key ≠ k ∧ key ∉ keys t := by simpa [keys] using h
      simp [set, Ne.symm hk, ih ht]

theorem notMem_keys_of_nodup {before after : Table α} {key : String} {value : α}
    (h : (keys (before ++ (key, value) :: after)).Nodup) : key ∉ keys before := by
  simp only [keys, List.map_append, List.map_cons, List.nodup_append] at h
  intro hmem
  exact h.2.2 key hmem key (by simp) rfl

theorem mem_keys_set_iff {t : Table α} {key k : String} {value : α} :
    k ∈ keys (set t key value) ↔ k ∈ keys t ∨ k = key := by
  rw [mem_keys_iff, mem_keys_iff, ← Option.isSome_iff_exists, ← Option.isSome_iff_exists, get?_set]
  by_cases h : key = k
  · simp [h]
  · simp [h, Ne.symm h]

theorem mem_of_mem_set {t : Table α} {key : String} {value : α} {entry : String × α}
    (h : entry ∈ set t key value) : entry ∈ t ∨ entry = (key, value) := by
  induction t with
  | nil => exact .inr (List.mem_singleton.mp h)
  | cons first t ih =>
      obtain ⟨k, v⟩ := first
      unfold set at h
      split at h
      · rename_i hk
        rcases List.mem_cons.mp h with rfl | hmem
        · exact .inr (by rw [hk])
        · exact .inl (List.mem_cons_of_mem _ hmem)
      · rcases List.mem_cons.mp h with rfl | hmem
        · exact .inl List.mem_cons_self
        · exact (ih hmem).imp_left (List.mem_cons_of_mem _)

theorem nodup_keys_set {t : Table α} (h : (keys t).Nodup) (key : String) (value : α) :
    (keys (set t key value)).Nodup := by
  induction t with
  | nil => simp [set, keys]
  | cons entry t ih =>
      obtain ⟨k, v⟩ := entry
      obtain ⟨hk, ht⟩ := List.nodup_cons.mp (show (k :: keys t).Nodup from h)
      unfold set
      split
      · exact List.nodup_cons.mpr ⟨hk, ht⟩
      · rename_i hne
        refine List.nodup_cons.mpr ⟨fun hmem => ?_, ih ht⟩
        exact (mem_keys_set_iff.mp hmem).elim hk hne

theorem mem_of_get? {t : Table α} {key : String} {value : α} (h : get? t key = some value) :
    (key, value) ∈ t := by
  induction t with
  | nil => cases h
  | cons entry t ih =>
      obtain ⟨k, v⟩ := entry
      by_cases hk : k = key
      · subst hk
        obtain rfl : v = value := by simpa using h
        exact List.mem_cons_self
      · rw [get?_cons_of_ne hk] at h
        exact List.mem_cons_of_mem _ (ih h)

/-- Writing what is there already changes nothing. -/
theorem set_of_get? {t : Table α} {key : String} {value : α} (h : get? t key = some value) :
    set t key value = t := by
  induction t with
  | nil => cases h
  | cons entry t ih =>
      obtain ⟨k, v⟩ := entry
      by_cases hk : k = key
      · subst hk
        obtain rfl : v = value := by simpa using h
        simp [set]
      · rw [get?_cons_of_ne hk] at h
        simp [set, hk, ih h]

/-- An entry is found under its key if that key comes once. -/
theorem get?_of_mem {t : Table α} (h : (keys t).Nodup) {entry : String × α} (hentry : entry ∈ t) :
    get? t entry.1 = some entry.2 := by
  induction t with
  | nil => cases hentry
  | cons first t ih =>
      obtain ⟨k, v⟩ := first
      obtain ⟨hk, ht⟩ := List.nodup_cons.mp (show (k :: keys t).Nodup from h)
      rcases List.mem_cons.mp hentry with rfl | hmem
      · simp
      · have hne : k ≠ entry.1 := by
          rintro rfl
          exact hk (List.mem_map_of_mem hmem)
        rw [get?_cons_of_ne hne, ih ht hmem]

/-- A table without a key twice is made from its keys and what is under them. -/
theorem map_keys {t : Table α} (h : (keys t).Nodup) (absent : α) :
    (keys t).map (fun key => (key, (get? t key).getD absent)) = t := by
  rw [keys, List.map_map]
  refine (List.map_congr_left fun entry hentry => ?_).trans (List.map_id t)
  simp [get?_of_mem h hentry]

end Walkthrough.Table
