import Walkthrough.Proofs.Json.Token
import Walkthrough.Proofs.Table
import Walkthrough.Proofs.Text.Newline
import Walkthrough.Text.Content

/-! # Documents read back

The indented text of a value is read as that value, if the value holds no floats, no number in it is
too long, and none of its objects has two members under one key. Reading it from a file changes no
line end. -/

namespace Walkthrough.Json

/-- A value without floats in which no object has two members under one key. -/
inductive Plain : Json → Prop
  | null : Plain .null
  | bool (b : Bool) : Plain (.bool b)
  | int (n : Int) : Plain (.int n)
  | str (s : String) : Plain (.str s)
  | arr {items : List Json} (all : ∀ v ∈ items, Plain v) : Plain (.arr items)
  | obj {members : Table Json} (keys : (Table.keys members).Nodup)
      (all : ∀ entry ∈ members, Plain entry.2) : Plain (.obj members)

attribute [simp] Plain.null Plain.bool Plain.int Plain.str

@[simp] theorem plain_arr_iff {items : List Json} : (Json.arr items).Plain ↔ ∀ v ∈ items, v.Plain := by
  refine ⟨fun h => ?_, .arr⟩
  cases h with
  | arr all => exact all

@[simp] theorem plain_obj_iff {members : Table Json} :
    (Json.obj members).Plain ↔
      (Table.keys members).Nodup ∧ ∀ entry ∈ members, entry.2.Plain := by
  refine ⟨fun h => ?_, fun h => .obj h.1 h.2⟩
  cases h with
  | obj keys all => exact ⟨keys, all⟩

/-! ## Indented texts -/

section

variable (charset : Charset) (depth : Nat)

@[simp] theorem block_null : block charset depth .null = ['n', 'u', 'l', 'l'] := rfl

@[simp] theorem block_bool (b : Bool) :
    block charset depth (.bool b) = (if b then "true" else "false").toList :=
  rfl

@[simp] theorem block_int (n : Int) : block charset depth (.int n) = (toString n).toList := rfl

@[simp] theorem block_str (s : String) : block charset depth (.str s) = literal charset s := rfl

@[simp] theorem block_arr_nil : block charset depth (.arr []) = ['[', ']'] := rfl

@[simp] theorem block_arr_cons (v : Json) (items : List Json) :
    block charset depth (.arr (v :: items)) = '[' :: (newLine (depth + 1) ++
      (blockItems charset (depth + 1) (v :: items) ++ (newLine depth ++ [']']))) := by
  rw [← List.append_assoc, ← List.append_assoc]
  rfl

@[simp] theorem block_obj_nil : block charset depth (.obj []) = ['{', '}'] := rfl

@[simp] theorem block_obj_cons (entry : String × Json) (members : Table Json) :
    block charset depth (.obj (entry :: members)) = '{' :: (newLine (depth + 1) ++
      (blockMembers charset (depth + 1) (entry :: members) ++ (newLine depth ++ ['}']))) := by
  rw [← List.append_assoc, ← List.append_assoc]
  rfl

@[simp] theorem blockItems_nil : blockItems charset depth [] = [] := rfl

@[simp] theorem blockItems_singleton (v : Json) :
    blockItems charset depth [v] = block charset depth v :=
  rfl

@[simp] theorem blockItems_cons_cons (v next : Json) (items : List Json) :
    blockItems charset depth (v :: next :: items) =
      block charset depth v ++ ',' :: (newLine depth ++ blockItems charset depth (next :: items)) :=
  rfl

@[simp] theorem blockMembers_nil : blockMembers charset depth [] = [] := rfl

@[simp] theorem blockMembers_singleton (entry : String × Json) :
    blockMembers charset depth [entry] =
      literal charset entry.1 ++ ':' :: ' ' :: block charset depth entry.2 :=
  rfl

@[simp] theorem blockMembers_cons_cons (entry next : String × Json) (members : Table Json) :
    blockMembers charset depth (entry :: next :: members) =
      literal charset entry.1 ++ ':' :: ' ' :: (block charset depth entry.2 ++
        ',' :: (newLine depth ++ blockMembers charset depth (next :: members))) :=
  rfl

end

/-! ## Values -/

/-- A text that starts with something other than a blank, a closing bracket or a byte order mark. -/
def Opens (cs : List Char) : Prop :=
  ∃ c rest, cs = c :: rest ∧ isGap c = false ∧ c ≠ ']' ∧ c ≠ '\uFEFF'

theorem opens_cons {c : Char} {rest : List Char} (h : isGap c = false ∧ c ≠ ']' ∧ c ≠ '\uFEFF') :
    Opens (c :: rest) :=
  ⟨c, rest, rfl, h⟩

theorem Opens.skipGap_eq {cs : List Char} (h : Opens cs) (more : List Char) :
    skipGap (cs ++ more) = cs ++ more := by
  obtain ⟨c, rest, rfl, hgap, -⟩ := h
  simp [skipGap, hgap]

theorem Opens.skipGap_space {cs : List Char} (h : Opens cs) (more : List Char) :
    skipGap (' ' :: (cs ++ more)) = cs ++ more :=
  h.skipGap_eq more

theorem Opens.append {cs : List Char} (h : Opens cs) (more : List Char) : Opens (cs ++ more) := by
  obtain ⟨c, rest, rfl, hc⟩ := h
  exact opens_cons hc

theorem skipGap_newLine (depth : Nat) (cs : List Char) :
    skipGap (newLine depth ++ cs) = skipGap cs := by
  have hgaps : ∀ c ∈ newLine depth, isGap c = true := by
    intro c hc
    rcases List.mem_cons.mp hc with rfl | hc
    · rfl
    · rw [List.eq_of_mem_replicate hc]
      rfl
  exact List.dropWhile_append_of_pos hgaps

theorem endsNumber_newLine (depth : Nat) (cs : List Char) : EndsNumber (newLine depth ++ cs) :=
  endsNumber_cons (by decide)

/-- A value whose text at a level is read back from whatever text starts with it. -/
structure ReadsBack (depth : Nat) (v : Json) : Prop where
  opens : Opens (block .unicode depth v)
  reads : ∀ fuel rest, 2 * (block .unicode depth v).length ≤ fuel → EndsNumber rest →
    readValue fuel (block .unicode depth v ++ rest) = .ok (v, rest)

theorem ReadsBack.of_scalar {depth : Nat} {v : Json} {c : Char} {cs : List Char}
    (hblock : block .unicode depth v = c :: cs)
    (hopens : isGap c = false ∧ c ≠ ']' ∧ c ≠ '\uFEFF') (hc : c ≠ '"' ∧ c ≠ '[' ∧ c ≠ '{')
    (hread : ∀ rest, EndsNumber rest → readScalar (c :: cs ++ rest) = .ok (v, rest)) :
    ReadsBack depth v := by
  refine ⟨hblock ▸ opens_cons hopens, fun fuel rest hfuel hrest => ?_⟩
  rw [hblock] at hfuel ⊢
  obtain ⟨fuel, rfl⟩ : ∃ n, fuel = n + 1 := Nat.exists_eq_add_one.mpr (by simp at hfuel; omega)
  rw [← hread rest hrest, List.cons_append]
  unfold readValue
  split <;> simp_all

theorem readsBack_null (depth : Nat) : ReadsBack depth .null :=
  .of_scalar (block_null .unicode depth) (by decide) (by decide) fun rest _ => rfl

theorem readsBack_bool (depth : Nat) (b : Bool) : ReadsBack depth (.bool b) := by
  cases b with
  | true =>
      exact .of_scalar (block_bool .unicode depth true) (by decide) (by decide) fun rest _ => rfl
  | false =>
      exact .of_scalar (block_bool .unicode depth false) (by decide) (by decide) fun rest _ => rfl

theorem readsBack_int (depth : Nat) {n : Int} (hshort : (Json.int n).isOverlong = false) :
    ReadsBack depth (.int n) := by
  have hblock := block_int .unicode depth n
  have hread := fun rest (hrest : EndsNumber rest) => readScalar_int hshort hrest
  rw [toList_int] at hblock hread
  cases hdigits : Nat.toDigits 10 n.natAbs with
  | nil => exact absurd hdigits Nat.toDigits_ne_nil
  | cons d ds =>
      have hd : d.isDigit = true := isDigit_of_mem (n := n.natAbs) (by simp [hdigits])
      have hne : ∀ c : Char, c.isDigit = false → d ≠ c := by
        rintro c hc rfl
        rw [hd] at hc
        cases hc
      rw [hdigits] at hblock hread
      by_cases hn : n < 0
      · rw [if_pos hn] at hblock hread
        exact .of_scalar hblock (by decide) (by decide) hread
      · rw [if_neg hn] at hblock hread
        refine .of_scalar hblock ⟨?_, hne _ (by decide), hne _ (by decide)⟩
          ⟨hne _ (by decide), hne _ (by decide), hne _ (by decide)⟩ hread
        simp [isGap, hne ' ' (by decide), hne '\t' (by decide), hne '\n' (by decide),
          hne '\r' (by decide)]

theorem readsBack_str (depth : Nat) (s : String) : ReadsBack depth (.str s) := by
  refine ⟨by simpa [literal] using opens_cons (by decide), fun fuel rest hfuel _ => ?_⟩
  obtain ⟨fuel, rfl⟩ : ∃ n, fuel = n + 1 :=
    Nat.exists_eq_add_one.mpr (by simp [literal] at hfuel; omega)
  simp [literal, readValue, readLiteral_literal]

theorem skipGap_cons {c : Char} (h : isGap c = false) (cs : List Char) :
    skipGap (c :: cs) = c :: cs := by
  simp [skipGap, h]

theorem opens_blockItems {depth : Nat} {v : Json} (items : List Json)
    (h : Opens (block .unicode depth v)) : Opens (blockItems .unicode depth (v :: items)) := by
  cases items with
  | nil => exact h
  | cons next items => exact h.append _

section Lists

variable {depth outer fuel : Nat} {cs rest more : List Char} {v : Json}

theorem readItems_of_close (done : List Json) (hv : readValue fuel cs = .ok (v, rest))
    (hrest : skipGap rest = ']' :: more) :
    readItems (fuel + 1) done cs = .ok (.arr (v :: done).reverse, more) := by
  simp only [readItems, hv, hrest]

theorem readItems_of_comma (done : List Json) (hv : readValue fuel cs = .ok (v, rest))
    (hrest : skipGap rest = ',' :: more) :
    readItems (fuel + 1) done cs = readItems fuel (v :: done) (skipGap more) := by
  simp only [readItems, hv, hrest]

/-- The items of an array are read back one after the other. -/
theorem readItems_blockItems {items : List Json} (hne : items ≠ [])
    (hitems : ∀ v ∈ items, ReadsBack depth v) (done : List Json) (rest : List Char)
    (hfuel : 2 * (blockItems .unicode depth items).length < fuel) :
    readItems fuel done (blockItems .unicode depth items ++ (newLine outer ++ ']' :: rest)) =
      .ok (.arr (done.reverse ++ items), rest) := by
  induction items generalizing fuel done with
  | nil => exact absurd rfl hne
  | cons v items ih =>
      obtain ⟨fuel, rfl⟩ := Nat.exists_eq_add_one.mpr (Nat.zero_lt_of_lt hfuel)
      have hv := hitems v (by simp)
      cases items with
      | nil =>
          have hread := hv.reads fuel (newLine outer ++ ']' :: rest)
            (by rw [blockItems_singleton] at hfuel; omega) (endsNumber_newLine _ _)
          rw [blockItems_singleton, readItems_of_close done hread
            (by rw [skipGap_newLine, skipGap_cons (by decide)]), List.reverse_cons]
      | cons next items =>
          have hopens := opens_blockItems items (hitems next (by simp)).opens
          have hlength : (blockItems .unicode depth (v :: next :: items)).length =
              (block .unicode depth v).length + (1 + ((newLine depth).length +
                (blockItems .unicode depth (next :: items)).length)) := by
            simp
            omega
          have hread := hv.reads fuel (',' :: (newLine depth ++
            (blockItems .unicode depth (next :: items) ++ (newLine outer ++ ']' :: rest))))
            (by omega) (endsNumber_cons (by decide))
          have hrest := @ih fuel (by simp) (fun w hw => hitems w (by simp [hw])) (v :: done)
            (by omega)
          simp only [blockItems_cons_cons, List.append_assoc, List.cons_append]
          rw [readItems_of_comma done hread (skipGap_cons (by decide) _), skipGap_newLine,
            hopens.skipGap_eq, hrest]
          simp

/-- The text of a member: its key and its value. -/
def member (depth : Nat) (key : String) (v : Json) (after : List Char) : List Char :=
  literal .unicode key ++ ':' :: ' ' :: (block .unicode depth v ++ after)

theorem readMembers_of_close (h : ReadsBack depth v) (key : String) (done : Table Json)
    {after : List Char} (hfuel : 2 * (block .unicode depth v).length ≤ fuel)
    (hafter : EndsNumber after) (hclose : skipGap after = '}' :: more) :
    readMembers (fuel + 1) done (member depth key v after) =
      .ok (.obj (Table.set done key v), more) := by
  have hcolon := skipGap_cons (c := ':') (by decide)
  simp only [member, literal, List.cons_append, List.append_assoc, List.nil_append, readMembers,
    readLiteral_literal, hcolon, h.opens.skipGap_space, h.reads fuel after hfuel hafter, hclose]

theorem readMembers_of_comma (h : ReadsBack depth v) (key : String) (done : Table Json)
    {after : List Char} (hfuel : 2 * (block .unicode depth v).length ≤ fuel)
    (hafter : EndsNumber after) (hcomma : skipGap after = ',' :: more) :
    readMembers (fuel + 1) done (member depth key v after) =
      readMembers fuel (Table.set done key v) (skipGap more) := by
  have hcolon := skipGap_cons (c := ':') (by decide)
  simp only [member, literal, List.cons_append, List.append_assoc, List.nil_append, readMembers,
    readLiteral_literal, hcolon, h.opens.skipGap_space, h.reads fuel after hfuel hafter, hcomma]

theorem exists_blockMembers_eq (depth : Nat) (entry : String × Json) (members : Table Json) :
    ∃ cs, blockMembers .unicode depth (entry :: members) = '"' :: cs := by
  cases members with
  | nil => exact ⟨_, rfl⟩
  | cons next members => exact ⟨_, rfl⟩

theorem opens_blockMembers (entry : String × Json) (members : Table Json) :
    Opens (blockMembers .unicode depth (entry :: members)) := by
  obtain ⟨cs, heq⟩ := exists_blockMembers_eq depth entry members
  rw [heq]
  exact opens_cons (by decide)

/-- The members of an object are read back one after the other, if no key comes twice. -/
theorem readMembers_blockMembers {members : Table Json} (hne : members ≠ [])
    (hmembers : ∀ entry ∈ members, ReadsBack depth entry.2) (done : Table Json)
    (hkeys : (Table.keys (done ++ members)).Nodup) (rest : List Char)
    (hfuel : 2 * (blockMembers .unicode depth members).length < fuel) :
    readMembers fuel done (blockMembers .unicode depth members ++ (newLine outer ++ '}' :: rest)) =
      .ok (.obj (done ++ members), rest) := by
  induction members generalizing fuel done with
  | nil => exact absurd rfl hne
  | cons entry members ih =>
      obtain ⟨key, v⟩ := entry
      obtain ⟨fuel, rfl⟩ := Nat.exists_eq_add_one.mpr (Nat.zero_lt_of_lt hfuel)
      have hv : ReadsBack depth v := hmembers (key, v) (by simp)
      have hset : Table.set done key v = done ++ [(key, v)] :=
        Table.set_of_notMem (Table.notMem_keys_of_nodup hkeys) v
      cases members with
      | nil =>
          rw [show blockMembers .unicode depth [(key, v)] ++ (newLine outer ++ '}' :: rest) =
            member depth key v (newLine outer ++ '}' :: rest) by simp [member],
            readMembers_of_close hv key done (by simp at hfuel; omega)
              (endsNumber_newLine _ _) (by rw [skipGap_newLine, skipGap_cons (by decide)]), hset]
      | cons next members =>
          have hlength : (blockMembers .unicode depth ((key, v) :: next :: members)).length =
              (literal .unicode key).length + (2 + (block .unicode depth v).length +
                (1 + ((newLine depth).length +
                  (blockMembers .unicode depth (next :: members)).length))) := by
            simp
            omega
          have hrest := @ih fuel (by simp) (fun w hw => hmembers w (by simp [hw]))
            (Table.set done key v) (by rw [hset]; simpa using hkeys) (by omega)
          rw [show blockMembers .unicode depth ((key, v) :: next :: members) ++
              (newLine outer ++ '}' :: rest) =
            member depth key v (',' :: (newLine depth ++
              (blockMembers .unicode depth (next :: members) ++ (newLine outer ++ '}' :: rest))))
            by simp [member],
            readMembers_of_comma hv key done (by omega) (endsNumber_cons (by decide))
              (skipGap_cons (by decide) _), skipGap_newLine,
            (opens_blockMembers next members).skipGap_eq, hrest, hset]
          simp

end Lists

theorem isOverlong_arr (items : List Json) : (Json.arr items).isOverlong = items.any isOverlong := by
  rw [isOverlong]
  induction items with
  | nil => rfl
  | cons v items ih => rw [anyOverlong, ih, List.any_cons]

theorem isOverlong_obj (members : Table Json) :
    (Json.obj members).isOverlong = members.any fun entry => entry.2.isOverlong := by
  rw [isOverlong]
  induction members with
  | nil => rfl
  | cons entry members ih => rw [anyMemberOverlong, ih, List.any_cons]

theorem readsBack_arr {depth : Nat} {items : List Json}
    (hitems : ∀ v ∈ items, ReadsBack (depth + 1) v) : ReadsBack depth (.arr items) := by
  cases items with
  | nil =>
      refine ⟨opens_cons (by decide), fun fuel rest hfuel _ => ?_⟩
      obtain ⟨fuel, rfl⟩ : ∃ n, fuel = n + 1 :=
        Nat.exists_eq_add_one.mpr (by simp at hfuel; omega)
      rfl
  | cons v items =>
      have hblock := block_arr_cons .unicode depth v items
      refine ⟨hblock ▸ opens_cons (by decide), fun fuel rest hfuel _ => ?_⟩
      rw [hblock] at hfuel ⊢
      simp only [List.length_cons, List.length_append] at hfuel
      obtain ⟨fuel, rfl⟩ : ∃ n, fuel = n + 1 := Nat.exists_eq_add_one.mpr (by omega)
      have hopens := opens_blockItems items (hitems v (by simp)).opens
      have hread : readItems fuel [] (blockItems .unicode (depth + 1) (v :: items) ++
          (newLine depth ++ ']' :: rest)) = .ok (.arr (v :: items), rest) :=
        readItems_blockItems (by simp) hitems [] rest (by omega)
      have hbody : readValue (fuel + 1) ('[' :: (newLine (depth + 1) ++
          (blockItems .unicode (depth + 1) (v :: items) ++ (newLine depth ++ ']' :: rest)))) =
          readItems fuel [] (blockItems .unicode (depth + 1) (v :: items) ++
            (newLine depth ++ ']' :: rest)) := by
        rw [readValue, skipGap_newLine, hopens.skipGap_eq]
        obtain ⟨c, cs, heq, -, hc, -⟩ := hopens
        rw [heq, List.cons_append]
        split
        · simp_all
        · rfl
      simpa using hbody.trans hread

theorem readsBack_obj {depth : Nat} {members : Table Json}
    (hkeys : (Table.keys members).Nodup)
    (hmembers : ∀ entry ∈ members, ReadsBack (depth + 1) entry.2) :
    ReadsBack depth (.obj members) := by
  cases members with
  | nil =>
      refine ⟨opens_cons (by decide), fun fuel rest hfuel _ => ?_⟩
      obtain ⟨fuel, rfl⟩ : ∃ n, fuel = n + 1 :=
        Nat.exists_eq_add_one.mpr (by simp at hfuel; omega)
      rfl
  | cons entry members =>
      have hblock := block_obj_cons .unicode depth entry members
      refine ⟨hblock ▸ opens_cons (by decide), fun fuel rest hfuel _ => ?_⟩
      rw [hblock] at hfuel ⊢
      simp only [List.length_cons, List.length_append] at hfuel
      obtain ⟨fuel, rfl⟩ : ∃ n, fuel = n + 1 := Nat.exists_eq_add_one.mpr (by omega)
      have hread : readMembers fuel [] (blockMembers .unicode (depth + 1) (entry :: members) ++
          (newLine depth ++ '}' :: rest)) = .ok (.obj (entry :: members), rest) :=
        readMembers_blockMembers (by simp) hmembers [] hkeys rest (by omega)
      have hbody : readValue (fuel + 1) ('{' :: (newLine (depth + 1) ++
          (blockMembers .unicode (depth + 1) (entry :: members) ++
            (newLine depth ++ '}' :: rest)))) =
          readMembers fuel [] (blockMembers .unicode (depth + 1) (entry :: members) ++
            (newLine depth ++ '}' :: rest)) := by
        obtain ⟨cs, heq⟩ := exists_blockMembers_eq (depth + 1) entry members
        rw [readValue, skipGap_newLine, heq, List.cons_append, skipGap_cons (by decide)]
        rfl
      simpa using hbody.trans hread

/-- The text of a plain value without overlong numbers is read back, at any level. -/
theorem Plain.readsBack {v : Json} (hv : v.Plain) (hshort : v.isOverlong = false) (depth : Nat) :
    ReadsBack depth v := by
  induction hv generalizing depth with
  | null => exact readsBack_null depth
  | bool b => exact readsBack_bool depth b
  | int n => exact readsBack_int depth hshort
  | str s => exact readsBack_str depth s
  | arr _ ih =>
      rw [isOverlong_arr, List.any_eq_false] at hshort
      exact readsBack_arr fun v hv => ih v hv (by simpa using hshort v hv) (depth + 1)
  | obj keys _ ih =>
      rw [isOverlong_obj, List.any_eq_false] at hshort
      exact readsBack_obj keys fun entry hentry =>
        ih entry hentry (by simpa using hshort entry hentry) (depth + 1)

/-! ## Documents -/

theorem document_eq_ok_iff {v : Json} {s : String} :
    v.document = .ok s ↔ v.isOverlong = false ∧ v.pretty = s := by
  unfold document
  split <;> simp_all

/-- A document is read back as the value it was written for. -/
theorem parse_document {v : Json} {s : String} (hv : v.Plain) (h : v.document = .ok s) :
    parse s = .ok v := by
  obtain ⟨hshort, rfl⟩ := document_eq_ok_iff.mp h
  have hback := hv.readsBack hshort 0
  have hread := hback.reads (2 * (block .unicode 0 v).length + 2) [] (by omega) endsNumber_nil
  have hgap := hback.opens.skipGap_eq []
  rw [List.append_nil] at hread hgap
  have htext : readText (block .unicode 0 v) = .ok v := by
    unfold readText
    split
    · rename_i heq
      obtain ⟨c, cs, hblock, -, -, hmark⟩ := hback.opens
      rw [hblock] at heq
      exact absurd (List.cons.inj heq).1 hmark
    · rw [hgap, hread]
      rfl
  simp [parse, pretty, htext]

/-! ## Line ends -/

/-- Nothing in a literal is a control character. -/
theorem le_of_mem_hex {width n : Nat} {c : Char} (h : c ∈ Text.hex width n) : ' ' ≤ c := by
  have hdigit : ∀ m < 16, ' ' ≤ Text.hexDigit m := by decide
  induction width generalizing n with
  | zero => simp [Text.hex] at h
  | succ width ih =>
      rcases List.mem_append.mp h with hmem | hmem
      · exact ih hmem
      · rw [List.mem_singleton.mp hmem]
        exact hdigit (n % 16) (Nat.mod_lt n (by decide))

theorem le_of_mem_escapeUnit {n : Nat} {c : Char} (h : c ∈ escapeUnit n) : ' ' ≤ c := by
  simp only [escapeUnit, List.mem_cons] at h
  rcases h with rfl | rfl | hmem
  · decide
  · decide
  · exact le_of_mem_hex hmem

theorem le_of_mem_escapeChar {charset : Charset} {c d : Char} (h : d ∈ escapeChar charset c) :
    ' ' ≤ d := by
  have hlisted : ∀ cs : List Char, cs.all (' ' ≤ ·) = true → d ∈ cs → ' ' ≤ d :=
    fun cs hcs hmem => of_decide_eq_true (List.all_eq_true.mp hcs d hmem)
  unfold escapeChar at h
  split_ifs at h with hquote hn hr ht hb hf hcontrol
  · rcases hquote with rfl | rfl <;> exact hlisted _ (by decide) h
  iterate 5 · exact hlisted _ (by decide) h
  · exact le_of_mem_escapeUnit h
  · obtain rfl := List.mem_singleton.mp h
    exact Nat.le_of_not_lt hcontrol
  · exact le_of_mem_escapeUnit h
  · exact (List.mem_append.mp h).elim le_of_mem_escapeUnit le_of_mem_escapeUnit

theorem le_of_mem_literal {charset : Charset} {s : String} {c : Char} (h : c ∈ literal charset s) :
    ' ' ≤ c := by
  simp only [literal, List.mem_cons, List.mem_append, List.mem_flatMap, List.not_mem_nil,
    or_false] at h
  rcases h with rfl | ⟨d, -, hmem⟩ | rfl
  · decide
  · exact le_of_mem_escapeChar hmem
  · decide

theorem notMem_literal (charset : Charset) (s : String) : '\r' ∉ literal charset s :=
  fun h => absurd (le_of_mem_literal h) (by decide)

theorem notMem_newLine (depth : Nat) : '\r' ∉ newLine depth := by
  simp [newLine]

theorem notMem_blockItems {charset : Charset} {depth : Nat} {items : List Json}
    (h : ∀ v ∈ items, '\r' ∉ block charset depth v) : '\r' ∉ blockItems charset depth items := by
  induction items with
  | nil => simp
  | cons v items ih =>
      have hv := h v (by simp)
      have hrest := ih fun w hw => h w (by simp [hw])
      cases items with
      | nil => simpa using hv
      | cons next items => simp [hv, hrest, notMem_newLine]

theorem notMem_blockMembers {charset : Charset} {depth : Nat} {members : Table Json}
    (h : ∀ entry ∈ members, '\r' ∉ block charset depth entry.2) :
    '\r' ∉ blockMembers charset depth members := by
  induction members with
  | nil => simp
  | cons entry members ih =>
      have hentry := h entry (by simp)
      have hrest := ih fun w hw => h w (by simp [hw])
      cases members with
      | nil => simp [hentry, notMem_literal]
      | cons next members => simp [hentry, hrest, notMem_newLine, notMem_literal]

theorem Plain.notMem_block {v : Json} (hv : v.Plain) (charset : Charset) (depth : Nat) :
    '\r' ∉ block charset depth v := by
  induction hv generalizing depth with
  | null => simp
  | bool b => cases b <;> simp
  | int n =>
      have hdigits : '\r' ∉ Nat.toDigits 10 n.natAbs := fun h => by
        have := isDigit_of_mem h
        revert this
        decide
      rw [block_int, toList_int]
      split_ifs <;> simp [hdigits]
  | str s => simp [notMem_literal]
  | @arr items _ ih =>
      have hitems := notMem_blockItems fun v hv => ih v hv (depth + 1)
      cases items <;> simp [hitems, notMem_newLine]
  | @obj members _ _ ih =>
      have hmembers := notMem_blockMembers fun entry hentry => ih entry hentry (depth + 1)
      cases members <;> simp [hmembers, notMem_newLine]

/-- A document that was put in a file is read from there as it was written. -/
theorem read_document {v : Json} {s : String} (hv : v.Plain) (h : v.document = .ok s) :
    (Text.Content.text s).read = .ok s := by
  obtain ⟨-, rfl⟩ := document_eq_ok_iff.mp h
  simp [Text.Content.read, Text.Content.decode, pretty,
    Text.unifyNewlines_of_notMem (hv.notMem_block .unicode 0)]

end Walkthrough.Json
