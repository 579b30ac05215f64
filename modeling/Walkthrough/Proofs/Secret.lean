import Mathlib.Data.List.Infix
import Mathlib.Data.List.TakeWhile
import Walkthrough.Secret

/-! # Placeholders and what they resolve to

A text splits in one way into plain passages and the placeholders between them, found from the
left. Resolving keeps the passages and puts a value for each placeholder. -/

namespace Walkthrough.Secret

/-! ### Names and placeholders -/

/-- A name of capital letters, digits and underscores. -/
structure IsName (name : List Char) : Prop where
  ne_nil : name ≠ []
  chars : ∀ c ∈ name, ('A' ≤ c ∧ c ≤ 'Z') ∨ ('0' ≤ c ∧ c ≤ '9') ∨ c = '_'

/-- A text that starts with a placeholder. -/
def Opens (cs : List Char) : Prop :=
  ∃ name rest, IsName name ∧ cs = placeholder name ++ rest

theorem isNameChar_iff (c : Char) :
    isNameChar c = true ↔ ('A' ≤ c ∧ c ≤ 'Z') ∨ ('0' ≤ c ∧ c ≤ '9') ∨ c = '_' := by
  simp [isNameChar, or_assoc]

theorem isName_iff (name : List Char) :
    IsName name ↔ name ≠ [] ∧ ∀ c ∈ name, isNameChar c = true := by
  simp only [isNameChar_iff]
  exact ⟨fun h => ⟨h.ne_nil, h.chars⟩, fun h => ⟨h.1, h.2⟩⟩

/-- The characters of a placeholder after its first. -/
def placeholderTail (name : List Char) : List Char :=
  opening.tail ++ name ++ ['\x7d']

theorem placeholder_eq (name : List Char) : placeholder name = '$' :: placeholderTail name :=
  rfl

theorem placeholder_append (name rest : List Char) :
    placeholder name ++ rest = '$' :: (placeholderTail name ++ rest) :=
  rfl

theorem opening_eq : opening = ['$', '\x7b', 'S', 'E', 'C', 'R', 'E', 'T', ':'] :=
  rfl

theorem length_placeholderTail (name : List Char) :
    (placeholderTail name).length = opening.length + name.length := by
  rw [placeholderTail, List.length_append, List.length_append, List.length_tail]
  simp only [opening_eq, List.length_cons, List.length_nil]
  omega

theorem IsName.notMem_placeholderTail {name : List Char} (h : IsName name) :
    '$' ∉ placeholderTail name := by
  have hname : '$' ∉ name := by
    intro hmem
    have hchar := h.chars '$' hmem
    revert hchar
    decide
  simp [placeholderTail, opening_eq, hname]

theorem nameAt?_placeholder {name : List Char} (h : IsName name) (rest : List Char) :
    nameAt? (placeholder name ++ rest) = some name := by
  obtain ⟨hne, hchars⟩ := (isName_iff name).mp h
  have htake : (name ++ '\x7d' :: rest).takeWhile isNameChar = name := by
    rw [List.takeWhile_append_of_pos hchars, List.takeWhile_cons_of_neg (by decide),
      List.append_nil]
  have hprefix : opening.isPrefixOf (opening ++ (name ++ '\x7d' :: rest)) = true := by
    rw [List.isPrefixOf_iff_prefix]
    exact List.prefix_append _ _
  simp [nameAt?, placeholder, hprefix, htake, hne]

theorem nameAt?_eq_some {cs name : List Char} (h : nameAt? cs = some name) :
    IsName name ∧ ∃ rest, cs = placeholder name ++ rest := by
  simp only [nameAt?, Option.ite_none_right_eq_some, Bool.and_eq_true, decide_eq_true_eq,
    Option.some.injEq, List.isPrefixOf_iff_prefix] at h
  obtain ⟨⟨body, rfl⟩, ⟨hne, hclose⟩, hname⟩ := h
  rw [List.drop_left] at hne hclose hname
  rw [hname] at hne hclose
  have hchars : ∀ c ∈ name, isNameChar c = true := by
    intro c hc
    rw [← hname] at hc
    exact List.mem_takeWhile_imp hc
  obtain ⟨rest, hrest⟩ := List.head?_eq_some_iff.mp hclose
  have hprefix : name <+: body := by
    rw [← hname]
    exact List.takeWhile_prefix isNameChar
  have hbody := List.prefix_append_drop hprefix
  refine ⟨(isName_iff name).mpr ⟨by simpa using hne, hchars⟩, rest, ?_⟩
  rw [hbody, hrest]
  simp [placeholder]

theorem nameAt?_eq_none_iff (cs : List Char) : nameAt? cs = none ↔ ¬ Opens cs := by
  constructor
  · rintro h ⟨name, rest, hname, rfl⟩
    simp [nameAt?_placeholder hname] at h
  · intro h
    cases hat : nameAt? cs with
    | none => rfl
    | some name =>
        obtain ⟨hname, hrest⟩ := nameAt?_eq_some hat
        exact absurd ⟨name, hrest.choose, hname, hrest.choose_spec⟩ h

theorem not_opens_of_ne {c : Char} (h : c ≠ '$') (cs : List Char) : ¬ Opens (c :: cs) := by
  rintro ⟨name, rest, -, heq⟩
  rw [placeholder_append] at heq
  exact h (List.head_eq_of_cons_eq heq)

/-! ### Reading from the left -/

theorem scan_append (skipped rest : List Char) :
    scan skipped.length (skipped ++ rest) = scan 0 rest := by
  induction skipped with
  | nil => rfl
  | cons c skipped ih => simpa [scan] using ih

@[simp]
theorem scan_nil : scan 0 [] = [] :=
  rfl

theorem scan_placeholder {name : List Char} (h : IsName name) (rest : List Char) :
    scan 0 (placeholder name ++ rest) = .placeholder name :: scan 0 rest := by
  have hat := nameAt?_placeholder h rest
  rw [placeholder_append] at hat ⊢
  simp only [scan, hat]
  rw [← length_placeholderTail, scan_append]

theorem scan_char {c : Char} {cs : List Char} (h : ¬ Opens (c :: cs)) :
    scan 0 (c :: cs) = .char c :: scan 0 cs := by
  rw [scan, (nameAt?_eq_none_iff _).mpr h]

/-- The cases of a text that is read from the left: it is empty, it starts with a placeholder, or
with a character that none starts at. -/
@[elab_as_elim]
theorem readingInduction {motive : List Char → Prop} (nil : motive [])
    (char : ∀ c cs, ¬ Opens (c :: cs) → motive cs → motive (c :: cs))
    (passing : ∀ name rest, IsName name → motive rest → motive (placeholder name ++ rest))
    (cs : List Char) : motive cs := by
  induction hn : cs.length using Nat.strong_induction_on generalizing cs with
  | _ n ih =>
    by_cases hopens : Opens cs
    · obtain ⟨name, rest, hname, rfl⟩ := hopens
      apply passing name rest hname
      refine ih rest.length ?_ rest rfl
      rw [← hn, placeholder_append, List.length_cons, List.length_append]
      omega
    · cases cs with
      | nil => exact nil
      | cons c cs =>
          apply char c cs hopens
          exact ih cs.length (by simp [← hn]) cs rfl

/-! ### Passages between placeholders -/

/-- No placeholder starts inside a passage that the rest of the text follows. -/
def Plain (passage rest : List Char) : Prop :=
  ∀ front back, passage = front ++ back → back ≠ [] → ¬ Opens (back ++ rest)

theorem plain_nil (rest : List Char) : Plain [] rest := by
  intro front back heq hne
  simp_all

theorem plain_cons_iff (c : Char) (cs rest : List Char) :
    Plain (c :: cs) rest ↔ ¬ Opens (c :: (cs ++ rest)) ∧ Plain cs rest := by
  constructor
  · intro h
    refine ⟨h [] (c :: cs) rfl (by simp), ?_⟩
    intro front back heq
    exact h (c :: front) back (by simp [heq])
  · rintro ⟨hhead, htail⟩ front back heq hne
    cases front with
    | nil =>
        rw [List.nil_append] at heq
        simpa [← heq] using hhead
    | cons _ front => exact htail front back (List.cons.inj heq).2 hne

theorem plain_of_notMem {passage : List Char} (h : '$' ∉ passage) (rest : List Char) :
    Plain passage rest := by
  induction passage with
  | nil => exact plain_nil rest
  | cons c cs ih =>
      simp only [List.mem_cons, not_or] at h
      exact (plain_cons_iff c cs rest).mpr ⟨not_opens_of_ne (Ne.symm h.1) _, ih h.2⟩

theorem scan_of_plain {passage rest : List Char} (h : Plain passage rest) :
    scan 0 (passage ++ rest) = passage.map .char ++ scan 0 rest := by
  induction passage with
  | nil => rfl
  | cons c cs ih =>
      obtain ⟨hhead, htail⟩ := (plain_cons_iff c cs rest).mp h
      rw [List.cons_append, scan_char hhead, ih htail]
      rfl

theorem scan_of_plain_nil {cs : List Char} (h : Plain cs []) : scan 0 cs = cs.map .char := by
  simpa using scan_of_plain h

/-- A text is plain exactly if no placeholder stands in it. -/
theorem plain_iff (cs : List Char) :
    Plain cs [] ↔ ∀ name, IsName name → ¬ placeholder name <:+: cs := by
  constructor
  · rintro h name hname ⟨front, rest, rfl⟩
    refine h front (placeholder name ++ rest) (by simp) (by simp [placeholder_eq]) ?_
    exact ⟨name, rest, hname, by simp⟩
  · rintro h front back rfl - ⟨name, rest, hname, heq⟩
    refine h name hname ⟨front, rest, ?_⟩
    rw [List.append_nil] at heq
    simp [heq]

/-- A placeholder's name, and the text between the placeholder before it and this one. -/
structure Passage where
  text : List Char
  name : List Char

/-- The split of a text at its placeholders, each the first that stands in what is left: the
passages with their names, then the text after the last placeholder. -/
inductive Split : List Char → List Passage → List Char → Prop where
  | last {cs : List Char} (plain : Plain cs []) : Split cs [] cs
  | next {text name rest : List Char} {parts : List Passage} {last : List Char}
      (plain : Plain text (placeholder name ++ rest)) (isName : IsName name)
      (others : Split rest parts last) :
      Split (text ++ (placeholder name ++ rest)) (⟨text, name⟩ :: parts) last

/-- The passages that pieces come from, and the text after the last placeholder. -/
def passages : List Piece → List Passage × List Char
  | [] => ([], [])
  | .char c :: rest =>
    match passages rest with
    | ([], last) => ([], c :: last)
    | (p :: parts, last) => ({ p with text := c :: p.text } :: parts, last)
  | .placeholder name :: rest => (⟨[], name⟩ :: (passages rest).1, (passages rest).2)

theorem passages_chars (cs : List Char) : passages (cs.map .char) = ([], cs) := by
  induction cs with
  | nil => rfl
  | cons c cs ih => simp [passages, ih]

theorem passages_append (text name : List Char) (rest : List Piece) :
    passages (text.map .char ++ .placeholder name :: rest) =
      (⟨text, name⟩ :: (passages rest).1, (passages rest).2) := by
  induction text with
  | nil => rfl
  | cons c cs ih => simp [passages, ih]

theorem Split.passages_eq {cs last : List Char} {parts : List Passage}
    (h : Split cs parts last) : passages (scan 0 cs) = (parts, last) := by
  induction h with
  | last plain => rw [scan_of_plain_nil plain, passages_chars]
  | next plain isName others ih =>
      rw [scan_of_plain plain, scan_placeholder isName, passages_append, ih]

theorem split_passages (cs : List Char) :
    Split cs (passages (scan 0 cs)).1 (passages (scan 0 cs)).2 := by
  induction cs using readingInduction with
  | nil => exact .last (plain_nil [])
  | char c cs hchar ih =>
      rw [scan_char hchar, passages]
      generalize passages (scan 0 cs) = found at ih ⊢
      obtain ⟨parts, last⟩ := found
      cases ih with
      | last plain => exact .last ((plain_cons_iff _ _ _).mpr ⟨by simpa using hchar, plain⟩)
      | next plain isName others =>
          exact .next ((plain_cons_iff _ _ _).mpr ⟨hchar, plain⟩) isName others
  | passing name rest hname ih =>
      rw [scan_placeholder hname]
      exact .next (plain_nil _) hname ih

/-- A text has one split, the one that it is read with. -/
theorem split_iff (cs : List Char) (parts : List Passage) (last : List Char) :
    Split cs parts last ↔ passages (scan 0 cs) = (parts, last) := by
  refine ⟨Split.passages_eq, ?_⟩
  intro h
  simpa only [h] using split_passages cs

/-! ### Resolving -/

/-- The store has a value for a name, which is not empty. -/
def Store.Known (store : Store) (name : List Char) (value : String) : Prop :=
  Table.get? store (String.ofList name) = some value ∧ value ≠ ""

theorem value?_eq_some_iff (store : Store) (name : List Char) (value : String) :
    Store.value? store (String.ofList name) = some value ↔ store.Known name value := by
  simp [Store.value?, Store.Known, Option.filter_eq_some_iff]

theorem value?_eq_none_iff (store : Store) (name : List Char) :
    Store.value? store (String.ofList name) = none ↔ ∀ value, ¬ store.Known name value := by
  simp [Option.eq_none_iff_forall_ne_some, ← value?_eq_some_iff]

/-- The passages of a text with a value after each, then the rest. -/
def fill (value : List Char → String) (parts : List Passage) (last : List Char) : List Char :=
  parts.flatMap (fun p => p.text ++ (value p.name).toList) ++ last

/-- What a text with these passages resolves to: the text filled with the values of all names, or
a failure with the first name that has none. -/
inductive Resolved (store : Store) (parts : List Passage) (last : List Char) :
    Except Failure String → Prop where
  | filled (value : List Char → String)
      (known : ∀ p ∈ parts, store.Known p.name (value p.name)) :
      Resolved store parts last (.ok (String.ofList (fill value parts last)))
  | missing (front : List Passage) (p : Passage) (back : List Passage)
      (place : parts = front ++ p :: back)
      (known : ∀ q ∈ front, ∃ value, store.Known q.name value)
      (unknown : ∀ value, ¬ store.Known p.name value) :
      Resolved store parts last (.error (.missingSecret (String.ofList p.name)))

theorem resolvePieces_chars (store : Store) (cs : List Char) (rest : List Piece) :
    resolvePieces store (cs.map .char ++ rest) = (resolvePieces store rest).map (cs ++ ·) := by
  induction cs with
  | nil => cases h : resolvePieces store rest <;> simp [h, Except.map]
  | cons c cs ih =>
      simp only [List.map_cons, List.cons_append, resolvePieces, ih]
      cases resolvePieces store rest <;> rfl

theorem resolvePieces_known {store : Store} {name : List Char} {value : String}
    (h : store.Known name value) (rest : List Piece) :
    resolvePieces store (.placeholder name :: rest) =
      (resolvePieces store rest).map (value.toList ++ ·) := by
  simp only [resolvePieces, (value?_eq_some_iff store name value).mpr h]
  cases resolvePieces store rest <;> rfl

theorem resolvePieces_unknown {store : Store} {name : List Char}
    (h : ∀ value, ¬ store.Known name value) (rest : List Piece) :
    resolvePieces store (.placeholder name :: rest) =
      .error (.missingSecret (String.ofList name)) := by
  simp only [resolvePieces, (value?_eq_none_iff store name).mpr h]

theorem Split.resolvePieces_eq_ok {store : Store} {cs last : List Char} {parts : List Passage}
    {value : List Char → String} (h : Split cs parts last)
    (known : ∀ p ∈ parts, store.Known p.name (value p.name)) :
    resolvePieces store (scan 0 cs) = .ok (fill value parts last) := by
  induction h with
  | @last cs plain =>
      have hscan : scan 0 cs = cs.map .char ++ [] := by simp [scan_of_plain_nil plain]
      rw [hscan, resolvePieces_chars]
      simp [resolvePieces, fill, Except.map]
  | next plain isName others ih =>
      simp only [List.forall_mem_cons] at known
      rw [scan_of_plain plain, scan_placeholder isName, resolvePieces_chars,
        resolvePieces_known known.1, ih known.2]
      simp [fill, Except.map]

theorem Split.resolvePieces_eq_error {store : Store} {cs last : List Char}
    {front back : List Passage} {p : Passage} (h : Split cs (front ++ p :: back) last)
    (known : ∀ q ∈ front, ∃ value, store.Known q.name value)
    (unknown : ∀ value, ¬ store.Known p.name value) :
    resolvePieces store (scan 0 cs) = .error (.missingSecret (String.ofList p.name)) := by
  induction front generalizing cs with
  | nil =>
      cases h with
      | next plain isName others =>
          rw [scan_of_plain plain, scan_placeholder isName, resolvePieces_chars,
            resolvePieces_unknown unknown]
          rfl
  | cons q front ih =>
      simp only [List.forall_mem_cons] at known
      obtain ⟨⟨value, hvalue⟩, hfront⟩ := known
      cases h with
      | next plain isName others =>
          rw [scan_of_plain plain, scan_placeholder isName, resolvePieces_chars,
            resolvePieces_known hvalue, ih others hfront]
          rfl

/-- Either every name has a value or one is the first without. -/
theorem known_or_missing (store : Store) (parts : List Passage) :
    (∀ p ∈ parts, ∃ value, store.Known p.name value) ∨
      ∃ front p back, parts = front ++ p :: back ∧
        (∀ q ∈ front, ∃ value, store.Known q.name value) ∧
        ∀ value, ¬ store.Known p.name value := by
  induction parts with
  | nil => simp
  | cons p parts ih =>
      by_cases hp : ∃ value, store.Known p.name value
      · cases ih with
        | inl hall =>
            exact .inl (List.forall_mem_cons.mpr ⟨hp, hall⟩)
        | inr hsome =>
            obtain ⟨front, q, back, rfl, hfront, hq⟩ := hsome
            exact .inr ⟨p :: front, q, back, rfl, List.forall_mem_cons.mpr ⟨hp, hfront⟩, hq⟩
      · exact .inr ⟨[], p, parts, rfl, by simp, by simpa using hp⟩

theorem Split.resolved {s : String} {parts : List Passage} {last : List Char}
    (h : Split s.toList parts last) (store : Store) :
    Resolved store parts last (resolve store s) := by
  cases known_or_missing store parts with
  | inl hall =>
      let value (name : List Char) := (Store.value? store (String.ofList name)).getD ""
      have hknown : ∀ p ∈ parts, store.Known p.name (value p.name) := by
        intro p hp
        obtain ⟨v, hv⟩ := hall p hp
        simpa [value, (value?_eq_some_iff store p.name v).mpr hv] using hv
      rw [resolve, pieces, h.resolvePieces_eq_ok hknown]
      exact .filled value hknown
  | inr hsome =>
      obtain ⟨front, p, back, hplace, hfront, hp⟩ := hsome
      subst hplace
      rw [resolve, pieces, h.resolvePieces_eq_error hfront hp]
      exact .missing front p back rfl hfront hp

/-- Every text splits in one way at the placeholders found from the left, and resolves to its
passages with each name's value between them, put in as it is, or fails with the first name whose
value is missing or empty. Without placeholders it stays as it is, whatever the store. -/
theorem resolves_as_split (s : String) :
    (∃ parts last, Split s.toList parts last ∧
      (∀ parts' last', Split s.toList parts' last' → parts' = parts ∧ last' = last) ∧
      ∀ store, Resolved store parts last (resolve store s)) ∧
    ((∀ name, IsName name → ¬ placeholder name <:+: s.toList) →
      ∀ store, resolve store s = .ok s) := by
  constructor
  · rcases hfound : passages (scan 0 s.toList) with ⟨parts, last⟩
    have hsplit := (split_iff _ _ _).mpr hfound
    refine ⟨parts, last, hsplit, ?_, hsplit.resolved⟩
    intro parts' last' h
    rw [split_iff, hfound] at h
    obtain ⟨rfl, rfl⟩ := Prod.mk.inj h
    exact ⟨rfl, rfl⟩
  · intro hnone store
    have hsplit : Split s.toList [] s.toList := .last ((plain_iff _).mpr hnone)
    have hpieces : resolvePieces store (scan 0 s.toList) = .ok (fill (fun _ => "") [] s.toList) :=
      hsplit.resolvePieces_eq_ok (by simp)
    rw [resolve, pieces, hpieces]
    simp [fill]

/-- A value that looks like a placeholder is not resolved, nor what it forms with the text around. -/
example : resolve [("A", "$\x7bSECRET:B\x7d"), ("B", "b")] "$\x7bSECRET:$\x7bSECRET:A\x7d\x7d" =
    .ok "$\x7bSECRET:$\x7bSECRET:B\x7d\x7d" :=
  rfl

end Walkthrough.Secret
