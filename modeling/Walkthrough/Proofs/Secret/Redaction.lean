import Walkthrough.Proofs.Secret
import Walkthrough.Proofs.Table

/-! # Redacted texts

Hiding the names of placeholders is the resolution under a store that hides each of them. It leaves
no placeholder, so it changes nothing when it is done again, and tells nothing of the names. -/

namespace Walkthrough.Secret

/-- The characters of a text with all names hidden. -/
def redactChars (cs : List Char) : List Char :=
  (scan 0 cs).flatMap redactPiece

theorem redact_eq (s : String) : redact s = String.ofList (redactChars s.toList) :=
  rfl

theorem redactChars_char {c : Char} {cs : List Char} (h : ¬ Opens (c :: cs)) :
    redactChars (c :: cs) = c :: redactChars cs := by
  simp [redactChars, scan_char h, redactPiece]

theorem redactChars_placeholder {name : List Char} (h : IsName name) (rest : List Char) :
    redactChars (placeholder name ++ rest) = hidden ++ redactChars rest := by
  simp [redactChars, scan_placeholder h, redactPiece]

theorem redactChars_of_plain {passage rest : List Char} (h : Plain passage rest) :
    redactChars (passage ++ rest) = passage ++ redactChars rest := by
  simp [redactChars, scan_of_plain h, List.flatMap_map, redactPiece]

theorem redactChars_of_plain_nil {cs : List Char} (h : Plain cs []) : redactChars cs = cs := by
  simpa [redactChars] using redactChars_of_plain h

/-! ### Redaction as resolution -/

theorem Split.redactChars_eq {cs last : List Char} {parts : List Passage}
    (h : Split cs parts last) :
    redactChars cs = fill (fun _ => String.ofList hidden) parts last := by
  induction h with
  | last plain => simp [redactChars_of_plain_nil plain, fill]
  | next plain isName others ih =>
      rw [redactChars_of_plain plain, redactChars_placeholder isName, ih]
      simp [fill]

theorem hidden_ne_empty : String.ofList hidden ≠ "" := by
  simp [hidden, placeholder_eq]

/-- The store has what hides a placeholder under each name of a text. -/
def Store.Hides (store : Store) (parts : List Passage) : Prop :=
  ∀ p ∈ parts, Table.get? store (String.ofList p.name) = some (String.ofList hidden)

/-- The store with nothing else. -/
def hidingStore (parts : List Passage) : Store :=
  parts.map fun p => (String.ofList p.name, String.ofList hidden)

theorem hides_hidingStore (parts : List Passage) : (hidingStore parts).Hides parts := by
  intro p h
  induction parts with
  | nil => cases h
  | cons q parts ih =>
      by_cases hname : String.ofList q.name = String.ofList p.name
      · simp [hidingStore, hname]
      · have hmem : p ∈ parts := by
          cases h with
          | head => exact absurd rfl hname
          | tail _ hmem => exact hmem
        rw [hidingStore, List.map_cons, Table.get?_cons_of_ne hname, ← hidingStore, ih hmem]

theorem Split.resolve_eq_redact {s : String} {parts : List Passage} {last : List Char}
    (h : Split s.toList parts last) {store : Store} (hides : store.Hides parts) :
    resolve store s = .ok (redact s) := by
  have hpieces : resolvePieces store (scan 0 s.toList) =
      .ok (fill (fun _ => String.ofList hidden) parts last) :=
    h.resolvePieces_eq_ok fun p hp => ⟨hides p hp, hidden_ne_empty⟩
  rw [resolve, pieces, hpieces, redact_eq, h.redactChars_eq]

/-! ### No placeholder is left -/

theorem plain_hidden (rest : List Char) : Plain hidden rest := by
  rw [hidden, placeholder_eq, plain_cons_iff]
  refine ⟨?_, plain_of_notMem (by simp [placeholderTail, opening_eq]) rest⟩
  rw [← nameAt?_eq_none_iff]
  rfl

theorem plain_append {front back rest : List Char} (hfront : Plain front (back ++ rest))
    (hback : Plain back rest) : Plain (front ++ back) rest := by
  induction front with
  | nil => exact hback
  | cons c cs ih =>
      obtain ⟨hhead, htail⟩ := (plain_cons_iff _ _ _).mp hfront
      rw [List.cons_append, plain_cons_iff]
      exact ⟨by simpa using hhead, ih htail⟩

/-- What a redacted text starts with, up to its first dollar sign, the text itself starts with. -/
theorem prefix_of_redactChars {p cs : List Char} (hp : '$' ∉ p) (h : p <+: redactChars cs) :
    p <+: cs := by
  induction cs using readingInduction generalizing p with
  | nil => exact h
  | char c cs hchar ih =>
      rw [redactChars_char hchar] at h
      cases p with
      | nil => exact List.nil_prefix
      | cons d p =>
          simp only [List.mem_cons, not_or] at hp
          rw [List.cons_prefix_cons] at h ⊢
          exact ⟨h.1, ih hp.2 h.2⟩
  | passing name rest hname ih =>
      rw [redactChars_placeholder hname, hidden, placeholder_eq] at h
      cases p with
      | nil => exact List.nil_prefix
      | cons d p =>
          rw [List.cons_append, List.cons_prefix_cons] at h
          simp [h.1] at hp

theorem plain_redactChars (cs : List Char) : Plain (redactChars cs) [] := by
  induction cs using readingInduction with
  | nil => exact plain_nil []
  | char c cs hchar ih =>
      rw [redactChars_char hchar, plain_cons_iff]
      refine ⟨?_, ih⟩
      -- a placeholder here would have to be one of the text already, by its tail
      rintro ⟨name, rest, hname, heq⟩
      rw [List.append_nil, placeholder_append] at heq
      obtain ⟨rfl, htail⟩ := List.cons.inj heq
      obtain ⟨rest', rfl⟩ := prefix_of_redactChars hname.notMem_placeholderTail ⟨rest, htail.symm⟩
      exact hchar ⟨name, rest', hname, rfl⟩
  | passing name rest hname ih =>
      rw [redactChars_placeholder hname]
      exact plain_append (plain_hidden _) ih

theorem redactChars_redactChars (cs : List Char) :
    redactChars (redactChars cs) = redactChars cs :=
  redactChars_of_plain_nil (plain_redactChars cs)

/-! ### Nothing of the names is left -/

/-- Two texts that differ only in the names inside their placeholders. -/
inductive SameButNames : List Char → List Char → Prop where
  | nil : SameButNames [] []
  | char (c : Char) {cs ds : List Char} (rest : SameButNames cs ds) :
      SameButNames (c :: cs) (c :: ds)
  | renamed {name name' cs ds : List Char} (isName : IsName name) (isName' : IsName name')
      (rest : SameButNames cs ds) :
      SameButNames (placeholder name ++ cs) (placeholder name' ++ ds)

theorem SameButNames.symm {cs ds : List Char} (h : SameButNames cs ds) : SameButNames ds cs := by
  induction h with
  | nil => exact .nil
  | char c _ ih => exact .char c ih
  | renamed isName isName' _ ih => exact .renamed isName' isName ih

theorem SameButNames.exists_append {p cs ds : List Char} (h : SameButNames (p ++ cs) ds)
    (hp : '$' ∉ p) : ∃ ds', ds = p ++ ds' := by
  induction p generalizing ds with
  | nil => exact ⟨ds, rfl⟩
  | cons c p ih =>
      simp only [List.mem_cons, not_or] at hp
      generalize htext : c :: p ++ cs = text at h
      cases h with
      | nil => cases htext
      | char d rest =>
          obtain ⟨rfl, rfl⟩ := List.cons.inj htext
          obtain ⟨ds', rfl⟩ := ih rest hp.2
          exact ⟨ds', rfl⟩
      | renamed isName isName' rest =>
          rw [placeholder_append] at htext
          exact absurd (List.cons.inj htext).1.symm hp.1

theorem SameButNames.exists_placeholder {c : Char} {cs ds : List Char} (h : SameButNames cs ds)
    (hopens : Opens (c :: cs)) :
    ∃ name rest rest', IsName name ∧
      c :: cs = placeholder name ++ rest ∧ c :: ds = placeholder name ++ rest' := by
  obtain ⟨name, rest, hname, heq⟩ := hopens
  rw [placeholder_append] at heq
  obtain ⟨rfl, rfl⟩ := List.cons.inj heq
  obtain ⟨rest', rfl⟩ := h.exists_append hname.notMem_placeholderTail
  exact ⟨name, rest, rest', hname, (placeholder_append _ _).symm, (placeholder_append _ _).symm⟩

theorem SameButNames.redactChars_eq {cs ds : List Char} (h : SameButNames cs ds) :
    redactChars cs = redactChars ds := by
  induction h with
  | nil => rfl
  | renamed isName isName' _ ih =>
      rw [redactChars_placeholder isName, redactChars_placeholder isName', ih]
  | @char c cs ds rest ih =>
      by_cases hopens : Opens (c :: cs)
      · obtain ⟨name, rest, rest', hname, hcs, hds⟩ := rest.exists_placeholder hopens
        rw [hcs, hds, redactChars_placeholder hname, redactChars_placeholder hname]
        -- the tail of the placeholder is plain in both, so what follows it redacts to the same
        have htail := hname.notMem_placeholderTail
        rw [placeholder_append] at hcs hds
        rw [(List.cons.inj hcs).2, (List.cons.inj hds).2,
          redactChars_of_plain (plain_of_notMem htail _),
          redactChars_of_plain (plain_of_notMem htail _)] at ih
        rw [List.append_cancel_left ih]
      · have hopens' : ¬ Opens (c :: ds) := by
          intro h
          obtain ⟨name, -, rest', hname, -, hcs⟩ := rest.symm.exists_placeholder h
          exact hopens ⟨name, rest', hname, hcs⟩
        rw [redactChars_char hopens, redactChars_char hopens', ih]

/-- For every text: redacting is resolving with a store that has what hides a placeholder under each
of its names, and there is one; no placeholder is left; redacting again changes nothing; and a text
that differs only in names redacts to the same. -/
theorem redacts_completely (s : String) :
    (∃ parts last, Split s.toList parts last ∧ (∃ store : Store, store.Hides parts) ∧
      ∀ store : Store, store.Hides parts → resolve store s = .ok (redact s)) ∧
    (∀ name, IsName name → ¬ placeholder name <:+: (redact s).toList) ∧
    redact (redact s) = redact s ∧
    ∀ t : String, SameButNames s.toList t.toList → redact t = redact s := by
  refine ⟨?_, ?_, ?_, ?_⟩
  · have hsplit := split_passages s.toList
    exact ⟨_, _, hsplit, ⟨_, hides_hidingStore _⟩, fun store => hsplit.resolve_eq_redact⟩
  · rw [redact_eq, String.toList_ofList]
    exact (plain_iff _).mp (plain_redactChars _)
  · simp [redact_eq, redactChars_redactChars]
  · intro t h
    rw [redact_eq, redact_eq, h.redactChars_eq]

end Walkthrough.Secret
