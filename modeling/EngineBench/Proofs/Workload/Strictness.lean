import EngineBench.Proofs.Workload.Settlement

namespace EngineBench

open Catalog (Entry)

theorem forall₂_middle_iff {α β : Type} {R : α → β → Prop} {before after : List α} {a : α}
    {r : List β} : List.Forall₂ R (before ++ a :: after) r ↔ ∃ bs b cs, r = bs ++ b :: cs ∧
      List.Forall₂ R before bs ∧ R a b ∧ List.Forall₂ R after cs := by
  constructor
  case mp =>
    intro h
    induction before generalizing r
    case nil =>
      obtain ⟨b, cs, hb, hc, rfl⟩ := List.forall₂_cons_left_iff.mp h
      exact ⟨[], b, cs, rfl, .nil, hb, hc⟩
    case cons hi =>
      obtain ⟨d, r, hd, hr, rfl⟩ := List.forall₂_cons_left_iff.mp h
      obtain ⟨bs, b, cs, rfl, hb, h⟩ := hi hr
      exact ⟨d :: bs, b, cs, rfl, .cons hd hb, h⟩
  case mpr =>
    rintro ⟨bs, b, cs, rfl, hb, h, hc⟩
    exact List.rel_append hb (.cons h hc)

namespace CatalogFile

variable {x x' : Toml.Value} {t t' : Toml.Entries} {e e' : Entry} {raw : Raw}
variable {text : String} {overrides : Overrides} {read : String → Option Toml.Entries}

theorem Replaces.symm (h : Replaces x x' t t') : Replaces x' x t' t := by
  cases h
  case intro h h' => exact .intro h' h

-- What stands in a list of a document that decodes is an entry, and any other way to write down the
-- same entry would do.
theorem Replaces.writes (h : Replaces x x' t t') (hd : Decodes t raw) :
    ∃ e, Writes e x ∧ (Writes e x' → Decodes t' raw) := by
  cases h
  case intro hv hv' =>
    obtain ⟨bs, b, cs, rfl, ha, ⟨hn, vs, hs, hw⟩, hb⟩ := forall₂_middle_iff.mp hd
    cases Option.some.inj (hv.symm.trans hs)
    obtain ⟨es, e, fs, he, hf, hx, hg⟩ := forall₂_middle_iff.mp hw
    refine ⟨e, hx, fun hx' => forall₂_middle_iff.mpr ⟨bs, b, cs, rfl, ha, ⟨hn, _, hv', ?_⟩, hb⟩⟩
    exact forall₂_middle_iff.mpr ⟨es, e, fs, he, hf, hx', hg⟩

-- A table has as many keys as an entry has fields.
theorem AddsKey.not_writes (h : AddsKey x x') (hw : Writes e x) : ¬Writes e' x' := by
  intro hw'
  cases h
  cases hw
  cases hw'
  case intro.table.table hp hp' =>
    have hl := hp.length_eq
    have hl' := hp'.length_eq
    simp only [List.length_append, List.length_cons, fields, List.length_nil] at hl hl'
    omega

theorem AddsElement.writes (h : AddsElement x x') (hw : Writes e x) : Writes e x' := by
  cases h
  cases hw
  exact .list

theorem exists_decodes (hr : Toml.ReadsDistinct read) (h : parseWith read text = .ok overrides) :
    ∃ t raw, read text = some t ∧ Decodes t raw := by
  refine Classical.byContradiction fun hn => ?_
  have hp := parseWith_of_not_decodes hr fun t raw ht hd => hn ⟨t, raw, ht, hd⟩
  cases h.symm.trans hp

-- What is accepted is a document of entries and nothing else, but for lists that go on after their
-- three values: one more key in a table is refused, one more element at the end of a list changes
-- nothing. What the text is read with does not matter, as long as it leaves no name twice.
theorem accepted_tables_exact_lists_open (hp : Toml.ReadsDistinct read)
    (h : parseWith read text = .ok overrides) :
    ∃ t raw, read text = some t ∧ Decodes t raw ∧
      ∀ x x' text' t', read text' = some t' → Replaces x x' t t' →
        (AddsKey x x' → parseWith read text' = .error .malformedCatalog) ∧
        (AddsElement x x' → parseWith read text' = .ok overrides) := by
  have ⟨t, raw, ht, hd⟩ := exists_decodes hp h
  refine ⟨t, raw, ht, hd, fun x x' text' t' ht' hr => ?_⟩
  have ⟨e, hx, hx'⟩ := hr.writes hd
  refine ⟨fun ha => ?key, fun ha => ?element⟩
  case key =>
    refine parseWith_of_not_decodes hp fun t₂ raw' ht₂ hd' => ?_
    cases Option.some.inj (ht'.symm.trans ht₂)
    have ⟨e', hw, _⟩ := hr.symm.writes hd'
    exact ha.not_writes hx hw
  case element =>
    rw [parseWith_of_decodes hp ht' (hx' (ha.writes hx)), ← h, parseWith_of_decodes hp ht hd]

-- A list and a table, then one more element in the list, then one more key in the table.
theorem accepted_tables_exact_lists_open_scan :
    ∃ overrides,
      parse "scan = [[\"8\",\"w\",1], \x7blabel = \"9\", workload = \"w\", iterations = 2\x7d]" =
        .ok overrides ∧
      parse "scan = [[\"8\",\"w\",1,1], \x7blabel = \"9\", workload = \"w\", iterations = 2\x7d]" =
        .ok overrides ∧
      parse "scan = [[\"8\",\"w\",1], \x7bx=1, label = \"9\", workload = \"w\", iterations = 2\x7d]" =
        .error .malformedCatalog := by
  have ht : Toml.parse?
      "scan = [[\"8\",\"w\",1], \x7blabel = \"9\", workload = \"w\", iterations = 2\x7d]" =
    some [("scan", .array [.array [.string "8", .string "w", .integer 1],
      .table .inline (fields ⟨"9", ⟨"w"⟩, 2⟩)])] := by decide +kernel
  have he : Toml.parse?
      "scan = [[\"8\",\"w\",1,1], \x7blabel = \"9\", workload = \"w\", iterations = 2\x7d]" =
    some [("scan", .array [.array ([.string "8", .string "w", .integer 1] ++ [.integer 1]),
      .table .inline (fields ⟨"9", ⟨"w"⟩, 2⟩)])] := by decide +kernel
  have hk : Toml.parse?
      "scan = [[\"8\",\"w\",1], \x7bx=1, label = \"9\", workload = \"w\", iterations = 2\x7d]" =
    some [("scan", .array [.array [.string "8", .string "w", .integer 1],
      .table .inline (("x", .integer 1) :: fields ⟨"9", ⟨"w"⟩, 2⟩)])] := by decide +kernel
  have hd : Decodes [("scan", .array [.array [.string "8", .string "w", .integer 1],
      .table .inline (fields ⟨"9", ⟨"w"⟩, 2⟩)])] [("scan", [⟨"8", ⟨"w"⟩, 1⟩, ⟨"9", ⟨"w"⟩, 2⟩])] :=
    .cons ⟨rfl, _, rfl, .cons .list (.cons (.table (.refl _)) .nil)⟩ .nil
  have ⟨overrides, ho⟩ :=
    (settles_of_decodes Toml.parse?_distinct ht hd).ok_iff.mpr (by simp [Runs])
  have ⟨t, raw, ht', hd', hs⟩ := accepted_tables_exact_lists_open Toml.parse?_distinct ho
  cases Option.some.inj (ht.symm.trans ht')
  refine ⟨overrides, ho, ?element, ?key⟩
  case element =>
    exact (hs _ _ _ _ he (@Replaces.intro _ _ [] _ [] _ _ [] _ rfl rfl)).2 .intro
  case key =>
    exact (hs _ _ _ _ hk (@Replaces.intro _ _ [_] [] [] _ _ [] _ rfl rfl)).1
      (@AddsKey.intro _ [] (fields _) _)

-- A list of four elements is accepted, though its last element is no part of an entry.
theorem list_of_four_accepted :
    Toml.parse? "scan = [[\"10\", \"t10.dsl\", 3, true]]" = some [("scan", .array
      [.array [.string "10", .string "t10.dsl", .integer 3, .boolean true]])] ∧
    ∃ overrides, parse "scan = [[\"10\", \"t10.dsl\", 3, true]]" = .ok overrides := by
  have ht : Toml.parse? "scan = [[\"10\", \"t10.dsl\", 3, true]]" = some [("scan", .array
    [.array [.string "10", .string "t10.dsl", .integer 3, .boolean true]])] := by decide +kernel
  have hd : Decodes [("scan", .array
      [.array [.string "10", .string "t10.dsl", .integer 3, .boolean true]])]
      [("scan", [⟨"10", ⟨"t10.dsl"⟩, 3⟩])] := .cons ⟨rfl, _, rfl, .cons .list .nil⟩ .nil
  exact ⟨ht, (settles_of_decodes Toml.parse?_distinct ht hd).ok_iff.mpr (by simp [Runs])⟩

end CatalogFile

end EngineBench
