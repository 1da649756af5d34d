import EngineBench.Proofs.Workload.CatalogFile
import EngineBench.Proofs.Workload.Decoding
import Mathlib.Data.List.Perm.Basic

namespace EngineBench

open Catalog (Entry scalesOf ofEntries)

namespace CatalogFile

variable {raw raw' : Raw} {t t' : Toml.Entries} {text text' : String}
  {read : String → Option Toml.Entries}

-- What comes of the entries of a document, benchmark by benchmark.
inductive Settles (raw : Raw) : Except Fault Overrides → Prop
  | read : (overrides.map listed).Perm raw →
    (named overrides).Pairwise (Text.bytes · < Text.bytes ·) → Settles raw (.ok overrides)
  | empty : (name, before ++ e :: after) ∈ raw → Runs before → e.iterations = 0 →
    (∀ b ∈ raw, ¬Runs b.2 → Text.bytes name ≤ Text.bytes b.1) →
    f.message = s!"Invalid catalog for benchmark '{name}'" →
    f.cause? = some s!"Workload scale '{e.label}' must run at least one iteration" →
    Settles raw (.error f)

theorem runs_cons {e : Entry} {entries : List Entry} :
    Runs (e :: entries) ↔ 0 < e.iterations ∧ Runs entries :=
  List.forall_mem_cons

theorem runs_entries (scales : List Scale) : Runs (scales.map Scale.entry) := by
  intro e he
  obtain ⟨s, _, rfl⟩ := List.mem_map.mp he
  exact s.runs

theorem entry_scale_cases (e : Entry) :
    (∃ s : Scale, e.scale = .ok s ∧ s.entry = e) ∨
      e.iterations = 0 ∧ e.scale = .error (.emptyScale e.label) := by
  by_cases h : 0 < e.iterations
  case pos =>
    exact .inl ⟨⟨e.label, e.workload, e.iterations, h⟩, by simp [Entry.scale, Scale.of?, h], rfl⟩
  case neg => exact .inr ⟨by omega, by simp [Entry.scale, Scale.of?, h]⟩

-- Either all entries run, or the first one that does not breaks off.
theorem scalesOf_cases (entries : List Entry) :
    (∃ scales, scalesOf entries = .ok scales ∧ scales.map Scale.entry = entries) ∨
      ∃ before e after, entries = before ++ e :: after ∧ Runs before ∧ e.iterations = 0 ∧
        scalesOf entries = .error (.emptyScale e.label) := by
  induction entries
  case nil => exact .inl ⟨[], rfl, rfl⟩
  case cons e rest hi =>
    simp only [scalesOf, bind, Except.bind, pure, Except.pure]
    obtain ⟨s, hs, he⟩ | ⟨hz, hs⟩ := entry_scale_cases e <;> simp only [hs]
    case inr => exact .inr ⟨[], e, rest, rfl, List.forall_mem_nil _, hz, rfl⟩
    case inl =>
      obtain ⟨scales, hr, hm⟩ | ⟨before, x, after, hx, hb, hz, hr⟩ := hi <;> simp only [hr]
      case inl => exact .inl ⟨s :: scales, rfl, by rw [List.map_cons, he, hm]⟩
      case inr =>
        have hp : 0 < e.iterations := he ▸ s.runs
        exact .inr ⟨e :: before, x, after, hx ▸ rfl, runs_cons.mpr ⟨hp, hb⟩, hz, rfl⟩

-- The same for benchmarks: the first one with such an entry breaks off.
theorem check_cases (raw : Raw) :
    (∃ overrides, check raw = .ok overrides ∧ overrides.map listed = raw) ∨
      ∃ above name before e after below, raw = above ++ (name, before ++ e :: after) :: below ∧
        (∀ b ∈ above, Runs b.2) ∧ Runs before ∧ e.iterations = 0 ∧
        check raw = .error (.invalidCatalog name e.label) := by
  induction raw
  case nil => exact .inl ⟨[], rfl, rfl⟩
  case cons b rest hi =>
    obtain ⟨name, entries⟩ := b
    simp only [check, catalogOf, ofEntries, bind, Except.bind, pure, Except.pure]
    obtain ⟨scales, hs, hm⟩ | ⟨before, e, after, hx, hb, hz, hs⟩ := scalesOf_cases entries <;>
      simp only [hs, Except.mapError]
    case inr =>
      exact .inr ⟨[], name, before, e, after, rest, hx ▸ rfl, List.forall_mem_nil _, hb, hz, rfl⟩
    case inl =>
      obtain ⟨overrides, hr, ho⟩ | ⟨above, n, before, e, after, below, hx, ha, hb, hz, hr⟩ := hi <;>
        simp only [hr]
      case inl =>
        exact .inl ⟨(name, ⟨scales⟩) :: overrides, rfl, by rw [List.map_cons, ho, listed, hm]⟩
      case inr =>
        have hp : Runs entries := hm ▸ runs_entries scales
        exact .inr ⟨(name, entries) :: above, n, before, e, after, below, hx ▸ rfl,
          List.forall_mem_cons.mpr ⟨hp, ha⟩, hb, hz, rfl⟩

theorem check_settles (h : (raw.map Prod.fst).Nodup) : Settles raw (check (sorted raw)) := by
  have hp : (sorted raw).Perm raw := List.mergeSort_perm ..
  have hs := sorted_names h
  obtain ⟨overrides, hr, ho⟩ | ⟨above, name, before, e, after, below, hx, ha, hb, hz, hr⟩ :=
    check_cases (sorted raw) <;> rw [hr]
  case inl => exact .read (ho ▸ hp) (check_names hr ▸ hs)
  case inr =>
    rw [hx] at hp hs
    refine .empty (hp.mem_iff.mp (List.mem_append_right _ (List.mem_cons_self ..))) hb hz ?_ rfl rfl
    intro b hm hn
    obtain hm | hm := List.mem_append.mp (hp.mem_iff.mpr hm)
    case inl => exact absurd (ha b hm) hn
    case inr =>
      obtain rfl | hm := List.mem_cons.mp hm
      case inl => exact List.le_refl _
      case inr =>
        rw [List.map_append, List.map_cons] at hs
        have hl := List.rel_of_pairwise_cons (List.pairwise_append.mp hs).2.1
          (List.mem_map_of_mem hm)
        exact List.le_of_lt hl

-- The names are distinct, so that the order of their bytes leaves no choice.
theorem sorted_eq_of_perm (h : (raw.map Prod.fst).Nodup) (hp : raw'.Perm raw) :
    sorted raw' = sorted raw := by
  have hs := List.pairwise_map.mp (sorted_names h)
  have hs' := List.pairwise_map.mp (sorted_names ((hp.map Prod.fst).nodup_iff.mpr h))
  have hp : (sorted raw').Perm (sorted raw) :=
    (List.mergeSort_perm raw' _).trans (hp.trans (List.mergeSort_perm raw _).symm)
  exact hp.eq_of_pairwise (fun _ _ _ _ hab hba => absurd hba (List.lt_asymm hab)) hs' hs

theorem ofTable?_perm (hp : t'.Perm t) (h : ofTable? t = some raw) :
    ∃ raw', ofTable? t' = some raw' ∧ raw'.Perm raw := by
  have hf := (mapM_eq_some_iff fun _ _ _ => Iff.rfl).mp h
  have ⟨raw', hf', hr⟩ := List.perm_comp_forall₂ hp hf
  exact ⟨raw', (mapM_eq_some_iff fun _ _ _ => Iff.rfl).mpr hf', hr⟩

theorem ofTable_perm (h : (Toml.Entries.keys t).Nodup) (hp : t'.Perm t) :
    ofTable t' = ofTable t := by
  cases hr : ofTable? t
  case some raw =>
    obtain ⟨raw', hr', hp⟩ := ofTable?_perm hp hr
    simp only [ofTable, hr, hr']
    rw [sorted_eq_of_perm (ofTable?_names hr ▸ h) hp]
  case none =>
    cases hr' : ofTable? t'
    case none => simp only [ofTable, hr, hr']
    case some raw' =>
      obtain ⟨_, hn, _⟩ := ofTable?_perm hp.symm hr'
      cases hr.symm.trans hn

theorem Settles.ok_iff {result : Except Fault Overrides} (h : Settles raw result) :
    (∃ overrides, result = .ok overrides) ↔ ∀ b ∈ raw, Runs b.2 := by
  cases h
  case read overrides hp hs =>
    refine ⟨fun _ b hb => ?_, fun _ => ⟨overrides, rfl⟩⟩
    obtain ⟨p, _, rfl⟩ := List.mem_map.mp (hp.mem_iff.mpr hb)
    exact runs_entries p.2.scales
  case empty e _ _ hm hb hz hl hf hc =>
    refine ⟨fun ⟨_, ho⟩ => (nomatch ho), fun h => ?_⟩
    have hp : 0 < e.iterations := h _ hm e (List.mem_append_right _ (List.mem_cons_self ..))
    omega

theorem parseWith_of_decodes (hd : Toml.ReadsDistinct read) (ht : read text = some t)
    (h : Decodes t raw) : parseWith read text = check (sorted raw) := by
  have hr := (ofTable?_eq_some_iff (hd _ _ ht)).mpr h
  simp only [parseWith, ofTable, ht, hr]

theorem settles_of_decodes (hd : Toml.ReadsDistinct read) (ht : read text = some t)
    (h : Decodes t raw) : Settles raw (parseWith read text) := by
  have hr := (ofTable?_eq_some_iff (hd _ _ ht)).mpr h
  rw [parseWith_of_decodes hd ht h]
  exact check_settles (ofTable?_names hr ▸ (hd _ _ ht).keys)

theorem parseWith_of_not_decodes (hd : Toml.ReadsDistinct read)
    (h : ∀ t raw, read text = some t → ¬Decodes t raw) :
    parseWith read text = .error .malformedCatalog := by
  simp only [parseWith]
  split
  case h_1 => rfl
  case h_2 t ht =>
    simp only [ofTable]
    split
    case h_1 => rfl
    case h_2 raw hr => exact absurd ((ofTable?_eq_some_iff (hd _ _ ht)).mp hr) (h t raw ht)

-- A text that is no document of entries is malformed, whatever else is wrong with it. One that is
-- settles: every entry runs and is kept as it is, or the first of the names with one that never
-- runs is told, with the first such entry. In which order the names come does not matter, and
-- neither does what reads the text, as long as it leaves no name twice.
theorem parse_settles :
    Toml.ReadsDistinct Toml.parse? ∧ (∀ text, parse text = parseWith Toml.parse? text) ∧
    ∀ read : String → Option Toml.Entries, Toml.ReadsDistinct read → ∀ text,
      ((∀ t raw, read text = some t → ¬Decodes t raw) →
        parseWith read text = .error .malformedCatalog) ∧
      (∀ t raw, read text = some t → Decodes t raw →
        ((∃ overrides, parseWith read text = .ok overrides) ↔ ∀ b ∈ raw, Runs b.2) ∧
          Settles raw (parseWith read text)) ∧
      (∀ t text' t', read text = some t → read text' = some t' → t'.Perm t →
        parseWith read text' = parseWith read text) := by
  refine ⟨Toml.parse?_distinct, fun _ => rfl, fun read hd text => ⟨parseWith_of_not_decodes hd,
    fun t raw ht h => ?decodes, fun t text' t' ht ht' hp => ?order⟩⟩
  case decodes =>
    have hs := settles_of_decodes hd ht h
    exact ⟨hs.ok_iff, hs⟩
  case order =>
    simp only [parseWith, ht, ht']
    exact ofTable_perm (hd _ _ ht).keys hp

-- Under each of two names an entry that never runs, the same with the names in the other order, and
-- a value that is no entry beside an entry that never runs.
theorem parse_settles_two_names :
    (∃ raw, Settles raw (parse "b = [[\"7\", \"w\", 0]]\na = [[\"8\", \"w\", 0]]") ∧
      ¬∃ overrides, parse "b = [[\"7\", \"w\", 0]]\na = [[\"8\", \"w\", 0]]" = .ok overrides) ∧
    parse "a = [[\"8\", \"w\", 0]]\nb = [[\"7\", \"w\", 0]]" =
      parse "b = [[\"7\", \"w\", 0]]\na = [[\"8\", \"w\", 0]]" ∧
    parse "a = [[\"8\", \"w\", 0], 1]" = .error .malformedCatalog := by
  have hb : Toml.parse? "b = [[\"7\", \"w\", 0]]\na = [[\"8\", \"w\", 0]]" =
    some [("b", .array [.array [.string "7", .string "w", .integer 0]]),
      ("a", .array [.array [.string "8", .string "w", .integer 0]])] := by decide +kernel
  have ha : Toml.parse? "a = [[\"8\", \"w\", 0]]\nb = [[\"7\", \"w\", 0]]" =
    some [("a", .array [.array [.string "8", .string "w", .integer 0]]),
      ("b", .array [.array [.string "7", .string "w", .integer 0]])] := by decide +kernel
  have hn : (Toml.parse? "a = [[\"8\", \"w\", 0], 1]").bind ofTable? = none := by decide +kernel
  have hd : Decodes [("b", .array [.array [.string "7", .string "w", .integer 0]]),
      ("a", .array [.array [.string "8", .string "w", .integer 0]])]
      [("b", [⟨"7", ⟨"w"⟩, 0⟩]), ("a", [⟨"8", ⟨"w"⟩, 0⟩])] :=
    .cons ⟨rfl, _, rfl, .cons .list .nil⟩ (.cons ⟨rfl, _, rfl, .cons .list .nil⟩ .nil)
  have ⟨hp, _, hr⟩ := parse_settles
  have ⟨_, hs, ho⟩ := hr _ hp "b = [[\"7\", \"w\", 0]]\na = [[\"8\", \"w\", 0]]"
  have ⟨hi, hs⟩ := hs _ _ hb hd
  refine ⟨⟨_, hs, fun ho => ?runs⟩, ho _ _ _ hb ha (.swap ..),
    (hr _ hp _).left fun t raw ht hd => ?not⟩
  case runs =>
    exact absurd (hi.mp ho _ (List.mem_cons_self ..) _ (List.mem_cons_self ..)) (by decide)
  case not =>
    rw [ht, Option.bind_some, (ofTable?_eq_some_iff (Toml.parse?_distinct _ _ ht)).mpr hd] at hn
    cases hn

end CatalogFile

end EngineBench
