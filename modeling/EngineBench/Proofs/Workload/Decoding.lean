import EngineBench.Proofs.Toml.Keys
import EngineBench.Workload.Decoding

namespace EngineBench

open Catalog (Entry)

-- A list is mapped if each of its elements is.
theorem mapM_eq_some_iff {α β : Type} {f : α → Option β} {R : α → β → Prop} {l : List α}
    {r : List β} (h : ∀ a ∈ l, ∀ b, f a = some b ↔ R a b) :
    l.mapM f = some r ↔ List.Forall₂ R l r := by
  induction l generalizing r
  case nil => simp [eq_comm]
  case cons a l hi =>
    have ⟨ha, hl⟩ := List.forall_mem_cons.mp h
    simp only [List.mapM_cons, List.forall₂_cons_left_iff]
    constructor
    case mp =>
      intro hm
      have ⟨b, hb, hm⟩ := Option.bind_eq_some_iff.mp hm
      have ⟨bs, hs, hm⟩ := Option.bind_eq_some_iff.mp hm
      cases hm
      exact ⟨b, bs, (ha b).mp hb, (hi hl).mp hs, rfl⟩
    case mpr =>
      rintro ⟨b, bs, hb, hs, rfl⟩
      exact Option.bind_eq_some_iff.mpr
        ⟨b, (ha b).mpr hb, Option.bind_eq_some_iff.mpr ⟨bs, (hi hl).mpr hs, rfl⟩⟩

namespace Toml.Value

-- The elements of a list are as sound as the list.
theorem Distinct.elements {v : Value} {vs : List Value} (h : v.Distinct)
    (he : v.elements? = some vs) : ∀ x ∈ vs, x.Distinct := by
  cases h <;> cases he
  case array hv => exact hv
  case tables hk hv =>
    intro x hx
    obtain ⟨t, ht, rfl⟩ := List.mem_map.mp hx
    have ht := List.mem_reverse.mp ht
    exact .table (hk t ht) (hv t ht)

end Toml.Value

namespace CatalogFile

open Toml (Value)

variable {e e' : Entry} {v label workload iterations : Value} {t t' : Toml.Entries} {raw : Raw}

theorem text?_eq_some_iff {s : String} : text? v = some s ↔ v = .string s := by
  cases v <;> simp [text?]

theorem count?_eq_some_iff {n : Nat} : count? v = some n ↔ v = .integer n := by
  cases v <;> simp [count?]
  omega

theorem entryOf?_eq_some_iff :
    entryOf? label workload iterations = some e ↔ label = .string e.label ∧
      workload = .string e.workload.text ∧ iterations = .integer e.iterations := by
  simp only [entryOf?, Option.bind_eq_bind, Option.bind_eq_some_iff, text?_eq_some_iff,
    count?_eq_some_iff, Option.pure_def, Option.some.injEq]
  constructor
  case mp =>
    rintro ⟨_, rfl, _, rfl, _, rfl, rfl⟩
    exact ⟨rfl, rfl, rfl⟩
  case mpr =>
    rintro ⟨rfl, rfl, rfl⟩
    exact ⟨_, rfl, _, rfl, _, rfl, rfl⟩

theorem isEntryKey_iff {key : String} :
    isEntryKey key = true ↔ key = "label" ∨ key = "workload" ∨ key = "iterations" := by
  simp [isEntryKey, or_assoc]

theorem fields_nodup (e : Entry) : (fields e).Nodup := by
  simp [fields]

-- Where keys are distinct, the fields are all there is if there are no other keys.
theorem perm_fields_iff (h : (Toml.Entries.keys t).Nodup) :
    t.Perm (fields e) ↔ (∀ p ∈ t, isEntryKey p.1) ∧ t.lookup "label" = some (.string e.label) ∧
      t.lookup "workload" = some (.string e.workload.text) ∧
      t.lookup "iterations" = some (.integer e.iterations) := by
  simp only [lookup_eq_some_iff_mem h]
  constructor
  case mp =>
    intro hp
    simp only [hp.mem_iff, fields, List.forall_mem_cons]
    simp [isEntryKey]
  case mpr =>
    rintro ⟨hk, hl, hw, hi⟩
    have hn : t.Nodup := (List.pairwise_map.mp h).imp fun hne he => hne (congrArg Prod.fst he)
    refine (List.perm_ext_iff_of_nodup hn (fields_nodup e)).mpr fun p =>
      ⟨fun hp => ?there, fun hp => ?given⟩
    case there =>
      have hv {k : String} {w : Value} (hm : (k, w) ∈ t) (hpk : p.1 = k) : p = (k, w) := by
        have hs := (lookup_eq_some_iff_mem h).mpr hm
        have hs' := (lookup_eq_some_iff_mem h).mpr hp
        rw [hpk, hs] at hs'
        exact Prod.ext hpk (Option.some.inj hs').symm
      obtain hpk | hpk | hpk := isEntryKey_iff.mp (hk p hp)
      case inl     => simp [fields, hv hl hpk]
      case inr.inl => simp [fields, hv hw hpk]
      case inr.inr => simp [fields, hv hi hpk]
    case given =>
      simp only [fields, List.mem_cons, List.not_mem_nil, or_false] at hp
      obtain rfl | rfl | rfl := hp
      case inl     => exact hl
      case inr.inl => exact hw
      case inr.inr => exact hi

theorem entry?_table {origin : Toml.Origin} (h : (Toml.Entries.keys t).Nodup) :
    entry? (.table origin t) = some e ↔ t.Perm (fields e) := by
  rw [perm_fields_iff h]
  simp only [Value.entries?, entry?, List.all_eq_true]
  split
  case isTrue hk =>
    simp only [Option.bind_eq_bind, Option.bind_eq_some_iff, entryOf?_eq_some_iff]
    constructor
    case mp =>
      rintro ⟨_, hl, _, hw, _, hi, rfl, rfl, rfl⟩
      exact ⟨hk, hl, hw, hi⟩
    case mpr =>
      rintro ⟨-, hl, hw, hi⟩
      exact ⟨_, hl, _, hw, _, hi, rfl, rfl, rfl⟩
  case isFalse hk => exact ⟨fun hn => (nomatch hn), fun hp => absurd hp.left hk⟩

theorem entry?_array {items : List Value} :
    entry? (.array items) = some e ↔ ∃ rest, items = .string e.label ::
      .string e.workload.text :: .integer e.iterations :: rest := by
  simp only [Value.entries?, entry?, Value.elements?]
  split
  case h_1 h =>
    cases h
    simp only [entryOf?_eq_some_iff]
    simp
  case h_2 h =>
    refine ⟨fun hn => (nomatch hn), ?_⟩
    rintro ⟨rest, rfl⟩
    exact absurd rfl (h _ _ _ _)

-- A list of tables is no entry, since no table is a label.
theorem entry?_tables {last : Toml.Entries} {before : List Toml.Entries} :
    entry? (.tables last before) = none := by
  simp only [Value.entries?, entry?, Value.elements?]
  split
  case h_1 l _ _ _ h =>
    have hl : l ∈ (last :: before).reverse.map (Value.table .header) := by
      rw [Option.some.inj h]
      exact List.mem_cons_self ..
    obtain ⟨t, -, rfl⟩ := List.mem_map.mp hl
    rfl
  case h_2 => rfl

theorem entry?_eq_some_iff (h : v.Distinct) : entry? v = some e ↔ Writes e v := by
  cases v
  case table origin t =>
    rw [entry?_table (Toml.Entries.distinct_of_table h).keys]
    exact ⟨.table, fun hw => by cases hw; assumption⟩
  case array items =>
    rw [entry?_array]
    exact ⟨fun ⟨rest, he⟩ => he ▸ .list, fun hw => by cases hw; exact ⟨_, rfl⟩⟩
  case tables last before =>
    rw [entry?_tables]
    exact ⟨fun hn => (nomatch hn), fun hw => by cases hw⟩
  all_goals exact ⟨fun hn => (nomatch hn), fun hw => by cases hw⟩

theorem ofTable?_eq_some_iff (h : t.Distinct) : ofTable? t = some raw ↔ Decodes t raw := by
  refine mapM_eq_some_iff fun p hp b => ?_
  simp only [Option.bind_eq_bind, Option.bind_eq_some_iff]
  constructor
  case mp =>
    rintro ⟨vs, hv, entries, hm, hb⟩
    cases hb
    have hd := (h.values p hp).elements hv
    exact ⟨rfl, vs, hv, (mapM_eq_some_iff fun x hx e => entry?_eq_some_iff (hd x hx)).mp hm⟩
  case mpr =>
    rintro ⟨hn, vs, hv, hw⟩
    have hd := (h.values p hp).elements hv
    refine ⟨vs, hv, b.2, ?_, hn ▸ rfl⟩
    exact (mapM_eq_some_iff fun x hx e => entry?_eq_some_iff (hd x hx)).mpr hw

end CatalogFile

end EngineBench
