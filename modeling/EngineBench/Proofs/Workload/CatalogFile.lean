import EngineBench.Proofs.Text.Bytes
import EngineBench.Proofs.Toml.Keys
import EngineBench.Workload.CatalogFile

namespace EngineBench

namespace CatalogFile

variable {raw : Raw} {overrides : Overrides}

def named (overrides : Overrides) : List String :=
  overrides.map Prod.fst

theorem ofTable?_names {t : Toml.Entries} (h : ofTable? t = some raw) :
    raw.map Prod.fst = Toml.Entries.keys t := by
  induction t generalizing raw
  case nil => cases h; rfl
  case cons e rest hi =>
    simp only [ofTable?, List.mapM_cons] at h
    have ⟨entry, he, h⟩ := Option.bind_eq_some_iff.mp h
    have ⟨raw', hr, h⟩ := Option.bind_eq_some_iff.mp h
    have ⟨items, _, he⟩ := Option.bind_eq_some_iff.mp he
    have ⟨entries, _, he⟩ := Option.bind_eq_some_iff.mp he
    cases h
    cases he
    exact congrArg (e.1 :: ·) (hi hr)

theorem check_names (h : check raw = .ok overrides) : named overrides = raw.map Prod.fst := by
  induction raw generalizing overrides
  case nil => cases h; rfl
  case cons e rest hi =>
    simp only [check, bind, Except.bind] at h
    split at h
    case h_1 => cases h
    case h_2 =>
      split at h
      case h_1 => cases h
      case h_2 hr =>
        cases h
        exact congrArg (e.1 :: ·) (hi hr)

theorem sorted_pairwise (raw : Raw) : (sorted raw).Pairwise fun a b => ¬b.1 < a.1 := by
  have h : (sorted raw).Pairwise fun a b => !(b.1 < a.1) := by
    refine List.pairwise_mergeSort (fun a b c hab hbc => ?trans) (fun a b => ?total) raw
    case trans =>
      simp only [Bool.not_eq_eq_eq_not, Bool.not_true, decide_eq_false_iff_not, String.not_lt] at *
      exact String.le_trans hab hbc
    case total =>
      simp only [Bool.or_eq_true, Bool.not_eq_eq_eq_not, Bool.not_true, decide_eq_false_iff_not,
        String.not_lt]
      exact String.le_total a.1 b.1
  exact h.imp fun h => by simpa using h

-- Names that are in order and distinct are in strict order.
theorem sorted_names (h : (raw.map Prod.fst).Nodup) :
    ((sorted raw).map Prod.fst).Pairwise (Text.bytes · < Text.bytes ·) := by
  have hn : ((sorted raw).map Prod.fst).Nodup :=
    ((List.mergeSort_perm raw _).map Prod.fst).nodup_iff.mpr h
  have hs : ((sorted raw).map Prod.fst).Pairwise fun a b => ¬b < a :=
    List.pairwise_map.mpr (sorted_pairwise raw)
  refine (hs.and hn).imp fun ⟨hle, hne⟩ => Text.bytes_lt ?_
  exact Decidable.byContradiction fun hlt =>
    hne (String.le_antisymm (String.not_lt.mp hle) (String.not_lt.mp hlt))

theorem parse_names {text : String} (h : parse text = .ok overrides) :
    (named overrides).Pairwise (Text.bytes · < Text.bytes ·) := by
  simp only [parse, parseWith] at h
  split at h
  case h_1 => cases h
  case h_2 t ht =>
    simp only [ofTable] at h
    split at h
    case h_1 => cases h
    case h_2 raw hr =>
      rw [check_names h]
      exact sorted_names (ofTable?_names hr ▸ (Toml.parse?_distinct _ _ ht).keys)

theorem load_names {readText : Path → Except OsError String} {path : Path}
    (h : load readText path = .ok overrides) :
    (named overrides).Pairwise (Text.bytes · < Text.bytes ·) := by
  simp only [load, bind, Except.bind] at h
  split at h
  case h_1 => cases h
  case h_2 => exact parse_names h

end CatalogFile

end EngineBench
