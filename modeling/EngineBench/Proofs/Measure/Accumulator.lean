import EngineBench.Measure.Accumulator

namespace EngineBench

theorem nextCount_eq_ok_iff {n m : Nat} : nextCount n = .ok m ↔ n < maxCount ∧ m = n + 1 := by
  simp only [nextCount]
  split
  case isTrue h  => simp [h, eq_comm]
  case isFalse h => simp [h]

namespace Accumulator

variable {a a' : Accumulator} {s : Sample}

-- An accumulator with one more sample.
def taking (s : Sample) (a : Accumulator) : Accumulator where
  scale    := a.scale
  total    := a.total + s.duration.toSeconds
  extremes := some (widen s.duration a.extremes)
  recorded := a.recorded + 1
  failed   := a.failed + if s.succeeded then 0 else 1

theorem failuresWith_eq_ok_iff {failed : Nat} :
    a.failuresWith s = .ok failed ↔
      (s.succeeded ∨ a.failed < maxCount) ∧ failed = (a.taking s).failed := by
  simp only [failuresWith, taking]
  split
  case isTrue hs  => simp [hs, eq_comm]
  case isFalse hs => simp [hs, nextCount_eq_ok_iff]

theorem record_eq_ok_iff :
    a.record s = .ok a' ↔ s.label = a.scale.label ∧ a.recorded < maxCount ∧
      (s.succeeded ∨ a.failed < maxCount) ∧ a' = a.taking s := by
  simp only [record]
  split
  case isFalse hl => simp [hl]
  case isTrue hl =>
    simp only [bind, Except.bind, pure, Except.pure]
    constructor
    case mp =>
      intro h
      cases hf : a.failuresWith s <;> simp only [hf] at h
      case error => cases h
      case ok failed =>
        cases hr : nextCount a.recorded <;> simp only [hr] at h
        case error => cases h
        case ok recorded =>
          have ⟨hs, hf⟩ := failuresWith_eq_ok_iff.mp hf
          have ⟨hn, hr⟩ := nextCount_eq_ok_iff.mp hr
          subst hf hr
          cases h
          exact ⟨hl, hn, hs, rfl⟩
    case mpr =>
      rintro ⟨-, hn, hs, rfl⟩
      simp only [failuresWith_eq_ok_iff.mpr ⟨hs, rfl⟩, nextCount_eq_ok_iff.mpr ⟨hn, rfl⟩]
      rfl

theorem exclude_eq_ok_iff :
    a.exclude = .ok a' ↔ a.failed < maxCount ∧ a' = { a with failed := a.failed + 1 } := by
  simp only [exclude, bind, Except.bind, pure, Except.pure]
  cases hn : nextCount a.failed
  case error =>
    have hm : ¬a.failed < maxCount := fun hm => by
      cases hn.symm.trans (nextCount_eq_ok_iff.mpr ⟨hm, rfl⟩)
    simp [hm]
  case ok =>
    have ⟨hm, hn⟩ := nextCount_eq_ok_iff.mp hn
    simp [hm, hn, eq_comm]

end Accumulator

end EngineBench
