import EngineBench.Measure.Step
import EngineBench.Proofs.Measure.Accumulator

namespace EngineBench

namespace Duration

variable {d l g : Duration} {ds ds' : List Duration}

theorem le_antisymm (h : d ≤ l) (h' : l ≤ d) : d = l :=
  congrArg mk (Nat.le_antisymm h h')

theorem min_cases (d l : Duration) : d.min l = d ∧ d ≤ l ∨ d.min l = l ∧ l ≤ d := by
  by_cases h : d.nanos ≤ l.nanos
  case pos => exact .inl ⟨if_pos h, h⟩
  case neg => exact .inr ⟨if_neg h, Nat.le_of_not_le h⟩

theorem max_cases (d l : Duration) : d.max l = l ∧ d ≤ l ∨ d.max l = d ∧ l ≤ d := by
  by_cases h : d.nanos ≤ l.nanos
  case pos => exact .inl ⟨if_pos h, h⟩
  case neg => exact .inr ⟨if_neg h, Nat.le_of_not_le h⟩

theorem Least.single (d : Duration) : d.Least [d] :=
  ⟨List.mem_singleton_self d, List.forall_mem_singleton.mpr (Nat.le_refl d.nanos)⟩

theorem Greatest.single (d : Duration) : d.Greatest [d] :=
  ⟨List.mem_singleton_self d, List.forall_mem_singleton.mpr (Nat.le_refl d.nanos)⟩

theorem Least.concat (h : l.Least ds) (d : Duration) : (l.min d).Least (ds ++ [d]) := by
  obtain ⟨he, hle⟩ | ⟨he, hle⟩ := min_cases l d <;> rw [he]
  case inl =>
    refine ⟨List.mem_append_left _ h.left, List.forall_mem_append.mpr ⟨h.right, ?_⟩⟩
    exact List.forall_mem_singleton.mpr hle
  case inr =>
    refine ⟨List.mem_append_right _ (List.mem_singleton_self d),
      List.forall_mem_append.mpr ⟨?earlier, ?last⟩⟩
    case earlier => exact fun d' hd => Nat.le_trans hle (h.right d' hd)
    case last => exact (Least.single d).right

theorem Greatest.concat (h : g.Greatest ds) (d : Duration) : (g.max d).Greatest (ds ++ [d]) := by
  obtain ⟨he, hle⟩ | ⟨he, hle⟩ := max_cases g d <;> rw [he]
  case inl =>
    refine ⟨List.mem_append_right _ (List.mem_singleton_self d),
      List.forall_mem_append.mpr ⟨?earlier, ?last⟩⟩
    case earlier => exact fun d' hd => Nat.le_trans (h.right d' hd) hle
    case last => exact (Greatest.single d).right
  case inr =>
    refine ⟨List.mem_append_left _ h.left, List.forall_mem_append.mpr ⟨h.right, ?_⟩⟩
    exact List.forall_mem_singleton.mpr hle

theorem Least.eq_of_perm (h : d.Least ds) (h' : l.Least ds') (hp : ds'.Perm ds) : d = l :=
  le_antisymm (h.right l (hp.mem_iff.mp h'.left)) (h'.right d (hp.mem_iff.mpr h.left))

theorem Greatest.eq_of_perm (h : d.Greatest ds) (h' : l.Greatest ds') (hp : ds'.Perm ds) : d = l :=
  le_antisymm (h'.right d (hp.mem_iff.mpr h.left)) (h.right l (hp.mem_iff.mp h'.left))

end Duration

namespace Accumulator

open Step (samples durations failures)

-- The extremes of some durations, if there are any.
inductive Spans : Option (Duration × Duration) → List Duration → Prop
  | none : Spans none []
  | some {l g : Duration} : l.Least ds → g.Greatest ds → Spans (some (l, g)) ds

theorem Spans.widen {e : Option (Duration × Duration)} {ds : List Duration} (h : Spans e ds)
    (d : Duration) : Spans (Option.some (widen d e)) (ds ++ [d]) := by
  cases h
  case none       => exact .some (.single d) (.single d)
  case some hl hg => exact .some (hl.concat d) (hg.concat d)

namespace Step

variable {s : Sample} {step : Step} {steps steps' more : List Step}

theorem samples_append : samples (steps ++ more) = samples steps ++ samples more :=
  List.filterMap_append

theorem durations_append : durations (steps ++ more) = durations steps ++ durations more := by
  simp only [durations, samples_append, List.map_append]

theorem failures_append : failures (steps ++ more) = failures steps + failures more := by
  simp only [failures, samples_append, List.countP_append]
  omega

theorem failures_record (s : Sample) : failures [record s] = if s.succeeded then 0 else 1 := by
  cases h : s.succeeded <;> simp [failures, samples, recorded?, isExclude, h]

theorem samples_length_le (steps : List Step) : (samples steps).length ≤ steps.length :=
  List.length_filterMap_le ..

theorem failures_le (steps : List Step) : failures steps ≤ steps.length := by
  induction steps
  case nil => exact Nat.le_refl 0
  case cons step rest hi =>
    have h : failures [step] ≤ 1 := by
      cases step
      case record s  => rw [failures_record]; split <;> omega
      case exclude s => exact Nat.le_refl 1
    have ha : failures ([step] ++ rest) = failures [step] + failures rest := failures_append
    rw [List.singleton_append] at ha
    simp only [List.length_cons]
    omega

theorem durations_perm (h : steps'.Perm steps) : (durations steps').Perm (durations steps) :=
  (h.filterMap recorded?).map Sample.duration

theorem failures_perm (h : steps'.Perm steps) : failures steps' = failures steps := by
  simp only [failures, samples, (h.filterMap recorded?).countP_eq, h.countP_eq]

end Step

variable {scale : Scale} {before steps : List Step} {step : Step} {a : Accumulator}

-- What an accumulator holds after some steps for a scale.
structure Holds (scale : Scale) (steps : List Step) (a : Accumulator) : Prop where
  scale    : a.scale = scale
  recorded : a.recorded = (samples steps).length
  failed   : a.failed = failures steps
  total    : a.total = Duration.total (durations steps)
  extremes : Spans a.extremes (durations steps)

namespace Holds

theorem new (scale : Scale) : (Accumulator.new scale).Holds scale [] :=
  ⟨rfl, rfl, rfl, rfl, .none⟩

theorem record (ha : a.Holds scale steps) (s : Sample) :
    (a.taking s).Holds scale (steps ++ [.record s]) where
  scale := ha.scale
  recorded := by
    simp only [taking, ha.recorded, Step.samples_append, List.length_append]
    rfl
  failed := by
    simp only [taking, ha.failed, Step.failures_append, Step.failures_record]
  total := by
    simp only [taking, ha.total, Step.durations_append, Duration.total, List.map_append,
      List.foldl_append]
    rfl
  extremes := Step.durations_append ▸ ha.extremes.widen s.duration

theorem exclude (ha : a.Holds scale steps) (s : Sample) :
    Holds scale (steps ++ [.exclude s]) { a with failed := a.failed + 1 } := by
  have hs : samples (steps ++ [.exclude s]) = samples steps := by
    rw [Step.samples_append]
    exact List.append_nil _
  have hd : durations (steps ++ [.exclude s]) = durations steps := by
    simp only [durations, hs]
  refine ⟨ha.scale, ?recorded, ?failed, ?total, ?extremes⟩
  case recorded => rw [hs]; exact ha.recorded
  case failed => rw [Step.failures_append, ← ha.failed]; rfl
  case total => rw [hd]; exact ha.total
  case extremes => rw [hd]; exact ha.extremes

theorem apply (ha : a.Holds scale steps) (hl : steps.length < maxCount)
    (hs : ∀ s ∈ samples [step], s.label = scale.label) :
    ∃ a', a.apply step = .ok a' ∧ a'.Holds scale (steps ++ [step]) := by
  have hf : a.failed < maxCount :=
    ha.failed ▸ Nat.lt_of_le_of_lt (Step.failures_le steps) hl
  cases step
  case record s =>
    have hr : a.recorded < maxCount :=
      ha.recorded ▸ Nat.lt_of_le_of_lt (Step.samples_length_le steps) hl
    have hn : s.label = a.scale.label := ha.scale ▸ hs s (List.mem_singleton_self s)
    exact ⟨a.taking s, record_eq_ok_iff.mpr ⟨hn, hr, .inr hf, rfl⟩, ha.record s⟩
  case exclude s =>
    exact ⟨_, exclude_eq_ok_iff.mpr ⟨hf, rfl⟩, ha.exclude s⟩

theorem applyAll (ha : a.Holds scale before) (hl : before.length + steps.length ≤ maxCount)
    (hs : ∀ s ∈ samples steps, s.label = scale.label) :
    ∃ a', a.applyAll steps = .ok a' ∧ a'.Holds scale (before ++ steps) := by
  induction steps generalizing before a
  case nil => exact ⟨a, rfl, (List.append_nil before).symm ▸ ha⟩
  case cons step rest hi =>
    rw [← List.singleton_append, Step.samples_append] at hs
    have ⟨hs₁, hs₂⟩ := List.forall_mem_append.mp hs
    rw [List.length_cons] at hl
    have ⟨a₁, h₁, ha₁⟩ := ha.apply (by omega) hs₁
    have hl₁ : (before ++ [step]).length + rest.length ≤ maxCount := by
      simp only [List.length_append, List.length_singleton]
      omega
    have ⟨a₂, h₂, ha₂⟩ := hi ha₁ hl₁ hs₂
    refine ⟨a₂, ?_, by simpa only [List.append_assoc, List.singleton_append] using ha₂⟩
    simp only [Accumulator.applyAll, List.foldlM_cons, h₁]
    exact h₂

theorem summary_none_iff (ha : a.Holds scale steps) : a.summary? = none ↔ samples steps = [] := by
  have he := ha.extremes
  have hd : samples steps = [] ↔ durations steps = [] := List.map_eq_nil_iff.symm
  simp only [summary?, Option.map_eq_none_iff, hd]
  generalize durations steps = ds at he
  generalize a.extremes = e at he
  cases he
  case none      => exact ⟨fun _ => rfl, fun _ => rfl⟩
  case some hl _ => exact ⟨fun hn => (nomatch hn), fun hn => by cases hn ▸ hl.left⟩

theorem summary_sums (ha : a.Holds scale steps) {sum : Summary} (h : a.summary? = some sum) :
    sum.Sums scale steps := by
  have he := ha.extremes
  obtain ⟨⟨l, g⟩, hx, rfl⟩ := Option.map_eq_some_iff.mp h
  rw [hx] at he
  cases he
  case some hl hg =>
    refine ⟨ha.scale, ha.recorded, ha.failed, ?_, ⟨l, hl, rfl⟩, ⟨g, hg, rfl⟩⟩
    simp only [Duration.mean, durations, List.length_map, ha.total, ha.recorded]

end Holds

end Accumulator

open Accumulator (Step)

theorem Summary.Sums.unordered_eq {scale : Scale} {steps steps' : List Step} {sum sum' : Summary}
    (h : sum.Sums scale steps) (h' : sum'.Sums scale steps') (hp : steps'.Perm steps) :
    sum'.unordered = sum.unordered := by
  have ⟨l, hl, hls⟩ := h.least
  have ⟨l', hl', hls'⟩ := h'.least
  have ⟨g, hg, hgs⟩ := h.greatest
  have ⟨g', hg', hgs'⟩ := h'.greatest
  have hd := Step.durations_perm hp
  cases hl.eq_of_perm hl' hd
  cases hg.eq_of_perm hg' hd
  have hn : (Step.samples steps').length = (Step.samples steps).length :=
    (hp.filterMap Step.recorded?).length_eq
  simp only [unordered, h.scale, h'.scale, h.samples, h'.samples, hn, h.failed, h'.failed,
    Step.failures_perm hp, hls, hls', hgs, hgs']

namespace Accumulator

open Step (samples failures)

theorem Holds.unordered_eq {scale : Scale} {steps steps' : List Step} {a a' : Accumulator}
    (ha : a.Holds scale steps) (ha' : a'.Holds scale steps') (hp : steps'.Perm steps) :
    a'.summary?.map Summary.unordered = a.summary?.map Summary.unordered := by
  have hs : (samples steps').Perm (samples steps) := hp.filterMap Step.recorded?
  have hn : samples steps' = [] ↔ samples steps = [] :=
    ⟨fun he => (he ▸ hs).nil_eq.symm, fun he => (he ▸ hs).eq_nil⟩
  rw [← ha.summary_none_iff, ← ha'.summary_none_iff] at hn
  cases h : a.summary?
  case none => rw [hn.mpr h]
  case some sum =>
    cases h' : a'.summary?
    case none      => cases h.symm.trans (hn.mp h')
    case some sum' =>
      exact congrArg some ((ha.summary_sums h).unordered_eq (ha'.summary_sums h') hp)

-- Steps that a machine word can count are all made. After each of them both counts are those of the
-- steps so far, and after the last there is a summary of all if there was a sample. Whatever their
-- order, only the mean may differ.
theorem steps_summed (scale : Scale) (steps : List Step) (hl : steps.length ≤ maxCount)
    (hs : ∀ s ∈ samples steps, s.label = scale.label) :
    (∀ before after, steps = before ++ after →
      ∃ a, (new scale).applyAll before = .ok a ∧ a.recorded = (samples before).length ∧
        a.failed = failures before) ∧
    ∃ a, (new scale).applyAll steps = .ok a ∧ (a.summary? = none ↔ samples steps = []) ∧
      (∀ sum, a.summary? = some sum → sum.Sums scale steps) ∧
      ∀ steps', steps'.Perm steps → ∃ a', (new scale).applyAll steps' = .ok a' ∧
        a'.summary?.map Summary.unordered = a.summary?.map Summary.unordered := by
  have hrun (steps' : List Step) (hl' : steps'.length ≤ maxCount)
      (hs' : ∀ s ∈ samples steps', s.label = scale.label) :
      ∃ a, (new scale).applyAll steps' = .ok a ∧ a.Holds scale steps' :=
    (Holds.new scale).applyAll (by simpa using hl') hs'
  have ⟨a, h, ha⟩ := hrun steps hl hs
  refine ⟨fun before after he => ?prefixes, a, h, ha.summary_none_iff, fun _ => ha.summary_sums,
    ?order⟩
  case prefixes =>
    subst he
    rw [List.length_append] at hl
    rw [Step.samples_append] at hs
    have ⟨a', h', ha'⟩ := hrun before (by omega) (List.forall_mem_append.mp hs).left
    exact ⟨a', h', ha'.recorded, ha'.failed⟩
  case order =>
    intro steps' hp
    have hm {s : Sample} : s ∈ samples steps' → s ∈ samples steps :=
      (hp.filterMap Step.recorded?).mem_iff.mp
    have ⟨a', h', ha'⟩ := hrun steps' (hp.length_eq ▸ hl) fun s hs' => hs s (hm hs')
    exact ⟨a', h', ha.unordered_eq ha' hp⟩

-- Between two recorded samples, of which the second is a failure, one is excluded.
theorem steps_summed_mixed :
    let scale : Scale := ⟨"10", ⟨"t10.dsl"⟩, 3, by decide⟩
    let sample (iteration secs : Nat) (code : Int) : Sample :=
      .of scale iteration (.ofSecs secs) ⟨some code, 0, false⟩
    let steps : List Step :=
      [.record (sample 0 2 0), .exclude (sample 1 100 1), .record (sample 2 4 1)]
    steps.length ≤ maxCount ∧ (∀ s ∈ samples steps, s.label = scale.label) ∧
      failures steps = 2 ∧
      ∃ a sum, (new scale).applyAll steps = .ok a ∧ a.summary? = some sum ∧
        sum.Sums scale steps := by
  intro scale sample steps
  have hl : steps.length ≤ maxCount := by decide
  have hs : ∀ s ∈ samples steps, s.label = scale.label := by decide
  have ⟨_, a, h, hn, hm, _⟩ := steps_summed scale steps hl hs
  cases ha : a.summary?
  case none     => cases hn.mp ha
  case some sum => exact ⟨hl, hs, by decide, a, sum, h, ha, hm sum ha⟩

end Accumulator

end EngineBench
