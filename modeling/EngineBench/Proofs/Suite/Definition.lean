import EngineBench.Proofs.Action
import EngineBench.Proofs.Workload.CatalogFile
import EngineBench.Suite.ReadyMade

namespace EngineBench

namespace Suite

open CatalogFile (named Overrides)

-- What the catalog file gives. Without a file nothing is replaced.
def loaded (readText : Path → Except OsError String) (s : Suite) : Except Fault Overrides :=
  match s.options.catalog with
  | none => .ok []
  | some path => CatalogFile.load readText path

-- The catalog file names a benchmark that was not added.
def Unknown (s : Suite) (overrides : Overrides) (name : String) : Prop :=
  name ∈ named overrides ∧ name ∉ s.names

-- The catalog with which a benchmark is to be run.
def catalogOf (overrides : Overrides) (m : Benchmark) : Catalog :=
  (replaced overrides m).catalog

-- A benchmark that is to be run, beside the one that was added.
structure Replaces (overrides : Overrides) (m d : Benchmark) : Prop where
  name    : d.name = m.name
  mode    : d.mode = m.mode
  file    : ∀ catalog, (m.name, catalog) ∈ overrides → d.catalog = catalog
  builtIn : m.name ∉ named overrides → d.catalog = m.catalog

-- What a definition comes to. Of all that is wrong with it the first counts, in this order.
inductive Defines (readText : Path → Except OsError String) (s : Suite) :
    Except Fault (List Benchmark) → Prop
  | unreadable : s.loaded readText = .error f → Defines readText s (.error f)
  | unknown : s.loaded readText = .ok overrides → s.options.catalog = some path →
    s.Unknown overrides n → (∀ n', s.Unknown overrides n' → Text.bytes n ≤ Text.bytes n') →
    Defines readText s (.error (.unknownBenchmark path n s.name))
  | noBenchmarks : s.loaded readText = .ok overrides → (∀ n, ¬s.Unknown overrides n) →
    s.benchmarks = [] → Defines readText s (.error (.noBenchmarks s.name))
  | noScales : s.loaded readText = .ok overrides → (∀ n, ¬s.Unknown overrides n) →
    s.benchmarks = before ++ m :: after → (∀ d ∈ before, (catalogOf overrides d).scales ≠ []) →
    (catalogOf overrides m).scales = [] → Defines readText s (.error (.noScales m.name))
  | benchmarks : s.loaded readText = .ok overrides → (∀ n, ¬s.Unknown overrides n) →
    s.benchmarks ≠ [] → (∀ m ∈ s.benchmarks, (catalogOf overrides m).scales ≠ []) →
    Defines readText s (.ok (s.benchmarks.map (replaced overrides)))

section

variable {s : Suite}

theorem add_cases (m : Benchmark) (s : Suite) :
    m.name ∈ s.names ∧ s.add m = .error (.duplicateBenchmark m.name) ∨
    m.name ∉ s.names ∧ s.add m = .ok { s with benchmarks := s.benchmarks ++ [m] } := by
  by_cases h : m.name ∈ s.names
  case pos => exact .inl ⟨h, if_pos h⟩
  case neg => exact .inr ⟨h, if_neg h⟩

-- Either all names are new, or the first one that is not breaks off.
theorem addAll_cases (ms : List Benchmark) (hs : s.names.Nodup) :
    (s.names ++ ms.map (·.name)).Nodup ∧
      addAll ms s = .ok { s with benchmarks := s.benchmarks ++ ms } ∨
    ∃ before m after, ms = before ++ m :: after ∧ (s.names ++ before.map (·.name)).Nodup ∧
      m.name ∈ s.names ++ before.map (·.name) ∧
      addAll ms s = .error (.duplicateBenchmark m.name) := by
  induction ms generalizing s
  case nil => exact .inl ⟨by simpa using hs, by simp [addAll]⟩
  case cons m rest hi =>
    obtain ⟨hm, ha⟩ | ⟨hm, ha⟩ := add_cases m s
    case inl =>
      refine .inr ⟨[], m, rest, rfl, by simpa using hs, by simpa using hm, ?_⟩
      simp only [addAll, ha, bind, Except.bind]
    case inr =>
      let s₁ : Suite := { s with benchmarks := s.benchmarks ++ [m] }
      have hn : s₁.names = s.names ++ [m.name] := List.map_append
      have hr : addAll (m :: rest) s = addAll rest s₁ := by
        simp only [addAll, ha, bind, Except.bind]
        rfl
      have hs₁ : s₁.names.Nodup := by
        refine hn ▸ List.nodup_append.mpr ⟨hs, by simp, fun a ha b hb he => ?_⟩
        exact hm (List.mem_singleton.mp hb ▸ he ▸ ha)
      obtain ⟨hd, ho⟩ | ⟨before, d, after, he, hb, hd, ho⟩ := hi hs₁
      case inl =>
        refine .inl ⟨by simpa [hn] using hd, ?_⟩
        rw [hr, ho]
        simp [s₁]
      case inr =>
        refine .inr ⟨m :: before, d, after, he ▸ rfl, ?before, ?after, hr.trans ho⟩
        case before => simpa [hn] using hb
        case after => simpa [hn] using hd

end

section

variable {overrides : Overrides} {m : Benchmark}

theorem lookup_of_not_mem {name : String} (h : name ∉ named overrides) :
    overrides.lookup name = none := by
  refine List.lookup_eq_none_iff.mpr fun p hp => ?_
  have hn : name ≠ p.1 := fun he => h (he ▸ List.mem_map_of_mem hp)
  simpa using hn

theorem name_replaced (overrides : Overrides) (m : Benchmark) :
    (replaced overrides m).name = m.name := by
  simp only [replaced]
  split <;> rfl

theorem replaced_replaces (ho : (named overrides).Nodup) (m : Benchmark) :
    Replaces overrides m (replaced overrides m) := by
  refine ⟨name_replaced overrides m, ?mode, fun catalog hc => ?listed, fun hn => ?other⟩
  case mode => simp only [replaced]; split <;> rfl
  case listed => simp only [replaced, (lookup_eq_some_iff_mem ho).mpr hc]
  case other => simp only [replaced, lookup_of_not_mem hn]

end

section

variable {readText : Path → Except OsError String} {s : Suite} {overrides : Overrides}
  {name : String}

theorem loaded_names (h : s.loaded readText = .ok overrides) :
    (named overrides).Pairwise (Text.bytes · < Text.bytes ·) := by
  simp only [loaded] at h
  split at h
  case h_1 => cases h; exact .nil
  case h_2 => exact CatalogFile.load_names h

theorem loaded_nodup (h : s.loaded readText = .ok overrides) : (named overrides).Nodup :=
  (loaded_names h).imp fun {a b} h (he : a = b) => List.lt_irrefl _ (he ▸ h)

theorem unknown?_eq_none_iff : s.unknown? overrides = none ↔ ∀ name, ¬s.Unknown overrides name := by
  simp only [unknown?, List.find?_eq_none, decide_eq_true_eq]
  exact ⟨fun h name hn => h name hn.left hn.right, fun h name hn ho => h name ⟨hn, ho⟩⟩

-- The names of a file are in order, so the first unknown one is the smallest.
theorem unknown?_eq_some_iff (ho : (named overrides).Pairwise (Text.bytes · < Text.bytes ·)) :
    s.unknown? overrides = some name ↔ s.Unknown overrides name ∧
      ∀ other, s.Unknown overrides other → Text.bytes name ≤ Text.bytes other := by
  have hs {name : String} (h : s.unknown? overrides = some name) : s.Unknown overrides name ∧
      ∀ other, s.Unknown overrides other → Text.bytes name ≤ Text.bytes other := by
    have ⟨hp, before, after, he, hb⟩ := List.find?_eq_some_iff_append.mp h
    have he : named overrides = before ++ name :: after := he
    have hn : name ∉ s.names := of_decide_eq_true hp
    refine ⟨⟨he ▸ by simp, hn⟩, fun other hu => ?_⟩
    have hm : other ∈ before ++ name :: after := he ▸ hu.left
    have hr := (List.pairwise_cons.mp (List.pairwise_append.mp (he ▸ ho)).2.1).1
    obtain hm | hm := List.mem_append.mp hm
    case inl =>
      have ho : other ∈ s.names := by simpa using hb other hm
      exact absurd ho hu.right
    case inr =>
      cases hm
      case head    => exact List.le_refl _
      case tail hm => exact List.le_of_lt (hr other hm)
  refine ⟨hs, fun ⟨hu, hl⟩ => ?_⟩
  cases h : s.unknown? overrides
  case none => exact absurd hu (unknown?_eq_none_iff.mp h name)
  case some name' =>
    have ⟨hu', hl'⟩ := hs h
    have hle := hl name' hu'
    have hge := hl' name hu
    have he : name = name' :=
      String.le_antisymm (String.not_lt.mp fun hlt => hle (Text.bytes_lt hlt))
        (String.not_lt.mp fun hlt => hge (Text.bytes_lt hlt))
    exact he ▸ rfl

theorem override_of_error {f : Fault} (h : s.loaded readText = .error f) (log : Log) :
    s.override readText log = .error (.fault f) log := by
  simp only [loaded] at h
  cases hc : s.options.catalog <;> simp only [hc] at h
  case none      => cases h
  case some path => simp only [override, hc, h]; rfl

theorem override_of_unknown {path : Path} {n : String} (h : s.loaded readText = .ok overrides)
    (hc : s.options.catalog = some path) (hu : s.unknown? overrides = some n) (log : Log) :
    s.override readText log = .error (.fault (.unknownBenchmark path n s.name)) log := by
  simp only [loaded, hc] at h
  simp only [override, hc, h, Action.ofExcept, pure_bind, hu]
  rfl

theorem override_of_known (h : s.loaded readText = .ok overrides)
    (hu : s.unknown? overrides = none) (log : Log) :
    ∃ log', s.override readText log = .ok (s.benchmarks.map (replaced overrides)) log' := by
  simp only [loaded] at h
  cases hc : s.options.catalog <;> simp only [hc] at h
  case none =>
    cases h
    have hm : s.benchmarks.map (replaced []) = s.benchmarks := List.map_id _
    refine ⟨log, ?_⟩
    simp only [override, hc, hm]
    rfl
  case some path =>
    refine ⟨log ++ replacements overrides s.benchmarks, ?_⟩
    simp only [override, hc, h, Action.ofExcept, pure_bind, hu]
    rfl

-- An unknown name comes from a file.
theorem exists_catalog (h : s.loaded readText = .ok overrides) {n : String}
    (hu : s.Unknown overrides n) : ∃ path, s.options.catalog = some path := by
  simp only [loaded] at h
  cases hc : s.options.catalog <;> simp only [hc] at h
  case none      => cases h; cases hu.left
  case some path => exact ⟨path, rfl⟩

theorem isEmpty_iff (c : Catalog) : c.isEmpty = true ↔ c.scales = [] :=
  List.isEmpty_iff

theorem empty?_eq_none_iff {ms : List Benchmark} :
    empty? (ms.map (replaced overrides)) = none ↔
      ∀ m ∈ ms, (catalogOf overrides m).scales ≠ [] := by
  simp only [empty?, List.find?_eq_none, List.forall_mem_map, isEmpty_iff]
  exact Iff.rfl

theorem empty?_eq_some_iff {ms : List Benchmark} {d : Benchmark} :
    empty? (ms.map (replaced overrides)) = some d ↔
      ∃ before m after, ms = before ++ m :: after ∧
        (∀ d ∈ before, (catalogOf overrides d).scales ≠ []) ∧
        (catalogOf overrides m).scales = [] ∧ d = replaced overrides m := by
  simp only [empty?, List.find?_map, Option.map_eq_some_iff, List.find?_eq_some_iff_append,
    Function.comp_apply, isEmpty_iff, Bool.not_eq_true', ← Bool.not_eq_true]
  constructor
  case mp =>
    intro ⟨m, ⟨hm, before, after, he, hb⟩, hd⟩
    exact ⟨before, m, after, he, hb, hm, hd.symm⟩
  case mpr =>
    intro ⟨before, m, after, he, hb, hm, hd⟩
    exact ⟨m, ⟨hm, before, after, he, hb⟩, hd.symm⟩

-- With the benchmarks to be run in hand, it matters only whether they have scales.
theorem build_of_override {ms : List Benchmark} {log log' : Log}
    (h : s.override readText log = .ok ms log') :
    (s.build readText).answer log =
      if ms = [] then .error (.fault (.noBenchmarks s.name))
      else
        ((empty? ms).map fun m => Except.error (Abort.fault (.noScales m.name))).getD (.ok ms) := by
  simp only [build, Action.answer, Action.bind_ok h]
  cases ms
  case nil => rfl
  case cons m rest =>
    simp only [List.isEmpty_cons, reduceCtorEq, if_false]
    cases empty? (m :: rest) <;> rfl

theorem exists_defines (readText : Path → Except OsError String) (s : Suite) :
    ∃ r, s.Defines readText r := by
  cases hl : s.loaded readText
  case error f => exact ⟨_, .unreadable hl⟩
  case ok overrides =>
    cases hu : s.unknown? overrides
    case some n =>
      have ⟨hn, hm⟩ := (unknown?_eq_some_iff (loaded_names hl)).mp hu
      have ⟨path, hc⟩ := exists_catalog hl hn
      exact ⟨_, .unknown hl hc hn hm⟩
    case none =>
      have hu := unknown?_eq_none_iff.mp hu
      by_cases hb : s.benchmarks = []
      case pos => exact ⟨_, .noBenchmarks hl hu hb⟩
      case neg =>
        cases he : empty? (s.benchmarks.map (replaced overrides))
        case none => exact ⟨_, .benchmarks hl hu hb (empty?_eq_none_iff.mp he)⟩
        case some d =>
          have ⟨before, m, after, hs, hf, hm, _⟩ := empty?_eq_some_iff.mp he
          exact ⟨_, .noScales hl hu hs hf hm⟩

-- What a definition comes to is what building it answers.
theorem Defines.answer {r : Except Fault (List Benchmark)} (h : s.Defines readText r) (log : Log) :
    (s.build readText).answer log = r.mapError .fault := by
  cases h
  case unreadable hl =>
    exact Action.answer_error (Action.bind_error (override_of_error hl log))
  case unknown hl hc hn hm =>
    have hu := (unknown?_eq_some_iff (loaded_names hl)).mpr ⟨hn, hm⟩
    exact Action.answer_error (Action.bind_error (override_of_unknown hl hc hu log))
  case noBenchmarks hl hu hb =>
    have ⟨_, ho⟩ := override_of_known hl (unknown?_eq_none_iff.mpr hu) log
    rw [build_of_override ho, hb]
    rfl
  case noScales before m after hl hu hs hf hm =>
    have ⟨_, ho⟩ := override_of_known hl (unknown?_eq_none_iff.mpr hu) log
    have he := empty?_eq_some_iff.mpr ⟨before, m, after, hs, hf, hm, rfl⟩
    rw [build_of_override ho, if_neg (by simp [hs]), he]
    exact congrArg (Except.error <| Abort.fault <| .noScales ·) (name_replaced _ m)
  case benchmarks hl hu hb hs =>
    have ⟨_, ho⟩ := override_of_known hl (unknown?_eq_none_iff.mpr hu) log
    rw [build_of_override ho, if_neg (by simpa using hb), empty?_eq_none_iff.mpr hs]
    rfl

theorem defines_iff {r : Except Fault (List Benchmark)} {log : Log} :
    (s.build readText).answer log = r.mapError .fault ↔ s.Defines readText r := by
  refine ⟨fun h => ?_, fun h => h.answer log⟩
  have ⟨r', hd⟩ := exists_defines readText s
  have he := (hd.answer log).symm.trans h
  cases r <;> cases r' <;> cases he <;> exact hd

-- The definition of a suite: no name is added twice, and what then comes of it is settled by the
-- first thing that is wrong, if there is one. Otherwise the benchmarks that were added are to be
-- run, with the catalogs of the file where it has one, and each with a scale at least.
theorem definition_settled (readText : Path → Except OsError String) (name : String)
    (options : Options) (ms : List Benchmark) :
    (¬(ms.map (·.name)).Nodup → ∃ before m after, ms = before ++ m :: after ∧
      (before.map (·.name)).Nodup ∧ m.name ∈ before.map (·.name) ∧
      addAll ms (.new name options) = .error (.duplicateBenchmark m.name)) ∧
    ∀ s, addAll ms (.new name options) = .ok s →
      s = ⟨name, options, ms⟩ ∧ (ms.map (·.name)).Nodup ∧ (∃ r, s.Defines readText r) ∧
      ∀ log, (∀ r, (s.build readText).answer log = r.mapError .fault ↔ s.Defines readText r) ∧
        ∀ benchmarks, (s.build readText).answer log = .ok benchmarks →
          (∃ overrides, s.loaded readText = .ok overrides ∧
            benchmarks = ms.map (replaced overrides) ∧
            ∀ m ∈ ms, Replaces overrides m (replaced overrides m)) ∧
          benchmarks ≠ [] ∧ ∀ d ∈ benchmarks, d.catalog.scales ≠ [] ∧
            ∀ scale ∈ d.catalog.scales, 0 < scale.iterations := by
  have hn : (Suite.new name options).names.Nodup := .nil
  refine ⟨fun hd => ?twice, fun s hs => ?settled⟩
  case twice =>
    obtain ⟨ha, _⟩ | ⟨before, m, after, he, hb, hm, ha⟩ := addAll_cases ms hn
    case inl => exact absurd ha hd
    case inr => exact ⟨before, m, after, he, hb, hm, ha⟩
  case settled =>
    obtain ⟨ha, ho⟩ | ⟨_, _, _, _, _, _, ho⟩ := addAll_cases ms hn
    case inr => cases hs.symm.trans ho
    case inl =>
      cases hs.symm.trans ho
      refine ⟨rfl, ha, exists_defines .., fun log => ⟨fun _ => defines_iff, ?_⟩⟩
      intro benchmarks ha
      cases defines_iff (r := .ok benchmarks).mp ha
      case benchmarks hl _ hb hs =>
        refine ⟨⟨_, hl, rfl, fun m _ => replaced_replaces (loaded_nodup hl) m⟩, ?some, ?scales⟩
        case some => simpa only [ne_eq, List.map_eq_nil_iff] using hb
        case scales =>
          exact List.forall_mem_map.mpr fun m hm => ⟨hs m hm, fun scale _ => scale.runs⟩

end

def treeScale (label : String) (more : Nat) : Scale :=
  ⟨label, ⟨"w"⟩, more + 1, more.succ_pos⟩

-- A benchmark with a scale of its own and one without.
def tree : Suite where
  name := "tree"
  options := { catalog := some ⟨"c.toml"⟩ }
  benchmarks := [⟨"load", .load, ⟨[treeScale "7" 3]⟩⟩, ⟨"scan", .query, ⟨[]⟩⟩]

theorem tree_loaded {text : String} {t : Toml.Entries} {raw : CatalogFile.Raw}
    {overrides : Overrides} (ht : Toml.parse? text = some t)
    (hr : CatalogFile.ofTable? t = some raw) (hs : raw.Pairwise fun a b => !(b.1 < a.1))
    (hc : CatalogFile.check raw = .ok overrides) :
    tree.loaded (fun _ => .ok text) = .ok overrides := by
  have hm : CatalogFile.sorted raw = raw := List.mergeSort_of_pairwise hs
  have hp : CatalogFile.parse text = .ok overrides := by
    simp only [CatalogFile.parse, CatalogFile.parseWith, CatalogFile.ofTable, ht, hr, hm, hc]
  exact hp

-- A catalog file that replaces the one catalog and fills the other, and a file that empties the
-- one.
theorem definition_settled_tree :
    let filled (_ : Path) : Except OsError String :=
      .ok "load = [[\"8\", \"w\", 2], [\"9\", \"w\", 3]]\nscan = [[\"5\", \"w\", 1]]"
    let emptied (_ : Path) : Except OsError String :=
      .ok "load = []\nscan = [[\"5\", \"w\", 1]]"
    addAll tree.benchmarks (.new tree.name tree.options) = .ok tree ∧
      (∀ log, (tree.build filled).answer log =
        .ok [⟨"load", .load, ⟨[treeScale "8" 1, treeScale "9" 2]⟩⟩,
          ⟨"scan", .query, ⟨[treeScale "5" 0]⟩⟩]) ∧
      ∀ log, (tree.build emptied).answer log = .error (.fault (.noScales "load")) := by
  intro filled emptied
  have ha : addAll tree.benchmarks (.new tree.name tree.options) = .ok tree := rfl
  have hf : tree.loaded filled = .ok
      [("load", ⟨[treeScale "8" 1, treeScale "9" 2]⟩), ("scan", ⟨[treeScale "5" 0]⟩)] := by
    have ht : Toml.parse?
        "load = [[\"8\", \"w\", 2], [\"9\", \"w\", 3]]\nscan = [[\"5\", \"w\", 1]]" =
      some [("load", .array [.array [.string "8", .string "w", .integer 2],
          .array [.string "9", .string "w", .integer 3]]),
        ("scan", .array [.array [.string "5", .string "w", .integer 1]])] := by decide +kernel
    exact tree_loaded ht rfl (by decide) rfl
  have he : tree.loaded emptied = .ok [("load", ⟨[]⟩), ("scan", ⟨[treeScale "5" 0]⟩)] := by
    have ht : Toml.parse? "load = []\nscan = [[\"5\", \"w\", 1]]" =
      some [("load", .array []),
        ("scan", .array [.array [.string "5", .string "w", .integer 1]])] := by decide +kernel
    exact tree_loaded ht rfl (by decide) rfl
  have ⟨_, _, _, hd⟩ := (definition_settled filled _ _ _).right tree ha
  have ⟨_, _, _, hd'⟩ := (definition_settled emptied _ _ _).right tree ha
  refine ⟨ha, fun log => ((hd log).left (.ok _)).mpr ?filled,
    fun log => ((hd' log).left (.error _)).mpr ?emptied⟩
  case filled =>
    exact .benchmarks hf (unknown?_eq_none_iff.mp (by decide)) nofun (by decide)
  case emptied =>
    have hs : tree.benchmarks = [] ++ ⟨"load", .load, ⟨[treeScale "7" 3]⟩⟩ ::
      [⟨"scan", .query, ⟨[]⟩⟩] := rfl
    exact .noScales he (unknown?_eq_none_iff.mp (by decide)) hs nofun (by decide)

end Suite

end EngineBench
