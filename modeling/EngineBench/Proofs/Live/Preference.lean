import EngineBench.Live.Preference
import EngineBench.Machine.Hosting
import EngineBench.Proofs.Path
import Mathlib.Data.List.Find

namespace EngineBench

variable {s s' : Surroundings} {role : Role} {explicit : Option Path} {dir p found : Path}
  {asked : List Surroundings.Question}

theorem mapError_eq_ok_iff {ε ε' α : Type} {f : ε → ε'} {x : Except ε α} {a : α} :
    x.mapError f = .ok a ↔ x = .ok a := by
  cases x
  case error => exact iff_of_false (by rintro ⟨⟩) (by rintro ⟨⟩)
  case ok    => rw [Except.mapError, Except.ok.injEq, Except.ok.injEq]

theorem mapError_eq_error {ε ε' α : Type} {f : ε → ε'} {x : Except ε α} {e : ε'}
    (h : x.mapError f = .error e) : ∃ e₀, e = f e₀ := by
  cases x
  case error e₀ => exact ⟨e₀, (Except.error.inj h).symm⟩
  case ok       => cases h

namespace Role

theorem other_ne (role : Role) : role.other ≠ role := by
  cases role <;> decide

-- Each role has a variable of its own, which is not one that says where to search.
theorem envName_other (role : Role) :
    role.envName ≠ role.other.envName ∧ "HOME" ≠ role.other.envName ∧
      "PATH" ≠ role.other.envName := by
  cases role <;> decide

theorem name?_name (role : Role) : Path.name? ⟨role.name⟩ = some role.name := by
  cases role <;> decide

end Role

namespace Surroundings

theorem Agrees.subset {asked' : List Question} (h : s.Agrees s' asked) (hs : asked' ⊆ asked) :
    s.Agrees s' asked' :=
  fun q hq => h q (hs hq)

end Surroundings

namespace Binary

theorem source_applies : (source s role explicit dir).Applies s role explicit dir := by
  simp only [source]
  split
  case h_1 path _       => rfl
  case h_2 value ho     => exact ho
  case h_3 =>
    split
    case isTrue hf => exact hf
    case isFalse   => trivial

theorem source_first {other : Source} (h : other.Applies s role explicit dir) :
    (source s role explicit dir).rank ≤ other.rank := by
  simp only [source]
  split
  case h_1 => exact Nat.zero_le _
  case h_2 value ho =>
    cases other
    case explicit => cases h
    all_goals exact Nat.le_add_left ..
  case h_3 hv =>
    cases other
    case explicit => cases h
    case override => cases hv.symm.trans h
    case engineDir =>
      have hf : s.isFile (dir.join ⟨role.name⟩) = true := h
      rw [if_pos hf]
    case searchPath => split <;> decide

theorem fromSource_eq_ok_iff {source : Source} :
    fromSource s role dir source = .ok found ↔ source.Gives s role dir found := by
  cases source
  case explicit path =>
    simp only [fromSource, fromExplicit, Source.Gives]
    split <;> exact mapError_eq_ok_iff
  case override value =>
    simp only [fromSource, fromVariable, Source.Gives]
    split
    case isTrue he =>
      exact iff_of_false (by rintro ⟨⟩) fun h => h.1 (String.isEmpty_iff.mp he)
    case isFalse he =>
      have hv : value ≠ "" := fun hv => he (String.isEmpty_iff.mpr hv)
      split
      case isTrue ht => rw [mapError_eq_ok_iff, and_iff_right hv, and_iff_right ht]
      case isFalse ht => exact iff_of_false (by rintro ⟨⟩) fun h => ht h.2.1
  case engineDir => exact mapError_eq_ok_iff
  case searchPath => exact mapError_eq_ok_iff

theorem source_agrees (h : s.Agrees s' ((source s role explicit dir).asks s role dir)) :
    source s' role explicit dir = source s role explicit dir := by
  cases explicit
  case some path => rfl
  case none =>
    cases ho : s.override role
    case some value =>
      have hs : source s role none dir = .override value := by simp only [source, ho]
      rw [hs] at h ⊢
      have ho' : s'.override role = s.override role := h (.override role) List.mem_cons_self
      simp only [source, ho', ho]
    case none =>
      have hs : s.Agrees s' [.override role, .isFile (dir.join ⟨role.name⟩)] := by
        simp only [source, ho] at h
        split at h <;> exact h.subset (by simp [Source.asks])
      have ho' : s'.override role = s.override role := hs (.override role) List.mem_cons_self
      have hf : s'.isFile (dir.join ⟨role.name⟩) = s.isFile (dir.join ⟨role.name⟩) :=
        hs (.isFile _) (List.mem_cons_of_mem _ List.mem_cons_self)
      simp only [source, ho', hf]

-- What is asked next depends on the answer before, so that answer is settled first.
theorem fromSource_agrees {source : Source} (h : s.Agrees s' (source.asks s role dir)) :
    fromSource s' role dir source = fromSource s role dir source := by
  cases source
  case explicit path =>
    have hf : s'.isFile path = s.isFile path := h (.isFile path) List.mem_cons_self
    simp only [fromSource, fromExplicit, hf]
    split
    case isTrue ht =>
      have hr : s'.resolve path = s.resolve path := h (.resolve path) (by simp [Source.asks, ht])
      rw [hr]
    case isFalse ht =>
      have hw : s'.which path = s.which path := h (.which path) (by simp [Source.asks, ht])
      rw [hw]
  case override value =>
    simp only [fromSource, fromVariable]
    split
    case isTrue => rfl
    case isFalse he =>
      have ht : s'.isThere ⟨value⟩ = s.isThere ⟨value⟩ := h (.isThere _) (by simp [Source.asks, he])
      have hr : s'.resolve ⟨value⟩ = s.resolve ⟨value⟩ := h (.resolve _) (by simp [Source.asks, he])
      rw [ht, hr]
  case engineDir =>
    have hr : s'.resolve (dir.join ⟨role.name⟩) = s.resolve (dir.join ⟨role.name⟩) :=
      h (.resolve _) (by simp [Source.asks])
    simp only [fromSource, fromEngineDir, hr]
  case searchPath =>
    have hw : s'.which ⟨role.name⟩ = s.which ⟨role.name⟩ := h (.which _) (by simp [Source.asks])
    simp only [fromSource, fromSearchPath, hw]

theorem locate_agrees (h : s.Agrees s' ((source s role explicit dir).asks s role dir)) :
    locate s' role explicit dir = locate s role explicit dir := by
  simp only [locate, source_agrees h, fromSource_agrees h]

theorem override_other_not_mem {source : Source} :
    .override role.other ∉ source.asks s role dir := by
  cases source <;> simp only [Source.asks]
  case explicit   => split <;> simp
  case override   => split <;> simp [role.other_ne]
  case engineDir  => simp [role.other_ne]
  case searchPath => simp [role.other_ne]

theorem asks_name {source : Source} {q : Surroundings.Question} {path : Path}
    (h : source = .engineDir ∨ source = .searchPath) (hq : q ∈ source.asks s role dir)
    (hp : q.path? = some path) : path.name? = some role.name := by
  have hd : (dir.join ⟨role.name⟩).name? = some role.name := Path.name?_join role.name?_name
  obtain rfl | rfl := h <;> simp only [Source.asks, List.mem_cons, List.not_mem_nil, or_false] at hq
  case inl =>
    obtain rfl | rfl | rfl := hq <;> cases hp <;> exact hd
  case inr =>
    obtain rfl | rfl | hq := hq
    case inl     => cases hp
    case inr.inl => cases hp; exact hd
    case inr.inr => cases hq; cases hp; exact role.name?_name

theorem locate_uses (s : Surroundings) (role : Role) (explicit : Option Path) (dir : Path) :
    Uses s role explicit dir (source s role explicit dir) where
  applies := source_applies
  first _ := source_first
  found _ := mapError_eq_ok_iff.trans fromSource_eq_ok_iff
  failed _ := mapError_eq_error
  refused h := by
    cases hl : (locate s role explicit dir).2
    case error f =>
      obtain ⟨reason, rfl⟩ := mapError_eq_error hl
      exact ⟨reason, rfl⟩
    case ok path =>
      have hg := fromSource_eq_ok_iff.mp (mapError_eq_ok_iff.mp hl)
      exact absurd hg (h path)
  empty h := by
    rw [locate, h]
    rfl
  missing value h hv ht := by
    have he : ¬value.isEmpty := fun he => hv (String.isEmpty_iff.mp he)
    simp only [locate, h, fromSource, fromVariable, if_neg he, if_neg ht]
    rfl
  warned := by
    simp only [locate]
    cases source s role explicit dir <;> rfl
  alone _ := locate_agrees
  own := override_other_not_mem
  named h _ hq _ := asks_name h hq

end Binary

namespace Machine

variable {m m' : Machine}

theorem which_eq_ok (h : m.which p = .ok found) :
    ∃ places, m.candidates p = .ok places ∧
      places.find? (m.files.isExecutable m.home) = some found := by
  simp only [which] at h
  cases hc : m.candidates p <;> simp only [hc, bind, Except.bind] at h
  case error => cases h
  case ok places =>
    refine ⟨places, rfl, ?_⟩
    split at h
    case h_1 hf => cases h; exact hf
    case h_2    => cases h

-- Machines on which the same files lie, and whose variables are the same but for one.
theorem surroundings_agree (hf : m'.files = m.files) (hh : m'.home = m.home)
    (hv : ∀ name, name ≠ role.other.envName → m'.vars.lookup name = m.vars.lookup name)
    (ho : .override role.other ∉ asked) : m.surroundings.Agrees m'.surroundings asked := by
  have ⟨hr, hhome, hpath⟩ := role.envName_other
  intro q hq
  cases q
  case which p =>
    have hh' : m'.homeDir = m.homeDir := by simp only [homeDir, hv _ hhome]
    simp only [Surroundings.answer, surroundings, which, candidates, withoutTilde, hh', hv _ hpath,
      hf, hh]
  case override r =>
    have he : r.envName ≠ role.other.envName := by
      cases role <;> cases r <;> first | exact hr | exact absurd hq ho
    simp only [Surroundings.answer, surroundings, textVariable?, hv _ he]
  all_goals simp only [Surroundings.answer, surroundings, hf, hh]

-- A variable is taken for set if it holds text.
theorem override_iff {value : String} : m.surroundings.override role = some value ↔
    ∃ raw, m.vars.lookup role.envName = some raw ∧
      String.fromUTF8? (Text.Raw.toBytes raw) = some value :=
  Option.bind_eq_some_iff

end Machine

namespace Binary

-- Whatever the files and the variables are, the first source that applies is used and nothing after
-- it; on a machine, the variable of the other binary might as well not be there.
theorem locate_uses_preferred (role : Role) (explicit : Option Path) (dir : Path) :
    (∀ s, Uses s role explicit dir (source s role explicit dir)) ∧
    (∀ (m : Machine) value, m.surroundings.override role = some value ↔
      ∃ raw, m.vars.lookup role.envName = some raw ∧
        String.fromUTF8? (Text.Raw.toBytes raw) = some value) ∧
    ∀ m m' : Machine, m'.files = m.files → m'.home = m.home →
      (∀ name, name ≠ role.other.envName → m'.vars.lookup name = m.vars.lookup name) →
      locate m'.surroundings role explicit dir = locate m.surroundings role explicit dir := by
  refine ⟨fun s => locate_uses s role explicit dir, fun _ _ => Machine.override_iff, ?machine⟩
  intro m m' hf hh hv
  exact locate_agrees (Machine.surroundings_agree hf hh hv override_other_not_mem)

-- A machine on which the engine and the search path have a server.
def shadowed (vars : List (String × String)) : Machine where
  files := ⟨#[.dir 0 [("engine", 1)], .dir 0 [("server", 2)], .file .empty 0o755]⟩
  home := Files.root
  vars := ("PATH", "/engine") :: vars
  now := Machine.firstMoment
  live := []
  ended := []
  openings := #[]
  pipes := #[]
  outputs := #[]
  inputs := []
  nextPid := Machine.firstPid
  interrupted := false
  said := []

-- A variable that leads nowhere hides the server that is there.
theorem locate_uses_preferred_shadowed :
    let m := shadowed [("ST_SERVER_PATH", "/missing")]
    let m' := shadowed [("ST_CLIENT_PATH", "/engine/server"), ("ST_SERVER_PATH", "/missing")]
    Source.engineDir.Gives m.surroundings .server ⟨"/engine"⟩ ⟨"/engine/server"⟩ ∧
      (locate m.surroundings .server none ⟨"/engine"⟩).2 =
        .error (.launch "server" (.notFound (.variableMissing .server ⟨"/missing"⟩))) ∧
      locate m'.surroundings .server none ⟨"/engine"⟩ =
        locate m.surroundings .server none ⟨"/engine"⟩ := by
  intro m m'
  have ⟨hu, _, hm⟩ := locate_uses_preferred .server none ⟨"/engine"⟩
  have hs : source m.surroundings .server none ⟨"/engine"⟩ = .override "/missing" := by
    have hv : m.surroundings.override .server = some "/missing" := by decide +kernel
    simp only [source, hv]
  have ht : ¬m.surroundings.isThere ⟨"/missing"⟩ := by
    have hw : m.files.walk true Files.mostLinks Files.root false ["missing"] =
        .ok ⟨Files.root, "missing", none⟩ := by
      rw [Files.walk]
      rfl
    have hp : m.files.spot m.home true ⟨"/missing"⟩ = .ok ⟨Files.root, "missing", none⟩ := by
      rw [← hw]
      rfl
    simp only [Machine.surroundings, Files.exists?, Files.stat, Files.find, hp]
    decide
  refine ⟨?gives, (hu m.surroundings).missing "/missing" hs (by decide) ht,
    hm m m' rfl rfl ?others⟩
  case gives =>
    have hw : m.files.walk true Files.mostLinks 1 false ["server"] =
        .ok ⟨1, "server", some 2⟩ := by
      rw [Files.walk]
      rfl
    have hw : m.files.walk true Files.mostLinks Files.root false ["engine", "server"] =
        .ok ⟨1, "server", some 2⟩ := by
      rw [Files.walk]
      exact hw
    have hp : m.files.spotOfAnyLength m.home true ⟨"/engine/server"⟩ =
        .ok ⟨1, "server", some 2⟩ := by
      rw [← hw]
      rfl
    have hj : Path.join ⟨"/engine"⟩ ⟨"server"⟩ = ⟨"/engine/server"⟩ := by decide +kernel
    have hd : m.files.pathAt 1 "server" 2 = ⟨"/engine/server"⟩ := by decide +kernel
    simp only [Source.Gives, Role.name, hj, Machine.surroundings, Files.canonical, hp, bind,
      Except.bind, hd]
    rfl
  case others =>
    intro name hn
    have hn : (name == "ST_CLIENT_PATH") = false := beq_eq_false_iff_ne.mpr hn
    simp only [m, m', shadowed, List.lookup_cons, hn]

end Binary

end EngineBench
