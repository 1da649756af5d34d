import EngineBench.Proofs.Files.Canonical
import EngineBench.Proofs.Live.Preference

namespace EngineBench

namespace Surroundings

-- Files are there, a program that was searched for is a file, and a path that is there is resolved
-- to one that leads to the same.
structure Sound (s : Surroundings) : Prop where
  file    : ∀ {p}, s.isFile p → s.isThere p
  which   : ∀ {p found}, s.which p = .ok found → s.isFile found
  resolve : ∀ {p found}, s.isThere p → s.resolve p = .ok found →
    s.isThere found ∧ s.isFile found = s.isFile p

end Surroundings

namespace Files

variable {fs : Files} {cwd : NodeId} {p : Path}

theorem exists?_of_isFile (h : fs.isFile cwd p) : fs.exists? cwd p := by
  simp only [isFile] at h
  simp only [exists?]
  cases hs : fs.stat cwd p <;> simp only [hs] at h
  case ok    => rfl
  case error => cases h

theorem isFile_of_isExecutable (h : fs.isExecutable cwd p) : fs.isFile cwd p := by
  simp only [isExecutable] at h
  simp only [isFile]
  cases hs : fs.stat cwd p <;> simp only [hs] at h
  case error => cases h
  case ok n  => cases n <;> first | rfl | cases h

end Files

-- A machine that works in a directory of its tree.
theorem Machine.surroundings_sound {m : Machine} {names : List String} (ht : m.files.IsTree)
    (hd : m.files.At m.home names) : m.surroundings.Sound where
  file        := Files.exists?_of_isFile
  which h     :=
    have ⟨_, _, hf⟩ := which_eq_ok h
    Files.isFile_of_isExecutable (List.find?_some hf)
  resolve {p found} h hr := by
    have hs : m.files.stat m.home found = m.files.stat m.home p := Files.stat_canonical ht hd hr h
    exact ⟨(congrArg Except.isOk hs).trans h, by simp only [surroundings, Files.isFile, hs]⟩

namespace Binary

variable {here : Surroundings} {role : Role} {explicit : Option Path} {dir p found : Path}
  {chosen : Source}

-- A path that was found is there, and it is a file unless the variable gave what is none.
def Found (here : Surroundings) (source : Source) (found : Path) : Prop :=
  here.isThere found ∧
    (here.isFile found ↔ ∀ value, source = .override value → here.isFile ⟨value⟩)

theorem Found.of_file (hs : ∀ value, chosen ≠ .override value) (h : here.Sound)
    (hf : here.isFile found) : Found here chosen found :=
  ⟨h.file hf, iff_of_true hf fun value he => absurd he (hs value)⟩

theorem Found.resolved (hs : ∀ value, chosen ≠ .override value) (h : here.Sound)
    (hf : here.isFile p) (hr : here.resolve p = .ok found) : Found here chosen found :=
  .of_file hs h ((h.resolve (h.file hf) hr).right.trans hf)

theorem Source.Gives.isFound (h : here.Sound) (ha : chosen.Applies here role explicit dir)
    (hg : chosen.Gives here role dir found) : Found here chosen found := by
  cases chosen <;> simp only [Source.Gives] at hg
  case explicit =>
    split at hg
    case isTrue hf => exact .resolved (by simp) h hf hg
    case isFalse   => exact .of_file (by simp) h (h.which hg)
  case override value =>
    obtain ⟨_, ht, hr⟩ := hg
    obtain ⟨ht, hf⟩ := h.resolve ht hr
    refine ⟨ht, hf ▸ ⟨fun hv value' he => ?_, fun hv => hv value rfl⟩⟩
    cases he
    exact hv
  case engineDir  => exact .resolved (by simp) h ha hg
  case searchPath => exact .of_file (by simp) h (h.which hg)

-- Whatever the machine, a path that was found is there, and it is a regular file if no variable
-- gave it. A variable gives all that is there, whatever that is, and nothing else; what is not
-- found is a launch failure.
theorem found_is_file_unless_overridden (m : Machine) {names : List String}
    (ht : m.files.IsTree) (hd : m.files.At m.home names) (role : Role) (explicit : Option Path)
    (dir : Path) :
    let here := m.surroundings
    (∀ found, (locate here role explicit dir).2 = .ok found →
      here.isThere found ∧ (here.isFile found ↔
        ∀ value, source here role explicit dir = .override value → here.isFile ⟨value⟩)) ∧
    (∀ value, source here role explicit dir = .override value →
      ∀ found, (locate here role explicit dir).2 = .ok found ↔
        value ≠ "" ∧ here.isThere ⟨value⟩ ∧ here.resolve ⟨value⟩ = .ok found) ∧
    ∀ f, (locate here role explicit dir).2 = .error f →
      ∃ reason, f = .launch role.name (.notFound reason) := by
  intro here
  have h : here.Sound := Machine.surroundings_sound ht hd
  have hu := locate_uses here role explicit dir
  refine ⟨fun found hl => ?found, fun value hs found => ?override, hu.failed⟩
  case found    => exact ((hu.found found).mp hl).isFound h hu.applies
  case override =>
    rw [hu.found, hs]
    rfl

theorem shadowed_node {vars : List (String × String)} {id up : NodeId}
    {entries : List (String × NodeId)}
    (h : (shadowed vars).files.node? id = some (.dir up entries)) :
    id = 0 ∧ up = 0 ∧ entries = [("engine", 1)] ∨ id = 1 ∧ up = 0 ∧ entries = [("server", 2)] := by
  obtain _ | _ | _ | n := id <;> simp_all [Files.node?, shadowed, eq_comm]

theorem shadowed_isTree (vars : List (String × String)) : (shadowed vars).files.IsTree where
  root := ⟨_, rfl⟩
  names {id up entries} h := by
    obtain ⟨_, _, rfl⟩ | ⟨_, _, rfl⟩ := shadowed_node h
    all_goals
      rw [List.forall_mem_singleton]
      exact ⟨⟨by decide, by decide⟩, by decide, by decide, by decide, by decide⟩
  lookup {id up entries} h := by
    obtain ⟨_, _, rfl⟩ | ⟨_, _, rfl⟩ := shadowed_node h <;> simp
  parent {id up entries up' entries'} h := by
    obtain ⟨rfl, _, rfl⟩ | ⟨rfl, _, rfl⟩ := shadowed_node h <;>
      rw [List.forall_mem_singleton] <;> intro h' <;> cases h'
    exact ⟨rfl, by decide⟩

-- The variable leads to the server.
theorem found_is_file_unless_overridden_server :
    let m := shadowed [("ST_SERVER_PATH", "/engine/server")]
    m.files.IsTree ∧ m.files.At m.home [] ∧
      (locate m.surroundings .server none ⟨"/"⟩).2 = .ok ⟨"/engine/server"⟩ ∧
      m.surroundings.isFile ⟨"/engine/server"⟩ := by
  intro m
  have ht : m.files.IsTree := shadowed_isTree _
  have hs : m.surroundings.Sound := Machine.surroundings_sound ht .root
  have ⟨hi, hg, _⟩ := found_is_file_unless_overridden m ht .root .server none ⟨"/"⟩
  have ho : source m.surroundings .server none ⟨"/"⟩ = .override "/engine/server" := by
    have hv : m.surroundings.override .server = some "/engine/server" := by decide +kernel
    simp only [source, hv]
  have hw : m.files.spotOfAnyLength m.home true ⟨"/engine/server"⟩ = .ok ⟨1, "server", some 2⟩ := by
    have hs : m.files.walk true Files.mostLinks Files.root false ["engine", "server"] =
        .ok ⟨1, "server", some 2⟩ := by
      rw [Files.walk]
      change m.files.walk true Files.mostLinks 1 false ["server"] = _
      rw [Files.walk]
      rfl
    exact hs
  have hn : m.surroundings.isFile ⟨"/engine/server"⟩ := by
    have hf := Files.find_of_short (by decide) (by decide) hw rfl
    simp only [Machine.surroundings, Files.isFile, Files.stat, hf]
    rfl
  have hr : m.surroundings.resolve ⟨"/engine/server"⟩ = .ok ⟨"/engine/server"⟩ :=
    Files.canonical_eq_ok_iff.mpr ⟨_, 2, hw, rfl, by decide +kernel, by decide⟩
  have hl := (hg _ ho ⟨"/engine/server"⟩).mpr ⟨by decide, hs.file hn, hr⟩
  refine ⟨ht, .root, hl, (hi _ hl).right.mpr fun value hv => ?_⟩
  cases ho.symm.trans hv
  exact hn

-- A variable that leads to a directory is taken for one that leads to a server.
theorem directory_found :
    let m := shadowed [("ST_SERVER_PATH", "/engine")]
    (locate m.surroundings .server none ⟨"/"⟩).2 = .ok ⟨"/engine"⟩ ∧
      ¬m.surroundings.isFile ⟨"/engine"⟩ := by
  intro m
  have ho : source m.surroundings .server none ⟨"/"⟩ = .override "/engine" := by
    have hv : m.surroundings.override .server = some "/engine" := by decide +kernel
    simp only [source, hv]
  have hw : m.files.spotOfAnyLength m.home true ⟨"/engine"⟩ = .ok ⟨0, "engine", some 1⟩ := by
    have hs : m.files.walk true Files.mostLinks Files.root false ["engine"] =
        .ok ⟨0, "engine", some 1⟩ := by
      rw [Files.walk]
      rfl
    exact hs
  have hf := Files.find_of_short (by decide) (by decide) hw rfl
  have ht : m.surroundings.isThere ⟨"/engine"⟩ := by
    simp only [Machine.surroundings, Files.exists?, Files.stat, hf]
    rfl
  have hr : m.surroundings.resolve ⟨"/engine"⟩ = .ok ⟨"/engine"⟩ :=
    Files.canonical_eq_ok_iff.mpr ⟨_, 1, hw, rfl, by decide +kernel, by decide⟩
  have hg : (Source.override "/engine").Gives m.surroundings .server ⟨"/"⟩ ⟨"/engine"⟩ :=
    ⟨by decide, ht, hr⟩
  refine ⟨((locate_uses _ _ _ _).found _).mpr (ho ▸ hg), ?_⟩
  simp only [Machine.surroundings, Files.isFile, Files.stat, hf]
  decide

end Binary

end EngineBench
