import EngineBench.Live.Config
import EngineBench.Proofs.Action
import EngineBench.Proofs.Files.Canonical
import EngineBench.Proofs.Live.Preference

namespace EngineBench

variable {role : Role} {explicit : Option Path} {dir p found : Path}

namespace Path

-- A path that only says what a program is called, and not where it is.
def IsBare (p : Path) : Prop :=
  p.isAbsolute = false ∧ p.hasDirectory = false

end Path

namespace Surroundings

-- Surroundings in which a path that says where something is can be given from the root on: it is
-- resolved to such a path, and the search takes it to be meant from the working directory on.
structure Rooted (s : Surroundings) : Prop where
  resolve : ∀ {p resolved}, s.resolve p = .ok resolved → resolved.isAbsolute
  placed  : ∀ {p found}, ¬p.IsBare → s.which p = .ok found → found.isAbsolute

-- The first of the entries that has the program, with the entry as it is written.
def FirstOf (entries : List Path) (isProgram : Path → Bool) (p found : Path) : Prop :=
  ∃ before entry after, entries = before ++ entry :: after ∧ found = entry.join p ∧
    isProgram found ∧ ∀ other ∈ before, ¬isProgram (other.join p)

-- A search that goes through the entries of a search path and does nothing else with them.
def Searches (s : Surroundings) (entries : List Path) (isProgram : Path → Bool) : Prop :=
  ∀ {p found}, p.IsBare → (s.which p = .ok found ↔ FirstOf entries isProgram p found)

variable {s : Surroundings} {entries : List Path} {isProgram : Path → Bool}

theorem FirstOf.absolute (h : FirstOf entries isProgram p found)
    (he : ∀ entry ∈ entries, entry.isAbsolute) : found.isAbsolute := by
  obtain ⟨before, entry, after, rfl, rfl, _, _⟩ := h
  exact Path.isAbsolute_join (he entry (by simp))

theorem Searches.which_absolute (hw : s.Searches entries isProgram) (h : s.Rooted)
    (he : ∀ entry ∈ entries, entry.isAbsolute) (hf : s.which p = .ok found) :
    found.isAbsolute := by
  by_cases hb : p.IsBare
  case pos => exact ((hw hb).mp hf).absolute he
  case neg => exact h.placed hb hf

end Surroundings

namespace Binary

variable {here : Surroundings}

-- What is searched for, if the source does not say where the binary is.
def Source.sought? (here : Surroundings) (role : Role) : Source → Option Path
  | .explicit path => if here.isFile path then none else some path
  | .override _ | .engineDir => none
  | .searchPath => some ⟨role.name⟩

theorem Source.Gives.which {source : Source} (hg : source.Gives here role dir found)
    (hs : source.sought? here role = some p) : here.which p = .ok found := by
  cases source <;> simp only [Source.Gives, Source.sought?] at hg hs
  case explicit =>
    split at hs
    case isTrue     => cases hs
    case isFalse hf => cases hs; rwa [if_neg hf] at hg
  case override   => cases hs
  case engineDir  => cases hs
  case searchPath => cases hs; exact hg

theorem Source.Gives.absolute {source : Source} (h : here.Rooted)
    (hg : source.Gives here role dir found) (hs : source.sought? here role = none) :
    found.isAbsolute := by
  cases source <;> simp only [Source.Gives, Source.sought?] at hg hs
  case explicit =>
    split at hs
    case isTrue hf => exact h.resolve (if_pos hf ▸ hg)
    case isFalse   => cases hs
  case override   => exact h.resolve hg.right.right
  case engineDir  => exact h.resolve hg
  case searchPath => cases hs

end Binary

namespace Config

end Config

namespace Setup

variable {here : Surroundings} {setup : Setup} {log log' : Log} {c : Config}

end Setup

-- On a machine the search makes every place absolute.
theorem Machine.which_absolute {m : Machine} (h : m.which p = .ok found) : found.isAbsolute := by
  have ⟨places, hc, hf⟩ := which_eq_ok h
  have hm := List.mem_of_find?_eq_some hf
  simp only [candidates] at hc
  split at hc
  case isTrue =>
    cases hc
    rw [List.mem_singleton.mp hm]
    exact Path.isAbsolute_placedIn (Files.pathOf_absolute ..)
  case isFalse =>
    split at hc
    case h_1 => cases hc
    case h_2 =>
      cases hc
      obtain ⟨entry, _, rfl⟩ := List.mem_map.mp hm
      exact Path.isAbsolute_placedIn (Files.pathOf_absolute ..)

theorem Machine.surroundings_rooted (m : Machine) : m.surroundings.Rooted where
  resolve    := Files.canonical_absolute
  placed _ h := which_absolute h

end EngineBench
