import EngineBench.Files.Tree
import EngineBench.Proofs.Path
import Mathlib.Data.List.Perm.Subperm

namespace EngineBench

namespace Files

def IsDir (fs : Files) (id : NodeId) : Prop :=
  ∃ parent entries, fs.node? id = some (.dir parent entries)

-- What a directory may call its entries.
structure IsName (s : String) : Prop where
  piece  : Path.IsPiece s
  plain  : '\x00' ∉ s.toList
  notDot : s ≠ "."
  notUp  : s ≠ ".."
  short  : s.utf8ByteSize ≤ longestName

-- Each entry goes by a name of its own, and a directory knows the one it is in. Only the root is in
-- itself.
structure IsTree (fs : Files) : Prop where
  root   : ∃ entries, fs.node? Files.root = some (.dir Files.root entries)
  names  : ∀ {dir up entries}, fs.node? dir = some (.dir up entries) → ∀ e ∈ entries, IsName e.1
  lookup : ∀ {dir up entries}, fs.node? dir = some (.dir up entries) →
    ∀ e ∈ entries, entries.lookup e.1 = some e.2
  parent : ∀ {dir up entries up' entries'}, fs.node? dir = some (.dir up entries) →
    ∀ e ∈ entries, fs.node? e.2 = some (.dir up' entries') → up' = dir ∧ e.2 ≠ Files.root

-- The directories that names lead to from the root on.
inductive At (fs : Files) : NodeId → List String → Prop
  | root  : fs.At root []
  | entry {dir child up entries step names} : fs.At dir names →
    fs.node? dir = some (.dir up entries) → entries.lookup step = some child → fs.IsDir child →
    fs.At child (names ++ [step])

-- Where a walk that follows links ends: nowhere, in a directory, or at something else that a
-- directory has.
inductive Lands (fs : Files) (s : Spot) : Prop
  | nowhere : s.node = none → Lands fs s
  | directory : s.node = some node → fs.At node names → Lands fs s
  | leaf {node up entries names} : s.node = some node → fs.At s.dir names →
    fs.node? s.dir = some (.dir up entries) → entries.lookup s.step = some node →
    ¬fs.IsDir node → (∀ target, fs.node? node ≠ some (.link target)) → Lands fs s

variable {fs : Files} {dir id up cwd cwd' : NodeId} {names rest : List String} {step : String}
  {entries : List (String × NodeId)} {p found : Path} {links : Nat} {slash follow : Bool}

theorem mem_of_lookup (h : entries.lookup step = some id) : (step, id) ∈ entries := by
  obtain ⟨_, _, rfl, _⟩ := List.lookup_eq_some_iff.mp h
  exact List.mem_append_right _ List.mem_cons_self

namespace At

theorem isDir (h : fs.At id names) (ht : fs.IsTree) : fs.IsDir id := by
  cases h
  case root          => exact ⟨_, ht.root⟩
  case entry _ _ _ h => exact h

theorem isName (h : fs.At id names) (ht : fs.IsTree) : ∀ name ∈ names, IsName name := by
  induction h
  case root => simp
  case entry hn hl _ hi =>
    intro name hm
    cases List.mem_append.mp hm
    case inl hm => exact hi name hm
    case inr hm => exact List.mem_singleton.mp hm ▸ ht.names hn _ (mem_of_lookup hl)

theorem parent (h : fs.At id names) (ht : fs.IsTree)
    (hp : fs.node? id = some (.dir up entries)) : ∃ names', fs.At up names' := by
  cases h
  case root =>
    obtain ⟨_, hr⟩ := ht.root
    cases hr.symm.trans hp
    exact ⟨_, .root⟩
  case entry hd hn hl _ =>
    obtain ⟨rfl, _⟩ := ht.parent hn _ (mem_of_lookup hl) hp
    exact ⟨_, hd⟩

-- A directory is as deep as it is, whatever names lead to it.
theorem length_eq {names' : List String} (h : fs.At id names) (h' : fs.At id names')
    (ht : fs.IsTree) : names.length = names'.length := by
  induction h generalizing names'
  case root =>
    cases h'
    case root => rfl
    case entry hn hl hd =>
      obtain ⟨_, _, hd⟩ := hd
      exact absurd rfl (ht.parent hn _ (mem_of_lookup hl) hd).right
  case entry hn hl hd hi =>
    obtain ⟨_, _, hd⟩ := hd
    obtain ⟨rfl, hr⟩ := ht.parent hn _ (mem_of_lookup hl) hd
    cases h'
    case root => exact absurd rfl hr
    case entry h' hn' hl' _ =>
      obtain ⟨rfl, _⟩ := ht.parent hn' _ (mem_of_lookup hl') hd
      rw [List.length_append, List.length_append, hi h']
      rfl

-- The directories on the way are all different, since each lies deeper than the ones before.
theorem exists_way (h : fs.At id names) (ht : fs.IsTree) :
    ∃ way : List NodeId, way.length = names.length + 1 ∧ way.Nodup ∧
      ∀ dir ∈ way, fs.IsDir dir ∧ ∃ above, fs.At dir above ∧ above.length ≤ names.length := by
  induction h
  case root =>
    refine ⟨[Files.root], rfl, by simp, fun dir hm => ?_⟩
    rw [List.mem_singleton] at hm
    exact hm ▸ ⟨⟨_, ht.root⟩, [], .root, Nat.le_refl _⟩
  case entry dir id up entries step above hd hn hl hs hi =>
    obtain ⟨way, hw, hu, hm⟩ := hi
    have hid : fs.At id (above ++ [step]) := .entry hd hn hl hs
    refine ⟨id :: way, by simp [hw], List.nodup_cons.mpr ⟨fun hw => ?new, hu⟩, ?dirs⟩
    case new =>
      obtain ⟨_, above', ha, hl⟩ := hm id hw
      have he := length_eq hid ha ht
      simp only [List.length_append, List.length_singleton] at he
      omega
    case dirs =>
      refine List.forall_mem_cons.mpr ⟨⟨hs, _, hid, Nat.le_refl _⟩, fun dir' hm' => ?_⟩
      obtain ⟨hd', above', ha, hl⟩ := hm dir' hm'
      exact ⟨hd', above', ha, by simp; omega⟩

theorem length_le (h : fs.At id names) (ht : fs.IsTree) : names.length ≤ fs.nodes.size := by
  obtain ⟨way, hw, hu, hm⟩ := h.exists_way ht
  have hs : way ⊆ List.range fs.nodes.size := fun dir hd => by
    obtain ⟨⟨_, _, hn⟩, _⟩ := hm dir hd
    exact List.mem_range.mpr (Array.getElem?_eq_some_iff.mp hn).1
  have hl := (List.subperm_of_subset hu hs).length_le
  rw [hw, List.length_range] at hl
  omega

-- Going up from a directory gives names that lead there.
theorem above {height : Nat} (h : fs.At id names) (ht : fs.IsTree) (hh : names.length ≤ height) :
    fs.At id (fs.above height id) := by
  induction h generalizing height
  case root =>
    cases height
    case zero   => exact .root
    case succ _ =>
      obtain ⟨_, hr⟩ := ht.root
      simp only [Files.above, hr, if_true]
      exact .root
  case entry dir id up entries step above hd hn hl hs hi =>
    cases height
    case zero => simp at hh
    case succ height =>
      have ⟨parent', entries', hp⟩ := hs
      obtain ⟨rfl, hr⟩ := ht.parent hn _ (mem_of_lookup hl) hp
      have hu : fs.At parent' (fs.above height parent') := by
        refine hi ?_
        simp only [List.length_append, List.length_singleton] at hh
        omega
      cases hf : entries.find? (·.2 = id)
      case none =>
        have := List.find?_eq_none.mp hf _ (mem_of_lookup hl)
        simp at this
      case some e =>
        have he : e.2 = id := by simpa using List.find?_some hf
        have hk := ht.lookup hn e (List.mem_of_find?_eq_some hf)
        simp only [Files.above, hp, if_neg hr, nameIn, hn, hf, Option.map_some, Option.getD_some]
        exact .entry hu hn (he ▸ hk) hs

end At

theorem child_entry (ht : fs.IsTree) (hn : fs.node? dir = some (.dir up entries))
    (hl : entries.lookup step = some id) : fs.child dir step = .ok (some id) := by
  have hs := ht.names hn _ (mem_of_lookup hl)
  simp only [child, hn, if_neg hs.notDot, if_neg hs.notUp, if_neg (Nat.not_lt.mpr hs.short), hl]

theorem walk_into (hc : fs.child dir step = .ok (some id)) (hd : fs.IsDir id) :
    fs.walk follow links dir slash (step :: rest) =
      if rest.isEmpty then .ok ⟨dir, step, some id⟩ else fs.walk follow links id slash rest := by
  obtain ⟨_, _, hd⟩ := hd
  rw [walk]
  simp only [hc, hd]

theorem At.walk (h : fs.At id names) (ht : fs.IsTree) (hr : rest ≠ []) :
    fs.walk follow links Files.root slash (names ++ rest) = fs.walk follow links id slash rest := by
  induction h generalizing rest
  case root => rfl
  case entry hd hn hl hs hi =>
    rw [List.append_assoc, List.singleton_append, hi (List.cons_ne_nil _ _),
      walk_into (child_entry ht hn hl) hs, if_neg (by simpa using hr)]

-- A directory is found by the names that lead there, and what is in it by one name more.
theorem At.find (h : fs.At id names) (ht : fs.IsTree) :
    ∃ dir step, fs.walk follow links Files.root slash names = .ok ⟨dir, step, some id⟩ := by
  cases h
  case root => exact ⟨Files.root, ".", by rw [Files.walk]⟩
  case entry dir up entries step names hd hn hl hs =>
    refine ⟨dir, step, ?_⟩
    rw [hd.walk ht (List.cons_ne_nil _ _), walk_into (child_entry ht hn hl) hs]
    rfl

theorem At.child_cases (h : fs.At dir names) (ht : fs.IsTree)
    (hc : fs.child dir step = .ok (some id)) : (∃ names', fs.At id names') ∨
      ∃ up entries, fs.node? dir = some (.dir up entries) ∧ entries.lookup step = some id := by
  obtain ⟨up, entries, hn⟩ := h.isDir ht
  simp only [child, hn] at hc
  split at hc
  case isTrue => cases hc; exact .inl ⟨_, h⟩
  case isFalse =>
    split at hc
    case isTrue => cases hc; exact .inl (h.parent ht hn)
    case isFalse =>
      split at hc
      case isTrue  => cases hc
      case isFalse => exact .inr ⟨up, entries, hn, Except.ok.inj hc⟩

theorem At.child (h : fs.At dir names) (ht : fs.IsTree) (hc : fs.child dir step = .ok (some id))
    (hs : fs.IsDir id) : ∃ names', fs.At id names' := by
  obtain ha | ⟨up, entries, hn, hl⟩ := h.child_cases ht hc
  case inl => exact ha
  case inr => exact ⟨_, .entry h hn hl hs⟩

theorem At.startOf (h : fs.At dir names) (p : Path) : ∃ names', fs.At (startOf p dir) names' := by
  simp only [Files.startOf]
  split
  case isTrue  => exact ⟨_, .root⟩
  case isFalse => exact ⟨_, h⟩

-- One case for each way a walk goes on or ends; a link is never where it ends.
theorem walk_lands {s : Spot} {steps : List String} (ht : fs.IsTree) (hd : fs.At dir names)
    (h : fs.walk true links dir slash steps = .ok s) : fs.Lands s := by
  induction links, dir, slash, steps using walk.induct fs true generalizing names <;>
    rw [walk] at h
  case case1 => cases h; exact .directory rfl hd
  case case2 hc => simp only [hc] at h; cases h
  case case3 hc hr => simp only [hc, if_pos hr] at h; cases h; exact .nowhere rfl
  case case4 hc hr => simp only [hc, if_neg hr] at h; cases h
  case case5 hc _ hn hr => simp at hr
  case case6 hc _ hn hr => simp only [hc, hn, if_neg hr] at h; cases h
  case case7 hc target hn hr links _ hi =>
    simp only [hc, hn, if_neg hr] at h
    obtain ⟨_, hs⟩ := hd.startOf ⟨target⟩
    exact hi hs h
  case case8 hc _ _ hn hr =>
    simp only [hc, hn, if_pos hr] at h
    cases h
    obtain ⟨_, hs⟩ := hd.child ht hc ⟨_, _, hn⟩
    exact .directory rfl hs
  case case9 hc _ _ hn hr hi =>
    simp only [hc, hn, if_neg hr] at h
    obtain ⟨_, hs⟩ := hd.child ht hc ⟨_, _, hn⟩
    exact hi hs h
  case case10 hc hr hl hn =>
    simp only [hc, if_pos hr] at h
    cases h
    obtain ⟨_, hs⟩ | ⟨_, _, hp, he⟩ := hd.child_cases ht hc
    case inl => exact .directory rfl hs
    case inr => exact .leaf rfl hd hp he (fun ⟨_, _, h⟩ => hn _ _ h) hl
  case case11 hc hr hl hn =>
    simp only [hc, if_neg hr] at h
    cases h

theorem chars_pathOf (fs : Files) (id : NodeId) :
    (fs.pathOf id).chars = '/' :: Path.chars ⟨"/".intercalate (fs.above fs.nodes.size id)⟩ := by
  simp only [pathOf, Path.chars, String.toList_append]
  rfl

-- The path of a directory is made of names that lead there.
theorem At.pathOf (h : fs.At id names) (ht : fs.IsTree) :
    fs.At id (fs.pathOf id).pieces ∧ '\x00' ∉ (fs.pathOf id).chars := by
  have ha := h.above ht (h.length_le ht)
  have hn := ha.isName ht
  refine ⟨?pieces, ?nul⟩
  case pieces =>
    rw [Path.pieces, chars_pathOf, Path.piecesOf_cons]
    have hp := Path.pieces_intercalate fun name hm => (hn name hm).piece
    rw [Path.pieces] at hp
    rwa [hp]
  case nul =>
    rw [chars_pathOf, List.mem_cons, not_or]
    exact ⟨by decide, Path.not_mem_intercalate (by decide) fun name hm => (hn name hm).plain⟩

theorem pathOf_absolute (fs : Files) (id : NodeId) : (fs.pathOf id).isAbsolute :=
  Path.isAbsolute_iff.mpr ⟨_, chars_pathOf fs id⟩

theorem pathAt_absolute (fs : Files) (dir : NodeId) (step : String) (id : NodeId) :
    (fs.pathAt dir step id).isAbsolute := by
  simp only [pathAt]
  split
  case h_1 => exact pathOf_absolute ..
  case h_2 => exact Path.isAbsolute_join (pathOf_absolute ..)

theorem spotOfAnyLength_eq (ha : p.isAbsolute) (hz : '\x00' ∉ p.chars) :
    fs.spotOfAnyLength cwd true p = fs.walk true mostLinks Files.root p.endsWithSlash p.pieces := by
  have hc : p.chars.contains '\x00' = false := by simpa using hz
  have he : p.text.isEmpty = false := by
    obtain ⟨rest, hr⟩ := Path.isAbsolute_iff.mp ha
    refine Bool.eq_false_iff.mpr fun he => ?_
    rw [Path.chars, String.isEmpty_iff.mp he] at hr
    cases hr
  simp only [spotOfAnyLength, hc, he, Files.startOf, ha, if_true]
  rfl

-- From wherever it is walked, the path of what a walk ended at ends there again.
theorem Lands.pathAt {s : Spot} (h : fs.Lands s) (ht : fs.IsTree) (hn : s.node = some id)
    (cwd : NodeId) :
    '\x00' ∉ (fs.pathAt s.dir s.step id).chars ∧ ∃ dir step,
      fs.spotOfAnyLength cwd true (fs.pathAt s.dir s.step id) = .ok ⟨dir, step, some id⟩ := by
  cases h
  case nowhere h => cases h.symm.trans hn
  case directory hs hd =>
    cases hs.symm.trans hn
    obtain ⟨hp, hz⟩ := hd.pathOf ht
    obtain ⟨_, _, hi⟩ := hd.isDir ht
    have ha : fs.pathAt s.dir s.step id = fs.pathOf id := by
      simp only [Files.pathAt, hi]
    rw [ha, spotOfAnyLength_eq (pathOf_absolute fs id) hz]
    exact ⟨hz, hp.find ht⟩
  case leaf hs hd hi hl hf hk =>
    cases hs.symm.trans hn
    obtain ⟨hp, hz⟩ := hd.pathOf ht
    have hs := ht.names hi _ (mem_of_lookup hl)
    have ha : fs.pathAt s.dir s.step id = (fs.pathOf s.dir).join ⟨s.step⟩ := by
      simp only [Files.pathAt]
      split
      case h_1 h => exact absurd ⟨_, _, h⟩ hf
      case h_2   => rfl
    have hz : '\x00' ∉ ((fs.pathOf s.dir).join ⟨s.step⟩).chars :=
      hs.piece.not_mem_join (by decide) hz hs.plain
    refine ha ▸ ⟨hz, s.dir, s.step, ?_⟩
    rw [spotOfAnyLength_eq (Path.isAbsolute_join (pathOf_absolute fs s.dir)) hz,
      hs.piece.endsWithSlash_join, Path.pieces_join hs.piece.isAbsolute, hs.piece.pieces,
      hp.walk ht (List.cons_ne_nil _ _), Files.walk]
    simp only [child_entry ht hi hl]
    split
    case h_1 h => exact absurd h (hk _)
    case h_2 h => exact absurd ⟨_, _, h⟩ hf
    case h_3   => rfl

theorem canonical_eq_ok_iff : fs.canonical cwd p = .ok found ↔
    ∃ s id, fs.spotOfAnyLength cwd true p = .ok s ∧ s.node = some id ∧
      found = fs.pathAt s.dir s.step id ∧ found.text.utf8ByteSize ≤ longestPath := by
  simp only [canonical]
  constructor
  case mp =>
    intro h
    cases hs : fs.spotOfAnyLength cwd true p <;> rw [hs] at h
    case error => cases h
    case ok s =>
      cases hn : s.node <;> simp only [bind, Except.bind, hn] at h
      case none => cases h
      case some id =>
        split at h <;> cases h
        case isFalse hl => exact ⟨s, id, rfl, hn, rfl, Nat.not_lt.mp hl⟩
  case mpr =>
    rintro ⟨s, id, hs, hn, rfl, hl⟩
    simp only [hs, bind, Except.bind, hn, if_neg (Nat.not_lt.mpr hl)]
    rfl

theorem canonical_absolute (h : fs.canonical cwd p = .ok found) : found.isAbsolute := by
  obtain ⟨_, _, _, _, rfl, _⟩ := canonical_eq_ok_iff.mp h
  exact pathAt_absolute ..

theorem spotOfAnyLength_lands {s : Spot} (ht : fs.IsTree) (hd : fs.At cwd names)
    (h : fs.spotOfAnyLength cwd true p = .ok s) : fs.Lands s := by
  simp only [spotOfAnyLength] at h
  split at h
  case isTrue => cases h
  case isFalse =>
    split at h
    case isTrue => cases h
    case isFalse =>
      obtain ⟨_, hs⟩ := hd.startOf p
      exact walk_lands ht hs h

theorem spot_eq_ok {s : Spot} (h : fs.spot cwd follow p = .ok s) :
    fs.spotOfAnyLength cwd follow p = .ok s := by
  simp only [spot] at h
  split at h
  case isTrue => cases h
  case isFalse =>
    split at h
    case isTrue  => cases h
    case isFalse => exact h

theorem spot_of_short (hz : '\x00' ∉ p.chars) (hl : p.text.utf8ByteSize ≤ longestPath) :
    fs.spot cwd follow p = fs.spotOfAnyLength cwd follow p := by
  have hc : p.chars.contains '\x00' = false := by simpa using hz
  simp only [spot, hc, if_neg (Nat.not_lt.mpr hl)]
  rfl

theorem find_of_short {s : Spot} (hz : '\x00' ∉ p.chars) (hl : p.text.utf8ByteSize ≤ longestPath)
    (hs : fs.spotOfAnyLength cwd follow p = .ok s) (hn : s.node = some id) :
    fs.find cwd follow p = .ok id := by
  simp only [find, spot_of_short hz hl, hs, bind, Except.bind, hn]
  rfl

-- A path that leads somewhere and the canonical one lead to the same.
theorem stat_canonical (ht : fs.IsTree) (hd : fs.At cwd names)
    (h : fs.canonical cwd p = .ok found) (he : fs.exists? cwd p) :
    fs.stat cwd' found = fs.stat cwd p := by
  obtain ⟨s, id, hs, hn, rfl, hl⟩ := canonical_eq_ok_iff.mp h
  obtain ⟨hz, dir, step, hw⟩ := (spotOfAnyLength_lands ht hd hs).pathAt ht hn cwd'
  have hf : fs.find cwd' true (fs.pathAt s.dir s.step id) = .ok id := find_of_short hz hl hw rfl
  have hp : fs.find cwd true p = .ok id := by
    cases hq : fs.spot cwd true p
    case error e => simp only [exists?, stat, find, hq] at he; cases he
    case ok s' =>
      cases (spot_eq_ok hq).symm.trans hs
      simp only [find, hq, hn, bind, Except.bind]
      rfl
  simp only [stat, hf, hp]

end Files

end EngineBench
