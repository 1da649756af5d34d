import EngineBench.Path
import Mathlib.Data.List.Basic

namespace EngineBench

namespace Path

variable {base dir p : Path} {name step : String} {steps : List String} {front rest : List Char}

theorem isAbsolute_iff : p.isAbsolute ↔ ∃ rest, p.chars = '/' :: rest := by
  simp only [isAbsolute, decide_eq_true_eq, List.head?_eq_some_iff]

theorem endsWithSlash_iff : p.endsWithSlash ↔ ∃ front, p.chars = front ++ ['/'] := by
  simp only [endsWithSlash, decide_eq_true_eq, List.getLast?_eq_some_iff]

theorem join_absolute (h : p.isAbsolute) : base.join p = p := by
  simp only [join, h, if_true]

-- What stands between two paths: nothing after an empty path or a slash, and else a slash.
theorem chars_join (base : Path) (h : p.isAbsolute = false) :
    (base.join p).chars = base.chars ++ p.chars ∧
        (base.chars = [] ∨ ∃ front, base.chars = front ++ ['/']) ∨
      (base.join p).chars = base.chars ++ '/' :: p.chars := by
  simp only [join, h, Bool.false_eq_true, if_false]
  split
  case isTrue hb =>
    refine .inl ⟨String.toList_append, ?_⟩
    cases Bool.or_eq_true_iff.mp hb
    case inl he => exact .inl (by rw [chars, String.isEmpty_iff.mp he]; rfl)
    case inr hs => exact .inr (endsWithSlash_iff.mp hs)
  case isFalse =>
    refine .inr ?_
    simp only [chars, String.toList_append, List.append_assoc]
    rfl

theorem isAbsolute_join (hb : base.isAbsolute) : (base.join p).isAbsolute := by
  cases h : p.isAbsolute
  case true => rwa [join_absolute h]
  case false =>
    have ⟨rest, hr⟩ := isAbsolute_iff.mp hb
    refine isAbsolute_iff.mpr ?_
    cases chars_join base h
    case inl hj => exact ⟨_, by rw [hj.1, hr, List.cons_append]⟩
    case inr hj => exact ⟨_, by rw [hj, hr, List.cons_append]⟩

theorem isAbsolute_below (h : base.isAbsolute) : (base.below steps).isAbsolute := by
  induction steps generalizing base
  case nil             => exact h
  case cons step _ hi  => exact hi (isAbsolute_join h)

theorem isAbsolute_placedIn (h : dir.isAbsolute) : (p.placedIn dir).isAbsolute := by
  simp only [placedIn]
  split
  case isTrue ha => exact ha
  case isFalse   => exact isAbsolute_below h

@[simp]
theorem piecesOf_nil : piecesOf [] = [] := by
  decide

@[simp]
theorem piecesOf_append_cons :
    piecesOf (front ++ '/' :: rest) = piecesOf front ++ piecesOf rest := by
  simp only [piecesOf, List.splitOn_append_cons_self, List.map_append, List.filter_append]

theorem piecesOf_cons : piecesOf ('/' :: rest) = piecesOf rest := by
  have h : piecesOf ([] ++ '/' :: rest) = piecesOf [] ++ piecesOf rest := piecesOf_append_cons
  rwa [piecesOf_nil, List.nil_append, List.nil_append] at h

theorem pieces_join (h : p.isAbsolute = false) :
    (base.join p).pieces = base.pieces ++ p.pieces := by
  simp only [pieces]
  obtain ⟨hj, hb | ⟨front, hf⟩⟩ | hj := chars_join base h
  case inl.inl => rw [hj, hb, List.nil_append, piecesOf_nil, List.nil_append]
  case inl.inr =>
    have hb : piecesOf (front ++ ['/']) = piecesOf front := by
      rw [piecesOf_append_cons, piecesOf_nil, List.append_nil]
    rw [hj, hf, hb, List.append_assoc, List.singleton_append, piecesOf_append_cons]
  case inr => rw [hj, piecesOf_append_cons]

-- What a piece looks like: it is not empty, and no slash is in it.
def IsPiece (s : String) : Prop :=
  s ≠ "" ∧ '/' ∉ s.toList

theorem IsPiece.pieces (h : IsPiece step) : pieces ⟨step⟩ = [step] := by
  simp only [Path.pieces, piecesOf, chars, List.splitOn_eq_singleton h.2, List.map_cons,
    String.ofList_toList, List.map_nil]
  simp [h.1]

theorem IsPiece.isAbsolute (h : IsPiece step) : isAbsolute ⟨step⟩ = false := by
  refine Bool.eq_false_iff.mpr fun ha => ?_
  have ⟨rest, hr⟩ := isAbsolute_iff.mp ha
  refine h.2 ?_
  change '/' ∈ chars ⟨step⟩
  rw [hr]
  exact List.mem_cons_self

theorem IsPiece.endsWithSlash_join (h : IsPiece step) :
    endsWithSlash (base.join ⟨step⟩) = false := by
  refine Bool.eq_false_iff.mpr fun hs => h.2 ?_
  have hn : chars ⟨step⟩ ≠ [] := fun he => h.1 (String.toList_eq_nil_iff.mp he)
  have hl : (base.join ⟨step⟩).chars.getLast? = (chars ⟨step⟩).getLast? := by
    obtain ⟨hj, _⟩ | hj := chars_join base h.isAbsolute
    case inl => rw [hj, List.getLast?_append_of_ne_nil base.chars hn]
    case inr =>
      rw [hj, List.getLast?_append_of_ne_nil base.chars (List.cons_ne_nil _ _),
        List.getLast?_cons_of_ne_nil hn]
  exact List.mem_of_getLast? (hl ▸ decide_eq_true_eq.mp hs)

theorem IsPiece.not_mem_join {c : Char} (h : IsPiece step) (hc : c ≠ '/') (hb : c ∉ base.chars)
    (hs : c ∉ step.toList) : c ∉ (base.join ⟨step⟩).chars := by
  have hs : c ∉ chars ⟨step⟩ := hs
  obtain ⟨hj, _⟩ | hj := chars_join base h.isAbsolute
  case inl => rw [hj, List.mem_append, not_or]; exact ⟨hb, hs⟩
  case inr =>
    rw [hj, List.mem_append, List.mem_cons, not_or, not_or]
    exact ⟨hb, hc, hs⟩

-- A path that is put together from pieces has these pieces.
theorem pieces_intercalate {names : List String} (h : ∀ name ∈ names, IsPiece name) :
    pieces ⟨"/".intercalate names⟩ = names := by
  induction names
  case nil => decide
  case cons name rest hi =>
    obtain ⟨hn, hr⟩ := List.forall_mem_cons.mp h
    cases rest
    case nil           => rw [String.intercalate_singleton, hn.pieces]
    case cons next rest =>
      have hp := hi hr
      have hs := hn.pieces
      simp only [pieces, chars] at hp hs ⊢
      have hj : ("/".intercalate (name :: next :: rest)).toList =
          name.toList ++ '/' :: ("/".intercalate (next :: rest)).toList := by
        rw [String.intercalate_cons_cons, String.toList_append, String.toList_append,
          List.append_assoc]
        rfl
      rw [hj, piecesOf_append_cons, hp, hs, List.singleton_append]

theorem not_mem_intercalate {c : Char} {names : List String} (hc : c ≠ '/')
    (h : ∀ name ∈ names, c ∉ name.toList) : c ∉ chars ⟨"/".intercalate names⟩ := by
  induction names
  case nil => simp [chars]
  case cons name rest hi =>
    obtain ⟨hn, hr⟩ := List.forall_mem_cons.mp h
    cases rest
    case nil            => rwa [String.intercalate_singleton]
    case cons next rest =>
      have hs := hi hr
      simp only [chars, String.intercalate_cons_cons, String.toList_append, List.mem_append] at hs ⊢
      rintro ((hm | hm) | hm)
      · exact hn hm
      · exact hc (List.mem_singleton.mp hm)
      · exact hs hm

-- A name that a path ends in is the one it ends in further down.
theorem name?_join (h : p.name? = some name) : (base.join p).name? = some name := by
  cases ha : p.isAbsolute
  case true  => rwa [join_absolute ha]
  case false =>
    simp only [name?] at *
    rw [pieces_join ha, List.getLast?_append, h]
    rfl

end Path

end EngineBench
