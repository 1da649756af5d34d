import EngineBench.Toml.Document

namespace EngineBench

-- Where names are distinct, a look-up finds just what is there.
theorem lookup_eq_some_iff_mem {α : Type} {l : List (String × α)} {name : String} {a : α}
    (h : (l.map Prod.fst).Nodup) : l.lookup name = some a ↔ (name, a) ∈ l := by
  rw [List.lookup_eq_some_iff]
  constructor
  case mp =>
    rintro ⟨before, after, rfl, -⟩
    exact List.mem_append_right _ (List.mem_cons_self ..)
  case mpr =>
    intro hm
    obtain ⟨before, after, rfl⟩ := List.append_of_mem hm
    refine ⟨before, after, rfl, fun p hp => ?_⟩
    rw [List.map_append, List.map_cons] at h
    have hn := (List.nodup_append.mp h).2.2 p.1 (List.mem_map_of_mem hp) name
      (List.mem_cons_self ..)
    simpa using fun he => hn he.symm

namespace Toml

def Entries.keys (t : Entries) : List String :=
  t.map Prod.fst

-- No table names a key twice, and neither do the tables inside it.
inductive Value.Distinct : Value → Prop
  | string : Distinct (.string text)
  | integer : Distinct (.integer n)
  | float : Distinct (.float text)
  | boolean : Distinct (.boolean b)
  | dateTime : Distinct (.dateTime text)
  | array : (∀ v ∈ items, Distinct v) → Distinct (.array items)
  | table : (Entries.keys t).Nodup → (∀ e ∈ t, Distinct e.2) → Distinct (.table origin t)
  | tables : (∀ t ∈ last :: before, (Entries.keys t).Nodup) →
    (∀ t ∈ last :: before, ∀ e ∈ t, Distinct e.2) → Distinct (.tables last before)

namespace Entries

structure Distinct (t : Entries) : Prop where
  keys   : (keys t).Nodup
  values : ∀ e ∈ t, e.2.Distinct

variable {t t' : Entries} {key : String} {value : Value}

theorem Distinct.nil : Distinct [] :=
  ⟨List.nodup_nil, List.forall_mem_nil _⟩

theorem Distinct.table {origin : Origin} (h : t.Distinct) : (Value.table origin t).Distinct :=
  .table h.keys h.values

theorem distinct_of_table {origin : Origin} (h : (Value.table origin t).Distinct) : t.Distinct := by
  cases h
  case table hk hv => exact ⟨hk, hv⟩

theorem distinct_tables_iff {last : Entries} {before : List Entries} :
    (Value.tables last before).Distinct ↔ ∀ t ∈ last :: before, Distinct t where
  mp h := by
    cases h
    case tables hk hv => exact fun t ht => ⟨hk t ht, hv t ht⟩
  mpr h := .tables (fun t ht => (h t ht).keys) fun t ht => (h t ht).values

theorem Distinct.lookup (h : t.Distinct) (hl : t.lookup key = some value) : value.Distinct :=
  h.values _ ((lookup_eq_some_iff_mem h.keys).mp hl)

theorem mem_keys_put {k : String} : k ∈ keys (t.put key value) ↔ k = key ∨ k ∈ keys t := by
  induction t
  case nil => simp [put, keys]
  case cons e rest hi =>
    simp only [keys] at hi
    simp only [put]
    split
    case isTrue h  => simp [keys, h]
    case isFalse h => simp [keys, hi, or_left_comm]

theorem put_nodup (h : (keys t).Nodup) : (keys (t.put key value)).Nodup := by
  induction t
  case nil => simp [put, keys]
  case cons e rest hi =>
    have ⟨he, hr⟩ := List.nodup_cons.mp h
    simp only [put]
    split
    case isTrue hk  => exact List.nodup_cons.mpr ⟨hk ▸ he, hr⟩
    case isFalse hk =>
      exact List.nodup_cons.mpr ⟨fun hm => (mem_keys_put.mp hm).elim hk he, hi hr⟩

theorem mem_put {e : String × Value} (h : e ∈ t.put key value) : e.2 = value ∨ e ∈ t := by
  induction t
  case nil => simp only [put, List.mem_singleton] at h; exact .inl (h ▸ rfl)
  case cons e' rest hi =>
    simp only [put] at h
    split at h
    case isTrue =>
      obtain rfl | h := List.mem_cons.mp h
      case inl => exact .inl rfl
      case inr => exact .inr (List.mem_cons_of_mem _ h)
    case isFalse =>
      obtain rfl | h := List.mem_cons.mp h
      case inl => exact .inr (List.mem_cons_self ..)
      case inr => exact (hi h).imp_right (List.mem_cons_of_mem _)

theorem Distinct.put (h : t.Distinct) (hv : value.Distinct) : (t.put key value).Distinct :=
  ⟨put_nodup h.keys, fun _ he => (mem_put he).elim (fun hn => hn ▸ hv) (h.values _)⟩

theorem change_distinct {o origin : Origin} {f : Origin → Entries → Option Entries}
    {path : List String}
    (hf : ∀ origin t t', Distinct t → f origin t = some t' → Distinct t') (ht : t.Distinct)
    (h : change o f origin path t = some t') : t'.Distinct := by
  induction path generalizing origin t t'
  case nil => exact hf origin t t' ht h
  case cons key path hi =>
    simp only [change] at h
    split at h
    case h_1 =>
      have ⟨inner, hn, h⟩ := Option.bind_eq_some_iff.mp h
      cases h
      exact ht.put (hi .nil hn).table
    case h_2 hl =>
      split at h
      case isTrue  => cases h
      case isFalse =>
        have ⟨inner, hn, h⟩ := Option.bind_eq_some_iff.mp h
        cases h
        exact ht.put (hi (distinct_of_table (ht.lookup hl)) hn).table
    case h_3 hl =>
      have ⟨inner, hn, h⟩ := Option.bind_eq_some_iff.mp h
      cases h
      have ⟨hx, hb⟩ := List.forall_mem_cons.mp (distinct_tables_iff.mp (ht.lookup hl))
      exact ht.put (distinct_tables_iff.mpr (List.forall_mem_cons.mpr ⟨hi hx hn, hb⟩))
    case h_4 => cases h

theorem addValue_distinct {origin : Origin} {path : List String} (hv : value.Distinct)
    (ht : t.Distinct) (h : addValue path key value origin t = some t') : t'.Distinct := by
  refine change_distinct (fun origin t t' ht h => ?_) ht h
  split at h
  case isTrue  => cases h
  case isFalse =>
    split at h
    case isTrue  => cases h
    case isFalse => cases h; exact ht.put hv

theorem addUnder_distinct {opened path : List String} (hv : value.Distinct) (ht : t.Distinct)
    (h : addUnder opened path key value t = some t') : t'.Distinct :=
  change_distinct (fun _ _ _ => addValue_distinct hv) ht h

theorem openTable_distinct {path : List String} (ht : t.Distinct)
    (h : openTable path key t = some t') : t'.Distinct := by
  refine change_distinct (fun origin t t' ht h => ?_) ht h
  split at h
  case h_1    => cases h; exact ht.put Distinct.nil.table
  case h_2 hl => cases h; exact ht.put (distinct_of_table (ht.lookup hl)).table
  case h_3    => cases h

theorem openElement_distinct {path : List String} (ht : t.Distinct)
    (h : openElement path key t = some t') : t'.Distinct := by
  refine change_distinct (fun origin t t' ht h => ?_) ht h
  split at h
  case h_1 =>
    cases h
    exact ht.put (distinct_tables_iff.mpr (List.forall_mem_singleton.mpr .nil))
  case h_2 hl =>
    cases h
    have hd := distinct_tables_iff.mp (ht.lookup hl)
    exact ht.put (distinct_tables_iff.mpr (List.forall_mem_cons.mpr ⟨.nil, hd⟩))
  case h_3 => cases h

end Entries

namespace Reader

variable {α β : Type} {r : Reader α} {f : α → Reader β}

-- What holds of all that a reader gives.
def Gives (r : Reader α) (P : α → Prop) : Prop :=
  ∀ size text a rest, r size text = some (a, rest) → P a

namespace Gives

variable {P : α → Prop} {Q : β → Prop}

theorem pure {a : α} (h : P a) : Gives (Pure.pure a) P := by
  intro size text a' rest ha
  cases ha
  exact h

theorem fail : Gives (failure : Reader α) P := by
  intro size text a rest ha
  cases ha

theorem bind (hr : r.Gives P) (hf : ∀ a, P a → (f a).Gives Q) : (r >>= f).Gives Q := by
  intro size text b rest hb
  have ⟨p, hp, hb⟩ := Option.bind_eq_some_iff.mp hb
  exact hf p.1 (hr _ _ _ _ hp) _ _ _ _ hb

theorem any : r.Gives fun _ => True :=
  fun _ _ _ _ _ => trivial

-- What a reader does first does not matter for what holds of all it gives.
theorem after (hf : ∀ a, (f a).Gives Q) : (r >>= f).Gives Q :=
  bind any fun a _ => hf a

theorem ite {c : Prop} [Decidable c] {r' : Reader α} (h : r.Gives P) (h' : r'.Gives P) :
    (if c then r else r').Gives P := by
  split
  case isTrue  => exact h
  case isFalse => exact h'

theorem orElse {r' : Reader α} (h : r.Gives P) (h' : r'.Gives P) : (r <|> r').Gives P := by
  intro size text a rest ha
  cases hr : r size text
  case none =>
    have he : (r <|> r') size text = r' size text := by
      change Option.orElse (r size text) (fun _ => r' size text) = _
      rw [hr]
      rfl
    exact h' _ _ _ _ (he ▸ ha)
  case some p =>
    have he : (r <|> r') size text = r size text := by
      change Option.orElse (r size text) (fun _ => r' size text) = _
      rw [hr]
      rfl
    exact h _ _ _ _ (he ▸ ha)

theorem orFail {a : Option α} (h : ∀ x, a = some x → P x) : (orFail a).Gives P := by
  cases a
  case none   => exact fail
  case some a => exact .pure (h a rfl)

end Gives

theorem radix_distinct (opening : String) (base : Nat) (allowed : Char → Bool) :
    (radix opening base allowed).Gives Value.Distinct :=
  .after fun _ => .after fun _ => .ite (.pure .integer) .fail

theorem decimal_distinct : decimal.Gives Value.Distinct :=
  .after fun _ => .after fun _ => .ite (.ite (.pure .integer) .fail) (.ite (.pure .integer) .fail)

theorem numericFloat_distinct : numericFloat.Gives Value.Distinct := by
  refine .after fun _ => .after fun _ => .after fun _ => .after fun _ => ?_
  dsimp only
  refine .ite (.after fun _ => ?_) ?_
  all_goals exact .ite (.after fun _ => .pure .float) (.pure .float)

theorem specialFloat_distinct : specialFloat.Gives Value.Distinct :=
  .after fun _ => .after fun _ => .pure .float

theorem dateTime_distinct : dateTime.Gives Value.Distinct := by
  refine .after fun _ => .after fun _ => ?_
  dsimp only
  exact .ite (.after fun _ => .after fun _ => .pure .dateTime)
    (.after fun _ => .after fun _ => .pure .dateTime)

theorem scalar_distinct : scalar.Gives Value.Distinct := by
  refine .after fun c => ?_
  cases c
  case none => exact .fail
  case some c =>
    refine .ite (.after fun _ => .pure .string) (.ite (.after fun _ => .pure .boolean) ?_)
    refine .ite (.after fun _ => .pure .boolean) ?_
    exact .orElse dateTime_distinct <| .orElse numericFloat_distinct <|
      .orElse specialFloat_distinct <| .orElse (radix_distinct _ _ _) <|
      .orElse (radix_distinct _ _ _) <| .orElse (radix_distinct _ _ _) decimal_distinct

section

variable {value : Reader Value} (hv : value.Gives Value.Distinct)

include hv

theorem keyValue_distinct : (keyValue value).Gives fun p => p.2.Distinct :=
  .after fun _ => .after fun _ => .after fun _ => .bind hv fun _ h => .after fun _ => .pure h

theorem arrayTail_distinct (n : Nat) :
    (arrayTail value n).Gives fun vs => ∀ v ∈ vs, v.Distinct := by
  induction n
  case zero => exact .fail
  case succ n hi =>
    refine .after fun _ => .after fun _ => .ite (.pure (List.forall_mem_nil _)) ?_
    refine .bind hv fun v h => .after fun _ => .after fun _ => .ite ?more ?last
    case more => exact .bind hi fun vs hs => .pure (List.forall_mem_cons.mpr ⟨h, hs⟩)
    case last => exact .after fun _ => .pure (List.forall_mem_singleton.mpr h)

theorem braceTail_distinct (n : Nat) {t : Entries} (ht : t.Distinct) :
    (braceTail value n t).Gives Entries.Distinct := by
  induction n generalizing t
  case zero => exact .fail
  case succ n hi =>
    refine .bind (keyValue_distinct hv) fun p hp => ?_
    dsimp only
    split
    case h_1 => exact .fail
    case h_2 ha =>
      have ht := Entries.addValue_distinct hp ht ha
      exact .after fun _ => .ite (hi ht) (.after fun _ => .pure ht)

end

theorem value_distinct (depth : Nat) : (value depth).Gives Value.Distinct := by
  induction depth
  case zero => exact scalar_distinct
  case succ depth hi =>
    refine .after fun c => ?_
    split
    case h_1 =>
      exact .after fun _ => .after fun _ =>
        .bind (arrayTail_distinct hi _) fun _ h => .pure (.array h)
    case h_2 =>
      refine .after fun _ => .after fun _ => .after fun _ =>
        .ite (.pure Entries.Distinct.nil.table) ?_
      exact .after fun _ => .bind (braceTail_distinct hi _ .nil) fun _ h => .pure h.table
    case h_3 => exact scalar_distinct

theorem line_distinct {p : Position} (h : p.root.Distinct) :
    (line p).Gives fun p' => p'.root.Distinct := by
  refine .after fun _ => .after fun c => ?_
  split
  case h_1 => exact .pure h
  case h_2 => exact .after fun _ => .pure h
  case h_3 => exact .after fun _ => .pure h
  case h_4 => exact .after fun _ => .pure h
  case h_5 =>
    refine .after fun _ => .after fun nested => .after fun k => .after fun _ => ?_
    dsimp only
    split
    case isTrue =>
      exact .after fun _ => .after fun _ =>
        .bind (.orFail fun _ => Entries.openElement_distinct h) fun _ hr => .pure hr
    case isFalse =>
      exact .after fun _ =>
        .bind (.orFail fun _ => Entries.openTable_distinct h) fun _ hr => .pure hr
  case h_6 =>
    refine .bind (keyValue_distinct (value_distinct _)) fun k hv => .after fun _ => ?_
    exact .bind (.orFail fun _ => Entries.addUnder_distinct hv h) fun _ hr => .pure hr

theorem lines_distinct {n : Nat} {p : Position} (h : p.root.Distinct) :
    (lines n p).Gives Entries.Distinct := by
  induction n generalizing p
  case zero => exact .pure h
  case succ n hi => exact .after fun _ => .ite (.pure h) (.bind (line_distinct h) fun _ hp => hi hp)

end Reader

-- A way to read documents that leaves no table with two values under one key.
def ReadsDistinct (read : String → Option Entries) : Prop :=
  ∀ text t, read text = some t → t.Distinct

theorem parse?_distinct : ReadsDistinct parse? := by
  intro text t h
  simp only [parse?] at h
  have ⟨p, hp, h⟩ := Option.bind_eq_some_iff.mp h
  split at h
  case isFalse => cases h
  case isTrue =>
    cases h
    exact Reader.lines_distinct (p := ⟨[], []⟩) .nil _ _ _ _ hp

end Toml

end EngineBench
