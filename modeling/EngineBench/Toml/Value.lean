namespace EngineBench

namespace Toml

-- How a table came about, which decides whether later lines may still add to it.
inductive Origin
  -- written between braces
  | inline
  -- named by a header of its own
  | header
  -- only named on the way to another header
  | implied
  -- named by a dotted key
  | dotted
  deriving DecidableEq, Repr

inductive Value
  | string (text : String)
  | integer (n : Int)
  | float (text : String)
  | boolean (b : Bool)
  | dateTime (text : String)
  | array (items : List Value)
  | table (origin : Origin) (entries : List (String × Value))
  -- A list of tables: the last one, and those before it from the last to the first.
  | tables (last : List (String × Value)) (before : List (List (String × Value)))
  deriving Repr

abbrev Entries := List (String × Value)

mutual

def Value.same : Value → Value → Bool
  | .string text,        .string text'         => text = text'
  | .integer n,          .integer n'           => n = n'
  | .float text,         .float text'          => text = text'
  | .boolean b,          .boolean b'           => b = b'
  | .dateTime text,      .dateTime text'       => text = text'
  | .array items,        .array items'         => sameItems items items'
  | .table origin t,     .table origin' t'     => origin = origin' && sameEntries t t'
  | .tables last before, .tables last' before' =>
    sameEntries last last' && sameTables before before'
  | _, _ => false

def sameItems : List Value → List Value → Bool
  | [], [] => true
  | v :: rest, v' :: rest' => v.same v' && sameItems rest rest'
  | _, _ => false

def sameEntries : List (String × Value) → List (String × Value) → Bool
  | [], [] => true
  | (key, v) :: rest, (key', v') :: rest' => key = key' && v.same v' && sameEntries rest rest'
  | _, _ => false

def sameTables : List (List (String × Value)) → List (List (String × Value)) → Bool
  | [], [] => true
  | t :: rest, t' :: rest' => sameEntries t t' && sameTables rest rest'
  | _, _ => false

end

mutual

theorem Value.same_iff (v v' : Value) : v.same v' = true ↔ v = v' := by
  cases v <;> cases v' <;> simp [Value.same, sameItems_iff, sameEntries_iff, sameTables_iff]
termination_by structural v

theorem sameItems_iff (l l' : List Value) : sameItems l l' = true ↔ l = l' := by
  cases l <;> cases l' <;> simp [sameItems, Value.same_iff, sameItems_iff]
termination_by structural l

theorem sameEntries_iff (t t' : List (String × Value)) : sameEntries t t' = true ↔ t = t' := by
  obtain _ | ⟨⟨_, v⟩, rest⟩ := t <;> obtain _ | ⟨⟨_, v'⟩, rest'⟩ := t' <;>
    simp [sameEntries, Value.same_iff, sameEntries_iff]
termination_by structural t

theorem sameTables_iff (l l' : List (List (String × Value))) :
    sameTables l l' = true ↔ l = l' := by
  cases l <;> cases l' <;> simp [sameTables, sameEntries_iff, sameTables_iff]
termination_by structural l

end

instance : DecidableEq Value := fun v v' => decidable_of_iff (v.same v') (Value.same_iff v v')

namespace Entries

def put (key : String) (value : Value) : Entries → Entries
  | [] => [(key, value)]
  | (k, v) :: rest => if k = key then (k, value) :: rest else (k, v) :: put key value rest

end Entries

namespace Value

-- The elements of a list, however it is written.
def elements? : Value → Option (List Value)
  | array items => some items
  | tables last before => some ((last :: before).reverse.map (table .header))
  | _ => none

def entries? : Value → Option Entries
  | table _ entries => some entries
  | _ => none

end Value

end Toml

end EngineBench
