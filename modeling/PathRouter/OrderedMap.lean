/-!
# Maps that keep the order of insertion

An ordered map is a list of entries in which no key occurs twice.  Writing to a new key appends an
entry; writing to a key that is present replaces the value and keeps the position.

Main statements: `get?_put` says what a write does to each key, and `keys_put` what it does to the
order of the keys.
-/

namespace PathRouter

/-- A finite map with its keys in the order in which they were first written. -/
structure OrderedMap (α β : Type) where
  entries : List (α × β)
  nodup : (entries.map Prod.fst).Nodup

namespace OrderedMap

variable {α β : Type} [DecidableEq α]

/-! ### Entries -/

/-- The value of the first entry with key `k`. -/
def lookup (k : α) : List (α × β) → Option β
  | [] => none
  | e :: es => if e.1 = k then some e.2 else lookup k es

/-- Writes `v` to the entry with key `k`, or to a new last entry. -/
def write (k : α) (v : β) : List (α × β) → List (α × β)
  | [] => [(k, v)]
  | e :: es => if e.1 = k then (k, v) :: es else e :: write k v es

theorem map_fst_write (k : α) (v : β) (es : List (α × β)) :
    (write k v es).map Prod.fst =
      if k ∈ es.map Prod.fst then es.map Prod.fst else es.map Prod.fst ++ [k] := by
  induction es with
  | nil => rfl
  | cons e es ih =>
    by_cases h : e.1 = k
    · simp [write, h]
    · simp only [write, h, if_false, List.map_cons, ih, List.mem_cons, Ne.symm h, false_or]
      split <;> simp

theorem nodup_write (k : α) (v : β) {es : List (α × β)} (h : (es.map Prod.fst).Nodup) :
    ((write k v es).map Prod.fst).Nodup := by
  rw [map_fst_write]
  split
  · exact h
  · rename_i hk
    rw [List.nodup_append]
    refine ⟨h, by simp, ?_⟩
    intro a ha b hb hab
    rw [List.mem_singleton] at hb
    exact hk (hb ▸ hab ▸ ha)

theorem lookup_write (k j : α) (v : β) (es : List (α × β)) :
    lookup j (write k v es) = if k = j then some v else lookup j es := by
  induction es with
  | nil => simp [write, lookup]
  | cons e es ih => grind [write, lookup]

/-! ### Maps -/

/-- The map without entries. -/
def empty : OrderedMap α β := ⟨[], by simp⟩

instance : EmptyCollection (OrderedMap α β) := ⟨empty⟩

instance : Inhabited (OrderedMap α β) := ⟨empty⟩

/-- The value at a key. -/
def get? (m : OrderedMap α β) (k : α) : Option β := lookup k m.entries

/-- Writes a value to a key. -/
def put (m : OrderedMap α β) (k : α) (v : β) : OrderedMap α β :=
  ⟨write k v m.entries, nodup_write k v m.nodup⟩

/-- The keys in order. -/
def keys (m : OrderedMap α β) : List α := m.entries.map Prod.fst

/-- Whether a key is present. -/
def contains (m : OrderedMap α β) (k : α) : Bool := (m.get? k).isSome

/-- The number of keys. -/
def size (m : OrderedMap α β) : Nat := m.entries.length

/-- Writes the entries of a list one after the other: a repeated key keeps its first position and
takes its last value. -/
def ofList (es : List (α × β)) : OrderedMap α β := es.foldl (fun m e => m.put e.1 e.2) ∅

@[simp] theorem get?_empty (k : α) : (∅ : OrderedMap α β).get? k = none := rfl

omit [DecidableEq α] in
@[simp] theorem entries_empty : (∅ : OrderedMap α β).entries = [] := rfl

/-- A write is seen at its own key and at no other. -/
theorem get?_put (m : OrderedMap α β) (k j : α) (v : β) :
    (m.put k v).get? j = if k = j then some v else m.get? j :=
  lookup_write k j v m.entries

/-- A write keeps the order of the keys and puts a new key last. -/
theorem keys_put (m : OrderedMap α β) (k : α) (v : β) :
    (m.put k v).keys = if k ∈ m.keys then m.keys else m.keys ++ [k] :=
  map_fst_write k v m.entries

omit [DecidableEq α] in
theorem ext_entries {m n : OrderedMap α β} (h : m.entries = n.entries) : m = n := by
  cases m; cases n; simp_all

instance [DecidableEq β] : DecidableEq (OrderedMap α β) := fun m n =>
  if h : m.entries = n.entries then isTrue (ext_entries h)
  else isFalse fun e => h (congrArg entries e)

end OrderedMap

end PathRouter
