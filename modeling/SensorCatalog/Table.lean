/-!
# Tables

A table holds values under distinct string keys and lists them in increasing key order, strings
being compared character by character by code point. The order is part of the type, so two tables
with the same bindings are the same table, whatever order the bindings were made in.

## Main definitions

* `Table`: the entries together with the proof that their keys increase.
* `Table.insert`, `Table.find?`, `Table.contains`: binding a key, and looking one up.
* `Table.ofList`: the table of a list of bindings, of which the last one for a key counts.
* `Table.keys`, `Table.values`: what a table holds, in key order.
-/

namespace SensorCatalog

/-- Values under strictly increasing string keys. -/
structure Table (α : Type) where
  /-- The bindings in key order. -/
  entries : List (String × α) := []
  /-- Every key is smaller than all later ones. -/
  sorted : entries.Pairwise (fun a b => a.1 < b.1) := by exact List.Pairwise.nil
  deriving Repr

namespace Table

variable {α β : Type}

instance : EmptyCollection (Table α) := ⟨{ }⟩

instance : Inhabited (Table α) := ⟨∅⟩

instance [DecidableEq α] : DecidableEq (Table α) := fun s t =>
  match decEq s.entries t.entries with
  | isTrue h => isTrue (by cases s; cases t; cases h; rfl)
  | isFalse h => isFalse (fun e => h (e ▸ rfl))

/-- Two tables with the same entries are the same table. -/
@[ext] theorem ext {s t : Table α} (h : s.entries = t.entries) : s = t := by
  cases s; cases t; cases h; rfl

/-! ### Binding a key -/

/-- Puts a binding in its place among entries in key order; an equal key is bound anew. -/
def insertEntry (key : String) (value : α) : List (String × α) → List (String × α)
  | [] => [(key, value)]
  | entry :: rest =>
    if key < entry.1 then (key, value) :: entry :: rest
    else if entry.1 < key then entry :: insertEntry key value rest
    else (key, value) :: rest

theorem mem_insertEntry {key : String} {value : α} {l : List (String × α)} {e : String × α}
    (h : e ∈ insertEntry key value l) : e = (key, value) ∨ e ∈ l := by
  induction l with
  | nil => simpa [insertEntry] using h
  | cons entry rest ih =>
    simp only [insertEntry] at h
    split at h
    · simpa using h
    · split at h
      · rcases List.mem_cons.1 h with rfl | h
        · exact .inr List.mem_cons_self
        · exact (ih h).imp_right (List.mem_cons_of_mem _)
      · rcases List.mem_cons.1 h with rfl | h
        · exact .inl rfl
        · exact .inr (List.mem_cons_of_mem _ h)

theorem pairwise_insertEntry {key : String} {value : α} {l : List (String × α)}
    (h : l.Pairwise (fun a b => a.1 < b.1)) :
    (insertEntry key value l).Pairwise (fun a b => a.1 < b.1) := by
  induction l with
  | nil => simp [insertEntry]
  | cons entry rest ih =>
    obtain ⟨first, tail⟩ := List.pairwise_cons.1 h
    simp only [insertEntry]
    split
    · next lt =>
      refine List.pairwise_cons.2 ⟨fun e he => ?_, h⟩
      rcases List.mem_cons.1 he with rfl | he
      · exact lt
      · exact String.lt_trans lt (first e he)
    · next not_lt =>
      split
      · next gt =>
        refine List.pairwise_cons.2 ⟨fun e he => ?_, ih tail⟩
        rcases mem_insertEntry he with rfl | he
        · exact gt
        · exact first e he
      · next not_gt =>
        have same : key = entry.1 :=
          String.le_antisymm (String.not_lt.1 not_gt) (String.not_lt.1 not_lt)
        exact List.pairwise_cons.2 ⟨fun e he => same ▸ first e he, tail⟩

/-- Binds a key, replacing what it was bound to. -/
def insert (t : Table α) (key : String) (value : α) : Table α where
  entries := insertEntry key value t.entries
  sorted := pairwise_insertEntry t.sorted

/-- The table of a list of bindings; the last binding of a key counts. -/
def ofList (bindings : List (String × α)) : Table α :=
  bindings.foldl (fun t b => t.insert b.1 b.2) ∅

/-! ### Looking a key up -/

/-- The value bound to a key. -/
def find? (t : Table α) (key : String) : Option α :=
  (t.entries.find? (fun e => e.1 == key)).map (·.2)

/-- A key has a value. -/
def contains (t : Table α) (key : String) : Bool :=
  t.entries.any (fun e => e.1 == key)

/-- The keys, in increasing order. -/
def keys (t : Table α) : List String :=
  t.entries.map (·.1)

/-- The values, in the order of their keys. -/
def values (t : Table α) : List α :=
  t.entries.map (·.2)

/-- The same keys with every value replaced. -/
def map (f : α → β) (t : Table α) : Table β where
  entries := t.entries.map (fun e => (e.1, f e.2))
  sorted := List.pairwise_map.2 t.sorted

@[simp] theorem entries_empty : (∅ : Table α).entries = [] := rfl

@[simp] theorem entries_insert (t : Table α) (key : String) (value : α) :
    (t.insert key value).entries = insertEntry key value t.entries := rfl

theorem pairwise_keys (t : Table α) : t.keys.Pairwise (· < ·) :=
  List.pairwise_map.2 t.sorted

end Table

end SensorCatalog
