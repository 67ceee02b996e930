import Adoc.Proofs.Basic
import Adoc.Toml.Reader
import Mathlib.Data.List.Nodup
import Mathlib.Data.Option.Basic

/-! # Keys are defined once

Whatever would define a key twice is refused when a document is read, so that in its table, and in
all tables inside it, every key has one value. All changes to the table of a document go through
`Table.modify`: it keeps this of the tables around the one that is changed.

* `distinctKeys_modify`       changing a table deep inside keeps the keys of all around it distinct
* `Draft.distinctKeys_begin`  so does going on under a new header
* `distinctKeys_readValue`    the tables in a value have distinct keys
* `distinctKeys_read`         and so have those of a document -/

namespace Adoc.Toml

/-- Has every table in the value one value for each of its keys? -/
inductive Value.DistinctKeys : Value → Prop where
  | string (text : String) : DistinctKeys (.string text)
  | integer (value : Int) : DistinctKeys (.integer value)
  | float (value : Binary64) : DistinctKeys (.float value)
  | boolean (value : Bool) : DistinctKeys (.boolean value)
  | dateTime : DistinctKeys .dateTime
  | array {items : List Value} (each : ∀ v ∈ items, DistinctKeys v) : DistinctKeys (.array items)
  | tables {elements : List (List (String × Value))}
      (keys : ∀ t ∈ elements, (t.map (·.1)).Nodup)
      (values : ∀ t ∈ elements, ∀ e ∈ t, DistinctKeys e.2) : DistinctKeys (.tables elements)
  | table {origin : Origin} {entries : List (String × Value)} (keys : (entries.map (·.1)).Nodup)
      (values : ∀ e ∈ entries, DistinctKeys e.2) : DistinctKeys (.table origin entries)

namespace Table

/-- Has each key of the table one value, and the same in every table inside it? -/
structure DistinctKeys (t : Table) : Prop where
  keys : (t.map (·.1)).Nodup
  values : ∀ e ∈ t, e.2.DistinctKeys

/-- Of a table as a value the same is asked as of the table itself. -/
@[simp]
theorem distinctKeys_table_iff {origin : Origin} {entries : Table} :
    (Value.table origin entries).DistinctKeys ↔ DistinctKeys entries := by
  constructor
  · intro h
    cases h with
    | table keys values => exact ⟨keys, values⟩
  · exact fun h => .table h.keys h.values

/-- Of an array of tables the same is asked as of each of them. -/
@[simp]
theorem distinctKeys_tables_iff {elements : List Table} :
    (Value.tables elements).DistinctKeys ↔ ∀ t ∈ elements, DistinctKeys t := by
  constructor
  · intro h t ht
    cases h with
    | tables keys values => exact ⟨keys t ht, values t ht⟩
  · exact fun h => .tables (fun t ht => (h t ht).keys) fun t ht => (h t ht).values

/-! ## Changes to a table -/

/-- A table without keys repeats none. -/
@[simp]
theorem distinctKeys_nil : DistinctKeys [] := ⟨List.nodup_nil, fun _ h => nomatch h⟩

/-- A value under a key of such a table has distinct keys inside it. -/
theorem DistinctKeys.lookup {t : Table} {key : String} {v : Value} (h : DistinctKeys t)
    (hv : t.lookup key = some v) : v.DistinctKeys := by
  obtain ⟨before, after, split, -⟩ := List.lookup_eq_some_iff.mp hv
  exact h.values (key, v) (split ▸ List.mem_append_right before List.mem_cons_self)

/-- A key that is new may be put at the end. -/
theorem DistinctKeys.append {t : Table} {key : String} {v : Value} (h : DistinctKeys t)
    (new : t.lookup key = none) (hv : v.DistinctKeys) : DistinctKeys (t ++ [(key, v)]) where
  keys := by
    rw [List.map_append, List.map_singleton, ← List.concat_eq_append]
    exact h.keys.concat (lookup_eq_none_iff.mp new)
  values := by
    rw [List.forall_mem_append, List.forall_mem_singleton]
    exact ⟨h.values, hv⟩

/-- Setting a value changes no key but the one that is set. -/
theorem mem_keys_set {t : Table} {key k : String} {v : Value}
    (h : k ∈ (t.set key v).map (·.1)) : k = key ∨ k ∈ t.map (·.1) := by
  induction t with
  | nil => exact .inl (List.mem_singleton.mp h)
  | cons e t ih =>
    obtain ⟨k', w⟩ := e
    rw [set] at h
    split at h
    · exact (List.mem_cons.mp h).imp_right (List.mem_cons_of_mem _)
    -- the key in front is an old one, and behind it the same is done
    · obtain rfl | h := List.mem_cons.mp h
      · exact .inr List.mem_cons_self
      · exact (ih h).imp_right (List.mem_cons_of_mem _)

/-- Setting a value, in its place or at the end, repeats no key. -/
theorem DistinctKeys.set {t : Table} {key : String} {v : Value} (h : DistinctKeys t)
    (hv : v.DistinctKeys) : DistinctKeys (t.set key v) := by
  induction t with
  | nil => exact distinctKeys_nil.append rfl hv
  | cons e t ih =>
    obtain ⟨k, w⟩ := e
    obtain ⟨new, keys⟩ := List.nodup_cons.mp h.keys
    obtain ⟨hw, values⟩ := List.forall_mem_cons.mp h.values
    rw [Table.set]
    split
    · rename_i same
      subst same
      exact ⟨h.keys, List.forall_mem_cons.mpr ⟨hv, values⟩⟩
    · rename_i other
      -- the key stands further on, or comes to the end; the first key is neither new nor repeated
      -- there
      have rest := ih ⟨keys, values⟩
      refine ⟨List.nodup_cons.mpr ⟨fun hk => ?_, rest.keys⟩,
        List.forall_mem_cons.mpr ⟨hw, rest.values⟩⟩
      obtain same | hk := mem_keys_set hk
      · exact other same
      · exact new hk

/-- Taking a key out of a table leaves the others distinct. -/
theorem DistinctKeys.erase {t : Table} (h : DistinctKeys t) (key : String) :
    DistinctKeys (t.erase key) :=
  ⟨h.keys.sublist (List.filter_sublist.map _), fun e he => h.values e (List.mem_of_mem_filter he)⟩

variable {α : Type} {P : α → Prop}

/-- If a change keeps the keys of the table that it changes distinct, they stay so in all tables
around that one. What the change hands out is handed on as it is. -/
theorem distinctKeys_modify {created : Origin} {enter : Origin → Bool}
    {change : Origin → Table → Option (α × Table)}
    (keeps : ∀ origin t a t', DistinctKeys t → change origin t = some (a, t') →
      P a ∧ DistinctKeys t') {origin : Origin} {path : List String} {t t' : Table} {a : α}
    (ht : DistinctKeys t) (h : modify created enter change origin path t = some (a, t')) :
    P a ∧ DistinctKeys t' := by
  induction path generalizing origin t t' a with
  | nil => exact keeps origin t a t' ht h
  | cons key path ih =>
    rw [modify] at h
    split at h
    -- a new table on the way starts with no keys at all
    · obtain ⟨⟨b, inner⟩, step, rest⟩ := Option.bind_eq_some_iff.mp h
      cases rest
      obtain ⟨hb, hinner⟩ := ih distinctKeys_nil step
      exact ⟨hb, ht.set (distinctKeys_table_iff.mpr hinner)⟩
    · rename_i origin' entries found
      split at h
      · obtain ⟨⟨b, inner⟩, step, rest⟩ := Option.bind_eq_some_iff.mp h
        cases rest
        obtain ⟨hb, hinner⟩ := ih (distinctKeys_table_iff.mp (ht.lookup found)) step
        exact ⟨hb, ht.set (distinctKeys_table_iff.mpr hinner)⟩
      · cases h
    -- of an array of tables only the last element changes
    · rename_i elements found
      have each := distinctKeys_tables_iff.mp (ht.lookup found)
      obtain ⟨last, hlast, h⟩ := Option.bind_eq_some_iff.mp h
      obtain ⟨⟨b, inner⟩, step, rest⟩ := Option.bind_eq_some_iff.mp h
      cases rest
      obtain ⟨hb, hinner⟩ := ih (each last (List.mem_of_getLast? hlast)) step
      refine ⟨hb, ht.set (distinctKeys_tables_iff.mpr ?_)⟩
      rw [List.forall_mem_append, List.forall_mem_singleton]
      exact ⟨fun t ht => each t ((List.dropLast_subset elements) ht), hinner⟩
    · cases h

/-- A key is defined in a table deep inside only if it is new there. -/
theorem DistinctKeys.define {origin : Origin} {path : List String} {key : String} {v : Value}
    {t t' : Table} (h : DistinctKeys t) (hv : v.DistinctKeys)
    (defined : t.define origin path key v = some t') : DistinctKeys t' := by
  obtain ⟨⟨_, t''⟩, step, rest⟩ := Option.bind_eq_some_iff.mp defined
  cases rest
  refine (distinctKeys_modify (P := fun _ => True) ?_ h step).2
  intro origin t _ t' ht added
  split at added
  · cases added
  · rename_i free
    cases added
    -- the key was refused if it is in the table already
    rw [Bool.or_eq_true, not_or, Option.not_isSome_iff_eq_none] at free
    exact ⟨trivial, ht.append free.2 hv⟩

end Table

/-! ## Documents -/

namespace Draft

/-- Have all tables of a document, as far as it has been read, distinct keys? -/
structure DistinctKeys (d : Draft) : Prop where
  root : Table.DistinctKeys d.root
  current : Table.DistinctKeys d.current

variable {d d' : Draft}

/-- An entry goes into the table under the current header. -/
theorem distinctKeys_addEntry {path : List String} {key : String} {v : Value}
    (h : d.DistinctKeys) (hv : v.DistinctKeys) (added : d.addEntry path key v = some d') :
    d'.DistinctKeys := by
  obtain ⟨current, defined, rest⟩ := Option.bind_eq_some_iff.mp added
  cases rest
  exact ⟨h.root, h.current.define hv defined⟩

/-- The table under the current header is put into its place in the document. -/
theorem distinctKeys_close {t : Table} (h : d.DistinctKeys) (closed : d.close = some t) :
    Table.DistinctKeys t := by
  rw [close] at closed
  split at closed
  · cases closed
    exact h.current
  · rename_i header _
    obtain ⟨⟨_, root⟩, step, rest⟩ := Option.bind_eq_some_iff.mp closed
    cases rest
    refine (Table.distinctKeys_modify (P := fun _ => True) ?_ h.root step).2
    intro _ t _ t' ht placed
    refine ⟨trivial, ?_⟩
    -- as a table, as the first element of an array of tables, or as a further one
    split at placed
    · cases placed
      exact ht.set (Table.distinctKeys_table_iff.mpr h.current)
    · cases placed
      exact ht.set (Table.distinctKeys_tables_iff.mpr (List.forall_mem_singleton.mpr h.current))
    · rename_i elements found
      cases placed
      refine ht.set (Table.distinctKeys_tables_iff.mpr ?_)
      rw [List.forall_mem_append, List.forall_mem_singleton]
      exact ⟨Table.distinctKeys_tables_iff.mp (ht.lookup found), h.current⟩
    · cases placed

/-- The table under a new header is a new one, or one that was made on the way to another and is
taken out of the document to go on with it. -/
theorem distinctKeys_takeUp {header : Header} {t current rest : Table}
    (h : Table.DistinctKeys t) (taken : takeUp header t = some (current, rest)) :
    Table.DistinctKeys current ∧ Table.DistinctKeys rest := by
  rw [takeUp] at taken
  split at taken
  · cases taken
    exact ⟨Table.distinctKeys_nil, h⟩
  · cases taken
    exact ⟨Table.distinctKeys_nil, h⟩
  · rename_i found
    cases taken
    exact ⟨Table.distinctKeys_table_iff.mp (h.lookup found), h.erase header.key⟩
  · cases taken

/-- A header closes the table in front of it and takes up its own. -/
theorem distinctKeys_begin {header : Header} (h : d.DistinctKeys)
    (begun : d.begin header = some d') : d'.DistinctKeys := by
  obtain ⟨root, closed, begun⟩ := Option.bind_eq_some_iff.mp begun
  obtain ⟨⟨current, root'⟩, step, rest⟩ := Option.bind_eq_some_iff.mp begun
  cases rest
  -- the document is whole again before the next table is taken out of it
  obtain ⟨hcurrent, hroot⟩ := Table.distinctKeys_modify (fun _ _ _ _ => distinctKeys_takeUp)
    (distinctKeys_close h closed) step
  exact ⟨hroot, hcurrent⟩

end Draft

/-! ## Values -/

/-- An integer has no keys. -/
theorem distinctKeys_ofInteger? {i : Int} {v : Value} (h : ofInteger? i = some v) :
    v.DistinctKeys := by
  rw [ofInteger?] at h
  split at h
  · cases h
    exact .integer i
  · cases h

/-- An integer in another base has no keys. -/
theorem distinctKeys_readBased {base : Nat} {s rest : List Char} {v : Value}
    (h : readBased base s = some (v, rest)) : v.DistinctKeys := by
  obtain ⟨_, _, h⟩ := Option.bind_eq_some_iff.mp h
  obtain ⟨_, integer, h⟩ := Option.bind_eq_some_iff.mp h
  cases h
  exact distinctKeys_ofInteger? integer

/-- An integer has no keys, with a prefix or in decimal digits. -/
theorem distinctKeys_readInteger {s rest : List Char} {v : Value}
    (h : readInteger s = some (v, rest)) : v.DistinctKeys := by
  rw [readInteger.eq_def] at h
  split at h
  · exact distinctKeys_readBased h
  · exact distinctKeys_readBased h
  · exact distinctKeys_readBased h
  · obtain ⟨_, _, h⟩ := Option.bind_eq_some_iff.mp h
    obtain ⟨_, integer, h⟩ := Option.bind_eq_some_iff.mp h
    cases h
    exact distinctKeys_ofInteger? integer

/-- A number with a point or an exponent has no keys. -/
theorem distinctKeys_readPointed {s rest : List Char} {v : Value}
    (h : readPointed s = some (v, rest)) : v.DistinctKeys := by
  rw [readPointed] at h
  -- whatever the sign and the digits are, a float is made of them or nothing
  generalize readSign s = sign at h
  obtain ⟨⟨_, _⟩, _, h⟩ := Option.bind_eq_some_iff.mp h
  obtain ⟨⟨_, _⟩, _, h⟩ := Option.bind_eq_some_iff.mp h
  obtain ⟨⟨_, _⟩, _, h⟩ := Option.bind_eq_some_iff.mp h
  dsimp only at h
  split at h
  · cases h
  · split at h
    · cases h
      exact .float _
    · split at h
      · cases h
        exact .float _
      · cases h

/-- The infinite numbers and what is no number have no keys. -/
theorem distinctKeys_readSpecial {s rest : List Char} {v : Value}
    (h : readSpecial s = some (v, rest)) : v.DistinctKeys := by
  rw [readSpecial] at h
  split at h
  · cases h
    exact .float _
  · cases h
    exact .float _
  · cases h

/-- No number has keys, of whichever of the three forms. -/
theorem distinctKeys_readNumber {s rest : List Char} {v : Value}
    (h : readNumber s = some (v, rest)) : v.DistinctKeys := by
  rw [readNumber, Option.orElse_eq_some, Option.orElse_eq_some] at h
  -- the three kinds of numbers are tried in this order
  obtain h | ⟨-, h | ⟨-, h⟩⟩ := h
  · exact distinctKeys_readPointed h
  · exact distinctKeys_readSpecial h
  · exact distinctKeys_readInteger h

/-- A value that is no array and no table has no keys. -/
theorem distinctKeys_readScalar {s rest : List Char} {v : Value}
    (h : readScalar s = some (v, rest)) : v.DistinctKeys := by
  rw [readScalar.eq_def] at h
  split at h
  · obtain ⟨_, _, h⟩ := Option.map_eq_some_iff.mp h
    cases h
    exact .string _
  · obtain ⟨_, _, h⟩ := Option.map_eq_some_iff.mp h
    cases h
    exact .string _
  · cases h
    exact .boolean _
  · cases h
    exact .boolean _
  · split at h
    -- a number is tried only for what is no date
    · cases h
      exact .dateTime
    · exact distinctKeys_readNumber h

/-- Does `value` read only values whose tables have distinct keys? -/
def ReadsDistinctKeys (value : List Char → Option (Value × List Char)) : Prop :=
  ∀ s v rest, value s = some (v, rest) → v.DistinctKeys

variable {value : List Char → Option (Value × List Char)}

/-- The items of an array are read one after the other. -/
theorem distinctKeys_readItems (reads : ReadsDistinctKeys value) {s rest : List Char}
    {items : List Value} (h : readItems value s = some (items, rest)) :
    ∀ v ∈ items, v.DistinctKeys := by
  induction s using readItems.induct generalizing items rest with
  | case1 s _ close =>
    rw [readItems, close] at h
    cases h
    exact fun _ hv => absurd hv List.not_mem_nil
  | case2 s open_ ih =>
    rw [readItems] at h
    split at h
    · rename_i close
      exact absurd close (open_ _)
    · obtain ⟨⟨v, r⟩, item, h⟩ := Option.bind_eq_some_iff.mp h
      have hv := reads _ _ _ item
      dsimp only at h
      -- behind an item the array ends, or a comma stands and more items may follow
      split at h
      · cases h
        exact List.forall_mem_singleton.mpr hv
      · split at h
        · rename_i shorter
          obtain ⟨⟨vs, r'⟩, others, h⟩ := Option.bind_eq_some_iff.mp h
          cases h
          exact List.forall_mem_cons.mpr ⟨hv, ih _ shorter others⟩
        · cases h
      · cases h

/-- The value behind a key is read as any other. -/
theorem distinctKeys_readPair (reads : ReadsDistinctKeys value) {s rest : List Char}
    {path : List String} {key : String} {v : Value}
    (h : readPair value s = some (path, key, v, rest)) : v.DistinctKeys := by
  obtain ⟨⟨_, _, _⟩, _, h⟩ := Option.bind_eq_some_iff.mp h
  dsimp only at h
  split at h
  · obtain ⟨⟨_, _⟩, read, h⟩ := Option.bind_eq_some_iff.mp h
    cases h
    exact reads _ _ _ read
  · cases h

/-- The pairs of an inline table are defined one after the other, each only if its key is new. -/
theorem distinctKeys_readPairs (reads : ReadsDistinctKeys value) {s rest : List Char}
    {entries t : Table} (hentries : entries.DistinctKeys)
    (h : readPairs value entries s = some (t, rest)) : t.DistinctKeys := by
  induction entries, s using readPairs.induct generalizing t rest with
  | case1 entries s ih =>
    rw [readPairs] at h
    obtain ⟨⟨path, key, v, r⟩, pair, h⟩ := Option.bind_eq_some_iff.mp h
    obtain ⟨more, defined, h⟩ := Option.bind_eq_some_iff.mp h
    -- the table so far is the accumulator, and its keys are distinct by now
    have hmore := hentries.define (distinctKeys_readPair reads pair) defined
    split at h
    · cases h
      exact hmore
    · split at h
      · rename_i shorter
        exact ih more _ shorter hmore h
      · cases h
    · cases h

/-- All tables in a value that is read have distinct keys. -/
theorem distinctKeys_readValue (depth : Nat) : ReadsDistinctKeys (readValue depth) := by
  induction depth using Nat.strongRecOn with
  | ind depth ih =>
    intro s v rest h
    -- what is in an array or a table was read with one less to nest
    fun_induction readValue depth s with
    | case1 inner s =>
      obtain ⟨_, read, made⟩ := Option.map_eq_some_iff.mp h
      cases made
      exact .array (distinctKeys_readItems (ih inner (Nat.lt_succ_self inner)) read)
    | case2 inner s =>
      cases h
      exact Table.distinctKeys_table_iff.mpr Table.distinctKeys_nil
    | case3 inner s =>
      obtain ⟨_, read, made⟩ := Option.map_eq_some_iff.mp h
      cases made
      exact Table.distinctKeys_table_iff.mpr
        (distinctKeys_readPairs (ih inner (Nat.lt_succ_self inner)) Table.distinctKeys_nil read)
    | case4 => cases h
    | case5 => cases h
    | case6 => exact distinctKeys_readScalar h

/-! ## The lines of a document -/

/-- A line is blank, a header or a pair, and in each case the keys stay distinct. -/
theorem distinctKeys_readStatement {d d' : Draft} {s rest : List Char} (hd : d.DistinctKeys)
    (h : readStatement d s = some (d', rest)) : d'.DistinctKeys := by
  rw [readStatement.eq_def] at h
  split at h
  · cases h
    exact hd
  · cases h
    exact hd
  · cases h
    exact hd
  · cases h
    exact hd
  · obtain ⟨_, _, h⟩ := Option.bind_eq_some_iff.mp h
    obtain ⟨_, begun, h⟩ := Option.bind_eq_some_iff.mp h
    cases h
    exact Draft.distinctKeys_begin hd begun
  · obtain ⟨_, pair, h⟩ := Option.bind_eq_some_iff.mp h
    obtain ⟨_, added, h⟩ := Option.bind_eq_some_iff.mp h
    cases h
    exact Draft.distinctKeys_addEntry hd
      (distinctKeys_readPair (distinctKeys_readValue nestingLimit) pair) added

/-- The lines are read one after the other, and what they leave is closed at the end. -/
theorem distinctKeys_readLines {d : Draft} {s : List Char} {t : Table} (hd : d.DistinctKeys)
    (h : readLines d s = some t) : t.DistinctKeys := by
  induction d, s using readLines.induct generalizing t with
  | case1 d s empty =>
    rw [readLines, if_pos empty] at h
    exact Draft.distinctKeys_close hd h
  | case2 d s more ih =>
    rw [readLines, if_neg more] at h
    obtain ⟨⟨d', _⟩, statement, h⟩ := Option.bind_eq_some_iff.mp h
    obtain ⟨r, _, h⟩ := Option.bind_eq_some_iff.mp h
    split at h
    · rename_i shorter
      exact ih d' r shorter (distinctKeys_readStatement hd statement) h
    · cases h

/-- All tables in a document have distinct keys. -/
theorem distinctKeys_read {s : List Char} {t : Table} (h : read s = some t) : t.DistinctKeys := by
  have empty : Draft.DistinctKeys {} := ⟨Table.distinctKeys_nil, Table.distinctKeys_nil⟩
  rw [read.eq_def] at h
  split at h
  · exact distinctKeys_readLines empty h
  · exact distinctKeys_readLines empty h

end Adoc.Toml
