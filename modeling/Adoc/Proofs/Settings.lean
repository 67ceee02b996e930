import Adoc.Proofs.Toml.Keys
import Adoc.Settings

/-! # Settings from two flags

Settings are read from two flags, wherever in a document they stand, and from nothing else. An array
gives them by position: it is read as if each item stood under the name of its flag. What is said of
tables holds of arrays through this, and of an array of tables as of any other.

* `ofToml_eq`                a value gives the settings that its flags give, read one by one
* `addEntries_eq_ok_iff`     which settings flags give
* `addEntries_eq_error_iff`  which flag is reported -/

namespace Adoc

namespace Toml.Value

/-- Is the value a boolean? -/
def isBoolean : Value → Bool
  | .boolean _ => true
  | _ => false

/-- A value is a boolean if it is one of the two. -/
theorem isBoolean_iff {v : Value} : v.isBoolean = true ↔ ∃ b, v = .boolean b := by
  cases v <;> simp [isBoolean]

/-- The items of an array; those of an array of tables are its tables. -/
def items? : Value → Option (List Value)
  | .array items => some items
  | .tables elements => some (elements.map (.table .header))
  | _ => none

/-- A flag is read from a boolean. -/
theorem toBool_eq_ok_iff {v : Value} {b : Bool} : v.toBool = .ok b ↔ v = .boolean b := by
  cases v <;> simp [toBool]

/-- A value that is no boolean is reported as what it is. -/
theorem toBool_eq_error {v : Value} (h : v.isBoolean = false) :
    v.toBool = .error (.wrongType v.found .boolean) := by
  cases v <;> simp_all [toBool, isBoolean]

end Toml.Value

namespace GrammarSettings

open Toml

/-- The names of the flags, in the order in which an array gives them. -/
def flagNames : List String := ["enabled", "check_comments"]

/-- The flag of a name. -/
def flag (g : GrammarSettings) (name : String) : Bool :=
  if name = "enabled" then g.enabled else g.checkComments

/-- The settings with another value of the flag of a name. -/
def setFlag (g : GrammarSettings) (name : String) (b : Bool) : GrammarSettings :=
  if name = "enabled" then { g with enabled := b } else { g with checkComments := b }

/-- There are two flags. -/
theorem mem_flagNames {name : String} :
    name ∈ flagNames ↔ name = "enabled" ∨ name = "check_comments" := by
  rw [flagNames, List.mem_cons, List.mem_singleton]

/-- What is said of all flags is said of two. -/
theorem forall_flagNames {P : String → Prop} :
    (∀ name ∈ flagNames, P name) ↔ P "enabled" ∧ P "check_comments" := by
  rw [flagNames, List.forall_mem_cons, List.forall_mem_singleton]

/-- Settings are nothing but their flags. -/
theorem eq_iff_flags {g g' : GrammarSettings} :
    g = g' ↔ ∀ name ∈ flagNames, g.flag name = g'.flag name := by
  rw [forall_flagNames]
  -- each of the two is a field of the structure
  obtain ⟨e, c⟩ := g
  obtain ⟨e', c'⟩ := g'
  exact Eq.to_iff (mk.injEq ..)

/-- A flag is what it was set to. -/
@[simp]
theorem flag_setFlag_self (g : GrammarSettings) (name : String) (b : Bool) :
    (g.setFlag name b).flag name = b := by
  unfold flag setFlag
  split <;> rfl

/-- Setting a flag leaves the other as it was. -/
theorem flag_setFlag_of_ne {g : GrammarSettings} {name other : String} {b : Bool}
    (h : name ∈ flagNames) (h' : other ∈ flagNames) (ne : other ≠ name) :
    (g.setFlag name b).flag other = g.flag other := by
  obtain rfl | rfl := mem_flagNames.mp h
  · obtain rfl | rfl := mem_flagNames.mp h'
    · exact absurd rfl ne
    · rfl
  · obtain rfl | rfl := mem_flagNames.mp h'
    · rfl
    · exact absurd rfl ne

/-- What a flag is if its value is the given one: as it was if there is no value, and otherwise the
boolean that the value is. -/
inductive Gives (default : Bool) : Option Value → Bool → Prop where
  | absent : Gives default none default
  | given (b : Bool) : Gives default (some (.boolean b)) b

/-- Without a value a flag is as it was. -/
@[simp]
theorem gives_none_iff {d b : Bool} : Gives d none b ↔ d = b := by
  constructor
  · rintro ⟨⟩
    rfl
  · rintro rfl
    exact .absent

/-- With a value it is the boolean that this is. -/
@[simp]
theorem gives_some_iff {d b : Bool} {v : Value} : Gives d (some v) b ↔ v = .boolean b := by
  constructor
  · rintro ⟨⟩
    rfl
  · rintro rfl
    exact .given b

/-! ## The entries of a table -/

/-- An entry of a flag sets it, if its value is a boolean. -/
theorem addEntries_flag {g : GrammarSettings} {name : String} {v : Value} {rest : Table}
    (h : name ∈ flagNames) : addEntries g ((name, v) :: rest) =
      v.toBool >>= fun b => addEntries (g.setFlag name b) rest := by
  obtain rfl | rfl := mem_flagNames.mp h <;> rfl

/-- Any other entry is passed over, whatever its value. -/
theorem addEntries_other {g : GrammarSettings} {key : String} {v : Value} {rest : Table}
    (h : key ∉ flagNames) : addEntries g ((key, v) :: rest) = addEntries g rest := by
  rw [mem_flagNames, not_or] at h
  rw [addEntries]
  · rintro w ⟨⟩
    exact h.1 rfl
  · rintro w ⟨⟩
    exact h.2 rfl

/-- Only the entries of the flags matter. -/
theorem addEntries_filter (g : GrammarSettings) (entries : Table) :
    addEntries g (entries.filter (·.1 ∈ flagNames)) = addEntries g entries := by
  induction entries generalizing g with
  | nil => rfl
  | cons e entries ih =>
    obtain ⟨key, v⟩ := e
    by_cases h : key ∈ flagNames
    · rw [List.filter_cons_of_pos (by simpa using h), addEntries_flag h, addEntries_flag h]
      exact congrArg _ (funext fun b => ih _)
    · rw [List.filter_cons_of_neg (by simpa using h), addEntries_other h, ih]

/-- Entries with distinct keys give each flag its value, and leave it as it is if there is none. -/
theorem addEntries_eq_ok_iff {g g' : GrammarSettings} {entries : Table}
    (distinct : (entries.map (·.1)).Nodup) :
    addEntries g entries = .ok g' ↔
      ∀ name ∈ flagNames, Gives (g.flag name) (entries.lookup name) (g'.flag name) := by
  induction entries generalizing g with
  | nil =>
    -- without entries every flag stays as it was
    rw [addEntries, Except.ok.injEq, eq_iff_flags]
    exact forall₂_congr fun name _ => gives_none_iff.symm
  | cons e entries ih =>
    obtain ⟨key, v⟩ := e
    obtain ⟨new, distinct⟩ := List.nodup_cons.mp distinct
    by_cases h : key ∈ flagNames
    · rw [addEntries_flag h, bind_eq_ok_iff]
      simp only [Value.toBool_eq_ok_iff, ih distinct]
      constructor
      -- what is read from the other entries comes after this one, and does not touch its flag
      · rintro ⟨b, rfl, others⟩ name hname
        have there := others name hname
        by_cases same : name = key
        · -- the key does not come again, so that its flag stays as it is set here
          subst same
          rw [lookup_eq_none_iff.mpr new, flag_setFlag_self, gives_none_iff] at there
          rw [List.lookup_cons_self, ← there]
          exact .given b
        · rw [flag_setFlag_of_ne h hname same] at there
          rwa [lookup_cons_of_ne same]
      · intro all
        -- the flag of this entry is given by it, which is then the boolean to be read
        have here := all key h
        rw [List.lookup_cons_self, gives_some_iff] at here
        refine ⟨g'.flag key, here, fun name hname => ?_⟩
        have there := all name hname
        by_cases same : name = key
        · subst same
          rw [lookup_eq_none_iff.mpr new, flag_setFlag_self, gives_none_iff]
        · rw [lookup_cons_of_ne same] at there
          rwa [flag_setFlag_of_ne h hname same]
    -- an entry under another key is found under none of the names
    · rw [addEntries_other h, ih distinct]
      refine forall₂_congr fun name hname => ?_
      rw [lookup_cons_of_ne (ne_of_mem_of_not_mem hname h)]

/-- The first value that is no boolean is reported, of those of the flags. -/
theorem addEntries_eq_error_iff {g : GrammarSettings} {entries : Table} {error : DataError} :
    addEntries g entries = .error error ↔
      ∃ e, (entries.filter (·.1 ∈ flagNames)).find? (!·.2.isBoolean) = some e ∧
        error = .wrongType e.2.found .boolean := by
  induction entries generalizing g with
  | nil => exact ⟨nofun, fun ⟨_, h, _⟩ => nomatch h⟩
  | cons entry entries ih =>
    obtain ⟨key, v⟩ := entry
    by_cases h : key ∈ flagNames
    · rw [addEntries_flag h, List.filter_cons_of_pos (by simpa using h)]
      -- a boolean is read and the search goes on behind it; anything else is found here
      cases flag : v.isBoolean with
      | true =>
        obtain ⟨b, rfl⟩ := Value.isBoolean_iff.mp flag
        rw [List.find?_cons_of_neg (by rw [flag]; exact Bool.false_ne_true)]
        exact ih
      | false =>
        rw [List.find?_cons_of_pos (by rw [flag]; rfl), Value.toBool_eq_error flag]
        constructor
        · intro wrong
          exact ⟨(key, v), rfl, (Except.error.inj wrong).symm⟩
        · rintro ⟨_, ⟨⟩, rfl⟩
          rfl
    · rw [addEntries_other h, List.filter_cons_of_neg (by simpa using h), ih]

/-! ## Arrays -/

/-- An array is read as if its first items stood under the names of the flags. -/
theorem ofItems_eq (items : List Value) : ofItems items = addEntries {} (flagNames.zip items) := by
  match items with
  | [] => rfl
  | [_] => rfl
  | _ :: _ :: _ => rfl

/-- So settings are read from an array of any kind. -/
theorem ofToml_of_items {v : Value} {items : List Value} (h : v.items? = some items) :
    ofToml v = addEntries {} (flagNames.zip items) := by
  rw [← ofItems_eq]
  cases v with
  | array _ =>
    cases h
    rfl
  | tables _ =>
    cases h
    rfl
  | _ => exact nomatch h

/-- The names stand once each in front of the items. -/
theorem nodup_keys_zip (items : List Value) : ((flagNames.zip items).map (·.1)).Nodup := by
  match items with
  | [] => exact List.nodup_nil
  | [_] => exact List.nodup_singleton "enabled"
  | _ :: _ :: _ =>
    show flagNames.Nodup
    decide

/-- An array is not looked at beyond its second item. -/
theorem zip_take (items : List Value) : flagNames.zip (items.take 2) = flagNames.zip items := by
  match items with
  | [] => rfl
  | [_] => rfl
  | _ :: _ :: _ => rfl

/-- Under each name stands the item in its place. -/
theorem lookup_zip (items : List Value) :
    (flagNames.zip items).lookup "enabled" = items[0]? ∧
      (flagNames.zip items).lookup "check_comments" = items[1]? := by
  match items with
  | [] => exact ⟨rfl, rfl⟩
  | [_] => exact ⟨rfl, rfl⟩
  | _ :: _ :: _ => exact ⟨rfl, rfl⟩

end GrammarSettings

namespace Settings

open Toml GrammarSettings

/-! ## Documents -/

/-- The flags in a document, in the order in which they stand there; none if `grammar` is neither a
table nor an array. -/
def flagsIn (t : Table) : Option Table :=
  match t.lookup "grammar" with
  | none => some []
  | some (.table _ entries) => some (entries.filter (·.1 ∈ flagNames))
  | some v => v.items?.map flagNames.zip

/-- Does a document give the settings? Each flag is the boolean that stands for it, or true if
there is none. -/
inductive Describes (t : Table) : Settings → Prop where
  | absent (found : t.lookup "grammar" = none) : Describes t ⟨⟨true, true⟩⟩
  | table {origin : Origin} {entries : Table} {enabled comments : Bool}
      (found : t.lookup "grammar" = some (.table origin entries))
      (first : Gives true (entries.lookup "enabled") enabled)
      (second : Gives true (entries.lookup "check_comments") comments) :
      Describes t ⟨⟨enabled, comments⟩⟩
  | array {v : Value} {items : List Value} {enabled comments : Bool}
      (found : t.lookup "grammar" = some v) (list : v.items? = some items)
      (first : Gives true items[0]? enabled) (second : Gives true items[1]? comments) :
      Describes t ⟨⟨enabled, comments⟩⟩

/-- Do two documents differ in other things than flags alone? -/
inductive AgreeOnFlags (t t' : Table) : Prop where
  | besideGrammar (same : t.filter (·.1 == "grammar") = t'.filter (·.1 == "grammar"))
  | inTable {origin origin' : Origin} {entries entries' : Table}
      (found : t.lookup "grammar" = some (.table origin entries))
      (found' : t'.lookup "grammar" = some (.table origin' entries'))
      (same : entries.filter (·.1 ∈ flagNames) = entries'.filter (·.1 ∈ flagNames))
  | inArray {v v' : Value} {items items' : List Value}
      (found : t.lookup "grammar" = some v) (found' : t'.lookup "grammar" = some v')
      (list : v.items? = some items) (list' : v'.items? = some items')
      (same : items.take 2 = items'.take 2)

variable {t t' : Table}

/-- Where the flags of a document stand: nowhere, in a table, or in front in an array. -/
theorem flagsIn_eq_some_iff {flags : Table} :
    flagsIn t = some flags ↔
      t.lookup "grammar" = none ∧ flags = [] ∨
      (∃ origin entries, t.lookup "grammar" = some (.table origin entries) ∧
        flags = entries.filter (·.1 ∈ flagNames)) ∨
      ∃ v items, t.lookup "grammar" = some v ∧ v.items? = some items ∧
        flags = flagNames.zip items := by
  rw [flagsIn]
  cases t.lookup "grammar" with
  | none => simp [eq_comm]
  | some v => cases v <;> simp [Value.items?, eq_comm]

/-- Without `grammar` there are no flags. -/
theorem flagsIn_of_none (found : t.lookup "grammar" = none) : flagsIn t = some [] :=
  flagsIn_eq_some_iff.mpr (.inl ⟨found, rfl⟩)

/-- In a table the flags are its entries under their names. -/
theorem flagsIn_of_table {origin : Origin} {entries : Table}
    (found : t.lookup "grammar" = some (.table origin entries)) :
    flagsIn t = some (entries.filter (·.1 ∈ flagNames)) :=
  flagsIn_eq_some_iff.mpr (.inr (.inl ⟨origin, entries, found, rfl⟩))

/-- In an array the flags are the items in front. -/
theorem flagsIn_of_items {v : Value} {items : List Value} (found : t.lookup "grammar" = some v)
    (list : v.items? = some items) : flagsIn t = some (flagNames.zip items) :=
  flagsIn_eq_some_iff.mpr (.inr (.inr ⟨v, items, found, list, rfl⟩))

/-- The settings of a document are those that its flags give, read one by one. -/
theorem ofToml_of_flagsIn {flags : Table} (h : flagsIn t = some flags) :
    ofToml t = (addEntries {} flags).map Settings.mk := by
  rw [ofToml]
  obtain ⟨found, rfl⟩ | ⟨origin, entries, found, rfl⟩ | ⟨v, items, found, list, rfl⟩ :=
    flagsIn_eq_some_iff.mp h
  · rw [found]
    rfl
  · rw [found, addEntries_filter]
    rfl
  · rw [found, ← ofToml_of_items list]

/-- What stands under `grammar` is reported if it is neither a table nor an array. A date is taken
for a table, in which no flag can stand. -/
theorem ofToml_of_flagsIn_eq_none (h : flagsIn t = none)
    (noDate : t.lookup "grammar" ≠ some .dateTime) :
    ∃ v, t.lookup "grammar" = some v ∧
      ofToml t = .error (.wrongType v.found .grammarSettings) := by
  rw [flagsIn] at h
  rw [ofToml]
  cases found : t.lookup "grammar" with
  | none =>
    rw [found] at h
    exact nomatch h
  | some v =>
    rw [found] at h noDate
    refine ⟨v, rfl, ?_⟩
    -- in tables and arrays there is a place for flags
    cases v with
    | dateTime => exact absurd rfl noDate
    | table origin entries => exact nomatch h
    | array items => exact nomatch h
    | tables elements => exact nomatch h
    | _ => rfl

/-- Each flag stands at most once in a document whose keys are distinct. -/
theorem nodup_keys_flagsIn {flags : Table} (ht : t.DistinctKeys) (h : flagsIn t = some flags) :
    (flags.map (·.1)).Nodup := by
  obtain ⟨-, rfl⟩ | ⟨origin, entries, found, rfl⟩ | ⟨v, items, -, -, rfl⟩ :=
    flagsIn_eq_some_iff.mp h
  · exact List.nodup_nil
  -- a selection from distinct keys has distinct keys
  · have keys := (Table.distinctKeys_table_iff.mp (ht.lookup found)).keys
    exact keys.sublist (List.filter_sublist.map _)
  · exact nodup_keys_zip items

/-- Leaving the other entries out changes nothing about a flag. -/
theorem lookup_filter_flagNames {name : String} (h : name ∈ flagNames) (entries : Table) :
    (entries.filter (·.1 ∈ flagNames)).lookup name = entries.lookup name :=
  lookup_filter (p := fun key => decide (key ∈ flagNames)) (decide_eq_true h)

/-- What a document describes, in whatever form, is what its flags give. -/
theorem describes_iff {s : Settings} : Describes t s ↔ ∃ flags, flagsIn t = some flags ∧
    ∀ name ∈ flagNames, Gives true (flags.lookup name) (s.grammar.flag name) := by
  have enabled : "enabled" ∈ flagNames := by decide
  have comments : "check_comments" ∈ flagNames := by decide
  constructor
  · intro h
    cases h with
    | absent found =>
      exact ⟨[], flagsIn_of_none found, forall_flagNames.mpr ⟨.absent, .absent⟩⟩
    | table found first second =>
      refine ⟨_, flagsIn_of_table found, forall_flagNames.mpr ⟨?_, ?_⟩⟩
      · rwa [lookup_filter_flagNames enabled]
      · rwa [lookup_filter_flagNames comments]
    -- the items are looked up under the names of the flags
    | @array v items _ _ found list first second =>
      refine ⟨_, flagsIn_of_items found list, forall_flagNames.mpr ⟨?_, ?_⟩⟩
      · rwa [(lookup_zip items).1]
      · rwa [(lookup_zip items).2]
  · rintro ⟨flags, h, gives⟩
    obtain ⟨first, second⟩ := forall_flagNames.mp gives
    obtain ⟨found, rfl⟩ | ⟨origin, entries, found, rfl⟩ | ⟨v, items, found, list, rfl⟩ :=
      flagsIn_eq_some_iff.mp h
    -- without `grammar` both flags are what they are in the defaults
    · obtain ⟨⟨e, c⟩⟩ := s
      obtain rfl := gives_none_iff.mp first
      obtain rfl := gives_none_iff.mp second
      exact .absent found
    · rw [lookup_filter_flagNames enabled] at first
      rw [lookup_filter_flagNames comments] at second
      exact .table found first second
    · rw [(lookup_zip items).1] at first
      rw [(lookup_zip items).2] at second
      exact .array found list first second

/-- The flags of a document have no other names. -/
theorem filter_flagsIn {flags : Table} (h : flagsIn t = some flags) :
    flags.filter (·.1 ∈ flagNames) = flags := by
  obtain ⟨-, rfl⟩ | ⟨origin, entries, -, rfl⟩ | ⟨v, items, -, -, rfl⟩ := flagsIn_eq_some_iff.mp h
  · rfl
  · rw [List.filter_filter]
    simp only [Bool.and_self]
  · rw [List.filter_eq_self]
    intro e he
    exact decide_eq_true (List.of_mem_zip he).1

/-- Settings hold nothing else than those that are read. -/
theorem map_mk_eq_ok_iff {x : Except DataError GrammarSettings} {s : Settings} :
    x.map Settings.mk = .ok s ↔ x = .ok s.grammar := by
  rw [map_eq_ok_iff]
  constructor
  · rintro ⟨g, read, rfl⟩
    exact read
  · intro read
    exact ⟨s.grammar, read, rfl⟩

/-- Settings are given by a document exactly if it describes them. -/
theorem ofToml_eq_ok_iff {s : Settings} (ht : t.DistinctKeys)
    (noDate : t.lookup "grammar" ≠ some .dateTime) : ofToml t = .ok s ↔ Describes t s := by
  rw [describes_iff]
  cases h : flagsIn t with
  | none =>
    -- where there is no place for flags, nothing is read and nothing described
    obtain ⟨v, -, error⟩ := ofToml_of_flagsIn_eq_none h noDate
    rw [error]
    exact ⟨nofun, nofun⟩
  | some flags =>
    -- where nothing is given, a flag is on
    have gives (name : String) : (({} : GrammarSettings).flag name) = true := ite_self true
    rw [ofToml_of_flagsIn h, map_mk_eq_ok_iff, addEntries_eq_ok_iff (nodup_keys_flagsIn ht h)]
    simp only [gives, Option.some.injEq, exists_eq_left']

/-- What is reported of a document: that `grammar` is no place for flags, or the first of its flags
that is no boolean. -/
theorem ofToml_eq_error_iff {error : DataError} (noDate : t.lookup "grammar" ≠ some .dateTime) :
    ofToml t = .error error ↔
      (∃ v, t.lookup "grammar" = some v ∧ flagsIn t = none ∧
        error = .wrongType v.found .grammarSettings) ∨
      ∃ flags e, flagsIn t = some flags ∧ flags.find? (!·.2.isBoolean) = some e ∧
        error = .wrongType e.2.found .boolean := by
  cases h : flagsIn t with
  | none =>
    obtain ⟨v, found, wrong⟩ := ofToml_of_flagsIn_eq_none h noDate
    rw [wrong, Except.error.injEq]
    constructor
    · rintro rfl
      exact .inl ⟨v, found, rfl, rfl⟩
    · rintro (⟨v', found', -, rfl⟩ | ⟨_, _, ⟨⟩, -⟩)
      rw [Option.some.inj (found.symm.trans found')]
  | some flags =>
    -- the flags are all that is in the list, so that no entry is passed over
    rw [ofToml_of_flagsIn h, map_eq_error_iff, addEntries_eq_error_iff, filter_flagsIn h]
    constructor
    · rintro ⟨e, first, wrong⟩
      exact .inr ⟨flags, e, rfl, first, wrong⟩
    · rintro (⟨_, -, ⟨⟩, -⟩ | ⟨_, e, ⟨⟩, first, wrong⟩)
      exact ⟨e, first, wrong⟩

/-- What is not a flag has no effect, not even on what is reported. -/
theorem ofToml_eq_of_agreeOnFlags (h : AgreeOnFlags t t') : ofToml t = ofToml t' := by
  cases h with
  | besideGrammar same =>
    -- nothing but what stands under `grammar` is looked at
    have found : t.lookup "grammar" = t'.lookup "grammar" := by
      rw [← lookup_filter (p := (· == "grammar")) rfl, same,
        lookup_filter (p := (· == "grammar")) rfl]
    rw [ofToml, ofToml, found]
  | inTable found found' same =>
    rw [ofToml_of_flagsIn (flagsIn_of_table found), same,
      ofToml_of_flagsIn (flagsIn_of_table found')]
  | inArray found found' list list' same =>
    -- an array is read as far as there are names for its items
    rw [ofToml_of_flagsIn (flagsIn_of_items found list), ← zip_take, same, zip_take,
      ofToml_of_flagsIn (flagsIn_of_items found' list')]

/-- Settings are read from two flags alone. A document gives settings if nothing stands under
`grammar`, or a table or an array in which each of the flags is missing or a boolean; then each flag
is what is given for it, or else on. So documents with the same flags, in whatever order and form,
give the same settings, and documents that differ in other keys and items alone give the same even
where there is something to report. That is what stands under `grammar` if it is neither a table nor
an array, and otherwise the first of the flags that is no boolean. The documents that are read from
texts have distinct keys, as is asked of tables here. -/
theorem settings_read_from_two_flags :
    (∀ t : Toml.Table, t.DistinctKeys → t.lookup "grammar" ≠ some .dateTime →
      (∀ s, ofToml t = .ok s ↔ Describes t s) ∧
      ∀ error, ofToml t = .error error ↔
        (∃ v, t.lookup "grammar" = some v ∧ flagsIn t = none ∧
          error = .wrongType v.found .grammarSettings) ∨
        ∃ flags e, flagsIn t = some flags ∧ flags.find? (!·.2.isBoolean) = some e ∧
          error = .wrongType e.2.found .boolean) ∧
    (∀ (t t' flags flags' : Toml.Table), t.DistinctKeys → t'.DistinctKeys →
      flagsIn t = some flags → flagsIn t' = some flags' →
      (∀ name ∈ flagNames, flags.lookup name = flags'.lookup name) →
      ∀ s, ofToml t = .ok s ↔ ofToml t' = .ok s) ∧
    (∀ t t' : Toml.Table, AgreeOnFlags t t' → ofToml t = ofToml t') ∧
    ∀ (text : String) (t : Toml.Table), Toml.read text.toList = some t →
      t.DistinctKeys ∧ decode text = (ofToml t).mapError .data := by
  refine ⟨fun t ht noDate => ⟨fun s => ofToml_eq_ok_iff ht noDate,
    fun error => ofToml_eq_error_iff noDate⟩, ?sameFlags, fun _ _ => ofToml_eq_of_agreeOnFlags,
    fun text t read => ⟨distinctKeys_read read, ?decode⟩⟩
  case sameFlags =>
    intro t t' flags flags' ht ht' h h' same s
    -- what the flags give depends on what they are looked up as, one by one
    rw [ofToml_of_flagsIn h, ofToml_of_flagsIn h', map_mk_eq_ok_iff, map_mk_eq_ok_iff,
      addEntries_eq_ok_iff (nodup_keys_flagsIn ht h),
      addEntries_eq_ok_iff (nodup_keys_flagsIn ht' h')]
    exact forall₂_congr fun name hname => by rw [same name hname]
  case decode => rw [decode, read]

/-- A document that turns checking off under a header. -/
private def headerText : String := "[grammar]\nindent = \"tab\"\nenabled = false\n"

/-- The table of `headerText`. -/
private def byHeader : Table :=
  [("grammar", .table .header [("indent", .string "tab"), ("enabled", .boolean false)])]

/-- A document that does so by an array. -/
private def arrayText : String := "title = \"T\"\ngrammar = [false]\n"

/-- The table of `arrayText`. -/
private def byArray : Table := [("title", .string "T"), ("grammar", .array [.boolean false])]

/-- A document with two words for flags. -/
private def wrongText : String :=
  "grammar = \x7bcheck_comments = \"no\", enabled = \"yes\"\x7d"

/-- The table of `wrongText`. -/
private def wrongTwice : Table :=
  [("grammar", .table .inlined [("check_comments", .string "no"), ("enabled", .string "yes")])]

/-- A document that turns checking off by a dotted key. -/
private def byDottedKey : Table := [("grammar", .table .dotted [("enabled", .boolean false)])]

/-- Checking is turned off under a header and in an array, with other keys about. Of two words that
are no booleans the one that stands first is reported. -/
theorem turned_off_twice :
    (Toml.read headerText.toList = some byHeader ∧ Toml.read arrayText.toList = some byArray ∧
      Toml.read wrongText.toList = some wrongTwice) ∧
    (byHeader.DistinctKeys ∧ byArray.DistinctKeys ∧ wrongTwice.DistinctKeys) ∧
    (byHeader.lookup "grammar" ≠ some .dateTime ∧ wrongTwice.lookup "grammar" ≠ some .dateTime) ∧
    (Describes byHeader ⟨⟨false, true⟩⟩ ∧ ofToml byHeader = .ok ⟨⟨false, true⟩⟩) ∧
    (flagsIn byHeader = some [("enabled", .boolean false)] ∧
      flagsIn byArray = some [("enabled", .boolean false)] ∧
      ofToml byArray = .ok ⟨⟨false, true⟩⟩) ∧
    (AgreeOnFlags byHeader byDottedKey ∧ ofToml byDottedKey = .ok ⟨⟨false, true⟩⟩) ∧
    decode wrongText = .error (.data (.wrongType (.text "no") .boolean)) := by
  obtain ⟨settings, sameFlags, agree, texts⟩ := settings_read_from_two_flags
  have readHeader : Toml.read headerText.toList = some byHeader := by with_unfolding_all rfl
  have readArray : Toml.read arrayText.toList = some byArray := by with_unfolding_all rfl
  have readWrong : Toml.read wrongText.toList = some wrongTwice := by with_unfolding_all rfl
  have distinct := (texts _ _ readHeader).1
  have distinct' := (texts _ _ readArray).1
  obtain ⟨distinct'', decoded⟩ := texts _ _ readWrong
  have noDate : byHeader.lookup "grammar" ≠ some .dateTime := by rintro ⟨⟩
  have noDate' : wrongTwice.lookup "grammar" ≠ some .dateTime := by rintro ⟨⟩
  have describes : Describes byHeader ⟨⟨false, true⟩⟩ := .table rfl (.given false) .absent
  have off := ((settings _ distinct noDate).1 _).mpr describes
  have same : AgreeOnFlags byHeader byDottedKey := .inTable rfl rfl rfl
  have wrong := ((settings _ distinct'' noDate').2 (.wrongType (.text "no") .boolean)).mpr
    (.inr ⟨_, _, rfl, rfl, rfl⟩)
  refine ⟨⟨readHeader, readArray, readWrong⟩, ⟨distinct, distinct', distinct''⟩,
    ⟨noDate, noDate'⟩, ⟨describes, off⟩, ⟨rfl, rfl, ?_⟩, ⟨same, ?_⟩, ?_⟩
  · exact (sameFlags _ _ _ _ distinct distinct' rfl rfl (fun _ _ => rfl) _).mp off
  · rw [← agree _ _ same, off]
  · rw [decoded, wrong]
    rfl

end Settings

end Adoc
