/-!
# Dictionaries

A dictionary is a finite map that keeps the order in which its keys were first
put in. Putting a key in again replaces its value and leaves its place alone.
-/

namespace DesignTokens

variable {Key Value : Type}

/-- The entries after a key was put in: a present key keeps its place, a new one
goes to the end. -/
def putEntry [DecidableEq Key] (key : Key) (value : Value) :
    List (Key × Value) -> List (Key × Value)
  | [] => [(key, value)]
  | entry :: others =>
      if entry.1 = key then (key, value) :: others else entry :: putEntry key value others

/-- Putting a key in adds it at the end of the keys, unless it is one of them. -/
theorem keys_putEntry [DecidableEq Key] (key : Key) (value : Value)
    (entries : List (Key × Value)) :
    (putEntry key value entries).map Prod.fst =
      if key ∈ entries.map Prod.fst then entries.map Prod.fst
      else entries.map Prod.fst ++ [key] := by
  induction entries with
  | nil => simp [putEntry]
  | cons entry others ih =>
      by_cases same : entry.1 = key
      · simp [putEntry, same]
      · have other : ¬ key = entry.1 := fun equal => same equal.symm
        by_cases present : key ∈ others.map Prod.fst <;>
          simp [putEntry, same, other, present] at ih ⊢ <;> exact ih

/-- Distinct keys stay distinct. -/
theorem nodup_keys_putEntry [DecidableEq Key] (key : Key) (value : Value)
    {entries : List (Key × Value)} (distinct : (entries.map Prod.fst).Nodup) :
    ((putEntry key value entries).map Prod.fst).Nodup := by
  rw [keys_putEntry]
  split
  · exact distinct
  next absent =>
    rw [List.nodup_append]
    refine ⟨distinct, by simp, ?_⟩
    intro earlier member later last equal
    simp only [List.mem_singleton] at last
    exact absent (last ▸ equal ▸ member)

/-- A new key is put in behind the others. -/
theorem putEntry_of_not_mem [DecidableEq Key] {key : Key} {value : Value}
    {entries : List (Key × Value)} (absent : key ∉ entries.map Prod.fst) :
    putEntry key value entries = entries ++ [(key, value)] := by
  induction entries with
  | nil => rfl
  | cons entry others ih =>
      simp only [List.map_cons, List.mem_cons, not_or] at absent
      have other : ¬ entry.1 = key := fun same => absent.1 same.symm
      simp [putEntry, other, ih absent.2]

/-- What was put in is an earlier entry or the new one. -/
theorem mem_of_mem_putEntry [DecidableEq Key] {key : Key} {value : Value}
    {entries : List (Key × Value)} {entry : Key × Value}
    (member : entry ∈ putEntry key value entries) : entry = (key, value) ∨ entry ∈ entries := by
  induction entries with
  | nil => exact .inl (List.mem_singleton.mp member)
  | cons first others ih =>
      rw [putEntry] at member
      split at member
      · rcases List.mem_cons.mp member with new | later
        · exact .inl new
        · exact .inr (List.mem_cons_of_mem first later)
      · rcases List.mem_cons.mp member with here | later
        · exact .inr (here ▸ List.mem_cons_self)
        · exact (ih later).imp_right (List.mem_cons_of_mem first)

/-- A map from keys to values that remembers the order of its keys. -/
structure Dictionary (Key Value : Type) where
  entries : List (Key × Value)
  distinct : (entries.map Prod.fst).Nodup

namespace Dictionary

/-- Dictionaries with the same entries in the same order are equal. -/
@[ext]
theorem ext {first second : Dictionary Key Value}
    (same : first.entries = second.entries) : first = second := by
  cases first
  cases second
  simp only at same
  subst same
  rfl

/-- The dictionary without keys. -/
def empty : Dictionary Key Value := ⟨[], by simp⟩

/-- The keys in the order in which they were first put in. -/
def keys (dictionary : Dictionary Key Value) : List Key :=
  dictionary.entries.map Prod.fst

/-- The number of keys. -/
def size (dictionary : Dictionary Key Value) : Nat :=
  dictionary.entries.length

/-- Puts a key in. -/
def put [DecidableEq Key] (dictionary : Dictionary Key Value) (key : Key) (value : Value) :
    Dictionary Key Value :=
  ⟨putEntry key value dictionary.entries, nodup_keys_putEntry key value dictionary.distinct⟩

/-- The value of a key, if the key was put in. -/
def get? [DecidableEq Key] (dictionary : Dictionary Key Value) (key : Key) : Option Value :=
  (dictionary.entries.find? fun entry => entry.1 = key).map Prod.snd

/-- The dictionary that results from putting pairs in one after the other. -/
def ofList [DecidableEq Key] (pairs : List (Key × Value)) : Dictionary Key Value :=
  pairs.foldl (fun dictionary pair => dictionary.put pair.1 pair.2) empty

/-- The entries whose keys pass a test. -/
def keep (dictionary : Dictionary Key Value) (passes : Key -> Bool) : Dictionary Key Value :=
  ⟨dictionary.entries.filter fun entry => passes entry.1,
    dictionary.distinct.sublist (List.filter_sublist.map Prod.fst)⟩

instance : Inhabited (Dictionary Key Value) := ⟨empty⟩

instance [DecidableEq Key] [DecidableEq Value] : DecidableEq (Dictionary Key Value) :=
  fun first second =>
    if same : first.entries = second.entries then isTrue (ext same)
    else isFalse fun equal => same (equal ▸ rfl)

/-- Pairs with new and distinct keys are put in behind the entries as they are. -/
theorem entries_foldl_put [DecidableEq Key] {dictionary : Dictionary Key Value}
    {pairs : List (Key × Value)}
    (distinct : ((dictionary.entries ++ pairs).map Prod.fst).Nodup) :
    (pairs.foldl (fun dictionary pair => dictionary.put pair.1 pair.2) dictionary).entries =
      dictionary.entries ++ pairs := by
  induction pairs generalizing dictionary with
  | nil => simp
  | cons pair others ih =>
      have absent : pair.1 ∉ dictionary.entries.map Prod.fst := by
        rw [List.map_append, List.nodup_append] at distinct
        exact fun present => distinct.2.2 pair.1 present pair.1 (by simp) rfl
      have next : (dictionary.put pair.1 pair.2).entries = dictionary.entries ++ [pair] :=
        putEntry_of_not_mem absent
      rw [List.foldl_cons, ih (by rw [next]; simpa using distinct), next]
      simp

/-- Pairs with distinct keys are the entries of their dictionary. -/
theorem entries_ofList [DecidableEq Key] {pairs : List (Key × Value)}
    (distinct : (pairs.map Prod.fst).Nodup) : (ofList pairs).entries = pairs :=
  @entries_foldl_put Key Value _ empty pairs distinct

/-- A dictionary is made of its entries. -/
theorem ofList_entries [DecidableEq Key] (dictionary : Dictionary Key Value) :
    ofList dictionary.entries = dictionary :=
  ext (entries_ofList dictionary.distinct)

/-- What was put in is an earlier entry or one of the pairs. -/
theorem mem_of_mem_foldl_put [DecidableEq Key] {dictionary : Dictionary Key Value}
    {pairs : List (Key × Value)} {entry : Key × Value}
    (member : entry ∈
      (pairs.foldl (fun dictionary pair => dictionary.put pair.1 pair.2) dictionary).entries) :
    entry ∈ dictionary.entries ∨ entry ∈ pairs := by
  induction pairs generalizing dictionary with
  | nil => exact .inl member
  | cons pair others ih =>
      rcases ih member with before | later
      · rcases mem_of_mem_putEntry before with new | old
        · exact .inr (List.mem_cons.mpr (.inl new))
        · exact .inl old
      · exact .inr (List.mem_cons_of_mem pair later)

/-- The entries of a dictionary are among the pairs that it is made of. -/
theorem mem_of_mem_ofList [DecidableEq Key] {pairs : List (Key × Value)} {entry : Key × Value}
    (member : entry ∈ (ofList pairs).entries) : entry ∈ pairs :=
  (mem_of_mem_foldl_put member).resolve_left List.not_mem_nil

/-- Putting a key in adds it to the keys. -/
theorem mem_keys_put [DecidableEq Key] (dictionary : Dictionary Key Value) (key : Key)
    (value : Value) (asked : Key) :
    asked ∈ (dictionary.put key value).keys ↔ asked ∈ dictionary.keys ∨ asked = key := by
  simp only [keys, put, keys_putEntry]
  split
  next present =>
    constructor
    · exact Or.inl
    · rintro (member | same)
      · exact member
      · exact same ▸ present
  · simp

/-- The keys that are kept are those that pass. -/
theorem mem_keys_keep (dictionary : Dictionary Key Value) (passes : Key -> Bool) (asked : Key) :
    asked ∈ (dictionary.keep passes).keys ↔ asked ∈ dictionary.keys ∧ passes asked := by
  simp only [keys, keep, List.mem_map, List.mem_filter]
  constructor
  · rintro ⟨entry, ⟨member, passing⟩, rfl⟩
    exact ⟨⟨entry, member, rfl⟩, passing⟩
  · rintro ⟨⟨entry, member, rfl⟩, passing⟩
    exact ⟨entry, ⟨member, passing⟩, rfl⟩

/-- Distinct keys leave each key one value. -/
theorem value_unique {entries : List (Key × Value)} (distinct : (entries.map Prod.fst).Nodup)
    {key : Key} {value other : Value} (member : (key, value) ∈ entries)
    (again : (key, other) ∈ entries) : value = other := by
  induction entries with
  | nil => cases member
  | cons entry others ih =>
      rw [List.map_cons, List.nodup_cons] at distinct
      have fresh {later : Value} (first : (key, later) ∈ others) : ¬ entry.1 = key := by
        rintro rfl
        exact distinct.1 (List.mem_map.mpr ⟨_, first, rfl⟩)
      rcases List.mem_cons.mp member with here | behind
      · rcases List.mem_cons.mp again with there | after
        · exact congrArg Prod.snd (here.trans there.symm)
        · exact absurd (congrArg Prod.fst here).symm (fresh after)
      · rcases List.mem_cons.mp again with there | after
        · exact absurd (congrArg Prod.fst there).symm (fresh behind)
        · exact ih distinct.2 behind after

/-- Among entries with distinct keys, the entry of a key is the one that is found. -/
theorem find?_of_mem [DecidableEq Key] {entries : List (Key × Value)}
    (distinct : (entries.map Prod.fst).Nodup) {key : Key} {value : Value}
    (member : (key, value) ∈ entries) :
    (entries.find? fun entry => decide (entry.1 = key)) = some (key, value) := by
  cases found : entries.find? fun entry => decide (entry.1 = key) with
  | none => exact absurd (List.find?_eq_none.mp found _ member) (by simp)
  | some entry =>
      obtain ⟨asked, other⟩ := entry
      obtain rfl : asked = key := by simpa using List.find?_some found
      rw [value_unique distinct member (List.mem_of_find?_eq_some found)]

/-- A key has a value exactly when the two are an entry. -/
theorem get?_eq_some_iff [DecidableEq Key] {dictionary : Dictionary Key Value} {key : Key}
    {value : Value} : dictionary.get? key = some value ↔ (key, value) ∈ dictionary.entries := by
  constructor
  · intro found
    obtain ⟨entry, present, rfl⟩ := Option.map_eq_some_iff.mp found
    have same := List.find?_some present
    simp only [decide_eq_true_eq] at same
    exact same ▸ List.mem_of_find?_eq_some present
  · intro member
    simp [get?, find?_of_mem dictionary.distinct member]

/-- A key with a value is one of the keys. -/
theorem mem_keys_of_get? [DecidableEq Key] {dictionary : Dictionary Key Value} {key : Key}
    {value : Value} (found : dictionary.get? key = some value) : key ∈ dictionary.keys :=
  List.mem_map.mpr ⟨(key, value), get?_eq_some_iff.mp found, rfl⟩

/-- The value found first among the entries after a key was put in. -/
theorem find?_putEntry [DecidableEq Key] (key asked : Key) (value : Value)
    (entries : List (Key × Value)) :
    ((putEntry key value entries).find? fun entry => decide (entry.1 = asked)).map Prod.snd =
      if asked = key then some value
      else (entries.find? fun entry => decide (entry.1 = asked)).map Prod.snd := by
  induction entries with
  | nil => by_cases same : key = asked <;> simp [putEntry, same, eq_comm]
  | cons entry others ih =>
      by_cases here : entry.1 = key
      · by_cases same : key = asked
        · simp [putEntry, here, same]
        · have differ : ¬ asked = key := fun equal => same equal.symm
          simp [putEntry, here, same, differ]
      · by_cases found : entry.1 = asked
        · have differ : ¬ asked = key := fun equal => here (found.trans equal)
          simp [putEntry, found, differ]
        · simpa [putEntry, here, found] using ih

/-- Putting a key in changes the value of that key alone. -/
@[simp]
theorem get?_put [DecidableEq Key] (dictionary : Dictionary Key Value) (key : Key)
    (value : Value) (asked : Key) :
    (dictionary.put key value).get? asked =
      if asked = key then some value else dictionary.get? asked :=
  find?_putEntry key asked value dictionary.entries

/-- A key that is kept keeps its value. -/
theorem get?_keep [DecidableEq Key] (dictionary : Dictionary Key Value) (passes : Key -> Bool)
    (asked : Key) :
    (dictionary.keep passes).get? asked = if passes asked then dictionary.get? asked else none := by
  simp only [get?, keep, List.find?_filter]
  split
  next passing =>
    congr 1
    refine congrArg (fun test => List.find? test dictionary.entries) (funext fun entry => ?_)
    by_cases same : entry.1 = asked <;> simp [same, passing]
  next refused =>
    simp only [Option.map_eq_none_iff, List.find?_eq_none, decide_eq_true_eq]
    rintro entry _ ⟨passing, rfl⟩
    exact refused passing

end Dictionary

end DesignTokens
