/-!
# ChatDice.Dictionary — values by their keys

Variables and the members of JSON objects are values by their keys, and the order in which the keys
first came shows in what is reported. Writing to a key that is there changes its value and moves
nothing; a new key goes to the end.

* `get?_put` — what has been written is found, and nothing else has changed;
* `keys_put` — writing keeps the keys in their places.
-/

namespace ChatDice

/-- Values by their keys, in the order in which the keys first came. -/
abbrev Dictionary (κ α : Type) := List (κ × α)

namespace Dictionary

variable {κ ι α : Type} [DecidableEq κ] [DecidableEq ι]

/-- The value of a key. -/
def get? : Dictionary κ α → κ → Option α
  | [], _ => none
  | (key', value) :: rest, key => if key' = key then some value else get? rest key

/-- The dictionary with a value under a key. -/
def put : Dictionary κ α → κ → α → Dictionary κ α
  | [], key, value => [(key, value)]
  | (key', value') :: rest, key, value =>
    if key' = key then (key, value) :: rest else (key', value') :: put rest key value

/-- The dictionary of some entries; of two with one key the later counts. -/
def ofEntries (entries : List (κ × α)) : Dictionary κ α :=
  entries.foldl (fun d entry => put d entry.1 entry.2) []

/-- The dictionary under other keys. Where keys become one, the later value counts. -/
def mapKeys (f : κ → ι) (d : Dictionary κ α) : Dictionary ι α :=
  ofEntries (d.map fun entry => (f entry.1, entry.2))

/-- What has been written under a key is found there, and the other keys keep their values. -/
theorem get?_put (d : Dictionary κ α) (key key' : κ) (value : α) :
    get? (put d key value) key' = if key = key' then some value else get? d key' := by
  induction d with
  | nil => rfl
  | cons entry rest ih =>
    obtain ⟨k, v⟩ := entry
    by_cases hk : k = key
    · subst hk
      by_cases h : k = key' <;> simp [put, get?, h]
    · by_cases h : k = key'
      · subst h
        simp [put, get?, hk, Ne.symm hk]
      · simp [put, get?, hk, h, ih]

/-- Writing keeps the keys in their places, and a new key comes last. -/
theorem keys_put (d : Dictionary κ α) (key : κ) (value : α) :
    (put d key value).map Prod.fst =
      if key ∈ d.map Prod.fst then d.map Prod.fst else d.map Prod.fst ++ [key] := by
  induction d with
  | nil => rfl
  | cons entry rest ih =>
    obtain ⟨k, v⟩ := entry
    by_cases hk : k = key
    · simp [put, hk]
    · by_cases hm : key ∈ rest.map Prod.fst
      · simp only [put, hk, if_false, List.map_cons, ih, hm, if_true, List.mem_cons, or_true]
      · simp only [put, hk, if_false, List.map_cons, ih, hm, List.mem_cons, Ne.symm hk, or_false,
          List.cons_append]

end Dictionary

end ChatDice
