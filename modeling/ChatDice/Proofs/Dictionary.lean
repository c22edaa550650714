import Mathlib.Data.List.Induction
import Mathlib.Data.List.Nodup
import ChatDice.Dictionary

/-!
# ChatDice.Proofs.Dictionary — entries that count

Of two entries with one key the later counts, so what is found under a key is the last entry that
has it. `Dictionary.last?` finds the last entry whose key passes a test; it describes what becomes
of entries whose keys are renamed (`get?_mapKeys`), where the test is that the new key is the one
looked for.

Dictionaries that are built by writing have no key twice. Of such a dictionary every entry counts.
-/

namespace ChatDice.Dictionary

section
variable {κ α : Type}

/-- The keys, in the order in which they first came. -/
def keys (d : Dictionary κ α) : List κ := d.map Prod.fst

@[simp] theorem keys_nil : keys ([] : Dictionary κ α) = [] := rfl

@[simp] theorem keys_cons (entry : κ × α) (d : Dictionary κ α) :
    keys (entry :: d) = entry.1 :: keys d := rfl

@[simp] theorem keys_append (d e : Dictionary κ α) : keys (d ++ e) = keys d ++ keys e :=
  List.map_append

/-- The value of the last entry whose key passes a test. -/
def last? (p : κ → Bool) : Dictionary κ α → Option α
  | [] => none
  | entry :: d => (last? p d).or (if p entry.1 then some entry.2 else none)

theorem last?_eq_none_iff {p : κ → Bool} {d : Dictionary κ α} :
    last? p d = none ↔ ∀ key ∈ keys d, p key = false := by
  induction d with
  | nil => simp [last?]
  | cons entry d ih =>
    rw [last?, Option.or_eq_none_iff, ih, keys_cons, List.forall_mem_cons, and_comm]
    simp

theorem last?_concat (p : κ → Bool) (d : Dictionary κ α) (entry : κ × α) :
    last? p (d ++ [entry]) = if p entry.1 then some entry.2 else last? p d := by
  induction d with
  | nil => simp [last?]
  | cons first d ih =>
    rw [List.cons_append, last?, ih, last?]
    split <;> simp

theorem last?_map {ι β : Type} (f : κ → ι) (g : α → β) (p : ι → Bool) (d : Dictionary κ α) :
    last? p (d.map fun entry => (f entry.1, g entry.2)) =
      (last? (fun key => p (f key)) d).map g := by
  induction d with
  | nil => rfl
  | cons entry d ih =>
    rw [List.map_cons, last?, ih, last?, Option.map_or]
    split <;> rfl

/-- Entries are looked up among those whose keys pass a weaker test. -/
theorem last?_filter {p q : κ → Bool} (h : ∀ key, p key = true → q key = true)
    (d : Dictionary κ α) : last? p (d.filter fun entry => q entry.1) = last? p d := by
  induction d with
  | nil => rfl
  | cons entry d ih =>
    by_cases hq : q entry.1 = true
    · rw [List.filter_cons, if_pos hq, last?, ih, last?]
    · have hp : p entry.1 = false := Bool.eq_false_iff.mpr fun hpass => hq (h entry.1 hpass)
      rw [List.filter_cons, if_neg hq, ih, last?, hp, if_neg Bool.false_ne_true, Option.or_none]

end

variable {κ α : Type} [DecidableEq κ]

/-! ## Writing -/

theorem get?_eq_none_iff {d : Dictionary κ α} {key : κ} : get? d key = none ↔ key ∉ keys d := by
  induction d with
  | nil => simp [get?]
  | cons entry d ih =>
    by_cases h : entry.1 = key
    · simp [get?, h]
    · simp [get?, h, Ne.symm h, ih]

theorem mem_keys_put {d : Dictionary κ α} {key other : κ} {value : α} :
    other ∈ keys (put d key value) ↔ other ∈ keys d ∨ other = key := by
  rw [keys, keys_put, ← keys]
  by_cases h : key ∈ keys d
  · rw [if_pos h, or_iff_left_of_imp fun heq => heq ▸ h]
  · rw [if_neg h, List.mem_append, List.mem_singleton]

theorem put_ne_nil (d : Dictionary κ α) (key : κ) (value : α) : put d key value ≠ [] := by
  intro h
  have hmem : key ∈ keys (put d key value) := mem_keys_put.mpr (.inr rfl)
  rw [h] at hmem
  cases hmem

theorem nodup_keys_put {d : Dictionary κ α} (h : (keys d).Nodup) (key : κ) (value : α) :
    (keys (put d key value)).Nodup := by
  rw [keys, keys_put, ← keys]
  by_cases hmem : key ∈ keys d
  · rwa [if_pos hmem]
  · rw [if_neg hmem, ← List.concat_eq_append]
    exact h.concat hmem

/-- A key that is new comes last. -/
theorem put_of_not_mem {d : Dictionary κ α} {key : κ} (h : key ∉ keys d) (value : α) :
    put d key value = d ++ [(key, value)] := by
  induction d with
  | nil => rfl
  | cons entry d ih =>
    rw [keys_cons, List.mem_cons, not_or] at h
    rw [put, if_neg (Ne.symm h.1), ih h.2, List.cons_append]

/-- Writing a key that does not pass leaves the entries that do as they are. -/
theorem last?_put_of_neg {p : κ → Bool} {key : κ} (h : p key = false) (d : Dictionary κ α)
    (value : α) : last? p (put d key value) = last? p d := by
  induction d with
  | nil => simp [put, last?, h]
  | cons entry d ih =>
    by_cases hkey : entry.1 = key
    · simp [put, hkey, last?, h]
    · simp [put, hkey, last?, ih]

theorem countP_keys_put_of_neg {p : κ → Bool} {key : κ} (h : p key = false) (d : Dictionary κ α)
    (value : α) : (keys (put d key value)).countP p = (keys d).countP p := by
  rw [keys, keys_put, ← keys]
  split
  · rfl
  · simp [h]

/-- Writing a key that passes makes its entry the last of those, if there was one at most. A key
that is there keeps its place, and behind it might stand another one. -/
theorem last?_put_of_pos {p : κ → Bool} {key : κ} (h : p key = true) {d : Dictionary κ α}
    (hd : (keys d).countP p ≤ 1) (value : α) : last? p (put d key value) = some value := by
  induction d with
  | nil => simp [put, last?, h]
  | cons entry d ih =>
    rw [keys_cons, List.countP_cons] at hd
    by_cases hkey : entry.1 = key
    · have hzero : (keys d).countP p = 0 := by
        rw [hkey, if_pos h] at hd
        omega
      have hnone : last? p d = none :=
        last?_eq_none_iff.mpr fun k hk => by simpa using List.countP_eq_zero.mp hzero k hk
      simp [put, hkey, last?, hnone, h]
    · simp [put, hkey, last?, ih (by omega)]

/-- Entries are looked up among those whose keys pass. -/
theorem get?_filter (p : κ → Bool) (d : Dictionary κ α) (key : κ) :
    get? (d.filter fun entry => p entry.1) key = if p key then get? d key else none := by
  induction d with
  | nil => simp [get?]
  | cons entry d ih =>
    by_cases hkey : entry.1 = key
    · subst hkey
      by_cases hp : p entry.1 <;> simp [hp, get?, ih]
    · by_cases hp : p entry.1 <;> simp [hp, get?, hkey, ih]

/-! ## Entries -/

theorem ofEntries_concat (entries : List (κ × α)) (entry : κ × α) :
    ofEntries (entries ++ [entry]) = put (ofEntries entries) entry.1 entry.2 := by
  rw [ofEntries, List.foldl_concat]
  rfl

theorem nodup_keys_ofEntries (entries : List (κ × α)) : (keys (ofEntries entries)).Nodup := by
  induction entries using List.reverseRecOn with
  | nil => exact List.nodup_nil
  | append_singleton entries entry ih =>
    rw [ofEntries_concat]
    exact nodup_keys_put ih entry.1 entry.2

theorem mem_keys_ofEntries {entries : List (κ × α)} {key : κ} :
    key ∈ keys (ofEntries entries) ↔ key ∈ keys entries := by
  induction entries using List.reverseRecOn with
  | nil => rfl
  | append_singleton entries entry ih =>
    rw [ofEntries_concat, mem_keys_put, ih, keys_append, List.mem_append, keys_cons, keys_nil,
      List.mem_singleton]

/-- What is found among entries is the last one with the key. -/
theorem get?_ofEntries (entries : List (κ × α)) (key : κ) :
    get? (ofEntries entries) key = last? (fun k => decide (k = key)) entries := by
  induction entries using List.reverseRecOn with
  | nil => rfl
  | append_singleton entries entry ih =>
    rw [ofEntries_concat, get?_put, ih, last?_concat]
    simp

/-- Entries without a key that comes twice are a dictionary as they are. -/
theorem ofEntries_of_nodup {entries : List (κ × α)} (h : (keys entries).Nodup) :
    ofEntries entries = entries := by
  induction entries using List.reverseRecOn with
  | nil => rfl
  | append_singleton entries entry ih =>
    rw [keys_append] at h
    have hnew : entry.1 ∉ keys entries := by
      intro hmem
      exact (List.nodup_append.mp h).2.2 entry.1 hmem entry.1 (by simp) rfl
    rw [ofEntries_concat, ih (List.nodup_append.mp h).1, put_of_not_mem hnew]

theorem nodup_keys_mapKeys {ι : Type} (f : ι → κ) (d : Dictionary ι α) :
    (keys (mapKeys f d)).Nodup :=
  nodup_keys_ofEntries _

/-- What is found under a new key is the last entry whose key becomes it. -/
theorem get?_mapKeys {ι : Type} (f : ι → κ) (d : Dictionary ι α) (key : κ) :
    get? (mapKeys f d) key = last? (fun k => decide (f k = key)) d := by
  have hmap := last?_map f id (fun k => decide (k = key)) d
  rw [Option.map_id, id] at hmap
  rw [mapKeys, get?_ofEntries]
  exact hmap

theorem mem_keys_mapKeys {ι : Type} {f : ι → κ} {d : Dictionary ι α} {key : κ} :
    key ∈ keys (mapKeys f d) ↔ ∃ k ∈ keys d, f k = key := by
  have hkeys : keys (d.map fun entry => (f entry.1, entry.2)) = (keys d).map f := by
    rw [keys, List.map_map, keys, List.map_map]
    rfl
  rw [mapKeys, mem_keys_ofEntries, hkeys, List.mem_map]

end ChatDice.Dictionary
