import ChatDice.Proofs.Text.LowerCase
import ChatDice.Text.UpperCase

/-!
# ChatDice.Proofs.Text.UpperCase — words in capital letters

A word of ASCII capitals can be looked for without a table. Letters of other scripts do have ASCII
characters in their capitals: the dotless i becomes an I, the long s an S, ligatures come apart into
letters with an F or an S among them, and an H or an N with a mark on it becomes the letter and the
mark. In each case something is left that is no ASCII character, or one of I, S and F. So for words
without these three, capitals of every script and those of ASCII come to the same
(`Text.upperCase_eq_iff`).
-/

namespace ChatDice.Text

/-- An ASCII character other than the three that stand alone in capitals of other scripts. -/
def IsUnshared (w : Char) : Prop := 1 ≤ w.toNat ∧ w.toNat ≤ 127 ∧ w ≠ 'I' ∧ w ≠ 'S' ∧ w ≠ 'F'

instance (w : Char) : Decidable (IsUnshared w) :=
  inferInstanceAs (Decidable (1 ≤ w.toNat ∧ w.toNat ≤ 127 ∧ w ≠ 'I' ∧ w ≠ 'S' ∧ w ≠ 'F'))

/-- The small letters of ASCII. -/
def smallAscii : CaseRun := ⟨0x61, 0x7A, 1, -32⟩

/-- Behind ASCII, the capitals of a run are not ASCII either, but for the dotless i and the long
s. -/
theorem smallRuns_beyond : ∀ r ∈ smallRuns,
    r = smallAscii ∨ 128 ≤ r.first ∧ (128 ≤ (r.first : Int) + r.shift ∨
      r = ⟨0x131, 0x131, 1, -232⟩ ∨ r = ⟨0x17F, 0x17F, 1, -300⟩) := by
  decide +kernel

/-- A capital of several characters is no ASCII letter's, and it is not made of unshared
characters. -/
theorem longCapitals_beyond : ∀ entry ∈ longCapitals,
    128 ≤ entry.1 ∧ ∃ n ∈ entry.2, ¬ IsUnshared (Char.ofNat n) := by
  decide +kernel

/-- What is found under a key is an entry. -/
theorem mem_of_lookup {κ α : Type} [BEq κ] [LawfulBEq κ] {entries : List (κ × α)} {k : κ} {a : α}
    (h : entries.lookup k = some a) : (k, a) ∈ entries := by
  obtain ⟨front, rest, hentries, -⟩ := List.lookup_eq_some_iff.mp h
  simp [hentries]

theorem upperChar_of_lt {c : Char} (hc : c.toNat < 128) : upperChar c = [c.toUpper] := by
  have hlong : longCapitals.lookup c.toNat = none := by
    cases hlookup : longCapitals.lookup c.toNat with
    | none => rfl
    | some capital =>
      have hle := (longCapitals_beyond _ (mem_of_lookup hlookup)).1
      omega
  have hall : ∀ n : Fin 128, (Char.ofNat n).toUpper =
      if smallAscii.holds n then Char.ofNat ((n : Nat) + smallAscii.shift).toNat
      else Char.ofNat n := by
    decide +kernel
  have hupper := hall ⟨c.toNat, hc⟩
  rw [Char.ofNat_toNat] at hupper
  have hothers : ∀ r ∈ smallRuns, r = smallAscii ∨ 128 ≤ r.first :=
    fun r hr => (smallRuns_beyond r hr).imp_right And.left
  rw [upperChar, hlong, CaseRun.find_of_lt (by decide) hothers hc, hupper]
  cases smallAscii.holds c.toNat <;> rfl

theorem toUpper_of_le {c : Char} (hc : 128 ≤ c.toNat) : c.toUpper = c := by
  have hval : c.val.toNat = c.toNat := rfl
  have hz : ('z' : Char).val.toNat = 122 := rfl
  unfold Char.toUpper
  rw [dif_neg]
  rintro ⟨-, hle⟩
  have hle' := UInt32.le_iff_toNat_le.mp hle
  omega

/-- A character is its capital in ASCII or the small letter of that. -/
theorem eq_toUpper_or_toLower (c : Char) : c = c.toUpper ∨ c = c.toUpper.toLower := by
  have hall : ∀ n : Fin 128, Char.ofNat n = (Char.ofNat n).toUpper ∨
      Char.ofNat n = (Char.ofNat n).toUpper.toLower := by
    decide +kernel
  rcases Nat.lt_or_ge c.toNat 128 with hc | hc
  · have h := hall ⟨c.toNat, hc⟩
    rwa [Char.ofNat_toNat] at h
  · exact .inl (toUpper_of_le hc).symm

/-- Behind ASCII, some character of a capital is shared or no ASCII character. -/
theorem exists_mem_upperChar {c : Char} (hc : 128 ≤ c.toNat) :
    ∃ d ∈ upperChar c, ¬ IsUnshared d := by
  unfold upperChar
  cases hlong : longCapitals.lookup c.toNat with
  | some capital =>
    obtain ⟨-, n, hn, hshared⟩ := longCapitals_beyond _ (mem_of_lookup hlong)
    exact ⟨Char.ofNat n, List.mem_map_of_mem hn, hshared⟩
  | none =>
    cases hrun : smallRuns.find? (fun r => r.holds c.toNat) with
    | none =>
      refine ⟨c, by simp, ?_⟩
      rintro ⟨-, hhigh, -⟩
      omega
    | some r =>
      simp only [List.mem_singleton, exists_eq_left]
      obtain ⟨hmem, hfirst, hlast⟩ := CaseRun.of_find hrun
      rcases smallRuns_beyond r hmem with rfl | ⟨-, hbeyond | rfl | rfl⟩
      · have hascii : smallAscii.last = 122 := rfl
        omega
      · rintro ⟨hlow, hhigh, -⟩
        rcases toNat_ofNat (↑c.toNat + r.shift).toNat with hnat | hnat
        · omega
        · omega
      · have hdotless : c.toNat = 0x131 := Nat.le_antisymm hlast hfirst
        rw [hdotless]
        decide
      · have hlongS : c.toNat = 0x17F := Nat.le_antisymm hlast hfirst
        rw [hlongS]
        decide

theorem flatMap_upperChar_eq_iff {word : List Char} (hword : ∀ w ∈ word, IsUnshared w)
    (cs : List Char) : cs.flatMap upperChar = word ↔ cs.map Char.toUpper = word := by
  induction cs generalizing word with
  | nil => rfl
  | cons c cs ih =>
    rw [List.flatMap_cons, List.map_cons]
    rcases Nat.lt_or_ge c.toNat 128 with hc | hc
    · rw [upperChar_of_lt hc, List.singleton_append]
      cases word with
      | nil => simp
      | cons w word =>
        obtain ⟨-, hrest⟩ := List.forall_mem_cons.mp hword
        rw [List.cons.injEq, List.cons.injEq, ih hrest]
    · -- Neither side has a letter of another script: its capital would show in the word.
      constructor
      · rintro rfl
        obtain ⟨d, hd, hshared⟩ := exists_mem_upperChar hc
        exact absurd (hword d (List.mem_append_left _ hd)) hshared
      · rintro rfl
        have hown := (hword c.toUpper (by simp)).2.1
        rw [toUpper_of_le hc] at hown
        omega

/-- A word of unshared characters is the same in the capitals of every script and in those of
ASCII. -/
theorem upperCase_eq_iff {word : String} (hword : ∀ w ∈ word.toList, IsUnshared w)
    (s : String) : upperCase s = word ↔ s.toUpper = word := by
  have hupper : (upperCase s).toList = s.toList.flatMap upperChar := String.toList_ofList
  have hascii : s.toUpper.toList = s.toList.map Char.toUpper := String.toList_map
  rw [← String.toList_inj, hupper, flatMap_upperChar_eq_iff hword, ← hascii, String.toList_inj]

/-- Entries under words of unshared characters may be looked up in capitals of ASCII. -/
theorem lookup_upperCase {α : Type} {entries : List (String × α)}
    (hentries : ∀ entry ∈ entries, ∀ w ∈ entry.1.toList, IsUnshared w) (s : String) :
    entries.lookup (upperCase s) = entries.lookup s.toUpper := by
  induction entries with
  | nil => rfl
  | cons entry entries ih =>
    obtain ⟨hfirst, hrest⟩ := List.forall_mem_cons.mp hentries
    have hsame : (upperCase s == entry.1) = (s.toUpper == entry.1) := by
      rw [Bool.eq_iff_iff, beq_iff_eq, beq_iff_eq, upperCase_eq_iff hfirst]
    rw [List.lookup_cons, List.lookup_cons, hsame, ih hrest]

end ChatDice.Text
