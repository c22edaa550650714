import ChatDice.Text.LowerCase

/-!
# ChatDice.Proofs.Text.LowerCase — words in small letters

A word of ASCII characters can be compared in small letters without a table: only ASCII capitals
turn into ASCII small letters, with one exception. The Kelvin sign is a capital whose small letter
is an ordinary k, so a word with a k in it can be spelled in one more way. For words without a k,
small letters of every script and those of ASCII come to the same (`Text.lowerCase_eq_iff`).

No ASCII capital is left in a text of small letters (`Text.toLower_of_mem_lowerCase`), so a part of
such a text whose small letters are a word is the word itself (`Text.eq_of_lowerCase_eq`).
-/

namespace ChatDice.Text

/-- An ASCII character that no capital of another script has for its small letter. -/
def IsPlain (w : Char) : Prop := 1 ≤ w.toNat ∧ w.toNat ≤ 127 ∧ w ≠ 'k'

instance (w : Char) : Decidable (IsPlain w) :=
  inferInstanceAs (Decidable (1 ≤ w.toNat ∧ w.toNat ≤ 127 ∧ w ≠ 'k'))

/-! ## Runs of letters -/

namespace CaseRun

/-- The run that a letter is found in holds it. -/
theorem of_find {runs : List CaseRun} {n : Nat} {r : CaseRun}
    (h : runs.find? (fun r => r.holds n) = some r) : r ∈ runs ∧ r.first ≤ n ∧ n ≤ r.last := by
  have hholds := List.find?_some h
  simp only [holds, Bool.and_eq_true, decide_eq_true_eq] at hholds
  exact ⟨List.mem_of_find?_eq_some h, hholds.1⟩

/-- Where one run is of ASCII and the others start behind it, ASCII letters are found in that run
only. -/
theorem find_of_lt {runs : List CaseRun} {ascii : CaseRun} (hascii : ascii ∈ runs)
    (hothers : ∀ r ∈ runs, r = ascii ∨ 128 ≤ r.first) {n : Nat} (hn : n < 128) :
    runs.find? (fun r => r.holds n) = if ascii.holds n then some ascii else none := by
  cases hrun : runs.find? (fun r => r.holds n) with
  | none =>
    have hnot := List.find?_eq_none.mp hrun ascii hascii
    rw [if_neg hnot]
  | some r =>
    obtain ⟨hmem, hfirst, -⟩ := of_find hrun
    rcases hothers r hmem with rfl | hbeyond
    · rw [if_pos (List.find?_some hrun)]
    · omega

end CaseRun

/-- The capital letters of ASCII. -/
def capitalAscii : CaseRun := ⟨0x41, 0x5A, 1, 32⟩

/-- Behind ASCII, the small letters of a run are not ASCII either, but for the Kelvin sign's. -/
theorem capitalRuns_beyond : ∀ r ∈ capitalRuns,
    r = capitalAscii ∨
      128 ≤ r.first ∧ (128 ≤ (r.first : Int) + r.shift ∨ r = ⟨0x212A, 0x212A, 1, -8383⟩) := by
  decide +kernel

/-! ## Small letters -/

theorem lowerChar_of_lt {c : Char} (hc : c.toNat < 128) : lowerChar c = c.toLower := by
  have hall : ∀ n : Fin 128, (Char.ofNat n).toLower =
      if capitalAscii.holds n then Char.ofNat ((n : Nat) + capitalAscii.shift).toNat
      else Char.ofNat n := by
    decide +kernel
  have hlower := hall ⟨c.toNat, hc⟩
  rw [Char.ofNat_toNat] at hlower
  have hothers : ∀ r ∈ capitalRuns, r = capitalAscii ∨ 128 ≤ r.first :=
    fun r hr => (capitalRuns_beyond r hr).imp_right And.left
  rw [lowerChar, CaseRun.find_of_lt (by decide) hothers hc, hlower]
  cases capitalAscii.holds c.toNat <;> rfl

theorem toLower_of_le {c : Char} (hc : 128 ≤ c.toNat) : c.toLower = c := by
  have hval : c.val.toNat = c.toNat := rfl
  have hZ : ('Z' : Char).val.toNat = 90 := rfl
  unfold Char.toLower
  rw [dif_neg]
  rintro ⟨-, hle⟩
  have hle' := UInt32.le_iff_toNat_le.mp hle
  omega

/-- A character that is made from a number is that number, or there is no such character. -/
theorem toNat_ofNat (n : Nat) : (Char.ofNat n).toNat = n ∨ (Char.ofNat n).toNat = 0 := by
  by_cases hvalid : n.isValidChar
  · left
    rw [Char.ofNat, dif_pos hvalid]
    rfl
  · right
    rw [Char.ofNat, dif_neg hvalid]
    rfl

/-- Behind ASCII, the small letter of a character is not ASCII either, unless it is a k. -/
theorem lowerChar_of_le {c : Char} (hc : 128 ≤ c.toNat) :
    128 ≤ (lowerChar c).toNat ∨ (lowerChar c).toNat = 0 ∨ lowerChar c = 'k' := by
  unfold lowerChar
  cases hrun : capitalRuns.find? (fun r => r.holds c.toNat) with
  | none => exact .inl hc
  | some r =>
    simp only
    obtain ⟨hmem, hfirst, hlast⟩ := CaseRun.of_find hrun
    rcases capitalRuns_beyond r hmem with rfl | ⟨-, hbeyond | rfl⟩
    · have hascii : capitalAscii.last = 90 := rfl
      omega
    · rcases toNat_ofNat (↑c.toNat + r.shift).toNat with hnat | hnat
      · left
        omega
      · exact .inr (.inl hnat)
    · -- The Kelvin sign has a k for its small letter.
      have hkelvin : c.toNat = 0x212A := Nat.le_antisymm hlast hfirst
      rw [hkelvin]
      exact .inr (.inr (by decide))

theorem lowerChar_ne_of_le {c w : Char} (hc : 128 ≤ c.toNat) (hw : IsPlain w) :
    lowerChar c ≠ w := by
  obtain ⟨hlow, hhigh, hk⟩ := hw
  rintro rfl
  rcases lowerChar_of_le hc with h | h | h
  · omega
  · omega
  · exact hk h

theorem lowerChar_eq_iff {w : Char} (hw : IsPlain w) (c : Char) :
    lowerChar c = w ↔ c.toLower = w := by
  rcases Nat.lt_or_ge c.toNat 128 with hc | hc
  · rw [lowerChar_of_lt hc]
  · constructor
    · exact fun h => absurd h (lowerChar_ne_of_le hc hw)
    · intro h
      rw [toLower_of_le hc] at h
      have hhigh := hw.2.1
      rw [← h] at hhigh
      omega

theorem lowerAfter_eq_iff {word : List Char} (hword : ∀ w ∈ word, IsPlain w)
    (inWord : Bool) (cs : List Char) :
    lowerAfter inWord cs = word ↔ cs.map Char.toLower = word := by
  induction cs generalizing inWord word with
  | nil => rfl
  | cons c cs ih =>
    rw [lowerAfter, List.map_cons]
    -- The two capitals that need more have no small letter among those of the word.
    by_cases hdotted : c = '\u0130'
    · subst hdotted
      constructor
      · rintro rfl
        exact absurd (hword '\u0307' (by simp)) (by decide)
      · rintro rfl
        exact absurd (hword ('\u0130').toLower (by simp)) (by decide)
    rw [if_neg hdotted]
    by_cases hfinal : c = '\u03A3' ∧ inWord = true ∧ ¬wordGoesOn cs = true
    · rw [if_pos hfinal, hfinal.1]
      constructor
      · rintro rfl
        exact absurd (hword '\u03C2' (by simp)) (by decide)
      · rintro rfl
        exact absurd (hword ('\u03A3').toLower (by simp)) (by decide)
    rw [if_neg hfinal, List.singleton_append]
    cases word with
    | nil => simp
    | cons w word =>
      obtain ⟨hw, hrest⟩ := List.forall_mem_cons.mp hword
      rw [List.cons.injEq, List.cons.injEq, lowerChar_eq_iff hw, ih hrest]

/-- A word without a k is the same in the small letters of every script and in those of ASCII. -/
theorem lowerCase_eq_iff {word : String} (hword : ∀ w ∈ word.toList, IsPlain w)
    (s : String) : lowerCase s = word ↔ s.toLower = word := by
  have hlower : (lowerCase s).toList = lowerAfter false s.toList := String.toList_ofList
  have hascii : s.toLower.toList = s.toList.map Char.toLower := String.toList_map
  rw [← String.toList_inj, hlower, lowerAfter_eq_iff hword, ← hascii, String.toList_inj]

/-! ## Texts of small letters -/

/-- The small letter of a character is no ASCII capital. -/
theorem toLower_lowerChar (c : Char) : (lowerChar c).toLower = lowerChar c := by
  rcases Nat.lt_or_ge c.toNat 128 with hc | hc
  · have hall : ∀ n : Fin 128, (Char.ofNat n).toLower.toLower = (Char.ofNat n).toLower := by
      decide +kernel
    have h := hall ⟨c.toNat, hc⟩
    rw [Char.ofNat_toNat] at h
    rw [lowerChar_of_lt hc, h]
  · rcases lowerChar_of_le hc with h | h | h
    · exact toLower_of_le h
    · rw [show lowerChar c = '\x00' from Char.toNat_inj.mp h]
      decide
    · rw [h]
      decide

theorem toLower_of_mem_lowerAfter {inWord : Bool} {cs : List Char} {c : Char}
    (h : c ∈ lowerAfter inWord cs) : c.toLower = c := by
  induction cs generalizing inWord with
  | nil => cases h
  | cons first cs ih =>
    rw [lowerAfter, List.mem_append] at h
    rcases h with h | h
    · split at h
      · simp only [List.mem_cons, List.not_mem_nil, or_false] at h
        rcases h with rfl | rfl
        · decide
        · decide
      · split at h
        · obtain rfl := List.mem_singleton.mp h
          decide
        · obtain rfl := List.mem_singleton.mp h
          exact toLower_lowerChar first
    · exact ih h

/-- No ASCII capital is left among small letters. -/
theorem toLower_of_mem_lowerCase {s : String} {c : Char} (h : c ∈ (lowerCase s).toList) :
    c.toLower = c :=
  toLower_of_mem_lowerAfter (String.toList_ofList ▸ h)

/-- A text without ASCII capitals whose small letters are a word is the word. -/
theorem eq_of_lowerCase_eq {word s : String} (hword : ∀ w ∈ word.toList, IsPlain w)
    (hs : ∀ c ∈ s.toList, c.toLower = c) (h : lowerCase s = word) : s = word := by
  rw [lowerCase_eq_iff hword] at h
  have hsame : s.toList.map Char.toLower = s.toList :=
    (List.map_congr_left hs).trans (List.map_id s.toList)
  have hascii : s.toLower.toList = s.toList.map Char.toLower := String.toList_map
  rw [← h, ← String.toList_inj, hascii, hsame]

end ChatDice.Text
