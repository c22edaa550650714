import ChatDice.Proofs.Text.Lines
import ChatDice.Text.Loose

/-!
# ChatDice.Proofs.Text.Printable — texts in print

A text is in print if all of its characters may be shown as they are. There is no control character
in it and nothing that breaks a line, so it takes its place on a line and does nothing else there.
Numbers are in print, and so is every text between quotation marks, whatever it holds: what may not
be shown is written by its number (`Text.inPrint_quote`).
-/

namespace ChatDice

namespace Text

/-! ## Texts in print -/

/-- Every character of a text may be shown as it is. -/
def InPrint (s : String) : Prop := ∀ c ∈ s.toList, isPrintable c = true

instance (s : String) : Decidable (InPrint s) :=
  decidable_of_iff (s.toList.all isPrintable = true) (by simp [InPrint])

/-- The characters that do something to a terminal instead of being shown. -/
def isControl (c : Char) : Bool :=
  c.toNat < 0x20 || (0x7F ≤ c.toNat && c.toNat < 0xA0)

/-- Of a text that is given by its characters. -/
theorem inPrint_ofList {cs : List Char} (h : cs.all isPrintable = true) :
    InPrint (String.ofList cs) := by
  simpa [InPrint] using h

/-- A character that is shown neither breaks a line nor controls a terminal. -/
theorem of_isPrintable {c : Char} (h : isPrintable c = true) :
    isLineBreak c = false ∧ isControl c = false := by
  have hrange := toNat_of_isPrintable h
  have hhidden : isPrintable '\u2028' = false ∧ isPrintable '\u2029' = false := by
    decide +kernel
  have hseparators : c.toNat ≠ 0x2028 ∧ c.toNat ≠ 0x2029 := by
    constructor
    · intro hc
      rw [show c = '\u2028' from Char.toNat_inj.mp hc, hhidden.1] at h
      cases h
    · intro hc
      rw [show c = '\u2029' from Char.toNat_inj.mp hc, hhidden.2] at h
      cases h
  simp only [isLineBreak, isControl, Bool.or_eq_false_iff, Bool.and_eq_false_iff,
    decide_eq_false_iff_not, beq_eq_false_iff_ne]
  omega

theorem InPrint.oneLine {s : String} (h : InPrint s) : OneLine s :=
  fun c hc => (of_isPrintable (h c hc)).1

@[simp] theorem inPrint_append {s t : String} : InPrint (s ++ t) ↔ InPrint s ∧ InPrint t :=
  every_append

/-- A text in a message is shown as it is. -/
@[simp] theorem inPrint_toString {s : String} : InPrint (toString s) ↔ InPrint s :=
  Iff.rfl

theorem inPrint_intercalate {sep : String} (hsep : InPrint sep) {texts : List String}
    (h : ∀ t ∈ texts, InPrint t) : InPrint (sep.intercalate texts) :=
  every_intercalate hsep h

theorem isPrintable_of_isDigit {c : Char} (hc : c.isDigit = true) : isPrintable c = true := by
  have hdigit := toNat_of_isDigit hc
  simp only [isPrintable]
  rw [if_pos (by omega)]
  simp only [Bool.and_eq_true, decide_eq_true_eq]
  omega

theorem inPrint_nat (n : Nat) : InPrint (toString n) :=
  every_nat (fun _ => isPrintable_of_isDigit) n

theorem inPrint_int (n : Int) : InPrint (toString n) :=
  every_int (fun _ => isPrintable_of_isDigit) (show InPrint "-" by decide) n

theorem inPrint_tooManyDigits (counted : Option Nat) : InPrint (tooManyDigits counted) := by
  have hvalue : InPrint ((counted.map fun digits => s!": value has {digits} digits").getD "") := by
    cases counted with
    | none => exact inPrint_ofList rfl
    | some digits =>
      simp only [Option.map_some, Option.getD_some, inPrint_append, inPrint_nat, and_true]
      and_intros <;> exact inPrint_ofList rfl
  unfold tooManyDigits
  simp only [inPrint_append, inPrint_toString, inPrint_nat, hvalue, and_true]
  and_intros <;> exact inPrint_ofList rfl

/-- Words about an integer are in print if they are around any digits. -/
theorem inPrint_sayInteger {words : String → String}
    (h : ∀ digits, InPrint digits → InPrint (words digits)) {n : Int} :
    InPrint (sayInteger n words) := by
  unfold sayInteger writeInteger?
  by_cases hshort : (toString n.natAbs).length ≤ maxIntegerDigits
  · rw [if_pos hshort]
    exact h _ (inPrint_int n)
  · rw [if_neg hshort]
    exact inPrint_tooManyDigits none

/-! ## Texts between quotation marks -/

/-- The digits of a number are those below its base. -/
theorem forall_mem_toDigits {P : Char → Prop} {base : Nat} (hbase : 1 < base)
    (h : ∀ d < base, P (Nat.digitChar d)) (n : Nat) : ∀ c ∈ Nat.toDigits base n, P c := by
  induction n using Nat.strongRecOn with
  | ind n ih =>
    rw [Nat.toDigits_eq_if hbase]
    split
    · rename_i hn
      simpa using h n hn
    · rename_i hn
      have hless : n / base < n := Nat.div_lt_self (by omega) hbase
      intro c hc
      rcases List.mem_append.mp hc with hc | hc
      · exact ih _ hless c hc
      · rw [List.mem_singleton.mp hc]
        exact h _ (Nat.mod_lt n (by omega))

theorem isPrintable_of_mem_hex {width n : Nat} {c : Char} (hc : c ∈ hex width n) :
    isPrintable c = true := by
  rw [hex, List.leftpad] at hc
  rcases List.mem_append.mp hc with hc | hc
  · rw [List.eq_of_mem_replicate hc]
    decide
  · exact forall_mem_toDigits (P := fun c => isPrintable c = true) (by decide) (by decide) n c hc

/-- The sign that announces a number, and the number. -/
theorem isPrintable_of_mem_numbered {sign d : Char} {width n : Nat}
    (hsign : isPrintable sign = true) (hd : d ∈ ['\\', sign] ++ hex width n) :
    isPrintable d = true := by
  simp only [List.cons_append, List.nil_append, List.mem_cons] at hd
  rcases hd with rfl | rfl | hd
  · decide
  · exact hsign
  · exact isPrintable_of_mem_hex hd

theorem isPrintable_of_mem_escapeByNumber {c d : Char} (hd : d ∈ escapeByNumber c) :
    isPrintable d = true := by
  unfold escapeByNumber at hd
  dsimp only at hd
  split at hd
  · exact isPrintable_of_mem_numbered (by decide) hd
  split at hd
  · exact isPrintable_of_mem_numbered (by decide) hd
  · exact isPrintable_of_mem_numbered (by decide) hd

/-- Whatever a character is, it is written in characters that are shown. -/
theorem isPrintable_of_mem_escape {mark c d : Char} (hmark : isPrintable mark = true)
    (hd : d ∈ escape mark c) : isPrintable d = true := by
  have hpair : ∀ e, isPrintable e = true → d ∈ ['\\', e] → isPrintable d = true := by
    intro e he hd
    simp only [List.mem_cons, List.not_mem_nil, or_false] at hd
    rcases hd with rfl | rfl
    · decide
    · exact he
  unfold escape at hd
  split at hd
  · rename_i hkept
    refine hpair c ?_ hd
    rcases hkept with rfl | rfl
    · decide
    · exact hmark
  split at hd
  · exact hpair 't' (by decide) hd
  split at hd
  · exact hpair 'n' (by decide) hd
  split at hd
  · exact hpair 'r' (by decide) hd
  split at hd
  · rename_i hshown
    rwa [List.mem_singleton.mp hd]
  · exact isPrintable_of_mem_escapeByNumber hd

theorem isPrintable_quotationMark (cs : List Char) : isPrintable (quotationMark cs) = true := by
  unfold quotationMark
  split <;> decide

/-- Of a text between marks. -/
theorem inPrint_ofList_marked {mark : Char} (hmark : isPrintable mark = true) {cs : List Char}
    (h : ∀ c ∈ cs, isPrintable c = true) : InPrint (String.ofList (mark :: cs ++ [mark])) := by
  intro c hc
  rw [String.toList_ofList, List.mem_append, List.mem_cons, List.mem_singleton] at hc
  rcases hc with (rfl | hc) | rfl
  · exact hmark
  · exact h c hc
  · exact hmark

/-- A text between quotation marks is in print, whatever it holds. -/
theorem inPrint_quote (s : String) : InPrint (quote s) := by
  have hmark := isPrintable_quotationMark s.toList
  apply inPrint_ofList_marked hmark
  intro c hc
  obtain ⟨d, -, hd⟩ := List.mem_flatMap.mp hc
  exact isPrintable_of_mem_escape hmark hd

end Text

/-- Halves of characters are written by their numbers, too. -/
theorem LooseText.inPrint_quote (s : LooseText) : Text.InPrint s.quote := by
  cases s with
  | text s => exact Text.inPrint_quote s
  | broken pieces =>
    have hmark := Text.isPrintable_quotationMark (pieces.filterMap TextPiece.char?)
    apply Text.inPrint_ofList_marked hmark
    intro c hc
    obtain ⟨piece, -, hpiece⟩ := List.mem_flatMap.mp hc
    cases piece with
    | char d => exact Text.isPrintable_of_mem_escape hmark hpiece
    | half unit => exact Text.isPrintable_of_mem_numbered (by decide) hpiece

end ChatDice
