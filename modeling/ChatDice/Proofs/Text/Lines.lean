import ChatDice.Proofs.Dice.Numeral
import ChatDice.Text.Lines

/-!
# ChatDice.Proofs.Text.Lines — texts of one line, and texts as lines

More characters break a line than end one: a terminal or an editor may start a new line behind a
form feed or a line separator, too. `Text.OneLine` says that there is none of them in a text. Texts
of one line are put together of such texts, and when each is ended by a line feed, the lines of the
whole are the texts (`Text.lines_join`).

In the other direction, the lines of any text are the pieces between its line feeds once all ends of
lines have been made line feeds, but for an empty piece behind the last line
(`Text.exists_pieces_eq`).
-/

namespace ChatDice.Text

/-! ## Texts by their characters -/

/-- Every character of a text is `P`. -/
def Every (P : Char → Prop) (s : String) : Prop := ∀ c ∈ s.toList, P c

section
variable {P : Char → Prop}

theorem every_append {s t : String} : Every P (s ++ t) ↔ Every P s ∧ Every P t := by
  simp [Every, or_imp, forall_and]

theorem every_intercalate {sep : String} (hsep : Every P sep) {texts : List String}
    (h : ∀ t ∈ texts, Every P t) : Every P (sep.intercalate texts) := by
  induction texts with
  | nil => simp [Every]
  | cons t texts ih =>
    have ht : Every P t := h t (by simp)
    have hrest : Every P (sep.intercalate texts) := ih fun u hu => h u (List.mem_cons_of_mem t hu)
    by_cases hnil : texts = []
    · subst hnil
      simpa using ht
    · rw [String.intercalate_cons_of_ne_nil hnil, every_append, every_append]
      exact ⟨⟨ht, hsep⟩, hrest⟩

theorem every_nat (hdigit : ∀ c : Char, c.isDigit = true → P c) (n : Nat) :
    Every P (toString n) :=
  fun c hc => hdigit c ((isNumeral_toString n).2 c hc)

theorem every_int (hdigit : ∀ c : Char, c.isDigit = true → P c) (hminus : Every P "-") (n : Int) :
    Every P (toString n) := by
  cases n with
  | ofNat n => exact every_nat hdigit n
  | negSucc n =>
    have htext : toString (Int.negSucc n) = "-" ++ toString (n + 1) := rfl
    rw [htext, every_append]
    exact ⟨hminus, every_nat hdigit (n + 1)⟩

end

/-! ## Texts of one line -/

/-- The characters behind which a new line may start. -/
def isLineBreak (c : Char) : Bool :=
  let n := c.toNat
  (0x0A ≤ n && n ≤ 0x0D) || (0x1C ≤ n && n ≤ 0x1E) || n == 0x85 || n == 0x2028 || n == 0x2029

/-- No character of a text breaks its line. -/
def OneLine (s : String) : Prop := ∀ c ∈ s.toList, isLineBreak c = false

instance (s : String) : Decidable (OneLine s) :=
  decidable_of_iff (s.toList.all (fun c => !isLineBreak c) = true) (by simp [OneLine])

/-- Of a text that is given by its characters. -/
theorem oneLine_ofList {cs : List Char} (h : cs.all (fun c => !isLineBreak c) = true) :
    OneLine (String.ofList cs) := by
  simpa [OneLine] using h

@[simp] theorem oneLine_append {s t : String} : OneLine (s ++ t) ↔ OneLine s ∧ OneLine t :=
  every_append

theorem oneLine_intercalate {sep : String} (hsep : OneLine sep) {texts : List String}
    (h : ∀ t ∈ texts, OneLine t) : OneLine (sep.intercalate texts) :=
  every_intercalate hsep h

theorem isLineBreak_of_isDigit {c : Char} (hc : c.isDigit = true) : isLineBreak c = false := by
  have hdigit := toNat_of_isDigit hc
  simp only [isLineBreak, Bool.or_eq_false_iff, Bool.and_eq_false_iff, decide_eq_false_iff_not,
    beq_eq_false_iff_ne]
  omega

theorem oneLine_nat (n : Nat) : OneLine (toString n) :=
  every_nat (fun _ => isLineBreak_of_isDigit) n

theorem oneLine_int (n : Int) : OneLine (toString n) :=
  every_int (fun _ => isLineBreak_of_isDigit) (show OneLine "-" by decide) n

/-! ## Lines of a text -/

theorem linesAfter_of_ne {c : Char} (hfeed : c ≠ '\n') (hreturn : c ≠ '\r')
    (begun rest : List Char) : linesAfter begun (c :: rest) = linesAfter (c :: begun) rest := by
  rw [linesAfter, if_neg (by simp [hfeed, hreturn])]
  intro more hc
  exact absurd hc hreturn

theorem linesAfter_feed (begun rest : List Char) :
    linesAfter begun ('\n' :: rest) = begun.reverse :: linesAfter [] rest := by
  rw [linesAfter, if_pos (.inl rfl)]
  intro more hc
  exact absurd hc (by decide)

/-- A carriage return ends a line by itself where no line feed follows it. -/
theorem linesAfter_return {d : Char} (hd : d ≠ '\n') (begun rest : List Char) :
    linesAfter begun ('\r' :: d :: rest) = begun.reverse :: linesAfter [] (d :: rest) := by
  rw [linesAfter.eq_4, if_pos (.inr rfl)]
  intro more _ hpair
  exact hd (List.cons.inj hpair).1

/-- A line that has no end in it goes on up to the line feed. -/
theorem linesAfter_oneLine {cs : List Char} (h : ∀ c ∈ cs, isLineBreak c = false)
    (begun rest : List Char) :
    linesAfter begun (cs ++ '\n' :: rest) = (begun.reverse ++ cs) :: linesAfter [] rest := by
  induction cs generalizing begun with
  | nil => rw [List.nil_append, linesAfter_feed, List.append_nil]
  | cons c cs ih =>
    have hc : isLineBreak c = false := h c (by simp)
    have hfeed : c ≠ '\n' := by
      rintro rfl
      exact absurd hc (by decide)
    have hreturn : c ≠ '\r' := by
      rintro rfl
      exact absurd hc (by decide)
    rw [List.cons_append, linesAfter_of_ne hfeed hreturn,
      ih fun d hd => h d (List.mem_cons_of_mem c hd)]
    simp

/-- Texts of one line, each ended by a line feed, are the lines of what they make together. -/
theorem lines_join {texts : List String} (h : ∀ t ∈ texts, OneLine t) :
    lines (String.join (texts.map (· ++ "\n"))) = texts := by
  induction texts with
  | nil => rfl
  | cons t texts ih =>
    have ht : OneLine t := h t (by simp)
    have hrest := ih fun u hu => h u (List.mem_cons_of_mem t hu)
    have hfeed : ("\n").toList = ['\n'] := rfl
    rw [lines] at hrest ⊢
    rw [List.map_cons, String.join_cons, String.toList_append, String.toList_append, hfeed,
      List.append_assoc, List.singleton_append, linesAfter_oneLine ht, List.map_cons, hrest]
    simp

/-- A line that has been ended stays as it is, whatever is written behind its end. -/
theorem linesAfter_append (begun cs rest : List Char) :
    linesAfter begun (cs ++ '\n' :: rest) =
      linesAfter begun (cs ++ ['\n']) ++ linesAfter [] rest := by
  induction begun, cs using linesAfter.induct with
  | case1 => rw [List.nil_append, List.nil_append, linesAfter_feed, linesAfter_feed]; rfl
  | case2 begun hbegun =>
    rw [List.nil_append, List.nil_append, linesAfter_feed, linesAfter_feed]
    rfl
  | case3 begun cs ih =>
    simp only [List.cons_append, linesAfter]
    rw [ih]
  | case4 begun c cs hpair hend ih =>
    rcases hend with rfl | rfl
    · rw [List.cons_append, List.cons_append, linesAfter_feed, linesAfter_feed, ih,
        List.cons_append]
    · -- A carriage return at the end makes one end of a line with the line feed behind it.
      cases cs with
      | nil => simp [linesAfter]
      | cons d cs =>
        have hd : d ≠ '\n' := fun hd => hpair cs rfl (by rw [hd])
        simp only [List.cons_append] at ih ⊢
        rw [linesAfter_return hd, linesAfter_return hd, ih, List.cons_append]
  | case5 begun c cs hpair hend ih =>
    obtain ⟨hfeed, hreturn⟩ := not_or.mp hend
    rw [List.cons_append, List.cons_append, linesAfter_of_ne hfeed hreturn,
      linesAfter_of_ne hfeed hreturn, ih]

/-- Behind a text that ends a line, another text brings its own lines. -/
theorem lines_append (s t : String) : lines (s ++ "\n" ++ t) = lines (s ++ "\n") ++ lines t := by
  have hfeed : ("\n").toList = ['\n'] := rfl
  simp only [lines, String.toList_append, hfeed, List.append_assoc, List.singleton_append]
  rw [linesAfter_append, List.map_append]

/-- A text that has ended its last line, if it has one. -/
def Ended (s : String) : Prop := s = "" ∨ ∃ t, s = t ++ "\n"

theorem ended_feed (s : String) : Ended (s ++ "\n") :=
  .inr ⟨s, rfl⟩

theorem Ended.append {s t : String} (hs : Ended s) (ht : Ended t) : Ended (s ++ t) := by
  rcases ht with rfl | ⟨u, rfl⟩
  · rwa [String.append_empty]
  · rw [← String.append_assoc]
    exact ended_feed (s ++ u)

theorem ended_join {texts : List String} (h : ∀ t ∈ texts, Ended t) :
    Ended (String.join texts) := by
  induction texts with
  | nil => exact .inl rfl
  | cons t texts ih =>
    rw [String.join_cons]
    exact (h t (by simp)).append (ih fun u hu => h u (List.mem_cons_of_mem t hu))

theorem Ended.lines_append {s : String} (h : Ended s) (t : String) :
    lines (s ++ t) = lines s ++ lines t := by
  rcases h with rfl | ⟨u, rfl⟩
  · rw [String.empty_append]
    rfl
  · exact Text.lines_append u t

/-! ## Pieces between line feeds -/

/-- The pieces of a text between its line feeds, when every end of a line has become one. -/
def pieces (s : String) : List String :=
  ((unifyLineEnds s.toList).splitOn '\n').map String.ofList

theorem splitOn_feed {front : List Char} (h : '\n' ∉ front) (rest : List Char) :
    (front ++ '\n' :: rest).splitOn '\n' = front :: rest.splitOn '\n' := by
  apply List.splitOnP_append_cons_of_forall_mem
  · intro c hc
    rw [beq_eq_false_iff_ne]
    rintro rfl
    exact h hc
  · rfl

/-- Behind the end of the last line there is one more piece, and it is empty. -/
theorem exists_splitOn_eq {begun : List Char} (h : '\n' ∉ begun) (cs : List Char) :
    ∃ rest, (rest = [] ∨ rest = [[]]) ∧
      (begun.reverse ++ unifyLineEnds cs).splitOn '\n' = linesAfter begun cs ++ rest := by
  -- The line that has been begun is the front of the first piece.
  induction begun, cs using linesAfter.induct with
  | case1 => exact ⟨[[]], .inr rfl, rfl⟩
  | case2 begun hbegun =>
    refine ⟨[], .inl rfl, ?_⟩
    rw [linesAfter.eq_2 begun hbegun, unifyLineEnds, List.append_nil, List.append_nil]
    exact List.splitOn_eq_singleton (by simpa using h)
  | case3 begun cs ih =>
    obtain ⟨rest, hkind, hrest⟩ := ih (by simp)
    refine ⟨rest, hkind, ?_⟩
    rw [unifyLineEnds, splitOn_feed (by simpa using h), linesAfter, List.cons_append, ← hrest]
    rfl
  | case4 begun c cs hpair hend ih =>
    obtain ⟨rest, hkind, hrest⟩ := ih (by simp)
    refine ⟨rest, hkind, ?_⟩
    have hunified : (if c = '\r' then '\n' else c) = '\n' := by
      rcases hend with rfl | rfl <;> decide
    rw [unifyLineEnds.eq_3 c cs hpair, hunified, splitOn_feed (by simpa using h),
      linesAfter.eq_4 begun c cs hpair, if_pos hend, List.cons_append, ← hrest]
    rfl
  | case5 begun c cs hpair hend ih =>
    obtain ⟨hfeed, hreturn⟩ := not_or.mp hend
    obtain ⟨rest, hkind, hrest⟩ := ih (by simp [h, Ne.symm hfeed])
    refine ⟨rest, hkind, ?_⟩
    rw [unifyLineEnds.eq_3 c cs hpair, if_neg hreturn, linesAfter.eq_4 begun c cs hpair,
      if_neg hend, ← hrest]
    simp

/-- The pieces of a text are its lines, and perhaps an empty one behind them. -/
theorem exists_pieces_eq (s : String) :
    ∃ rest, (rest = [] ∨ rest = [""]) ∧ pieces s = lines s ++ rest := by
  have hbegun : '\n' ∉ ([] : List Char) := List.not_mem_nil
  obtain ⟨rest, hkind, hrest⟩ := exists_splitOn_eq hbegun s.toList
  refine ⟨rest.map String.ofList, ?_, ?_⟩
  · rcases hkind with rfl | rfl
    · exact .inl rfl
    · exact .inr rfl
  · rw [List.reverse_nil, List.nil_append] at hrest
    rw [pieces, hrest, List.map_append, lines]

end ChatDice.Text
