import Mathlib.Data.List.Basic

/-!
# ChatDice.Proofs.Text.Pattern — patterns with ordered choice

A pattern is tried at the front of a text with backtracking. `Pattern.ways` lists all the ways in
which it matches there, in the order in which they are tried, and `Pattern.match?` is what the first
of them takes. Ways that come later count where a pattern stands in front of another one: the first
way may leave a text on which the other one fails.

Every pattern here is without conditions on what follows. So what is taken is the front of the text
(`Pattern.match?_isPrefix`), and more text behind it takes no way away (`Pattern.match?_append`).
-/

namespace ChatDice

/-- A pattern that is tried at the front of a text. -/
inductive Pattern where
  /-- Nothing, which is always there. -/
  | empty
  /-- One character of a class. -/
  | one (accepts : Char → Bool)
  /-- A run of characters of a class, at least one and rather more than fewer. -/
  | many (accepts : Char → Bool)
  /-- One pattern, and another one behind it. -/
  | seq (front back : Pattern)
  /-- One pattern, or else another one. -/
  | choice (first second : Pattern)

namespace Pattern

/-- A way to match: what is taken, and what is left. -/
structure Way where
  taken : List Char
  left : List Char

/-- A way behind characters that were taken before. -/
def Way.behind (front : List Char) (w : Way) : Way := ⟨front ++ w.taken, w.left⟩

@[simp]
theorem Way.behind_nil : Way.behind [] = id := rfl

/-- The runs of a class at the front of a text, the longest first. -/
def runs (accepts : Char → Bool) : List Char → List Way
  | [] => []
  | c :: cs =>
    if accepts c then (runs accepts cs).map (Way.behind [c]) ++ [⟨[c], cs⟩] else []

/-- All ways in which a pattern matches at the front of a text, in the order they are tried. -/
def ways : Pattern → List Char → List Way
  | .empty, cs => [⟨[], cs⟩]
  | .one _, [] => []
  | .one accepts, c :: cs => if accepts c then [⟨[c], cs⟩] else []
  | .many accepts, cs => runs accepts cs
  | .seq front back, cs =>
    (front.ways cs).flatMap fun w => (back.ways w.left).map (Way.behind w.taken)
  | .choice first second, cs => first.ways cs ++ second.ways cs

/-- What a pattern takes from the front of a text. -/
def match? (p : Pattern) (cs : List Char) : Option (List Char) :=
  (p.ways cs).head?.map Way.taken

/-- A pattern that may be missing, tried as present first. -/
def optional (p : Pattern) : Pattern := .choice p .empty

/-- The characters of a text as they stand, whatever they would mean in a pattern. -/
def literal : List Char → Pattern
  | [] => .empty
  | c :: cs => .seq (.one (· == c)) (literal cs)

/-- Texts as they stand in their order, or else another pattern. -/
def literalsOr (last : Pattern) : List String → Pattern
  | [] => last
  | p :: ps => .choice (literal p.toList) (literalsOr last ps)

variable {p q : Pattern} {accepts : Char → Bool} {cs : List Char}

/-! ## What all ways have in common -/

theorem runs_split {w : Way} (h : w ∈ runs accepts cs) : w.taken ++ w.left = cs := by
  induction cs generalizing w with
  | nil => simp [runs] at h
  | cons c cs ih =>
    rw [runs] at h
    split at h
    · rcases List.mem_append.mp h with h | h
      · obtain ⟨v, hv, rfl⟩ := List.mem_map.mp h
        simp [Way.behind, ih hv]
      · rw [List.mem_singleton.mp h]
        rfl
    · simp at h

/-- A way cuts the text in two. -/
theorem ways_split {w : Way} (h : w ∈ p.ways cs) : w.taken ++ w.left = cs := by
  induction p generalizing cs w with
  | empty =>
    rw [ways, List.mem_singleton] at h
    rw [h, List.nil_append]
  | one accepts =>
    cases cs with
    | nil => simp [ways] at h
    | cons c cs =>
      rw [ways] at h
      split at h
      · rw [List.mem_singleton.mp h]
        rfl
      · simp at h
  | many accepts => exact runs_split h
  | seq front back ihFront ihBack =>
    obtain ⟨u, hu, hw⟩ := List.mem_flatMap.mp h
    obtain ⟨v, hv, rfl⟩ := List.mem_map.mp hw
    rw [← ihFront hu, ← ihBack hv, Way.behind, List.append_assoc]
  | choice first second ihFirst ihSecond =>
    rcases List.mem_append.mp h with h | h
    · exact ihFirst h
    · exact ihSecond h

theorem runs_append {w : Way} (h : w ∈ runs accepts cs) (more : List Char) :
    ⟨w.taken, w.left ++ more⟩ ∈ runs accepts (cs ++ more) := by
  induction cs generalizing w with
  | nil => simp [runs] at h
  | cons c cs ih =>
    rw [List.cons_append]
    rw [runs] at h ⊢
    split at h
    · rename_i hc
      rw [if_pos hc]
      rcases List.mem_append.mp h with h | h
      · obtain ⟨v, hv, rfl⟩ := List.mem_map.mp h
        exact List.mem_append_left _ (List.mem_map.mpr ⟨_, ih hv, rfl⟩)
      · rw [List.mem_singleton.mp h]
        simp
    · simp at h

/-- A way stays one, with the same characters taken, when more text follows. -/
theorem ways_append {w : Way} (h : w ∈ p.ways cs) (more : List Char) :
    ⟨w.taken, w.left ++ more⟩ ∈ p.ways (cs ++ more) := by
  induction p generalizing cs w with
  | empty =>
    rw [ways, List.mem_singleton] at h ⊢
    rw [h]
  | one accepts =>
    cases cs with
    | nil => simp [ways] at h
    | cons c cs =>
      rw [List.cons_append]
      rw [ways] at h ⊢
      split at h
      · rename_i hc
        rw [if_pos hc, List.mem_singleton.mp h]
        simp
      · simp at h
  | many accepts => exact runs_append h more
  | seq front back ihFront ihBack =>
    obtain ⟨u, hu, hw⟩ := List.mem_flatMap.mp h
    obtain ⟨v, hv, rfl⟩ := List.mem_map.mp hw
    -- What the front leaves has grown by `more`, and that is where the back is tried.
    exact List.mem_flatMap.mpr ⟨_, ihFront hu, List.mem_map.mpr ⟨_, ihBack hv, rfl⟩⟩
  | choice first second ihFirst ihSecond =>
    rcases List.mem_append.mp h with h | h
    · exact List.mem_append_left _ (ihFirst h)
    · exact List.mem_append_right _ (ihSecond h)

theorem match?_isPrefix {taken : List Char} (h : p.match? cs = some taken) : taken <+: cs := by
  obtain ⟨w, hw, rfl⟩ := Option.map_eq_some_iff.mp h
  exact ⟨w.left, ways_split (List.mem_of_mem_head? hw)⟩

theorem match?_append (h : (p.match? cs).isSome = true) (more : List Char) :
    (p.match? (cs ++ more)).isSome = true := by
  rw [match?, Option.isSome_map, List.isSome_head?] at h ⊢
  obtain ⟨w, hw⟩ := List.exists_mem_of_ne_nil _ (by simpa using h)
  have := List.ne_nil_of_mem (ways_append hw more)
  simpa using this

/-! ## What each pattern takes -/

@[simp]
theorem match?_empty : empty.match? cs = some [] := rfl

@[simp]
theorem match?_choice : (choice p q).match? cs = (p.match? cs).or (q.match? cs) := by
  simp only [match?, ways, List.head?_append]
  cases (p.ways cs).head? <;> rfl

/-- A way that is the only one of what stands in front is followed by the other pattern. -/
theorem match?_seq_of_ways {w : Way} (h : p.ways cs = [w]) :
    (seq p q).match? cs = (q.match? w.left).map (w.taken ++ ·) := by
  simp only [match?, ways, h, List.flatMap_singleton, List.head?_map, Option.map_map]
  rfl

theorem ways_seq_of_ways_nil (h : p.ways cs = []) : (seq p q).ways cs = [] := by
  rw [ways, h, List.flatMap_nil]

/-- A pattern that may be missing is there, if what follows matches behind it. -/
theorem match?_optional_seq :
    (seq (optional p) q).match? cs = ((seq p q).match? cs).or (q.match? cs) := by
  have hways : (seq (optional p) q).ways cs = (seq p q).ways cs ++ q.ways cs := by
    simp [optional, ways]
  rw [match?, hways, List.head?_append, match?, match?]
  cases ((seq p q).ways cs).head? <;> rfl

theorem ways_one_seq_of_neg {c : Char} (hc : accepts c = false) :
    (seq (one accepts) q).ways (c :: cs) = [] :=
  ways_seq_of_ways_nil (by rw [ways, hc, if_neg Bool.false_ne_true])

theorem match?_one_seq_cons {c : Char} :
    (seq (one accepts) q).match? (c :: cs) =
      if accepts c then (q.match? cs).map (c :: ·) else none := by
  split
  · rename_i hc
    have hways : (one accepts).ways (c :: cs) = [⟨[c], cs⟩] := by rw [ways, if_pos hc]
    exact match?_seq_of_ways hways
  · rename_i hc
    rw [match?, ways_one_seq_of_neg (by simpa using hc)]
    rfl

theorem match?_one_seq_nil : (seq (one accepts) q).match? [] = none := rfl

/-- A text as it stands is taken where the other text begins with it. -/
theorem match?_literal (s : List Char) :
    (literal s).match? cs = if s.isPrefixOf cs then some s else none := by
  induction s generalizing cs with
  | nil => simp [literal]
  | cons d s ih =>
    rw [literal]
    cases cs with
    | nil => rw [match?_one_seq_nil]; simp
    | cons c cs =>
      rw [match?_one_seq_cons, ih, List.isPrefixOf_cons_cons]
      by_cases h : c = d
      · subst h
        cases s.isPrefixOf cs <;> simp
      · simp [h, Ne.symm h]

/-- The first of the texts that the other text begins with is taken. -/
theorem match?_literalsOr (last : Pattern) (texts : List String) :
    (literalsOr last texts).match? cs =
      match texts.find? fun s => s.toList.isPrefixOf cs with
      | some s => some s.toList
      | none => last.match? cs := by
  induction texts with
  | nil => rfl
  | cons s texts ih =>
    rw [literalsOr, match?_choice, match?_literal, ih, List.find?_cons]
    cases s.toList.isPrefixOf cs <;> rfl

theorem runs_of_takeWhile_nil (h : cs.takeWhile accepts = []) : runs accepts cs = [] := by
  cases cs with
  | nil => rfl
  | cons c cs =>
    rw [runs, if_neg]
    intro hc
    simp [List.takeWhile_cons_of_pos hc] at h

/-- The longest run comes first; all others leave more of the class behind. -/
theorem runs_of_takeWhile_ne_nil (h : cs.takeWhile accepts ≠ []) :
    ∃ shorter, runs accepts cs = ⟨cs.takeWhile accepts, cs.dropWhile accepts⟩ :: shorter ∧
      ∀ w ∈ shorter, w.left.takeWhile accepts ≠ [] := by
  induction cs with
  | nil => simp at h
  | cons c cs ih =>
    have hc : accepts c = true := by
      by_contra hc
      exact h (List.takeWhile_cons_of_neg hc)
    rw [runs, if_pos hc, List.takeWhile_cons_of_pos hc, List.dropWhile_cons_of_pos hc]
    -- `c` alone is the last of the runs. It is the only one if the class ends behind it.
    by_cases hcs : cs.takeWhile accepts = []
    · have hdrop : cs.dropWhile accepts = cs := by
        simpa [hcs] using List.takeWhile_append_dropWhile (p := accepts) (l := cs)
      exact ⟨[], by simp [runs_of_takeWhile_nil hcs, hcs, hdrop], by simp⟩
    · obtain ⟨shorter, hruns, hshorter⟩ := ih hcs
      refine ⟨shorter.map (Way.behind [c]) ++ [⟨[c], cs⟩], by simp [hruns, Way.behind], ?_⟩
      intro w hw
      rcases List.mem_append.mp hw with hw | hw
      · obtain ⟨v, hv, rfl⟩ := List.mem_map.mp hw
        exact hshorter v hv
      · rw [List.mem_singleton.mp hw]
        exact hcs

/-- Of a run as much as there is is taken. -/
theorem match?_many :
    (many accepts).match? cs =
      if cs.takeWhile accepts = [] then none else some (cs.takeWhile accepts) := by
  rw [match?, ways]
  split
  · rename_i h
    rw [runs_of_takeWhile_nil h]
    rfl
  · rename_i h
    obtain ⟨shorter, hruns, -⟩ := runs_of_takeWhile_ne_nil h
    rw [hruns]
    rfl

/-- A run is taken whole in front of a pattern that no character of the run's class begins: none of
the shorter ones is a way. -/
theorem match?_many_seq (hq : ∀ text, text.takeWhile accepts ≠ [] → q.ways text = []) :
    (seq (many accepts) q).match? cs =
      if cs.takeWhile accepts = [] then none
      else (q.match? (cs.dropWhile accepts)).map (cs.takeWhile accepts ++ ·) := by
  split
  · rename_i h
    have hways : (many accepts).ways cs = [] := runs_of_takeWhile_nil h
    rw [match?, ways_seq_of_ways_nil hways]
    rfl
  · rename_i h
    obtain ⟨shorter, hruns, hshorter⟩ := runs_of_takeWhile_ne_nil h
    have hrest : shorter.flatMap (fun w => (q.ways w.left).map (Way.behind w.taken)) = [] := by
      rw [List.flatMap_eq_nil_iff]
      intro w hw
      rw [hq _ (hshorter w hw), List.map_nil]
    rw [match?, ways, ways, hruns, List.flatMap_cons, hrest, List.append_nil, match?,
      List.head?_map, Option.map_map, Option.map_map]
    rfl

end Pattern

end ChatDice
