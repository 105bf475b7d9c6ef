import SearchStore.Text.Blank
namespace SearchStore.Text

structure IsWord (word : List Char) : Prop where
  filled : word ≠ []
  solid : ∀ c ∈ word, isBlank c = false

theorem isWord_iff {word : List Char} : (!word.isEmpty && word.all (!isBlank ·)) = true ↔ IsWord word := by
  simp only [Bool.and_eq_true, Bool.not_eq_true', List.isEmpty_eq_false_iff, List.all_eq_true]
  exact ⟨fun h => ⟨h.1, h.2⟩, fun h => ⟨h.1, h.2⟩⟩

-- The words stand in the line in their order, with one space or more between neighbours.
inductive Spaced : List (List Char) → List Char → Prop
  | last (word : List Char) : Spaced [word] word
  | next {words : List (List Char)} {line : List Char} (word : List Char) (more : Nat) (rest : Spaced words line) :
      Spaced (word :: words) (word ++ List.replicate (more + 1) ' ' ++ line)

section Words
variable {word : List Char}

theorem wordsFrom_solid (solid : ∀ c ∈ word, isBlank c = false) (current rest : List Char) :
    wordsFrom current (word ++ rest) = wordsFrom (word.reverse ++ current) rest := by
  induction word generalizing current with
  | nil => rfl
  | cons c cs ih =>
    obtain ⟨first, others⟩ := List.forall_mem_cons.mp solid
    rw [List.cons_append, wordsFrom, if_neg (by simp [first]), ih others]
    simp

theorem wordsFrom_spaces (n : Nat) (rest : List Char) :
    wordsFrom [] (List.replicate n ' ' ++ rest) = wordsFrom [] rest := by
  induction n with
  | zero => rfl
  | succ n ih => exact ih

theorem IsWord.wordsFrom_end (isWord : IsWord word) : wordsFrom word.reverse [] = [word] := by
  simp [wordsFrom, isWord.filled]

theorem IsWord.wordsFrom_space (isWord : IsWord word) (rest : List Char) :
    wordsFrom word.reverse (' ' :: rest) = word :: wordsFrom [] rest := by
  have blank : isBlank ' ' = true := by decide
  rw [wordsFrom, if_pos blank]
  simp [isWord.filled]

theorem Spaced.words {words : List (List Char)} {line : List Char} (spaced : Spaced words line)
    (each : ∀ word ∈ words, IsWord word) : Text.words line = words := by
  induction spaced with
  | last word =>
    obtain ⟨isWord, -⟩ := List.forall_mem_cons.mp each
    have read := wordsFrom_solid isWord.solid [] []
    rw [List.append_nil, List.append_nil, isWord.wordsFrom_end] at read
    exact read
  | @next words line word more rest ih =>
    obtain ⟨isWord, others⟩ := List.forall_mem_cons.mp each
    have split : wordsFrom [] line = words := ih others
    unfold Text.words
    rw [List.append_assoc, wordsFrom_solid isWord.solid, List.append_nil, List.replicate_succ, List.cons_append,
      isWord.wordsFrom_space, wordsFrom_spaces, split]

end Words

section Lines

theorem isBlank_of_isLineEnd {c : Char} (ends : isLineEnd c = true) : isBlank c = true := by
  have codes : ∀ n ∈ [10, 11, 12, 13, 28, 29, 30, 133, 8232, 8233],
      blanks.boundaries.countP (· ≤ n) % 2 = 1 := by decide
  have listed : c.toNat ∈ [10, 11, 12, 13, 28, 29, 30, 133, 8232, 8233] := by
    simp only [isLineEnd, Bool.or_eq_true, Bool.and_eq_true, decide_eq_true_eq] at ends
    simp only [List.mem_cons, List.not_mem_nil, or_false]
    omega
  exact decide_eq_true (codes _ listed)

theorem IsWord.unbroken {word : List Char} (isWord : IsWord word) : ∀ c ∈ word, isLineEnd c = false := by
  intro c member
  refine Bool.eq_false_iff.mpr fun ends => ?_
  have blank := isBlank_of_isLineEnd ends
  rw [isWord.solid c member] at blank
  cases blank

theorem Spaced.unbroken {words : List (List Char)} {line : List Char} (spaced : Spaced words line)
    (each : ∀ word ∈ words, IsWord word) : ∀ c ∈ line, isLineEnd c = false := by
  induction spaced with
  | last word => exact (each word List.mem_cons_self).unbroken
  | next word more rest ih =>
    obtain ⟨isWord, others⟩ := List.forall_mem_cons.mp each
    intro c member
    rcases List.mem_append.mp member with front | back
    · rcases List.mem_append.mp front with inside | between
      · exact isWord.unbroken c inside
      · obtain rfl := List.eq_of_mem_replicate between
        decide
    · exact ih others c back

theorem linesFrom_unbroken {line : List Char} (unbroken : ∀ c ∈ line, isLineEnd c = false)
    (current rest : List Char) : linesFrom current (line ++ '\n' :: rest) =
      (line.reverse ++ current).reverse :: linesFrom [] rest := by
  induction line generalizing current with
  | nil => rfl
  | cons c cs ih =>
    obtain ⟨first, others⟩ := List.forall_mem_cons.mp unbroken
    have through : linesFrom current (c :: (cs ++ '\n' :: rest)) =
        linesFrom (c :: current) (cs ++ '\n' :: rest) := by
      rw [linesFrom, if_neg (by simp [first])]
      rintro _ rfl
      cases first
    rw [List.cons_append, through, ih others]
    simp

def ended (lines : List (List Char)) : List Char := lines.flatMap fun line => line ++ ['\n']

theorem lines_ended {lines : List (List Char)} (unbroken : ∀ line ∈ lines, ∀ c ∈ line, isLineEnd c = false) :
    Text.lines (ended lines) = lines := by
  induction lines with
  | nil => rfl
  | cons line rest ih =>
    obtain ⟨first, others⟩ := List.forall_mem_cons.mp unbroken
    have text : ended (line :: rest) = line ++ '\n' :: ended rest := by simp [ended]
    have split : linesFrom [] (ended rest) = rest := ih others
    rw [text, Text.lines, linesFrom_unbroken first, split, List.append_nil, List.reverse_reverse]

end Lines
end SearchStore.Text
