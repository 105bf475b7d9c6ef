import Mathlib
import SearchStore.Log.Template
import SearchStore.Proofs.Action
namespace SearchStore.Template

-- The name of a directive, with `depth` parentheses open in front of it. Those inside it close inside it.
inductive Enclosed : Nat → List Char → Prop
  | done : Enclosed 0 []
  | opens {depth : Nat} {cs : List Char} (rest : Enclosed (depth + 1) cs) : Enclosed depth ('(' :: cs)
  | closes {depth : Nat} {cs : List Char} (rest : Enclosed depth cs) : Enclosed (depth + 1) (')' :: cs)
  | other {depth : Nat} {c : Char} {cs : List Char} (opening : c ≠ '(') (closing : c ≠ ')') (rest : Enclosed depth cs) :
      Enclosed depth (c :: cs)

inductive Naming (s : Supply) : List Char → Supply → Prop
  | none : Naming s [] s
  | name {entries : Entries} {name : List Char} {v : Value} (given : s.named = some entries)
      (enclosed : Enclosed 0 name) (found : Entries.get? entries (String.ofList name) = some v) :
      Naming s ('(' :: (name ++ [')'])) { s with next := [v] }

inductive Amount (most : Nat) (s : Supply) : List Char → Int → Supply → Prop
  | digits {cs : List Char} (all : ∀ c ∈ cs, c.isDigit = true) (fits : Literal.ofDigitChars cs ≤ most) :
      Amount most s cs (Literal.ofDigitChars cs) s
  | star {v : Value} {rest : List Value} {n : Int} (next : s.next = v :: rest) (whole : exactWholeOf v = .ok n)
      (fits : n.natAbs ≤ most) : Amount most s ['*'] n { s with next := rest }

inductive Precision (s : Supply) : List Char → Option Nat → Supply → Prop
  | none : Precision s [] none s
  | digits {cs : List Char} {n : Int} {s' : Supply} (amount : Amount finestPrecision s cs n s') :
      Precision s ('.' :: cs) (some n.toNat) s'

def sizes : List (List Char) := [[], ['h'], ['l'], ['L']]

-- What stands between a percent sign and the end of the directive's conversion, and the text written for it. Zeros
-- in front of the width are flags.
inductive Directs (s : Supply) : List Char → List Char → Supply → Prop
  | intro {name flags width precision size text : List Char} {w : Int} {p : Option Nat} {conversion : Char} {v : Value}
      {named widened specified : Supply} {rest : List Value} (naming : Naming s name named)
      (flagged : ∀ c ∈ flags, isFlag c = true) (amount : Amount widestWidth named width w widened)
      (unpadded : width.head? ≠ some '0') (precise : Precision widened precision p specified) (sized : size ∈ sizes)
      (next : specified.next = v :: rest)
      (written : converted ⟨if w < 0 then '-' :: flags else flags, w.natAbs, p⟩ conversion v = .ok text) :
      Directs s (name ++ flags ++ width ++ precision ++ size ++ [conversion]) text { specified with next := rest }

inductive Formats : Supply → List Char → List Char → Prop
  | done {s : Supply} (spent : s.isSpent = true) : Formats s [] []
  | other {s : Supply} {c : Char} {cs text : List Char} (plain : c ≠ '%') (rest : Formats s cs text) :
      Formats s (c :: cs) (c :: text)
  | percent {s : Supply} {cs text : List Char} (rest : Formats s cs text) : Formats s ('%' :: '%' :: cs) ('%' :: text)
  | directive {s s' : Supply} {spelled cs text more : List Char} (directs : Directs s spelled text s')
      (rest : Formats s' cs more) : Formats s ('%' :: (spelled ++ cs)) (text ++ more)

inductive Fills (template : String) : List Value → String → Prop
  | plain : Fills template [] template
  | filled {arguments : List Value} {text : List Char} (given : arguments ≠ [])
      (formats : Formats (.ofArguments arguments) template.toList text) : Fills template arguments (String.ofList text)

section Characters
variable {c d : Char}

theorem char_ne {p : Char → Bool} (within : p c = true) (outside : p d = false) : c ≠ d := by
  intro same
  rw [same, outside] at within
  cases within

theorem letter_not_digit (letter : c.isAlpha = true) : c.isDigit = false := by
  refine Bool.eq_false_iff.mpr fun digit => ?_
  simp only [Char.isDigit, Char.isAlpha, Char.isUpper, Char.isLower, Bool.and_eq_true, Bool.or_eq_true,
    decide_eq_true_eq, UInt32.le_iff_toNat_le, ge_iff_le] at letter digit
  have nine : '9'.val.toNat = 57 := rfl
  have capital : 'A'.val.toNat = 65 := rfl
  have small : 'a'.val.toNat = 97 := rfl
  omega

theorem letter_not_flag (letter : c.isAlpha = true) : isFlag c = false := by
  unfold isFlag
  simp only [Bool.or_eq_false_iff, decide_eq_false_iff_not]
  exact ⟨⟨⟨⟨char_ne letter rfl, char_ne letter rfl⟩, char_ne letter rfl⟩, char_ne letter rfl⟩,
    char_ne letter rfl⟩

theorem digit_not_flag (digit : c.isDigit = true) (positive : c ≠ '0') : isFlag c = false := by
  unfold isFlag
  simp only [Bool.or_eq_false_iff, decide_eq_false_iff_not]
  exact ⟨⟨⟨⟨char_ne digit rfl, char_ne digit rfl⟩, char_ne digit rfl⟩, char_ne digit rfl⟩, positive⟩

theorem converted_letter {directive : Directive} {v : Value} {text : List Char}
    (written : converted directive c v = .ok text) : c.isAlpha = true ∧ ∀ size ∈ sizes, size.head? ≠ some c := by
  unfold converted at written
  split at written
  all_goals first | exact ⟨rfl, by decide⟩ | cases written

end Characters

section Parts
variable {s s' : Supply} {cs rest text : List Char} {depth most : Nat} {n : Int}

theorem Enclosed.nameTo {name : List Char} (enclosed : Enclosed depth name) (done rest : List Char) :
    nameTo depth done (name ++ ')' :: rest) = some (String.ofList (done.reverse ++ name), rest) := by
  induction enclosed generalizing done with
  | done => simp [Template.nameTo]
  | opens _ ih => simpa [Template.nameTo] using ih ('(' :: done)
  | closes _ ih => simpa [Template.nameTo] using ih (')' :: done)
  | @other depth c cs opening closing _ ih => simpa [Template.nameTo, opening, closing] using ih (c :: done)

theorem nameTo_enclosed {done : List Char} {name : String} (read : nameTo depth done cs = some (name, rest)) :
    ∃ inside, cs = inside ++ ')' :: rest ∧ Enclosed depth inside ∧ name = String.ofList (done.reverse ++ inside) := by
  fun_induction nameTo depth done cs with
  | case1 => cases read
  | case2 depth done cs ih =>
    obtain ⟨inside, rfl, enclosed, rfl⟩ := ih read
    exact ⟨'(' :: inside, rfl, .opens enclosed, by simp⟩
  | case3 done cs =>
    cases read
    exact ⟨[], rfl, .done, by simp⟩
  | case4 done cs depth ih =>
    obtain ⟨inside, rfl, enclosed, rfl⟩ := ih read
    exact ⟨')' :: inside, rfl, .closes enclosed, by simp⟩
  | case5 depth done c cs opening closing ih =>
    obtain ⟨inside, rfl, enclosed, rfl⟩ := ih read
    exact ⟨c :: inside, rfl, .other opening closing enclosed, by simp⟩

theorem Naming.named_append (naming : Naming s cs s') (ahead : rest.head? ≠ some '(') :
    named s (cs ++ rest) = .ok (s', rest) := by
  cases naming with
  | none =>
    cases rest with
    | nil => rfl
    | cons c rest =>
      have unnamed : c ≠ '(' := by simpa using ahead
      simp [named, unnamed]
  | @name entries name v given enclosed found =>
    have closed := enclosed.nameTo [] rest
    simp [named, given, closed, Supply.takeNamed, found]

theorem named_naming (read : named s cs = .ok (s', rest)) : ∃ name, cs = name ++ rest ∧ Naming s name s' := by
  unfold named at read
  split at read
  · rename_i tail
    cases given : s.named with
    | none => simp [given] at read
    | some entries =>
      cases closed : nameTo 0 [] tail with
      | none => simp [given, closed] at read
      | some found =>
        obtain ⟨name, after⟩ := found
        obtain ⟨inside, rfl, enclosed, rfl⟩ := nameTo_enclosed closed
        simp only [given, closed, Supply.takeNamed] at read
        cases entry : Entries.get? entries (String.ofList ([].reverse ++ inside)) with
        | none =>
          rw [entry] at read
          cases read
        | some v =>
          rw [entry] at read
          cases read
          have naming := Naming.name given enclosed entry
          rw [given] at naming
          exact ⟨'(' :: (inside ++ [')']), by simp, naming⟩
  · cases read
    exact ⟨[], rfl, .none⟩

theorem Amount.amount_append (amount : Amount most s cs n s')
    (ahead : ∀ c ∈ rest.head?, c.isDigit = false ∧ c ≠ '*') :
    Template.amount most s (cs ++ rest) = .ok (n, s', rest) := by
  cases amount with
  | digits all fits =>
    have stops : rest.takeWhile Char.isDigit = [] ∧ rest.dropWhile Char.isDigit = rest := by
      cases rest with
      | nil => exact ⟨rfl, rfl⟩
      | cons c rest => simp [(ahead c rfl).1]
    have starred : ∀ more, cs ++ rest ≠ '*' :: more := by
      intro more same
      cases cs with
      | nil => exact (ahead '*' (by simpa using congrArg List.head? same)).2 rfl
      | cons c cs =>
        cases same
        exact absurd (all '*' (List.mem_cons_self ..)) (by decide)
    unfold Template.amount
    split
    · rename_i more same
      exact absurd same (starred more)
    · rw [List.takeWhile_append_of_pos all, List.dropWhile_append_of_pos all, stops.1, stops.2, List.append_nil]
      exact if_pos fits
  | star next whole fits =>
    simp [Template.amount, Supply.take, next, whole, fits, bind, Except.bind, pure, Except.pure]

theorem amount_amount (read : Template.amount most s cs = .ok (n, s', rest)) :
    ∃ spelled, cs = spelled ++ rest ∧ Amount most s spelled n s' := by
  unfold Template.amount at read
  split at read
  · rename_i tail
    cases next : s.next with
    | nil => simp [Supply.take, next, bind, Except.bind] at read
    | cons v others =>
      simp only [Supply.take, next, bind, Except.bind] at read
      cases whole : exactWholeOf v with
      | error fault => simp [whole] at read
      | ok n =>
        simp only [whole] at read
        split at read
        · rename_i fits
          cases read
          exact ⟨['*'], rfl, .star next whole fits⟩
        · cases read
  · dsimp only at read
    split at read
    · rename_i fits
      cases read
      refine ⟨cs.takeWhile Char.isDigit, List.takeWhile_append_dropWhile.symm, .digits (fun c member => ?_) fits⟩
      exact List.mem_takeWhile_imp member
    · cases read

theorem Precision.precision_append {p : Option Nat} (precise : Precision s cs p s')
    (ahead : ∀ c ∈ rest.head?, c.isAlpha = true) : precision s (cs ++ rest) = .ok (p, s', rest) := by
  cases precise with
  | none =>
    cases rest with
    | nil => rfl
    | cons c rest =>
      have point : c ≠ '.' := char_ne (ahead c rfl) rfl
      simp [precision, point]
  | digits amount =>
    have read := amount.amount_append fun c first => ⟨letter_not_digit (ahead c first), char_ne (ahead c first) rfl⟩
    simp [precision, read, bind, Except.bind, pure, Except.pure]

theorem precision_precision {p : Option Nat} (read : precision s cs = .ok (p, s', rest)) :
    ∃ spelled, cs = spelled ++ rest ∧ Precision s spelled p s' := by
  unfold precision at read
  split at read
  · rename_i tail
    cases within : amount finestPrecision s tail with
    | error fault => simp [within, bind, Except.bind] at read
    | ok found =>
      obtain ⟨n, left, after⟩ := found
      simp only [within, bind, Except.bind] at read
      cases read
      obtain ⟨spelled, rfl, amount⟩ := amount_amount within
      exact ⟨'.' :: spelled, rfl, .digits amount⟩
  · cases read
    exact ⟨[], rfl, .none⟩

theorem skipSize_append {size : List Char} {c : Char} (sized : size ∈ sizes)
    (ahead : ∀ size ∈ sizes, size.head? ≠ some c) : skipSize (size ++ c :: rest) = c :: rest := by
  have letters : c ≠ 'h' ∧ c ≠ 'l' ∧ c ≠ 'L' := by
    simp only [sizes, List.forall_mem_cons, List.head?_cons, ne_eq, Option.some.injEq] at ahead
    exact ⟨fun same => ahead.2.1 same.symm, fun same => ahead.2.2.1 same.symm, fun same => ahead.2.2.2.1 same.symm⟩
  simp only [sizes, List.mem_cons, List.not_mem_nil, or_false] at sized
  rcases sized with rfl | rfl | rfl | rfl
  · simp [skipSize, letters]
  all_goals rfl

theorem skipSize_sized (read : skipSize cs = rest) : ∃ size ∈ sizes, cs = size ++ rest := by
  unfold skipSize at read
  split at read
  · exact ⟨['h'], by decide, congrArg _ read⟩
  · exact ⟨['l'], by decide, congrArg _ read⟩
  · exact ⟨['L'], by decide, congrArg _ read⟩
  · exact ⟨[], by decide, read⟩

end Parts

section Directives
variable {s s' : Supply} {cs rest text : List Char}

theorem head?_letters {size : List Char} {c : Char} (sized : size ∈ sizes) (letter : c.isAlpha = true)
    (rest : List Char) :
    ∀ d ∈ (size ++ c :: rest).head?, d.isAlpha = true := by
  simp only [sizes, List.mem_cons, List.not_mem_nil, or_false] at sized
  rcases sized with rfl | rfl | rfl | rfl
  · simpa using letter
  all_goals simp

theorem Precision.head? {p : Option Nat} (precise : Precision s cs p s') (ahead : ∀ c ∈ rest.head?, c.isAlpha = true) :
    ∀ c ∈ (cs ++ rest).head?, c = '.' ∨ c.isAlpha = true := by
  cases precise with
  | none => exact fun c first => .inr (ahead c first)
  | digits amount => exact fun c first => .inl (Option.some.inj first).symm

theorem Amount.head? {most : Nat} {n : Int} (amount : Amount most s cs n s') (unpadded : cs.head? ≠ some '0')
    (ahead : ∀ c ∈ rest.head?, c = '.' ∨ c.isAlpha = true) :
    ∀ c ∈ (cs ++ rest).head?, isFlag c = false ∧ c ≠ '(' ∧ c ≠ '%' := by
  intro c first
  have follows (point : c = '.' ∨ c.isAlpha = true) : isFlag c = false ∧ c ≠ '(' ∧ c ≠ '%' := by
    rcases point with rfl | letter
    · decide
    · exact ⟨letter_not_flag letter, char_ne letter rfl, char_ne letter rfl⟩
  cases amount with
  | digits all fits =>
    cases cs with
    | nil => exact follows (ahead c first)
    | cons d cs =>
      cases first
      have digit := all c (List.mem_cons_self ..)
      exact ⟨digit_not_flag digit fun zero => unpadded (by rw [zero]; rfl), char_ne digit rfl, char_ne digit rfl⟩
  | star =>
    cases first
    decide

theorem flags_append {flags : List Char} (flagged : ∀ c ∈ flags, isFlag c = true)
    (ahead : ∀ c ∈ rest.head?, isFlag c = false) :
    (flags ++ rest).takeWhile isFlag = flags ∧ (flags ++ rest).dropWhile isFlag = rest := by
  rw [List.takeWhile_append_of_pos flagged, List.dropWhile_append_of_pos flagged]
  cases rest with
  | nil => exact ⟨List.append_nil _, rfl⟩
  | cons c rest => simp [ahead c rfl]

theorem Naming.head? (naming : Naming s cs s') (ahead : ∀ c ∈ rest.head?, c ≠ '%') : (cs ++ rest).head? ≠ some '%' := by
  cases naming with
  | none => exact fun first => ahead '%' first rfl
  | name => simp

-- Each part ends where the next one begins, as no part can begin with what the one before it is made of.
theorem Directs.directive_append (directs : Directs s cs text s') (rest : List Char) :
    directive s (cs ++ rest) = .ok (text, s', rest) ∧ (cs ++ rest).head? ≠ some '%' := by
  obtain ⟨naming, flagged, amount, unpadded, precise, sized, next, written⟩ := directs
  rename_i name flags width precision size w p conversion v named widened specified others
  obtain ⟨letter, unsized⟩ := converted_letter written
  have sizeRead : skipSize (size ++ conversion :: rest) = conversion :: rest := skipSize_append sized unsized
  have sizeFirst := head?_letters sized letter rest
  have precisionRead := precise.precision_append sizeFirst
  have precisionFirst := precise.head? sizeFirst
  have widthRead := amount.amount_append fun c first => by
    rcases precisionFirst c first with rfl | letter
    · decide
    · exact ⟨letter_not_digit letter, char_ne letter rfl⟩
  have widthFirst := amount.head? unpadded precisionFirst
  have flagsRead := flags_append flagged fun c first => (widthFirst c first).1
  have flagsFirst : ∀ c ∈ (flags ++ (width ++ (precision ++ (size ++ conversion :: rest)))).head?,
      c ≠ '(' ∧ c ≠ '%' := by
    intro c first
    cases flags with
    | nil => exact (widthFirst c first).2
    | cons flag flags =>
      cases first
      have flag := flagged c (List.mem_cons_self ..)
      exact ⟨char_ne flag (by decide), char_ne flag (by decide)⟩
  have nameRead := naming.named_append fun first => (flagsFirst '(' first).1 rfl
  simp only [List.append_assoc, List.cons_append, List.nil_append]
  refine ⟨?_, naming.head? fun c first => (flagsFirst c first).2⟩
  simp [directive, nameRead, flagsRead, widthRead, precisionRead, sizeRead, Supply.take, next, written, bind, Except.bind,
    pure, Except.pure]

theorem take_eq {s s' : Supply} {v : Value} (taken : s.take = .ok (v, s')) :
    ∃ rest, s.next = v :: rest ∧ s' = { s with next := rest } := by
  unfold Supply.take at taken
  split at taken
  · cases taken
  · rename_i next
    cases taken
    exact ⟨_, next, rfl⟩

theorem directive_directs (read : directive s cs = .ok (text, s', rest)) :
    ∃ spelled, cs = spelled ++ rest ∧ Directs s spelled text s' := by
  unfold directive at read
  obtain ⟨⟨named, unnamed⟩, nameRead, afterName⟩ := parts_of_bind read
  obtain ⟨⟨w, widened, narrow⟩, widthRead, afterWidth⟩ := parts_of_bind afterName
  obtain ⟨⟨p, specified, imprecise⟩, precisionRead, afterPrecision⟩ := parts_of_bind afterWidth
  dsimp only at afterPrecision
  split at afterPrecision
  · cases afterPrecision
  · rename_i conversion after sizeRead
    obtain ⟨⟨v, left⟩, taken, afterTaken⟩ := parts_of_bind afterPrecision
    obtain ⟨written, converts, done⟩ := parts_of_bind afterTaken
    cases done
    obtain ⟨others, next, rfl⟩ := take_eq taken
    obtain ⟨name, rfl, naming⟩ := named_naming nameRead
    obtain ⟨width, cut, amount⟩ := amount_amount widthRead
    obtain ⟨precision, rfl, precise⟩ := precision_precision precisionRead
    obtain ⟨size, sized, rfl⟩ := skipSize_sized sizeRead
    have unpadded : width.head? ≠ some '0' := by
      intro zero
      have first := List.head?_dropWhile_not isFlag unnamed
      rw [cut, List.head?_append, zero, Option.some_or] at first
      exact absurd first (by decide)
    have flagsCut : unnamed = unnamed.takeWhile isFlag ++ (width ++ (precision ++ (size ++ conversion :: rest))) := by
      rw [← cut]
      exact List.takeWhile_append_dropWhile.symm
    refine ⟨_, ?_, .intro naming (fun c member => List.mem_takeWhile_imp member) amount unpadded precise sized next
      converts⟩
    exact (congrArg (name ++ ·) flagsCut).trans (by simp)

end Directives

section Templates
variable {s : Supply} {cs text : List Char}

theorem Formats.fillFrom (formats : Formats s cs text) {fuel : Nat} (enough : cs.length ≤ fuel) :
    fillFrom s fuel cs = .ok text := by
  induction formats generalizing fuel with
  | done spent => cases fuel <;> simp [Template.fillFrom, spent]
  | @other s c cs text plain _ ih =>
    obtain ⟨fuel, rfl⟩ := Nat.exists_eq_add_one_of_ne_zero (Nat.ne_zero_of_lt enough)
    have rest := ih (Nat.le_of_succ_le_succ enough)
    simp [Template.fillFrom, plain, rest, bind, Except.bind, pure, Except.pure]
  | percent _ ih =>
    obtain ⟨fuel, rfl⟩ := Nat.exists_eq_add_one_of_ne_zero (Nat.ne_zero_of_lt enough)
    have rest := ih (Nat.le_trans (Nat.le_succ _) (Nat.le_of_succ_le_succ enough))
    simp [Template.fillFrom, rest, bind, Except.bind, pure, Except.pure]
  | @directive s s' spelled cs text more directs _ ih =>
    obtain ⟨fuel, rfl⟩ := Nat.exists_eq_add_one_of_ne_zero (Nat.ne_zero_of_lt enough)
    obtain ⟨read, first⟩ := directs.directive_append cs
    have shorter : cs.length ≤ fuel := by
      rw [List.length_cons, List.length_append] at enough
      omega
    have rest := ih shorter
    have single : ∀ tail, spelled ++ cs ≠ '%' :: tail := fun tail same => first (by rw [same]; rfl)
    simp [Template.fillFrom, single, read, rest, bind, Except.bind, pure, Except.pure]

theorem fillFrom_formats {fuel : Nat} (enough : cs.length ≤ fuel) (filled : fillFrom s fuel cs = .ok text) :
    Formats s cs text := by
  fun_induction Template.fillFrom s fuel cs generalizing text with
  | case1 s cs spent =>
    cases List.eq_nil_of_length_eq_zero (Nat.le_zero.mp enough)
    cases filled
    exact .done spent
  | case2 => cases filled
  | case3 s fuel spent =>
    cases filled
    exact .done spent
  | case4 => cases filled
  | case5 s fuel cs ih =>
    obtain ⟨rest, after, done⟩ := parts_of_bind filled
    cases done
    exact .percent (ih (by simp at enough; omega) after)
  | case6 s fuel cs single ih =>
    obtain ⟨⟨written, left, cs⟩, read, filled⟩ := parts_of_bind filled
    obtain ⟨rest, after, done⟩ := parts_of_bind filled
    cases done
    obtain ⟨spelled, rfl, directs⟩ := directive_directs read
    exact .directive directs (ih _ _ (by simp at enough; omega) after)
  | case7 s fuel c cs single plain ih =>
    obtain ⟨rest, after, done⟩ := parts_of_bind filled
    cases done
    exact .other plain (ih (Nat.le_of_succ_le_succ enough) after)

theorem fill_ok_iff {template : String} {arguments : List Value} {text : String} :
    fill template arguments = .ok text ↔ Fills template arguments text := by
  unfold fill
  cases arguments with
  | nil =>
    constructor
    · intro filled
      cases filled
      exact .plain
    · rintro ⟨⟩
      · rfl
      · contradiction
  | cons v rest =>
    constructor
    · intro filled
      obtain ⟨written, made, done⟩ := parts_of_bind filled
      cases done
      exact .filled (List.cons_ne_nil _ _) (fillFrom_formats (Nat.le_refl _) made)
    · rintro ⟨⟩
      rename_i written given formats
      have made := formats.fillFrom (Nat.le_refl _)
      simp [made, bind, Except.bind, pure, Except.pure]

end Templates
end SearchStore.Template
