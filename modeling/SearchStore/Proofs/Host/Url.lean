import Mathlib.Data.List.TakeWhile
import SearchStore.Host.Url
import SearchStore.Proofs.Host.Percent
namespace SearchStore

namespace Address
variable {mark : Char} {cs before : List Char}

theorem cutAt_absent (absent : mark ∉ cs) : cutAt mark cs = (cs, none) := by
  induction cs with
  | nil => rfl
  | cons c rest ih =>
    obtain ⟨apart, others⟩ := List.ne_and_not_mem_of_not_mem_cons absent
    rw [cutAt, if_neg (Ne.symm apart), ih others]

theorem cutAt_append (absent : mark ∉ before) (after : List Char) :
    cutAt mark (before ++ mark :: after) = (before, some after) := by
  induction before with
  | nil => exact if_pos rfl
  | cons c rest ih =>
    obtain ⟨apart, others⟩ := List.ne_and_not_mem_of_not_mem_cons absent
    rw [List.cons_append, cutAt, if_neg (Ne.symm apart), ih others]

end Address

namespace Url

-- The characters that percent-encoded text is written with. None of them is a mark between the parts of a URL.
def isPlain (c : Char) : Bool := Percent.isUnreserved c || c = '%'

def Plain (part : List Char) : Prop := ∀ c ∈ part, isPlain c = true

theorem isPlain_ascii {c : Char} (plain : isPlain c = true) : c.toNat < 128 := by
  rcases Bool.or_eq_true_iff.mp plain with unreserved | percent
  · exact Percent.isUnreserved_ascii unreserved
  · rw [of_decide_eq_true percent]
    decide

section Tests
variable {p : Char → Bool} {c : Char} (met : p c = true)
include met

theorem kept_of (tab : p '\t' = false) (feed : p '\r' = false) (line : p '\n' = false) : isDropped c = false := by
  by_contra dropped
  simp only [isDropped, Bool.not_eq_false, Bool.or_eq_true, decide_eq_true_eq] at dropped
  rcases dropped with (rfl | rfl) | rfl
  · exact absurd met (by simp [tab])
  · exact absurd met (by simp [feed])
  · exact absurd met (by simp [line])

theorem inside_of (slash : p '/' = false) (query : p '?' = false) (fragment : p '#' = false) :
    endsAuthority c = false := by
  by_contra ends
  simp only [endsAuthority, Bool.not_eq_false, Bool.or_eq_true, decide_eq_true_eq] at ends
  rcases ends with (rfl | rfl) | rfl
  · exact absurd met (by simp [slash])
  · exact absurd met (by simp [query])
  · exact absurd met (by simp [fragment])

end Tests

theorem isLetter_shown {c : Char} (letter : isLetter c = true) : isControlOrSpace c = false := by
  simp only [isLetter, Bool.or_eq_true, Bool.and_eq_true, decide_eq_true_eq, Char.le_def,
    UInt32.le_iff_toNat_le] at letter
  have upper : 'A'.val.toNat = 65 := rfl
  have lower : 'a'.val.toNat = 97 := rfl
  have shown : ¬ c.val.toNat ≤ 32 := by omega
  exact decide_eq_false shown

theorem isLetter_toLower {c : Char} (letter : isLetter c.toLower = true) : isLetter c = true := by
  by_cases upper : 'A' ≤ c ∧ c ≤ 'Z'
  · simp [isLetter, upper]
  · have same : c.toLower = c := dif_neg upper
    rwa [same] at letter

section Parts
variable {mark : Char} {part : List Char}

theorem Plain.not_mem (plain : Plain part) (marks : isPlain mark = false) : mark ∉ part := by
  intro member
  rw [plain mark member] at marks
  cases marks

section Scheme
variable {scheme rest cs : List Char}

theorem splitScheme_cut (cut : Address.cutAt ':' cs = (scheme, some rest)) (letter : scheme.head?.any isLetter = true)
    (all : scheme.all isSchemeChar = true) :
    splitScheme cs = (some (String.ofList (Literal.lowercaseAscii scheme)), rest) := by
  unfold splitScheme
  rw [cut]
  simp [letter, all]

theorem splitScheme_append (letter : scheme.head?.any isLetter = true) (all : scheme.all isSchemeChar = true) :
    splitScheme (scheme ++ ':' :: rest) = (some (String.ofList (Literal.lowercaseAscii scheme)), rest) := by
  have absent : ':' ∉ scheme := fun member => by cases List.all_eq_true.mp all ':' member
  exact splitScheme_cut (Address.cutAt_append absent rest) letter all

theorem splitScheme_letters (cut : Address.cutAt ':' cs = (scheme, some rest))
    (letters : ∀ c ∈ scheme, isLetter c = true) (named : scheme ≠ []) :
    splitScheme cs = (some (String.ofList (Literal.lowercaseAscii scheme)), rest) := by
  apply splitScheme_cut cut
  · cases scheme with
    | nil => exact absurd rfl named
    | cons c rest => exact letters c List.mem_cons_self
  · apply List.all_eq_true.mpr
    intro c member
    simp [isSchemeChar, letters c member]

end Scheme

theorem splitAuthority_append {path : List Char} (inside : ∀ c ∈ part, endsAuthority c = false)
    (rooted : ∀ c ∈ path.head?, c = '/') : splitAuthority ('/' :: '/' :: (part ++ path)) = (part, path) := by
  have all : ∀ c ∈ part, (!endsAuthority c) = true := fun c member => by rw [inside c member]; rfl
  change ((part ++ path).takeWhile (!endsAuthority ·), (part ++ path).dropWhile (!endsAuthority ·)) = _
  rw [List.takeWhile_append_of_pos all, List.dropWhile_append_of_pos all]
  cases path with
  | nil => simp
  | cons c rest =>
    cases rooted c rfl
    simp [endsAuthority]

theorem takeWhile_reverse (absent : '@' ∉ part) (rest : List Char) :
    ((part.reverse ++ rest).takeWhile (· ≠ '@')) = part.reverse ++ rest.takeWhile (· ≠ '@') := by
  apply List.takeWhile_append_of_pos
  intro c member
  have apart : c ≠ '@' := fun same => absent (same ▸ List.mem_reverse.mp member)
  exact decide_eq_true apart

theorem splitUser_append (about : List Char) (absent : '@' ∉ part) :
    splitUser (about ++ '@' :: part) = (some about, part) := by
  have reversed : (about ++ '@' :: part).reverse = part.reverse ++ '@' :: about.reverse := by simp
  have host : (part.reverse ++ '@' :: about.reverse).takeWhile (· ≠ '@') = part.reverse := by
    rw [takeWhile_reverse absent]
    simp
  have present : (about ++ '@' :: part).contains '@' = true := by simp
  have length : (about ++ '@' :: part).length - part.length - 1 = about.length := by
    simp
    omega
  unfold splitUser
  rw [reversed, host, if_pos present, List.reverse_reverse, length]
  simp

theorem splitUser_absent (absent : '@' ∉ part) : splitUser part = (none, part) := by
  have host : part.reverse.takeWhile (· ≠ '@') = part.reverse := by
    simpa using takeWhile_reverse absent []
  unfold splitUser
  rw [host, List.reverse_reverse, if_neg (by simpa using absent)]

end Parts

structure Authority where
  login : Option (List Char × List Char)
  host : List Char
  port : Option (List Char)

namespace Authority

def about (a : Authority) : Option (List Char) := a.login.map fun login => login.1 ++ ':' :: login.2

def place (a : Authority) : List Char := a.host ++ (a.port.elim [] (':' :: ·))

def text (a : Authority) : List Char := a.about.elim [] (· ++ ['@']) ++ a.place

structure Plain (a : Authority) : Prop where
  user : ∀ login ∈ a.login, Url.Plain login.1
  password : ∀ login ∈ a.login, Url.Plain login.2
  host : Url.Plain a.host
  port : ∀ digits ∈ a.port, Url.Plain digits

section Plain
variable {a : Authority} (plain : a.Plain)
include plain

section All
variable {p : Char → Prop} (all : ∀ c, isPlain c = true → p c) (colon : p ':')
include all colon

theorem Plain.place_all : ∀ c ∈ a.place, p c := by
  refine List.forall_mem_append.mpr ⟨fun c member => all c (plain.host c member), ?_⟩
  cases port : a.port with
  | none => simp
  | some digits => exact List.forall_mem_cons.mpr ⟨colon, fun c member => all c (plain.port digits port c member)⟩

theorem Plain.text_all (sign : p '@') : ∀ c ∈ a.text, p c := by
  refine List.forall_mem_append.mpr ⟨?_, plain.place_all all colon⟩
  unfold about
  cases given : a.login with
  | none => simp
  | some login =>
    have user : ∀ c ∈ login.1, p c := fun c member => all c (plain.user login given c member)
    have password : ∀ c ∈ login.2, p c := fun c member => all c (plain.password login given c member)
    have about := List.forall_mem_append.mpr ⟨user, List.forall_mem_cons.mpr ⟨colon, password⟩⟩
    exact List.forall_mem_append.mpr ⟨about, List.forall_mem_singleton.mpr sign⟩

end All

section Marks
variable {mark : Char} (marks : isPlain mark = false)
include marks

theorem Plain.place_not_mem (colon : ':' ≠ mark) : mark ∉ a.place := by
  intro member
  have apart : ∀ c, isPlain c = true → c ≠ mark := by
    rintro _ plain rfl
    rw [marks] at plain
    cases plain
  exact plain.place_all apart colon mark member rfl

theorem Plain.text_not_mem (colon : ':' ≠ mark) (sign : '@' ≠ mark) : mark ∉ a.text := by
  intro member
  have apart : ∀ c, isPlain c = true → c ≠ mark := by
    rintro _ plain rfl
    rw [marks] at plain
    cases plain
  exact plain.text_all apart colon sign mark member rfl

end Marks

theorem Plain.splitUser_text : splitUser a.text = (a.about, a.place) := by
  have absent : '@' ∉ a.place := plain.place_not_mem rfl (by decide)
  unfold text
  cases a.about with
  | none => exact splitUser_absent absent
  | some about => simpa using splitUser_append about absent

theorem Plain.splitHost_place : splitHost a.place = (a.host, a.port) := by
  have unbracketed : '[' ∉ a.place := plain.place_not_mem rfl (by decide)
  have uncut : ':' ∉ a.host := plain.host.not_mem rfl
  unfold splitHost
  rw [Address.cutAt_absent unbracketed]
  unfold place
  cases a.port with
  | none => simpa using Address.cutAt_absent uncut
  | some digits => exact Address.cutAt_append uncut digits

theorem Plain.cut_about :
    Address.cutAt ':' (a.about.getD []) = ((a.login.map Prod.fst).getD [], a.login.map Prod.snd) := by
  unfold about
  cases given : a.login with
  | none => rfl
  | some login => exact Address.cutAt_append ((plain.user login given).not_mem rfl) login.2

theorem Plain.bracketsFit_text : bracketsFit a.text = true := by
  have opened : '[' ∉ a.text := plain.text_not_mem rfl (by decide) (by decide)
  have closed : ']' ∉ a.text := plain.text_not_mem rfl (by decide) (by decide)
  simp [bracketsFit, opened, closed]

theorem Plain.shows_text : hidesDelimiter a.text = false := by
  have forms : ∀ form ∈ delimiterForms, 128 ≤ form := by decide
  have ascii := plain.text_all (fun _ => isPlain_ascii) (by decide) (by decide)
  apply List.any_eq_false.mpr
  intro c member hidden
  have beyond := forms c.toNat (List.contains_iff_mem.mp hidden)
  have below := ascii c member
  omega

theorem Plain.inside_text : ∀ c ∈ a.text, endsAuthority c = false := by
  exact plain.text_all (fun c plain => inside_of plain rfl rfl rfl) rfl rfl

theorem Plain.kept_text : ∀ c ∈ a.text, isDropped c = false := by
  exact plain.text_all (fun c plain => kept_of plain rfl rfl rfl) rfl rfl

end Plain
end Authority

structure IsPath (path : List Char) : Prop where
  rooted : ∀ c ∈ path.head?, c = '/'
  ordinary : ∀ c ∈ path, c ≠ '?' ∧ c ≠ '#' ∧ isDropped c = false

def cleaned (text : String) : List Char := (text.toList.dropWhile isControlOrSpace).filter (!isDropped ·)

theorem read?_scheme {text : String} {url : Url} (found : read? text = some url) :
    url.scheme = (splitScheme (cleaned text)).1 := by
  unfold read? at found
  dsimp only at found
  split at found
  · cases found
    rfl
  · cases found

theorem cleaned_parts {scheme path : List Char} {a : Authority} (letter : scheme.head?.any isLetter = true)
    (all : scheme.all isSchemeChar = true) (plain : a.Plain) (isPath : IsPath path) :
    cleaned (String.ofList (scheme ++ ':' :: '/' :: '/' :: (a.text ++ path))) =
      scheme ++ ':' :: '/' :: '/' :: (a.text ++ path) := by
  have schemes : ∀ c ∈ scheme, isDropped c = false :=
    fun c member => kept_of (List.all_eq_true.mp all c member) rfl rfl rfl
  have kept : ∀ c ∈ scheme ++ ':' :: '/' :: '/' :: (a.text ++ path), isDropped c = false := by
    have behind := List.forall_mem_append.mpr ⟨plain.kept_text, fun c member => (isPath.ordinary c member).2.2⟩
    have marked : ∀ c ∈ [':', '/', '/'] ++ (a.text ++ path), isDropped c = false :=
      List.forall_mem_append.mpr ⟨by simp [isDropped], behind⟩
    exact List.forall_mem_append.mpr ⟨schemes, marked⟩
  have undropped : (scheme ++ ':' :: '/' :: '/' :: (a.text ++ path)).dropWhile isControlOrSpace =
      scheme ++ ':' :: '/' :: '/' :: (a.text ++ path) := by
    cases scheme with
    | nil => cases letter
    | cons c rest =>
      have shown : ¬ isControlOrSpace c = true := by simp [isLetter_shown letter]
      exact List.dropWhile_cons_of_neg shown
  unfold cleaned
  rw [String.toList_ofList, undropped, List.filter_eq_self]
  intro c member
  rw [kept c member]
  rfl

theorem read?_parts {scheme path : List Char} {a : Authority} (letter : scheme.head?.any isLetter = true)
    (all : scheme.all isSchemeChar = true) (plain : a.Plain) (isPath : IsPath path) :
    read? (String.ofList (scheme ++ ':' :: '/' :: '/' :: (a.text ++ path))) = some {
      scheme := some (String.ofList (Literal.lowercaseAscii scheme))
      user := (nonempty ((a.login.map Prod.fst).getD [])).map String.ofList
      password := (a.login.map Prod.snd).map String.ofList
      hostname := (nonempty a.host).map lowerHost
      port := a.port.bind nonempty
      path := String.ofList path } := by
  have unended : path.takeWhile (fun c => c ≠ '?' && c ≠ '#') = path := by
    apply List.takeWhile_eq_self_iff.mpr
    intro c member
    obtain ⟨query, fragment, -⟩ := isPath.ordinary c member
    simp [query, fragment]
  have whole := cleaned_parts letter all plain isPath
  unfold cleaned at whole
  unfold read?
  rw [whole]
  simp only [splitScheme_append letter all, splitAuthority_append plain.inside_text isPath.rooted,
    plain.bracketsFit_text, plain.shows_text, plain.splitUser_text, plain.cut_about, plain.splitHost_place]
  rw [unended]
  rfl

end Url
end SearchStore
