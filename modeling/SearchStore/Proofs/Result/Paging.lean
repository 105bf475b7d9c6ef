import SearchStore.Proofs.Result.Misread
import SearchStore.Proofs.Result.Pages
namespace SearchStore

theorem succeeds_bind {α β : Type} {first : Except Fault α} {next : α → Except Fault β} :
    (∃ b, first >>= next = .ok b) ↔ ∃ a, first = .ok a ∧ ∃ b, next a = .ok b := by
  cases first <;> simp [bind, Except.bind]

namespace Page
variable {total : Int} {size offset : Number}

def double? : Number → Option Binary64
  | .whole n => Binary64.ofInt? n
  | .real x => some x

-- How many pages there are, before that is rounded up. Whole numbers are divided as they are, whatever their size.
def quotient? (total : Int) : Number → Option Binary64
  | .whole size => some (.ofRat ((total : Rat) / (size : Rat)))
  | .real size => (Binary64.ofInt? total).map fun x => x.div size

def isWhole : Number → Bool
  | .whole _ => true
  | .real _ => false

theorem toDouble_eq (number : Number) : toDouble number =
    match double? number with
    | some x => .ok x
    | none => .error .overflow := by
  cases number <;> rfl

theorem roundUp_ok_iff {x : Binary64} : (∃ n, roundUp x = .ok n) ↔ x.rat?.isSome = true := by
  unfold roundUp Binary64.ceil?
  cases x.rat? <;> simp

theorem count_ok_iff : (∃ pages, count total size = .ok pages) ↔
    ∃ x, quotient? total size = some x ∧ x.rat?.isSome = true := by
  cases size with
  | whole size =>
    simp only [quotient?, Option.some.injEq, exists_eq_left', ← roundUp_ok_iff]
    unfold count
    dsimp only
    cases Binary64.ofRat ((total : Rat) / size) with
    | infinite negative => simp [roundUp, Binary64.ceil?, Binary64.rat?]
    | _ => rfl
  | real size =>
    have converted : toDouble (.whole total) = _ := toDouble_eq _
    simp only [count, quotient?, converted, double?]
    rcases Binary64.ofInt? total with _ | x
    · simp [bind, Except.bind]
    · simp [bind, Except.bind, ← roundUp_ok_iff]

theorem current_ok_iff : (∃ page, current offset size = .ok page) ↔
    (isWhole offset && isWhole size) = true ∨ (double? offset).isSome = true ∧ (double? size).isSome = true := by
  have parted : (∃ page, (do
      let start ← toDouble offset
      return .real (Binary64.add (Binary64.floorDivide start (← toDouble size)) (.finite 1)) : Except Fault Number) =
        .ok page) ↔ (double? offset).isSome = true ∧ (double? size).isSome = true := by
    rw [toDouble_eq, toDouble_eq]
    rcases double? offset with _ | start
    · simp [bind, Except.bind]
    · rcases double? size with _ | step
      · simp [bind, Except.bind]
      · simp [bind, Except.bind, pure, Except.pure]
  cases offset with
  | whole o =>
    cases size with
    | whole s => simp [current, isWhole]
    | real s =>
      simp only [isWhole, Bool.and_false, Bool.false_eq_true, false_or]
      exact parted
  | real o =>
    simp only [isWhole, Bool.false_and, Bool.false_eq_true, false_or]
    exact parted

def Divides (total : Int) (size : Value) : Prop :=
  ∃ number x, size.number? = some number ∧ quotient? total number = some x ∧ x.rat?.isSome = true

def Places (offset size : Value) : Prop :=
  ∃ start step, offset.number? = some start ∧ size.number? = some step ∧
    ((isWhole start && isWhole step) = true ∨ (double? start).isSome = true ∧ (double? step).isSome = true)

-- Without a size there are no pages, and without an offset there is no present one.
def Paged (total : Int) (body : Entries) : Prop :=
  (Entries.get body "size").truthy = true → Divides total (Entries.get body "size") ∧
    ((Entries.get body "from").isNull = false → Places (Entries.get body "from") (Entries.get body "size"))

theorem number_ok_iff {v : Value} {n : Number} : number v = .ok n ↔ v.number? = some n := by
  unfold number
  cases v.number? <;> simp

theorem divides_iff {size : Value} :
    (∃ number, Page.number size = .ok number ∧ ∃ pages, count total number = .ok pages) ↔ Divides total size := by
  simp only [number_ok_iff, count_ok_iff, Divides, exists_and_left]

theorem places_iff {offset size : Value} :
    (∃ start, number offset = .ok start ∧ ∃ step, number size = .ok step ∧ ∃ page, current start step = .ok page) ↔
      Places offset size := by
  simp only [number_ok_iff, current_ok_iff, Places, exists_and_left]

theorem metaOf_ok_iff (shown : Nat) {body : Entries} :
    (∃ page, metaOf total shown (.map body) = .ok page) ↔ Paged total body := by
  unfold Paged
  by_cases asked : (Entries.get body "size").truthy = true
  · have sized : metaOf total shown (.map body) = (do
        let pages ← count total (← number (Entries.get body "size"))
        if (Entries.get body "from").isNull then
          return ⟨total, shown, some pages, none⟩
        else
          let page ← current (← number (Entries.get body "from")) (← number (Entries.get body "size"))
          return ⟨total, shown, some pages, some page⟩) := if_pos asked
    rw [sized, ← divides_iff, ← places_iff]
    cases first : (Entries.get body "from").isNull with
    | true => simp [succeeds_bind, asked, pure, Except.pure]
    | false =>
      simp only [succeeds_bind, asked, Bool.false_eq_true, if_false, pure, Except.pure, Except.ok.injEq, exists_eq',
        and_true, exists_and_right, forall_const]
      constructor
      · rintro ⟨step, sized, counted, placed⟩
        exact ⟨⟨step, sized, counted⟩, placed⟩
      · rintro ⟨⟨step, sized, counted⟩, placed⟩
        exact ⟨step, sized, counted, placed⟩
  · have unsized : metaOf total shown (.map body) = .ok ⟨total, shown, none, none⟩ := if_neg asked
    simp [unsized, asked]

end Page

namespace Hit

-- A hit as the engine writes it, with an object for its source if it has one. Fields that are no object make no
-- document, so nothing need be said of them.
structure Proper (hit : Entries) : Prop where
  json : (Value.map hit).Json
  source : (Entries.get hit "_source").isMapping = true ∨ (Entries.get hit "_source").isNull = true

theorem Proper.document_named {hit document : Entries} {onlySource includeId : Bool} (proper : Proper hit)
    (read : document? (.map hit) onlySource includeId = some document) : document.hasTextKeys = true := by
  have unpaired : (Entries.get hit "_source").isPaired = false := by
    cases found : Entries.get hit "_source" with
    | null | map => rfl
    | _ =>
      have source := proper.source
      rw [found] at source
      cases source with
      | inl mapping => cases mapping
      | inr absent => cases absent
  rw [Hit.document_named proper.json read, misread_map, unpaired]
  simp

end Hit

namespace ResultSet
variable {response : Value} {total : Int} {found : List Entries} {body : Entries}

theorem ofResponse_ok_iff (answers : Answers total (found.map .map) response) (proper : ∀ hit ∈ found, Hit.Proper hit)
    (index docType : Value) (onlySource includeId : Bool) :
    (∃ set, ofResponse response onlySource includeId (.map (Find.request index docType body)) = .ok set) ↔
      Page.Paged total body := by
  have named : ∀ document ∈ documentsOf onlySource includeId (found.map .map), Entries.hasTextKeys document = true := by
    intro document listed
    obtain ⟨_, member, read⟩ := List.mem_filterMap.mp listed
    obtain ⟨hit, there, rfl⟩ := List.mem_map.mp member
    exact (proper hit there).document_named read
  have asked := requestBody_request index docType body
  rw [← Page.metaOf_ok_iff (documentsOf onlySource includeId (found.map .map)).length]
  cases paged : Page.metaOf total (documentsOf onlySource includeId (found.map .map)).length (.map body) with
  | ok page =>
    rw [ofResponse_answered answers asked paged, checked_named named]
    simp [Verdict.result, Except.map]
  | error fault =>
    obtain ⟨summary, read, counted, listed⟩ := answers.read
    have failed : ofResponse response onlySource includeId (.map (Find.request index docType body)) =
        .error (.fault fault) := by
      unfold documentsOf at paged
      unfold ofResponse pageOf
      simp only [read, counted, listed, asked, paged, bind, Except.bind]
    simp [failed]

end ResultSet

end SearchStore
