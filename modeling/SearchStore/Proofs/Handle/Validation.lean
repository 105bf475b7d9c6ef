import SearchStore.Proofs.Handle.Outcome
import SearchStore.Proofs.Handle.Selection
namespace SearchStore
open SearchStore.Action Session

namespace Handle
variable {h : Handle} {op : Operation} {positional values : List Value} {named : Entries} {i : Inquiry}
  {s : Session} {failure : Failure}

-- A raw query has to be a mapping. This is found out where the request is put together.
def unmappedRaw : Operation → List Value → Bool
  | .find, [_, query, raw] | .findAll, [_, query, raw] | .count, [_, query, raw] =>
    raw.truthy && !query.isMapping && !query.isNull
  | _, _ => false

theorem payload_refused {index docType query raw : Value}
    (failed : Find.payload index docType (Find.takeFlags query).spec raw.truthy = .error failure)
    (reported : failure.isStore = true) :
    (raw.truthy && !query.isMapping && !query.isNull) = true ∧ failure = unmapped := by
  cases complete : raw.truthy with
  | true =>
    rw [complete] at failed
    cases query with
    | null => cases failed
    | map entries => cases failed
    | _ =>
      cases failed
      exact ⟨rfl, rfl⟩
  | false =>
    rw [complete] at failed
    simp only [Find.payload, Bool.false_eq_true, if_false] at failed
    split at failed
    · cases failed
    · cases failed
      cases reported

-- Of what makes a request impossible, only a raw query is reported by the store itself.
theorem inquiry_refused (asked : h.inquiry op values = .error failure) (reported : failure.isStore = true) :
    unmappedRaw op values = true ∧ failure = unmapped := by
  have noFault {α : Type} {read : Except Fault α} (failed : read.mapError Failure.fault = .error failure) : False := by
    rw [foreign_of_mapError failed] at reported
    cases reported
  unfold inquiry at asked
  split at asked
  · cases asked
  · exact (noFault (error_of_bind_ok asked)).elim
  · exact (noFault (error_of_bind_ok asked)).elim
  · exact (noFault (error_of_bind_ok asked)).elim
  · exact payload_refused (error_of_bind_ok asked) reported
  · exact payload_refused (error_of_bind_ok asked) reported
  · exact (noFault (error_of_bind_ok asked)).elim
  · rcases error_parts_of_bind asked with failed | ⟨_, _, rest⟩
    · exact payload_refused failed reported
    · exact (noFault (error_of_bind_ok rest)).elim
  · cases asked
  · cases asked
  · cases asked
    cases reported

theorem objection_result (flaw : String × String) : (h.objection op flaw).result =
    .error (.store .validation flaw.2 (.str op.kind.code) (.int 400) none []) := by
  cases op <;> rfl

theorem flaw_isSome (op : Operation) (values : List Value) : (flaw op values).isSome = true ↔
    (subject op values).1.isText = false ∨ ∃ id, (subject op values).2 = some id ∧ id.isIdentifier = false := by
  unfold flaw
  rcases subject op values with ⟨docType, id⟩
  dsimp only
  cases docType.isText <;> cases id <;> simp

theorem conclude_blameless (sound : i.Sound) {result : Except Failure Value}
    (failed : (h.conclude op i result).result = .error failure) : failure.isValidation = false := by
  refine Bool.eq_false_iff.mpr fun validation => ?_
  have reported := Failure.isStore_of_isValidation validation
  have mild {ending : Ending} (mild : ending.Mild) (failed : ending.result = .error failure) : False := by
    rw [mild.result failure failed] at reported
    cases reported
  cases result with
  | ok response => exact mild (sound.answered response) failed
  | error cause =>
    unfold conclude at failed
    dsimp only at failed
    split at failed
    · split at failed
      · exact mild sound.excused failed
      · cases failed
        rw [op.failure_blameless cause] at validation
        cases validation
    · rename_i interrupted
      cases failed
      exact interrupted (Failure.isOrdinary_of_isStore reported)

theorem invoke_refused (raised : (h.invoke op positional named s).1 = .error failure)
    (validation : failure.isValidation = true) :
    ∃ values, Parameter.bind op.parameters positional named = some values ∧
      ((∃ flaw, Handle.flaw op values = some flaw ∧
        h.invoke op positional named s = ((h.objection op flaw).result, s.wrote (h.objection op flaw).records)) ∨
      (flaw op values = none ∧ unmappedRaw op values = true ∧
        h.invoke op positional named s = (.error unmapped, s))) := by
  cases fits : Parameter.bind op.parameters positional named with
  | none =>
    rw [invoke_eq, fits] at raised
    cases raised
    cases validation
  | some values =>
    refine ⟨values, rfl, ?_⟩
    cases prepared : h.prepare op values with
    | ok i =>
      rw [invoke_asks fits prepared, ask_run rfl] at raised
      rw [conclude_blameless (inquiry_sound (prepare_ok prepared).2) raised] at validation
      cases validation
    | error ending =>
      rw [invoke_ends fits prepared] at raised ⊢
      rcases prepare_error prepared with ⟨flaw, flawed, rfl⟩ | ⟨sane, e, asked, rfl⟩
      · exact .inl ⟨flaw, flawed, rfl⟩
      · cases raised
        obtain ⟨bad, rfl⟩ := inquiry_refused asked (Failure.isStore_of_isValidation validation)
        exact .inr ⟨sane, bad, by rw [wrote_nil]⟩

theorem asked_once_validated (h : Handle) (op : Operation) (positional : List Value) (named : Entries)
    (s : Session) :
    let ran := h.invoke op positional named s
    (∃ made, made.length ≤ 1 ∧ ran.2.calls = s.calls ++ made) ∧
    (∀ failure, ran.1 = .error failure → failure.isValidation = true → ran.2.exchanges = s.exchanges) ∧
    (∀ values, Parameter.bind op.parameters positional named = some values →
      (subject op values).1.isText = false ∨ (∃ id, (subject op values).2 = some id ∧ id.isIdentifier = false) →
      ∃ message, ran.1 = .error (.store .validation message (.str op.kind.code) (.int 400) none [])) := by
  intro ran
  refine ⟨?_, ?_, ?_⟩
  · change ∃ made, made.length ≤ 1 ∧ (h.invoke op positional named s).2.calls = s.calls ++ made
    cases fits : Parameter.bind op.parameters positional named with
    | none =>
      rw [invoke_eq, fits]
      exact ⟨[], Nat.zero_le 1, (List.append_nil _).symm⟩
    | some values =>
      cases prepared : h.prepare op values with
      | ok i =>
        obtain ⟨made, once, calls⟩ := call_calls h.client op.method i.arguments (s.wrote i.traces)
        rw [invoke_asks fits prepared, ask_run rfl]
        exact ⟨made, once, calls⟩
      | error ending =>
        rw [invoke_ends fits prepared]
        exact ⟨[], Nat.zero_le 1, (List.append_nil _).symm⟩
  · intro failure raised validation
    obtain ⟨values, -, ⟨flaw, -, same⟩ | ⟨-, -, same⟩⟩ := invoke_refused raised validation
    · change (h.invoke op positional named s).2.exchanges = s.exchanges
      rw [same]
      rfl
    · change (h.invoke op positional named s).2.exchanges = s.exchanges
      rw [same]
  · intro values fits wrong
    obtain ⟨flaw, flawed⟩ := Option.isSome_iff_exists.mp ((flaw_isSome op values).mpr wrong)
    have prepared : h.prepare op values = .error (h.objection op flaw) := by
      unfold prepare
      rw [flawed]
    have same : ran = ((h.objection op flaw).result, s.wrote (h.objection op flaw).records) :=
      invoke_ends fits prepared s
    rw [same]
    exact ⟨flaw.2, objection_result (h := h) flaw⟩

-- The failure says which operation refused, and one error record stands before it.
def Attributed (op : Operation) (failure : Failure) (before after : Session) : Prop :=
  (∃ message, failure = .store .validation message (.str op.kind.code) (.int 400) none []) ∧
    ∃ record, record.level = .error ∧ after.records = (before.wrote [record]).records

theorem unmapped_unattributed (op : Operation) (before after : Session) : ¬Attributed op unmapped before after := by
  rintro ⟨⟨message, same⟩, -⟩
  have code : Value.str "ES.QUERY" = .str op.kind.code := by
    injection same
  cases op <;> simp [Operation.kind, ErrorKind.code] at code

theorem flaw_none (sane : flaw op values = none) : (subject op values).1.isText = true := by
  cases text : (subject op values).1.isText with
  | true => rfl
  | false =>
    have flawed := (flaw_isSome op values).mpr (.inl text)
    rw [sane] at flawed
    cases flawed

theorem flaw_unmappedRaw (bad : unmappedRaw op values = true) (text : (subject op values).1.isText = true) :
    flaw op values = none := by
  have plain : (subject op values).2 = none := by
    unfold unmappedRaw at bad
    split at bad
    · rfl
    · rfl
    · rfl
    · cases bad
  refine Option.not_isSome_iff_eq_none.mp fun flawed => ?_
  rcases (flaw_isSome op values).mp flawed with wrong | ⟨id, found, -⟩
  · rw [text] at wrong
    cases wrong
  · rw [plain] at found
    cases found

theorem attributed_unless_unmapped (h : Handle) (op : Operation)
    (raised : (h.invoke op positional named s).1 = .error failure) (validation : failure.isValidation = true) :
    let after := (h.invoke op positional named s).2
    let queried := ∃ values, Parameter.bind op.parameters positional named = some values ∧
      (subject op values).1.isText = true ∧ unmappedRaw op values = true
    (Attributed op failure s after ↔ ¬queried) ∧ (queried → failure = unmapped ∧ after = s) := by
  intro after queried
  obtain ⟨values, fits, ⟨flaw, flawed, same⟩ | ⟨sane, bad, same⟩⟩ := invoke_refused raised validation
  · have unqueried : ¬queried := by
      rintro ⟨others, refits, text, bad⟩
      cases fits.symm.trans refits
      rw [flaw_unmappedRaw bad text] at flawed
      cases flawed
    have attributed : Attributed op failure s after := by
      rw [same, objection_result] at raised
      cases raised
      refine ⟨⟨flaw.2, rfl⟩, _, ?_, congrArg Session.records (congrArg Prod.snd same)⟩
      rfl
    exact ⟨⟨fun _ => unqueried, fun _ => attributed⟩, fun queried => (unqueried queried).elim⟩
  · have queries : queried := ⟨values, fits, flaw_none sane, bad⟩
    rw [same] at raised
    cases raised
    refine ⟨⟨fun attributed => (unmapped_unattributed op s after attributed).elim, fun no => (no queries).elim⟩,
      fun _ => ⟨rfl, congrArg Prod.snd same⟩⟩

def unnamed : Value := .record [("_type", .str "user"), ("_id", .bool true), ("name", .str "Ada")]

theorem attributed_unless_unmapped_unnamed :
    let ran := users.invoke .update [unnamed] [] {}
    ∃ failure, ran.1 = .error failure ∧ failure.isValidation = true ∧ Attributed .update failure {} ran.2 := by
  intro ran
  have unqueried : ¬∃ values, Parameter.bind Operation.update.parameters [unnamed] [] = some values ∧
      (subject .update values).1.isText = true ∧ unmappedRaw .update values = true := by
    rintro ⟨values, -, -, bad⟩
    cases bad
  refine ⟨_, rfl, rfl, ?_⟩
  exact (attributed_unless_unmapped users .update rfl rfl).1.mpr unqueried

theorem raw_query_unattributed :
    let ran := users.invoke .find [.str "user", .str "u1", .bool true] [] {}
    ran.1 = .error (.store .validation "Raw query must be a mapping" (.str "ES.QUERY") (.int 400) none []) ∧
      Operation.find.kind.code = "ES.FIND" ∧ ran.2.records = [] ∧ ¬Attributed .find unmapped {} ran.2 := by
  intro ran
  exact ⟨rfl, rfl, rfl, unmapped_unattributed .find {} ran.2⟩

end Handle
end SearchStore
