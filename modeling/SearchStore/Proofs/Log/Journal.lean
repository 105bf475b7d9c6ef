import Mathlib.Data.List.Nodup
import SearchStore.Log.Journal
import SearchStore.Proofs.Log.Template
namespace SearchStore

def Threshold.Names (name : String) (n : Nat) : Prop := (capitals name, n) ∈ named

instance (name : String) (n : Nat) : Decidable (Threshold.Names name n) :=
  inferInstanceAs (Decidable (_ ∈ Threshold.named))

theorem Threshold.ofName_named {name : String} {n : Nat} (known : Names name n) : ofName name = .ok n := by
  obtain ⟨entry, found⟩ : ∃ entry, named.find? (fun level => level.1 == capitals name) = some entry := by
    refine Option.isSome_iff_exists.mp (List.find?_isSome.mpr ⟨_, known, ?_⟩)
    exact beq_self_eq_true (capitals name)
  have same : entry.1 = capitals name := by simpa using List.find?_some found
  have apart : (named.map Prod.fst).Nodup := by decide
  have number : entry = (capitals name, n) :=
    List.inj_on_of_nodup_map apart (List.mem_of_find?_eq_some found) known same
  unfold ofName
  rw [found, number]

namespace Record

def object (r : Record Int) (text : String) : Entries :=
  Entries.ofFields ([("event", .str text), ("level", .str (Level.nameOf r.level)), ("logger", .str r.logger)] ++
    (r.failure.map fun f => ("exception", .str f.described)).toList)

def Renders (r : Record Int) (line : Line) : Prop :=
  ∃ text, Template.Fills r.template r.arguments text ∧ line = .object (r.object text)

theorem Renders.line_eq {r : Record Int} {line : Line} {text : String} (renders : r.Renders line)
    (filled : Template.fill r.template r.arguments = .ok text) : line = .object (r.object text) := by
  obtain ⟨said, fills, rfl⟩ := renders
  cases (Template.fill_ok_iff.mpr fills).symm.trans filled
  rfl

theorem object?_object (r : Record Int) (text : String) :
    Event.object? ⟨r.level, r.logger, .str text, [], r.failure⟩ = some (r.object text) := by
  obtain ⟨level, logger, template, arguments, failure⟩ := r
  cases failure <;> rfl

end Record

namespace Journal
variable {j : Journal} {o : Observability} {n level : Nat} {earlier : List (List Line)} {lines : List Line}
  {r : Record Int} {records : List (Record Int)}

def setUpAll (os : List Observability) (j : Journal) : Except Fault Journal := os.foldlM (fun j o => j.setUp o) j

def recordAll (records : List (Record Int)) (j : Journal) : Journal := records.foldl (fun j r => j.record r) j

def Undisturbed (j : Journal) : Prop := ∀ h ∈ j.attached, h.isUsual = true

-- All that is written goes to the last stream, as objects.
structure Open (j : Journal) (level : Nat) (earlier : List (List Line)) (lines : List Line) : Prop where
  level_eq : j.level = level
  attached : j.attached = [⟨Handler.usual, .objects, earlier.length⟩]
  streams : j.streams = earlier ++ [lines]

def reopened (o : Observability) (n : Nat) (j : Journal) : Journal :=
  ⟨n, [⟨Handler.usual, .ofName o.logFormat, j.streams.length⟩], j.streams ++ [[]]⟩

theorem setUp_replaces (undisturbed : j.Undisturbed) (known : Threshold.Names o.logLevel n) :
    j.setUp o = .ok (j.reopened o n) := by
  have removed : (j.attached.filter fun h => !h.isUsual) = [] := by
    refine List.filter_eq_nil_iff.mpr fun h member => ?_
    simp [undisturbed h member]
  unfold setUp
  rw [Threshold.ofName_named known, removed]
  rfl

theorem setUpAll_opens {os : List Observability} (undisturbed : j.Undisturbed)
    (known : ∀ o ∈ os, ∃ n, Threshold.Names o.logLevel n) :
    ∃ k, j.setUpAll os = .ok k ∧ k.Undisturbed ∧ k.streams = j.streams ++ List.replicate os.length [] := by
  induction os generalizing j with
  | nil => exact ⟨j, rfl, undisturbed, (List.append_nil _).symm⟩
  | cons o rest ih =>
    obtain ⟨⟨n, first⟩, later⟩ := List.forall_mem_cons.mp known
    have replaced := setUp_replaces undisturbed first
    have alone : (j.reopened o n).Undisturbed := by simp [Undisturbed, reopened, Handler.isUsual]
    obtain ⟨k, run, still, opened⟩ := ih alone later
    refine ⟨k, ?_, still, ?_⟩
    · unfold setUpAll at run ⊢
      rw [List.foldlM_cons, replaced]
      exact run
    · rw [opened, List.length_cons, List.replicate_succ]
      exact List.append_assoc _ _ _

theorem setUpAll_concat (os : List Observability) (o : Observability) (j : Journal) :
    j.setUpAll (os ++ [o]) = j.setUpAll os >>= fun k => k.setUp o := by
  unfold setUpAll
  rw [List.foldlM_append]
  refine congrArg _ (funext fun k => ?_)
  exact bind_pure (k.setUp o)

theorem streams_modify (earlier : List (List Line)) (lines : List Line) (f : List Line → List Line) :
    (earlier ++ [lines]).modify earlier.length f = earlier ++ [f lines] := by
  induction earlier with
  | nil => rfl
  | cons first rest ih => simpa using ih

theorem record_adds (opened : j.Open level earlier lines) (own : isOwn r.logger = true) {text : String}
    (fills : Template.Fills r.template r.arguments text) :
    (j.record r).Open level earlier
      (lines ++ if (Threshold.effective level : Int) ≤ r.level then [.object (r.object text)] else []) := by
  obtain ⟨rfl, attached, streams⟩ := opened
  have admits : j.admits r.logger r.level = decide ((Threshold.effective j.level : Int) ≤ r.level) := by
    simp [admits, threshold, own]
  by_cases high : (Threshold.effective j.level : Int) ≤ r.level
  · have written : j.record r = { j with streams := earlier ++ [lines ++ [.object (r.object text)]] } := by
      simp [record, admits, high, Template.fill_ok_iff.mpr fills, write, own, attached, streams, Handler.write,
        streams_modify, Layout.write, Record.object?_object]
    rw [written, if_pos high]
    exact ⟨rfl, attached, rfl⟩
  · have dropped : j.record r = j := by
      simp [record, admits, high]
    rw [dropped, if_neg high, List.append_nil]
    exact ⟨rfl, attached, streams⟩

theorem recordAll_adds (opened : j.Open level earlier lines) (own : ∀ r ∈ records, isOwn r.logger = true)
    (fits : ∀ r ∈ records, ∃ text, Template.Fills r.template r.arguments text) :
    ∃ more, (j.recordAll records).Open level earlier (lines ++ more) ∧
      List.Forall₂ Record.Renders (records.filter fun r => (Threshold.effective level : Int) ≤ r.level) more := by
  induction records generalizing j lines with
  | nil =>
    refine ⟨[], ?_, .nil⟩
    rw [List.append_nil]
    exact opened
  | cons r rest ih =>
    obtain ⟨ownFirst, ownRest⟩ := List.forall_mem_cons.mp own
    obtain ⟨⟨text, fills⟩, fitsRest⟩ := List.forall_mem_cons.mp fits
    obtain ⟨more, after, rendered⟩ := ih (record_adds opened ownFirst fills) ownRest fitsRest
    refine ⟨(if (Threshold.effective level : Int) ≤ r.level then [.object (r.object text)] else []) ++ more, ?_, ?_⟩
    · rw [← List.append_assoc]
      exact after
    · by_cases high : (Threshold.effective level : Int) ≤ r.level
      · simpa [high] using ⟨⟨text, fills, rfl⟩, rendered⟩
      · simpa [high] using rendered

-- Any number of set-ups and then any records of the library's own loggers. A last level of zero sets none.
theorem records_written_once {os : List Observability} {last : Observability}
    (known : ∀ o ∈ os, ∃ n, Threshold.Names o.logLevel n) (knownLast : Threshold.Names last.logLevel n)
    (objects : last.logFormat = "json") (own : ∀ r ∈ records, isOwn r.logger = true)
    (fits : ∀ r ∈ records, ∃ text, Template.Fills r.template r.arguments text) :
    ∃ j lines, setUpAll (os ++ [last]) {} = .ok j ∧
      (j.recordAll records).streams = List.replicate os.length [] ++ [lines] ∧
      List.Forall₂ Record.Renders
        (records.filter fun r => ((if n = 0 then Level.warning.number else n : Nat) : Int) ≤ r.level) lines := by
  obtain ⟨k, before, undisturbed, streams⟩ := setUpAll_opens (j := {}) (by simp [Undisturbed]) known
  have replaced := setUp_replaces undisturbed knownLast
  have opened : (k.reopened last n).Open n k.streams [] := by
    unfold reopened
    rw [objects]
    exact ⟨rfl, rfl, rfl⟩
  obtain ⟨lines, after, rendered⟩ := recordAll_adds opened own fits
  refine ⟨k.reopened last n, lines, ?_, ?_, rendered⟩
  · rw [setUpAll_concat, before]
    exact replaced
  · rw [after.streams, streams]
    rfl

theorem records_written_once_restarted :
    let os : List Observability := [{ logLevel := "Debug" }, { logLevel := "fatal", logFormat := "console" }]
    let last : Observability := { logLevel := "nOtSeT" }
    let hidden := (Record.debug "elastore.elastic" "Updated mapping for index %s" [.str "users"]).numbered
    let shown :=
      (Record.warning "elastore.elastic" "Index %s could not find type %s" [.str "users", .str "user"]).numbered
    let notice : Record Int := ⟨25, "elastore.audit", "%d of %d", [.int 2, .int 3], none⟩
    let audit : Record Int := ⟨35, "elastore.audit", "%-6s|%05d|%#x|%.*s|%r|%8.3f|100%%",
      [.str "users", .int (-42), .int 255, .int 2, .str "Grace", .str "it's", .float (.finite 1.5)], none⟩
    let counted : Record Int := ⟨40, "elastore", "%(index)s: %(hits)d hits",
      [.map [(.str "index", .str "users"), (.str "hits", .int 3)]], some (.client "RuntimeError" "down" [])⟩
    let unfounded : Record Int := ⟨-5, "elastore", "100%", [], none⟩
    let records := [hidden, shown, notice, audit, hidden, counted, unfounded]
    (∀ o ∈ os, ∃ n, Threshold.Names o.logLevel n) ∧ Threshold.Names last.logLevel 0 ∧ last.logFormat = "json" ∧
      (∀ r ∈ records, isOwn r.logger = true) ∧
      (∀ r ∈ records, ∃ text, Template.Fills r.template r.arguments text) ∧
      ∃ j, setUpAll (os ++ [last]) {} = .ok j ∧ (j.recordAll records).streams = [[], [], [
        .object (Entries.ofFields [("event", .str "Index users could not find type user"), ("level", .str "warning"),
          ("logger", .str "elastore.elastic")]),
        .object (Entries.ofFields [("event", .str "users |-0042|0xff|Gr|\"it's\"|   1.500|100%"),
          ("level", .str "level 35"),
          ("logger", .str "elastore.audit")]),
        .object (Entries.ofFields [("event", .str "users: 3 hits"), ("level", .str "error"), ("logger", .str "elastore"),
          ("exception", .str "RuntimeError: down")])]] := by
  intro os last hidden shown notice audit counted unfounded records
  have known : ∀ o ∈ os, ∃ n, Threshold.Names o.logLevel n := by
    refine List.forall_mem_cons.mpr ⟨⟨10, by decide⟩, List.forall_mem_singleton.mpr ⟨50, by decide⟩⟩
  have knownLast : Threshold.Names last.logLevel 0 := by decide
  have own : ∀ r ∈ records, isOwn r.logger = true := by decide
  have hiddenText : Template.fill hidden.template hidden.arguments = .ok "Updated mapping for index users" := by decide
  have shownText : Template.fill shown.template shown.arguments = .ok "Index users could not find type user" := by
    decide
  have noticeText : Template.fill notice.template notice.arguments = .ok "2 of 3" := by decide
  have auditText : Template.fill audit.template audit.arguments =
      .ok "users |-0042|0xff|Gr|\"it's\"|   1.500|100%" := by
    decide +kernel
  have countedText : Template.fill counted.template counted.arguments = .ok "users: 3 hits" := by decide +kernel
  have unfoundedText : Template.fill unfounded.template unfounded.arguments = .ok "100%" := by decide +kernel
  have fits : ∀ r ∈ records, ∃ text, Template.Fills r.template r.arguments text := by
    simp only [records, List.forall_mem_cons, ← Template.fill_ok_iff]
    exact ⟨⟨_, hiddenText⟩, ⟨_, shownText⟩, ⟨_, noticeText⟩, ⟨_, auditText⟩, ⟨_, hiddenText⟩, ⟨_, countedText⟩,
      ⟨_, unfoundedText⟩, List.forall_mem_nil _⟩
  obtain ⟨j, lines, run, streams, rendered⟩ := records_written_once known knownLast rfl own fits
  have heard : (records.filter fun r => ((if 0 = 0 then Level.warning.number else 0 : Nat) : Int) ≤ r.level) =
      [shown, audit, counted] := by rfl
  rw [heard] at rendered
  rcases rendered with _ | ⟨first, _ | ⟨second, _ | ⟨third, ⟨⟩⟩⟩⟩
  rw [first.line_eq shownText, second.line_eq auditText, third.line_eq countedText] at streams
  exact ⟨known, knownLast, rfl, own, fits, j, run, streams⟩

end Journal
end SearchStore
