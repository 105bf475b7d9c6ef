import SearchStore.Proofs.Settings.RoundTrip
namespace SearchStore
open Entries Reading

-- What stands at the end of a path after a configuration, `found` where it was looked for, was written over what
-- was there before. `said` stands for what the configuration gives alone.
def Overridden (found before said after : Option Value) (path : List String) : Prop :=
  reach after path = if settles found path then reach said path else reach before path

namespace Overridden
variable {found before said after : Option Value} {path : List String}

theorem of_unsaid (unsaid : settles found path = false) : Overridden found before said before path := by
  unfold Overridden
  rw [unsaid]
  rfl

theorem of_said (settled : settles found path = true) : Overridden found before said said path := by
  unfold Overridden
  rw [settled]
  rfl

theorem again {twice : Option Value} (once : Overridden found before said after path)
    (second : Overridden found after said twice path) : reach twice path = reach after path := by
  unfold Overridden at once second
  split at second
  · rename_i settled
    rw [if_pos settled] at once
    exact second.trans once.symm
  · exact second

end Overridden

section Fields
variable {α : Type} {read : Value → Verdict α} {dump more both : Entries} {name : String}
  {fallback before said after : α}

theorem accepts_over (laid : get? both name = (get? more name).or (get? dump name))
    (kept : field dump name read fallback = .valid before) : accepts both name read = accepts more name read := by
  unfold accepts
  rw [laid]
  cases get? more name with
  | some v => rfl
  | none =>
    have valid : accepts dump name read = true := by
      rw [← isValid_field dump name read fallback, kept]
      rfl
    exact valid

theorem field_over (laid : get? both name = (get? more name).or (get? dump name))
    (kept : field dump name read fallback = .valid before) (alone : field more name read fallback = .valid said)
    (valid : field both name read fallback = .valid after) :
    after = if (get? more name).isSome then said else before := by
  cases given : get? more name with
  | none =>
    rw [given] at laid
    rw [field_congr laid, kept] at valid
    cases valid
    rfl
  | some v =>
    rw [given] at laid
    rw [field_congr (laid.trans given.symm), alone] at valid
    cases valid
    rfl

theorem leaf_over (shown : α → Value) (laid : get? both name = (get? more name).or (get? dump name))
    (kept : field dump name read fallback = .valid before) (alone : field more name read fallback = .valid said)
    (valid : field both name read fallback = .valid after) :
    Overridden (get? more name) (some (shown before)) (some (shown said)) (some (shown after)) [] := by
  rw [field_over laid kept alone valid]
  cases get? more name with
  | none => exact .of_unsaid rfl
  | some v => exact .of_said (settles_nil _)

end Fields

def ClientOptions.names : List String :=
  ["request_timeout", "dead_timeout", "sniff_on_start", "sniffer_timeout", "maxsize", "verify_certs", "extra"]

def DebugSwitches.names : List String := ["create", "read", "update", "delete"]

-- A section of the settings can be written over setting by setting.
structure Overridable {α : Type} (read : Entries → Verdict α) (dump : α → Entries) (names : List String) : Prop where
  accepts : ∀ {before : α} {more : Entries}, read (dump before) = .valid before → more.Distinct →
    (read (merge (dump before) more)).isValid = (read more).isValid
  overrides : ∀ {before said after : α} {more : Entries}, read (dump before) = .valid before → more.Distinct →
    read more = .valid said → read (merge (dump before) more) = .valid after → ∀ name ∈ names,
      Overridden (get? more name) (get? (dump before) name) (get? (dump said) name) (get? (dump after) name) []

theorem ClientOptions.overridable : Overridable read toEntries names where
  accepts := by
    intro before more kept distinct
    obtain ⟨timeoutKept, deadKept, sniffKept, snifferKept, sizeKept, certsKept, extraKept⟩ := read_valid_iff.mp kept
    have laid (name : String) : get? (merge before.toEntries more) name = _ := get?_merge distinct
    simp only [read, Verdict.isValid_seq, Verdict.isValid_map, isValid_field, accepts_over (laid _) timeoutKept,
      accepts_over (laid _) deadKept, accepts_over (laid _) sniffKept, accepts_over (laid _) snifferKept,
      accepts_over (laid _) sizeKept, accepts_over (laid _) certsKept, accepts_over (laid _) extraKept]
  overrides := by
    intro before said after more kept distinct alone valid name known
    obtain ⟨timeoutKept, deadKept, sniffKept, snifferKept, sizeKept, certsKept, extraKept⟩ := read_valid_iff.mp kept
    obtain ⟨timeoutSaid, deadSaid, sniffSaid, snifferSaid, sizeSaid, certsSaid, extraSaid⟩ := read_valid_iff.mp alone
    obtain ⟨timeoutRead, deadRead, sniffRead, snifferRead, sizeRead, certsRead, extraRead⟩ := read_valid_iff.mp valid
    simp only [names, List.mem_cons, List.not_mem_nil, or_false] at known
    rcases known with rfl | rfl | rfl | rfl | rfl | rfl | rfl
    · exact leaf_over .float (get?_merge distinct) timeoutKept timeoutSaid timeoutRead
    · exact leaf_over .float (get?_merge distinct) deadKept deadSaid deadRead
    · exact leaf_over .bool (get?_merge distinct) sniffKept sniffSaid sniffRead
    · exact leaf_over (·.elim .null .float) (get?_merge distinct) snifferKept snifferSaid snifferRead
    · exact leaf_over .int (get?_merge distinct) sizeKept sizeSaid sizeRead
    · exact leaf_over .bool (get?_merge distinct) certsKept certsSaid certsRead
    · exact leaf_over .map (get?_merge distinct) extraKept extraSaid extraRead

theorem DebugSwitches.overridable : Overridable readFields toEntries names where
  accepts := by
    intro before more kept distinct
    obtain ⟨createKept, readsKept, updateKept, deleteKept⟩ := readFields_valid_iff.mp kept
    have laid (name : String) : get? (merge before.toEntries more) name = _ := get?_merge distinct
    simp only [readFields, Verdict.isValid_seq, Verdict.isValid_map, isValid_field, accepts_over (laid _) createKept,
      accepts_over (laid _) readsKept, accepts_over (laid _) updateKept, accepts_over (laid _) deleteKept]
  overrides := by
    intro before said after more kept distinct alone valid name known
    obtain ⟨createKept, readsKept, updateKept, deleteKept⟩ := readFields_valid_iff.mp kept
    obtain ⟨createSaid, readsSaid, updateSaid, deleteSaid⟩ := readFields_valid_iff.mp alone
    obtain ⟨createRead, readsRead, updateRead, deleteRead⟩ := readFields_valid_iff.mp valid
    simp only [names, List.mem_cons, List.not_mem_nil, or_false] at known
    rcases known with rfl | rfl | rfl | rfl
    · exact leaf_over .bool (get?_merge distinct) createKept createSaid createRead
    · exact leaf_over .bool (get?_merge distinct) readsKept readsSaid readsRead
    · exact leaf_over .bool (get?_merge distinct) updateKept updateSaid updateRead
    · exact leaf_over .bool (get?_merge distinct) deleteKept deleteSaid deleteRead

namespace StoreSettings
variable {entries c : Entries} {name : String}

def completed (key : Value) (before : Option Value) (new : Value) : Value :=
  match isSection key, before, new with
  | true, some (.map before), .map more => .map (merge before more)
  | _, _, new => new

theorem override_eq (entries : Entries) (entry : Value × Value) :
    override entries entry = put entries entry.1 (completed entry.1 (value? entries entry.1) entry.2) := by
  obtain ⟨key, new⟩ := entry
  unfold override completed
  dsimp only
  cases isSection key with
  | false => rfl
  | true =>
    cases value? entries key with
    | none => rfl
    | some before => cases before <;> cases new <;> rfl

theorem get?_overridden (distinct : c.Distinct) : get? (c.foldl override entries) name =
    match get? c name with
    | some new => some (completed (.str name) (get? entries name) new)
    | none => get? entries name := by
  have writes : override = fun entries entry =>
      put entries entry.1 (completed entry.1 (value? entries entry.1) entry.2) :=
    funext₂ override_eq
  rw [writes]
  exact get?_foldl_put completed distinct

theorem laid_plain (distinct : c.Distinct) (plain : isSection (.str name) = false) :
    get? (c.foldl override entries) name = (get? c name).or (get? entries name) := by
  rw [get?_overridden distinct]
  cases get? c name with
  | none => rfl
  | some new =>
    unfold completed
    rw [plain]
    rfl

section Parts
variable {α : Type} {read : Entries → Verdict α} {dump : α → Entries} {names : List String} {whole : Value → Verdict α}
  {dumped both : Entries} {fallback before said after : α}

inductive Laid (dump : Entries) : Option Value → Option Value → Prop
  | unsaid : Laid dump none (some (.map dump))
  | mapping (more : Entries) : Laid dump (some (.map more)) (some (.map (merge dump more)))
  | other {new : Value} (other : new.isMapping = false) : Laid dump (some new) (some new)

theorem laid_part (distinct : c.Distinct) (part : isSection (.str name) = true)
    (found : get? entries name = some (.map dumped)) :
    Laid dumped (get? c name) (get? (c.foldl override entries) name) := by
  rw [get?_overridden distinct, found]
  cases get? c name with
  | none => exact .unsaid
  | some new =>
    unfold completed
    rw [part]
    cases new with
    | map more => exact .mapping more
    | _ => exact .other rfl

theorem accepts_part (parts : Overridable read dump names) (maps : ∀ fields, whole (.map fields) = read fields)
    (keyed : Value.Keyed (.map c)) (part : isSection (.str name) = true)
    (found : get? entries name = some (.map (dump before))) (kept : read (dump before) = .valid before) :
    accepts (c.foldl override entries) name whole = accepts c name whole := by
  have laid := laid_part keyed.distinct part found
  unfold accepts
  generalize given : get? c name = above, get? (c.foldl override entries) name = result at laid
  cases laid with
  | unsaid => rw [Option.all_some, maps, kept]; rfl
  | mapping more =>
    rw [Option.all_some, Option.all_some, maps, maps]
    exact parts.accepts kept (keyed_get? keyed name _ given).distinct
  | other other => rfl

theorem part_over (parts : Overridable read dump names) (maps : ∀ fields, whole (.map fields) = read fields)
    (keyed : Value.Keyed (.map c)) (part : isSection (.str name) = true)
    (found : get? entries name = some (.map (dump before))) (kept : read (dump before) = .valid before)
    (alone : field c name whole fallback = .valid said)
    (valid : field (c.foldl override entries) name whole fallback = .valid after) : ∀ inner ∈ names,
      Overridden (get? c name) (some (.map (dump before))) (some (.map (dump said))) (some (.map (dump after)))
        [inner] := by
  have laid := laid_part keyed.distinct part found
  generalize given : get? c name = above, result : get? (c.foldl override entries) name = both at laid
  intro inner known
  cases laid with
  | unsaid =>
    have again : read (dump before) = .valid after := maps _ ▸ (field_given result).mp valid
    rw [kept] at again
    cases again
    exact .of_unsaid rfl
  | mapping more =>
    have alone : read more = .valid said := maps _ ▸ (field_given given).mp alone
    have valid : read (merge (dump before) more) = .valid after := maps _ ▸ (field_given result).mp valid
    exact parts.overrides kept (keyed_get? keyed name _ given).distinct alone valid inner known
  | @other new other =>
    have same := (field_given given).mp alone
    rw [(field_given result).mp valid] at same
    cases same
    refine .of_said ?_
    cases new with
    | map fields => cases other
    | _ => rfl

end Parts

-- Where the settings stand that can be set one by one.
inductive Setting : List String → Prop
  | whole {name : String} (known : name ∈ ["clients", "username", "password", "headers", "index_cache_ttl", "doc_types",
      "logger"]) : Setting [name]
  | option {name : String} (known : name ∈ ClientOptions.names) : Setting ["options", name]
  | switch {name : String} (known : name ∈ DebugSwitches.names) : Setting ["debug", name]

def dump (s : StoreSettings) : Option Value := some (.map s.toEntries)

theorem optional_injective {α : Type} {shown : α → Value} (apart : Function.Injective shown)
    (present : ∀ a, shown a ≠ .null) : Function.Injective fun found : Option α => found.elim .null shown := by
  intro a b same
  cases a with
  | none =>
    cases b with
    | none => rfl
    | some b => exact absurd same.symm (present b)
  | some a =>
    cases b with
    | none => exact absurd same (present a)
    | some b => exact congrArg some (apart same)

theorem texts_injective : Function.Injective optionalText :=
  optional_injective (fun _ _ => Value.str.inj) fun _ absent => Value.noConfusion absent

theorem nodes_injective : Function.Injective fun nodes : List Node => Value.list (nodes.map Node.toValue) := by
  have node : Function.Injective Node.toValue := by
    rintro (_ | _) (_ | _) ⟨⟩
    · rfl
    · rfl
  exact fun _ _ same => List.map_injective_iff.mpr node (Value.list.inj same)

theorem headers_injective :
    Function.Injective fun headers : List (String × String) => ofFields (headers.map fun h => (h.1, .str h.2)) := by
  unfold ofFields
  simp only [List.map_map]
  refine List.map_injective_iff.mpr ?_
  rintro ⟨_, _⟩ ⟨_, _⟩ ⟨⟩
  rfl

theorem leaf_inj {v w : Value} (same : reach (some v) [] = reach (some w) []) : v = w := by
  rw [reach_nil, reach_nil] at same
  exact Option.some.inj same

theorem eq_of_settings {a b : StoreSettings} (same : ∀ path, Setting path → reach a.dump path = reach b.dump path) :
    a = b := by
  obtain ⟨clients, username, password, headers, ⟨timeout, dead, sniff, sniffer, size, certs, extra⟩,
    ⟨create, reads, update, delete⟩, ttl, types, logger⟩ := a
  obtain ⟨clients', username', password', headers', ⟨timeout', dead', sniff', sniffer', size', certs', extra'⟩,
    ⟨create', reads', update', delete'⟩, ttl', types', logger'⟩ := b
  cases same ["options", "request_timeout"] (.option (by decide))
  cases same ["options", "dead_timeout"] (.option (by decide))
  cases same ["options", "sniff_on_start"] (.option (by decide))
  cases same ["options", "maxsize"] (.option (by decide))
  cases same ["options", "verify_certs"] (.option (by decide))
  cases same ["options", "extra"] (.option (by decide))
  cases same ["debug", "create"] (.switch (by decide))
  cases same ["debug", "read"] (.switch (by decide))
  cases same ["debug", "update"] (.switch (by decide))
  cases same ["debug", "delete"] (.switch (by decide))
  cases same ["index_cache_ttl"] (.whole (by decide))
  cases same ["doc_types"] (.whole (by decide))
  cases same ["logger"] (.whole (by decide))
  have sameClients : clients = clients' := nodes_injective (leaf_inj (same ["clients"] (.whole (by decide))))
  have sameUsername : username = username' := texts_injective (leaf_inj (same ["username"] (.whole (by decide))))
  have samePassword : password = password' := texts_injective (leaf_inj (same ["password"] (.whole (by decide))))
  have sameHeaders : headers = headers' :=
    headers_injective (Value.map.inj (leaf_inj (same ["headers"] (.whole (by decide)))))
  have sameSniffer : sniffer = sniffer' := by
    refine optional_injective (fun _ _ => Value.float.inj) (by simp) (leaf_inj ?_)
    exact same ["options", "sniffer_timeout"] (.option (by decide))
  rw [sameClients, sameUsername, samePassword, sameHeaders, sameSniffer]

variable {before said after : StoreSettings}

theorem options_kept (kept : readFields before.toEntries = .valid before) :
    ClientOptions.read before.options.toEntries = .valid before.options := by
  obtain ⟨-, -, -, -, options, -⟩ := readFields_valid_iff.mp kept
  have found : get? before.toEntries "options" = some (.map before.options.toEntries) := rfl
  exact (field_given found).mp options

theorem isValid_overridden (keyed : Value.Keyed (.map c)) (kept : readFields before.toEntries = .valid before) :
    (readFields (c.foldl override before.toEntries)).isValid = (readFields c).isValid := by
  obtain ⟨clientsKept, usernameKept, passwordKept, headersKept, optionsKept, debugKept, ttlKept, typesKept,
    loggerKept⟩ := readFields_valid_iff.mp kept
  have options : accepts (c.foldl override before.toEntries) "options" (part ClientOptions.read) = _ :=
    accepts_part ClientOptions.overridable (fun _ => rfl) keyed rfl rfl (options_kept kept)
  have switches : accepts (c.foldl override before.toEntries) "debug" DebugSwitches.ofValue = _ :=
    accepts_part DebugSwitches.overridable (fun _ => rfl) keyed rfl rfl (DebugSwitches.readFields_toEntries before.debug)
  simp only [readFields, Verdict.isValid_seq, Verdict.isValid_map, isValid_field,
    accepts_over (laid_plain keyed.distinct rfl) clientsKept, accepts_over (laid_plain keyed.distinct rfl) usernameKept,
    accepts_over (laid_plain keyed.distinct rfl) passwordKept, accepts_over (laid_plain keyed.distinct rfl) headersKept,
    options, switches,
    accepts_over (laid_plain keyed.distinct rfl) ttlKept, accepts_over (laid_plain keyed.distinct rfl) typesKept,
    accepts_over (laid_plain keyed.distinct rfl) loggerKept]

theorem overrides (keyed : Value.Keyed (.map c)) (kept : readFields before.toEntries = .valid before)
    (alone : readFields c = .valid said) (valid : readFields (c.foldl override before.toEntries) = .valid after) :
    ∀ path, Setting path → Overridden (some (.map c)) before.dump said.dump after.dump path := by
  obtain ⟨clientsKept, usernameKept, passwordKept, headersKept, optionsKept, debugKept, ttlKept, typesKept,
    loggerKept⟩ := readFields_valid_iff.mp kept
  obtain ⟨clientsSaid, usernameSaid, passwordSaid, headersSaid, optionsSaid, debugSaid, ttlSaid, typesSaid,
    loggerSaid⟩ := readFields_valid_iff.mp alone
  obtain ⟨clientsRead, usernameRead, passwordRead, headersRead, optionsRead, debugRead, ttlRead, typesRead,
    loggerRead⟩ := readFields_valid_iff.mp valid
  intro path setting
  cases setting with
  | whole known =>
    simp only [List.mem_cons, List.not_mem_nil, or_false] at known
    rcases known with rfl | rfl | rfl | rfl | rfl | rfl | rfl
    · exact leaf_over (fun nodes => .list (nodes.map Node.toValue)) (laid_plain keyed.distinct rfl)
        clientsKept clientsSaid clientsRead
    · exact leaf_over optionalText (laid_plain keyed.distinct rfl) usernameKept usernameSaid usernameRead
    · exact leaf_over optionalText (laid_plain keyed.distinct rfl) passwordKept passwordSaid passwordRead
    · exact leaf_over (fun headers => .map (ofFields (headers.map fun h => (h.1, .str h.2))))
        (laid_plain keyed.distinct rfl) headersKept headersSaid headersRead
    · exact leaf_over .float (laid_plain keyed.distinct rfl) ttlKept ttlSaid ttlRead
    · exact leaf_over .bool (laid_plain keyed.distinct rfl) typesKept typesSaid typesRead
    · exact leaf_over .str (laid_plain keyed.distinct rfl) loggerKept loggerSaid loggerRead
  | option known =>
    exact part_over ClientOptions.overridable (fun _ => rfl) keyed rfl rfl (options_kept kept) optionsSaid
      optionsRead _ known
  | switch known =>
    have switches := DebugSwitches.readFields_toEntries before.debug
    exact part_over DebugSwitches.overridable (fun _ => rfl) keyed rfl rfl switches debugSaid debugRead _ known

theorem configure_eq (kept : readFields before.toEntries = .valid before) :
    configure before (.map c) = (readFields (c.foldl override before.toEntries)).result := by
  cases c with
  | nil =>
    rw [List.foldl_nil, kept]
    rfl
  | cons entry rest => rfl

theorem switches_together {b : Bool} (distinct : c.Distinct) (given : get? c "debug" = some (.bool b))
    (valid : readFields (c.foldl override before.toEntries) = .valid after) : after.debug = ⟨b, b, b, b⟩ := by
  obtain ⟨-, -, -, -, -, debug, -⟩ := readFields_valid_iff.mp valid
  have dumped : get? before.toEntries "debug" = some (.map before.debug.toEntries) := rfl
  have laid := laid_part distinct rfl dumped
  rw [given] at laid
  generalize result : get? (c.foldl override before.toEntries) "debug" = both at laid
  cases laid with
  | other =>
    have read : DebugSwitches.ofValue (.bool b) = .valid after.debug := (field_given result).mp debug
    exact (Verdict.valid.inj read).symm

end StoreSettings

end SearchStore
