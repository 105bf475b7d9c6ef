import SearchStore.Proofs.Store.Administration
import SearchStore.Proofs.Text.Splitting
namespace SearchStore
open SearchStore.Action Session

namespace Store

-- What the engine tells of an index: columns of text, the name in the third one.
structure Row where
  columns : List String
  wide : 3 ≤ columns.length
  words : ∀ column ∈ columns, Text.IsWord column.toList

namespace Row

def name (row : Row) : String := row.columns.get ⟨2, row.wide⟩

theorem third (row : Row) : row.columns[2]? = some row.name := List.getElem?_eq_getElem row.wide

theorem name_filled (row : Row) : row.name ≠ "" := by
  intro empty
  have isWord := row.words row.name (List.get_mem ..)
  exact isWord.filled (by rw [empty]; rfl)

theorem words_of_all {columns : List String}
    (all : (columns.all fun column => !column.toList.isEmpty && column.toList.all (!Text.isBlank ·)) = true) :
    ∀ column ∈ columns, Text.IsWord column.toList :=
  fun column listed => Text.isWord_iff.mp (List.all_eq_true.mp all column listed)

def FillsLine (row : Row) (line : List Char) : Prop := Text.Spaced (row.columns.map String.toList) line

def FillsMapping (row : Row) (fields : Entries) : Prop := Entries.get? fields "index" = some (.str row.name)

theorem words_toList (row : Row) : ∀ word ∈ row.columns.map String.toList, Text.IsWord word := by
  intro word member
  obtain ⟨column, listed, rfl⟩ := List.mem_map.mp member
  exact row.words column listed

theorem nameInLine_fills {row : Row} {line : List Char} (fills : row.FillsLine line) :
    nameInLine line = some (.str row.name) := by
  have words : Text.words line = row.columns.map String.toList := fills.words row.words_toList
  rw [nameInLine, words, List.getElem?_map, row.third]
  simp

theorem nameInRow_fills {row : Row} {fields : Entries} (fills : row.FillsMapping fields) :
    nameInRow (.map fields) = some (.str row.name) := by
  have named : Entries.get fields "index" = .str row.name := by rw [Entries.get, fills, Option.getD_some]
  rw [nameInRow, named]

end Row

inductive Tells (rows : List Row) : Value → Prop
  | table {lines : List (List Char)} (filled : List.Forall₂ Row.FillsLine rows lines) :
      Tells rows (.str (String.ofList (Text.ended lines)))
  | mappings {mappings : List Entries} (filled : List.Forall₂ Row.FillsMapping rows mappings) :
      Tells rows (.list (mappings.map .map))

def namesTold (rows : List Row) : List Value := rows.map fun row => .str row.name

section Names
variable {rows : List Row}

theorem filterMap_told {β : Type} {fills : Row → β → Prop} (read : β → Option Value)
    (each : ∀ row b, fills row b → read b = some (.str row.name)) {told : List β}
    (filled : List.Forall₂ fills rows told) : told.filterMap read = namesTold rows := by
  induction filled with
  | nil => rfl
  | cons first _ ih =>
    rw [List.filterMap_cons_some (each _ _ first), ih]
    rfl

theorem lines_told {lines : List (List Char)} (filled : List.Forall₂ Row.FillsLine rows lines) :
    Text.lines (Text.ended lines) = lines := by
  refine Text.lines_ended ?_
  induction filled with
  | nil => simp
  | @cons row _ _ _ fills _ ih => exact List.forall_mem_cons.mpr ⟨fills.unbroken row.words_toList, ih⟩

theorem listed_told {reply : Value} (tells : Tells rows reply) : listed reply = .ok (namesTold rows) := by
  cases told : reply.truthy with
  | true =>
    unfold listed
    rw [if_pos told]
    cases tells with
    | table filled =>
      simp only [String.toList_ofList, lines_told filled]
      rw [filterMap_told nameInLine (fun _ _ fills => Row.nameInLine_fills fills) filled]
    | @mappings mappings filled =>
      change Except.ok ((mappings.map Value.map).filterMap nameInRow) = _
      rw [List.filterMap_map,
        filterMap_told (nameInRow ∘ .map) (fun _ _ fills => Row.nameInRow_fills fills) filled]
  | false =>
    have none : namesTold rows = [] := by
      cases tells with
      | table filled =>
        cases filled with
        | nil => rfl
        | cons => simp [Value.truthy, Text.ended] at told
      | mappings filled =>
        cases filled with
        | nil => rfl
        | cons => simp [Value.truthy] at told
    unfold listed
    rw [told, none]
    rfl

theorem indexNames_told {reply : Value} (tells : Tells rows reply) : indexNames reply = .ok (namesTold rows) := by
  have filled : ∀ name ∈ namesTold rows, name.truthy = true := by
    intro name member
    obtain ⟨row, -, rfl⟩ := List.mem_map.mp member
    simp [Value.truthy, row.name_filled]
  rw [indexNames, listed_told tells, Except.map, List.filter_eq_self.mpr filled]

end Names
end Store

namespace Registry

def Retains (before after : Registry) : Prop :=
  ∀ name h, before.handle? name = some h → after.handle? name = some h

theorem Retains.refl (r : Registry) : Retains r r := fun _ _ found => found

theorem Retains.trans {r r' r'' : Registry} (first : Retains r r') (rest : Retains r' r'') : Retains r r'' :=
  fun name h found => rest name h (first name h found)

theorem handle?_made (r : Registry) (name : String) (h : Handle) (other : String) :
    handle? { r with cached := r.cached ++ [(name, h)] } other =
      (r.handle? other).or (if name = other then some h else none) := by
  unfold handle?
  rw [List.find?_append]
  by_cases same : name = other
  · cases r.cached.find? fun entry => entry.1 == other <;> simp [same]
  · cases r.cached.find? fun entry => entry.1 == other <;> simp [same]

theorem retains_made (r : Registry) (name : String) (h : Handle) :
    Retains r { r with cached := r.cached ++ [(name, h)] } := by
  intro other found present
  rw [handle?_made, present, Option.some_or]

end Registry

namespace Store

section Handles
variable {s : Store × Session} {r : Registry}

theorem getIndex_held (found : s.1.registry = some r) {name : String} (full : name ≠ "") :
    ∃ h r' session, getIndex (.str name) s = (.ok (some h), (putRegistry r' s.1, session)) ∧
      r'.handle? (Text.lower name) = some h ∧ r.Retains r' := by
  have named := Registry.nameOf_str full
  obtain ⟨result, r', session, ran, fetched⟩ := Registry.get_fetched s.1.makeHandle (.str name) r s.2
  rw [getIndex_found found]
  unfold onPart
  rw [ran]
  cases fetched with
  | unnamed unnamed =>
    rw [named] at unnamed
    cases unnamed
  | cached named' cached =>
    rw [named] at named'
    cases named'
    exact ⟨_, _, _, rfl, cached, .refl r⟩
  | made named' uncached =>
    rw [named] at named'
    cases named'
    refine ⟨_, _, _, rfl, ?_, Registry.retains_made r _ _⟩
    rw [Registry.handle?_made, uncached, if_pos rfl, Option.none_or]
  | failed _ _ failed => cases failed

-- One handle after the other: every name has in the end the handle that was handed out for it, and whatever
-- comes later leaves it in place. So names that are the same in lower case have the same one.
theorem getIndexes_held (rows : List Row) (found : s.1.registry = some r) : ∃ r' session,
    (namesTold rows).mapM getIndex s =
      (.ok (rows.map fun row => r'.handle? (Text.lower row.name)), (putRegistry r' s.1, session)) ∧
    r.Retains r' ∧ ∀ row ∈ rows, (r'.handle? (Text.lower row.name)).isSome = true := by
  induction rows generalizing s r with
  | nil =>
    have same : putRegistry r s.1 = s.1 := by
      unfold putRegistry
      rw [← found]
    refine ⟨r, s.2, ?_, .refl r, fun row member => nomatch member⟩
    rw [same]
    rfl
  | cons row rest ih =>
    obtain ⟨h, r₁, session₁, got, held, retains⟩ := getIndex_held found row.name_filled
    obtain ⟨r', session, ran, retains', all⟩ := ih (s := (putRegistry r₁ s.1, session₁)) (r := r₁) rfl
    have kept := retains' _ _ held
    refine ⟨r', session, ?_, retains.trans retains', List.forall_mem_cons.mpr ⟨by rw [kept]; rfl, all⟩⟩
    have split : namesTold (row :: rest) = .str row.name :: namesTold rest := rfl
    rw [split, List.mapM_cons, bind_ok got, bind_ok ran, List.map_cons, kept]
    rfl

end Handles

section Listing
variable {s : Store × Session} {client : Client} {rows : List Row} {parameters : Entries} {reply : Value}

def listingAsked (s : Store × Session) (client : Client) (parameters : Entries) (replies : List Reply) :
    Store × Session :=
  answered s client .listIndices (Entries.setDefault parameters "format" (.str "json")) replies

section Told
variable (found : s.1.rawClient = some client) (named : Entries.hasTextKeys parameters = true)
  (tells : Tells rows reply) (rest : List Reply)
include found named tells

theorem listNames_told {α : Type} (next : List Value → Run α) :
    (listNames parameters >>= next) (s.1, s.2.expecting (.returned reply :: rest)) =
      next (namesTold rows) (listingAsked s client parameters (.returned reply :: rest)) := by
  have asked := ask_run s client (.list true named) (.returned reply) rest
  refine (list_program (s := (s.1, s.2.expecting (.returned reply :: rest))) found true parameters next).trans ?_
  refine (bind_ok (rescue_done asked)).trans ?_
  rw [indexNames_told tells]
  rfl

theorem play_names : Turn.play perform ⟨.listIndexes true parameters, .returned reply :: rest⟩ s =
    (.ok (.names (namesTold rows)), listingAsked s client parameters (.returned reply :: rest)) :=
  listNames_told found named tells rest fun names => pure (Outcome.names names)

theorem play_handles_told : Turn.play perform ⟨.listIndexes false parameters, .returned reply :: rest⟩ s =
    ((namesTold rows).mapM getIndex >>= fun handles => pure (Outcome.handles handles) : Run Outcome)
      (listingAsked s client parameters (.returned reply :: rest)) :=
  (congrFun (bind_assoc (listNames parameters) _ _) _).trans
    (listNames_told found named tells rest fun names => names.mapM getIndex >>= fun handles =>
      pure (Outcome.handles handles))

end Told
end Listing

theorem handles_named (start : Store × Session) (none : start.1.handles = []) (turns : List (Turn Command)) :
    ∀ entry ∈ (Turn.after perform turns start).1.handles, entry.2.name = Text.lower entry.1 := by
  intro entry member
  obtain ⟨_, _, _, origin⟩ := handles_made none turns member
  exact origin.named

-- Whatever happened to a store before, as long as there is a client: the names are told alike in both formats,
-- and their handles are asked for one after the other. `held` is what the store has then, by names in lower case.
theorem listing_told_alike (settings : StoreSettings) (given : Option Client) (session : Session)
    (turns : List (Turn Command)) {client : Client}
    (running : (Turn.after perform turns (make settings given, session)).1.rawClient = some client)
    (rows : List Row) {parameters : Entries} (named : Entries.hasTextKeys parameters = true) (rest : List Reply) :
    let s := Turn.after perform turns (make settings given, session)
    ∃ held : String → Option Handle,
      (∀ row ∈ rows, ∃ h, held (Text.lower row.name) = some h ∧ h.name = Text.lower row.name) ∧
      ∀ reply, Tells rows reply →
        let asked := listingAsked s client parameters (.returned reply :: rest)
        let played rawNames := Turn.play perform ⟨.listIndexes rawNames parameters, .returned reply :: rest⟩ s
        played true = (.ok (.names (namesTold rows)), asked) ∧
        played false = ((namesTold rows).mapM getIndex >>= fun handles => pure (.handles handles) : Run Outcome) asked ∧
        (played false).1 = .ok (.handles (rows.map fun row => held (Text.lower row.name))) := by
  intro s
  obtain ⟨r, found⟩ : ∃ r, s.1.registry = some r := by
    obtain ⟨⟨-, _, r, -, listed, -⟩ | down, -⟩ := reached_attached settings given session turns
    · exact ⟨_, listed⟩
    · rw [down.rawClient] at running
      cases running
  -- What becomes of the handles does not depend on the reply, so any reply will do to say what they are.
  let asked := listingAsked s client parameters (.usual :: rest)
  obtain ⟨r', session', ran, -, all⟩ := getIndexes_held (s := asked) rows found
  refine ⟨fun name => r'.handle? name, fun row member => ?_, fun reply tells => ?_⟩
  · obtain ⟨h, held⟩ := Option.isSome_iff_exists.mp (all row member)
    have listed : (Text.lower row.name, h) ∈ (putRegistry r' asked.1).handles := Registry.handle?_mem held
    have steady : Steady asked _ := (Service.mapM Service.handle (namesTold rows)).steady asked
    rw [ran] at steady
    have name : h.name = Text.lower (Text.lower row.name) := by
      rcases steady.handles _ listed with old | new
      · exact handles_named (make settings given, session) rfl turns _ old
      · exact new.named
    exact ⟨h, held, name.trans (Text.lower_lower _)⟩
  · have names := play_names running named tells rest
    have handles := play_handles_told running named tells rest
    refine ⟨names, handles, ?_⟩
    have alike : Along SameCalls asked (listingAsked s client parameters (.returned reply :: rest)) :=
      answered_alike ..
    obtain ⟨same, -⟩ := (Service.mapM Service.handle (namesTold rows)).inStep _ _ alike
    have got := same.eq
    rw [ran] at got
    refine (congrArg Prod.fst (handles.trans (bind_pure_run _ Outcome.handles _))).trans ?_
    rw [← got]
    rfl

def sameInLowerCase : List Row :=
  [⟨["green", "open", "Users"], by decide, Row.words_of_all (by decide)⟩,
    ⟨["yellow", "open", "users", "5"], by decide, Row.words_of_all (by decide)⟩]

theorem listing_told_alike_users :
    let s := Turn.after perform [⟨.run, []⟩] (make { clients := [] } (some .given), {})
    let played rawNames reply := Turn.play perform ⟨.listIndexes rawNames [], [.returned reply]⟩ s
    let table : Value := .str "green open Users\nyellow  open users 5\n"
    let mappings : Value := .list [.record [("index", .str "Users")],
      .record [("health", .str "yellow"), ("index", .str "users")]]
    s.1.rawClient = some .given ∧ Entries.hasTextKeys [] = true ∧ ∃ h : Handle, h.name = "users" ∧
      ∀ reply ∈ [table, mappings], Tells sameInLowerCase reply ∧
        (played true reply).1 = .ok (.names [.str "Users", .str "users"]) ∧
        (played false reply).1 = .ok (.handles [some h, some h]) := by
  intro s played table mappings
  have running : s.1.rawClient = some .given := by decide +kernel
  have named : Entries.hasTextKeys [] = true := rfl
  have lines : Tells sameInLowerCase (.str (String.ofList (Text.ended [_, _]))) :=
    .table (.cons (.next _ 0 (.next _ 0 (.last _)))
      (.cons (.next _ 1 (.next _ 0 (.next _ 0 (.last _)))) .nil))
  have entries : Tells sameInLowerCase (.list (List.map .map [Entries.ofFields [("index", .str "Users")],
      Entries.ofFields [("health", .str "yellow"), ("index", .str "users")]])) := by
    refine .mappings (.cons ?_ (.cons ?_ .nil))
    · exact Eq.refl (some (Value.str "Users"))
    · exact Eq.refl (some (Value.str "users"))
  have told : ∀ reply ∈ [table, mappings], Tells sameInLowerCase reply :=
    List.forall_mem_cons.mpr ⟨lines, List.forall_mem_singleton.mpr entries⟩
  obtain ⟨held, all, alike⟩ :=
    listing_told_alike { clients := [] } (some .given) {} [⟨.run, []⟩] running sameInLowerCase named []
  obtain ⟨h, found, name⟩ := all _ List.mem_cons_self
  have first : Text.lower "Users" = "users" := by decide +kernel
  have second : Text.lower "users" = "users" := by decide +kernel
  change held (Text.lower "Users") = _ at found
  change h.name = Text.lower "Users" at name
  rw [first] at found name
  refine ⟨running, named, h, name, fun reply member => ⟨told reply member, ?_, ?_⟩⟩
  · obtain ⟨names, -⟩ := alike reply (told reply member)
    exact congrArg Prod.fst names
  · obtain ⟨-, -, handles⟩ := alike reply (told reply member)
    refine handles.trans ?_
    change Except.ok (Outcome.handles [held (Text.lower "Users"), held (Text.lower "users")]) = _
    rw [first, second, found]

end Store
end SearchStore
