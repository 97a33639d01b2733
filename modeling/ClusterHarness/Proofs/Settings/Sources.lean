import ClusterHarness.Proofs.Settings.Layers

/-! # What documents and variables say about the times

A document gives the times that stand as integers in the tables of their sections, whatever else it holds
apart from them. The environment gives those whose variables hold numerals. Each of the two becomes a
layer that says just that.
-/

namespace ClusterHarness.Settings

/-! ## Documents -/

/-- Whether an item stands at the place of a time in a document. Names are taken in any case. -/
def Time.StandsAs (x : Time) (item : Toml.Item) (document : Toml.Entries) : Prop :=
  ∃ table kind entries name, (table, .table kind entries) ∈ document ∧ Text.lower table = x.table ∧
    (name, item) ∈ entries ∧ Text.lower name = x.name

/-- What a document gives: the times that its tables set to integers which a layer can hold. All other keys
of the root are apart from the times. -/
structure Gives (document : Toml.Entries) (given : Time → Option Nat) : Prop where
  given : ∀ (x : Time) (n : Nat), given x = some n ↔ x.StandsAs (.integer n) document
  integers : ∀ (x : Time) item, x.StandsAs item document → ∃ n : Nat, n ≤ Text.maxI64 ∧ item = .integer n
  tables : ∀ (x : Time) key item, (key, item) ∈ document → Text.lower key = x.table →
    ∃ kind entries, item = .table kind entries ∧ entries.head?.map Prod.fst ≠ some Toml.dateKey
  apart : ∀ key item, (key, item) ∈ document → (∀ x : Time, Text.lower key ≠ x.table) →
    ∀ x : Time, x.IsApart (keyPath key)

variable {origin : Option String} {document items : Toml.Entries} {given : Time → Option Nat}
  {entries : List (String × Setting)} {layer : Layer}

theorem ofEntries?_cons {key : String} {item : Toml.Item}
    (h : ofEntries? origin ((key, item) :: items) = some entries) :
    ∃ s rest, ofItem? origin item = some s ∧ ofEntries? origin items = some rest ∧
      entries = (key, s) :: rest := by
  rw [ofEntries?] at h
  obtain ⟨s, first, h⟩ := Option.bind_eq_some_iff.mp h
  obtain ⟨rest, later, ⟨⟩⟩ := Option.bind_eq_some_iff.mp h
  exact ⟨s, rest, first, later, rfl⟩

theorem of_mem_ofEntries? (h : ofEntries? origin items = some entries) {key : String} {s : Setting}
    (there : (key, s) ∈ entries) : ∃ item, (key, item) ∈ items ∧ ofItem? origin item = some s := by
  induction items generalizing entries with
  | nil =>
      rw [ofEntries?] at h
      cases h
      cases there
  | cons item rest ih =>
      obtain ⟨v, more, first, later, rfl⟩ := ofEntries?_cons h
      rcases List.mem_cons.mp there with here | there
      · cases here
        exact ⟨item.2, List.mem_cons_self, first⟩
      · obtain ⟨other, inside, becomes⟩ := ih later there
        exact ⟨other, List.mem_cons_of_mem _ inside, becomes⟩

theorem mem_ofEntries? (h : ofEntries? origin items = some entries) {key : String} {item : Toml.Item}
    (there : (key, item) ∈ items) : ∃ s, (key, s) ∈ entries ∧ ofItem? origin item = some s := by
  induction items generalizing entries with
  | nil => cases there
  | cons first rest ih =>
      obtain ⟨v, more, becomes, later, rfl⟩ := ofEntries?_cons h
      rcases List.mem_cons.mp there with here | there
      · cases here
        exact ⟨v, List.mem_cons_self, becomes⟩
      · obtain ⟨s, inside, becomes⟩ := ih later there
        exact ⟨s, List.mem_cons_of_mem _ inside, becomes⟩

/-- A table that does not begin like a date is a table as a setting, too. -/
theorem ofTable?_eq (plain : items.head?.map Prod.fst ≠ some Toml.dateKey) :
    ofTable? origin items = (ofEntries? origin items).map (.table origin) := by
  cases items with
  | nil => rfl
  | cons item rest =>
      obtain ⟨key, item⟩ := item
      have other : key ≠ Toml.dateKey := fun same => plain (congrArg some same)
      unfold ofTable?
      rw [if_neg other, ofEntries?]
      cases ofItem? origin item with
      | none => rfl
      | some s =>
          cases ofEntries? origin rest with
          | none => rfl
          | some entries => rfl

/-- What begins like a date is no table. -/
theorem ofTable?_date {rest : Toml.Entries} {item : Toml.Item} {s : Setting}
    (h : ofTable? origin ((Toml.dateKey, item) :: rest) = some s) : ∃ v, s = .scalar origin v := by
  unfold ofTable? at h
  rw [if_pos rfl] at h
  split at h
  · obtain ⟨date, -, rfl⟩ := Option.map_eq_some_iff.mp h
    exact ⟨.text date, rfl⟩
  · cases h

/-- A layer that is read from a document has the entries of its root. -/
theorem ofDocument_eq_ok {text : String} (h : ofDocument origin text = .ok layer) :
    ∃ document, Toml.document? text = some document ∧ ofEntries? origin document = some layer := by
  unfold ofDocument at h
  split at h
  · rename_i place entries read
    cases h
    obtain ⟨document, parsed, table⟩ := Option.bind_eq_some_iff.mp read
    refine ⟨document, parsed, ?_⟩
    have plain : document.head?.map Prod.fst ≠ some Toml.dateKey := by
      intro date
      cases document with
      | nil => cases date
      | cons entry rest =>
          obtain ⟨key, item⟩ := entry
          obtain rfl : key = Toml.dateKey := Option.some.inj date
          obtain ⟨v, scalar⟩ := ofTable?_date table
          cases scalar
    rw [ofTable?_eq plain] at table
    obtain ⟨entries', become, ⟨⟩⟩ := Option.map_eq_some_iff.mp table
    exact become
  · cases h

/-- The layer of a document says what the document gives. -/
theorem tells_of_gives (gives : Gives document given) (become : ofEntries? origin document = some layer) :
    layer.Tells given := by
  have agrees {x : Time} {table : String} {kind : Toml.TableKind} {items : Toml.Entries}
      {entries : List (String × Setting)} (there : (table, .table kind items) ∈ document)
      (here : Text.lower table = x.table) (inner : ofEntries? origin items = some entries) :
      Layer.Agrees given x entries := by
    intro name s inside same
    obtain ⟨item, written, value⟩ := of_mem_ofEntries? inner inside
    have stands : x.StandsAs item document := ⟨table, kind, items, name, there, here, written, same⟩
    obtain ⟨n, -, rfl⟩ := gives.integers x item stands
    rw [ofItem?] at value
    cases value
    exact ⟨origin, n, rfl, (gives.given x n).mpr stands⟩
  apply Layer.tells_of_tables
  · intro key s there
    obtain ⟨item, written, value⟩ := of_mem_ofEntries? become there
    by_cases own : ∃ x : Time, Text.lower key = x.table
    · right
      obtain ⟨x, here⟩ := own
      refine ⟨keyPath_of_lower here, ?_⟩
      obtain ⟨kind, items, rfl, plain⟩ := gives.tables x key item written here
      rw [ofItem?, ofTable?_eq plain] at value
      obtain ⟨entries, inner, rfl⟩ := Option.map_eq_some_iff.mp value
      exact ⟨origin, entries, rfl, fun y here => agrees written here inner⟩
    · left
      exact gives.apart key item written fun x here => own ⟨x, here⟩
  · intro x n expected
    obtain ⟨table, kind, items, name, written, here, inside, same⟩ := (gives.given x n).mp expected
    obtain ⟨s, there, value⟩ := mem_ofEntries? become written
    obtain ⟨_, _, ⟨⟩, plain⟩ := gives.tables x table _ written here
    rw [ofItem?, ofTable?_eq plain] at value
    obtain ⟨entries, inner, rfl⟩ := Option.map_eq_some_iff.mp value
    obtain ⟨v, there', -⟩ := mem_ofEntries? inner inside
    exact ⟨table, origin, entries, name, v, there, here, there', same⟩

theorem gives_nothing : Gives [] fun _ => none where
  given := by
    intro x n
    constructor
    · intro missing
      cases missing
    · rintro ⟨table, kind, entries, name, there, -⟩
      cases there
  integers := by
    rintro x item ⟨table, kind, entries, name, there, -⟩
    cases there
  tables := by
    intro x key item there
    cases there
  apart := by
    intro key item there
    cases there

/-- A document with the table of one time. -/
theorem gives_one (x : Time) {n : Nat} (fits : n ≤ Text.maxI64) (kind : Toml.TableKind) :
    Gives [(x.table, .table kind [(x.name, .integer n)])] fun y => if y = x then some n else none := by
  have stands {y : Time} {item : Toml.Item}
      (h : y.StandsAs item [(x.table, .table kind [(x.name, .integer n)])]) :
      y = x ∧ item = .integer n := by
    obtain ⟨table, kind, entries, name, there, here, inside, same⟩ := h
    cases List.mem_singleton.mp there
    cases List.mem_singleton.mp inside
    rw [Time.lower_table] at here
    rw [Time.lower_name] at same
    exact ⟨Time.place_injective here.symm same.symm, rfl⟩
  refine ⟨?_, ?_, ?_, ?_⟩
  · intro y m
    constructor
    · intro expected
      split at expected
      · rename_i own
        cases expected
        subst own
        exact ⟨_, _, _, _, List.mem_singleton_self _, y.lower_table, List.mem_singleton_self _,
          y.lower_name⟩
      · cases expected
    · intro h
      obtain ⟨rfl, same⟩ := stands h
      cases same
      exact if_pos rfl
  · intro y item h
    exact ⟨n, fits, (stands h).2⟩
  · intro y key item there _
    cases List.mem_singleton.mp there
    have name : x.name ≠ Toml.dateKey := by cases x <;> decide
    exact ⟨kind, _, rfl, fun date => name (Option.some.inj date)⟩
  · intro key item there apart
    cases List.mem_singleton.mp there
    exact absurd x.lower_table (apart x)

/-! ## Files -/

/-- The text of the file that a name leads to, with or without an extension added to it. -/
def fileText? (files : Files) (name : String) : Option String :=
  (files.text? name).or ((withExtension? name).bind files.text?)

theorem ofFile_eq_ok {files : Files} {folder name : String} (h : ofFile files folder name = .ok layer) :
    ∃ text origin, fileText? files name = some text ∧ ofDocument origin text = .ok layer := by
  unfold ofFile at h
  split at h
  · rename_i text there
    split at h
    · exact ⟨text, _, by rw [fileText?, there]; rfl, h⟩
    · cases h
  · rename_i missing
    split at h
    · rename_i path text found
      obtain ⟨longer, extended, found⟩ := Option.bind_eq_some_iff.mp found
      obtain ⟨text', there, ⟨⟩⟩ := Option.map_eq_some_iff.mp found
      refine ⟨text, _, ?_, h⟩
      rw [fileText?, missing, extended]
      exact there
    · cases h

/-- Whether a file is read, and its document gives the numbers. -/
def Surroundings.Offers (around : Surroundings) (path : String) (given : Time → Option Nat) : Prop :=
  ∃ layer text document, ofFile around.files around.folder path = .ok layer ∧
    fileText? around.files path = some text ∧ Toml.document? text = some document ∧ Gives document given

theorem Surroundings.Offers.tells {around : Surroundings} {path : String}
    (offers : around.Offers path given) :
    ∃ layer, ofFile around.files around.folder path = .ok layer ∧ layer.Tells given := by
  obtain ⟨layer, text, document, read, found, parsed, gives⟩ := offers
  obtain ⟨text', origin, found', fromText⟩ := ofFile_eq_ok read
  obtain rfl : text = text' := Option.some.inj (found.symm.trans found')
  obtain ⟨document', parsed', become⟩ := ofDocument_eq_ok fromText
  obtain rfl : document = document' := Option.some.inj (parsed.symm.trans parsed')
  exact ⟨layer, read, tells_of_gives gives become⟩

/-- A document under its own name, with the extension of a document. -/
theorem Surroundings.offers_document {around : Surroundings} {path text : String}
    (there : around.files.text? path = some text) (format : extension? path = some "toml")
    (parsed : Toml.document? text = some document)
    (plain : document.head?.map Prod.fst ≠ some Toml.dateKey)
    (become : ofEntries? (some (originText path)) document = some layer) (gives : Gives document given) :
    around.Offers path given := by
  refine ⟨layer, text, document, ?_, ?_, parsed, gives⟩
  · simp only [ofFile, there, if_pos format, ofDocument, parsed, Option.bind_some, ofTable?_eq plain,
      become, Option.map_some]
  · rw [fileText?, there]
    rfl

/-! ## The environment -/

/-- The environment variable of a time. -/
def Time.variableName : Time → String
  | .startup => "DUCKTEST__CLUSTER__STARTUP_TIMEOUT_IN_MS"
  | .shutdown => "DUCKTEST__CLUSTER__SHUTDOWN_TIMEOUT_IN_MS"
  | .awaitStopped => "DUCKTEST__APPLICATION__AWAIT_STOPPED_TIMEOUT_IN_MS"
  | .check => "DUCKTEST__TOPOLOGY__CHECK_TIMEOUT_IN_MS"
  | .poll => "DUCKTEST__TOPOLOGY__POLL_INTERVAL_IN_MS"

/-- Whether a variable is that of a time. Its name is taken in any case. -/
def Time.IsVariable (x : Time) (name : String) : Prop := Text.lower name = Text.lower x.variableName

/-- What variables give: the times whose variables are not empty. Those have to hold numerals of numbers
that a layer can hold. All other variables are empty, no settings or apart from the times. -/
structure Provides (environment : List (String × String)) (given : Time → Option Nat) : Prop where
  given : ∀ (x : Time) n, given x = some n ↔
    ∃ name text, (name, text) ∈ environment ∧ x.IsVariable name ∧ Text.Spells text n
  numerals : ∀ (x : Time) name text, (name, text) ∈ environment → x.IsVariable name →
    text = "" ∨ ∃ n, n ≤ Text.maxI64 ∧ Text.Spells text n
  apart : ∀ name text, (name, text) ∈ environment → (∀ x : Time, ¬x.IsVariable name) →
    text = "" ∨ ∀ key, variableKey? name = some key → ∀ x : Time, x.IsApart (keyPath key)

theorem Time.variableKey? {x : Time} {name : String} (own : x.IsVariable name) :
    Settings.variableKey? name = some (x.table ++ "." ++ x.name) := by
  rw [Settings.variableKey?, own]
  cases x <;> decide +kernel

theorem Time.keyPath_dotted (x : Time) :
    keyPath (x.table ++ "." ++ x.name) = [.name x.table, .name x.name] := by
  cases x <;> decide +kernel

/-- A numeral stands for its number. -/
theorem variableValue_of_spells {text : String} {n : Nat} (spells : Text.Spells text n)
    (fits : n ≤ Text.maxI64) : variableValue text = .integer n := by
  have front : ∃ c rest, text.toList = c :: rest ∧ Text.IsCaseless c ∧ c ≠ 't' ∧ c ≠ 'f' := by
    obtain ⟨digits, front, some, all, -⟩ := spells
    rcases front with front | front
    · obtain ⟨c, rest, rfl⟩ := List.exists_cons_of_ne_nil some
      have digit := all c List.mem_cons_self
      exact ⟨c, rest, front, Text.isCaseless_of_isDigit digit, Text.ne_of_isDigit digit (by decide),
        Text.ne_of_isDigit digit (by decide)⟩
    · exact ⟨'+', digits, front, ⟨by decide, by decide, by decide⟩, by decide, by decide⟩
  obtain ⟨c, rest, front, caseless, t, f⟩ := front
  have head := Text.head?_lower caseless front
  have yes : Text.lower text ≠ "true" := by
    intro same
    rw [same] at head
    exact t (Option.some.inj head).symm
  have no : Text.lower text ≠ "false" := by
    intro same
    rw [same] at head
    exact f (Option.some.inj head).symm
  simp only [variableValue, if_neg yes, if_neg no, Text.readInt_of_spells spells fits]

variable {environment : List (String × String)}

theorem mem_ofEnvironment {key : String} {s : Setting} : (key, s) ∈ ofEnvironment environment ↔
    ∃ name text, (name, text) ∈ environment ∧ text ≠ "" ∧ variableKey? name = some key ∧
      s = .scalar (some environmentOrigin) (variableValue text) := by
  rw [ofEnvironment, List.mem_filterMap]
  constructor
  · rintro ⟨⟨name, text⟩, there, becomes⟩
    dsimp only at becomes
    split at becomes
    · cases becomes
    · rename_i some
      obtain ⟨key, known, ⟨⟩⟩ := Option.map_eq_some_iff.mp becomes
      exact ⟨name, text, there, by simpa using some, known, rfl⟩
  · rintro ⟨name, text, there, some, known, rfl⟩
    refine ⟨(name, text), there, ?_⟩
    dsimp only
    rw [if_neg (by simpa using some), known]
    rfl

/-- What the layer of the environment has from the variable of a time. -/
theorem entry_of_isVariable (provides : Provides environment given) {x : Time} {name text key : String}
    (there : (name, text) ∈ environment) (own : x.IsVariable name) (some : text ≠ "")
    (known : variableKey? name = Option.some key) : ∃ n : Nat, given x = Option.some n ∧
      variableValue text = .integer n ∧ keyPath key = [.name x.table, .name x.name] := by
  obtain ⟨n, fits, spells⟩ := (provides.numerals x name text there own).resolve_left some
  rw [Time.variableKey? own] at known
  cases known
  exact ⟨n, (provides.given x n).mpr ⟨name, text, there, own, spells⟩,
    variableValue_of_spells spells fits, x.keyPath_dotted⟩

/-- The layer of the environment says what its variables give. -/
theorem tells_of_provides (provides : Provides environment given) :
    (ofEnvironment environment).Tells given := by
  apply Layer.tells_of_agree
  · rintro ⟨key, s⟩ inside
    obtain ⟨name, text, there, some, known, rfl⟩ := mem_ofEnvironment.mp inside
    by_cases own : ∃ x : Time, x.IsVariable name
    · obtain ⟨x, own⟩ := own
      obtain ⟨n, -, value, path⟩ := entry_of_isVariable provides there own some known
      rw [value]
      exact .dotted path
    · have apart := provides.apart name text there fun x own' => own ⟨x, own'⟩
      exact .apart (apart.resolve_left some key known)
  · intro x n
    constructor
    · intro expected
      obtain ⟨name, text, there, own, spells⟩ := (provides.given x n).mp expected
      have known := Time.variableKey? own
      obtain ⟨m, expected', value, path⟩ :=
        entry_of_isVariable provides there own spells.ne_empty known
      obtain rfl : n = m := Option.some.inj (expected.symm.trans expected')
      refine ⟨_, mem_ofEnvironment.mpr ⟨name, text, there, spells.ne_empty, known, rfl⟩, ?_⟩
      rw [value]
      simp only [saidBy, path, Time.lower_table, Time.lower_name, and_self, if_true]
      rfl
    · rintro ⟨⟨key, s⟩, inside, tells⟩
      obtain ⟨name, text, there, some, known, rfl⟩ := mem_ofEnvironment.mp inside
      by_cases own : ∃ y : Time, y.IsVariable name
      · obtain ⟨y, own⟩ := own
        obtain ⟨m, expected, value, path⟩ := entry_of_isVariable provides there own some known
        rw [value] at tells
        simp only [saidBy, path, Time.lower_table, Time.lower_name] at tells
        split at tells
        · rename_i place
          obtain rfl := Time.place_injective place.1 place.2
          rw [expected, ← tells]
          rfl
        · cases tells
      · have apart := provides.apart name text there fun y own' => own ⟨y, own'⟩
        rw [saidBy_apart (apart.resolve_left some key known x)] at tells
        cases tells

theorem Time.variableName_injective {x y : Time} (h : Text.lower x.variableName = Text.lower y.variableName) :
    x = y := by
  have own : x.IsVariable y.variableName := h.symm
  have key := (Time.variableKey? own).symm.trans (Time.variableKey? (x := y) rfl)
  have path := congrArg keyPath (Option.some.inj key)
  rw [x.keyPath_dotted, y.keyPath_dotted] at path
  simp only [List.cons.injEq, PathStep.name.injEq, and_true] at path
  exact Time.place_injective path.1 path.2

theorem provides_nothing (unmarked : ∀ entry ∈ environment, variableKey? entry.1 = none) :
    Provides environment fun _ => none := by
  have other {x : Time} {name text : String} (there : (name, text) ∈ environment) : ¬x.IsVariable name := by
    intro own
    have key := Time.variableKey? own
    rw [unmarked _ there] at key
    cases key
  refine ⟨?_, ?_, ?_⟩
  · intro x n
    constructor
    · intro missing
      cases missing
    · rintro ⟨name, text, there, own, -⟩
      exact absurd own (other there)
  · intro x name text there own
    exact absurd own (other there)
  · intro name text there _
    right
    intro key known
    rw [unmarked _ there] at known
    cases known

/-- An environment with the variable of one time. -/
theorem provides_one {x : Time} {text : String} {n : Nat} (spells : Text.Spells text n)
    (fits : n ≤ Text.maxI64) (there : (x.variableName, text) ∈ environment)
    (others : ∀ entry ∈ environment, entry = (x.variableName, text) ∨ variableKey? entry.1 = none) :
    Provides environment fun y => if y = x then some n else none := by
  have only {y : Time} {name text' : String} (inside : (name, text') ∈ environment)
      (own : y.IsVariable name) : y = x ∧ text' = text := by
    rcases others _ inside with same | unmarked
    · cases same
      exact ⟨(Time.variableName_injective own).symm, rfl⟩
    · rw [Time.variableKey? own] at unmarked
      cases unmarked
  refine ⟨?_, ?_, ?_⟩
  · intro y m
    constructor
    · intro expected
      split at expected
      · rename_i own
        cases expected
        subst own
        exact ⟨_, _, there, rfl, spells⟩
      · cases expected
    · rintro ⟨name, text', inside, own, spells'⟩
      obtain ⟨rfl, rfl⟩ := only inside own
      rw [if_pos rfl, spells.unique spells']
  · intro y name text' inside own
    right
    exact ⟨n, fits, (only inside own).2 ▸ spells⟩
  · intro name text' inside none
    right
    intro key known
    rcases others _ inside with same | unmarked
    · cases same
      exact absurd rfl (none x)
    · rw [unmarked] at known
      cases known

end ClusterHarness.Settings
