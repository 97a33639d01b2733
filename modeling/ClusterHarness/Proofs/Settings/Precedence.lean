import ClusterHarness.Proofs.Config.Conversion
import ClusterHarness.Proofs.Settings.Sources

/-! # The precedence of layers

Each time of the harness is taken from the environment if it gives one, else from the file, and else from
the settings that held before. So an override that is made twice is made once, of several files the last
one counts, and a file that sets nothing leaves all times as they are, as long as a layer can hold them.
-/

namespace ClusterHarness.Settings

variable {around : Surroundings} {path : String} {h : Config.Harness} {given said : Time → Option Nat}

theorem Gives.le {document : Toml.Entries} (gives : Gives document given) (x : Time) (n : Nat)
    (value : given x = some n) : n ≤ Text.maxI64 := by
  obtain ⟨m, fits, same⟩ := gives.integers x _ ((gives.given x n).mp value)
  cases same
  exact fits

theorem Surroundings.Offers.le (offers : around.Offers path given) (x : Time) (n : Nat)
    (value : given x = some n) : n ≤ Text.maxI64 := by
  obtain ⟨layer, text, document, -, -, -, gives⟩ := offers
  exact gives.le x n value

theorem Provides.le {environment : List (String × String)} (provides : Provides environment said) (x : Time)
    (n : Nat) (value : said x = some n) : n ≤ Text.maxI64 := by
  obtain ⟨name, text, there, own, spells⟩ := (provides.given x n).mp value
  obtain ⟨m, fits, spells'⟩ := (provides.numerals x name text there own).resolve_left spells.ne_empty
  exact spells.unique spells' ▸ fits

/-- The number of a time after an override: what the variables say, else what the file gives, else the
number that it had. -/
def numberAfter (said given : Time → Option Nat) (h : Config.Harness) (x : Time) : Nat :=
  ((said x).or (given x)).getD (x.of h).toNat

/-- The settings of a stack of three layers. -/
theorem harnessOf_tells {file environment : Layer} (ofFile : file.Tells given)
    (ofVariables : environment.Tells said) (fits : ∀ x, numberAfter said given h x ≤ Text.maxI64) :
    ∃ h', harnessOf [currentLayer h, file, environment] = .ok h' ∧
      ∀ x : Time, (x.of h').toNat = numberAfter said given h x := by
  have holds := ((holds_empty.afterLayer (currentLayer_tells h)).afterLayer ofFile).afterLayer ofVariables
  obtain ⟨h', converted, times⟩ := holds.convert
  refine ⟨h', converted, ?_⟩
  intro x
  have number : ((said x).or ((given x).or ((some (x.of h).toNat).or none))).getD
      (x.of Config.Harness.default).toNat = numberAfter said given h x := by
    rw [numberAfter]
    cases said x <;> cases given x <;> rfl
  rw [times x, number, UInt64.toNat_ofNat_of_lt']
  exact Nat.lt_of_le_of_lt (fits x) (by decide)

/-- Whether the file that settings begin with gives the numbers. Without a variable that names it there is
no such file. -/
def Surroundings.OffersFirst (around : Surroundings) (given : Time → Option Nat) : Prop :=
  match around.environment.lookup fileVariable with
  | some path => around.Offers path given
  | none => given = fun _ => none

/-- What the last of some files gives that gives anything. -/
def lastGiven (files : List (String × (Time → Option Nat))) (x : Time) : Option Nat :=
  files.reverse.findSome? fun file => file.2 x

section

variable (provides : Provides around.environment said)
include provides

theorem numberAfter_le (current : ∀ x : Time, (x.of h).toNat ≤ Text.maxI64)
    (file : ∀ (x : Time) n, given x = some n → n ≤ Text.maxI64) (x : Time) :
    numberAfter said given h x ≤ Text.maxI64 := by
  rw [numberAfter]
  cases fromVariable : said x with
  | some n => exact provides.le x n fromVariable
  | none =>
      cases fromFile : given x with
      | some n => exact file x n fromFile
      | none => exact current x

/-- One override. -/
theorem override_ok (current : ∀ x : Time, (x.of h).toNat ≤ Text.maxI64)
    (offers : around.Offers path given) :
    ∃ h', override around h path = .ok h' ∧ ∀ x : Time, (x.of h').toNat = numberAfter said given h x := by
  obtain ⟨layer, read, tells⟩ := offers.tells
  have fits := numberAfter_le provides current offers.le
  obtain ⟨h', result, times⟩ := harnessOf_tells tells (tells_of_provides provides) fits
  refine ⟨h', ?_, times⟩
  rw [override, ofCurrent_eq, excess?_eq_none.mpr current, read]
  exact result

/-- An override that is made once more changes nothing. -/
theorem override_again (current : ∀ x : Time, (x.of h).toNat ≤ Text.maxI64)
    (offers : around.Offers path given) {h' : Config.Harness} (once : override around h path = .ok h') :
    override around h' path = .ok h' := by
  obtain ⟨first, result, times⟩ := override_ok provides current offers
  obtain rfl : first = h' := Except.ok.inj (result.symm.trans once)
  have fits (x : Time) : (x.of first).toNat ≤ Text.maxI64 := by
    rw [times]
    exact numberAfter_le provides current offers.le x
  obtain ⟨second, result', times'⟩ := override_ok provides fits offers
  have same : second = first := by
    apply Time.of_injective
    intro x
    apply UInt64.toNat_inj.mp
    rw [times', numberAfter, times, numberAfter]
    cases said x <;> cases given x <;> rfl
  rw [result', same]

/-- The settings to begin with. -/
theorem load_ok {given : Time → Option Nat} (first : around.OffersFirst given) :
    ∃ h', load around = .ok h' ∧ ∀ x : Time, (x.of h').toNat = numberAfter said given .default x := by
  have current (x : Time) : (x.of .default).toNat ≤ Text.maxI64 := by cases x <;> decide
  unfold Surroundings.OffersFirst at first
  rw [load, ofCurrent_eq, excess?_eq_none.mpr current]
  cases named : around.environment.lookup fileVariable with
  | some path =>
      rw [named] at first
      obtain ⟨layer, read, tells⟩ := first.tells
      simp only [Option.elim_none, bind, Except.bind, read]
      exact harnessOf_tells tells (tells_of_provides provides) (numberAfter_le provides current first.le)
  | none =>
      rw [named] at first
      rw [first]
      exact harnessOf_tells Layer.tells_nil (tells_of_provides provides)
        (numberAfter_le provides current fun _ _ missing => nomatch missing)

/-- A chain of overrides: of the files, the last one that gives a time counts. -/
theorem overrides_ok {files : List (String × (Time → Option Nat))} (some : files ≠ [])
    (offers : ∀ file ∈ files, around.Offers file.1 file.2)
    (current : ∀ x : Time, (x.of h).toNat ≤ Text.maxI64) :
    ∃ h', (files.map Prod.fst).foldlM (override around) h = .ok h' ∧
      ∀ x : Time, (x.of h').toNat = numberAfter said (lastGiven files) h x := by
  induction files generalizing h with
  | nil => exact absurd rfl some
  | cons file rest ih =>
      have own := offers file List.mem_cons_self
      obtain ⟨next, once, times⟩ := override_ok provides current own
      rw [List.map_cons, List.foldlM_cons, once]
      have last (x : Time) : lastGiven (file :: rest) x = (lastGiven rest x).or (file.2 x) := by
        rw [lastGiven, List.reverse_cons, List.findSome?_append, List.findSome?_singleton, lastGiven]
      by_cases more : rest = []
      · subst more
        exact ⟨next, rfl, fun x => by rw [times, numberAfter, numberAfter, last]; rfl⟩
      · have fits (x : Time) : (x.of next).toNat ≤ Text.maxI64 := by
          rw [times]
          exact numberAfter_le provides current own.le x
        obtain ⟨h', others, times'⟩ :=
          ih more (fun f there => offers f (List.mem_cons_of_mem _ there)) fits
        refine ⟨h', others, ?_⟩
        intro x
        rw [times', numberAfter, times, numberAfter, numberAfter, last]
        cases said x <;> cases lastGiven rest x <;> rfl

end

/-- The precedence of the layers: an override succeeds and takes each time from the variables, else from the
file, else from the settings before, and made twice it does the same as once; the settings to begin with
are found in the same way, on top of the default ones; and after several overrides the last file that
gives a time counts. -/
theorem layers_take_precedence (provides : Provides around.environment said) :
    (∀ h path given, (∀ x : Time, (x.of h).toNat ≤ Text.maxI64) → around.Offers path given →
      ∃ h', override around h path = .ok h' ∧ override around h' path = .ok h' ∧
        ∀ x : Time, (x.of h').toNat = ((said x).or (given x)).getD (x.of h).toNat) ∧
    (∀ given, around.OffersFirst given →
      ∃ h', load around = .ok h' ∧
        ∀ x : Time, (x.of h').toNat = ((said x).or (given x)).getD (x.of .default).toNat) ∧
    ∀ h files, (∀ x : Time, (x.of h).toNat ≤ Text.maxI64) → files ≠ [] →
      (∀ file ∈ files, around.Offers file.1 file.2) →
        ∃ h', (files.map Prod.fst).foldlM (override around) h = .ok h' ∧
          ∀ x : Time, (x.of h').toNat = ((said x).or (lastGiven files x)).getD (x.of h).toNat := by
  refine ⟨?_, ?_, ?_⟩
  · intro h path given current offers
    obtain ⟨h', once, times⟩ := override_ok provides current offers
    exact ⟨h', once, override_again provides current offers once, times⟩
  · intro given first
    exact load_ok provides first
  · intro h files current some offers
    exact overrides_ok provides some offers current

/-- Two files and a variable in some surroundings. The first file is where settings begin. -/
def twoFiles : Surroundings where
  files := Files.ofList [("first.toml", "[cluster]\nstartup_timeout_in_ms = 7\n"),
    ("second.toml", "[cluster]\nshutdown_timeout_in_ms = 9\n")]
  folder := "/work"
  environment := [("CONFIG_PATH", "first.toml"), ("DUCKTEST__CLUSTER__STARTUP_TIMEOUT_IN_MS", "5000")]

theorem twoFiles_provides :
    Provides twoFiles.environment fun y => if y = .startup then some 5000 else none := by
  have spells : Text.Spells "5000" 5000 :=
    ⟨['5', '0', '0', '0'], .inl (by decide), by decide, List.all_eq_true.mp rfl, by decide⟩
  have there : (Time.startup.variableName, "5000") ∈ twoFiles.environment :=
    List.mem_cons_of_mem _ List.mem_cons_self
  apply provides_one spells (by decide) there
  intro entry inside
  rcases List.mem_cons.mp inside with rfl | inside
  · right
    decide +kernel
  · left
    exact List.mem_singleton.mp inside

theorem twoFiles_offers_first :
    twoFiles.Offers "first.toml" fun y => if y = .startup then some 7 else none := by
  have there : twoFiles.files.text? "first.toml" = some "[cluster]\nstartup_timeout_in_ms = 7\n" := by
    decide +kernel
  have parsed : Toml.document? "[cluster]\nstartup_timeout_in_ms = 7\n" =
      some [("cluster", .table .defined [("startup_timeout_in_ms", .integer 7)])] := rfl
  exact Surroundings.offers_document there (by decide +kernel) parsed (by decide +kernel) rfl
    (gives_one .startup (by decide) .defined)

theorem twoFiles_offers_second :
    twoFiles.Offers "second.toml" fun y => if y = .shutdown then some 9 else none := by
  have there : twoFiles.files.text? "second.toml" = some "[cluster]\nshutdown_timeout_in_ms = 9\n" := by
    decide +kernel
  have parsed : Toml.document? "[cluster]\nshutdown_timeout_in_ms = 9\n" =
      some [("cluster", .table .defined [("shutdown_timeout_in_ms", .integer 9)])] := rfl
  exact Surroundings.offers_document there (by decide +kernel) parsed (by decide +kernel) rfl
    (gives_one .shutdown (by decide) .defined)

/-- The variable outweighs the first file, which outweighs the default, and the second file counts where the
first one is silent. -/
theorem layers_take_precedence_two_files :
    (∃ h', load twoFiles = .ok h' ∧ h'.cluster.startupTimeout.toNat = 5000 ∧
      h'.cluster.shutdownTimeout.toNat = 10000) ∧
    ∃ h', ["first.toml", "second.toml"].foldlM (override twoFiles) .default = .ok h' ∧
      h'.cluster.startupTimeout.toNat = 5000 ∧ h'.cluster.shutdownTimeout.toNat = 9 ∧
      h'.topology.pollInterval.toNat = 100 := by
  obtain ⟨-, start, chain⟩ := layers_take_precedence twoFiles_provides
  have current (x : Time) : (x.of .default).toNat ≤ Text.maxI64 := by cases x <;> decide
  constructor
  · obtain ⟨h', result, times⟩ := start _ twoFiles_offers_first
    exact ⟨h', result, times .startup, times .shutdown⟩
  · have offers : ∀ file ∈ [("first.toml", fun y => if y = .startup then some 7 else none),
        ("second.toml", fun y => if y = .shutdown then some 9 else none)],
        twoFiles.Offers file.1 file.2 :=
      List.forall_mem_cons.mpr
        ⟨twoFiles_offers_first, List.forall_mem_singleton.mpr twoFiles_offers_second⟩
    obtain ⟨h', result, times⟩ := chain .default _ current (by simp) offers
    exact ⟨h', result, times .startup, times .shutdown, times .poll⟩

/-- An override with a file and an environment that give nothing leaves all times as they are, unless one is
more than a layer can hold: then the first such time is refused. -/
theorem silent_override (provides : Provides around.environment fun _ => none)
    (offers : around.Offers path fun _ => none) (h : Config.Harness) : override around h path =
      match excess? h with
      | some x => .error (.aboveLimit (x.of h).toNat)
      | none => .ok h := by
  cases excess : excess? h with
  | some x =>
      rw [override, ofCurrent_eq, excess]
      rfl
  | none =>
      obtain ⟨h', result, times⟩ := override_ok provides (excess?_eq_none.mp excess) offers
      have same : h' = h := by
        apply Time.of_injective
        intro x
        exact UInt64.toNat_inj.mp (times x)
      rw [result, same]

/-- A file without any text, and no variables. -/
def emptyFile : Surroundings where
  files := Files.ofList [("empty.toml", "")]
  folder := "/work"
  environment := []

theorem emptyFile_provides : Provides emptyFile.environment fun _ => none :=
  provides_nothing fun _ there => absurd there List.not_mem_nil

theorem emptyFile_offers : emptyFile.Offers "empty.toml" fun _ => none := by
  have there : emptyFile.files.text? "empty.toml" = some "" := by decide +kernel
  have parsed : Toml.document? "" = some [] := rfl
  exact Surroundings.offers_document there (by decide +kernel) parsed (by decide +kernel) rfl gives_nothing

theorem silent_override_empty_file :
    override emptyFile .default "empty.toml" = .ok .default ∧
      override emptyFile { topology := { pollInterval := 9223372036854775808 } } "empty.toml" =
        .error (.aboveLimit 9223372036854775808) :=
  ⟨silent_override emptyFile_provides emptyFile_offers .default,
    silent_override emptyFile_provides emptyFile_offers _⟩

/-- So an override that sets nothing does not always succeed: times go up to the largest unsigned integer,
and a layer only up to the largest signed one. -/
theorem silent_override_refuses : ¬∀ (around : Surroundings) (path : String) (h : Config.Harness),
    Provides around.environment (fun _ => none) → around.Offers path (fun _ => none) →
      override around h path = .ok h := by
  intro all
  have kept := all emptyFile "empty.toml" { cluster := { startupTimeout := 18446744073709551615 } }
    emptyFile_provides emptyFile_offers
  rw [override, ofCurrent_eq] at kept
  cases kept

end ClusterHarness.Settings
