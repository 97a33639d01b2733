import ClusterHarness.Files

/-! # Files that are added

Where a path leads does not change while folders and files are added. Making folders adds folders on the
way along the path alone, and writing a file whose name has no slash adds a file right in the folder that
the rest of the path leads to.
-/

namespace ClusterHarness.Files

variable {f g k : Files} {start path p q dir : List String} {entry : Entry} {fault : FileFault}

/-! ## Entries -/

theorem lookup_map_entry {entries : List (List String × Entry)} :
    (entries.map fun (p, e) => if p = path then (p, entry) else (p, e)).lookup q =
      if q = path then (entries.lookup q).map fun _ => entry else entries.lookup q := by
  induction entries with
  | nil => simp
  | cons first rest ih =>
      obtain ⟨r, e⟩ := first
      rw [List.map_cons, List.lookup_cons]
      by_cases here : q = r
      · subst here
        by_cases same : q = path
        · simp [same]
        · simp [same]
      · have apart : (q == r) = false := beq_eq_false_iff_ne.mpr here
        by_cases same : r = path
        · simp only [if_pos same, List.lookup_cons, apart, ih]
        · simp only [if_neg same, List.lookup_cons, apart, ih]

theorem get?_put (named : path ≠ []) :
    (f.put path entry).get? q = if q = path then some entry else f.get? q := by
  cases q with
  | nil => rw [if_neg (Ne.symm named)]; rfl
  | cons part rest =>
      simp only [get?, put, List.isEmpty_cons, Bool.false_eq_true, if_false]
      split
      · rename_i there
        rw [lookup_map_entry]
        split
        · rename_i same
          obtain ⟨e, found⟩ := Option.isSome_iff_exists.mp there
          rw [same, found, Option.map_some]
        · rfl
      · rename_i missing
        rw [List.lookup_append]
        by_cases same : part :: rest = path
        · have absent : f.entries.lookup path = none := Option.not_isSome_iff_eq_none.mp missing
          rw [if_pos same, same, absent]
          simp
        · have apart : (part :: rest == path) = false := beq_eq_false_iff_ne.mpr same
          rw [if_neg same, List.lookup_cons, apart]
          simp

theorem ne_nil_of_get? (h : f.get? path ≠ some .folder) : path ≠ [] := by
  rintro rfl
  exact h rfl

/-! ## Walks -/

/-- Where one part of a path leads. -/
def onward? (start : List String) (part : String) : Option (List String) :=
  if part = "" || part = "." then some start
  else if part = ".." then some start.dropLast
  else if 255 < part.utf8ByteSize then none
  else some (start ++ [part])

/-- Each part of a path is taken in a folder. -/
theorem walk_cons_eq_ok {part : String} {rest : List String} : f.walk start (part :: rest) = .ok p ↔
    f.get? start = some .folder ∧ ∃ next, onward? start part = some next ∧ f.walk next rest = .ok p := by
  rw [walk, onward?]
  cases f.get? start with
  | none => simp
  | some entry =>
      cases entry with
      | file text => simp
      | folder =>
          dsimp only
          split
          · simp
          · split
            · simp
            · split
              · simp
              · simp

theorem walk_append_eq_ok {before after : List String} : f.walk start (before ++ after) = .ok p ↔
    ∃ q, f.walk start before = .ok q ∧ f.walk q after = .ok p := by
  induction before generalizing start with
  | nil => simp [walk]
  | cons part rest ih =>
      simp only [List.cons_append, walk_cons_eq_ok, ih]
      constructor
      · rintro ⟨folder, next, leads, q, first, second⟩
        exact ⟨q, ⟨folder, next, leads, first⟩, second⟩
      · rintro ⟨q, ⟨folder, next, leads, first⟩, second⟩
        exact ⟨folder, next, leads, q, first, second⟩

/-- A walk that never goes up only leads further down. -/
theorem prefix_of_walk (down : ".." ∉ path) (h : f.walk start path = .ok p) : start <+: p := by
  induction path generalizing start with
  | nil =>
      cases h
      exact List.prefix_rfl
  | cons part rest ih =>
      rw [List.mem_cons, not_or] at down
      obtain ⟨-, next, leads, more⟩ := walk_cons_eq_ok.mp h
      have further : start <+: next := by
        unfold onward? at leads
        rw [if_neg (Ne.symm down.1)] at leads
        split at leads
        · cases leads
          exact List.prefix_rfl
        · split at leads
          · cases leads
          · cases leads
            exact List.prefix_append _ _
      exact further.trans (ih down.2 more)

/-- Whether all folders are still there. -/
structure Grows (f g : Files) : Prop where
  here : g.here = f.here
  folders : ∀ p, f.get? p = some .folder → g.get? p = some .folder

namespace Grows

theorem origin (grows : Grows f g) (path : String) : g.origin path = f.origin path := by
  rw [Files.origin, Files.origin, grows.here]

/-- A walk that has come to its end goes the same way later. -/
theorem walk (grows : Grows f g) (h : f.walk start path = .ok p) : g.walk start path = .ok p := by
  induction path generalizing start with
  | nil => exact h
  | cons part rest ih =>
      obtain ⟨folder, next, leads, more⟩ := walk_cons_eq_ok.mp h
      exact walk_cons_eq_ok.mpr ⟨grows.folders start folder, next, leads, ih more⟩

theorem put (free : f.get? path ≠ some .folder) : Grows f (f.put path entry) := by
  refine ⟨rfl, ?_⟩
  intro p folder
  rw [get?_put (ne_nil_of_get? free), if_neg]
  · exact folder
  · rintro rfl
    exact free folder

end Grows

/-! ## Making folders -/

/-- Whether a path is met on the way along some parts. -/
def IsMet (files : Files) (start parts p : List String) : Prop :=
  ∃ before, before <+: parts ∧ files.walk start before = .ok p

/-- What has changed when folders were made along some parts of a path. -/
structure MadeAlong (start parts : List String) (f g : Files) : Prop where
  here : g.here = f.here
  changed : ∀ p, g.get? p = f.get? p ∨
    f.get? p = none ∧ g.get? p = some .folder ∧ g.IsMet start parts p

namespace MadeAlong

variable {parts : List String}

theorem refl (f : Files) : MadeAlong start parts f f := ⟨rfl, fun _ => .inl rfl⟩

theorem grows (made : MadeAlong start parts f g) : Grows f g := by
  refine ⟨made.here, ?_⟩
  intro p folder
  rcases made.changed p with same | ⟨missing, -⟩
  · rw [same, folder]
  · rw [folder] at missing
    cases missing

theorem trans (first : MadeAlong start parts f g) (second : MadeAlong start parts g k) :
    MadeAlong start parts f k := by
  refine ⟨second.here.trans first.here, ?_⟩
  intro p
  rcases second.changed p with same | ⟨missing, folder, met⟩
  · rcases first.changed p with same' | ⟨missing, folder, before, front, walked⟩
    · exact .inl (same.trans same')
    · exact .inr ⟨missing, same.trans folder, before, front, second.grows.walk walked⟩
  · rcases first.changed p with same' | ⟨-, folder', -⟩
    · exact .inr ⟨same' ▸ missing, folder, met⟩
    · rw [folder'] at missing
      cases missing

theorem mono {more : List String} (made : MadeAlong start parts f g) (front : parts <+: more) :
    MadeAlong start more f g := by
  refine ⟨made.here, ?_⟩
  intro p
  rcases made.changed p with same | ⟨missing, folder, before, inside, walked⟩
  · exact .inl same
  · exact .inr ⟨missing, folder, before, inside.trans front, walked⟩

end MadeAlong

theorem trimmed_prefix (path : List String) : (path.reverse.dropWhile (· = "")).reverse <+: path := by
  have front := List.reverse_prefix.mpr (List.dropWhile_suffix (· = "") (l := path.reverse))
  rwa [List.reverse_reverse] at front

theorem madeAlong_of_makeFolderAt (h : f.makeFolderAt start path = .ok g) : MadeAlong start path f g := by
  unfold makeFolderAt at h
  cases walked : f.walk start (path.reverse.dropWhile (· = "")).reverse with
  | error fault =>
      rw [walked] at h
      cases h
  | ok at_ =>
      rw [walked] at h
      simp only [bind, Except.bind] at h
      split at h
      · cases h
      · rename_i missing
        cases h
        have free : f.get? at_ ≠ some .folder := by simp [missing]
        refine ⟨rfl, ?_⟩
        intro p
        rw [get?_put (ne_nil_of_get? free)]
        split
        · rename_i here
          subst here
          exact .inr ⟨missing, rfl, _, trimmed_prefix path, (Grows.put free).walk walked⟩
        · exact .inl rfl

theorem madeAlong_ensureFolderAt (f : Files) (start path : List String) :
    MadeAlong start path f (f.ensureFolderAt start path).1 := by
  unfold ensureFolderAt
  split
  · rename_i g made
    exact madeAlong_of_makeFolderAt made
  · split
    · exact .refl f
    · exact .refl f
  · exact .refl f

/-- The folders above a path are made before the folder itself is tried once more. -/
theorem madeAlong_makeFoldersAt (f : Files) (start parts : List String) :
    MadeAlong start parts.reverse f (f.makeFoldersAt start parts).1 := by
  induction parts generalizing f with
  | nil => exact .refl f
  | cons part above ih =>
      have front : above.reverse <+: (part :: above).reverse := by simp
      rw [makeFoldersAt]
      split
      · exact (ih f).mono front
      · have first := madeAlong_ensureFolderAt f start (part :: above).reverse
        dsimp only
        split
        · rename_i g tried
          rw [tried] at first
          have second := (ih g).mono front
          split
          · rename_i k made
            rw [made] at second
            exact (first.trans second).trans (madeAlong_ensureFolderAt k start _)
          · exact first.trans second
        · exact first

theorem partsAbove_suffix (parts : List String) : partsAbove parts <:+ parts :=
  (List.tail_suffix _).trans (List.dropWhile_suffix _)

theorem madeAlong_makeFolders (f : Files) (path : String) :
    MadeAlong (f.origin path) (parts path) f (f.makeFolders path).1 := by
  have front : (partsAbove (parts path).reverse).reverse <+: parts path :=
    List.reverse_suffix.mp (by simpa using partsAbove_suffix (parts path).reverse)
  have first := madeAlong_ensureFolderAt f (f.origin path) (parts path)
  unfold makeFolders
  dsimp only
  split
  · exact .refl f
  · split
    · exact .refl f
    · split
      · exact .refl f
      · split
        · rename_i g tried
          rw [tried] at first
          have second := (madeAlong_makeFoldersAt g (f.origin path) (partsAbove (parts path).reverse)).mono
            front
          split
          · rename_i k made
            rw [made] at second
            exact (first.trans second).trans (madeAlong_ensureFolderAt k _ _)
          · exact first.trans second
        · exact first

/-! ## Names in a folder -/

theorem exists_splitPath (s : List Char) : ∃ part parts, splitPath s = part :: parts := by
  cases s with
  | nil => exact ⟨[], [], rfl⟩
  | cons c rest =>
      unfold splitPath
      split
      · rename_i empty
        cases empty
      · exact ⟨[], _, rfl⟩
      · split
        · exact ⟨_, _, rfl⟩
        · exact ⟨_, _, rfl⟩

theorem splitPath_cons {c : Char} {s part : List Char} {parts : List (List Char)} (other : c ≠ '/')
    (h : splitPath s = part :: parts) : splitPath (c :: s) = (c :: part) :: parts := by
  rw [splitPath, h]
  exact other

theorem splitPath_append (before after : List Char) :
    splitPath (before ++ '/' :: after) = splitPath before ++ splitPath after := by
  induction before with
  | nil => rfl
  | cons c before ih =>
      by_cases slash : c = '/'
      · subst slash
        rw [List.cons_append, splitPath, ih, splitPath, List.cons_append]
      · obtain ⟨part, parts, split⟩ := exists_splitPath before
        rw [split] at ih
        rw [List.cons_append, splitPath_cons slash ih, splitPath_cons slash split]
        rfl

theorem splitPath_plain {name : List Char} (plain : '/' ∉ name) : splitPath name = [name] := by
  induction name with
  | nil => rfl
  | cons c name ih =>
      rw [List.mem_cons, not_or] at plain
      exact splitPath_cons (Ne.symm plain.1) (ih plain.2)

theorem not_isAbsolute {name : String} (plain : '/' ∉ name.toList) : isAbsolute name = false := by
  rw [isAbsolute, beq_eq_false_iff_ne]
  intro slash
  exact plain (List.mem_of_head? slash)

/-- The parts of a path to a name in a folder. A slash at the end of the folder makes no difference. -/
theorem parts_join {folder name : String} (plain : '/' ∉ name.toList) :
    ∃ front, parts (join folder name) = front ++ [name] ∧
      (parts folder = front ∨ parts folder = front ++ [""]) := by
  have last : (splitPath name.toList).map String.ofList = [name] := by
    rw [splitPath_plain plain, List.map_singleton, String.ofList_toList]
  rw [join, not_isAbsolute plain, Bool.false_or]
  split
  · rename_i empty
    obtain rfl : folder = "" := by simpa using empty
    exact ⟨[], last, .inr rfl⟩
  · split
    · rename_i slash
      obtain ⟨front, whole⟩ := List.getLast?_eq_some_iff.mp (eq_of_beq slash)
      refine ⟨(splitPath front).map String.ofList, ?_, .inr ?_⟩
      · rw [parts, String.toList_append, whole, List.append_assoc, List.singleton_append,
          splitPath_append, List.map_append, last]
      · rw [parts, whole, splitPath_append, List.map_append]
        rfl
    · refine ⟨parts folder, ?_, .inl rfl⟩
      have slash : "/".toList = ['/'] := rfl
      rw [parts, String.toList_append, String.toList_append, List.append_assoc, slash,
        List.singleton_append, splitPath_append, List.map_append, last, parts]

theorem isAbsolute_append {folder : String} (some : folder ≠ "") (rest : String) :
    isAbsolute (folder ++ rest) = isAbsolute folder := by
  cases chars : folder.toList with
  | nil => exact absurd (String.toList_eq_nil_iff.mp chars) some
  | cons c front => rw [isAbsolute, isAbsolute, String.toList_append, chars]; rfl

theorem origin_join {folder name : String} (plain : '/' ∉ name.toList) :
    f.origin (join folder name) = f.origin folder := by
  have same : isAbsolute (join folder name) = isAbsolute folder := by
    rw [join, not_isAbsolute plain, Bool.false_or]
    split
    · rename_i empty
      obtain rfl : folder = "" := by simpa using empty
      exact not_isAbsolute plain
    · rename_i some
      have named : folder ≠ "" := by simpa using some
      split
      · exact isAbsolute_append named name
      · rw [String.append_assoc]
        exact isAbsolute_append named _
  rw [origin, origin, same]

/-- Whether a path leads to a folder. -/
def LeadsTo (files : Files) (folder : String) (dir : List String) : Prop :=
  files.walk (files.origin folder) (parts folder) = .ok dir ∧ files.get? dir = some .folder

theorem LeadsTo.unique {folder : String} (first : f.LeadsTo folder p) (second : f.LeadsTo folder q) :
    p = q :=
  Except.ok.inj (first.1.symm.trans second.1)

theorem Grows.leadsTo {folder : String} (grows : Grows f g) (leads : f.LeadsTo folder dir) :
    g.LeadsTo folder dir := by
  refine ⟨?_, grows.folders dir leads.2⟩
  rw [grows.origin]
  exact grows.walk leads.1

/-- A name that is a proper one, without a slash in it. -/
structure IsPlain (name : String) : Prop where
  slash : '/' ∉ name.toList
  something : name ≠ ""
  here : name ≠ "."
  above : name ≠ ".."

/-- A path to a plain name in a folder leads right into the folder. -/
theorem leadsTo_of_walk_join {folder name : String} (plain : IsPlain name)
    (h : f.walk (f.origin (join folder name)) (parts (join folder name)) = .ok p) :
    ∃ dir, f.LeadsTo folder dir ∧ p = dir ++ [name] := by
  obtain ⟨front, path, folderParts⟩ : ∃ front, parts (join folder name) = front ++ [name] ∧ _ :=
    parts_join plain.slash
  rw [origin_join plain.slash, path] at h
  obtain ⟨dir, walked, last⟩ := walk_append_eq_ok.mp h
  obtain ⟨there, next, onward, ended⟩ := walk_cons_eq_ok.mp last
  refine ⟨dir, ⟨?_, there⟩, ?_⟩
  · rcases folderParts with same | slash
    · rw [same, walked]
    · rw [slash]
      exact walk_append_eq_ok.mpr ⟨dir, walked, walk_cons_eq_ok.mpr ⟨there, dir, rfl, rfl⟩⟩
  · cases ended
    unfold onward? at onward
    rw [if_neg (by simp [plain.something, plain.here]), if_neg plain.above] at onward
    split at onward
    · cases onward
    · exact (Option.some.inj onward).symm

theorem write_eq_ok {path text : String} (h : f.write path text = .ok g) :
    ∃ p, f.walk (f.origin path) (parts path) = .ok p ∧ f.get? p ≠ some .folder ∧
      g = f.put p (.file text) := by
  unfold write at h
  cases resolved : f.resolve path with
  | error fault =>
      rw [resolved] at h
      cases h
  | ok p =>
      rw [resolved] at h
      simp only [bind, Except.bind] at h
      split at h
      · cases h
      · rename_i free
        cases h
        refine ⟨p, ?_, free, rfl⟩
        unfold resolve at resolved
        split at resolved
        · cases resolved
        · split at resolved
          · cases resolved
          · split at resolved
            · cases resolved
            · exact resolved

/-- A file that is written under a plain name in a folder is right in that folder, and nothing else has
changed. -/
theorem write_join {folder name text : String} (plain : IsPlain name)
    (h : f.write (join folder name) text = .ok g) :
    ∃ dir, f.LeadsTo folder dir ∧ f.get? (dir ++ [name]) ≠ some .folder ∧
      g = f.put (dir ++ [name]) (.file text) := by
  obtain ⟨p, walked, free, rfl⟩ := write_eq_ok h
  obtain ⟨dir, leads, rfl⟩ := leadsTo_of_walk_join plain walked
  exact ⟨dir, leads, free, rfl⟩

/-! ## Filling a folder -/

/-- What can become of a path when some texts are written under their names in a folder: nothing, or it is
a folder that was missing on the way there, or one of the files right in it. -/
inductive Fate (folder : String) (texts : List (String × String)) (f g : Files) (p : List String) : Prop where
  | kept (same : g.get? p = f.get? p)
  | made (missing : f.get? p = none) (there : g.get? p = some .folder)
      (met : g.IsMet (g.origin folder) (parts folder) p)
  | written {dir : List String} {name text : String} (free : f.get? p ≠ some .folder)
      (leads : g.LeadsTo folder dir) (place : p = dir ++ [name]) (own : (name, text) ∈ texts)
      (there : g.get? p = some (.file text))

/-- What has changed when some texts were written under their names in a folder. -/
structure Filled (folder : String) (texts : List (String × String)) (f g : Files) : Prop where
  here : g.here = f.here
  fate : ∀ p, Fate folder texts f g p

namespace Filled

variable {folder : String} {texts : List (String × String)}

theorem refl (f : Files) : Filled folder texts f f := ⟨rfl, fun _ => .kept rfl⟩

theorem grows (filled : Filled folder texts f g) : Grows f g := by
  refine ⟨filled.here, ?_⟩
  intro p there
  cases filled.fate p with
  | kept same => rw [same, there]
  | made missing =>
      rw [there] at missing
      cases missing
  | written free => exact absurd there free

theorem trans (first : Filled folder texts f g) (second : Filled folder texts g k) :
    Filled folder texts f k := by
  refine ⟨second.here.trans first.here, ?_⟩
  intro p
  cases second.fate p with
  | kept same =>
      -- What the first step has done is still there, and found in the same way.
      cases first.fate p with
      | kept same' => exact .kept (same.trans same')
      | made missing there met =>
          obtain ⟨before, front, walked⟩ := met
          refine .made missing (same.trans there) ⟨before, front, ?_⟩
          rw [second.grows.origin]
          exact second.grows.walk walked
      | written free leads place own there =>
          exact .written free (second.grows.leadsTo leads) place own (same.trans there)
  | made missing there met =>
      cases first.fate p with
      | kept same' => exact .made (same' ▸ missing) there met
      | made _ there' | written _ _ _ _ there' =>
          rw [there'] at missing
          cases missing
  | written free leads place own there =>
      exact .written (fun before => free (first.grows.folders p before)) leads place own there

theorem makeFolders (f : Files) (folder : String) : Filled folder texts f (f.makeFolders folder).1 := by
  have made := madeAlong_makeFolders f folder
  refine ⟨made.here, ?_⟩
  intro p
  rcases made.changed p with same | ⟨missing, there, met⟩
  · exact .kept same
  · refine .made missing there ?_
    rwa [made.grows.origin]

theorem write {name text : String} (plain : IsPlain name) (own : (name, text) ∈ texts)
    (h : f.write (join folder name) text = .ok g) : Filled folder texts f g := by
  obtain ⟨dir, leads, free, rfl⟩ := write_join plain h
  refine ⟨rfl, ?_⟩
  intro p
  have found : (f.put (dir ++ [name]) (.file text)).get? p =
      if p = dir ++ [name] then some (.file text) else f.get? p := get?_put (ne_nil_of_get? free)
  by_cases place : p = dir ++ [name]
  · subst place
    exact .written free ((Grows.put free).leadsTo leads) rfl own (found.trans (if_pos rfl))
  · exact .kept (found.trans (if_neg place))

/-- What is right in the folder under another name is as it was. When the path to the folder goes up again,
though, there may be a folder that was missing on the way. -/
theorem beside {name : String} (filled : Filled folder texts f g) (leads : g.LeadsTo folder dir)
    (other : ∀ text, (name, text) ∉ texts) :
    g.get? (dir ++ [name]) = f.get? (dir ++ [name]) ∨
      ".." ∈ parts folder ∧ f.get? (dir ++ [name]) = none ∧ g.get? (dir ++ [name]) = some .folder := by
  cases filled.fate (dir ++ [name]) with
  | kept same => exact .inl same
  | made missing there met =>
      refine .inr ⟨Decidable.of_not_not fun down => ?_, missing, there⟩
      obtain ⟨before, ⟨rest, whole⟩, walked⟩ := met
      have path := leads.1
      rw [← whole] at path down
      obtain ⟨q, first, second⟩ := walk_append_eq_ok.mp path
      cases walked.symm.trans first
      have deeper := prefix_of_walk (fun up => down (List.mem_append_right _ up)) second
      have length := deeper.length_le
      rw [List.length_append, List.length_singleton] at length
      exact Nat.not_succ_le_self _ length
  | written free leads' place own =>
      obtain rfl := leads.unique leads'
      obtain ⟨-, named⟩ := List.append_inj' place rfl
      cases named
      exact absurd own (other _)

end Filled

/-- Whether a text stands under a name right in a folder. -/
def Holds (files : Files) (folder name text : String) : Prop :=
  ∃ dir, files.LeadsTo folder dir ∧ files.get? (dir ++ [name]) = some (.file text)

theorem holds_of_write {folder name text : String} (plain : IsPlain name)
    (h : f.write (join folder name) text = .ok g) : g.Holds folder name text := by
  obtain ⟨dir, leads, free, rfl⟩ := write_join plain h
  refine ⟨dir, (Grows.put free).leadsTo leads, ?_⟩
  rw [get?_put (ne_nil_of_get? free), if_pos rfl]

/-- A file stays as it is when others are written, and when its own text is written once more. -/
theorem Holds.filled {folder name text : String} {texts : List (String × String)}
    (holds : f.Holds folder name text) (filled : Filled folder texts f g)
    (same : ∀ other, (name, other) ∈ texts → other = text) : g.Holds folder name text := by
  obtain ⟨dir, leads, there⟩ := holds
  refine ⟨dir, filled.grows.leadsTo leads, ?_⟩
  cases filled.fate (dir ++ [name]) with
  | kept kept => rw [kept, there]
  | made missing =>
      rw [there] at missing
      cases missing
  | written _ _ place own there' =>
      obtain ⟨-, named⟩ := List.append_inj' place rfl
      cases named
      rw [there', same _ own]

end ClusterHarness.Files
