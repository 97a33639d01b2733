import ClusterHarness.Error
import ClusterHarness.Proofs.Schema.RoundTrip
import ClusterHarness.Proofs.Text.Blank
import ClusterHarness.Proofs.Text.Lowercase
import ClusterHarness.Proofs.Text.Numeral
import ClusterHarness.Proofs.Text.Split
import Mathlib.Data.List.Forall2

/-! # Versions as texts

A text is read as a version just when the grammar says so: it is the name of the development branch, or
two or three numerals with a dot between each and the next. What is displayed for a version follows the
grammar and has no blanks to trim, so it is read back.
-/

namespace ClusterHarness.Version

open Text

/-! ## The grammar -/

/-- Whether a text is the name of the development branch, in any case. -/
def IsDevName (t : String) : Prop :=
  ∃ d e v, t.toList = [d, e, v] ∧ (d = 'd' ∨ d = 'D') ∧ (e = 'e' ∨ e = 'E') ∧ (v = 'v' ∨ v = 'V')

/-- The texts that stand for a version. A release of two numbers has the patch zero. -/
inductive Spelled : String → Version → Prop where
  | dev {t} (name : IsDevName t) : Spelled t .dev
  | short {a b} {major minor : UInt32} (first : Spells a major.toNat)
      (second : Spells b minor.toNat) : Spelled (a ++ "." ++ b) (.release major minor 0)
  | full {a b c} {major minor patch : UInt32} (first : Spells a major.toNat)
      (second : Spells b minor.toNat) (third : Spells c patch.toNat) :
      Spelled (a ++ "." ++ b ++ "." ++ c) (.release major minor patch)

theorem isDevName_iff {t : String} :
    t.toList.map Char.toLower = ['d', 'e', 'v'] ↔ IsDevName t := by
  have d (c : Char) : c.toLower = 'd' ↔ c = 'd' ∨ c = 'D' := toLower_eq_iff (by decide) (by decide)
  have e (c : Char) : c.toLower = 'e' ↔ c = 'e' ∨ c = 'E' := toLower_eq_iff (by decide) (by decide)
  have v (c : Char) : c.toLower = 'v' ↔ c = 'v' ∨ c = 'V' := toLower_eq_iff (by decide) (by decide)
  constructor
  · intro lowered
    obtain ⟨first, _, chars, isD, rest⟩ := List.map_eq_cons_iff.mp lowered
    obtain ⟨second, _, rfl, isE, rest⟩ := List.map_eq_cons_iff.mp rest
    obtain ⟨third, _, rfl, isV, rest⟩ := List.map_eq_cons_iff.mp rest
    rw [List.map_eq_nil_iff] at rest
    subst rest
    exact ⟨first, second, third, chars, (d _).mp isD, (e _).mp isE, (v _).mp isV⟩
  · rintro ⟨first, second, third, chars, isD, isE, isV⟩
    simp only [chars, List.map_cons, List.map_nil, (d _).mpr isD, (e _).mpr isE, (v _).mpr isV]

/-- A numeral holds digits, and perhaps a plus sign. -/
theorem dot_not_mem_of_spells {s : String} {n : Nat} (spells : Spells s n) : '.' ∉ s.toList := by
  obtain ⟨digits, front, -, all, -⟩ := spells
  have inside : '.' ∉ digits := fun there => absurd (all '.' there) (by decide)
  rcases front with front | front
  · rwa [front]
  · rw [front, List.mem_cons, not_or]
    exact ⟨by decide, inside⟩

/-! ## Reading -/

/-- The components of a release are read just when each of them spells its number. -/
theorem readComponents_eq_ok_iff {parts : List (List Char)} {ns : List UInt32} :
    readComponents parts = .ok ns ↔
      List.Forall₂ (fun part n => Spells (String.ofList part) n.toNat) parts ns := by
  have reads (part : List Char) (n : Nat) :
      readNat maxU32 part = .ok n ↔ Spells (String.ofList part) n ∧ n ≤ maxU32 := by
    rw [← readNat_eq_ok_iff, String.toList_ofList]
  induction parts generalizing ns with
  | nil =>
      rw [readComponents, List.forall₂_nil_left_iff, Except.ok.injEq]
      exact eq_comm
  | cons part parts ih =>
      constructor
      · intro h
        obtain ⟨n, value, h⟩ := Schema.bind_eq_ok h
        obtain ⟨later, others, ⟨⟩⟩ := Schema.bind_eq_ok h
        obtain ⟨spells, fits⟩ := (reads part n).mp value
        have small : n < UInt32.size := Nat.lt_of_le_pred (by decide) fits
        exact .cons (by rwa [UInt32.toNat_ofNat_of_lt' small]) (ih.mp others)
      · intro h
        cases h with
        | @cons _ n _ ns spells later =>
            have fits : n.toNat ≤ maxU32 := Nat.le_pred_of_lt n.toNat_lt_size
            simp only [readComponents, (reads part n.toNat).mpr ⟨spells, fits⟩, ih.mpr later, bind,
              Except.bind, pure, Except.pure, UInt32.ofNat_toNat]

/-- The releases that components can make are those of two and of three numbers. -/
theorem ofComponents?_eq_some {ns : List UInt32} {v : Version} (h : ofComponents? ns = some v) :
    (∃ major minor, ns = [major, minor] ∧ v = .release major minor 0) ∨
      ∃ major minor patch, ns = [major, minor, patch] ∧ v = .release major minor patch := by
  unfold ofComponents? at h
  split at h
  · cases h
    exact .inl ⟨_, _, rfl, rfl⟩
  · cases h
    exact .inr ⟨_, _, _, rfl, rfl⟩
  · cases h

theorem ofList_dot (before after : List Char) :
    String.ofList (before ++ '.' :: after) = String.ofList before ++ "." ++ String.ofList after := by
  rw [List.append_cons, String.ofList_append, String.ofList_append]

theorem eq_of_one_part {s part : List Char} (h : splitAt '.' s = [part]) : s = part := by
  obtain ⟨-, ⟨-, same⟩ | ⟨rest, -, none⟩⟩ := splitAt_cons h
  · exact same
  · exact absurd none (splitAt_ne_nil '.' rest)

theorem eq_of_two_parts {s a b : List Char} (h : splitAt '.' s = [a, b]) :
    String.ofList s = String.ofList a ++ "." ++ String.ofList b := by
  obtain ⟨-, ⟨none, -⟩ | ⟨rest, rfl, later⟩⟩ := splitAt_cons h
  · cases none
  · rw [ofList_dot, eq_of_one_part later]

theorem eq_of_three_parts {s a b c : List Char} (h : splitAt '.' s = [a, b, c]) :
    String.ofList s = String.ofList a ++ "." ++ String.ofList b ++ "." ++ String.ofList c := by
  obtain ⟨-, ⟨none, -⟩ | ⟨rest, rfl, later⟩⟩ := splitAt_cons h
  · cases none
  · rw [ofList_dot, eq_of_two_parts later, ← String.append_assoc, ← String.append_assoc]

theorem spelled_of_readChars {s : List Char} {v : Version} (h : readChars s = .ok v) :
    Spelled (String.ofList s) v := by
  unfold readChars at h
  split at h
  · rename_i name
    cases h
    exact .dev (isDevName_iff.mp (by rwa [String.toList_ofList]))
  · split at h
    · cases h
    · rename_i ns read
      have spelled := readComponents_eq_ok_iff.mp read
      split at h
      · rename_i release
        cases h
        rcases ofComponents?_eq_some release with ⟨major, minor, rfl, rfl⟩ |
          ⟨major, minor, patch, rfl, rfl⟩
        · obtain ⟨a, _, first, more, parts⟩ := List.forall₂_cons_right_iff.mp spelled
          obtain ⟨b, _, second, none, rfl⟩ := List.forall₂_cons_right_iff.mp more
          cases none
          rw [eq_of_two_parts parts]
          exact .short first second
        · obtain ⟨a, _, first, more, parts⟩ := List.forall₂_cons_right_iff.mp spelled
          obtain ⟨b, _, second, last, rfl⟩ := List.forall₂_cons_right_iff.mp more
          obtain ⟨c, _, third, none, rfl⟩ := List.forall₂_cons_right_iff.mp last
          cases none
          rw [eq_of_three_parts parts]
          exact .full first second third
      · cases h

/-- A text with a dot in it is no name of the development branch. -/
theorem readChars_of_dot {s : List Char} {ns : List UInt32} {v : Version} (dot : '.' ∈ s)
    (read : readComponents (splitAt '.' s) = .ok ns) (release : ofComponents? ns = some v) :
    readChars s = .ok v := by
  have other : s.map Char.toLower ≠ ['d', 'e', 'v'] := by
    intro lowered
    have there : '.'.toLower ∈ s.map Char.toLower := List.mem_map_of_mem dot
    rw [lowered] at there
    exact absurd there (by decide)
  rw [readChars, if_neg other, read]
  simp only [release]

theorem splitAt_dot {a : String} {n : Nat} (spells : Spells a n) (rest : List Char) :
    splitAt '.' (a.toList ++ ".".toList ++ rest) = a.toList :: splitAt '.' rest := by
  rw [List.append_assoc]
  exact splitAt_append_cons (dot_not_mem_of_spells spells) rest

theorem readChars_of_spelled {t : String} {v : Version} (h : Spelled t v) :
    readChars t.toList = .ok v := by
  cases h with
  | dev name => rw [readChars, if_pos (isDevName_iff.mpr name)]
  | @short a b major minor first second =>
      have parts : splitAt '.' (a ++ "." ++ b).toList = [a.toList, b.toList] := by
        rw [String.toList_append, String.toList_append, splitAt_dot first,
          splitAt_of_not_mem (dot_not_mem_of_spells second)]
      have read : readComponents (splitAt '.' (a ++ "." ++ b).toList) = .ok [major, minor] := by
        rw [parts, readComponents_eq_ok_iff]
        simp only [List.forall₂_cons, String.ofList_toList, first, second, List.Forall₂.nil, and_self]
      exact readChars_of_dot (by simp) read rfl
  | @full a b c major minor patch first second third =>
      have parts : splitAt '.' (a ++ "." ++ b ++ "." ++ c).toList =
          [a.toList, b.toList, c.toList] := by
        have chars : (a ++ "." ++ b ++ "." ++ c).toList =
            a.toList ++ ".".toList ++ (b.toList ++ ".".toList ++ c.toList) := by simp
        rw [chars, splitAt_dot first, splitAt_dot second,
          splitAt_of_not_mem (dot_not_mem_of_spells third)]
      have read : readComponents (splitAt '.' (a ++ "." ++ b ++ "." ++ c).toList) =
          .ok [major, minor, patch] := by
        rw [parts, readComponents_eq_ok_iff]
        simp only [List.forall₂_cons, String.ofList_toList, first, second, third, List.Forall₂.nil,
          and_self]
      exact readChars_of_dot (by simp) read rfl

/-- What is read of a text is what the grammar says of the text between its blanks. -/
theorem read_eq_ok_iff {s : String} {v : Version} : read s = .ok v ↔ Spelled (trim s) v := by
  constructor
  · exact spelled_of_readChars
  · intro spelled
    have read := readChars_of_spelled spelled
    rwa [trim, String.toList_ofList] at read

/-- Every fault quotes the text between the blanks. -/
theorem message_of_read {s : String} {fault : Fault} (h : read s = .error fault) :
    ∃ reason, fault.message = "invalid product version '" ++ trim s ++ "': " ++ reason := by
  unfold read readChars at h
  split at h
  · cases h
  · split at h
    · cases h
      exact ⟨_, rfl⟩
    · split at h
      · cases h
      · cases h
        refine ⟨"expected major.minor[.patch]", ?_⟩
        rw [String.append_assoc]
        rfl

/-! ## Displaying -/

theorem spells_natText (n : Nat) : Spells (natText n) n := by
  refine ⟨decimal n, .inl ?_, decimal_ne_nil n, fun _ => isDigit_of_mem_decimal, digitsValue_decimal n⟩
  exact String.toList_ofList

theorem spelled_display (v : Version) : Spelled v.display v := by
  cases v with
  | dev => exact .dev ⟨'d', 'e', 'v', by decide, by simp⟩
  | release major minor patch =>
      exact .full (spells_natText _) (spells_natText _) (spells_natText _)

theorem isBlank_of_isDigit {c : Char} (h : isDigit c = true) : isBlank c = false := by
  unfold isDigit digitValue? at h
  split at h
  · rename_i digit
    simp only [Bool.and_eq_true, decide_eq_true_eq] at digit
    simp only [isBlank, Bool.or_eq_false_iff, Bool.and_eq_false_iff, decide_eq_false_iff_not,
      beq_eq_false_iff_ne]
    omega
  · cases h

theorem not_isBlank_display (v : Version) : ∀ c ∈ v.display.toList, isBlank c = false := by
  intro c there
  cases v with
  | dev =>
      have letters : (dev.display.toList.all fun c => !isBlank c) = true := by decide +kernel
      simpa using List.all_eq_true.mp letters c there
  | release major minor patch =>
      simp only [display, natText, String.toList_append, String.toList_ofList, List.mem_append] at there
      have digit (n : Nat) (inside : c ∈ decimal n) : isBlank c = false :=
        isBlank_of_isDigit (isDigit_of_mem_decimal inside)
      have dot (inside : c ∈ ".".toList) : isBlank c = false := by
        rw [List.mem_singleton.mp inside]
        rfl
      rcases there with (((inside | inside) | inside) | inside) | inside
      · exact digit _ inside
      · exact dot inside
      · exact digit _ inside
      · exact dot inside
      · exact digit _ inside

theorem read_display (v : Version) : read v.display = .ok v := by
  rw [read, trimChars_of_no_blank (not_isBlank_display v)]
  exact readChars_of_spelled (spelled_display v)

/-- Versions are written as texts and read back from them, blanks or none around. -/
theorem read_then_display (s : String) : (read s >>= fun v => read v.display) = read s := by
  cases given : read s with
  | error fault => rfl
  | ok v => exact read_display v

theorem display_injective : Function.Injective display := by
  intro v w same
  have read : read v.display = .ok w := by rw [same, read_display]
  rw [read_display] at read
  cases read
  rfl

theorem codec_keeps (depth : Nat) (v : Version) : codec.Keeps depth v :=
  Schema.Codec.spelled_keeps (by rw [read_display]; rfl) depth

/-- The versions that texts stand for are those of the grammar, every other text is refused with itself
in the message, and what is displayed or written for a version is read as that version. -/
theorem reading_follows_grammar :
    (∀ s : String, Text.Trims s.toList (Text.trim s).toList ∧
      (∀ v, read s = .ok v ↔ Spelled (Text.trim s) v) ∧
      ((¬ ∃ v, Spelled (Text.trim s) v) ↔ ∃ fault reason, read s = .error fault ∧
        (Error.invalidConfig (.version fault)).message =
          "Invalid configuration: invalid product version '" ++ Text.trim s ++ "': " ++ reason)) ∧
    (∀ v : Version, read v.display = .ok v ∧ codec.encode v = .text v.display ∧
      codec.ofJson (codec.encode v) = .ok v ∧ codec.ofText (codec.encode v).compact = .ok v) ∧
    (∀ s : String, (read s >>= fun v => read v.display) = read s) ∧
    Function.Injective display := by
  refine ⟨fun s => ⟨?_, fun v => read_eq_ok_iff, ?_⟩, fun v => ?_, read_then_display,
    display_injective⟩
  · rw [trim, String.toList_ofList]
    exact trims_trimChars s.toList
  · constructor
    · intro other
      cases given : read s with
      | ok v => exact absurd ⟨v, read_eq_ok_iff.mp given⟩ other
      | error fault =>
          obtain ⟨reason, words⟩ := message_of_read given
          have message : (Error.invalidConfig (.version fault)).message =
              "Invalid configuration: " ++ fault.message := rfl
          have opening : "Invalid configuration: invalid product version '" =
              "Invalid configuration: " ++ "invalid product version '" := by decide
          refine ⟨fault, reason, rfl, ?_⟩
          rw [message, words, opening]
          simp only [String.append_assoc]
    · rintro ⟨fault, -, refused, -⟩ ⟨v, spelled⟩
      rw [read_eq_ok_iff.mpr spelled] at refused
      cases refused
  · have keeps := codec_keeps 0 v
    exact ⟨read_display v, rfl, keeps.back .value trivial,
      Schema.Codec.ofText_compact keeps (Nat.zero_le _)⟩

end ClusterHarness.Version
