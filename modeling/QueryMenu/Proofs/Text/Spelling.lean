import Mathlib.Data.List.Forall2
import Mathlib.Data.List.TakeWhile
import QueryMenu.Text.Basic

namespace QueryMenu.Text

/-! Words up to the white space around them and the case of their ASCII letters.

A word without white space in it is what trimming leaves of a text exactly if the text is the
word between white space.  Two words have the same letters exactly if they agree once all
their ASCII letters are small; a letter outside ASCII has no other case.
-/

variable {text word before after : List Char} {c d : Char}

/-! White space around a word. -/

theorem exists_trim (text : List Char) :
    ∃ before after, text = before ++ trim text ++ after ∧
      (∀ c ∈ before, isBlank c) ∧ ∀ c ∈ after, isBlank c := by
  have front : text.takeWhile isBlank ++ trimStart text = text := List.takeWhile_append_dropWhile
  have back : trim text ++ ((trimStart text).reverse.takeWhile isBlank).reverse =
      trimStart text := by
    rw [trim, trimEnd, trimStart, ← List.reverse_append, List.takeWhile_append_dropWhile,
      List.reverse_reverse]
  refine ⟨text.takeWhile isBlank, ((trimStart text).reverse.takeWhile isBlank).reverse, ?_, ?_, ?_⟩
  · rw [List.append_assoc, back, front]
  · exact fun c blank => List.mem_takeWhile_imp blank
  · exact fun c blank => List.mem_takeWhile_imp (List.mem_reverse.mp blank)

theorem trimStart_append (blank : ∀ c ∈ before, isBlank c) (text : List Char) :
    trimStart (before ++ text) = trimStart text :=
  List.dropWhile_append_of_pos blank

theorem trimStart_cons (solid : isBlank c = false) (rest : List Char) :
    trimStart (c :: rest) = c :: rest :=
  List.dropWhile_cons_of_neg (by simp [solid])

theorem trimStart_of_solid (solid : ∀ c ∈ word, isBlank c = false) : trimStart word = word := by
  cases word with
  | nil => rfl
  | cons c rest => exact trimStart_cons (solid c List.mem_cons_self) rest

theorem trimEnd_append (blank : ∀ c ∈ after, isBlank c) (text : List Char) :
    trimEnd (text ++ after) = trimEnd text := by
  rw [trimEnd, List.reverse_append, trimStart_append, trimEnd]
  exact fun c listed => blank c (List.mem_reverse.mp listed)

theorem trimEnd_of_solid (solid : ∀ c ∈ word, isBlank c = false) : trimEnd word = word := by
  rw [trimEnd, trimStart_of_solid, List.reverse_reverse]
  exact fun c listed => solid c (List.mem_reverse.mp listed)

theorem trim_of_solid (front : ∀ c ∈ before, isBlank c) (back : ∀ c ∈ after, isBlank c)
    (solid : ∀ c ∈ word, isBlank c = false) : trim (before ++ word ++ after) = word := by
  rw [trim, List.append_assoc, trimStart_append front]
  cases word with
  | nil =>
      have gone : trimStart after = [] := List.dropWhile_eq_nil_iff.mpr back
      rw [List.nil_append, gone]
      rfl
  | cons c rest =>
      rw [List.cons_append, trimStart_cons (solid c List.mem_cons_self), ← List.cons_append,
        trimEnd_append back, trimEnd_of_solid solid]

/-! The case of letters. -/

/-- The small and the capital form of one ASCII letter. -/
def IsSmallOf (small capital : Char) : Prop :=
  'A' ≤ capital ∧ capital ≤ 'Z' ∧ small.toNat = capital.toNat + 32

/-- The characters are the same, or one ASCII letter in its two cases. -/
def SameLetter (c d : Char) : Prop :=
  c = d ∨ IsSmallOf c d ∨ IsSmallOf d c

theorem isSmallOf_iff {small capital : Char} :
    IsSmallOf small capital ↔
      65 ≤ capital.toNat ∧ capital.toNat ≤ 90 ∧ small.toNat = capital.toNat + 32 :=
  Iff.rfl

theorem toNat_toLower (c : Char) :
    c.toLower.toNat = if 65 ≤ c.toNat ∧ c.toNat ≤ 90 then c.toNat + 32 else c.toNat := by
  split
  · rename_i between
    have below : c.val.toNat ≤ 90 := between.2
    have lowered : c.toLower.toNat = (c.val + 32).toNat := congrArg Char.toNat (dif_pos between)
    rw [lowered]
    exact (UInt32.toNat_add c.val 32).trans (Nat.mod_eq_of_lt (by simp; omega))
  · rename_i outside
    exact congrArg Char.toNat (dif_neg outside)

theorem sameLetter_iff_toLower_eq : SameLetter c d ↔ c.toLower = d.toLower := by
  rw [SameLetter, isSmallOf_iff, isSmallOf_iff, ← Char.toNat_inj, ← Char.toNat_inj, toNat_toLower,
    toNat_toLower]
  split <;> split <;> omega

theorem forall₂_sameLetter_iff {other : List Char} :
    List.Forall₂ SameLetter word other ↔ word.map Char.toLower = other.map Char.toLower := by
  rw [← List.forall₂_eq_eq_eq, List.forall₂_map_left_iff, List.forall₂_map_right_iff]
  simp only [← sameLetter_iff_toLower_eq]

theorem toLower_of_isBlank (blank : isBlank c) : c.toLower = c := by
  have noCapital : ¬ (65 ≤ c.toNat ∧ c.toNat ≤ 90) := by
    simp only [isBlank, blankRanges, List.any_cons, List.any_nil, Bool.or_false, Bool.or_eq_true,
      Bool.and_eq_true, decide_eq_true_eq] at blank
    omega
  rw [← Char.toNat_inj, toNat_toLower, if_neg noCapital]

/-- A letter in another case is no white space if the letter itself is none. -/
theorem isBlank_eq_false_of_forall₂_sameLetter {other : List Char}
    (same : List.Forall₂ SameLetter word other) (small : other.map Char.toLower = other)
    (solid : ∀ c ∈ other, isBlank c = false) : ∀ c ∈ word, isBlank c = false := by
  intro c listed
  by_contra blank
  have kept : c.toLower = c := toLower_of_isBlank (by simpa using blank)
  have found : c.toLower ∈ other := by
    rw [← small, ← forall₂_sameLetter_iff.mp same]
    exact List.mem_map_of_mem listed
  rw [kept] at found
  exact blank (solid c found)

end QueryMenu.Text
