import Mathlib.Data.List.Forall2
import QueryMenu.DataSource.Fetch

namespace QueryMenu

/-! Resolver keys of rating configurations.

The first field of a text reaches up to its first separator, and what follows that separator
is cut in the same way.  So the key of a configuration is what stands behind its first bar,
up to the next one.  Any text with a bar has a key, which may be empty.
-/

namespace Text

variable {separator : Char} {text field : List Char}

theorem fields_ne_nil (separator : Char) (text : List Char) : fields separator text ≠ [] := by
  fun_cases fields separator text <;> simp

theorem fields_of_not_mem (unbroken : separator ∉ field) : fields separator field = [field] := by
  induction field with
  | nil => rfl
  | cons c field ih =>
      obtain ⟨other, later⟩ := not_or.mp (mt List.mem_cons.mpr unbroken)
      rw [fields, if_neg (Ne.symm other), ih later]

theorem fields_append_separator (unbroken : separator ∉ field) (rest : List Char) :
    fields separator (field ++ separator :: rest) = field :: fields separator rest := by
  induction field with
  | nil => rw [List.nil_append, fields, if_pos rfl]
  | cons c field ih =>
      obtain ⟨other, later⟩ := not_or.mp (mt List.mem_cons.mpr unbroken)
      rw [List.cons_append, fields, if_neg (Ne.symm other), ih later]

/-- The first field ends at the first separator, or with the text if there is none. -/
theorem head?_fields_eq_some_iff :
    (fields separator text).head? = some field ↔
      separator ∉ field ∧
        ∃ back, text = field ++ back ∧ (back = [] ∨ ∃ more, back = separator :: more) := by
  constructor
  · intro first
    by_cases broken : separator ∈ text
    · obtain ⟨front, rest, rfl, unbroken⟩ := List.eq_append_cons_of_mem broken
      rw [fields_append_separator unbroken, List.head?_cons, Option.some.injEq] at first
      subst first
      exact ⟨unbroken, separator :: rest, rfl, .inr ⟨rest, rfl⟩⟩
    · rw [fields_of_not_mem broken, List.head?_cons, Option.some.injEq] at first
      subst first
      exact ⟨broken, [], (List.append_nil text).symm, .inl rfl⟩
  · rintro ⟨unbroken, back, rfl, rfl | ⟨more, rfl⟩⟩
    · rw [List.append_nil, fields_of_not_mem unbroken, List.head?_cons]
    · rw [fields_append_separator unbroken, List.head?_cons]

/-- The second field is the first one of what follows the first separator. -/
theorem getElem?_one_fields_eq_some_iff :
    (fields separator text)[1]? = some field ↔
      ∃ front rest, text = front ++ separator :: rest ∧ separator ∉ front ∧
        (fields separator rest).head? = some field := by
  constructor
  · intro second
    have broken : separator ∈ text := by
      by_contra unbroken
      rw [fields_of_not_mem unbroken] at second
      cases second
    obtain ⟨front, rest, rfl, unbroken⟩ := List.eq_append_cons_of_mem broken
    rw [fields_append_separator unbroken, List.getElem?_cons_succ, ← List.head?_eq_getElem?]
      at second
    exact ⟨front, rest, rfl, unbroken, second⟩
  · rintro ⟨front, rest, rfl, unbroken, first⟩
    rw [fields_append_separator unbroken, List.getElem?_cons_succ, ← List.head?_eq_getElem?, first]

theorem getElem?_one_fields_eq_none_iff :
    (fields separator text)[1]? = none ↔ separator ∉ text := by
  constructor
  · intro absent broken
    obtain ⟨front, rest, rfl, unbroken⟩ := List.eq_append_cons_of_mem broken
    rw [fields_append_separator unbroken, List.getElem?_cons_succ, ← List.head?_eq_getElem?,
      List.head?_eq_none_iff] at absent
    exact fields_ne_nil separator rest absent
  · intro unbroken
    rw [fields_of_not_mem unbroken]
    rfl

end Text

/-- The key stands between the first bar of the configuration and the next bar, or the end. -/
def HoldsKey (config key : String) : Prop :=
  ∃ front back, config = front ++ "|" ++ key ++ back ∧
    '|' ∉ front.toList ∧ '|' ∉ key.toList ∧ (back = "" ∨ ∃ more, back = "|" ++ more)

theorem resolverKey?_eq_some_iff_holdsKey {config key : String} :
    resolverKey? config = some key ↔ HoldsKey config key := by
  have named : resolverKey? config = some key ↔
      (Text.fields '|' config.toList)[1]? = some key.toList := by
    rw [resolverKey?, Option.map_eq_some_iff]
    constructor
    · rintro ⟨field, second, rfl⟩
      rw [second, String.toList_ofList]
    · intro second
      exact ⟨key.toList, second, String.ofList_toList⟩
  rw [named, Text.getElem?_one_fields_eq_some_iff]
  constructor
  · rintro ⟨front, rest, parts, unbroken, first⟩
    obtain ⟨plain, back, rfl, ends⟩ := Text.head?_fields_eq_some_iff.mp first
    refine ⟨.ofList front, .ofList back, ?_, by simpa using unbroken, plain, ?_⟩
    · rw [← String.toList_inj, parts]
      simp
    · rcases ends with rfl | ⟨more, rfl⟩
      · exact .inl rfl
      · exact .inr ⟨.ofList more, by simp⟩
  · rintro ⟨front, back, rfl, unbroken, plain, ends⟩
    refine ⟨front.toList, key.toList ++ back.toList, by simp, unbroken,
      Text.head?_fields_eq_some_iff.mpr ⟨plain, back.toList, rfl, ?_⟩⟩
    rcases ends with rfl | ⟨more, rfl⟩
    · exact .inl rfl
    · exact .inr ⟨more.toList, by simp⟩

theorem resolverKey?_isSome_iff {config : String} :
    (resolverKey? config).isSome ↔ '|' ∈ config.toList := by
  rw [← not_iff_not, ← Text.getElem?_one_fields_eq_none_iff, Option.not_isSome_iff_eq_none,
    resolverKey?, Option.map_eq_none_iff]

theorem forall₂_holdsKey_resolverKeys (configs : List String) :
    List.Forall₂ HoldsKey (configs.filter fun config => '|' ∈ config.toList)
      (resolverKeys configs) := by
  induction configs with
  | nil => exact .nil
  | cons config rest ih =>
      rw [resolverKeys, List.filterMap_cons]
      cases found : resolverKey? config with
      | none =>
          have plain : ¬ '|' ∈ config.toList := by
            rw [← resolverKey?_isSome_iff, found]
            simp
          rw [List.filter_cons_of_neg (by simpa using plain)]
          exact ih
      | some key =>
          have broken : '|' ∈ config.toList := by
            rw [← resolverKey?_isSome_iff, found]
            rfl
          rw [List.filter_cons_of_pos (by simpa using broken)]
          exact .cons (resolverKey?_eq_some_iff_holdsKey.mp found) ih

/-- The key of a configuration is what stands behind its first bar, up to the next one, and
only a configuration without a bar has none.  The keys of a list are those of its
configurations with a bar, in their order and each as often as it occurs. -/
theorem resolverKey_grammar :
    (∀ config key, resolverKey? config = some key ↔ HoldsKey config key) ∧
    (∀ config, resolverKey? config = none ↔ '|' ∉ config.toList) ∧
    (∀ configs, List.Forall₂ HoldsKey (configs.filter fun config => '|' ∈ config.toList)
      (resolverKeys configs)) ∧
    ∀ first second, resolverKeys (first ++ second) = resolverKeys first ++ resolverKeys second := by
  refine ⟨fun _ _ => resolverKey?_eq_some_iff_holdsKey, fun config => ?_,
    forall₂_holdsKey_resolverKeys, fun first second => List.filterMap_append⟩
  rw [← resolverKey?_isSome_iff, Option.not_isSome_iff_eq_none]

example : resolverKeys ["A|KEY|B", "plain", "||B", "|KEY"] = ["KEY", "", "KEY"] := by
  decide

end QueryMenu
