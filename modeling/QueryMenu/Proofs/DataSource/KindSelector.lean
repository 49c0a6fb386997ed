import QueryMenu.Proofs.DataSource.Tickets
import QueryMenu.Proofs.Text.Spelling

namespace QueryMenu

/-! What the text of a kind selector does.

The empty text and the placeholder's own text mean the placeholder, whatever else they may
spell.  Of the other texts those mean a kind that spell its name, up to white space around it
and the case of its letters, and the rest mean nothing.  A text means one thing at most, and
on a row on screen different meanings have different effects, so from what happens one can
tell what was meant.
-/

namespace SourceKind

/-- The text is the kind's name with white space around it, in letters of either case. -/
def SpelledBy (kind : SourceKind) (text : String) : Prop :=
  ∃ before word after, text.toList = before ++ word ++ after ∧
    (∀ c ∈ before, Text.isBlank c) ∧ (∀ c ∈ after, Text.isBlank c) ∧
    List.Forall₂ Text.SameLetter word kind.name.toList

variable {kind other : SourceKind} {text : String} {word : List Char}

theorem map_toLower_name (kind : SourceKind) :
    kind.name.toList.map Char.toLower = kind.name.toList := by
  cases kind <;> decide

theorem isBlank_name (kind : SourceKind) : ∀ c ∈ kind.name.toList, Text.isBlank c = false := by
  have solid : kind.name.toList.any Text.isBlank = false := by
    cases kind <;> decide
  simpa using solid

theorem find?_name_eq_some_iff :
    (all.find? fun kind => kind.name.toList = word) = some kind ↔ word = kind.name.toList := by
  constructor
  · intro found
    have named := List.find?_some (p := fun kind : SourceKind => kind.name.toList = word) found
    exact (of_decide_eq_true named).symm
  · rintro rfl
    cases kind <;> decide

theorem spelledBy_iff_trim :
    kind.SpelledBy text ↔ (Text.trim text.toList).map Char.toLower = kind.name.toList := by
  constructor
  · rintro ⟨before, word, after, parts, front, back, same⟩
    have solid := Text.isBlank_eq_false_of_forall₂_sameLetter same kind.map_toLower_name
      kind.isBlank_name
    rw [parts, Text.trim_of_solid front back solid, Text.forall₂_sameLetter_iff.mp same,
      kind.map_toLower_name]
  · intro spelled
    obtain ⟨before, after, parts, front, back⟩ := Text.exists_trim text.toList
    refine ⟨before, _, after, parts, front, back, Text.forall₂_sameLetter_iff.mpr ?_⟩
    rw [spelled, kind.map_toLower_name]

theorem ofText?_eq_some_iff : ofText? text = some kind ↔ kind.SpelledBy text := by
  rw [spelledBy_iff_trim]
  exact find?_name_eq_some_iff

theorem SpelledBy.unique (first : kind.SpelledBy text) (second : other.SpelledBy text) :
    kind = other :=
  Option.some.inj ((ofText?_eq_some_iff.mpr first).symm.trans (ofText?_eq_some_iff.mpr second))

end SourceKind

namespace DataSource.Menu

variable {menu : Menu} {row : RowId} {view : RowView} {text : String} {kind : SourceKind}

theorem readKind_of_placeholder (shown : text = "" ∨ text = menu.labels.typePlaceholder) :
    menu.readKind text = some .placeholder := by
  rw [readKind, Choice.ofControl, if_pos shown.symm]

theorem readKind_of_other (other : ¬ (text = "" ∨ text = menu.labels.typePlaceholder)) :
    menu.readKind text = (SourceKind.ofText? text).map .value := by
  rw [readKind, Choice.ofControl, if_neg (mt Or.symm other)]

theorem readKind_eq_placeholder_iff :
    menu.readKind text = some .placeholder ↔
      text = "" ∨ text = menu.labels.typePlaceholder := by
  refine ⟨fun read => ?_, readKind_of_placeholder⟩
  by_contra other
  rw [readKind_of_other other, Option.map_eq_some_iff] at read
  obtain ⟨kind, -, same⟩ := read
  cases same

theorem readKind_eq_value_iff :
    menu.readKind text = some (.value kind) ↔
      ¬ (text = "" ∨ text = menu.labels.typePlaceholder) ∧ kind.SpelledBy text := by
  by_cases shown : text = "" ∨ text = menu.labels.typePlaceholder
  · simp [readKind_of_placeholder shown, shown]
  · simp [readKind_of_other shown, shown, SourceKind.ofText?_eq_some_iff]

theorem readKind_eq_none_iff :
    menu.readKind text = none ↔
      ¬ (text = "" ∨ text = menu.labels.typePlaceholder) ∧
        ∀ kind : SourceKind, ¬ kind.SpelledBy text := by
  by_cases shown : text = "" ∨ text = menu.labels.typePlaceholder
  · simp [readKind_of_placeholder shown, shown]
  · simp [readKind_of_other shown, shown, Option.eq_none_iff_forall_ne_some,
      SourceKind.ofText?_eq_some_iff]

namespace Coherent

variable (coherent : menu.Coherent)
include coherent

theorem kind_chooseKind (found : menu.rows.get? row = some view) (choice : Choice SourceKind) :
    ((menu.chooseKind row choice).menu.rows.get? row).map RowView.kind =
      some choice.toOption := by
  rw [coherent.chooseKind_eq, get?_turn, found]
  cases choice with
  | placeholder => simp [RowView.chooseKind, RowView.startOver, Turn.result, RowView.reset,
      RowView.renew, RowView.unfill, Choice.toOption]
  | value kind => simp [RowView.chooseKind, Turn.result, RowView.kind_ask, Choice.toOption]

theorem chooseKind_inj (found : menu.rows.get? row = some view)
    {first second : Choice SourceKind} :
    menu.chooseKind row first = menu.chooseKind row second ↔ first = second := by
  refine ⟨fun same => ?_, congrArg _⟩
  have kinds := coherent.kind_chooseKind found first
  rw [same, coherent.kind_chooseKind found second, Option.some.injEq] at kinds
  cases first <;> cases second <;> simp_all [Choice.toOption]

/-- A text that means nothing is ignored, and no other is. -/
theorem handle_eq_unhandled_iff :
    menu.handle (.chooseKind row text) = .unhandled menu ↔ menu.readKind text = none := by
  cases read : menu.readKind text with
  | none => simp only [handle, read]
  | some meant =>
      simp only [handle, read, reduceCtorEq, iff_false]
      intro ignored
      have answered := congrArg Reply.answer ignored
      cases found : menu.rows.get? row with
      | none =>
          rw [coherent.chooseKind_eq, turn_missing found] at answered
          cases answered
      | some view =>
          rw [coherent.chooseKind_answer found] at answered
          cases answered

/-- What a text did to a row on screen tells what it was read as. -/
theorem handle_eq_chooseKind_iff (found : menu.rows.get? row = some view)
    (choice : Choice SourceKind) :
    menu.handle (.chooseKind row text) = menu.chooseKind row choice ↔
      menu.readKind text = some choice := by
  cases read : menu.readKind text with
  | some meant => simp only [handle, read, coherent.chooseKind_inj found, Option.some.injEq]
  | none =>
      simp only [handle, read, reduceCtorEq, iff_false]
      intro ignored
      have answered := congrArg Reply.answer ignored
      rw [coherent.chooseKind_answer found] at answered
      cases answered

end Coherent

/-- On a row on screen the empty text and the placeholder's text choose the placeholder, and of
the other texts those that spell a kind choose that kind.  What is left is ignored on any row;
a row that is not on screen refuses the rest, and no text spells two kinds. -/
theorem run_start_chooseKind (labels : DataSourceLabels) (operations : List Operation)
    (lifecycle : Lifecycle) (row : RowId) (text : String) :
    let menu := { (start labels).run operations with lifecycle }
    let reply := menu.handle (.chooseKind row text)
    let empty := text = "" ∨ text = labels.typePlaceholder
    ((menu.rows.get? row).isSome →
      (reply = menu.chooseKind row .placeholder ↔ empty) ∧
      ∀ kind : SourceKind,
        reply = menu.chooseKind row (.value kind) ↔ ¬ empty ∧ kind.SpelledBy text) ∧
    (reply = .unhandled menu ↔ ¬ empty ∧ ∀ kind : SourceKind, ¬ kind.SpelledBy text) ∧
    (menu.rows.get? row = none →
      reply = .unhandled menu ∨ reply = .refused menu (.unknownRow row)) ∧
    ∀ kind other : SourceKind, kind.SpelledBy text → other.SpelledBy text → kind = other := by
  intro menu reply empty
  have coherent : menu.Coherent := (run_start_coherent labels operations).of_same rfl rfl rfl
  have labelled : menu.labels = labels := (start_coherent labels).run_labels operations
  refine ⟨fun present => ?_, ?_, fun missing => ?_, fun kind other => SourceKind.SpelledBy.unique⟩
  · obtain ⟨view, found⟩ := Option.isSome_iff_exists.mp present
    refine ⟨?_, fun kind => ?_⟩
    · rw [coherent.handle_eq_chooseKind_iff found, readKind_eq_placeholder_iff, labelled]
    · rw [coherent.handle_eq_chooseKind_iff found, readKind_eq_value_iff, labelled]
  · rw [coherent.handle_eq_unhandled_iff, readKind_eq_none_iff, labelled]
  · cases read : menu.readKind text with
    | none => exact .inl (coherent.handle_eq_unhandled_iff.mpr read)
    | some meant =>
        refine .inr ?_
        have refused := coherent.chooseKind_eq row meant
        rw [turn_missing missing] at refused
        simpa only [reply, handle, read] using refused

/-- A placeholder that spells a kind, the same word between white space, and a row that was
never on screen. -/
theorem run_start_chooseKind_padded :
    let menu := (start { typePlaceholder := "Live" }).run [.addRow]
    let padded := "\u00a0lIVE\u3000"
    (menu.rows.get? ⟨1⟩).isSome ∧
      SourceKind.live.SpelledBy "Live" ∧
      menu.handle (.chooseKind ⟨1⟩ "Live") = menu.chooseKind ⟨1⟩ .placeholder ∧
      SourceKind.live.SpelledBy padded ∧
      menu.handle (.chooseKind ⟨1⟩ padded) = menu.chooseKind ⟨1⟩ (.value .live) ∧
      (∀ kind : SourceKind, kind.SpelledBy padded → kind = .live) ∧
      menu.rows.get? ⟨2⟩ = none ∧
      (menu.handle (.chooseKind ⟨2⟩ padded) = .unhandled menu ∨
        menu.handle (.chooseKind ⟨2⟩ padded) = .refused menu (.unknownRow ⟨2⟩)) := by
  intro menu padded
  have present : (menu.rows.get? ⟨1⟩).isSome := by decide
  have missing : menu.rows.get? ⟨2⟩ = none := by decide
  have bare : SourceKind.live.SpelledBy "Live" :=
    ⟨[], "Live".toList, [], rfl, by simp, by simp, Text.forall₂_sameLetter_iff.mpr (by decide)⟩
  have spelled : SourceKind.live.SpelledBy padded :=
    ⟨['\u00a0'], "lIVE".toList, ['\u3000'], by decide, List.forall_mem_singleton.mpr (by decide),
      List.forall_mem_singleton.mpr (by decide), Text.forall₂_sameLetter_iff.mpr (by decide)⟩
  have atRow := run_start_chooseKind { typePlaceholder := "Live" } [.addRow] menu.lifecycle
  obtain ⟨named, -, -, -⟩ := atRow ⟨1⟩ "Live"
  obtain ⟨known, -, -, unique⟩ := atRow ⟨1⟩ padded
  obtain ⟨-, -, refused, -⟩ := atRow ⟨2⟩ padded
  refine ⟨present, bare, (named present).1.mpr (.inr rfl), spelled, ?_, ?_, missing,
    refused missing⟩
  · exact ((known present).2 .live).mpr ⟨by decide, spelled⟩
  · exact fun kind other => unique kind .live other spelled

end DataSource.Menu

end QueryMenu
