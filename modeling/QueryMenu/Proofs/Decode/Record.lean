import Mathlib.Data.List.Nodup
import Mathlib.Tactic.MkIffOfInductiveProp
import QueryMenu.Decode.Misfit
import QueryMenu.Proofs.Except

namespace QueryMenu

/-! What a record accepts.

The members are checked in their order, and the first fault is reported.  Whether there
is a fault at all does not depend on the order: no known name may come twice, every known
member must be readable, and in a closed record there may be no other.  In members that
pass, a known name stands for one value, wherever it stands.
-/

namespace Record

variable {ν α : Type} {record : Record ν} {seen : List String}
  {members others before after : List (String × ν)} {name other : String} {value fresh : ν}

def field? (record : Record ν) (name : String) : Option (Field ν) :=
  record.fields.find? fun field => field.name = name

theorem field?_eq_none_iff : record.field? name = none ↔ name ∉ record.names := by
  simp [field?, names]

theorem mem_names_of_field? {field : Field ν} (found : record.field? name = some field) :
    name ∈ record.names := by
  by_contra unknown
  rw [field?_eq_none_iff.mpr unknown] at found
  cases found

def known (record : Record ν) (members : List (String × ν)) : List String :=
  (members.map Prod.fst).filter (· ∈ record.names)

theorem mem_known_iff :
    name ∈ record.known members ↔ name ∈ members.map Prod.fst ∧ name ∈ record.names := by
  simp [known]

theorem known_append (before after : List (String × ν)) :
    record.known (before ++ after) = record.known before ++ record.known after := by
  simp [known]

theorem known_cons_of_mem (named : name ∈ record.names) (value : ν) (rest : List (String × ν)) :
    record.known ((name, value) :: rest) = name :: record.known rest := by
  simp [known, named]

theorem known_cons_of_not_mem (unknown : name ∉ record.names) (value : ν)
    (rest : List (String × ν)) : record.known ((name, value) :: rest) = record.known rest := by
  simp [known, unknown]

@[mk_iff]
structure Accepts (record : Record ν) (members : List (String × ν)) : Prop where
  closed : record.closed = true → ∀ member ∈ members, member.1 ∈ record.names
  distinct : (record.known members).Nodup
  readable : ∀ member ∈ members, ∀ field, record.field? member.1 = some field →
    field.check member.2 = .ok ()

theorem accepts_nil (record : Record ν) : record.Accepts [] :=
  ⟨by simp, by simp [known], by simp⟩

theorem accepts_cons_unknown (unknown : name ∉ record.names) (value : ν) :
    record.Accepts ((name, value) :: members) ↔
      record.closed = false ∧ record.Accepts members := by
  rw [accepts_iff, accepts_iff, known_cons_of_not_mem unknown]
  simp only [List.forall_mem_cons, field?_eq_none_iff.mpr unknown]
  cases record.closed <;> simp [unknown]

theorem accepts_cons_known {field : Field ν} (found : record.field? name = some field) (value : ν) :
    record.Accepts ((name, value) :: members) ↔
      name ∉ record.known members ∧ field.check value = .ok () ∧ record.Accepts members := by
  have named := mem_names_of_field? found
  rw [accepts_iff, accepts_iff, known_cons_of_mem named, List.nodup_cons]
  simp only [List.forall_mem_cons, found, named, Option.some.injEq, forall_eq', true_and]
  tauto

theorem check_eq_ok_iff_of_seen : record.check seen members = .ok () ↔
    record.Accepts members ∧ seen.Disjoint (record.known members) := by
  induction members generalizing seen with
  | nil => simp [check, accepts_nil, known]
  | cons member rest ih =>
      obtain ⟨name, value⟩ := member
      rw [check]
      cases found : record.fields.find? fun field => field.name = name with
      | none =>
          have unknown : name ∉ record.names := field?_eq_none_iff.mp found
          rw [accepts_cons_unknown unknown, known_cons_of_not_mem unknown]
          cases record.closed with
          | true => simp
          | false => simpa using ih
      | some field =>
          rw [accepts_cons_known found, known_cons_of_mem (mem_names_of_field? found),
            List.disjoint_cons_right]
          by_cases twice : name ∈ seen
          · simp [twice]
          · cases readable : field.check value with
            | error misfit => simp [twice, readable, Except.bind]
            | ok _ =>
                simp only [List.contains_iff_mem, twice, if_false, readable, Except.bind, ih,
                  List.disjoint_cons_left]
                tauto

theorem check_eq_ok_iff : record.check [] members = .ok () ↔ record.Accepts members := by
  simp [check_eq_ok_iff_of_seen]

/-! Acceptance does not depend on the order, nor on what the record does not know. -/

theorem Accepts.perm (accepts : record.Accepts members) (same : members.Perm others) :
    record.Accepts others where
  closed closed member listed := accepts.closed closed member (same.mem_iff.mpr listed)
  distinct := ((same.map Prod.fst).filter _).nodup_iff.mp accepts.distinct
  readable member listed := accepts.readable member (same.mem_iff.mpr listed)

theorem Accepts.sublist (accepts : record.Accepts members) (fewer : others.Sublist members) :
    record.Accepts others where
  closed closed member listed := accepts.closed closed member (fewer.subset listed)
  distinct := accepts.distinct.sublist ((fewer.map Prod.fst).filter _)
  readable member listed := accepts.readable member (fewer.subset listed)

theorem Accepts.append_unknown (accepts : record.Accepts members) (unclosed : record.closed = false)
    (unknown : ∀ member ∈ others, member.1 ∉ record.names) :
    record.Accepts (members ++ others) := by
  refine Accepts.perm (?_ : record.Accepts (others ++ members)) List.perm_append_comm
  induction others with
  | nil => exact accepts
  | cons member others ih =>
      rw [List.forall_mem_cons] at unknown
      rw [List.cons_append, accepts_cons_unknown unknown.1]
      exact ⟨unclosed, ih unknown.2⟩

/-! Values by name. -/

theorem Accepts.lookup_eq (accepts : record.Accepts members) (named : name ∈ record.names)
    (member : (name, value) ∈ members) : members.lookup name = some value := by
  obtain ⟨before, after, rfl⟩ := List.append_of_mem member
  have distinct := accepts.distinct
  rw [known_append, known_cons_of_mem named, List.nodup_middle, List.nodup_cons] at distinct
  refine List.lookup_eq_some_iff.mpr ⟨before, after, rfl, fun earlier listed => ?_⟩
  simp only [bne_iff_ne, ne_eq]
  rintro rfl
  exact distinct.1 (List.mem_append_left _ (mem_known_iff.mpr ⟨List.mem_map_of_mem listed, named⟩))

theorem Accepts.required_eq (accepts : record.Accepts members) (named : name ∈ record.names)
    (member : (name, value) ∈ members) (read : ν → Except Misfit α) :
    required members name read = read value := by
  rw [required, accepts.lookup_eq named member]

theorem Accepts.optional_eq (accepts : record.Accepts members) (named : name ∈ record.names)
    (member : (name, value) ∈ members) (read : ν → Except Misfit α) (absent : α) :
    optional members name read absent = read value := by
  rw [optional, accepts.lookup_eq named member]

theorem field_check_eq_ok_iff {read : ν → Except Misfit α} :
    (Record.field name read).check value = .ok () ↔ ∃ found, read value = .ok found := by
  simp [Record.field, Except.map_eq_ok_iff]

theorem optional_cases {read : ν → Except Misfit α} {absent found : α}
    (done : optional members name read absent = .ok found) :
    (∃ value, (name, value) ∈ members ∧ read value = .ok found) ∨
      (∀ value, (name, value) ∉ members) ∧ found = absent := by
  rw [optional] at done
  cases looked : members.lookup name with
  | none =>
      rw [looked] at done
      refine .inr ⟨fun value listed => ?_, (Except.ok.inj done).symm⟩
      simpa using List.lookup_eq_none_iff.mp looked _ listed
  | some value =>
      rw [looked] at done
      obtain ⟨before, after, rfl, -⟩ := List.lookup_eq_some_iff.mp looked
      exact .inl ⟨value, List.mem_append_right _ List.mem_cons_self, done⟩

theorem Accepts.exists_optional {read : ν → Except Misfit α} (accepts : record.Accepts members)
    (known : record.field? name = some (Record.field name read)) (absent : α) :
    ∃ found, optional members name read absent = .ok found := by
  rw [optional]
  cases looked : members.lookup name with
  | none => exact ⟨absent, rfl⟩
  | some value =>
      obtain ⟨before, after, rfl, -⟩ := List.lookup_eq_some_iff.mp looked
      have listed : (name, value) ∈ before ++ (name, value) :: after :=
        List.mem_append_right _ List.mem_cons_self
      have readable := field_check_eq_ok_iff.mp (accepts.readable _ listed _ known)
      exact readable

/-! One member left out, or given another value. -/

theorem Accepts.lookup_omit (accepts : record.Accepts (before ++ (name, value) :: after))
    (named : name ∈ record.names) : (before ++ after).lookup name = none := by
  have distinct := accepts.distinct
  rw [known_append, known_cons_of_mem named, List.nodup_middle, ← known_append,
    List.nodup_cons] at distinct
  refine List.lookup_eq_none_iff.mpr fun member listed => ?_
  simp only [bne_iff_ne, ne_eq]
  rintro rfl
  exact distinct.1 (mem_known_iff.mpr ⟨List.mem_map_of_mem listed, named⟩)

/-- A member that reads as the default may as well be left out. -/
theorem Accepts.optional_omit (accepts : record.Accepts (before ++ (name, value) :: after))
    (named : name ∈ record.names) {read : ν → Except Misfit α} {absent : α}
    (default : other = name → read value = .ok absent) :
    optional (before ++ after) other read absent =
      optional (before ++ (name, value) :: after) other read absent := by
  by_cases own : other = name
  · subst own
    rw [accepts.optional_eq named (List.mem_append_right _ List.mem_cons_self), default rfl,
      optional, accepts.lookup_omit named]
  · have different : (other == name) = false := by simpa using own
    simp only [optional, List.lookup_append, List.lookup_cons, different]

theorem optional_replace {read : ν → Except Misfit α} {absent : α}
    (alike : other = name → read fresh = read value) :
    optional (before ++ (name, fresh) :: after) other read absent =
      optional (before ++ (name, value) :: after) other read absent := by
  simp only [optional, List.lookup_append, List.lookup_cons]
  cases before.lookup other with
  | some found => rfl
  | none =>
      by_cases own : other = name
      · simpa [own] using alike own
      · have different : (other == name) = false := by simpa using own
        simp only [different]

theorem Accepts.replace (accepts : record.Accepts (before ++ (name, value) :: after))
    (alike : ∀ field, record.field? name = some field → field.check fresh = field.check value) :
    record.Accepts (before ++ (name, fresh) :: after) where
  closed closed := by
    have named := accepts.closed closed
    simp only [List.forall_mem_append, List.forall_mem_cons] at named ⊢
    exact named
  distinct := by simpa [known] using accepts.distinct
  readable := by
    have readable := accepts.readable
    simp only [List.forall_mem_append, List.forall_mem_cons] at readable ⊢
    refine ⟨readable.1, fun field found => ?_, readable.2.2⟩
    rw [alike field found, readable.2.1 field found]

end Record

end QueryMenu
