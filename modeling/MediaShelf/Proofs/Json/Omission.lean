import MediaShelf.Json.Record
import MediaShelf.Proofs.Json.Printed
import Mathlib.Data.List.Forall2

/-!
# Defaults that are left out

A writer gives all fields of a record; whoever writes by hand leaves out what stands at its default.
`OmitsDefaults` says when a value is what is left of another one, for values of a given shape: from
any of the objects inside, at any depth, members may be gone whose values are the defaults of their
fields.

A reader that gives a value back from whatever is left of what its writer wrote is said to restore
it. Restoring is built up along the shape: a record is restored if its fields are, and in a record a
field is found under its name or is absent and stands at its default.
-/

namespace MediaShelf.Json

/-- A field of a record, the values of which have a shape. -/
structure Field (σ : Type) where
  name : String
  /-- The value that the field may be left out for. -/
  default : Option Json
  shape : σ

/-- What a value is made of. -/
inductive Shape where
  /-- A value from which nothing is left out. -/
  | leaf
  | list (item : Shape)
  | record (fields : List (Field Shape))

/-- A field that is always written. -/
def Field.always (name : String) (shape : Shape) : Field Shape :=
  ⟨name, none, shape⟩

/-- A field that may be left out for a value. -/
def Field.unless (name : String) (default : Json) (shape : Shape) : Field Shape :=
  ⟨name, some default, shape⟩

/-- A value is what is left of another one when defaults are left out. -/
inductive OmitsDefaults : Shape → Json → Json → Prop where
  /-- Nothing is left out. -/
  | whole (shape : Shape) (value : Json) : OmitsDefaults shape value value
  | item {shape : Shape} {value left : Json} {items lefts : List Json}
      (first : OmitsDefaults shape value left)
      (others : OmitsDefaults (.list shape) (.arr items) (.arr lefts)) :
      OmitsDefaults (.list shape) (.arr (value :: items)) (.arr (left :: lefts))
  /-- A member is kept, and something may be left out of its value. -/
  | kept {field : Field Shape} {fields : List (Field Shape)} {value left : Json}
      {members lefts : List (String × Json)} (first : OmitsDefaults field.shape value left)
      (others : OmitsDefaults (.record fields) (.obj members) (.obj lefts)) :
      OmitsDefaults (.record (field :: fields)) (.obj ((field.name, value) :: members))
        (.obj ((field.name, left) :: lefts))
  /-- A member is gone. -/
  | gone {field : Field Shape} {fields : List (Field Shape)} {value : Json}
      {members lefts : List (String × Json)} (at_default : field.default = some value)
      (others : OmitsDefaults (.record fields) (.obj members) (.obj lefts)) :
      OmitsDefaults (.record (field :: fields)) (.obj ((field.name, value) :: members))
        (.obj lefts)

namespace OmitsDefaults

variable {shape : Shape} {value left : Json}

theorem eq_of_leaf (h : OmitsDefaults .leaf value left) : left = value := by
  cases h with
  | whole => rfl

theorem eq_of_null (h : OmitsDefaults shape .null left) : left = .null := by
  cases h with
  | whole => rfl

theorem exists_items {items : List Json} (h : OmitsDefaults (.list shape) (.arr items) left) :
    ∃ lefts, left = .arr lefts ∧ List.Forall₂ (OmitsDefaults shape) items lefts := by
  induction items generalizing left with
  | nil =>
      cases h with
      | whole => exact ⟨[], rfl, .nil⟩
  | cons item items ih =>
      cases h with
      | whole => exact ⟨item :: items, rfl, List.forall₂_same.2 fun item _ => .whole shape item⟩
      | item first others =>
          obtain ⟨lefts, heq, hothers⟩ := ih others
          cases heq
          exact ⟨_, rfl, .cons first hothers⟩

/-- The first member is kept, perhaps not all of it, or it is gone. -/
theorem kept_or_gone {field : Field Shape} {fields : List (Field Shape)}
    {members : List (String × Json)}
    (h : OmitsDefaults (.record (field :: fields)) (.obj ((field.name, value) :: members)) left) :
    (∃ first others, left = .obj ((field.name, first) :: others) ∧
        OmitsDefaults field.shape value first ∧
        OmitsDefaults (.record fields) (.obj members) (.obj others)) ∨
      ∃ others, left = .obj others ∧ field.default = some value ∧
        OmitsDefaults (.record fields) (.obj members) (.obj others) := by
  cases h with
  | whole => exact .inl ⟨value, members, rfl, .whole _ _, .whole _ _⟩
  | kept first others => exact .inl ⟨_, _, rfl, first, others⟩
  | gone at_default others => exact .inr ⟨_, rfl, at_default, others⟩

end OmitsDefaults

/-! ## The fields of a record -/

/-- A record gives what is left of the value of a field, or it does not give the field, which then
stands at its default. -/
inductive Record.Gives (record : Record) (field : Field Shape) (value : Json) : Prop where
  | value {left : Json} (found : record.value? field.name = some left)
      (omits : OmitsDefaults field.shape value left)
  | default (absent : record.value? field.name = none) (at_default : field.default = some value)

theorem Record.value?_append {front : List (String × Json)} {name : String}
    (hfront : name ∉ front.map (·.1)) (members : List (String × Json)) :
    value? ⟨front ++ members⟩ name = value? ⟨members⟩ name := by
  induction front with
  | nil => rfl
  | cons member front ih =>
      rw [List.map_cons, List.mem_cons, not_or] at hfront
      rw [← ih hfront.2, value?, value?, List.cons_append, List.lookup_cons,
        beq_false_of_ne hfront.1]

theorem Record.value?_eq_none {members : List (String × Json)} {name : String}
    (h : name ∉ members.map (·.1)) : value? ⟨members⟩ name = none := by
  have happend := value?_append h []
  rwa [List.append_nil] at happend

/-- The induction is on the fields. The members in front, those of the fields before, make it go
through: none of them hides a member behind. -/
theorem OmitsDefaults.gives {fields : List (Field Shape)} {members : List (String × Json)}
    {left : Json} (h : OmitsDefaults (.record fields) (.obj members) left)
    (hnames : members.map (·.1) = fields.map (·.name)) (hnodup : (fields.map (·.name)).Nodup)
    (front : List (String × Json)) (hfront : ∀ name ∈ fields.map (·.name), name ∉ front.map (·.1)) :
    ∃ lefts, left = .obj lefts ∧ (lefts.map (·.1)).Sublist (fields.map (·.name)) ∧
      List.Forall₂ (fun field member => Record.Gives ⟨front ++ lefts⟩ field member.2)
        fields members := by
  induction fields generalizing members left front with
  | nil =>
      rw [List.map_nil, List.map_eq_nil_iff] at hnames
      subst hnames
      cases h with
      | whole => exact ⟨[], rfl, .slnil, .nil⟩
  | cons field fields ih =>
      obtain ⟨⟨name, value⟩, others, rfl, rfl, hothers⟩ := List.map_eq_cons_iff.1 hnames
      rw [List.map_cons, List.nodup_cons] at hnodup
      have hname : field.name ∉ front.map (·.1) := hfront _ List.mem_cons_self
      obtain ⟨first, lefts, rfl, hfirst, hrest⟩ | ⟨lefts, rfl, hdefault, hrest⟩ := h.kept_or_gone
      · have hfront' : ∀ name ∈ fields.map (·.name),
            name ∉ (front ++ [(field.name, first)]).map (·.1) := by
          intro name hmem
          rw [List.map_append, List.mem_append, not_or, List.map_singleton, List.mem_singleton]
          refine ⟨hfront name (List.mem_cons_of_mem _ hmem), ?_⟩
          rintro rfl
          exact hnodup.1 hmem
        obtain ⟨lefts', heq, hsub, hgives⟩ := ih hrest hothers hnodup.2 _ hfront'
        cases heq
        rw [← List.append_cons] at hgives
        refine ⟨_, rfl, hsub.cons_cons _, .cons (.value ?_ hfirst) hgives⟩
        rw [Record.value?_append hname, Record.value?, List.lookup_cons_self]
      · obtain ⟨lefts', heq, hsub, hgives⟩ := ih hrest hothers hnodup.2 front
          fun name hmem => hfront name (List.mem_cons_of_mem _ hmem)
        cases heq
        refine ⟨_, rfl, hsub.cons _, .cons (.default ?_ hdefault) hgives⟩
        rw [Record.value?_append hname]
        exact Record.value?_eq_none fun hmem => hnodup.1 (hsub.subset hmem)

/-- An object with no names but those of the fields, each at most once, is a record. -/
theorem Record.ofJson?_of_sublist {names : List String} {members : List (String × Json)}
    (hnodup : names.Nodup) (hsub : (members.map (·.1)).Sublist names) :
    Record.ofJson? names (.obj members) = some ⟨members⟩ := by
  have hknown : members.filter (fun member => names.contains member.1) = members := by
    rw [List.filter_eq_self]
    exact fun member hmember =>
      List.elem_eq_true_of_mem (hsub.subset (List.mem_map_of_mem hmember))
  rw [Record.ofJson?, hknown]
  exact if_pos (hnodup.sublist hsub)

/-- A reader of records goes on with a record that gives all of the fields. -/
theorem OmitsDefaults.bind_record {α : Type} {fields : List (Field Shape)}
    {members : List (String × Json)} {left : Json} {names : List String}
    {read : Record → Option α} {a : α}
    (h : OmitsDefaults (.record fields) (.obj members) left)
    (hmembers : members.map (·.1) = names) (hfields : fields.map (·.name) = names)
    (hnodup : names.Nodup)
    (hread : ∀ record : Record,
      List.Forall₂ (fun field member => record.Gives field member.2) fields members →
        read record = some a) :
    (Record.ofJson? names left >>= read) = some a := by
  subst hfields
  obtain ⟨lefts, rfl, hsub, hgives⟩ := h.gives hmembers hnodup [] fun _ _ => List.not_mem_nil
  rw [Record.ofJson?_of_sublist hnodup hsub, Option.bind_eq_bind, Option.bind_some]
  exact hread ⟨lefts⟩ hgives

/-! ## What writers write is plain -/

@[simp]
theorem isPlain_ofNat (n : Nat) : IsPlain (.ofNat n) :=
  .int _

@[simp]
theorem isPlain_obj_nil : IsPlain (.obj []) :=
  .obj fun _ hmember => absurd hmember List.not_mem_nil

@[simp]
theorem isPlain_obj_cons {key : String} {value : Json} {members : List (String × Json)} :
    IsPlain (.obj ((key, value) :: members)) ↔ IsPlain value ∧ IsPlain (.obj members) := by
  rw [isPlain_obj_iff, List.forall_mem_cons, ← isPlain_obj_iff]

@[simp]
theorem isPlain_arr_cons {item : Json} {items : List Json} :
    IsPlain (.arr (item :: items)) ↔ IsPlain item ∧ IsPlain (.arr items) := by
  rw [isPlain_arr_iff, List.forall_mem_cons, ← isPlain_arr_iff]

variable {α : Type} {write : α → Json}

@[simp]
theorem isPlain_ofList (h : ∀ a, IsPlain (write a)) (as : List α) : IsPlain (ofList write as) := by
  refine .arr fun item hitem => ?_
  obtain ⟨a, -, rfl⟩ := List.mem_map.1 hitem
  exact h a

@[simp]
theorem isPlain_ofOption (h : ∀ a, IsPlain (write a)) (a? : Option α) :
    IsPlain (ofOption write a?) := by
  cases a? with
  | none => exact .null
  | some a => exact h a

/-- What is left of a plain value is plain. -/
theorem OmitsDefaults.isPlain {shape : Shape} {value left : Json} (hvalue : IsPlain value)
    (h : OmitsDefaults shape value left) : IsPlain left := by
  induction h with
  | whole => exact hvalue
  | item _ _ ihfirst ihothers =>
      rw [isPlain_arr_cons] at hvalue ⊢
      exact ⟨ihfirst hvalue.1, ihothers hvalue.2⟩
  | kept _ _ ihfirst ihothers =>
      rw [isPlain_obj_cons] at hvalue ⊢
      exact ⟨ihfirst hvalue.1, ihothers hvalue.2⟩
  | gone _ _ ihothers =>
      rw [isPlain_obj_cons] at hvalue
      exact ihothers hvalue.2

/-! ## Readers that restore what was written -/

variable {shape : Shape} {read : Json → Option α}

/-- A reader restores what a writer has written, also if defaults are left out of it. What is
written is plain, so it is read from its text as well. -/
structure Restores (shape : Shape) (write : α → Json) (read : Json → Option α) : Prop where
  read_left {a : α} {left : Json} (h : OmitsDefaults shape (write a) left) : read left = some a
  isPlain_write (a : α) : IsPlain (write a)

namespace Restores

theorem read_write (h : Restores shape write read) (a : α) : read (write a) = some a :=
  h.read_left (.whole shape (write a))

theorem leaf (hread : ∀ a, read (write a) = some a) (hplain : ∀ a, IsPlain (write a)) :
    Restores .leaf write read where
  read_left homits := by rw [homits.eq_of_leaf, hread]
  isPlain_write := hplain

theorem mapM_left (h : Restores shape write read) {as : List α} {lefts : List Json}
    (hlefts : List.Forall₂ (OmitsDefaults shape) (as.map write) lefts) :
    lefts.mapM read = some as := by
  induction as generalizing lefts with
  | nil =>
      cases hlefts
      rfl
  | cons a as ih =>
      cases hlefts with
      | cons hfirst hothers =>
          rw [List.mapM_cons, h.read_left hfirst, ih hothers]
          rfl

theorem list (h : Restores shape write read) :
    Restores (.list shape) (ofList write) (list? read) where
  read_left homits := by
    obtain ⟨lefts, rfl, hlefts⟩ := homits.exists_items
    exact h.mapM_left hlefts
  isPlain_write := isPlain_ofList h.isPlain_write

theorem nullable (h : Restores shape write read) (hnull : read .null = none) :
    Restores shape (ofOption write) (nullable? read) where
  read_left {a? left} homits := by
    cases a? with
    | none =>
        rw [ofOption] at homits
        rw [homits.eq_of_null, nullable?]
    | some a =>
        have hread := h.read_left homits
        rw [nullable?, hread, Option.map_some]
        rintro rfl
        rw [hnull] at hread
        cases hread
  isPlain_write := isPlain_ofOption h.isPlain_write

theorem required (h : Restores shape write read) {record : Record} {name : String} {a : α}
    (hgives : record.Gives (.always name shape) (write a)) :
    record.required name read = some a := by
  cases hgives with
  | @value left found omits =>
      have hfound : record.value? name = some left := found
      rw [Record.required, hfound, Option.bind_some]
      exact h.read_left omits
  | default absent at_default => cases at_default

theorem defaulted (h : Restores shape write read) (fallback : α) {record : Record} {name : String}
    {a : α} (hgives : record.Gives (.unless name (write fallback) shape) (write a)) :
    record.defaulted name read fallback = some a := by
  cases hgives with
  | @value left found omits =>
      have hfound : record.value? name = some left := found
      rw [Record.defaulted, hfound]
      exact h.read_left omits
  | default absent at_default =>
      have habsent : record.value? name = none := absent
      have hsame : write fallback = write a := Option.some.inj at_default
      rw [Record.defaulted, habsent, ← h.read_write fallback, hsame]
      exact h.read_write a

/-- What was written, less some of the defaults, is read from its text. -/
theorem read_render (h : Restores shape write read) {a : α} {left : Json}
    (homits : OmitsDefaults shape (write a) left) :
    (parse? left.render).bind read = some a := by
  rw [parse?_render (homits.isPlain (h.isPlain_write a)), Option.bind_some, h.read_left homits]

end Restores

end MediaShelf.Json
