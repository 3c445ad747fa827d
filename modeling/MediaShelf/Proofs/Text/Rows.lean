import MediaShelf.Proofs.Text.Replacement
import Mathlib.Data.List.Basic

/-!
# Rows of a text

A text that is empty or ends with a line feed is one of whole rows (`EndsRow`), and what is written
behind it starts a row of its own. So cutting into rows goes through such a text piece by piece
(`rows_append`), and every text falls apart around any of its rows (`exists_around`). That is what
it takes to change a row in place: `overwriteRow` puts another text where a row stands and leaves
its end alone, and the rows on both sides stay as they are.

How rows end has no part in what they say. Where no carriage returns are about, writing one in front
of every line feed gives the same rows (`rows_returns`).
-/

namespace MediaShelf.Text

/-- A text of whole rows: nothing at all, or something that ends with a line feed. -/
def EndsRow (cs : List Char) : Prop :=
  cs = [] ∨ cs.getLast? = some '\n'

instance (cs : List Char) : Decidable (EndsRow cs) :=
  inferInstanceAs (Decidable (_ ∨ _))

theorem EndsRow.tail {c : Char} {rest : List Char} (h : EndsRow (c :: rest)) : EndsRow rest := by
  rcases h with h | h
  · cases h
  · cases rest with
    | nil => exact Or.inl rfl
    | cons d rest =>
        rw [List.getLast?_cons_cons] at h
        exact Or.inr h

theorem EndsRow.ne_nil {c : Char} {rest : List Char} (h : EndsRow (c :: rest)) (hc : c ≠ '\n') :
    rest ≠ [] := by
  rintro rfl
  rcases h with h | h
  · cases h
  · rw [List.getLast?_singleton, Option.some.injEq] at h
    exact hc h

theorem EndsRow.append_left (front : List Char) {cs : List Char} (h : EndsRow cs) (hne : cs ≠ []) :
    EndsRow (front ++ cs) := by
  rw [EndsRow, List.getLast?_append_of_ne_nil _ hne]
  exact Or.inr (h.resolve_left hne)

/-! ## Rows with their ends -/

theorem rowsWithEnds_newline (rest : List Char) :
    rowsWithEnds ('\n' :: rest) = ['\n'] :: rowsWithEnds rest := by
  rw [rowsWithEnds, if_pos rfl]

theorem rowsWithEnds_cons {c : Char} (hc : c ≠ '\n') {rest row : List Char}
    {rows : List (List Char)} (h : rowsWithEnds rest = row :: rows) :
    rowsWithEnds (c :: rest) = (c :: row) :: rows := by
  rw [rowsWithEnds, if_neg hc, h]

theorem rowsWithEnds_singleton {c : Char} (hc : c ≠ '\n') : rowsWithEnds [c] = [[c]] := by
  rw [rowsWithEnds, if_neg hc]
  rfl

theorem rowsWithEnds_eq_nil_iff {cs : List Char} : rowsWithEnds cs = [] ↔ cs = [] := by
  cases cs with
  | nil => simp [rowsWithEnds]
  | cons c rest =>
      rw [rowsWithEnds]
      split
      · simp
      · split <;> simp

theorem flatten_rowsWithEnds (cs : List Char) : (rowsWithEnds cs).flatten = cs := by
  induction cs with
  | nil => rfl
  | cons c rest ih =>
      by_cases hc : c = '\n'
      · rw [hc, rowsWithEnds_newline, List.flatten_cons, ih]
        rfl
      · cases hrows : rowsWithEnds rest with
        | nil =>
            rw [rowsWithEnds_eq_nil_iff.1 hrows, rowsWithEnds_singleton hc]
            rfl
        | cons row rows =>
            rw [hrows] at ih
            rw [rowsWithEnds_cons hc hrows, List.flatten_cons, List.cons_append, ← List.flatten_cons,
              ih]

theorem rowsWithEnds_append {a : List Char} (h : EndsRow a) (b : List Char) :
    rowsWithEnds (a ++ b) = rowsWithEnds a ++ rowsWithEnds b := by
  induction a with
  | nil => rfl
  | cons c rest ih =>
      have ih := ih h.tail
      rw [List.cons_append]
      by_cases hc : c = '\n'
      · rw [hc, rowsWithEnds_newline, rowsWithEnds_newline, ih, List.cons_append]
      · -- The row of `c` goes on in `rest`, so it ends before `b`.
        obtain ⟨row, rows, hrows⟩ :=
          List.exists_cons_of_ne_nil (mt rowsWithEnds_eq_nil_iff.1 (h.ne_nil hc))
        rw [hrows, List.cons_append] at ih
        rw [rowsWithEnds_cons hc hrows, rowsWithEnds_cons hc ih, List.cons_append]

theorem length_rowsWithEnds {a : List Char} (h : EndsRow a) :
    (rowsWithEnds a).length = a.count '\n' := by
  induction a with
  | nil => rfl
  | cons c rest ih =>
      have ih := ih h.tail
      by_cases hc : c = '\n'
      · rw [hc, rowsWithEnds_newline, List.length_cons, ih, List.count_cons_self]
      · obtain ⟨row, rows, hrows⟩ :=
          List.exists_cons_of_ne_nil (mt rowsWithEnds_eq_nil_iff.1 (h.ne_nil hc))
        rw [rowsWithEnds_cons hc hrows, List.count_cons_of_ne hc, ← ih, hrows]
        rfl

/-- The first row is the front of the text, and the other rows are those of what follows it. -/
theorem exists_of_rowsWithEnds_eq_cons {cs row : List Char} {rows : List (List Char)}
    (h : rowsWithEnds cs = row :: rows) :
    ∃ rest, cs = row ++ rest ∧ rowsWithEnds rest = rows ∧ rowsWithEnds row = [row] ∧
      (rest = [] ∨ row.getLast? = some '\n') := by
  induction cs generalizing row rows with
  | nil => cases h
  | cons c rest ih =>
      by_cases hc : c = '\n'
      · rw [hc, rowsWithEnds_newline, List.cons.injEq] at h
        obtain ⟨rfl, rfl⟩ := h
        exact ⟨rest, by rw [hc]; rfl, rfl, rowsWithEnds_newline [], Or.inr rfl⟩
      · cases hrows : rowsWithEnds rest with
        | nil =>
            rw [rowsWithEnds_eq_nil_iff.1 hrows, rowsWithEnds_singleton hc, List.cons.injEq] at h
            obtain ⟨rfl, rfl⟩ := h
            exact ⟨[], by rw [rowsWithEnds_eq_nil_iff.1 hrows]; rfl, rfl,
              rowsWithEnds_singleton hc, Or.inl rfl⟩
        | cons first others =>
            rw [rowsWithEnds_cons hc hrows, List.cons.injEq] at h
            obtain ⟨rfl, rfl⟩ := h
            obtain ⟨behind, rfl, hbehind, hfirst, hend⟩ := ih hrows
            refine ⟨behind, rfl, hbehind, rowsWithEnds_cons hc hfirst, hend.imp_right fun hlast => ?_⟩
            rw [List.getLast?_cons, hlast]
            rfl

/-- Every text falls apart around any of its rows. -/
theorem exists_around {cs row : List Char} {index : Nat} (h : (rowsWithEnds cs)[index]? = some row) :
    ∃ before behind, cs = before ++ (row ++ behind) ∧ EndsRow before ∧
      (rowsWithEnds before).length = index ∧ rowsWithEnds row = [row] ∧
      (behind = [] ∨ row.getLast? = some '\n') := by
  induction index generalizing cs with
  | zero =>
      cases hrows : rowsWithEnds cs with
      | nil => rw [hrows] at h; cases h
      | cons first others =>
          rw [hrows, List.getElem?_cons_zero, Option.some.injEq] at h
          subst h
          obtain ⟨behind, rfl, -, hrow, hend⟩ := exists_of_rowsWithEnds_eq_cons hrows
          exact ⟨[], behind, rfl, Or.inl rfl, rfl, hrow, hend⟩
  | succ index ih =>
      cases hrows : rowsWithEnds cs with
      | nil => rw [hrows] at h; cases h
      | cons first others =>
          obtain ⟨rest, rfl, rfl, hfirst, hend⟩ := exists_of_rowsWithEnds_eq_cons hrows
          rw [hrows, List.getElem?_cons_succ] at h
          obtain ⟨before, behind, rfl, hbefore, hlength, hrow, hlast⟩ := ih h
          have hwhole : EndsRow first := by
            rcases hend with hnil | hend
            · rw [hnil] at h
              cases h
            · exact Or.inr hend
          refine ⟨first ++ before, behind, by rw [List.append_assoc], ?_, ?_, hrow, hlast⟩
          · by_cases hne : before = []
            · rw [hne, List.append_nil]
              exact hwhole
            · exact hbefore.append_left first hne
          · rw [rowsWithEnds_append hwhole, hfirst, List.length_append, hlength, Nat.add_comm]
            rfl

/-! ## Ends of rows -/

/-- The end of a row: a line feed, perhaps with a carriage return in front of it. The last row of a
text may have none. -/
def rowEnd (row : List Char) : List Char :=
  match row.reverse with
  | '\n' :: '\r' :: _ => ['\r', '\n']
  | '\n' :: _ => ['\n']
  | _ => []

theorem dropRowEnd_append_rowEnd (row : List Char) : dropRowEnd row ++ rowEnd row = row := by
  obtain ⟨reversed, rfl⟩ : ∃ reversed, row = List.reverse reversed :=
    ⟨row.reverse, (List.reverse_reverse row).symm⟩
  rw [dropRowEnd, rowEnd, List.reverse_reverse]
  match reversed with
  | [] => rfl
  | [c] => by_cases hc : c = '\n' <;> simp [hc]
  | c :: d :: front =>
      by_cases hc : c = '\n'
      · by_cases hd : d = '\r' <;> simp [hc, hd]
      · simp [hc]

theorem getLast?_rowEnd {row : List Char} (h : row.getLast? = some '\n') :
    (rowEnd row).getLast? = some '\n' := by
  rw [← List.head?_reverse, List.head?_eq_some_iff] at h
  obtain ⟨front, hreverse⟩ := h
  rw [rowEnd, hreverse]
  split
  · rfl
  · rfl
  · next _ hno => exact absurd rfl (hno front)

theorem isBlank_rowEnd (row : List Char) : isBlank (rowEnd row) = true := by
  unfold rowEnd
  split <;> decide

theorem dropRowEnd_cons {c : Char} (hfeed : c ≠ '\n') (hreturn : c ≠ '\r') (row : List Char) :
    dropRowEnd (c :: row) = c :: dropRowEnd row := by
  rw [dropRowEnd, dropRowEnd, List.reverse_cons]
  match row.reverse with
  | [] => simp [hfeed]
  | [d] => by_cases hd : d = '\n' <;> simp [hd, hreturn]
  | d :: e :: front =>
      by_cases hd : d = '\n'
      · by_cases he : e = '\r' <;> simp [hd, he]
      · simp [hd]

/-! ## Rows without their ends -/

theorem rows_append {a : List Char} (h : EndsRow a) (b : List Char) :
    rows (a ++ b) = rows a ++ rows b := by
  rw [rows, rowsWithEnds_append h, List.map_append, rows, rows]

theorem length_rows {a : List Char} (h : EndsRow a) : (rows a).length = a.count '\n' := by
  rw [rows, List.length_map, length_rowsWithEnds h]

theorem mem_of_mem_rows {cs row : List Char} (h : row ∈ rows cs) {c : Char} (hc : c ∈ row) :
    c ∈ cs := by
  obtain ⟨full, hfull, rfl⟩ := List.mem_map.1 h
  rw [← flatten_rowsWithEnds cs, List.mem_flatten]
  refine ⟨full, hfull, ?_⟩
  rw [← dropRowEnd_append_rowEnd full]
  exact List.mem_append_left _ hc

theorem isBlank_of_mem_rows {cs row : List Char} (hblank : isBlank cs = true) (h : row ∈ rows cs) :
    isBlank row = true :=
  List.all_eq_true.2 fun _ hc => List.all_eq_true.1 hblank _ (mem_of_mem_rows h hc)

theorem rows_newline (rest : List Char) : rows ('\n' :: rest) = [] :: rows rest := by
  rw [rows, rowsWithEnds_newline, List.map_cons, rows]
  rfl

theorem rows_return_newline (rest : List Char) : rows ('\r' :: '\n' :: rest) = [] :: rows rest := by
  rw [rows, rowsWithEnds_cons (by decide) (rowsWithEnds_newline rest), List.map_cons, rows]
  rfl

theorem rows_cons {c : Char} (hfeed : c ≠ '\n') (hreturn : c ≠ '\r') (rest : List Char) :
    rows (c :: rest) =
      match rows rest with
      | [] => [[c]]
      | row :: others => (c :: row) :: others := by
  cases hrows : rowsWithEnds rest with
  | nil =>
      rw [rows, rows, rowsWithEnds, if_neg hfeed, hrows, List.map_singleton,
        dropRowEnd_cons hfeed hreturn]
      rfl
  | cons row others =>
      rw [rows, rows, rowsWithEnds_cons hfeed hrows, hrows, List.map_cons, List.map_cons,
        dropRowEnd_cons hfeed hreturn]

/-- A carriage return in front of every line feed changes no row. -/
theorem rows_returns {cs : List Char} (h : '\r' ∉ cs) :
    rows (replaceAll ['\n'] ['\r', '\n'] cs) = rows cs := by
  induction cs with
  | nil => rw [replaceAll_nil]
  | cons c rest ih =>
      rw [List.mem_cons, not_or] at h
      have ih := ih h.2
      by_cases hc : c = '\n'
      · have hreplaced : replaceAll ['\n'] ['\r', '\n'] ('\n' :: rest) =
            '\r' :: '\n' :: replaceAll ['\n'] ['\r', '\n'] rest :=
          replaceAll_append (List.cons_ne_nil _ _) rest
        rw [hc, hreplaced, rows_return_newline, ih, rows_newline]
      · have hstarts : ¬ ['\n'] <+: c :: rest := fun hprefix =>
          hc (List.cons_prefix_cons.1 hprefix).1.symm
        rw [replaceAll_cons hstarts, rows_cons hc (Ne.symm h.1), ih, rows_cons hc (Ne.symm h.1)]

/-! ## Writing over a row -/

/-- A text with something else where a row stands, in front of the end of that row. -/
def overwriteRow (index : Nat) (replacement cs : List Char) : List Char :=
  ((rowsWithEnds cs).modify index fun row => replacement ++ rowEnd row).flatten

theorem overwriteRow_append {before row behind : List Char} {index : Nat} (hbefore : EndsRow before)
    (hindex : (rowsWithEnds before).length = index) (hrow : rowsWithEnds row = [row])
    (hend : behind = [] ∨ row.getLast? = some '\n') (replacement : List Char) :
    overwriteRow index replacement (before ++ (row ++ behind)) =
      before ++ (replacement ++ rowEnd row ++ behind) := by
  have hrows : rowsWithEnds (before ++ (row ++ behind)) =
      rowsWithEnds before ++ row :: rowsWithEnds behind := by
    rw [rowsWithEnds_append hbefore]
    rcases hend with rfl | hend
    · rw [List.append_nil, hrow]
      rfl
    · rw [rowsWithEnds_append (Or.inr hend), hrow, List.singleton_append]
  subst hindex
  rw [overwriteRow, hrows, List.modify_eq_take_drop, List.take_left, List.drop_left,
    List.modifyHead_cons, List.flatten_append, List.flatten_cons, flatten_rowsWithEnds,
    flatten_rowsWithEnds]

/-! ## Rows put together -/

/-- A text of some rows, with a line feed behind each of them. -/
def ofRows (rows : List (List Char)) : List Char :=
  rows.flatMap fun row => row ++ ['\n']

theorem endsRow_concat (row : List Char) : EndsRow (row ++ ['\n']) :=
  Or.inr List.getLast?_concat

theorem rowsWithEnds_concat_iff {row : List Char} :
    rowsWithEnds (row ++ ['\n']) = [row ++ ['\n']] ↔ '\n' ∉ row := by
  constructor
  · intro h
    have hcount := length_rowsWithEnds (endsRow_concat row)
    rw [h, List.length_singleton, List.count_append, List.count_singleton_self] at hcount
    exact List.count_eq_zero.1 (by omega)
  · intro h
    induction row with
    | nil => rfl
    | cons c rest ih =>
        rw [List.mem_cons, not_or] at h
        rw [List.cons_append, rowsWithEnds_cons (Ne.symm h.1) (ih h.2)]

/-- Rows are found again in the text of them exactly if none of them has a line feed of its own. -/
theorem rowsWithEnds_ofRows_iff {rows : List (List Char)} :
    rowsWithEnds (ofRows rows) = rows.map (fun row => row ++ ['\n']) ↔ ∀ row ∈ rows, '\n' ∉ row := by
  constructor
  · intro h row hrow
    obtain ⟨index, hindex⟩ := List.getElem?_of_mem
      (h ▸ List.mem_map_of_mem hrow : row ++ ['\n'] ∈ rowsWithEnds (ofRows rows))
    obtain ⟨-, -, -, -, -, hfull, -⟩ := exists_around hindex
    exact rowsWithEnds_concat_iff.1 hfull
  · intro h
    induction rows with
    | nil => rfl
    | cons row rest ih =>
        obtain ⟨hrow, hrest⟩ := List.forall_mem_cons.1 h
        rw [ofRows, List.flatMap_cons, rowsWithEnds_append (endsRow_concat row),
          rowsWithEnds_concat_iff.2 hrow, ← ofRows, ih hrest, List.map_cons, List.singleton_append]

theorem dropRowEnd_concat {row : List Char} (h : row.getLast? ≠ some '\r') :
    dropRowEnd (row ++ ['\n']) = row := by
  rw [dropRowEnd, List.reverse_append, List.reverse_singleton, List.singleton_append]
  rw [← List.head?_reverse] at h
  split
  · next front heq =>
      rw [(List.cons.inj heq).2] at h
      exact absurd rfl h
  · next front heq => rw [← (List.cons.inj heq).2, List.reverse_reverse]
  · next hno => exact absurd rfl (hno _)

/-- Rows without line feeds that do not end with a carriage return are the rows of their text. -/
theorem rows_ofRows {rows : List (List Char)} (hfeed : ∀ row ∈ rows, '\n' ∉ row)
    (hreturn : ∀ row ∈ rows, row.getLast? ≠ some '\r') : Text.rows (ofRows rows) = rows := by
  rw [Text.rows, rowsWithEnds_ofRows_iff.2 hfeed, List.map_map]
  have hends : rows.map (fun row => dropRowEnd (row ++ ['\n'])) = rows.map id :=
    List.map_congr_left fun row hrow => dropRowEnd_concat (hreturn row hrow)
  exact hends.trans (List.map_id rows)

end MediaShelf.Text
