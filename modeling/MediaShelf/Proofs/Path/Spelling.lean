import MediaShelf.Proofs.Path

/-!
# Spellings of a path

Two texts are spellings of one path if they have the same components. What is done with paths here
works on their texts: it looks for a separator at the front or at the end, puts texts one behind the
other, and cuts pieces off. So it has to be shown that none of this can tell two spellings apart.

The argument is the same for all of it: what an operation makes of the components can be said
without the text. Whether a path is absolute is its first component (`isAbsolute_iff`), the steps it
takes behind another one are its components without the ones that only a first piece stands for
(`stepsOf_eq_filter`), and the directory that holds it has all components but the last
(`components_directory`).
-/

namespace MediaShelf

namespace Path

/-- Whether two paths are spellings of one. -/
def Respelled (a b : Path) : Prop :=
  a.components = b.components

instance (a b : Path) : Decidable (a.Respelled b) :=
  decEq a.components b.components

namespace Respelled

variable {a b : Path}

theorem refl (path : Path) : path.Respelled path :=
  rfl

theorem sameAs_eq {a' b' : Path} (ha : a.Respelled a') (hb : b.Respelled b') :
    a.sameAs b = a'.sameAs b' := by
  rw [sameAs, sameAs, ha, hb]

end Respelled

/-! ## The front of a path -/

theorem componentOf_ne_root (piece : List Char) : componentOf piece ≠ .root := by
  unfold componentOf
  split <;> simp

theorem exists_componentsOf_cons {c : Char} (h : c ≠ '/') (rest : List Char) :
    ∃ first steps, componentsOf (c :: rest) = first :: steps ∧ first ≠ .root := by
  obtain ⟨piece, others, hpieces⟩ : ∃ piece others, pieces (c :: rest) = (c :: piece) :: others := by
    rw [pieces, if_neg h]
    split <;> exact ⟨_, _, rfl⟩
  have hfull : ¬ (c :: piece).isEmpty = true := Bool.false_ne_true
  rw [componentsOf, hpieces]
  simp only [firstComponents, if_neg hfull]
  split
  · exact ⟨.here, _, rfl, by simp⟩
  · exact ⟨_, _, rfl, componentOf_ne_root _⟩

theorem componentsOf_eq_nil_iff {text : List Char} : componentsOf text = [] ↔ text = [] := by
  cases text with
  | nil => exact iff_of_true rfl rfl
  | cons c rest =>
      by_cases hc : c = '/'
      · subst hc
        simp [componentsOf_separator_cons]
      · obtain ⟨first, steps, hcomponents, -⟩ := exists_componentsOf_cons hc rest
        simp [hcomponents]

theorem components_eq_nil_iff {path : Path} : path.components = [] ↔ path.text = "" := by
  rw [components, componentsOf_eq_nil_iff, String.toList_eq_nil_iff]

theorem isAbsolute_iff {path : Path} :
    path.isAbsolute = true ↔ path.components.head? = some .root := by
  rw [isAbsolute, beq_iff_eq, components]
  cases path.text.toList with
  | nil => exact iff_of_false (by simp) (by simp [componentsOf_eq_nil_iff.2 rfl])
  | cons c rest =>
      by_cases hc : c = '/'
      · subst hc
        simp [componentsOf_separator_cons]
      · obtain ⟨first, steps, hcomponents, hroot⟩ := exists_componentsOf_cons hc rest
        simp [hcomponents, hroot, hc]

/-! ## Steps -/

/-- Whether a component is a step wherever it stands. The others stand for a first piece only. -/
def Component.isMove : Component → Bool
  | .root | .here => false
  | .up | .entry _ => true

theorem isMove_componentOf (piece : List Char) : (componentOf piece).isMove = true := by
  unfold componentOf
  split <;> rfl

theorem filter_isMove_firstComponents (first : List Char) (alone : Bool) :
    (firstComponents first alone).filter Component.isMove =
      if isStep first then [componentOf first] else [] := by
  unfold firstComponents isStep
  cases hempty : first.isEmpty with
  | true => cases alone <;> rfl
  | false =>
      by_cases hhere : first = ['.']
      · subst hhere
        rfl
      · have hmove := isMove_componentOf first
        simp [hhere, hmove]

theorem stepsOf_eq_filter (text : List Char) :
    stepsOf text = (componentsOf text).filter Component.isMove := by
  rw [stepsOf, componentsOf]
  cases hpieces : pieces text with
  | nil => rfl
  | cons first others =>
      have hmoves : ((others.filter isStep).map componentOf).filter Component.isMove =
          (others.filter isStep).map componentOf :=
        List.filter_eq_self.2 fun component hcomponent => by
          obtain ⟨piece, -, rfl⟩ := List.mem_map.1 hcomponent
          exact isMove_componentOf piece
      rw [List.filter_append, filter_isMove_firstComponents, hmoves, List.filter_cons]
      split <;> rfl

/-! ## Joining -/

theorem Respelled.join {base base' path path' : Path} (hbase : base.Respelled base')
    (hpath : path.Respelled path') : (base.join path).Respelled (base'.join path') := by
  have habsolute : path.isAbsolute = path'.isAbsolute := by
    rw [Bool.eq_iff_iff, isAbsolute_iff, isAbsolute_iff, hpath]
  have hempty : base.text = "" ↔ base'.text = "" := by
    rw [← components_eq_nil_iff, ← components_eq_nil_iff, hbase]
  cases hcase : path.isAbsolute with
  | true =>
      rw [Path.join, Path.join, ← habsolute, hcase, if_pos rfl, if_pos rfl]
      exact hpath
  | false =>
      have hcase' : path'.isAbsolute = false := habsolute ▸ hcase
      by_cases hnone : base.text = ""
      · exact ((components_join_empty hnone hcase).trans hpath).trans
          (components_join_empty (hempty.1 hnone) hcase').symm
      · rw [Respelled, components_join hnone hcase, components_join (mt hempty.2 hnone) hcase',
          hbase, stepsOf_eq_filter, stepsOf_eq_filter, ← components, ← components, hpath]

/-! ## The directory above -/

theorem not_mem_of_mem_pieces {text piece : List Char} (h : piece ∈ pieces text) : '/' ∉ piece := by
  induction text generalizing piece with
  | nil =>
      rw [pieces, List.mem_singleton] at h
      rw [h]
      exact List.not_mem_nil
  | cons c rest ih =>
      rw [pieces] at h
      split at h
      · rcases List.mem_cons.1 h with rfl | hrest
        · exact List.not_mem_nil
        · exact ih hrest
      · next hc =>
          cases hpieces : pieces rest with
          | nil => exact absurd hpieces (pieces_ne_nil rest)
          | cons first others =>
              rw [hpieces] at h ih
              rcases List.mem_cons.1 h with rfl | hothers
              · rw [List.mem_cons, not_or]
                exact ⟨Ne.symm hc, ih List.mem_cons_self⟩
              · exact ih (List.mem_cons_of_mem first hothers)

/-- Pieces that are joined are found again. -/
theorem pieces_joinPieces {first : List Char} {others : List (List Char)}
    (h : ∀ piece ∈ first :: others, '/' ∉ piece) :
    pieces (joinPieces (first :: others)) = first :: others := by
  induction others generalizing first with
  | nil => exact pieces_of_not_mem (h first List.mem_cons_self)
  | cons second rest ih =>
      obtain ⟨hfirst, hrest⟩ := List.forall_mem_cons.1 h
      rw [joinPieces, pieces_append_separator, pieces_of_not_mem hfirst, ih hrest,
        List.singleton_append]
      exact List.cons_ne_nil second rest

theorem filter_isStep_upToLastStep (others : List (List Char)) :
    (upToLastStep others).filter isStep = others.filter isStep := by
  have hdrop (pieces : List (List Char)) :
      (pieces.dropWhile fun piece => !isStep piece).filter isStep = pieces.filter isStep := by
    induction pieces with
    | nil => rfl
    | cons piece rest ih => cases hstep : isStep piece <;> simp [hstep, ih]
  rw [upToLastStep, List.filter_reverse, hdrop, List.filter_reverse, List.reverse_reverse]

theorem isStep_of_reverse_upToLastStep {others front : List (List Char)} {last : List Char}
    (h : (upToLastStep others).reverse = last :: front) : isStep last = true := by
  have hhead := List.head?_dropWhile_not (fun piece => !isStep piece) others.reverse
  rw [upToLastStep, List.reverse_reverse] at h
  simpa [h] using hhead

theorem mem_of_mem_upToLastStep {others : List (List Char)} {piece : List Char}
    (h : piece ∈ upToLastStep others) : piece ∈ others := by
  rw [upToLastStep, List.mem_reverse] at h
  exact List.mem_reverse.1 ((List.dropWhile_sublist _).subset h)

theorem dropLast_firstComponents (first : List Char) (alone : Bool) :
    (firstComponents first alone).dropLast = [] := by
  unfold firstComponents
  split
  · cases alone <;> rfl
  · split <;> rfl

theorem componentsOf_of_pieces {text first : List Char} {others : List (List Char)}
    (h : pieces text = first :: others) :
    componentsOf text =
      firstComponents first others.isEmpty ++ (others.filter isStep).map componentOf := by
  rw [componentsOf, h]

/-- The text of a directory. Without pieces behind an empty first one, it is the root. -/
theorem componentsOf_directoryText {first : List Char} {kept : List (List Char)}
    (h : ∀ piece ∈ first :: kept, '/' ∉ piece) :
    componentsOf (if first.isEmpty && kept.isEmpty then ['/'] else joinPieces (first :: kept)) =
      firstComponents first false ++ (kept.filter isStep).map componentOf := by
  split
  · next hroot =>
      rw [Bool.and_eq_true, List.isEmpty_iff, List.isEmpty_iff] at hroot
      obtain ⟨rfl, rfl⟩ := hroot
      rfl
  · next hroot =>
      have halone : firstComponents first kept.isEmpty = firstComponents first false := by
        by_cases hfirst : first = []
        · have hkept : kept.isEmpty = false := by simpa [hfirst] using hroot
          rw [hkept]
        · exact firstComponents_of_ne_nil hfirst _
      rw [componentsOf_of_pieces (pieces_joinPieces h), halone]

theorem componentsOf_parentText (text : List Char) :
    componentsOf ((parentText text).getD []) = (componentsOf text).dropLast := by
  cases hpieces : pieces text with
  | nil => exact absurd hpieces (pieces_ne_nil text)
  | cons first others =>
      have hsteps := filter_isStep_upToLastStep others
      rw [parentText, hpieces, componentsOf_of_pieces hpieces]
      simp only
      cases hlast : (upToLastStep others).reverse with
      | nil =>
          -- Without steps behind it, the first piece stands for the only component, if for any.
          rw [List.reverse_eq_nil_iff.1 hlast] at hsteps
          rw [← hsteps, List.filter_nil, List.map_nil, List.append_nil, dropLast_firstComponents]
          cases first <;> rfl
      | cons last front =>
          -- The last step is cut off, and with it all pieces around it that take none.
          have hothers : upToLastStep others = front.reverse ++ [last] := by
            rw [← List.reverse_cons, ← hlast, List.reverse_reverse]
          have hmem : ∀ piece ∈ front.reverse ++ [last], piece ∈ others := fun piece hpiece =>
            mem_of_mem_upToLastStep (hothers ▸ hpiece)
          have hplain : ∀ piece ∈ first :: upToLastStep front.reverse, '/' ∉ piece := by
            have hsubset : first :: upToLastStep front.reverse ⊆ pieces text := by
              rw [hpieces]
              exact List.cons_subset_cons first fun piece hpiece =>
                hmem piece (List.mem_append_left [last] (mem_of_mem_upToLastStep hpiece))
            exact fun piece hpiece => not_mem_of_mem_pieces (hsubset hpiece)
          have hnonempty : others.isEmpty = false :=
            List.isEmpty_eq_false_iff.2 (List.ne_nil_of_mem (hmem last List.mem_concat_self))
          have hmove : [last].filter isStep = [last] := by
            rw [List.filter_cons_of_pos (isStep_of_reverse_upToLastStep hlast), List.filter_nil]
          rw [hothers, List.filter_append, hmove] at hsteps
          simp only [← apply_ite some, Option.getD_some]
          rw [componentsOf_directoryText hplain, filter_isStep_upToLastStep, ← hsteps, hnonempty,
            List.map_append, List.map_singleton, ← List.append_assoc, List.dropLast_concat]

theorem components_directory (location : Location) :
    location.directory.components = location.relativePath.components.dropLast := by
  rw [Location.directory, parent?, components, components, ← componentsOf_parentText]
  cases parentText location.relativePath.text.toList with
  | none => rfl
  | some text => rw [Option.map_some, Option.getD_some, Option.getD_some, String.toList_ofList]

end Path

end MediaShelf
