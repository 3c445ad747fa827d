import MediaShelf.Catalog.Basic
import MediaShelf.Proofs.Text.Scanning
import Mathlib.Data.List.TakeDrop

/-!
# Names and extensions

What a name has for its extension is computed from behind: the reversed name is read up to the first
dot. `splitName_eq_iff` says the same thing forwards. A name has an extension if it is a stem that is
not empty, a dot and the extension, and the extension has no dot in it.

A text without a separator is a name, unless it is empty or one of the two names that every directory
knows itself and its parent by.

Reading a relative path from another one puts its steps behind those of the other one
(`components_join`), where a leading `.` is a step only if there is nothing in front of it.
-/

namespace MediaShelf

namespace Path

/-! ## Texts without a separator -/

theorem pieces_of_not_mem {text : List Char} (h : '/' ∉ text) : pieces text = [text] := by
  induction text with
  | nil => rfl
  | cons c rest ih =>
      rw [List.mem_cons, not_or] at h
      rw [pieces, if_neg (Ne.symm h.1), ih h.2]

theorem nameChars?_eq_some_iff {path : Path} (h : '/' ∉ path.text.toList) {name : List Char} :
    path.nameChars? = some name ↔
      name = path.text.toList ∧ name ≠ [] ∧ name ≠ ['.'] ∧ name ≠ ['.', '.'] := by
  rw [nameChars?, components, componentsOf, pieces_of_not_mem h]
  generalize path.text.toList = text
  simp only [firstComponents, componentOf, List.isEmpty_iff, List.filter_nil, List.map_nil,
    List.append_nil, List.isEmpty_nil, if_true]
  by_cases hempty : text = []
  · rw [if_pos hempty]
    exact iff_of_false (by simp) fun h => h.2.1 (h.1.trans hempty)
  · rw [if_neg hempty]
    by_cases hhere : text = ['.']
    · rw [if_pos hhere]
      exact iff_of_false (by simp) fun h => h.2.2.1 (h.1.trans hhere)
    · rw [if_neg hhere]
      by_cases hup : text = ['.', '.']
      · rw [if_pos hup]
        exact iff_of_false (by simp) fun h => h.2.2.2 (h.1.trans hup)
      · rw [if_neg hup]
        simp only [List.getLast?_singleton, Option.some.injEq]
        constructor
        · rintro rfl
          exact ⟨rfl, hempty, hhere, hup⟩
        · exact fun h => h.1.symm

/-! ## Steps behind others -/

/-- The components of a text that follows a separator. -/
def stepsOf (text : List Char) : List Component :=
  ((pieces text).filter isStep).map componentOf

theorem pieces_ne_nil (text : List Char) : pieces text ≠ [] := by
  cases text with
  | nil => exact List.cons_ne_nil _ _
  | cons c rest =>
      rw [pieces]
      split
      · exact List.cons_ne_nil _ _
      · split
        · exact List.cons_ne_nil _ _
        · exact List.cons_ne_nil _ _

theorem pieces_append_separator (front rest : List Char) :
    pieces (front ++ '/' :: rest) = pieces front ++ pieces rest := by
  induction front with
  | nil =>
      have hcons : pieces ('/' :: rest) = [] :: pieces rest := by rw [pieces, if_pos rfl]
      exact hcons
  | cons c front ih =>
      rw [List.cons_append, pieces, pieces, ih]
      split
      · rw [List.cons_append]
      · cases hfront : pieces front with
        | nil => exact absurd hfront (pieces_ne_nil front)
        | cons piece others => rw [List.cons_append, List.cons_append]

theorem firstComponents_of_ne_nil {piece : List Char} (h : piece ≠ []) (alone : Bool) :
    firstComponents piece alone = firstComponents piece false := by
  have hfull : ¬ piece.isEmpty = true := by rwa [List.isEmpty_iff]
  simp only [firstComponents, if_neg hfull]

theorem componentsOf_append_separator {front : List Char} (h : front ≠ []) (rest : List Char) :
    componentsOf (front ++ '/' :: rest) = componentsOf front ++ stepsOf rest := by
  rw [componentsOf, componentsOf, pieces_append_separator, stepsOf]
  cases hfront : pieces front with
  | nil => exact absurd hfront (pieces_ne_nil front)
  | cons first others =>
      simp only [List.cons_append, List.filter_append, List.map_append, ← List.append_assoc]
      congr 2
      -- An empty first piece stands for the root, but for nothing if the text is empty.
      by_cases hfirst : first = []
      · subst hfirst
        cases others with
        | nil =>
            cases front with
            | nil => exact absurd rfl h
            | cons c front =>
                rw [pieces] at hfront
                split at hfront
                · rw [List.cons.injEq] at hfront
                  exact absurd hfront.2 (pieces_ne_nil front)
                · split at hfront <;> cases hfront
        | cons piece others => rfl
      · rw [firstComponents_of_ne_nil hfirst, firstComponents_of_ne_nil hfirst others.isEmpty]

theorem componentsOf_separator_cons (rest : List Char) :
    componentsOf ('/' :: rest) = .root :: stepsOf rest := by
  rw [componentsOf, pieces, if_pos rfl, stepsOf]
  cases hrest : pieces rest with
  | nil => exact absurd hrest (pieces_ne_nil rest)
  | cons piece others => rfl

/-- Behind a text that ends with a separator there is no other one. -/
theorem componentsOf_append_of_getLast? {front : List Char} (h : front.getLast? = some '/')
    (rest : List Char) : componentsOf (front ++ rest) = componentsOf front ++ stepsOf rest := by
  obtain ⟨before, rfl⟩ := List.getLast?_eq_some_iff.1 h
  have hnone : stepsOf [] = [] := rfl
  rw [List.append_assoc, List.singleton_append]
  by_cases hbefore : before = []
  · subst hbefore
    rw [List.nil_append, List.nil_append, componentsOf_separator_cons, componentsOf_separator_cons,
      hnone, List.singleton_append]
  · rw [componentsOf_append_separator hbefore, componentsOf_append_separator hbefore, hnone,
      List.append_nil]

theorem components_join {base path : Path} (hbase : base.text ≠ "")
    (hpath : path.isAbsolute = false) :
    (base.join path).components = base.components ++ stepsOf path.text.toList := by
  have hne : base.text.toList ≠ [] := by rwa [Ne, String.toList_eq_nil_iff]
  rw [join, hpath, if_neg Bool.false_ne_true]
  split
  · next hlast =>
      rw [Bool.or_eq_true, String.isEmpty_iff, or_iff_right hbase, beq_iff_eq] at hlast
      rw [components, String.toList_append, componentsOf_append_of_getLast? hlast, components]
  · have hseparator : ("/" : String).toList = ['/'] := rfl
    rw [components, String.toList_append, String.toList_append, hseparator, List.append_assoc,
      List.singleton_append, componentsOf_append_separator hne, components]

/-- A text that is a name is one step, behind a separator or by itself. -/
theorem steps_of_name {text : List Char} (h : '/' ∉ text) (hempty : text ≠ [])
    (hhere : text ≠ ['.']) (hup : text ≠ ['.', '.']) :
    componentsOf text = [.entry text] ∧ stepsOf text = [.entry text] := by
  have hstep : isStep text = true := by
    rw [isStep, Bool.and_eq_true, Bool.not_eq_true', List.isEmpty_eq_false_iff, bne_iff_ne]
    exact ⟨hempty, hhere⟩
  have hentry : componentOf text = .entry text := if_neg hup
  constructor
  · rw [componentsOf, pieces_of_not_mem h]
    simp only [firstComponents, List.isEmpty_iff, hempty, hhere, if_false, hentry, List.filter_nil,
      List.map_nil, List.append_nil]
  · rw [stepsOf, pieces_of_not_mem h, List.filter_cons, if_pos hstep, List.filter_nil,
      List.map_singleton, hentry]

theorem components_join_empty {base path : Path} (hbase : base.text = "")
    (hpath : path.isAbsolute = false) : (base.join path).components = path.components := by
  rw [join, hpath, if_neg Bool.false_ne_true, hbase, if_pos (by decide), String.empty_append]

/-! ## Dots -/

theorem splitAtLastDot_eq_some_iff {name stem extension : List Char} :
    splitAtLastDot name = some (stem, extension) ↔
      name = stem ++ '.' :: extension ∧ '.' ∉ extension := by
  rw [splitAtLastDot, List.span_eq_takeWhile_dropWhile]
  constructor
  · intro h
    have hnone := Text.not_mem_takeWhile '.' name.reverse
    cases hbehind : name.reverse.dropWhile (· != '.') with
    | nil =>
        rw [hbehind] at h
        cases h
    | cons c rest =>
        rw [hbehind] at h
        simp only [Option.some.injEq, Prod.mk.injEq] at h
        obtain ⟨rfl, rfl⟩ := h
        obtain ⟨hdot, hname⟩ := Text.eq_append_of_dropWhile_eq_cons hbehind
        rw [bne_eq_false_iff_eq] at hdot
        subst hdot
        refine ⟨?_, by rwa [List.mem_reverse]⟩
        have hreverse := congrArg List.reverse hname
        rw [List.reverse_reverse, List.reverse_append, List.reverse_cons, List.append_assoc,
          List.singleton_append] at hreverse
        exact hreverse
  · rintro ⟨rfl, hnone⟩
    have hreverse : '.' ∉ extension.reverse := mt List.mem_reverse.1 hnone
    rw [List.reverse_append, List.reverse_cons, List.append_assoc, List.singleton_append,
      Text.takeWhile_append_mark hreverse, Text.dropWhile_append_mark hreverse]
    simp

theorem splitName_eq_iff {name stem extension : List Char} :
    splitName name = (stem, some extension) ↔
      stem ≠ [] ∧ name = stem ++ '.' :: extension ∧ '.' ∉ extension := by
  rw [← splitAtLastDot_eq_some_iff, splitName]
  split
  · next front behind hsplit =>
      rw [hsplit]
      split
      · next hempty =>
          rw [List.isEmpty_iff] at hempty
          subst hempty
          simp only [Prod.mk.injEq, reduceCtorEq, and_false, Option.some.injEq, ne_eq, false_iff,
            not_and]
          rintro hne rfl
          exact absurd rfl hne
      · next hfull =>
          rw [List.isEmpty_iff] at hfull
          simp only [Prod.mk.injEq, Option.some.injEq]
          constructor
          · rintro ⟨rfl, rfl⟩
            exact ⟨hfull, rfl, rfl⟩
          · exact fun h => h.2
  · next hsplit =>
      rw [hsplit]
      simp

/-! ## Characters of a stem -/

theorem subset_of_mem_pieces {text piece : List Char} (h : piece ∈ pieces text) : piece ⊆ text := by
  induction text generalizing piece with
  | nil =>
      rw [pieces, List.mem_singleton] at h
      rw [h]
      exact List.nil_subset _
  | cons c rest ih =>
      rw [pieces] at h
      split at h
      · rcases List.mem_cons.1 h with rfl | hrest
        · exact List.nil_subset _
        · exact List.subset_cons_of_subset c (ih hrest)
      · cases hpieces : pieces rest with
        | nil => exact absurd hpieces (pieces_ne_nil rest)
        | cons first others =>
            rw [hpieces] at h ih
            rcases List.mem_cons.1 h with rfl | hothers
            · exact List.cons_subset_cons c (ih List.mem_cons_self)
            · exact List.subset_cons_of_subset c (ih (List.mem_cons_of_mem first hothers))

theorem eq_of_componentOf_eq_entry {piece name : List Char} (h : componentOf piece = .entry name) :
    piece = name := by
  rw [componentOf] at h
  split at h
  · cases h
  · exact Component.entry.inj h

theorem mem_pieces_of_entry_mem {text name : List Char} (h : .entry name ∈ componentsOf text) :
    name ∈ pieces text := by
  rw [componentsOf] at h
  split at h
  · cases h
  · next first others hpieces =>
      rw [hpieces]
      rcases List.mem_append.1 h with hfirst | hothers
      · simp only [firstComponents] at hfirst
        split at hfirst
        · split at hfirst <;> simp at hfirst
        · split at hfirst
          · simp at hfirst
          · rw [eq_of_componentOf_eq_entry (List.mem_singleton.1 hfirst).symm]
            exact List.mem_cons_self
      · obtain ⟨piece, hpiece, hentry⟩ := List.mem_map.1 hothers
        rw [← eq_of_componentOf_eq_entry hentry]
        exact List.mem_cons_of_mem first (List.mem_filter.1 hpiece).1

theorem subset_splitName (name : List Char) : (splitName name).1 ⊆ name := by
  rw [splitName]
  split
  · next stem extension hsplit =>
      split
      · exact List.Subset.refl name
      · rw [(splitAtLastDot_eq_some_iff.1 hsplit).1]
        exact List.subset_append_left _ _
  · exact List.Subset.refl name

/-- A stem has no characters but those of the path. -/
theorem subset_of_stem? {path : Path} {stem : String} (h : path.stem? = some stem) :
    stem.toList ⊆ path.text.toList := by
  obtain ⟨name, hname, rfl⟩ := Option.map_eq_some_iff.1 h
  have hentry : .entry name ∈ path.components := by
    rw [nameChars?] at hname
    split at hname
    · next hlast =>
        cases hname
        exact List.mem_of_getLast? hlast
    · cases hname
  rw [String.toList_ofList]
  exact List.Subset.trans (subset_splitName name)
    (subset_of_mem_pieces (mem_pieces_of_entry_mem hentry))

end Path

namespace MediaFile

variable {file : MediaFile} {extension : String}

theorem extension?_spec (h : file.extension? = some extension) :
    '.' ∉ extension.toList ∧ extension ≠ "" := by
  rw [extension?, Option.filter_eq_some_iff] at h
  obtain ⟨h, hempty⟩ := h
  obtain ⟨name, -, hname⟩ := Option.bind_eq_some_iff.1 h
  obtain ⟨text, htext, rfl⟩ := Option.map_eq_some_iff.1 hname
  obtain ⟨-, -, hdot⟩ := Path.splitName_eq_iff.1 (Prod.ext rfl htext)
  refine ⟨by rwa [String.toList_ofList], ?_⟩
  rintro hnil
  rw [hnil] at hempty
  cases hempty

theorem nameChars?_eq_some {stem : List Char} (h : '/' ∉ file.fileName.toList) (hstem : stem ≠ [])
    (hname : file.fileName.toList = stem ++ '.' :: extension.toList) (hempty : extension ≠ "") :
    (Path.mk file.fileName).nameChars? = some file.fileName.toList := by
  have hlength : 3 ≤ file.fileName.toList.length := by
    have hfront := List.length_pos_iff.2 hstem
    have hbehind : 0 < extension.toList.length := by
      rw [List.length_pos_iff, Ne, String.toList_eq_nil_iff]
      exact hempty
    rw [hname, List.length_append, List.length_cons]
    omega
  refine (Path.nameChars?_eq_some_iff h).2 ⟨rfl, ?_, ?_, ?_⟩
  all_goals
    intro hshort
    simp only [hshort, List.length_cons, List.length_nil] at hlength
    omega

theorem stem?_eq_some {stem : List Char} (h : '/' ∉ file.fileName.toList) (hstem : stem ≠ [])
    (hname : file.fileName.toList = stem ++ '.' :: extension.toList)
    (hdot : '.' ∉ extension.toList) (hempty : extension ≠ "") :
    (Path.mk file.fileName).stem? = some (String.ofList stem) := by
  have hsplit := Path.splitName_eq_iff.2 ⟨hstem, hname, hdot⟩
  rw [Path.stem?, nameChars?_eq_some h hstem hname hempty, Option.map_some, hsplit]

/-- A file name without a separator is a stem, a dot and the extension. -/
theorem extension?_eq_some_iff (h : '/' ∉ file.fileName.toList) :
    file.extension? = some extension ↔
      ∃ stem, stem ≠ [] ∧ file.fileName.toList = stem ++ '.' :: extension.toList ∧
        '.' ∉ extension.toList ∧ extension ≠ "" := by
  constructor
  · intro hext
    obtain ⟨hdot, hempty⟩ := extension?_spec hext
    rw [extension?, Option.filter_eq_some_iff] at hext
    obtain ⟨name, hname, hsplit⟩ := Option.bind_eq_some_iff.1 hext.1
    obtain ⟨text, htext, rfl⟩ := Option.map_eq_some_iff.1 hsplit
    obtain ⟨rfl, -⟩ := (Path.nameChars?_eq_some_iff h).1 hname
    obtain ⟨hstem, heq, -⟩ := Path.splitName_eq_iff.1 (Prod.ext rfl htext)
    refine ⟨_, hstem, ?_, hdot, hempty⟩
    rw [String.toList_ofList]
    exact heq
  · rintro ⟨stem, hstem, hname, hdot, hempty⟩
    rw [extension?, Option.filter_eq_some_iff, Path.extension?, nameChars?_eq_some h hstem hname hempty]
    have hsplit := Path.splitName_eq_iff.2 ⟨hstem, hname, hdot⟩
    rw [Option.bind_some, hsplit]
    refine ⟨by rw [Option.map_some, String.ofList_toList], ?_⟩
    rw [Bool.not_eq_true', String.isEmpty_eq_false_iff]
    exact hempty

end MediaFile

end MediaShelf
