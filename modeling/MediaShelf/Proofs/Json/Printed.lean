import MediaShelf.Json.Parser
import MediaShelf.Json.Printer
import MediaShelf.Proofs.Text.Numeral

/-!
# Reading what was written

A value that was written is read again, if it says all that its text says: a number that is no
integer is only kept as it is spelled, and a string that stands for no text only as that, and
neither is a plain value.

A reader takes a value off the front of a text, so the statement carries what follows. For strings,
arrays and objects the closing mark ends them; for numbers there is no such mark, and what follows
must not go on with the number (`Ends`). A budget that is greater than the length of the text is
enough, because every nested reader has a character less in front of it.
-/

namespace MediaShelf.Json

/-- A value without decimals, and without strings that stand for no text. -/
inductive IsPlain : Json → Prop where
  | null : IsPlain .null
  | bool (b : Bool) : IsPlain (.bool b)
  | int (n : Int) : IsPlain (.int n)
  | str (s : String) : IsPlain (.str s)
  | arr {items : List Json} (plain : ∀ item ∈ items, IsPlain item) : IsPlain (.arr items)
  | obj {members : List (String × Json)} (plain : ∀ member ∈ members, IsPlain member.2) :
      IsPlain (.obj members)

attribute [simp] IsPlain.null IsPlain.bool IsPlain.int IsPlain.str

theorem isPlain_arr_iff {items : List Json} :
    IsPlain (.arr items) ↔ ∀ item ∈ items, IsPlain item :=
  ⟨fun h => by cases h; assumption, .arr⟩

theorem isPlain_obj_iff {members : List (String × Json)} :
    IsPlain (.obj members) ↔ ∀ member ∈ members, IsPlain member.2 :=
  ⟨fun h => by cases h; assumption, .obj⟩

/-! ## Strings -/

/-- The piece of a string that a character is written as. -/
def pieceOf (c : Char) : StringPiece :=
  if c.toNat < 0x20 ∧ c ≠ '\n' ∧ c ≠ '\r' ∧ c ≠ '\t' then .unit c.toNat else .char c

theorem hexValue?_hexDigit {d : Nat} (h : d < 16) : hexValue? (hexDigit d) = some d := by
  revert d
  decide

theorem unitValue?_code {n : Nat} (h : n < 0x20) :
    unitValue? '0' '0' (hexDigit (n / 16)) (hexDigit (n % 16)) = some n := by
  have hzero : hexValue? '0' = some 0 := by decide
  have hhigh := hexValue?_hexDigit (show n / 16 < 16 by omega)
  have hlow := hexValue?_hexDigit (show n % 16 < 16 by omega)
  simp only [unitValue?, hzero, hhigh, hlow, Option.bind_eq_bind, Option.bind_some, Option.pure_def,
    Option.some.injEq]
  omega

/-- The readers of a string hand the pieces on. -/
theorem bind_cons_eq_map {piece : StringPiece} (read : Option (List StringPiece × List Char)) :
    (read.bind fun read => some (piece :: read.1, read.2)) =
      read.map fun read => (piece :: read.1, read.2) := by
  cases read <;> rfl

theorem readPieces_named {e c : Char} (hunit : e ≠ 'u') (hc : namedEscape? e = some c)
    (rest : List Char) :
    readPieces ('\\' :: e :: rest) =
      (readPieces rest).map fun read => (.char c :: read.1, read.2) := by
  rw [readPieces, hc]
  · exact bind_cons_eq_map _
  · rintro a b c d rest' ⟨⟩
    exact fun _ => hunit rfl

theorem readPieces_unit {a b c d : Char} {n : Nat} (hn : unitValue? a b c d = some n)
    (rest : List Char) :
    readPieces ('\\' :: 'u' :: a :: b :: c :: d :: rest) =
      (readPieces rest).map fun read => (.unit n :: read.1, read.2) := by
  rw [readPieces, hn]
  exact bind_cons_eq_map _

theorem readPieces_itself {c : Char} (hquote : c ≠ '"') (hbackslash : c ≠ '\\')
    (hcode : ¬ c.toNat < 0x20) (rest : List Char) :
    readPieces (c :: rest) =
      (readPieces rest).map fun read => (.char c :: read.1, read.2) := by
  rw [readPieces, if_neg hcode]
  · exact bind_cons_eq_map _
  · exact hquote
  · exact fun _ _ _ _ _ h _ => hbackslash h
  · exact fun h _ => hbackslash h
  · exact fun _ _ h _ => hbackslash h

theorem readPieces_escape (c : Char) (rest : List Char) :
    readPieces (escape c ++ rest) =
      (readPieces rest).map fun read => (pieceOf c :: read.1, read.2) := by
  unfold escape pieceOf
  split
  · next h => rw [h]; exact readPieces_named (by decide) rfl rest
  split
  · next h => rw [h]; exact readPieces_named (by decide) rfl rest
  split
  · next h => rw [h]; exact readPieces_named (by decide) rfl rest
  split
  · next h => rw [h]; exact readPieces_named (by decide) rfl rest
  split
  · next h => rw [h]; exact readPieces_named (by decide) rfl rest
  split
  · next hquote hbackslash hn hr ht hcode =>
      rw [if_pos ⟨hcode, hn, hr, ht⟩]
      exact readPieces_unit (unitValue?_code hcode) rest
  · next hquote hbackslash hn hr ht hcode =>
      rw [if_neg (fun h => hcode h.1)]
      exact readPieces_itself hquote hbackslash hcode rest

theorem readPieces_flatMap_escape (cs rest : List Char) :
    readPieces (cs.flatMap escape ++ '"' :: rest) = some (cs.map pieceOf, rest) := by
  induction cs with
  | nil => rw [List.flatMap_nil, List.nil_append, readPieces, List.map_nil]
  | cons c cs ih =>
      rw [List.flatMap_cons, List.append_assoc, readPieces_escape, ih, Option.map_some,
        List.map_cons]

/-- A unit that is no half of a surrogate pair stands for its character. -/
theorem joinPieces_unit {n : Nat} (h : n < 0xD800) (pieces : List StringPiece) :
    joinPieces (.unit n :: pieces) = (joinPieces pieces).map (Char.ofNat n :: ·) := by
  have hleading : isLeading n = false := by
    rw [isLeading, Bool.and_eq_false_iff, decide_eq_false_iff_not, decide_eq_false_iff_not]
    omega
  have htrailing : isTrailing n = false := by
    rw [isTrailing, Bool.and_eq_false_iff, decide_eq_false_iff_not, decide_eq_false_iff_not]
    omega
  rcases pieces with - | ⟨c | m, pieces⟩
  · simp only [joinPieces, hleading, htrailing]; rfl
  · simp only [joinPieces, hleading, htrailing]; rfl
  · simp only [joinPieces, hleading, htrailing]; rfl

theorem joinPieces_map_pieceOf (cs : List Char) : joinPieces (cs.map pieceOf) = some cs := by
  induction cs with
  | nil => rfl
  | cons c cs ih =>
      rw [List.map_cons, pieceOf]
      split
      · next h => rw [joinPieces_unit (by omega), ih, Char.ofNat_toNat, Option.map_some]
      · rw [joinPieces, ih, Option.map_some]

theorem quoted_append (s : String) (rest : List Char) :
    quoted s ++ rest = '"' :: (s.toList.flatMap escape ++ '"' :: rest) := by
  rw [quoted, List.cons_append, List.append_assoc, List.singleton_append]

theorem readString_flatMap_escape (s : String) (rest : List Char) :
    readString (s.toList.flatMap escape ++ '"' :: rest) = some (.str s, rest) := by
  simp only [readString, readPieces_flatMap_escape, Option.bind_eq_bind, Option.bind_some,
    joinPieces_map_pieceOf, String.ofList_toList]
  rfl

theorem readKey_flatMap_escape (s : String) (rest : List Char) :
    readKey (s.toList.flatMap escape ++ '"' :: rest) = some (some s, rest) := by
  simp only [readKey, readPieces_flatMap_escape, Option.bind_eq_bind, Option.bind_some,
    joinPieces_map_pieceOf, Option.map_some, String.ofList_toList]
  rfl

/-! ## Numbers -/

/-- What stands behind a number does not go on with it. -/
def Ends (rest : List Char) : Prop :=
  ∀ c ∈ rest.head?, Text.isAsciiDigit c = false ∧ c ≠ '.' ∧ c ≠ 'e' ∧ c ≠ 'E'

theorem ends_nil : Ends [] := by
  intro c hc
  cases hc

theorem ends_cons {c : Char} (h : c = ',' ∨ c = ']' ∨ c = '\x7d') (rest : List Char) :
    Ends (c :: rest) := by
  intro d hd
  rw [List.head?_cons, Option.mem_some_iff] at hd
  subst hd
  rcases h with rfl | rfl | rfl <;> decide

theorem spanDigits_append {digits rest : List Char}
    (hdigits : ∀ c ∈ digits, Text.isAsciiDigit c = true) (hrest : Ends rest) :
    spanDigits (digits ++ rest) = (digits, rest) := by
  induction digits with
  | nil =>
      cases rest with
      | nil => rfl
      | cons c rest =>
          have hc := (hrest c rfl).1
          rw [List.nil_append, spanDigits, if_neg (by rw [hc]; decide)]
  | cons c digits ih =>
      rw [List.cons_append, spanDigits, if_pos (hdigits c List.mem_cons_self),
        ih fun d hd => hdigits d (List.mem_cons_of_mem _ hd)]

theorem readFraction_of_ends {rest : List Char} (hrest : Ends rest) :
    readFraction rest = some ([], rest) := by
  rw [readFraction]
  rintro tail rfl
  exact (hrest '.' rfl).2.1 rfl

theorem readExponent_of_ends {rest : List Char} (hrest : Ends rest) :
    readExponent rest = some ([], rest) := by
  cases rest with
  | nil => rw [readExponent]
  | cons c rest =>
      have hc := (hrest c rfl).2.2
      rw [readExponent.eq_def]
      exact if_neg (not_or.2 hc)

/-- A leading zero stands alone. -/
theorem leadingZero_natDigits (n : Nat) :
    ¬ ((Text.natDigits n).head? = some '0' && (Text.natDigits n).length > 1) = true := by
  intro h
  rw [Bool.and_eq_true, decide_eq_true_iff, decide_eq_true_iff] at h
  have hzero := Text.eq_zero_of_head?_natDigits h.1
  have hlength : (Text.natDigits n).length ≤ 1 :=
    Text.length_natDigits_le (show n < 10 by omega) Nat.one_pos
  omega

theorem readMagnitude_natDigits (negative : Bool) (n : Nat) {rest : List Char}
    (hrest : Ends rest) :
    readMagnitude negative (Text.natDigits n ++ rest) =
      some (number negative (Text.natDigits n) [] [], rest) := by
  have hspan := spanDigits_append (fun c hc => Text.isAsciiDigit_of_mem_natDigits (n := n) hc) hrest
  have hne : ¬ (Text.natDigits n).isEmpty = true := by
    rw [List.isEmpty_iff]
    exact Text.natDigits_ne_nil n
  rw [readMagnitude, readDigits1, hspan]
  simp only [if_neg hne, Option.bind_eq_bind, Option.bind_some, if_neg (leadingZero_natDigits n),
    readFraction_of_ends hrest, readExponent_of_ends hrest]
  rfl

theorem number_of_whole (negative : Bool) {n : Nat} (h : negative = true → n ≠ 0) :
    number negative (Text.natDigits n) [] [] =
      .int (if negative then -Int.ofNat n else Int.ofNat n) := by
  have hzero : (negative && n == 0) = false := by
    cases negative with
    | false => rfl
    | true => exact beq_false_of_ne (h rfl)
  simp only [number, Text.digitsValue_natDigits, hzero]
  rfl

theorem readNumber_ofInt (n : Int) {rest : List Char} (hrest : Ends rest) :
    readNumber ((Text.ofInt n).toList ++ rest) = some (.int n, rest) := by
  cases n with
  | ofNat n =>
      rw [Text.ofInt, Text.ofNat, String.toList_ofList, readNumber,
        readMagnitude_natDigits false n hrest,
        number_of_whole false fun h => absurd h Bool.false_ne_true]
      · rfl
      · obtain ⟨c, cs, hdigits, hc⟩ := Text.exists_natDigits_eq_cons n
        rw [hdigits]
        rintro tail ⟨⟩
        exact absurd hc (by decide)
  | negSucc n =>
      rw [Text.ofInt, String.toList_ofList, List.cons_append, readNumber,
        readMagnitude_natDigits true (n + 1) hrest, number_of_whole true fun _ => n.succ_ne_zero]
      rfl

/-! ## The text of a value

The steps of the printer, all of them by computation. -/

theorem print_int (n : Int) : print (.int n) = (Text.ofInt n).toList := rfl

theorem print_str (s : String) : print (.str s) = quoted s := rfl

theorem print_arr_cons (item : Json) (items : List Json) :
    print (.arr (item :: items)) = '[' :: (print item ++ printItems items) := rfl

theorem print_obj_cons (key : String) (value : Json) (members : List (String × Json)) :
    print (.obj ((key, value) :: members)) =
      '\x7b' :: (quoted key ++ ':' :: (print value ++ printMembers members)) := rfl

theorem printItems_cons (item : Json) (items : List Json) :
    printItems (item :: items) = ',' :: (print item ++ printItems items) := rfl

theorem printMembers_cons (key : String) (value : Json) (members : List (String × Json)) :
    printMembers ((key, value) :: members) =
      ',' :: (quoted key ++ ':' :: (print value ++ printMembers members)) := rfl

theorem ends_printItems (items : List Json) (rest : List Char) :
    Ends (printItems items ++ rest) := by
  cases items with
  | nil => exact ends_cons (.inr (.inl rfl)) rest
  | cons item items => exact ends_cons (.inl rfl) _

theorem ends_printMembers (members : List (String × Json)) (rest : List Char) :
    Ends (printMembers members ++ rest) := by
  cases members with
  | nil => exact ends_cons (.inr (.inr rfl)) rest
  | cons member members => exact ends_cons (.inl rfl) _

theorem exists_print_int_eq_cons (n : Int) :
    ∃ c cs, print (.int n) = c :: cs ∧ (Text.isAsciiDigit c = true ∨ c = '-') := by
  cases n with
  | ofNat n =>
      obtain ⟨c, cs, hdigits, hc⟩ := Text.exists_natDigits_eq_cons n
      refine ⟨c, cs, ?_, .inl hc⟩
      rw [print_int, Text.ofInt, Text.ofNat, String.toList_ofList, hdigits]
  | negSucc n =>
      refine ⟨'-', Text.natDigits (n + 1), ?_, .inr rfl⟩
      rw [print_int, Text.ofInt, String.toList_ofList]

/-- A number starts with no mark that stands between values. -/
theorem front_of_number {c : Char} (h : Text.isAsciiDigit c = true ∨ c = '-') :
    isSpace c = false ∧ c ≠ ']' := by
  constructor
  · cases hspace : isSpace c with
    | false => rfl
    | true =>
        simp only [isSpace, Bool.or_eq_true, beq_iff_eq] at hspace
        rcases hspace with ((rfl | rfl) | rfl) | rfl <;> exact absurd h (by decide)
  · rintro rfl
    exact absurd h (by decide)

/-- What a plain value starts with is taken for no blank and for no closing bracket. -/
theorem IsPlain.exists_print_eq_cons {v : Json} (h : IsPlain v) :
    ∃ c cs, print v = c :: cs ∧ isSpace c = false ∧ c ≠ ']' := by
  cases h with
  | null => exact ⟨'n', ['u', 'l', 'l'], rfl, by decide, by decide⟩
  | bool b =>
      cases b with
      | false => exact ⟨'f', ['a', 'l', 's', 'e'], rfl, by decide, by decide⟩
      | true => exact ⟨'t', ['r', 'u', 'e'], rfl, by decide, by decide⟩
  | int n =>
      obtain ⟨c, cs, hprint, hc⟩ := exists_print_int_eq_cons n
      exact ⟨c, cs, hprint, front_of_number hc⟩
  | str s => exact ⟨'"', _, rfl, by decide, by decide⟩
  | @arr items plain =>
      cases items with
      | nil => exact ⟨'[', [']'], rfl, by decide, by decide⟩
      | cons item items => exact ⟨'[', _, rfl, by decide, by decide⟩
  | @obj members plain =>
      cases members with
      | nil => exact ⟨'\x7b', ['\x7d'], rfl, by decide, by decide⟩
      | cons member members => exact ⟨'\x7b', _, rfl, by decide, by decide⟩

/-! ## The steps of the reader -/

variable {budget : Nat}

theorem skipSpace_cons {c : Char} (h : isSpace c = false) (cs : List Char) :
    skipSpace (c :: cs) = c :: cs := by
  rw [skipSpace, List.dropWhile_cons, if_neg (by rw [h]; decide)]

theorem readValue_number {c : Char} (hc : Text.isAsciiDigit c = true ∨ c = '-')
    (rest : List Char) : readValue (budget + 1) (c :: rest) = readNumber (c :: rest) := by
  rw [readValue, skipSpace_cons (front_of_number hc).1]
  split
  case h_7 => rfl
  all_goals
    next h =>
      injection h with h
      subst h
      exact absurd hc (by decide)

theorem readValue_arr {c : Char} (hspace : isSpace c = false) (hclose : c ≠ ']')
    (rest : List Char) :
    readValue (budget + 1) ('[' :: c :: rest) =
      (readValue budget (c :: rest)).bind fun first =>
        (readItems budget first.2).bind fun others =>
          some (.arr (first.1 :: others.1), others.2) := by
  rw [readValue, skipSpace_cons (by decide)]
  simp only []
  rw [skipSpace_cons hspace]
  split
  · next h =>
      injection h with h
      exact absurd h hclose
  · rfl

theorem readValue_obj (rest : List Char) :
    readValue (budget + 1) ('\x7b' :: '"' :: rest) =
      (readMember budget ('"' :: rest)).bind fun first =>
        (readMembers budget first.2).bind fun others =>
          some (objectOf (first.1 :: others.1), others.2) := by
  rw [readValue, skipSpace_cons (by decide)]
  simp only []
  rw [skipSpace_cons (by decide)]
  rfl

theorem readItems_comma (rest : List Char) :
    readItems (budget + 1) (',' :: rest) =
      (readValue budget rest).bind fun first =>
        (readItems budget first.2).bind fun others => some (first.1 :: others.1, others.2) := by
  rw [readItems, skipSpace_cons (by decide)]
  rfl

theorem readMembers_comma (rest : List Char) :
    readMembers (budget + 1) (',' :: rest) =
      (readMember budget rest).bind fun first =>
        (readMembers budget first.2).bind fun others => some (first.1 :: others.1, others.2) := by
  rw [readMembers, skipSpace_cons (by decide)]
  rfl

theorem readMember_quoted (key : String) (rest : List Char) :
    readMember (budget + 1) (quoted key ++ ':' :: rest) =
      (readValue budget rest).bind fun read => some ((some key, read.1), read.2) := by
  rw [quoted_append, readMember, skipSpace_cons (by decide)]
  simp only [readKey_flatMap_escape, Option.bind_eq_bind, Option.bind_some]
  rw [skipSpace_cons (by decide)]
  rfl

/-! ## Values -/

/-- The reader takes the value off the front of a text. -/
def ReadsBack (v : Json) : Prop :=
  ∀ (budget : Nat) (rest : List Char), (print v).length < budget → Ends rest →
    readValue budget (print v ++ rest) = some (v, rest)

theorem readItems_printItems {items : List Json} (h : ∀ item ∈ items, ReadsBack item)
    {budget : Nat} {rest : List Char} (hbudget : (printItems items).length < budget) :
    readItems budget (printItems items ++ rest) = some (items, rest) := by
  induction items generalizing budget with
  | nil =>
      obtain - | budget := budget
      · omega
      · rfl
  | cons item items ih =>
      obtain - | budget := budget
      · omega
      rw [printItems_cons, List.length_cons, List.length_append] at hbudget
      have hitem := h item List.mem_cons_self budget (printItems items ++ rest) (by omega)
        (ends_printItems items rest)
      have hitems := ih (fun other hother => h other (List.mem_cons_of_mem _ hother))
        (show _ < budget by omega)
      rw [printItems_cons, List.cons_append, List.append_assoc, readItems_comma]
      simp only [hitem, hitems, Option.bind_some]

theorem readMember_append {value : Json} (h : ReadsBack value) (key : String) {budget : Nat}
    {rest : List Char} (hbudget : (print value).length + 1 < budget) (hrest : Ends rest) :
    readMember budget (quoted key ++ ':' :: (print value ++ rest)) =
      some ((some key, value), rest) := by
  obtain - | budget := budget
  · omega
  rw [readMember_quoted, h budget rest (by omega) hrest, Option.bind_some]

theorem length_quoted (s : String) : 1 < (quoted s).length := by
  rw [quoted, List.length_cons, List.length_append, List.length_singleton]
  omega

theorem readMembers_printMembers {members : List (String × Json)}
    (h : ∀ member ∈ members, ReadsBack member.2) {budget : Nat} {rest : List Char}
    (hbudget : (printMembers members).length < budget) :
    readMembers budget (printMembers members ++ rest) =
      some (members.map fun member => (some member.1, member.2), rest) := by
  induction members generalizing budget with
  | nil =>
      obtain - | budget := budget
      · omega
      · rfl
  | cons member members ih =>
      obtain ⟨key, value⟩ := member
      obtain - | budget := budget
      · omega
      have hquoted := length_quoted key
      rw [printMembers_cons, List.length_cons, List.length_append, List.length_cons,
        List.length_append] at hbudget
      have hvalue : ReadsBack value := h _ List.mem_cons_self
      have hmember := readMember_append hvalue key (show _ < budget by omega)
        (ends_printMembers members rest)
      have hmembers := ih (fun other hother => h other (List.mem_cons_of_mem _ hother))
        (show _ < budget by omega)
      rw [printMembers_cons, List.cons_append, List.append_assoc, List.cons_append,
        List.append_assoc, readMembers_comma]
      simp only [hmember, hmembers, Option.bind_some, List.map_cons]

theorem objectOf_readable (members : List (String × Json)) :
    objectOf (members.map fun member => (some member.1, member.2)) = .obj members := by
  have hreadable : (members.map fun member => (some member.1, member.2)).mapM member? =
      some members := by
    rw [List.mapM_map]
    induction members with
    | nil => rfl
    | cons member members ih => rw [List.mapM_cons, ih]; rfl
  rw [objectOf, hreadable]

/-- The induction is on the value; the budget goes down with the text. -/
theorem readsBack_of_isPlain {v : Json} (h : IsPlain v) : ReadsBack v := by
  induction h with
  | null =>
      intro budget rest hbudget hrest
      obtain - | budget := budget
      · omega
      · rfl
  | bool b =>
      intro budget rest hbudget hrest
      obtain - | budget := budget
      · omega
      · cases b <;> rfl
  | int n =>
      intro budget rest hbudget hrest
      obtain - | budget := budget
      · omega
      obtain ⟨c, cs, hprint, hc⟩ := exists_print_int_eq_cons n
      rw [hprint, List.cons_append, readValue_number hc, ← List.cons_append, ← hprint]
      exact readNumber_ofInt n hrest
  | str s =>
      intro budget rest hbudget hrest
      obtain - | budget := budget
      · omega
      rw [print_str, quoted_append, readValue, skipSpace_cons (by decide)]
      exact readString_flatMap_escape s rest
  | @arr items plain ih =>
      intro budget rest hbudget hrest
      obtain - | budget := budget
      · omega
      cases items with
      | nil => rfl
      | cons item items =>
          rw [print_arr_cons, List.length_cons, List.length_append] at hbudget
          obtain ⟨c, cs, hprint, hspace, hclose⟩ :=
            (plain item List.mem_cons_self).exists_print_eq_cons
          have hitem := ih item List.mem_cons_self budget (printItems items ++ rest) (by omega)
            (ends_printItems items rest)
          have hitems : readItems budget (printItems items ++ rest) = some (items, rest) :=
            readItems_printItems (fun other hother => ih other (List.mem_cons_of_mem _ hother))
              (by omega)
          rw [print_arr_cons, List.cons_append, List.append_assoc, hprint, List.cons_append,
            readValue_arr hspace hclose, ← List.cons_append, ← hprint]
          simp only [hitem, hitems, Option.bind_some]
  | @obj members plain ih =>
      intro budget rest hbudget hrest
      obtain - | budget := budget
      · omega
      cases members with
      | nil => rfl
      | cons member members =>
          obtain ⟨key, value⟩ := member
          have hquoted := length_quoted key
          rw [print_obj_cons, List.length_cons, List.length_append, List.length_cons,
            List.length_append] at hbudget
          have hvalue : ReadsBack value := ih _ List.mem_cons_self
          have hmember := readMember_append hvalue key (show _ < budget by omega)
            (ends_printMembers members rest)
          have hmembers : readMembers budget (printMembers members ++ rest) =
              some (members.map fun member => (some member.1, member.2), rest) :=
            readMembers_printMembers
              (fun other hother => ih other (List.mem_cons_of_mem _ hother)) (by omega)
          rw [print_obj_cons, List.cons_append, List.append_assoc, List.cons_append,
            List.append_assoc, quoted_append, readValue_obj, ← quoted_append]
          simp only [hmember, hmembers, Option.bind_some]
          rw [← objectOf_readable, List.map_cons]

/-- A plain value is read again from its text. -/
theorem parse_print {v : Json} (h : IsPlain v) : parse (print v) = some v := by
  have hread := readsBack_of_isPlain h (2 * (print v).length + 2) [] (by omega) ends_nil
  rw [List.append_nil] at hread
  rw [parse, hread]
  rfl

theorem parse?_render {v : Json} (h : IsPlain v) : parse? v.render = some v := by
  rw [parse?, render, String.toList_ofList, parse_print h]

end MediaShelf.Json
