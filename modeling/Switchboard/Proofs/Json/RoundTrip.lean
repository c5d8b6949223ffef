import Switchboard.Json.Reader
import Switchboard.Json.Writer
/-!
# JSON texts read back

Reading undoes writing: a value whose numbers are natural and fit into 64 bits, and that nests less
deeply than the reader allows, is the one its text says (`parse_write`). The induction is on the
value; what carries it is that each part is read whatever follows, as long as that may follow a
value (`Closes`), with fuel for twice the length of its text.
-/

namespace Switchboard.Json

/-! ## Strings -/

private theorem hexValue?_digit {n : Nat} (h : n < 16) : hexValue? (Hex.digit n) = some n := by
  have all : ∀ m : Fin 16, hexValue? (Hex.digit m.val) = some m.val := by decide
  exact all ⟨n, h⟩

/-- The unit of a control character, in the four digits it is written with. -/
theorem hexUnit?_control {n : Nat} (h : n < 32) :
    hexUnit? '0' '0' (Hex.digit (n / 16)) (Hex.digit (n % 16)) = some n := by
  have hzero : hexValue? '0' = some 0 := by decide
  simp only [hexUnit?, hzero, hexValue?_digit (show n / 16 < 16 by omega),
    hexValue?_digit (show n % 16 < 16 by omega), Option.bind_eq_bind, Option.bind_some,
    Option.pure_def, Option.some.injEq]
  omega

/-- The three ways a character stands in a string: by a letter after a backslash, by its number,
and as it is. -/
theorem escape_cases (c : Char) :
    (∃ letter, escape c = ['\\', letter] ∧ letter ≠ 'u' ∧ unescape? letter = some c) ∨
    (c.toNat < 32 ∧
      escape c = ['\\', 'u', '0', '0', Hex.digit (c.toNat / 16), Hex.digit (c.toNat % 16)]) ∨
    (escape c = [c] ∧ c ≠ '"' ∧ c ≠ '\\' ∧ 32 ≤ c.toNat) := by
  by_cases lettered : c ∈ ['"', '\\', '\x08', '\t', '\n', '\x0c', '\r']
  · left
    simp only [List.mem_cons, List.not_mem_nil, or_false] at lettered
    rcases lettered with rfl | rfl | rfl | rfl | rfl | rfl | rfl <;>
      exact ⟨_, rfl, by decide, rfl⟩
  · right
    simp only [List.mem_cons, List.not_mem_nil, or_false, not_or] at lettered
    by_cases control : c.toNat < 32
    · exact .inl ⟨control, by simp only [escape, lettered, control, if_true, if_false]⟩
    · exact .inr ⟨by simp only [escape, lettered, control, if_false], lettered.1, lettered.2.1,
        Nat.not_lt.mp control⟩

/-- A character is scanned from the way it is written. -/
theorem scanPieces_escape (c : Char) (rest : List Char) :
    scanPieces (escape c ++ rest) =
      (scanPieces rest).bind fun scanned => some (.char c :: scanned.1, scanned.2) := by
  rcases escape_cases c with ⟨letter, h, not_u, unescaped⟩ | ⟨small, h⟩ | ⟨h, quote, slash, large⟩
  · rw [h, List.cons_append, List.cons_append, List.nil_append, scanPieces.eq_4]
    · simp only [unescaped, Option.bind_eq_bind, Option.bind_some, Option.pure_def]
    · intro a b c d tail hu
      exact absurd hu not_u
  · have hpiece : Piece.ofUnit c.toNat = .char c := by
      rw [Piece.ofUnit, if_neg (by omega), Char.ofNat_toNat]
    simp only [h, List.cons_append, List.nil_append, scanPieces, hexUnit?_control small, hpiece,
      Option.bind_eq_bind, Option.bind_some, Option.pure_def]
  · have plain : ¬(c.toNat < 32 ∨ c = '\\') := by simp [slash, Nat.not_lt.mpr large]
    rw [h, List.cons_append, List.nil_append, scanPieces.eq_5 c rest, if_neg plain]
    · rfl
    · exact quote
    · rintro a b d e tail rfl
      exact absurd rfl slash
    · rintro letter tail rfl
      exact absurd rfl slash

private theorem scanPieces_escaped (text rest : List Char) :
    scanPieces (text.flatMap escape ++ '"' :: rest) = some (text.map .char, rest) := by
  induction text with
  | nil => rw [List.flatMap_nil, List.nil_append, scanPieces]; rfl
  | cons c text ih => rw [List.flatMap_cons, List.append_assoc, scanPieces_escape, ih]; rfl

private theorem joinPieces_chars (text : List Char) : joinPieces (text.map .char) = some text := by
  induction text with
  | nil => rfl
  | cons c text ih => rw [List.map_cons, joinPieces, ih]; rfl

/-- A string is read from its quoted text, whatever follows. -/
theorem readString_quoted (text : String) (rest : List Char) :
    readString (text.toList.flatMap escape ++ '"' :: rest) = some (some text, rest) := by
  simp only [readString, scanPieces_escaped, Option.map_some, joinPieces_chars,
    String.ofList_toList]

/-! ## Values -/

/-- The text goes on as it may behind a value: it ends, or a separator or a closing bracket
stands there. -/
def Closes (text : List Char) : Prop := ∀ c ∈ text.head?, c ∈ [',', ']', '\x7d']

private theorem closes_nil : Closes [] := fun c h => by cases h

private theorem closes_cons {c : Char} (h : c ∈ [',', ']', '\x7d']) (text : List Char) :
    Closes (c :: text) := fun d hd => by
  rw [List.head?_cons, Option.mem_some_iff] at hd
  exact hd ▸ h

private theorem Closes.endsDigits {text : List Char} (h : Closes text) :
    Decimal.EndsDigits text := by
  have all : ∀ c ∈ [',', ']', '\x7d'], Decimal.isDigit c = false := by
    simp only [List.mem_cons, List.not_mem_nil, or_false]
    rintro c (rfl | rfl | rfl) <;> rfl
  exact fun c hc => all c (h c hc)

/-- Nothing behind a value belongs to a number. -/
theorem Closes.scan {text : List Char} (h : Closes text) :
    scanFraction text = some ([], text) ∧ scanExponent text = some (none, text) := by
  cases text with
  | nil => exact ⟨rfl, rfl⟩
  | cons c rest =>
    have hc := h c rfl
    simp only [List.mem_cons, List.not_mem_nil, or_false] at hc
    rcases hc with rfl | rfl | rfl <;> exact ⟨rfl, rfl⟩

private theorem scanWhole_digits (n : Nat) {rest : List Char} (h : Decimal.EndsDigits rest) :
    scanWhole (Decimal.digits n ++ rest) = some (Decimal.digits n, rest) := by
  have run := Decimal.takeWhile_isDigit (fun _ => Decimal.isDigit_of_mem_digits (n := n)) h
  have left := Decimal.dropWhile_isDigit (fun _ => Decimal.isDigit_of_mem_digits (n := n)) h
  unfold scanWhole
  split
  · next text tail htext =>
    obtain ⟨c, front, hfront, -⟩ := Decimal.digits_eq_cons n
    rw [hfront, List.cons_append, List.cons.injEq] at htext
    obtain ⟨rfl, rfl⟩ := htext
    rw [hfront, (Decimal.eq_zero_of_digits hfront).2, List.nil_append]
  · simp only [run, left, List.isEmpty_iff, Decimal.digits_ne_nil, if_false]

/-- A natural number that fits into 64 bits is read from its digits. -/
theorem readNumber_digits {n : Nat} (fits : n < 18446744073709551616) {rest : List Char}
    (h : Closes rest) : readNumber (Decimal.digits n ++ rest) = some (natural n, rest) := by
  have unsigned : ∀ tail, Decimal.digits n ++ rest ≠ '-' :: tail := by
    intro tail htail
    obtain ⟨c, front, hfront, digit⟩ := Decimal.digits_eq_cons n
    rw [hfront, List.cons_append, List.cons.injEq] at htail
    rw [htail.1] at digit
    exact absurd digit (by decide)
  have numeral : scanNumeral (Decimal.digits n ++ rest)
      = some (⟨false, Decimal.digits n, [], none⟩, rest) := by
    unfold scanNumeral
    split
    next negative text hsign =>
    split at hsign
    · next tail htail => exact absurd htail (unsigned tail)
    · obtain ⟨rfl, rfl⟩ := Prod.mk.inj hsign
      simp only [scanWhole_digits n h.endsDigits, h.scan, Option.bind_eq_bind, Option.bind_some,
        Option.pure_def]
  have finite : Numeral.isFinite ⟨false, Decimal.digits n, [], none⟩ = true := by
    rw [Numeral.isFinite, scaled_whole (by rwa [Decimal.value_digits]), Scaled.isFinite]
    simp
  simp only [readNumber, numeral, Option.map_some, finite, Decimal.value_digits]
  rfl

/-- A value that is written and read without loss: nothing in it is unreadable, its numbers are
natural and fit into 64 bits, and arrays and objects nest at most so many levels. -/
inductive Plain : Nat → Json → Prop where
  | null (levels : Nat) : Plain levels .null
  | bool (levels : Nat) (value : Bool) : Plain levels (.bool value)
  | natural (levels : Nat) {value : Nat} (fits : value < 18446744073709551616) :
    Plain levels (.natural value)
  | string (levels : Nat) (text : String) : Plain levels (.string text)
  | array {levels : Nat} {items : List Json} (plain : ∀ item ∈ items, Plain levels item) :
    Plain (levels + 1) (.array items)
  | object {levels : Nat} {members : List (String × Json)}
    (plain : ∀ member ∈ members, Plain levels member.2) : Plain (levels + 1) (.object members)

private theorem skipBlanks_cons {c : Char} (h : isBlank c = false) (text : List Char) :
    skipBlanks (c :: text) = c :: text := by
  rw [skipBlanks, List.dropWhile_cons_of_neg (by rw [h]; decide)]

theorem isBlank_of_isDigit {c : Char} (h : Decimal.isDigit c = true) : isBlank c = false := by
  rw [isBlank, Bool.eq_false_iff]
  intro blank
  simp only [Bool.or_eq_true, decide_eq_true_eq] at blank
  rcases blank with ((rfl | rfl) | rfl) | rfl <;> exact absurd h (by decide)

/-- The first character of a written value is not blank and closes no array. -/
theorem write_eq_cons {levels : Nat} {value : Json} (h : Plain levels value) :
    ∃ c tail, write value = c :: tail ∧ isBlank c = false ∧ c ≠ ']' := by
  cases h with
  | null => exact ⟨_, _, rfl, by decide, by decide⟩
  | bool _ value => cases value <;> exact ⟨_, _, rfl, by decide, by decide⟩
  | @natural _ value _ =>
    obtain ⟨c, tail, hd, digit⟩ := Decimal.digits_eq_cons value
    refine ⟨c, tail, hd, isBlank_of_isDigit digit, ?_⟩
    rintro rfl
    exact absurd digit (by decide)
  | string => exact ⟨_, _, rfl, by decide, by decide⟩
  | @array _ items _ => cases items <;> exact ⟨_, _, rfl, by decide, by decide⟩
  | @object _ members _ => cases members <;> exact ⟨_, _, rfl, by decide, by decide⟩

/-- What begins with a digit is read as a number. -/
theorem readValue_digit {c : Char} (h : Decimal.isDigit c = true) (fuel depth : Nat)
    (text : List Char) : readValue (fuel + 1) depth (c :: text) = readNumber (c :: text) := by
  have other : ∀ d ∈ ['n', 't', 'f', '"', '[', '\x7b'], ∀ tail, c :: text ≠ d :: tail := by
    rintro d hd tail htail
    have all : ∀ d ∈ ['n', 't', 'f', '"', '[', '\x7b'], Decimal.isDigit d = false := by
      simp only [List.mem_cons, List.not_mem_nil, or_false]
      rintro d (rfl | rfl | rfl | rfl | rfl | rfl) <;> rfl
    rw [(List.cons.inj htail).1, all d hd] at h
    cases h
  simp only [readValue, skipBlanks_cons (isBlank_of_isDigit h)]
  split
  case h_7 => rfl
  all_goals
    next rest same => exact absurd same (other _ (by decide) _)

/-- Behind an opening bracket the items are read, unless the array is closed at once. -/
theorem readValue_bracket {c : Char} (notBlank : isBlank c = false) (notClosed : c ≠ ']')
    (fuel depth : Nat) (text : List Char) :
    readValue (fuel + 1) depth ('[' :: c :: text) =
      (readItems fuel (depth - 1) (c :: text)).map fun read =>
        (nested depth (.array read.1), read.2) := by
  simp (disch := decide) only [readValue, skipBlanks_cons]
  rw [skipBlanks_cons notBlank]
  split
  · next rest same => exact absurd (List.cons.inj same).1 notClosed
  · rfl

/-- Behind an opening brace the members are read, the first of which begins with a quote. -/
theorem readValue_brace (fuel depth : Nat) (text : List Char) :
    readValue (fuel + 1) depth ('\x7b' :: '"' :: text) =
      (readMembers fuel (depth - 1) ('"' :: text)).map fun read =>
        (nested depth ((read.1.map Json.object).getD .unreadable), read.2) := by
  simp (disch := decide) only [readValue, skipBlanks_cons]
  rfl

private theorem readItems_comma {fuel depth : Nat} {text rest : List Char} {item : Json}
    (read : readValue fuel depth text = some (item, ',' :: rest)) :
    readItems (fuel + 1) depth text =
      (readItems fuel depth rest).map fun read => (item :: read.1, read.2) := by
  simp (disch := decide) only [readItems, read, skipBlanks_cons]

private theorem readItems_close {fuel depth : Nat} {text rest : List Char} {item : Json}
    (read : readValue fuel depth text = some (item, ']' :: rest)) :
    readItems (fuel + 1) depth text = some ([item], rest) := by
  simp (disch := decide) only [readItems, read, skipBlanks_cons]

private theorem readMembers_comma {fuel depth : Nat} {text rest : List Char} {value : Json}
    (name : String) (read : readValue fuel depth text = some (value, ',' :: rest)) :
    readMembers (fuel + 1) depth (quoted name ++ ':' :: text) =
      (readMembers fuel depth rest).map fun read =>
        (withMember (some name) value read.1, read.2) := by
  simp (disch := decide) only [readMembers, quoted, List.cons_append, List.nil_append,
    List.append_assoc, skipBlanks_cons, readString_quoted, read]

private theorem readMembers_close {fuel depth : Nat} {text rest : List Char} {value : Json}
    (name : String) (read : readValue fuel depth text = some (value, '\x7d' :: rest)) :
    readMembers (fuel + 1) depth (quoted name ++ ':' :: text)
      = some (some [(name, value)], rest) := by
  simp (disch := decide) only [readMembers, quoted, List.cons_append, List.nil_append,
    List.append_assoc, skipBlanks_cons, readString_quoted, read]
  rfl

/-! ## Whole values -/

/-- Given fuel for its text and levels enough to nest, the value is read from its text. -/
def ReadsBack (levels : Nat) (value : Json) : Prop :=
  ∀ fuel depth rest, levels < depth → 2 * (write value).length ≤ fuel → Closes rest →
    readValue fuel depth (write value ++ rest) = some (value, rest)

/-- The text of a value is not empty, so there is fuel for the call that reads it. -/
theorem readsBack_of_succ {levels : Nat} {value : Json} (h : Plain levels value)
    (back : ∀ fuel depth rest, levels < depth → 2 * (write value).length ≤ fuel + 1 →
      Closes rest → readValue (fuel + 1) depth (write value ++ rest) = some (value, rest)) :
    ReadsBack levels value := by
  intro fuel depth rest deep fueled closes
  obtain ⟨c, tail, head, -, -⟩ := write_eq_cons h
  have positive : 0 < (write value).length := by rw [head]; exact Nat.succ_pos _
  obtain ⟨less, rfl⟩ : ∃ less, fuel = less + 1 := ⟨fuel - 1, by omega⟩
  exact back less depth rest deep fueled closes

private theorem readItems_writeItems {levels depth : Nat} {items : List Json}
    (deep : levels < depth) (rest : List Char) (fuel : Nat) (item : Json)
    (back : ∀ value ∈ item :: items, ReadsBack levels value)
    (fueled : 2 * (write item ++ writeItems items).length < fuel) :
    readItems fuel depth (write item ++ (writeItems items ++ rest))
      = some (item :: items, rest) := by
  induction items generalizing item fuel with
  | nil =>
    obtain ⟨fuel, rfl⟩ : ∃ less, fuel = less + 1 := ⟨fuel - 1, by omega⟩
    simp only [writeItems, List.length_append, List.length_singleton] at fueled
    have first := back item List.mem_cons_self fuel depth (']' :: rest) deep (by omega)
      (closes_cons (by decide) rest)
    rw [writeItems, List.singleton_append, readItems_close first]
  | cons next items ih =>
    obtain ⟨fuel, rfl⟩ : ∃ less, fuel = less + 1 := ⟨fuel - 1, by omega⟩
    simp only [writeItems, List.length_append, List.length_cons] at fueled
    have first := back item List.mem_cons_self fuel depth
      (',' :: (write next ++ (writeItems items ++ rest))) deep (by omega)
      (closes_cons (by decide) _)
    have others := ih fuel next (fun value h => back value (List.mem_cons_of_mem _ h))
      (by simp only [List.length_append]; omega)
    rw [writeItems, List.cons_append, List.append_assoc, readItems_comma first, others]
    rfl

private theorem readMembers_writeMembers {levels depth : Nat} {members : List (String × Json)}
    (deep : levels < depth) (rest : List Char) (fuel : Nat) (name : String) (value : Json)
    (back : ∀ member ∈ (name, value) :: members, ReadsBack levels member.2)
    (fueled : 2 * (quoted name ++ ':' :: (write value ++ writeMembers members)).length < fuel) :
    readMembers fuel depth (quoted name ++ ':' :: (write value ++ (writeMembers members ++ rest)))
      = some (some ((name, value) :: members), rest) := by
  induction members generalizing name value fuel with
  | nil =>
    obtain ⟨fuel, rfl⟩ : ∃ less, fuel = less + 1 := ⟨fuel - 1, by omega⟩
    simp only [writeMembers, List.length_append, List.length_cons] at fueled
    have first := back _ List.mem_cons_self fuel depth ('\x7d' :: rest) deep
      (by simp only; omega) (closes_cons (by decide) rest)
    rw [writeMembers, List.singleton_append, readMembers_close name first]
  | cons next members ih =>
    obtain ⟨fuel, rfl⟩ : ∃ less, fuel = less + 1 := ⟨fuel - 1, by omega⟩
    simp only [writeMembers, List.length_append, List.length_cons] at fueled
    have first := back _ List.mem_cons_self fuel depth
      (',' :: (quoted next.1 ++ ':' :: (write next.2 ++ (writeMembers members ++ rest)))) deep
      (by simp only; omega) (closes_cons (by decide) _)
    have others := ih fuel next.1 next.2 (fun member h => back member (List.mem_cons_of_mem _ h))
      (by simp only [List.length_append, List.length_cons]; omega)
    simp only [writeMembers, List.cons_append, List.append_assoc]
    rw [readMembers_comma name first, others]
    rfl

private theorem nested_of_lt {depth : Nat} (h : 1 < depth) (container : Json) :
    nested depth container = container := if_neg (Nat.not_le.mpr h)

private theorem readsBack_array {levels : Nat} {items : List Json}
    (plain : ∀ item ∈ items, Plain levels item) (back : ∀ item ∈ items, ReadsBack levels item) :
    ReadsBack (levels + 1) (.array items) := by
  refine readsBack_of_succ (.array plain) fun fuel depth rest deep fueled closes => ?_
  have container := nested_of_lt (show 1 < depth by omega)
  cases items with
  | nil => exact congrArg (fun value => some (value, rest)) (container _)
  | cons item items =>
    simp only [write, List.length_cons] at fueled
    obtain ⟨c, tail, head, notBlank, notClosed⟩ := write_eq_cons (plain item List.mem_cons_self)
    have inner := readItems_writeItems (show levels < depth - 1 by omega) rest fuel item back
      (by omega)
    simp only [write, head, List.cons_append, List.append_assoc] at inner ⊢
    rw [readValue_bracket notBlank notClosed, inner, Option.map_some, container]

private theorem readsBack_object {levels : Nat} {members : List (String × Json)}
    (plain : ∀ member ∈ members, Plain levels member.2)
    (back : ∀ member ∈ members, ReadsBack levels member.2) :
    ReadsBack (levels + 1) (.object members) := by
  refine readsBack_of_succ (.object plain) fun fuel depth rest deep fueled closes => ?_
  have container := nested_of_lt (show 1 < depth by omega)
  cases members with
  | nil => exact congrArg (fun value => some (value, rest)) (container _)
  | cons member members =>
    simp only [write, List.length_cons] at fueled
    have inner := readMembers_writeMembers (show levels < depth - 1 by omega) rest fuel member.1
      member.2 back (by omega)
    simp only [write, quoted, List.cons_append, List.nil_append, List.append_assoc] at inner ⊢
    rw [readValue_brace, inner, Option.map_some, Option.map_some, Option.getD_some, container]

/-- A plain value is read from its text, whatever may follow a value. -/
theorem readsBack_of_plain {levels : Nat} {value : Json} (h : Plain levels value) :
    ReadsBack levels value := by
  induction h with
  | array plain ih => exact readsBack_array plain ih
  | object plain ih => exact readsBack_object plain ih
  | null levels => exact readsBack_of_succ (.null levels) fun _ _ _ _ _ _ => rfl
  | bool levels value =>
    refine readsBack_of_succ (.bool levels value) fun _ _ _ _ _ _ => ?_
    cases value <;> rfl
  | string levels text =>
    refine readsBack_of_succ (.string levels text) fun fuel depth rest _ _ _ => ?_
    simp (disch := decide) only [write, quoted, List.cons_append, List.append_assoc,
      List.nil_append, readValue, skipBlanks_cons, readString_quoted]
    rfl
  | @natural levels n fits =>
    refine readsBack_of_succ (.natural levels fits) fun fuel depth rest _ _ closes => ?_
    have number := readNumber_digits fits closes
    obtain ⟨c, tail, hd, digit⟩ := Decimal.digits_eq_cons n
    simp only [write, hd, List.cons_append] at number ⊢
    rw [readValue_digit digit, number]

/-- A plain value is the one its whole text says. -/
theorem parse_write {levels : Nat} {value : Json} (h : Plain levels value)
    (shallow : levels < depthLimit) : parse (write value) = some value := by
  have back := readsBack_of_plain h (2 * (write value).length + 2) depthLimit [] shallow (by omega)
    closes_nil
  rw [List.append_nil] at back
  rw [parse, back]
  rfl

end Switchboard.Json
