import RefDocs.Json.Read
import RefDocs.Json.Write
import Mathlib.Data.Nat.Digits.Defs

/-!
# Written JSON texts

The text that a value is written as reads back as the value.  A reader of a part of the text takes
exactly that part and hands on the rest, whatever follows; only a number has to be followed by
something that ends it.
-/

namespace RefDocs
namespace Json

/-! ## Strings -/

/-- The characters written for a character of a string are read as one element, which stands for
that character. -/
structure ReadsAs (chars : List Char) (char : Char) (part : StringPart) : Prop where
  readParts_eq : ∀ rest, readParts (chars ++ rest) =
    (readParts rest).map fun read => (part :: read.1, read.2)
  joinParts_eq : ∀ parts, joinParts (part :: parts) = (joinParts parts).map (char :: ·)

theorem joinParts_char (char : Char) (parts : List StringPart) :
    joinParts (.char char :: parts) = (joinParts parts).map (char :: ·) := by
  rw [joinParts]

theorem joinParts_unit {code : Nat} (small : code < 0xD800) (parts : List StringPart) :
    joinParts (.unit code :: parts) = (joinParts parts).map (Char.ofNat code :: ·) := by
  have not_high : isHighSurrogate code = false := by
    simp [isHighSurrogate]
    omega
  have not_low : isLowSurrogate code = false := by
    simp [isLowSurrogate]
    omega
  cases parts with
  | nil => simp [joinParts, not_high, not_low]
  | cons part parts => cases part <;> simp [joinParts, not_high, not_low]

theorem readsAs_escape {char escaped : Char} (escape_eq : simpleEscape? escaped = some char) :
    ReadsAs ['\\', escaped] char (.char char) where
  readParts_eq rest := by
    have not_unit : escaped ≠ 'u' := by
      rintro rfl
      cases escape_eq
    cases read_eq : readParts rest <;> simp [readParts, not_unit, escape_eq, read_eq]
  joinParts_eq := joinParts_char char

theorem readsAs_plain {char : Char} (not_quote : char ≠ '"') (not_escape : char ≠ '\\')
    (printable : 0x20 ≤ char.toNat) : ReadsAs [char] char (.char char) where
  readParts_eq rest := by
    cases read_eq : readParts rest <;> simp [readParts, not_escape, printable, read_eq]
  joinParts_eq := joinParts_char char

theorem hexQuad?_digitChar {code : Nat} (small : code < 0x20) :
    hexQuad? '0' '0' (Nat.digitChar (code / 16)) (Nat.digitChar (code % 16)) = some code := by
  decide +revert

theorem readsAs_unit {char : Char} (control : char.toNat < 0x20) :
    ReadsAs ['\\', 'u', '0', '0', Nat.digitChar (char.toNat / 16), Nat.digitChar (char.toNat % 16)]
      char (.unit char.toNat) where
  readParts_eq rest := by
    cases read_eq : readParts rest <;> simp [readParts, hexQuad?_digitChar control, read_eq]
  joinParts_eq parts := by
    rw [joinParts_unit (by omega), Char.ofNat_toNat]

theorem exists_readsAs (char : Char) : ∃ part, ReadsAs (writeChar char) char part := by
  unfold writeChar
  split_ifs with quoted printable backspace formFeed newline return_ tab
  · rcases quoted with rfl | rfl <;> exact ⟨_, readsAs_escape rfl⟩
  · obtain ⟨not_quote, not_escape⟩ := not_or.mp quoted
    exact ⟨_, readsAs_plain not_quote not_escape printable⟩
  · exact ⟨_, readsAs_escape (by rw [backspace]; rfl)⟩
  · exact ⟨_, readsAs_escape (by rw [formFeed]; rfl)⟩
  · exact ⟨_, readsAs_escape (by rw [newline]; rfl)⟩
  · exact ⟨_, readsAs_escape (by rw [return_]; rfl)⟩
  · exact ⟨_, readsAs_escape (by rw [tab]; rfl)⟩
  · exact ⟨_, readsAs_unit (by omega)⟩

theorem exists_readParts_eq (content rest : List Char) :
    ∃ parts, readParts (content.flatMap writeChar ++ '"' :: rest) = some (parts, rest) ∧
      joinParts parts = some content := by
  induction content with
  | nil => exact ⟨[], by simp [readParts], rfl⟩
  | cons char content ih =>
      obtain ⟨part, reads⟩ := exists_readsAs char
      obtain ⟨parts, read_eq, join_eq⟩ := ih
      refine ⟨part :: parts, ?_, ?_⟩
      · rw [List.flatMap_cons, List.append_assoc, reads.readParts_eq, read_eq]
        rfl
      · rw [reads.joinParts_eq, join_eq]
        rfl

/-- The characters of a written string behind its opening quote. -/
theorem exists_writeString_eq (content : Option String) :
    ∃ chars, writeString content = '"' :: chars ∧
      ∀ rest, readString (chars ++ rest) = some (content, rest) := by
  cases content with
  | none => exact ⟨_, rfl, fun rest => by rfl⟩
  | some content =>
      refine ⟨content.toList.flatMap writeChar ++ ['"'], rfl, fun rest => ?_⟩
      obtain ⟨parts, read_eq, join_eq⟩ := exists_readParts_eq content.toList rest
      rw [List.append_assoc, List.singleton_append]
      simp [readString, read_eq, join_eq]

/-! ## Numbers -/

theorem isDigit_of_mem_toDigits {number : Nat} {char : Char}
    (char_mem : char ∈ Nat.toDigits 10 number) : char.isDigit = true :=
  Nat.isDigit_of_mem_toDigits (by decide) (by decide) char_mem

theorem exists_toDigits_eq (number : Nat) :
    ∃ char chars, Nat.toDigits 10 number = char :: chars ∧ char.isDigit = true := by
  obtain ⟨char, chars, digits_eq⟩ :=
    List.exists_cons_of_ne_nil (Nat.toDigits_ne_nil (n := number) (b := 10))
  have char_mem : char ∈ Nat.toDigits 10 number := digits_eq ▸ List.mem_cons_self
  exact ⟨char, chars, digits_eq, isDigit_of_mem_toDigits char_mem⟩

/-- No digit stands in front. -/
def StopsDigits (rest : List Char) : Prop :=
  ∀ char ∈ rest.head?, char.isDigit = false

theorem takeWhile_toDigits {rest : List Char} (stops : StopsDigits rest) (number : Nat) :
    (Nat.toDigits 10 number ++ rest).takeWhile Char.isDigit = Nat.toDigits 10 number := by
  have rest_eq : rest.takeWhile Char.isDigit = [] := by
    cases rest with
    | nil => rfl
    | cons char rest => simp [stops char (by simp)]
  rw [List.takeWhile_append_of_pos fun _ => isDigit_of_mem_toDigits, rest_eq, List.append_nil]

theorem dropWhile_toDigits {rest : List Char} (stops : StopsDigits rest) (number : Nat) :
    (Nat.toDigits 10 number ++ rest).dropWhile Char.isDigit = rest := by
  rw [List.dropWhile_append_of_pos fun _ => isDigit_of_mem_toDigits]
  cases rest with
  | nil => rfl
  | cons char rest => simp [stops char (by simp)]

theorem digitChar_ne_zero {digit : Nat} (pos : 0 < digit) (small : digit < 10) :
    Nat.digitChar digit ≠ '0' := by
  revert pos
  decide +revert

/-- The digits of a positive number have no leading zero. -/
theorem head?_toDigits_ne {number : Nat} (pos : 0 < number) :
    (Nat.toDigits 10 number).head? ≠ some '0' := by
  induction number using Nat.strongRecOn with
  | ind number ih =>
      by_cases small : number < 10
      · rw [Nat.toDigits_of_lt_base small, List.head?_cons]
        exact fun head_eq => digitChar_ne_zero pos small (Option.some.inj head_eq)
      · have front_ne := ih (number / 10) (by omega) (by omega)
        obtain ⟨char, chars, digits_eq, -⟩ := exists_toDigits_eq (number / 10)
        rw [Nat.toDigits_of_base_le (by decide) (by omega), digits_eq]
        rwa [digits_eq] at front_ne

theorem toDigits_not_padded (number : Nat) :
    ((Nat.toDigits 10 number).head? == some '0' && decide ((Nat.toDigits 10 number).length > 1)) =
      false := by
  rcases Nat.eq_zero_or_pos number with rfl | pos
  · rfl
  · simp [head?_toDigits_ne pos]

/-- What follows a value ends it. -/
def Ends (rest : List Char) : Prop :=
  ∀ char ∈ rest.head?, char = ',' ∨ char = ']' ∨ char = '}'

theorem Ends.stopsDigits {rest : List Char} (ends : Ends rest) : StopsDigits rest := by
  intro char char_mem
  rcases ends char char_mem with rfl | rfl | rfl <;> rfl

theorem readFraction_eq_none {mark : Char} {rest : List Char} (mark_ne : mark ≠ '.') :
    readFraction (mark :: rest) = some (none, mark :: rest) := by
  simp [readFraction, mark_ne]

theorem Ends.readFraction_eq {rest : List Char} (ends : Ends rest) :
    readFraction rest = some (none, rest) := by
  cases rest with
  | nil => rfl
  | cons char rest =>
      refine readFraction_eq_none ?_
      rcases ends char rfl with rfl | rfl | rfl <;> decide

theorem Ends.readExponent_eq {rest : List Char} (ends : Ends rest) :
    readExponent rest = some (none, rest) := by
  cases rest with
  | nil => rfl
  | cons char rest => rcases ends char rfl with rfl | rfl | rfl <;> rfl

/-- An exponent is read with its sign, of which a plus is not written. -/
theorem readExponent_toDigits (negative : Bool) (size : Nat) {rest : List Char} (ends : Ends rest) :
    readExponent ('e' :: ((if negative then ['-'] else []) ++ (Nat.toDigits 10 size ++ rest))) =
      some (some (if negative then -(size : Int) else size), rest) := by
  have digits_ne : (Nat.toDigits 10 size).isEmpty = false := by simp [Nat.toDigits_ne_nil]
  have size_eq := digitsValue_toDigits size
  have taken := takeWhile_toDigits ends.stopsDigits size
  have dropped := dropWhile_toDigits ends.stopsDigits size
  cases negative with
  | true => simp [readExponent, taken, dropped, digits_ne, size_eq]
  | false =>
      obtain ⟨char, chars, digits_eq, is_digit⟩ := exists_toDigits_eq size
      have minus_ne : char ≠ '-' := by
        rintro rfl
        cases is_digit
      have plus_ne : char ≠ '+' := by
        rintro rfl
        cases is_digit
      rw [digits_eq] at taken dropped digits_ne size_eq
      simp only [List.cons_append] at taken dropped
      simp [readExponent, digits_eq, minus_ne, plus_ne, taken, dropped, size_eq]

/-- Written digits are read up to what follows them, an exponent or the end. -/
theorem readUnsigned_toDigits (negative : Bool) (digits : Nat) {tail rest : List Char}
    {exponent? : Option Int} (stops : StopsDigits tail)
    (fraction_eq : readFraction tail = some (none, tail))
    (exponent_eq : readExponent tail = some (exponent?, rest)) :
    readUnsigned negative (Nat.toDigits 10 digits ++ tail) =
      some (⟨negative, digits, exponent?.getD 0, exponent?.isNone⟩, rest) := by
  have digits_ne : (Nat.toDigits 10 digits).isEmpty = false := by simp [Nat.toDigits_ne_nil]
  have value_eq := digitsValue_toDigits digits
  have not_padded := toDigits_not_padded digits
  simp only [readUnsigned, takeWhile_toDigits stops, dropWhile_toDigits stops, fraction_eq,
    digits_ne, not_padded]
  simp [exponent_eq, value_eq]

/-- A number without its sign is read back, if an integer has no exponent. -/
theorem exists_writeNumeral_eq {numeral : Numeral}
    (integral_eq : numeral.integral = true → numeral.exponent = 0) :
    ∃ char chars, char.isDigit = true ∧
      writeNumeral numeral = (if numeral.negative then ['-'] else []) ++ char :: chars ∧
      ∀ rest, Ends rest →
        readUnsigned numeral.negative (char :: chars ++ rest) = some (numeral, rest) := by
  obtain ⟨negative, digits, exponent, integral⟩ := numeral
  obtain ⟨char, chars, digits_eq, is_digit⟩ := exists_toDigits_eq digits
  cases integral with
  | true =>
      obtain rfl : exponent = 0 := integral_eq rfl
      refine ⟨char, chars, is_digit, by simp [writeNumeral, digits_eq], fun rest ends => ?_⟩
      rw [← digits_eq]
      exact readUnsigned_toDigits negative digits ends.stopsDigits ends.readFraction_eq
        ends.readExponent_eq
  | false =>
      refine ⟨char, chars ++ 'e' :: ((if exponent < 0 then ['-'] else []) ++
        Nat.toDigits 10 exponent.natAbs), is_digit, by simp [writeNumeral, digits_eq],
        fun rest ends => ?_⟩
      have exponent_eq := readExponent_toDigits (decide (exponent < 0)) exponent.natAbs ends
      have signed_eq : (if decide (exponent < 0) then -(exponent.natAbs : Int)
          else exponent.natAbs) = exponent := by
        split <;> simp only [decide_eq_true_eq] at * <;> omega
      rw [signed_eq] at exponent_eq
      rw [← List.cons_append, ← digits_eq, List.append_assoc, List.cons_append, List.append_assoc]
      simp only [decide_eq_true_eq] at exponent_eq
      refine readUnsigned_toDigits negative digits ?_ (readFraction_eq_none (by decide)) exponent_eq
      intro char char_mem
      cases char_mem
      rfl

/-! ## Values -/

/-- A value as it is read: no number in it is an integer with an exponent. -/
inductive IsWritten : Value → Prop where
  | null : IsWritten .null
  | bool (flag : Bool) : IsWritten (.bool flag)
  | number {numeral : Numeral} (integral_eq : numeral.integral = true → numeral.exponent = 0) :
      IsWritten (.number numeral)
  | text (content : Option String) : IsWritten (.text content)
  | list {items : List Value} (all : ∀ item ∈ items, IsWritten item) : IsWritten (.list items)
  | object {entries : List (Option String × Value)} (all : ∀ entry ∈ entries, IsWritten entry.2) :
      IsWritten (.object entries)

/-- The text of a value is read back as the value in as many steps as it has characters, twice. -/
def ReadsBack (value : Value) : Prop :=
  ∀ steps rest, 2 * (writeValue value).length ≤ steps → Ends rest →
    readValue steps (writeValue value ++ rest) = some (value, rest)

/-- The character is no blank and closes nothing. -/
def Opens (char : Char) : Prop :=
  char ∉ [' ', '\n', '\t', '\r', ']', '}']

instance : DecidablePred Opens :=
  fun char => inferInstanceAs (Decidable (char ∉ _))

theorem opens_of_isDigit {char : Char} (is_digit : char.isDigit = true) : Opens char := by
  intro char_mem
  simp only [List.mem_cons, List.not_mem_nil, or_false] at char_mem
  rcases char_mem with rfl | rfl | rfl | rfl | rfl | rfl <;> cases is_digit

theorem Opens.skipBlanks_eq {char : Char} (opens : Opens char) (rest : List Char) :
    skipBlanks (char :: rest) = char :: rest := by
  simp only [Opens, List.mem_cons, List.not_mem_nil, or_false, not_or] at opens
  simp [skipBlanks, opens]

theorem exists_writeValue_eq {value : Value} (written : IsWritten value) :
    ∃ char chars, writeValue value = char :: chars ∧ Opens char := by
  cases written with
  | null => exact ⟨_, _, rfl, by decide⟩
  | bool flag => cases flag <;> exact ⟨_, _, rfl, by decide⟩
  | number integral_eq =>
      rename_i numeral
      obtain ⟨char, chars, is_digit, chars_eq, -⟩ := exists_writeNumeral_eq integral_eq
      rw [writeValue, chars_eq]
      cases numeral.negative with
      | true => exact ⟨_, _, rfl, by decide⟩
      | false => exact ⟨_, _, rfl, opens_of_isDigit is_digit⟩
  | text content =>
      obtain ⟨chars, chars_eq, -⟩ := exists_writeString_eq content
      exact ⟨'"', chars, by rw [writeValue, chars_eq], by decide⟩
  | list all => exact ⟨_, _, rfl, by decide⟩
  | object all => exact ⟨_, _, rfl, by decide⟩

theorem writeItems_cons (item : Value) {rest : List Value} (rest_ne : rest ≠ []) :
    writeItems (item :: rest) = writeValue item ++ ',' :: writeItems rest := by
  cases rest with
  | nil => exact absurd rfl rest_ne
  | cons other rest => rw [writeItems]; simp

theorem writeEntries_cons (key : Option String) (value : Value)
    {rest : List (Option String × Value)} (rest_ne : rest ≠ []) :
    writeEntries ((key, value) :: rest) =
      writeString key ++ ':' :: writeValue value ++ ',' :: writeEntries rest := by
  cases rest with
  | nil => exact absurd rfl rest_ne
  | cons other rest => rw [writeEntries]; simp

theorem exists_writeItems_eq {item : Value} (written : IsWritten item) (items : List Value) :
    ∃ char chars, writeItems (item :: items) = char :: chars ∧ Opens char := by
  obtain ⟨char, chars, item_eq, opens⟩ := exists_writeValue_eq written
  cases items with
  | nil => exact ⟨char, chars ++ [']'], by simp [writeItems, item_eq], opens⟩
  | cons other items => exact ⟨char, chars ++ ',' :: writeItems (other :: items),
      by rw [writeItems_cons item (List.cons_ne_nil other items), item_eq, List.cons_append], opens⟩

theorem exists_writeEntries_eq (entry : Option String × Value)
    (entries : List (Option String × Value)) :
    ∃ chars, writeEntries (entry :: entries) = '"' :: chars := by
  obtain ⟨key, value⟩ := entry
  obtain ⟨chars, key_eq, -⟩ := exists_writeString_eq key
  cases entries with
  | nil => exact ⟨_, by rw [writeEntries, key_eq]; rfl⟩
  | cons other entries =>
      exact ⟨_, by rw [writeEntries_cons key value (List.cons_ne_nil other entries), key_eq]; rfl⟩

/-- The items of an array are read back if each of them is. -/
theorem readItems_writeItems {items : List Value} (items_ne : items ≠ [])
    (reads : ∀ item ∈ items, ReadsBack item) (steps : Nat)
    (enough : 2 * (writeItems items).length ≤ steps) (rest : List Char) :
    readItems steps (writeItems items ++ rest) = some (items, rest) := by
  induction items generalizing steps with
  | nil => exact absurd rfl items_ne
  | cons item items ih =>
      have item_reads : ReadsBack item := reads item List.mem_cons_self
      rcases eq_or_ne items [] with rfl | others_ne
      · rw [writeItems] at enough ⊢
        simp only [List.length_append, List.length_singleton] at enough
        obtain ⟨steps, rfl⟩ : ∃ fewer, steps = fewer + 1 := ⟨steps - 1, by omega⟩
        have item_eq := item_reads steps (']' :: rest) (by omega) (by simp [Ends])
        simp [readItems, item_eq, skipBlanks]
      · rw [writeItems_cons item others_ne] at enough ⊢
        simp only [List.length_append, List.length_cons] at enough
        obtain ⟨steps, rfl⟩ : ∃ fewer, steps = fewer + 1 := ⟨steps - 1, by omega⟩
        have item_eq := item_reads steps (',' :: (writeItems items ++ rest)) (by omega)
          (by simp [Ends])
        have others_eq := ih others_ne (fun other other_mem =>
          reads other (List.mem_cons_of_mem _ other_mem)) steps (by omega)
        simp [readItems, item_eq, skipBlanks, others_eq]

/-- The entries of an object are read back if the value of each of them is. -/
theorem readEntries_writeEntries {entries : List (Option String × Value)}
    (entries_ne : entries ≠ []) (reads : ∀ entry ∈ entries, ReadsBack entry.2) (steps : Nat)
    (enough : 2 * (writeEntries entries).length ≤ steps) (rest : List Char) :
    readEntries steps (writeEntries entries ++ rest) = some (entries, rest) := by
  induction entries generalizing steps with
  | nil => exact absurd rfl entries_ne
  | cons entry entries ih =>
      obtain ⟨key, value⟩ := entry
      have value_reads : ReadsBack value := reads (key, value) List.mem_cons_self
      obtain ⟨chars, chars_eq, key_eq⟩ := exists_writeString_eq key
      rcases eq_or_ne entries [] with rfl | others_ne
      · rw [writeEntries, chars_eq] at enough ⊢
        simp only [List.length_append, List.length_cons] at enough
        obtain ⟨steps, rfl⟩ : ∃ fewer, steps = fewer + 1 := ⟨steps - 1, by omega⟩
        have value_eq := value_reads steps ('}' :: rest) (by omega) (by simp [Ends])
        simp [readEntries, skipBlanks, key_eq, value_eq]
      · rw [writeEntries_cons key value others_ne, chars_eq] at enough ⊢
        simp only [List.length_append, List.length_cons] at enough
        obtain ⟨steps, rfl⟩ : ∃ fewer, steps = fewer + 1 := ⟨steps - 1, by omega⟩
        have value_eq := value_reads steps (',' :: (writeEntries entries ++ rest)) (by omega)
          (by simp [Ends])
        have others_eq := ih others_ne (fun other other_mem =>
          reads other (List.mem_cons_of_mem _ other_mem)) steps (by omega)
        simp [readEntries, skipBlanks, key_eq, value_eq, others_eq]

theorem readValue_of_isDigit {char : Char} (is_digit : char.isDigit = true) (steps : Nat)
    (chars : List Char) :
    readValue (steps + 1) (char :: chars) =
      (readUnsigned false (char :: chars)).map fun read => (.number read.1, read.2) := by
  rw [readValue, (opens_of_isDigit is_digit).skipBlanks_eq]
  split
  all_goals first
    | cases ‹_ :: _ = _ :: _›
      cases is_digit
    | cases readUnsigned false (char :: chars) <;> rfl

theorem readValue_minus (steps : Nat) (chars : List Char) :
    readValue (steps + 1) ('-' :: chars) =
      (readUnsigned true chars).map fun read => (.number read.1, read.2) := by
  cases read_eq : readUnsigned true chars <;> simp [readValue, skipBlanks, read_eq]

theorem readValue_bracket {char : Char} (opens : Opens char) (steps : Nat) (chars : List Char) :
    readValue (steps + 1) ('[' :: char :: chars) =
      (readItems steps (char :: chars)).map fun read => (.list read.1, read.2) := by
  have skip_eq : skipBlanks ('[' :: char :: chars) = '[' :: char :: chars := by simp [skipBlanks]
  have bracket_ne : char ≠ ']' := by
    rintro rfl
    exact absurd opens (by decide)
  cases read_eq : readItems steps (char :: chars) <;>
    simp [readValue, skip_eq, opens.skipBlanks_eq, bracket_ne, read_eq]

theorem readValue_brace (steps : Nat) (chars : List Char) :
    readValue (steps + 1) ('{' :: '"' :: chars) =
      (readEntries steps ('"' :: chars)).map fun read => (.object read.1, read.2) := by
  cases read_eq : readEntries steps ('"' :: chars) <;> simp [readValue, skipBlanks, read_eq]

/-- It is enough to read a text back in at least one step. -/
theorem readsBack_of_succ {value : Value} (written : IsWritten value)
    (read_eq : ∀ steps rest, 2 * (writeValue value).length ≤ steps + 1 → Ends rest →
      readValue (steps + 1) (writeValue value ++ rest) = some (value, rest)) :
    ReadsBack value := by
  intro steps rest enough ends
  obtain ⟨char, chars, chars_eq, -⟩ := exists_writeValue_eq written
  cases steps with
  | zero => simp [chars_eq] at enough
  | succ steps => exact read_eq steps rest enough ends

/-- The text of a value is read back as the value. -/
theorem readsBack_of_isWritten {value : Value} (written : IsWritten value) : ReadsBack value := by
  induction written with
  | null => exact readsBack_of_succ .null fun steps rest _ _ => rfl
  | bool flag =>
      refine readsBack_of_succ (.bool flag) fun steps rest _ _ => ?_
      cases flag <;> rfl
  | @number numeral integral_eq =>
      refine readsBack_of_succ (.number integral_eq) fun steps rest _ ends => ?_
      obtain ⟨char, chars, is_digit, chars_eq, read_eq⟩ := exists_writeNumeral_eq integral_eq
      have numeral_eq := read_eq rest ends
      rw [writeValue, chars_eq]
      cases negative_eq : numeral.negative with
      | true =>
          rw [negative_eq] at numeral_eq
          exact (readValue_minus steps _).trans (congrArg (Option.map _) numeral_eq)
      | false =>
          rw [negative_eq] at numeral_eq
          exact (readValue_of_isDigit is_digit steps _).trans (congrArg (Option.map _) numeral_eq)
  | text content =>
      refine readsBack_of_succ (.text content) fun steps rest _ _ => ?_
      obtain ⟨chars, chars_eq, read_eq⟩ := exists_writeString_eq content
      simp [writeValue, chars_eq, readValue, skipBlanks, read_eq]
  | @list items all reads =>
      -- The first item tells the reader that the array is not empty.
      refine readsBack_of_succ (.list all) fun steps rest enough _ => ?_
      cases items with
      | nil => rfl
      | cons item items =>
          have items_eq := readItems_writeItems (List.cons_ne_nil item items) reads steps
            (by simp only [writeValue, List.length_cons] at enough; omega) rest
          obtain ⟨char, chars, chars_eq, opens⟩ :=
            exists_writeItems_eq (all item List.mem_cons_self) items
          rw [chars_eq] at items_eq
          rw [writeValue, chars_eq]
          exact (readValue_bracket opens steps _).trans (congrArg (Option.map _) items_eq)
  | @object entries all reads =>
      refine readsBack_of_succ (.object all) fun steps rest enough _ => ?_
      cases entries with
      | nil => rfl
      | cons entry entries =>
          have entries_eq := readEntries_writeEntries (List.cons_ne_nil entry entries) reads steps
            (by simp only [writeValue, List.length_cons] at enough; omega) rest
          obtain ⟨chars, chars_eq⟩ := exists_writeEntries_eq entry entries
          rw [chars_eq] at entries_eq
          rw [writeValue, chars_eq]
          exact (readValue_brace steps _).trans (congrArg (Option.map _) entries_eq)

/-- The text of a value is read as the value. -/
theorem ofText?_toText {value : Value} (written : IsWritten value) :
    Value.ofText? value.toText = some value := by
  have read_eq := readsBack_of_isWritten written (2 * (writeValue value).length + 1) [] (by omega)
    (by simp [Ends])
  rw [List.append_nil] at read_eq
  simp [Value.ofText?, Value.toText, read_eq, skipBlanks]

end Json
end RefDocs
