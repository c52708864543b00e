import PhotoGallery.Json.Document
import PhotoGallery.Json.Scan

/-!
# Reading quoted texts

A quoted text is read back as it was, whatever characters it holds and whatever follows
it.  Every character of the text is written as one unit, a single character or an
escape, and reading takes one unit after the other.
-/

namespace PhotoGallery.Json

theorem hexValue?_digitChar (digit : Nat) (small : digit < 16) :
    Text.hexValue? (Nat.digitChar digit) = some digit := by
  revert digit
  decide

theorem readUnit_hexPair {number : Nat} (small : number < 0x20) (rest : List Char) :
    readUnit ('0' :: '0' :: (hexPair number ++ rest)) = .ok (number, rest) := by
  have high := hexValue?_digitChar (number / 16) (by omega)
  have low := hexValue?_digitChar (number % 16) (by omega)
  have zero : Text.hexValue? '0' = some 0 := by decide
  have whole : ((0 * 16 + 0) * 16 + number / 16) * 16 + number % 16 = number := by omega
  rw [hexPair, List.cons_append, List.cons_append, List.nil_append, readUnit, zero, high, low]
  exact congrArg (fun unit => Except.ok (unit, rest)) whole

/-- A control character is read back from its numeric escape. -/
theorem readCodePoint_hexPair {character : Char} (control : character.toNat < 0x20)
    (rest : List Char) :
    readCodePoint ('0' :: '0' :: (hexPair character.toNat ++ rest)) = .ok (character, rest) := by
  have notTrailing : isTrailing character.toNat = false := by
    simp only [isTrailing, Bool.and_eq_false_iff, decide_eq_false_iff_not]
    omega
  have notLeading : isLeading character.toNat = false := by
    simp only [isLeading, Bool.and_eq_false_iff, decide_eq_false_iff_not]
    omega
  simp [readCodePoint, readUnit_hexPair control, notTrailing, notLeading, bind, Except.bind]

/-- The forms that a character is written in. -/
inductive Written (character : Char) : List Char → Prop
  | plain (notQuote : character ≠ '\x22') (notBackslash : character ≠ '\\')
      (notControl : ¬ character.toNat < 0x20) : Written character [character]
  | letter {letter : Char} (notNumeric : letter ≠ 'u')
      (meaning : simpleEscape? letter = some character) : Written character ['\\', letter]
  | numeric (control : character.toNat < 0x20) :
      Written character ('\\' :: 'u' :: '0' :: '0' :: hexPair character.toNat)

theorem written_escapeChar (character : Char) : Written character (escapeChar character) := by
  unfold escapeChar
  split
  next quote =>
    subst quote
    exact .letter (by decide) rfl
  split
  next backslash =>
    subst backslash
    exact .letter (by decide) rfl
  split
  next backspace =>
    subst backspace
    exact .letter (by decide) rfl
  split
  next tab =>
    subst tab
    exact .letter (by decide) rfl
  split
  next lineFeed =>
    subst lineFeed
    exact .letter (by decide) rfl
  split
  next formFeed =>
    subst formFeed
    exact .letter (by decide) rfl
  split
  next carriageReturn =>
    subst carriageReturn
    exact .letter (by decide) rfl
  split
  next control => exact .numeric control
  next notQuote notBackslash _ _ _ _ _ notControl =>
    exact .plain notQuote notBackslash notControl

theorem Written.length_pos {character : Char} {unit : List Char}
    (written : Written character unit) : 0 < unit.length := by
  cases written <;> exact Nat.succ_pos _

/-- Reading takes one written character and goes on behind it. -/
theorem Written.readCharsWith {character : Char} {unit : List Char}
    (written : Written character unit) {fuel : Nat} {rest behind later : List Char}
    (read : readCharsWith fuel rest = .ok (later, behind)) :
    readCharsWith (fuel + 1) (unit ++ rest) = .ok (character :: later, behind) := by
  cases written with
  | plain notQuote notBackslash notControl =>
      simp [Json.readCharsWith, notQuote, notBackslash, notControl, read, bind, Except.bind,
        pure, Except.pure]
  | letter notNumeric meaning =>
      simp [Json.readCharsWith, readEscape, notNumeric, meaning, read, bind, Except.bind,
        pure, Except.pure]
  | numeric control =>
      simp [Json.readCharsWith, readEscape, readCodePoint_hexPair control, read, bind,
        Except.bind, pure, Except.pure]

theorem readCharsWith_escaped {characters : List Char} {fuel : Nat}
    (enough : characters.length < fuel) (rest : List Char) :
    readCharsWith fuel (characters.flatMap escapeChar ++ '\x22' :: rest) =
      .ok (characters, rest) := by
  induction characters generalizing fuel with
  | nil =>
      obtain ⟨fuel, rfl⟩ := Nat.exists_eq_succ_of_ne_zero (Nat.ne_of_gt enough)
      simp [readCharsWith]
  | cons character later ih =>
      obtain ⟨fuel, rfl⟩ := Nat.exists_eq_succ_of_ne_zero (Nat.ne_zero_of_lt enough)
      rw [List.flatMap_cons, List.append_assoc]
      exact (written_escapeChar character).readCharsWith (ih (Nat.lt_of_succ_lt_succ enough))

theorem length_le_escaped (characters : List Char) :
    characters.length ≤ (characters.flatMap escapeChar).length := by
  induction characters with
  | nil => exact Nat.le_refl 0
  | cons character later ih =>
      have unit := (written_escapeChar character).length_pos
      rw [List.flatMap_cons, List.length_append, List.length_cons]
      omega

/-- A quoted text is read back, whatever follows its closing quote. -/
theorem readChars_escaped (value : String) (rest : List Char) :
    readChars (value.toList.flatMap escapeChar ++ '\x22' :: rest) = .ok (value.toList, rest) := by
  apply readCharsWith_escaped
  have bound := length_le_escaped value.toList
  rw [List.length_append, List.length_cons]
  omega

end PhotoGallery.Json
