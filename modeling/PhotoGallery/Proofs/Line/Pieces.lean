import PhotoGallery.Proofs.Line.Layout
import Mathlib.Data.List.Forall2

/-!
# The pieces of a line

Cut at the columns of its tokens, a line falls into pieces that make it up again.  Each piece
is what its token says: the token's text, or for a field the raw text behind the separator.
The scanner puts token after token, each where the piece before it ends, so that a statement
about the whole line follows from one about a single token.
-/

namespace PhotoGallery

namespace Line

/-- The parts of a text that begin at the given columns and end before the next one. -/
def cutAt (text : List Char) : List Nat → List (List Char)
  | [] => []
  | [column] => [text.drop (column - 1)]
  | column :: next :: later =>
    (text.drop (column - 1)).take (next - column) :: cutAt text (next :: later)

def piecesOf (line : String) (tokens : List Token) : List (List Char) :=
  cutAt line.toList (tokens.map Token.column)

/-- The piece is what the token says. -/
def Covers (token : Token) (piece : List Char) : Prop :=
  match token.kind with
  | .comment | .empty | .dir | .file => token.value.toList = piece
  | .slash => token.value = "/" ∧ piece = ['/']
  | .semicolon => token.value = "; " ∧ piece = [';', ' ']
  | .text => piece ≠ [] ∧
      token.value = String.ofList (Text.trim (Text.replaced ['\\', ';'] [';'] piece))

/-- The kinds of the tokens of fields. -/
def fieldKinds (count : Nat) : List TokenKind :=
  (List.replicate count [TokenKind.semicolon, TokenKind.text]).flatten

/-- The tokens cover the line without gaps or overlaps. -/
structure CoveredBy (line : String) (tokens : List Token) : Prop where
  /-- A comment or an empty line is one piece. -/
  kinds :
    (tokens.map Token.kind = [.comment] ∨ tokens.map Token.kind = [.empty]) ∧
        piecesOf line tokens = [line.toList] ∨
      ∃ count, tokens.map Token.kind = [.slash, .dir] ++ fieldKinds count ∨
        tokens.map Token.kind = [.file] ++ fieldKinds count
  first : (tokens.map Token.column).head? = some 1
  increasing : (tokens.map Token.column).Pairwise (· < ·)
  whole : (piecesOf line tokens).flatten = line.toList
  covers : List.Forall₂ Covers tokens (piecesOf line tokens)
  /-- A field with a token behind it ends before a semicolon that is not escaped. -/
  closed : ∀ before token next after, tokens = before ++ token :: next :: after →
    token.kind = .text → ∃ front back, line.toList = front ++ ';' :: back ∧
      front.length + 1 = next.column ∧ front.getLast? ≠ some '\\'

theorem Field.covers (field : Field) (column : Nat) :
    Covers ⟨.text, field.value, column⟩ field.raw :=
  ⟨field.nonempty, rfl⟩

/-- The tokens cover the pieces, which begin at the given column and stand one behind the
other.  What follows a field can be told from it. -/
inductive Laid : Nat → List Token → List (List Char) → Prop
  | nil (column : Nat) : Laid column [] []
  | cons {column : Nat} {token : Token} {piece : List Char} {tokens : List Token}
      {pieces : List (List Char)} (begins : token.column = column) (nonempty : piece ≠ [])
      (covers : Covers token piece)
      (separable : token.kind = .text → Separable piece pieces.flatten)
      (rest : Laid (column + piece.length) tokens pieces) :
      Laid column (token :: tokens) (piece :: pieces)

namespace Laid

variable {column : Nat} {tokens : List Token} {pieces : List (List Char)}

theorem cons_notField {token : Token} {piece : List Char} (begins : token.column = column)
    (nonempty : piece ≠ []) (covers : Covers token piece) (notField : token.kind ≠ .text)
    (rest : Laid (column + piece.length) tokens pieces) :
    Laid column (token :: tokens) (piece :: pieces) :=
  .cons begins nonempty covers (fun isField => absurd isField notField) rest

theorem covers (laid : Laid column tokens pieces) : List.Forall₂ Covers tokens pieces := by
  induction laid with
  | nil column => exact .nil
  | cons begins nonempty covers separable rest ih => exact .cons covers ih

theorem le_column (laid : Laid column tokens pieces) :
    ∀ other ∈ tokens.map Token.column, column ≤ other := by
  induction laid with
  | nil column => simp
  | cons begins nonempty covers separable rest ih =>
      intro other member
      rcases List.mem_cons.mp member with first | later
      · omega
      · have bound := ih other later
        omega

theorem increasing (laid : Laid column tokens pieces) :
    (tokens.map Token.column).Pairwise (· < ·) := by
  induction laid with
  | nil column => exact .nil
  | cons begins nonempty covers separable rest ih =>
      refine List.pairwise_cons.mpr ⟨fun other member => ?_, ih⟩
      have bound := rest.le_column other member
      have something := List.length_pos_iff.mpr nonempty
      omega

/-- Cutting at the columns finds the pieces, whatever stands before them. -/
theorem cutAt_eq (laid : Laid column tokens pieces) (front : List Char)
    (length : front.length + 1 = column) :
    cutAt (front ++ pieces.flatten) (tokens.map Token.column) = pieces := by
  induction laid generalizing front with
  | nil column => rfl
  | @cons column token piece tokens pieces begins nonempty covers separable rest ih =>
      have later := ih (front ++ piece) (by rw [List.length_append]; omega)
      have dropped : (front ++ (piece :: pieces).flatten).drop (token.column - 1) =
          piece ++ pieces.flatten := by
        rw [List.flatten_cons]
        exact List.drop_left' (by omega)
      rw [List.append_assoc, ← List.flatten_cons] at later
      cases rest with
      | nil => exact congrArg (fun text => [text]) (dropped.trans (List.append_nil piece))
      | @cons _ next _ _ _ nextBegins =>
          rw [List.map_cons, List.map_cons, cutAt, dropped, ← List.map_cons, later]
          have width : next.column - token.column = piece.length := by omega
          rw [width, List.take_left]

theorem closed (laid : Laid column tokens pieces) (front : List Char)
    (length : front.length + 1 = column) {before after : List Token} {token next : Token}
    (split : tokens = before ++ token :: next :: after) (isField : token.kind = .text) :
    ∃ left right, front ++ pieces.flatten = left ++ ';' :: right ∧
      left.length + 1 = next.column ∧ left.getLast? ≠ some '\\' := by
  induction laid generalizing front before with
  | nil column => simp at split
  | @cons column first piece tokens pieces begins nonempty covers separable rest ih =>
      cases before with
      | cons other others =>
          obtain ⟨-, later⟩ := List.cons.inj split
          have found := ih (front ++ piece) (by rw [List.length_append]; omega) later
          rwa [List.append_assoc, ← List.flatten_cons] at found
      | nil =>
          obtain ⟨rfl, rfl⟩ := List.cons.inj split
          cases rest with
          | cons nextBegins nextNonempty nextCovers nextSeparable others =>
              rcases separable isField with ended | ⟨goesOn, last⟩
              · simp [nextNonempty] at ended
              · obtain ⟨right, follows⟩ := List.head?_eq_some_iff.mp goesOn
                refine ⟨front ++ piece, right, ?_, ?_, ?_⟩
                · rw [List.flatten_cons, follows, List.append_assoc]
                · rw [List.length_append]
                  omega
                · have isLast := List.getLast?_eq_some_getLast nonempty
                  rwa [List.getLast?_append, isLast, Option.some_or, ← isLast]

end Laid

def Field.pieces (field : Field) : List (List Char) :=
  [[';', ' '], field.raw]

def Head.pieces : Head → List (List Char)
  | album dir _ _ => [['/'], dir]
  | photo name _ _ => [name]

def Layout.pieces (layout : Layout) : List (List Char) :=
  layout.head.pieces ++ layout.fields.flatMap Field.pieces

theorem flatten_fieldPieces (fields : List Field) :
    (fields.flatMap Field.pieces).flatten = fields.flatMap Field.text := by
  induction fields with
  | nil => rfl
  | cons field later ih => simp [Field.pieces, Field.text, ih]

theorem Layout.flatten_pieces (layout : Layout) : layout.pieces.flatten = layout.text := by
  rw [pieces, List.flatten_append, flatten_fieldPieces, text]
  cases layout.head <;> simp [Head.pieces, Head.text]

theorem laid_fields {fields : List Field} (separated : Separated fields) (column : Nat) :
    Laid column (Field.tokens column fields) (fields.flatMap Field.pieces) := by
  induction fields generalizing column with
  | nil => exact .nil column
  | cons field later ih =>
      obtain ⟨separable, rest⟩ := Separated.cons_iff.mp separated
      rw [← flatten_fieldPieces] at separable
      exact .cons_notField rfl (List.cons_ne_nil _ _) ⟨rfl, rfl⟩ (by simp)
        (.cons rfl field.nonempty (field.covers _) (fun _ => separable) (ih rest _))

theorem Layout.laid (layout : Layout) : Laid 1 layout.tokens layout.pieces := by
  obtain ⟨head, fields, separated⟩ := layout
  have fieldsLaid := laid_fields separated (1 + head.text.length)
  cases head with
  | album dir chars named =>
      have nonempty : dir ≠ [] := by
        obtain ⟨character, member, -⟩ := named
        exact List.ne_nil_of_mem member
      have column : 1 + (Head.album dir chars named).text.length = 1 + 1 + dir.length := by
        rw [Head.text, List.length_cons]
        omega
      rw [column] at fieldsLaid
      have isDir : Covers ⟨.dir, String.ofList dir, 2⟩ dir := String.toList_ofList
      have dirLaid := Laid.cons_notField rfl nonempty isDir (by simp) fieldsLaid
      rw [← column] at dirLaid
      exact .cons_notField rfl (List.cons_ne_nil _ _) ⟨rfl, rfl⟩ (by simp) dirLaid
  | photo name chars nonempty =>
      exact .cons_notField rfl nonempty String.toList_ofList (by simp) fieldsLaid

theorem map_kind_fieldTokens (fields : List Field) (column : Nat) :
    (Field.tokens column fields).map Token.kind = fieldKinds fields.length := by
  induction fields generalizing column with
  | nil => rfl
  | cons field later ih =>
      rw [Field.tokens, List.map_cons, List.map_cons, ih]
      simp [fieldKinds, List.replicate_succ]

theorem Layout.map_kind_tokens (layout : Layout) :
    layout.tokens.map Token.kind =
      layout.head.tokens.map Token.kind ++ fieldKinds layout.fields.length := by
  rw [tokens, List.map_append, map_kind_fieldTokens]

theorem Layout.coveredBy (layout : Layout) {line : String}
    (spelled : layout.text = line.toList) : CoveredBy line layout.tokens := by
  have laid := layout.laid
  have pieces : piecesOf line layout.tokens = layout.pieces := by
    rw [piecesOf, ← spelled, ← layout.flatten_pieces]
    exact laid.cutAt_eq [] rfl
  have kinds : ∃ count, layout.tokens.map Token.kind = [.slash, .dir] ++ fieldKinds count ∨
      layout.tokens.map Token.kind = [.file] ++ fieldKinds count := by
    refine ⟨layout.fields.length, ?_⟩
    rw [layout.map_kind_tokens]
    cases layout.head with
    | album dir chars named => exact Or.inl rfl
    | photo name chars nonempty => exact Or.inr rfl
  constructor
  case kinds => exact Or.inr kinds
  case first =>
    rw [tokens]
    cases layout.head <;> rfl
  case increasing => exact laid.increasing
  case whole => rw [pieces, layout.flatten_pieces, spelled]
  case covers =>
    rw [pieces]
    exact laid.covers
  case closed =>
    intro before token next after split isField
    rw [← spelled, ← layout.flatten_pieces]
    exact laid.closed [] rfl split isField

theorem coveredBy_single {line : String} {kind : TokenKind}
    (isWhole : kind = .comment ∨ kind = .empty) : CoveredBy line [⟨kind, line, 1⟩] where
  kinds := by
    refine Or.inl ⟨?_, rfl⟩
    simpa using isWhole
  first := rfl
  increasing := List.pairwise_singleton _ _
  whole := by simp [piecesOf, cutAt]
  covers := by
    refine .cons ?_ .nil
    rcases isWhole with rfl | rfl <;> rfl
  closed := by
    intro before token next after split
    have length := congrArg List.length split
    simp only [List.length_append, List.length_cons, List.length_nil] at length
    omega

/-- The tokens of a line cover it without gaps or overlaps, and each says what stands in its
piece. -/
theorem tokenize_covers_line (line : String) (tokens : List Token)
    (scanned : tokenize line = .ok tokens) : CoveredBy line tokens := by
  by_cases blank : Text.isAllBlank line = true
  · rw [tokenize_of_blank blank, Except.ok.injEq] at scanned
    exact scanned ▸ coveredBy_single (Or.inr rfl)
  by_cases comment : line.toList.head? = some '#'
  · rw [tokenize_of_comment comment, Except.ok.injEq] at scanned
    exact scanned ▸ coveredBy_single (Or.inl rfl)
  · obtain ⟨layout, spelled⟩ :=
      Layout.exists_of_tokenize (Bool.eq_false_iff.mpr blank) comment scanned
    rw [layout.tokenize_eq spelled.symm, Except.ok.injEq] at scanned
    exact scanned ▸ layout.coveredBy spelled

/-- An escaped semicolon and letters of two bytes make a field longer than its value, and the
backslash at the end of the line escapes nothing. -/
theorem tokenize_covers_line_escaped :
    let line := "p-1; żó\\;łw ; C:\\"
    let tokens : List Token := [⟨.file, "p-1", 1⟩, ⟨.semicolon, "; ", 4⟩, ⟨.text, "żó;łw", 6⟩,
      ⟨.semicolon, "; ", 13⟩, ⟨.text, "C:\\", 15⟩]
    tokenize line = .ok tokens ∧ CoveredBy line tokens := by
  intro line tokens
  have scanned : tokenize line = .ok tokens := by decide +kernel
  exact ⟨scanned, tokenize_covers_line line tokens scanned⟩

end Line

end PhotoGallery
