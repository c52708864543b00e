import PhotoGallery.Files.Path
import PhotoGallery.Proofs.Dir.Names
import Mathlib.Data.List.DropRight
import Mathlib.Data.List.Forall2

/-!
# Parents and joined paths

The parent of a path ends where the last name begins, without the slashes and single dots
before that.  Behind the name only such idle parts are left.  A path without any name, such as
the root, has no parent.  Joining puts one slash between a directory and a path unless there
is one already or nothing to be put before it.
-/

namespace PhotoGallery

theorem Text.joinSlashes_cons (first : List Char) (later : List (List Char)) :
    joinSlashes (first :: later) = first ++ later.flatMap ('/' :: ·) := by
  induction later generalizing first with
  | nil => simp [joinSlashes]
  | cons next others ih => simp [joinSlashes, ih]

namespace Path

/-- Slashes and single dots behind them, which lead nowhere. -/
inductive Idle : List Char → Prop
  | nil : Idle []
  | slash {later : List Char} (rest : Idle later) : Idle ('/' :: later)
  | dot {later : List Char} (rest : Idle later) : Idle ('/' :: '.' :: later)

/-- A name that leads further from where it stands. -/
structure Named (name : List Char) : Prop where
  nonempty : name ≠ []
  notHere : name ≠ ['.']
  clean : '/' ∉ name

/-- The text ends in the first name of a path, which may be a dot, or in a further name. -/
inductive EndsInName : List Char → Prop
  | first {name : List Char} (nonempty : name ≠ []) (clean : '/' ∉ name) : EndsInName name
  | further {name : List Char} (before : List Char) (named : Named name) :
      EndsInName (before ++ '/' :: name)

/-- The text before the last name of a path; a path of one name lies in the empty text. -/
inductive ParentOf : List Char → Option (List Char) → Prop
  | nowhere {path : List Char} (idle : Idle path) : ParentOf path none
  | start {name behind : List Char} (nonempty : name ≠ []) (clean : '/' ∉ name)
      (idle : Idle behind) : ParentOf (name ++ behind) (some [])
  | root {between name behind : List Char} (idleBetween : Idle between) (named : Named name)
      (idle : Idle behind) : ParentOf (between ++ '/' :: name ++ behind) (some ['/'])
  | below {front between name behind : List Char} (ends : EndsInName front)
      (idleBetween : Idle between) (named : Named name) (idle : Idle behind) :
      ParentOf (front ++ between ++ '/' :: name ++ behind) (some front)

/-- The path of a file, seen from where a directory is seen from. -/
inductive SeenFrom (base path : String) : String → Prop
  | absolute (isAbsolute : path.toList.head? = some '/') : SeenFrom base path path
  | here (isEmpty : base = "") : SeenFrom base path path
  | closed (relative : path.toList.head? ≠ some '/') (closed : base.toList.getLast? = some '/') :
      SeenFrom base path (base ++ path)
  | inside (relative : path.toList.head? ≠ some '/') (nonempty : base ≠ "")
      (unclosed : base.toList.getLast? ≠ some '/') : SeenFrom base path (base ++ "/" ++ path)

/-- The parts that lead nowhere. -/
def IdleParts (parts : List (List Char)) : Prop :=
  ∀ part ∈ parts, part = [] ∨ part = ['.']

theorem Idle.exists_parts {behind : List Char} (idle : Idle behind) :
    ∃ parts, IdleParts parts ∧
      ∀ front, Text.splitSlashes (front ++ behind) = Text.splitSlashes front ++ parts := by
  induction idle with
  | nil => exact ⟨[], by simp [IdleParts], by simp⟩
  | @slash later rest ih =>
      obtain ⟨parts, idle, split⟩ := ih
      refine ⟨[] :: parts, by simpa [IdleParts] using idle, fun front => ?_⟩
      rw [Text.splitSlashes_append, ← List.nil_append later, split]
      rfl
  | @dot later rest ih =>
      obtain ⟨parts, idle, split⟩ := ih
      refine ⟨['.'] :: parts, by simpa [IdleParts] using idle, fun front => ?_⟩
      rw [Text.splitSlashes_append, ← List.singleton_append, split]
      rfl

theorem IdleParts.idle {parts : List (List Char)} (idle : IdleParts parts) :
    Idle (parts.flatMap ('/' :: ·)) := by
  induction parts with
  | nil => exact .nil
  | cons part later ih =>
      obtain ⟨isIdle, laterIdle⟩ := List.forall_mem_cons.mp idle
      rcases isIdle with rfl | rfl
      · exact .slash (ih laterIdle)
      · exact .dot (ih laterIdle)

theorem dropIdle_eq_rdropWhile (parts : List (List Char)) :
    dropIdle parts = parts.rdropWhile fun part => part == [] || part == ['.'] :=
  rfl

theorem dropIdle_append {parts : List (List Char)} (idle : IdleParts parts)
    (front : List (List Char)) : dropIdle (front ++ parts) = dropIdle front := by
  induction parts using List.reverseRecOn with
  | nil => rw [List.append_nil]
  | append_singleton before last ih =>
      have lastIdle := idle last (by simp)
      rw [← List.append_assoc, dropIdle_eq_rdropWhile, List.rdropWhile_concat_pos _ _ _ (by simpa),
        ← dropIdle_eq_rdropWhile]
      exact ih fun part member => idle part (List.mem_append_left _ member)

theorem dropIdle_concat {name : List Char} (named : Named name) (front : List (List Char)) :
    dropIdle (front ++ [name]) = front ++ [name] := by
  rw [dropIdle_eq_rdropWhile]
  exact List.rdropWhile_concat_neg _ _ _ (by simp [named.nonempty, named.notHere])

/-- What is left of parts without slashes is nothing, or it ends in a name. -/
theorem exists_dropIdle (parts : List (List Char)) (clean : ∀ part ∈ parts, '/' ∉ part) :
    ∃ idle, IdleParts idle ∧ parts = dropIdle parts ++ idle ∧
      (dropIdle parts = [] ∨
        ∃ before name, dropIdle parts = before ++ [name] ∧ Named name) := by
  -- Parts are dropped from the end, so the induction takes them off there.
  induction parts using List.reverseRecOn with
  | nil => exact ⟨[], by simp [IdleParts], rfl, Or.inl rfl⟩
  | append_singleton before last ih =>
      by_cases lastIdle : last = [] ∨ last = ['.']
      · obtain ⟨idle, areIdle, split, ends⟩ :=
          ih fun part member => clean part (List.mem_append_left _ member)
        have dropped : dropIdle (before ++ [last]) = dropIdle before :=
          dropIdle_append (by simpa [IdleParts] using lastIdle) before
        refine ⟨idle ++ [last], ?_, ?_, dropped.symm ▸ ends⟩
        · simpa [IdleParts, or_imp, forall_and, lastIdle] using areIdle
        · rw [dropped, ← List.append_assoc, ← split]
      · obtain ⟨nonempty, notHere⟩ := not_or.mp lastIdle
        have named : Named last := ⟨nonempty, notHere, clean last (by simp)⟩
        have kept := dropIdle_concat named before
        exact ⟨[], by simp [IdleParts], by rw [kept, List.append_nil],
          Or.inr ⟨before, last, kept, named⟩⟩

theorem EndsInName.exists_parts {front : List Char} (ends : EndsInName front) :
    ∃ first later, Text.splitSlashes front = first :: later ∧ dropIdle later = later ∧
      (first = [] → later ≠ []) := by
  cases ends with
  | first nonempty clean =>
      exact ⟨front, [], Text.splitSlashes_eq_singleton clean, rfl,
        fun empty => absurd empty nonempty⟩
  | @further name before named =>
      obtain ⟨first, later, parts⟩ := List.exists_cons_of_ne_nil (Text.splitSlashes_ne_nil before)
      refine ⟨first, later ++ [name], ?_, dropIdle_concat named later, by simp⟩
      rw [Text.splitSlashes_append, parts, Text.splitSlashes_eq_singleton named.clean]
      rfl

theorem nothing_or_endsInName {first : List Char} {later : List (List Char)}
    (clean : '/' ∉ first)
    (ends : later = [] ∨ ∃ before name, later = before ++ [name] ∧ Named name) :
    first = [] ∧ later = [] ∨ EndsInName (Text.joinSlashes (first :: later)) := by
  rcases ends with rfl | ⟨before, name, rfl, named⟩
  · by_cases isEmpty : first = []
    · exact Or.inl ⟨isEmpty, rfl⟩
    · exact Or.inr (.first isEmpty clean)
  · have spelled : Text.joinSlashes (first :: (before ++ [name])) =
        Text.joinSlashes (first :: before) ++ '/' :: name := by
      simp [Text.joinSlashes_cons]
    rw [spelled]
    exact Or.inr (.further _ named)

theorem parent?_of_idle {path : String} {first : List Char} {later : List (List Char)}
    (parts : Text.splitSlashes path.toList = first :: later) (idle : IdleParts later) :
    parent? path = if first = [] then none else some "" := by
  have nothing : dropIdle later = [] := dropIdle_append idle []
  rw [parent?, parts]
  simp only [nothing]

theorem parent?_of_name {path : String} {first name : List Char}
    {before after : List (List Char)}
    (parts : Text.splitSlashes path.toList = first :: (before ++ name :: after))
    (named : Named name) (idle : IdleParts after) :
    parent? path = some (String.ofList (parentOf first (before ++ [name]))) := by
  have kept : dropIdle (before ++ name :: after) = before ++ [name] := by
    rw [List.append_cons, dropIdle_append idle, dropIdle_concat named]
  rw [parent?, parts]
  simp only [kept]
  split
  next nothing => simp at nothing
  next => rfl

theorem exists_parts_around {between name behind : List Char} (idleBetween : Idle between)
    (named : Named name) (idle : Idle behind) (front : List Char) :
    ∃ passed after, IdleParts passed ∧ IdleParts after ∧
      Text.splitSlashes (front ++ between ++ '/' :: name ++ behind) =
        Text.splitSlashes front ++ (passed ++ name :: after) := by
  obtain ⟨passed, passedIdle, splitBetween⟩ := idleBetween.exists_parts
  obtain ⟨after, afterIdle, splitBehind⟩ := idle.exists_parts
  refine ⟨passed, after, passedIdle, afterIdle, ?_⟩
  rw [splitBehind, Text.splitSlashes_append, splitBetween,
    Text.splitSlashes_eq_singleton named.clean]
  simp

/-- The parent that a path has is found. -/
theorem ParentOf.parent?_eq {path : String} {parent : Option (List Char)}
    (isParent : ParentOf path.toList parent) : parent? path = parent.map String.ofList := by
  generalize spelled : path.toList = characters at isParent
  cases isParent with
  | nowhere idle =>
      obtain ⟨behind, areIdle, split⟩ := idle.exists_parts
      have parts : Text.splitSlashes path.toList = [] :: behind := spelled ▸ split []
      rw [parent?_of_idle parts areIdle]
      rfl
  | @start name _ nonempty clean idle =>
      obtain ⟨behind, areIdle, split⟩ := idle.exists_parts
      have parts : Text.splitSlashes path.toList = name :: behind := by
        rw [spelled, split, Text.splitSlashes_eq_singleton clean]
        rfl
      rw [parent?_of_idle parts areIdle, if_neg nonempty]
      rfl
  | root idleBetween named idle =>
      obtain ⟨passed, after, passedIdle, afterIdle, split⟩ :=
        exists_parts_around idleBetween named idle []
      have nothing : dropIdle passed = [] := dropIdle_append passedIdle []
      rw [parent?_of_name (spelled ▸ split) named afterIdle]
      simp only [parentOf, List.dropLast_concat, nothing]
      rfl
  | @below front _ _ _ ends idleBetween named idle =>
      obtain ⟨passed, after, passedIdle, afterIdle, split⟩ :=
        exists_parts_around idleBetween named idle front
      obtain ⟨first, later, parts, kept, leads⟩ := ends.exists_parts
      have whole : front = Text.joinSlashes (first :: later) := by
        rw [← parts, Text.joinSlashes_splitSlashes]
      rw [parts, List.cons_append, ← List.append_assoc] at split
      rw [parent?_of_name (spelled ▸ split) named afterIdle]
      simp only [parentOf, List.dropLast_concat, dropIdle_append passedIdle, kept, whole]
      rfl

/-- Every path has a parent or leads nowhere. -/
theorem exists_parentOf (path : List Char) : ∃ parent, ParentOf path parent := by
  obtain ⟨first, later, parts⟩ := List.exists_cons_of_ne_nil (Text.splitSlashes_ne_nil path)
  have clean : ∀ part ∈ first :: later, '/' ∉ part :=
    fun part member => Text.slash_notMem_of_mem_splitSlashes (parts ▸ member)
  have whole : path = Text.joinSlashes (first :: later) := by
    rw [← parts, Text.joinSlashes_splitSlashes]
  obtain ⟨idle, areIdle, split, ends⟩ :=
    exists_dropIdle later fun part member => clean part (List.mem_cons_of_mem _ member)
  rcases ends with nothing | ⟨before, name, kept, named⟩
  · rw [nothing, List.nil_append] at split
    rw [whole, Text.joinSlashes_cons, split]
    by_cases isRoot : first = []
    · exact ⟨none, .nowhere (isRoot ▸ areIdle.idle)⟩
    · exact ⟨some [], .start isRoot (clean first List.mem_cons_self) areIdle.idle⟩
  · -- In front of the last name the parts that lead nowhere are dropped a second time.
    rw [kept] at split
    have cleanBefore : ∀ part ∈ before, '/' ∉ part := fun part member =>
      clean part (by simp [split, member])
    obtain ⟨passed, passedIdle, splitBefore, ends⟩ := exists_dropIdle before cleanBefore
    have spelled : path = Text.joinSlashes (first :: dropIdle before) ++
        passed.flatMap ('/' :: ·) ++ '/' :: name ++ idle.flatMap ('/' :: ·) := by
      rw [whole, split]
      nth_rewrite 1 [splitBefore]
      simp [Text.joinSlashes_cons]
    rw [spelled]
    rcases nothing_or_endsInName (clean first List.mem_cons_self) ends with
      ⟨isRoot, nothing⟩ | endsInName
    · rw [isRoot, nothing]
      exact ⟨_, .root passedIdle.idle named areIdle.idle⟩
    · exact ⟨_, .below endsInName passedIdle.idle named areIdle.idle⟩

theorem seenFrom_iff {base path whole : String} :
    SeenFrom base path whole ↔ join base path = whole := by
  constructor
  · intro seen
    cases seen with
    | absolute starts => simp [join, isAbsolute, starts]
    | here isEmpty => simp [join, isEmpty]
    | closed relative closed =>
        have nonempty : base.toList ≠ [] := fun empty => by simp [empty] at closed
        simp [join, isAbsolute, relative, closed, nonempty]
    | inside relative nonempty unclosed => simp [join, isAbsolute, relative, nonempty, unclosed]
  · rintro rfl
    simp only [join]
    split
    next stays =>
      rcases Bool.or_eq_true_iff.mp stays with starts | isEmpty
      · exact .absolute (by simpa [isAbsolute] using starts)
      · exact .here (by simpa using isEmpty)
    next leads =>
      have ⟨relative, nonempty⟩ : path.toList.head? ≠ some '/' ∧ base ≠ "" := by
        simpa [isAbsolute] using leads
      split
      next closed => exact .closed relative closed
      next unclosed => exact .inside relative nonempty unclosed

theorem forall₂_seenFrom_iff {base : String} {paths wholes : List String} :
    List.Forall₂ (SeenFrom base) paths wholes ↔ paths.map (join base) = wholes := by
  rw [← List.forall₂_eq_eq_eq, List.forall₂_map_left_iff]
  exact ⟨.imp fun _ _ => seenFrom_iff.mp, .imp fun _ _ => seenFrom_iff.mpr⟩

end Path

end PhotoGallery
