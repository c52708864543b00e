import PhotoGallery.Line.Lexer
import PhotoGallery.Proofs.Dir.Canonical

/-!
# The names in a directory

A directory on a line is made of the characters of photo names and of slashes, and it is
not slashes only.  It has neither `.` nor `..` segments, so its normal spelling is what is
left of its segments without the empty ones.  Two such directories are the same album
exactly if these names are the same, and as many steps up as there are names lead from the
album back to the gallery root.
-/

namespace PhotoGallery

namespace Text

theorem splitSlashes_slash (rest : List Char) :
    splitSlashes ('/' :: rest) = [] :: splitSlashes rest := by
  rw [splitSlashes, if_pos rfl]

theorem exists_splitSlashes_cons {character : Char} (notSlash : character ≠ '/')
    (rest : List Char) : ∃ part later, splitSlashes rest = part :: later ∧
      splitSlashes (character :: rest) = (character :: part) :: later := by
  obtain ⟨part, later, parts⟩ := List.exists_cons_of_ne_nil (splitSlashes_ne_nil rest)
  refine ⟨part, later, parts, ?_⟩
  rw [splitSlashes, if_neg notSlash, parts]

theorem splitSlashes_append (first second : List Char) :
    splitSlashes (first ++ '/' :: second) = splitSlashes first ++ splitSlashes second := by
  induction first with
  | nil => exact splitSlashes_slash second
  | cons character rest ih =>
      rw [List.cons_append]
      by_cases isSlash : character = '/'
      · rw [isSlash, splitSlashes_slash, splitSlashes_slash, ih, List.cons_append]
      · obtain ⟨part, later, parts, whole⟩ := exists_splitSlashes_cons isSlash rest
        rw [splitSlashes, if_neg isSlash, ih, whole, parts]
        rfl

theorem flatten_splitSlashes (text : List Char) :
    (splitSlashes text).flatten = text.filter (· ≠ '/') := by
  induction text with
  | nil => rfl
  | cons character rest ih =>
      by_cases isSlash : character = '/'
      · subst isSlash
        rw [splitSlashes_slash, List.flatten_cons, ih]
        rfl
      · obtain ⟨part, later, parts, whole⟩ := exists_splitSlashes_cons isSlash rest
        rw [parts, List.flatten_cons] at ih
        rw [whole, List.flatten_cons, List.cons_append, ih,
          List.filter_cons_of_pos (by simpa using isSlash)]

end Text

namespace Dir

theorem segments_join (first second : String) :
    segments (first ++ "/" ++ second) = segments first ++ segments second := by
  have spelled : (first ++ "/" ++ second).toList = first.toList ++ '/' :: second.toList := by
    simp
  rw [segments, spelled]
  exact Text.splitSlashes_append first.toList second.toList

/-- The segments that are not empty. -/
def names (dir : String) : List Segment :=
  (segments dir).filter (· ≠ [])

/-- A segment of characters of photo names. -/
structure Word (segment : Segment) : Prop where
  ne_nil : segment ≠ []
  chars : ∀ character ∈ segment, Line.isFileChar character = true

/-- A directory as a line can spell it. -/
structure Plain (dir : String) : Prop where
  chars : ∀ character ∈ dir.toList, Line.isDirChar character = true
  named : ∃ character ∈ dir.toList, character ≠ '/'

theorem Word.ordinary {segment : Segment} (word : Word segment) : Ordinary segment where
  ne_nil := word.ne_nil
  ne_here := by
    rintro rfl
    exact absurd (word.chars '.' (by decide)) (by decide)
  ne_up := by
    rintro rfl
    exact absurd (word.chars '.' (by decide)) (by decide)
  clean isMember := absurd (word.chars '/' isMember) (by decide)

theorem mem_names {dir : String} {segment : Segment} :
    segment ∈ names dir ↔ segment ∈ segments dir ∧ segment ≠ [] := by
  rw [names, List.mem_filter, decide_eq_true_iff]

theorem fold_names (dir : String) : fold (names dir) = fold (segments dir) := by
  suffices general : ∀ (list folded : List Segment),
      (list.filter (· ≠ [])).foldl push folded = list.foldl push folded by
    rw [fold, fold, names, general]
  intro list
  induction list with
  | nil => intro folded; rfl
  | cons segment later ih =>
      intro folded
      by_cases isEmpty : segment = []
      · rw [List.foldl_cons, push_vanishing (Or.inl isEmpty), ← ih]
        simp [isEmpty]
      · rw [List.filter_cons_of_pos (by simpa using isEmpty), List.foldl_cons, ih,
          List.foldl_cons]

theorem fold_of_ordinary {list : List Segment}
    (allOrdinary : ∀ segment ∈ list, Ordinary segment) : fold list = list := by
  rw [fold, foldl_push_ordinary allOrdinary, List.append_nil, List.reverse_reverse]

namespace Plain

variable {dir : String}

theorem word (plain : Plain dir) {segment : Segment} (member : segment ∈ names dir) :
    Word segment := by
  obtain ⟨isSegment, nonempty⟩ := mem_names.mp member
  refine ⟨nonempty, fun character within => ?_⟩
  have inText : character ∈ dir.toList.filter (· ≠ '/') := by
    rw [← Text.flatten_splitSlashes]
    exact List.mem_flatten_of_mem isSegment within
  obtain ⟨inDir, notSlash⟩ := List.mem_filter.mp inText
  have allowed := plain.chars character inDir
  rw [Line.isDirChar, Bool.or_eq_true, beq_iff_eq] at allowed
  exact allowed.resolve_right (of_decide_eq_true notSlash)

theorem names_ne_nil (plain : Plain dir) : names dir ≠ [] := by
  obtain ⟨character, inDir, notSlash⟩ := plain.named
  have inText : character ∈ (segments dir).flatten := by
    rw [segments, Text.flatten_splitSlashes, List.mem_filter]
    exact ⟨inDir, by simpa using notSlash⟩
  obtain ⟨segment, isSegment, within⟩ := List.mem_flatten.mp inText
  exact List.ne_nil_of_mem (mem_names.mpr ⟨isSegment, List.ne_nil_of_mem within⟩)

theorem fold_segments (plain : Plain dir) : fold (segments dir) = names dir := by
  rw [← fold_names]
  exact fold_of_ordinary fun segment member => (plain.word member).ordinary

theorem normalize_eq (plain : Plain dir) :
    normalize dir = String.ofList (Text.joinSlashes (names dir)) := by
  rw [normalize, plain.fold_segments, spell, if_neg plain.names_ne_nil]

theorem segments_normalize (plain : Plain dir) : segments (normalize dir) = names dir := by
  rw [plain.normalize_eq, segments, String.toList_ofList]
  exact Text.splitSlashes_joinSlashes plain.names_ne_nil
    fun segment member => (plain.word member).ordinary.clean

/-- The normal spelling tells directories apart exactly by their names. -/
theorem normalize_eq_iff {other : String} (plain : Plain dir) (otherPlain : Plain other) :
    normalize dir = normalize other ↔ names dir = names other := by
  constructor
  · intro same
    rw [← plain.segments_normalize, same, otherPlain.segments_normalize]
  · intro same
    rw [plain.normalize_eq, same, otherPlain.normalize_eq]

theorem word_of_mem_normalize (plain : Plain dir) {segment : Segment}
    (member : segment ∈ segments (normalize dir)) : Word segment := by
  rw [plain.segments_normalize] at member
  exact plain.word member

end Plain

theorem segments_rootPath (dir : String) :
    segments (rootPath dir) = List.replicate (depth dir) up := by
  have someSteps : List.replicate (depth dir) up ≠ [] := by
    rw [Ne, List.replicate_eq_nil_iff, depth]
    omega
  rw [segments, rootPath, String.toList_ofList]
  refine Text.splitSlashes_joinSlashes someSteps fun segment member => ?_
  rw [List.eq_of_mem_replicate member]
  decide

theorem depth_of_named {dir : String} (named : ∀ segment ∈ segments dir, segment ≠ []) :
    depth dir = (segments dir).length := by
  have allKept : (segments dir).filter (· ≠ []) = segments dir :=
    List.filter_eq_self.mpr fun segment member => by simpa using named segment member
  have someSegment := List.length_pos_iff.mpr (Text.splitSlashes_ne_nil dir.toList)
  rw [depth, allKept]
  exact Nat.max_eq_right someSegment

theorem depth_of_ordinary {dir : String}
    (allOrdinary : ∀ segment ∈ segments dir, Ordinary segment) :
    depth dir = (segments dir).length :=
  depth_of_named fun segment member => (allOrdinary segment member).ne_nil

theorem foldl_push_back {folded : List Segment}
    (allOrdinary : ∀ segment ∈ folded, Ordinary segment) (below : List Segment) :
    (List.replicate folded.length up).foldl push (folded ++ below) = below := by
  induction folded with
  | nil => rfl
  | cons last before ih =>
      rw [List.length_cons, List.replicate_succ, List.foldl_cons, List.cons_append,
        push_up_ordinary (allOrdinary last List.mem_cons_self)]
      exact ih fun segment member => allOrdinary segment (List.mem_cons_of_mem _ member)

/-- The way back takes as many steps as there are segments, also for the segments that are
steps up themselves. -/
theorem fold_rootPath {dir : String} {ups : Nat} {ordinary : List Segment}
    (parts : segments dir = List.replicate ups up ++ ordinary)
    (allOrdinary : ∀ segment ∈ ordinary, Ordinary segment) :
    fold (segments (dir ++ "/" ++ rootPath dir)) = List.replicate (ups + ups) up := by
  have named : ∀ segment ∈ segments dir, segment ≠ [] := by
    rw [parts]
    intro segment member
    rcases List.mem_append.mp member with upward | isOrdinary
    · rw [List.eq_of_mem_replicate upward]
      decide
    · exact (allOrdinary segment isOrdinary).ne_nil
  have steps : depth dir = ordinary.reverse.length + ups := by
    rw [depth_of_named named, parts, List.length_append, List.length_replicate,
      List.length_reverse, Nat.add_comm]
  have reversed : ∀ segment ∈ ordinary.reverse, Ordinary segment :=
    fun segment member => allOrdinary segment (List.mem_reverse.mp member)
  have further : (List.replicate ups up).foldl push (List.replicate ups up) =
      List.replicate (ups + ups) up := by
    rw [← foldl_push_ups (ups + ups), List.replicate_add, List.foldl_append, foldl_push_ups]
  rw [segments_join, segments_rootPath, parts, steps, List.replicate_add, fold,
    List.foldl_append, List.foldl_append, List.foldl_append, foldl_push_ups,
    foldl_push_ordinary allOrdinary, foldl_push_back reversed, further, List.reverse_replicate]

theorem normalize_rootPath {dir : String}
    (allOrdinary : ∀ segment ∈ segments dir, Ordinary segment) :
    normalize (dir ++ "/" ++ rootPath dir) = "." := by
  have downAndBack : fold (segments (dir ++ "/" ++ rootPath dir)) = [] :=
    @fold_rootPath dir 0 (segments dir) rfl allOrdinary
  rw [normalize, downAndBack]
  rfl

end Dir

end PhotoGallery
