import PhotoGallery.Proofs.Session.Agreement

/-!
# Scripts made of blocks

A block defines an album and attaches subalbums and photos to it.  A script made of
blocks says the same of every album in whatever order the blocks stand, so references
may come before or after definitions.  The order of the blocks shows only in the order
of the roots.
-/

namespace PhotoGallery

/-- A definition and what is attached to it. -/
structure Block where
  dir : String
  title : String
  description : String
  body : List Statement
  /-- Nothing else is defined in the block. -/
  plain : ∀ statement ∈ body, statement.definition? = none
deriving DecidableEq

namespace Block

/-- The album of the block, in its normal spelling. -/
def key (block : Block) : String :=
  Dir.normalize block.dir

/-- The statements of a block. -/
def statements (block : Block) : List Statement :=
  .album block.dir block.title block.description :: block.body

/-- The script made of blocks, one after another. -/
def script (blocks : List Block) : List Statement :=
  blocks.flatMap statements

/-- The blocks whose albums are nowhere listed as subalbums, in order. -/
def unreferenced (blocks : List Block) : List Block :=
  blocks.filter fun block => block.key ∉ Script.references (script blocks)

theorem script_cons (block : Block) (blocks : List Block) :
    script (block :: blocks) = block.statements ++ script blocks :=
  List.flatMap_cons

theorem definitions_statements (block : Block) :
    Script.definitions block.statements = [block.key] := by
  have nothing : block.body.filterMap Statement.definition? = [] :=
    List.filterMap_eq_nil_iff.mpr block.plain
  simp [Script.definitions, statements, Statement.definition?, nothing, key]

theorem definitions_script (blocks : List Block) :
    Script.definitions (script blocks) = blocks.map key := by
  induction blocks with
  | nil => rfl
  | cons block blocks ih =>
      rw [script_cons, Script.definitions_append, definitions_statements, ih]
      rfl

theorem takeWhile_script (blocks : List Block) :
    (script blocks).takeWhile (fun statement => statement.definition?.isNone) = [] := by
  cases blocks with
  | nil => rfl
  | cons block blocks => rfl

theorem orderly_script {blocks : List Block} (distinct : (blocks.map key).Nodup) :
    Script.Orderly (script blocks) := by
  refine ⟨?_, ?_⟩
  · simp [takeWhile_script]
  · rwa [definitions_script]

theorem fromDefinition_statements (block : Block) (more : List Statement) :
    Script.fromDefinition (block.statements ++ more) block.key = block.statements ++ more := by
  simp [Script.fromDefinition, statements, Statement.definition?, key]

/-- A script made of blocks says of an album what its block says. -/
theorem heading_and_body {blocks : List Block} (distinct : (blocks.map key).Nodup)
    {block : Block} (member : block ∈ blocks) :
    Script.heading (script blocks) block.key = (block.title, block.description) ∧
      Script.body (script blocks) block.key = block.body := by
  induction blocks with
  | nil => cases member
  | cons first later ih =>
      rw [List.map_cons, List.nodup_cons] at distinct
      rcases List.mem_cons.mp member with rfl | further
      · have whole := fromDefinition_statements block (script later)
        have plain : ∀ statement ∈ block.body, statement.definition?.isNone = true :=
          fun statement within => Option.isNone_iff_eq_none.mpr (block.plain statement within)
        constructor
        · rw [Script.heading, script_cons, whole]
          rfl
        · rw [Script.body, script_cons, whole, statements, List.cons_append, List.tail_cons,
            List.takeWhile_append_of_pos plain, takeWhile_script, List.append_nil]
      · have different : block.key ∉ Script.definitions first.statements := by
          rw [definitions_statements, List.mem_singleton]
          intro same
          exact distinct.1 (same ▸ List.mem_map_of_mem further)
        have skipped := Script.fromDefinition_append_of_notMem different (script later)
        rw [script_cons, Script.heading, Script.body, skipped]
        exact ih distinct.2 further

/-- In whatever order blocks stand, they say the same of every album. -/
theorem agree_of_perm {first second : List Block} (perm : first.Perm second)
    (distinct : (first.map key).Nodup) : Script.Agree (script first) (script second) := by
  have otherDistinct : (second.map key).Nodup := (perm.map key).nodup_iff.mp distinct
  have statements : (script first).Perm (script second) := perm.flatMap_right statements
  have definitions : ∀ dir, dir ∈ Script.definitions (script first) ↔
      dir ∈ Script.definitions (script second) := fun dir => (statements.filterMap _).mem_iff
  have sameAlbum : ∀ dir,
      Script.heading (script first) dir = Script.heading (script second) dir ∧
        Script.body (script first) dir = Script.body (script second) dir := by
    intro dir
    by_cases isDefined : dir ∈ Script.definitions (script first)
    · have isKey := isDefined
      rw [definitions_script, List.mem_map] at isKey
      obtain ⟨block, member, rfl⟩ := isKey
      obtain ⟨heading, body⟩ := heading_and_body distinct member
      obtain ⟨otherHeading, otherBody⟩ :=
        heading_and_body otherDistinct (perm.mem_iff.mp member)
      exact ⟨heading.trans otherHeading.symm, body.trans otherBody.symm⟩
    · have otherUndefined := mt (definitions dir).mpr isDefined
      rw [Script.heading_eq_empty isDefined, Script.heading_eq_empty otherUndefined,
        Script.body_eq_nil isDefined, Script.body_eq_nil otherUndefined]
      exact ⟨rfl, rfl⟩
  exact
    { definitions := definitions
      references := fun dir => (statements.filterMap _).mem_iff
      heading := fun dir => (sameAlbum dir).1
      body := fun dir => (sameAlbum dir).2 }

theorem rootDirs_script {blocks : List Block} (distinct : (blocks.map key).Nodup) :
    Script.rootDirs (script blocks) = (unreferenced blocks).map key := by
  rw [Script.rootDirs_eq_filter (orderly_script distinct), definitions_script, unreferenced,
    List.filter_map]
  rfl

end Block

namespace Session

/-- Blocks that define different albums may stand in any order: a new session accepts
them, holds the same albums and comes to the same kind of verdict.  If moreover the
blocks of unreferenced albums keep their order, the manifest, the listing and the
verdict are the same. -/
theorem block_order_irrelevant (title description : String) {first second : List Block}
    (perm : first.Perm second) (distinct : (first.map Block.key).Nodup) :
    let fresh := start (Gallery.empty title description)
    let session := fresh.after (Block.script first)
    let other := fresh.after (Block.script second)
    (fresh.firstRefusal? (Block.script first) = none ∧
        fresh.firstRefusal? (Block.script second) = none) ∧
      session.SameAlbums other ∧
      session.check.mapError CheckError.kind = other.check.mapError CheckError.kind ∧
      (Block.unreferenced first = Block.unreferenced second →
        session.gallery.manifest = other.gallery.manifest ∧
          session.gallery.listingText = other.gallery.listingText ∧
          session.check = other.check) := by
  intro fresh session other
  have otherDistinct : (second.map Block.key).Nodup := (perm.map Block.key).nodup_iff.mp distinct
  have orderly := Block.orderly_script distinct
  have otherOrderly := Block.orderly_script otherDistinct
  have agree := Block.agree_of_perm perm distinct
  have means := means_after title description orderly
  have otherMeans := means_after title description otherOrderly
  refine ⟨⟨firstRefusal?_of_orderly title description orderly,
    firstRefusal?_of_orderly title description otherOrderly⟩,
    means.sameAlbums otherMeans agree, means.check_kind_eq otherMeans agree, ?_⟩
  intro sameOrder
  apply means.shows_same otherMeans agree
  rw [Block.rootDirs_script distinct, Block.rootDirs_script otherDistinct, sameOrder]

/-- Subalbums may be defined before or after the album that lists them. -/
theorem block_order_irrelevant_three_blocks :
    let parent : Block := ⟨"a", "A", "", [.subalbum "b", .subalbum "c/"], by decide⟩
    let shared : Block := ⟨"./b", "B", "", [.photo "p" "" "note"], by decide⟩
    let child : Block := ⟨"c", "C", "", [.subalbum "b"], by decide⟩
    [parent, shared, child].Perm [child, shared, parent] ∧
      ([parent, shared, child].map Block.key).Nodup ∧
      Block.unreferenced [parent, shared, child] = Block.unreferenced [child, shared, parent] ∧
      ((start (Gallery.empty "Jail" "")).after
          (Block.script [parent, shared, child])).gallery.listingText =
        ((start (Gallery.empty "Jail" "")).after
          (Block.script [child, shared, parent])).gallery.listingText := by
  intro parent shared child
  have perm : [parent, shared, child].Perm [child, shared, parent] := by decide +kernel
  have distinct : ([parent, shared, child].map Block.key).Nodup := by decide +kernel
  have sameOrder : Block.unreferenced [parent, shared, child] =
      Block.unreferenced [child, shared, parent] := by decide +kernel
  have same := block_order_irrelevant "Jail" "" perm distinct
  exact ⟨perm, distinct, sameOrder, (same.2.2.2 sameOrder).2.1⟩

end Session

end PhotoGallery
