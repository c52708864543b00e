import PhotoGallery.Proofs.Toml.Table

/-!
# Merging along key paths

A key path leads from a table to what it holds under a key, and on from there.  In a merge the
upper value counts at every path where it holds something, except that two tables become one
table with the keys of both.  Where the upper value holds nothing the lower one counts, unless
the upper value has something else than a table on the way, and then nothing is left.
-/

namespace PhotoGallery.Toml

namespace Value

/-- Every table that a key path leads to has its entries in order. -/
inductive Tidy : Value → Prop
  | table {entries : List (String × Value)} (ordered : Ordered entries)
      (below : ∀ entry ∈ entries, entry.2.Tidy) : Tidy (.table entries)
  | other {value : Value} (notTable : ∀ entries, value ≠ .table entries) : Tidy value

/-- What a key path leads to. -/
def at? : List String → Value → Option Value
  | [], value => some value
  | key :: path, value => (value.get? key).bind (at? path)

def HoldsTable (path : List String) (value : Value) : Prop :=
  ∃ entries, value.at? path = some (.table entries)

/-- The path leads to a value that is no table. -/
def HoldsOther (path : List String) (value : Value) : Prop :=
  ∃ held, value.at? path = some held ∧ ∀ entries, held ≠ .table entries

/-- The path goes on behind a value that is no table. -/
def Blocks (path : List String) (value : Value) : Prop :=
  ∃ before, before <+: path ∧ before ≠ path ∧ value.HoldsOther before

variable {value : Value} {key : String} {path : List String}

theorem Tidy.of_get? (tidy : value.Tidy) {below : Value} (held : value.get? key = some below) :
    below.Tidy := by
  cases tidy with
  | table ordered entriesTidy => exact entriesTidy (key, below) (mem_of_get? held)
  | other notTable =>
      rw [get?_of_not_table notTable] at held
      cases held

theorem holdsTable_nil_iff : value.HoldsTable [] ↔ ∃ entries, value = .table entries := by
  simp [HoldsTable, at?]

theorem holdsOther_nil_iff : value.HoldsOther [] ↔ ∀ entries, value ≠ .table entries := by
  simp [HoldsOther, at?]

theorem holdsTable_cons_iff :
    value.HoldsTable (key :: path) ↔
      ∃ below, value.get? key = some below ∧ below.HoldsTable path := by
  simp only [HoldsTable, at?, Option.bind_eq_some_iff]
  rw [exists_comm]
  simp only [exists_and_left]

theorem holdsOther_cons_iff :
    value.HoldsOther (key :: path) ↔
      ∃ below, value.get? key = some below ∧ below.HoldsOther path := by
  simp only [HoldsOther, at?, Option.bind_eq_some_iff, ← exists_and_right, and_assoc]
  rw [exists_comm]
  simp only [exists_and_left]

theorem not_blocks_nil (value : Value) : ¬ value.Blocks [] := by
  rintro ⟨before, isPrefix, different, -⟩
  exact different (List.prefix_nil.mp isPrefix)

theorem blocks_cons_iff :
    value.Blocks (key :: path) ↔
      (∀ entries, value ≠ .table entries) ∨ ∃ below, value.get? key = some below ∧
        below.Blocks path := by
  constructor
  · rintro ⟨before, isPrefix, different, holds⟩
    rcases List.prefix_cons_iff.mp isPrefix with rfl | ⟨rest, rfl, restPrefix⟩
    · exact Or.inl (holdsOther_nil_iff.mp holds)
    · obtain ⟨below, isBelow, belowHolds⟩ := holdsOther_cons_iff.mp holds
      have restDifferent : rest ≠ path := fun same => different (same ▸ rfl)
      exact Or.inr ⟨below, isBelow, rest, restPrefix, restDifferent, belowHolds⟩
  · rintro (notTable | ⟨below, isBelow, rest, restPrefix, different, holds⟩)
    · exact ⟨[], List.nil_prefix, (List.cons_ne_nil key path).symm,
        holdsOther_nil_iff.mpr notTable⟩
    · exact ⟨key :: rest, List.cons_prefix_cons.mpr ⟨rfl, restPrefix⟩,
        fun same => different (List.cons.inj same).2,
        holdsOther_cons_iff.mpr ⟨below, isBelow, holds⟩⟩

theorem at?_of_blocks (blocked : value.Blocks path) : value.at? path = none := by
  induction path generalizing value with
  | nil => exact absurd blocked (not_blocks_nil value)
  | cons key path ih =>
      rw [at?]
      rcases blocks_cons_iff.mp blocked with notTable | ⟨below, held, belowBlocks⟩
      · rw [get?_of_not_table notTable, Option.bind_none]
      · rw [held, Option.bind_some, ih belowBlocks]

theorem not_blocks_of_at? {held : Value} (holds : value.at? path = some held) :
    ¬ value.Blocks path := by
  intro blocked
  rw [at?_of_blocks blocked] at holds
  cases holds

end Value

section Merge

variable {overlay : Value} {path : List String}

theorem at?_merge (tidy : overlay.Tidy) (passes : ¬ overlay.Blocks path) (base : Value) :
    (merge base overlay).at? path =
      Option.merge merge (base.at? path) (overlay.at? path) := by
  induction path generalizing base overlay with
  | nil => rfl
  | cons key path ih =>
      cases tidy with
      | other notTable => exact absurd (Value.blocks_cons_iff.mpr (Or.inl notTable)) passes
      | table ordered below =>
          rw [Value.at?, Value.at?, Value.at?, (Value.IsTable.table ordered).get?_merge]
          -- Where only one of the two has the key, the rest of the path lies in its value alone.
          cases held : Value.get? key (.table _) with
          | none => simp
          | some value =>
              have valueTidy := Value.Tidy.of_get? (.table ordered below) held
              have valuePasses : ¬ value.Blocks path := fun blocked =>
                passes (Value.blocks_cons_iff.mpr (Or.inr ⟨value, held, blocked⟩))
              cases base.get? key with
              | none => simp
              | some lower => exact ih valueTidy valuePasses lower

theorem at?_merge_of_blocks (tidy : overlay.Tidy) (blocked : overlay.Blocks path)
    (base : Value) : (merge base overlay).at? path = none := by
  induction path generalizing base overlay with
  | nil => exact absurd blocked (Value.not_blocks_nil overlay)
  | cons key path ih =>
      cases tidy with
      | other notTable =>
          rw [merge_of_not_table notTable]
          exact Value.at?_of_blocks blocked
      | table ordered below =>
          rw [Value.at?, (Value.IsTable.table ordered).get?_merge]
          rcases Value.blocks_cons_iff.mp blocked with notTable | ⟨value, held, valueBlocks⟩
          · exact absurd rfl (notTable _)
          · have valueTidy := Value.Tidy.of_get? (.table ordered below) held
            rw [held]
            cases base.get? key with
            | none => exact Value.at?_of_blocks valueBlocks
            | some lower => exact ih valueTidy valueBlocks lower

/-- What a path leads to when one value was laid over another. -/
structure LaidOverAt (path : List String) (base overlay merged : Value) : Prop where
  upper : ∀ held, overlay.at? path = some held →
    overlay.HoldsOther path ∨ ¬ base.HoldsTable path → merged.at? path = some held
  /-- Two tables become one with the keys of both. -/
  tables : ∀ lowerEntries upperEntries, base.at? path = some (.table lowerEntries) →
    overlay.at? path = some (.table upperEntries) →
      ∃ entries, merged.at? path = some (.table entries) ∧
        ∀ key, key ∈ entries.map Prod.fst ↔
          key ∈ lowerEntries.map Prod.fst ∨ key ∈ upperEntries.map Prod.fst
  lower : overlay.at? path = none → ¬ overlay.Blocks path → merged.at? path = base.at? path
  blocked : overlay.Blocks path → merged.at? path = none

theorem Value.Tidy.of_at? {value held : Value} (tidy : value.Tidy)
    (holds : value.at? path = some held) : held.Tidy := by
  induction path generalizing value with
  | nil =>
      cases holds
      exact tidy
  | cons key path ih =>
      obtain ⟨below, isBelow, belowHolds⟩ := Option.bind_eq_some_iff.mp holds
      exact ih (tidy.of_get? isBelow) belowHolds

theorem mem_keys_mergeEntries_iff {lower upper : List (String × Value)} (ordered : Ordered upper)
    {key : String} :
    key ∈ (mergeEntries lower upper).map Prod.fst ↔
      key ∈ lower.map Prod.fst ∨ key ∈ upper.map Prod.fst := by
  rw [mem_keys_iff, mem_keys_iff, mem_keys_iff, get?_mergeEntries ordered]
  cases get? key lower <;> cases get? key upper <;> simp

theorem laidOverAt_merge (tidy : overlay.Tidy) (path : List String) (base : Value) :
    LaidOverAt path base overlay (merge base overlay) where
  upper held holds counts := by
    rw [at?_merge tidy (Value.not_blocks_of_at? holds), holds]
    cases below : base.at? path with
    | none => rfl
    | some lower =>
        refine congrArg some ?_
        rcases counts with ⟨other, otherHeld, notTable⟩ | noTable
        · cases holds.symm.trans otherHeld
          exact merge_of_not_table notTable lower
        · refine merge_over_not_table ?_ held
          rintro entries rfl
          exact noTable ⟨entries, below⟩
  tables lowerEntries upperEntries lowerHolds upperHolds := by
    cases tidy.of_at? upperHolds with
    | other notTable => exact absurd rfl (notTable upperEntries)
    | table ordered below =>
        refine ⟨mergeEntries lowerEntries upperEntries, ?_,
          fun key => mem_keys_mergeEntries_iff ordered⟩
        rw [at?_merge tidy (Value.not_blocks_of_at? upperHolds), lowerHolds, upperHolds]
        simp [merge]
  lower nothing passes := by
    rw [at?_merge tidy passes, nothing, Option.merge_none_right]
  blocked blocked := at?_merge_of_blocks tidy blocked base

end Merge

theorem merge_self {value : Value} (tidy : value.Tidy) : merge value value = value := by
  induction tidy with
  | other notTable => exact merge_of_not_table notTable _
  | table ordered below ih =>
      rw [merge]
      refine congrArg Value.table ((ordered.mergeEntries _).ext ordered fun key => ?_)
      rw [get?_mergeEntries ordered]
      cases held : get? key _ with
      | none => rfl
      | some value => exact congrArg some (ih (key, value) (mem_of_get? held))

theorem mergeEntries_nil_left {entries : List (String × Value)} (ordered : Ordered entries) :
    mergeEntries [] entries = entries := by
  refine (ordered_nil.mergeEntries entries).ext ordered fun key => ?_
  rw [get?_mergeEntries ordered, get?, Option.merge_none_left]

/-- Merging is decided path by path.  So merging a value with itself changes nothing, and nor
does an empty table above or below another table. -/
theorem merge_follows_key_paths {overlay : Value} (tidy : overlay.Tidy) :
    (∀ path base, LaidOverAt path base overlay (merge base overlay)) ∧
      merge overlay overlay = overlay ∧
      ∀ entries, overlay = .table entries →
        merge overlay (.table []) = overlay ∧ merge (.table []) overlay = overlay := by
  refine ⟨laidOverAt_merge tidy, merge_self tidy, ?_⟩
  rintro entries rfl
  cases tidy with
  | other notTable => exact absurd rfl (notTable entries)
  | table ordered below =>
      rw [merge, mergeEntries, merge, mergeEntries_nil_left ordered]
      exact ⟨rfl, rfl⟩

/-- A table over a number, a text over a table, and a table over a table with other keys. -/
theorem merge_follows_key_paths_mixed :
    let base : Value := .table [("albums", .table [("x", .integer 5)]),
      ("page", .table [("size", .integer 3), ("title", .text "A")])]
    let overlay : Value := .table [("albums", .text "none"),
      ("page", .table [("size", .table [("width", .integer 1)])])]
    overlay.Tidy ∧
      (merge base overlay).at? ["page", "size"] = some (.table [("width", .integer 1)]) ∧
      (∃ entries, (merge base overlay).at? ["page"] = some (.table entries) ∧
        ∀ key, key ∈ entries.map Prod.fst ↔ key ∈ ["size", "title"] ∨ key ∈ ["size"]) ∧
      (merge base overlay).at? ["page", "title"] = some (.text "A") ∧
      (merge base overlay).at? ["albums", "x"] = none ∧
      merge overlay overlay = overlay := by
  intro base overlay
  have sizeTidy : (Value.table [("width", Value.integer 1)]).Tidy :=
    .table (ordered_iff_keys.mpr (List.pairwise_singleton _ _)) (by simp [Value.Tidy.other])
  have pageTidy : (Value.table [("size", .table [("width", Value.integer 1)])]).Tidy :=
    .table (ordered_iff_keys.mpr (List.pairwise_singleton _ _)) (by simp [sizeTidy])
  have tidy : overlay.Tidy := by
    refine .table (ordered_iff_keys.mpr ?_) (by simp [Value.Tidy.other, pageTidy])
    change ["albums", "page"].Pairwise (· < ·)
    decide
  obtain ⟨paths, self, -⟩ := merge_follows_key_paths tidy
  have noSizeBelow : ¬ base.HoldsTable ["page", "size"] := by
    rintro ⟨entries, ⟨⟩⟩
  have titlePasses : ¬ overlay.Blocks ["page", "title"] := by
    simp [overlay, Value.blocks_cons_iff, Value.not_blocks_nil, Value.get?, get?]
  have albumsBlocked : overlay.Blocks ["albums", "x"] :=
    ⟨["albums"], by decide, by decide, .text "none", rfl, by simp⟩
  exact ⟨tidy, (paths _ base).upper _ rfl (Or.inr noSizeBelow),
    (paths ["page"] base).tables [("size", .integer 3), ("title", .text "A")]
      [("size", .table [("width", .integer 1)])] rfl rfl,
    (paths _ base).lower rfl titlePasses, (paths _ base).blocked albumsBlocked, self⟩

end PhotoGallery.Toml
