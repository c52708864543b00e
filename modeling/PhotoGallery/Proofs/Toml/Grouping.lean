import PhotoGallery.Proofs.Toml.KeyPath
import Mathlib.Data.List.Triplewise

/-!
# Merging layers in groups

A value between two tables that is no table itself makes the order of merging count: laid over
the lower table first it hides it from the upper one, but the upper table hides the value if
these two are merged first.  Where no layer comes between two others in this way at any key
path, merging is associative, and however the layers are put into groups, the merge of all of
them is the one from the lowest layer upwards.
-/

namespace PhotoGallery.Toml

/-- At some key path the second value is no table, between tables of the two others. -/
def Interrupted (first second third : Value) : Prop :=
  ∃ path, first.HoldsTable path ∧ second.HoldsOther path ∧ third.HoldsTable path

theorem interrupted_iff {first second third : Value} :
    Interrupted first second third ↔
      ((∃ lower, first = .table lower) ∧ (∀ entries, second ≠ .table entries) ∧
        ∃ upper, third = .table upper) ∨
      ∃ key lower middle upper, first.get? key = some lower ∧ second.get? key = some middle ∧
        third.get? key = some upper ∧ Interrupted lower middle upper := by
  constructor
  · rintro ⟨path, lowerHolds, middleHolds, upperHolds⟩
    cases path with
    | nil =>
        exact Or.inl ⟨Value.holdsTable_nil_iff.mp lowerHolds,
          Value.holdsOther_nil_iff.mp middleHolds, Value.holdsTable_nil_iff.mp upperHolds⟩
    | cons key path =>
        obtain ⟨lower, isLower, belowLower⟩ := Value.holdsTable_cons_iff.mp lowerHolds
        obtain ⟨middle, isMiddle, belowMiddle⟩ := Value.holdsOther_cons_iff.mp middleHolds
        obtain ⟨upper, isUpper, belowUpper⟩ := Value.holdsTable_cons_iff.mp upperHolds
        exact Or.inr ⟨key, lower, middle, upper, isLower, isMiddle, isUpper, path, belowLower,
          belowMiddle, belowUpper⟩
  · rintro (⟨isLower, notTable, isUpper⟩ | ⟨key, lower, middle, upper, isLower, isMiddle,
      isUpper, path, belowLower, belowMiddle, belowUpper⟩)
    · exact ⟨[], Value.holdsTable_nil_iff.mpr isLower, Value.holdsOther_nil_iff.mpr notTable,
        Value.holdsTable_nil_iff.mpr isUpper⟩
    · exact ⟨key :: path, Value.holdsTable_cons_iff.mpr ⟨lower, isLower, belowLower⟩,
        Value.holdsOther_cons_iff.mpr ⟨middle, isMiddle, belowMiddle⟩,
        Value.holdsTable_cons_iff.mpr ⟨upper, isUpper, belowUpper⟩⟩

theorem Interrupted.exists_table {first second third : Value}
    (interrupted : Interrupted first second third) : ∃ entries, first = .table entries := by
  rcases interrupted_iff.mp interrupted with
    ⟨isTable, -⟩ | ⟨key, lower, middle, upper, isLower, -⟩
  · exact isTable
  · by_contra notTable
    rw [Value.get?_of_not_table (not_exists.mp notTable)] at isLower
    cases isLower

namespace Value.Tidy

theorem of_ordered {entries : List (String × Value)} (ordered : Ordered entries)
    (below : ∀ key value, Toml.get? key entries = some value → value.Tidy) :
    (Value.table entries).Tidy :=
  .table ordered fun entry member => below entry.1 entry.2 (ordered.mem_iff.mp member)

theorem merge {base overlay : Value} (tidy : base.Tidy) (above : overlay.Tidy) :
    (merge base overlay).Tidy := by
  induction above generalizing base with
  | other notTable =>
      rw [merge_of_not_table notTable]
      exact .other notTable
  | @table upper ordered upperBelow ih =>
      cases tidy with
      | other notTable =>
          rw [merge_over_not_table notTable]
          exact .table ordered upperBelow
      | @table lower lowerOrdered lowerBelow =>
          rw [Toml.merge]
          refine of_ordered (lowerOrdered.mergeEntries upper) fun key value held => ?_
          rw [get?_mergeEntries ordered] at held
          rcases Option.merge_eq_some_iff.mp held with
            ⟨isLower, -⟩ | ⟨-, isUpper⟩ | ⟨under, above, isLower, isUpper, rfl⟩
          · exact lowerBelow _ (mem_of_get? isLower)
          · exact upperBelow _ (mem_of_get? isUpper)
          · exact ih _ (mem_of_get? isUpper) (lowerBelow _ (mem_of_get? isLower))

end Value.Tidy

/-- Options are merged associatively if their values are. -/
theorem option_merge_assoc {α : Type} {combine : α → α → α} {first second third : Option α}
    (assoc : ∀ lower middle upper, first = some lower → second = some middle →
      third = some upper → combine (combine lower middle) upper =
        combine lower (combine middle upper)) :
    Option.merge combine (Option.merge combine first second) third =
      Option.merge combine first (Option.merge combine second third) := by
  cases first with
  | none => simp only [Option.merge_none_left]
  | some lower =>
      cases second with
      | none => simp only [Option.merge_none_left, Option.merge_none_right]
      | some middle =>
          cases third with
          | none => simp only [Option.merge_none_right]
          | some upper => exact congrArg some (assoc lower middle upper rfl rfl rfl)

theorem merge_assoc {first second third : Value} (firstTidy : first.Tidy)
    (secondTidy : second.Tidy) (thirdTidy : third.Tidy)
    (free : ¬ Interrupted first second third) :
    merge (merge first second) third = merge first (merge second third) := by
  induction thirdTidy generalizing first second with
  | other notTable =>
      rw [merge_of_not_table notTable, merge_of_not_table notTable, merge_of_not_table notTable]
  | @table upper upperOrdered upperBelow ih =>
      cases secondTidy with
      | other notTable =>
          -- The second value hides the first one from the third, so the first must be no table.
          have firstOther : ∀ entries, first ≠ .table entries := fun entries isTable =>
            free (interrupted_iff.mpr (Or.inl ⟨⟨entries, isTable⟩, notTable, ⟨upper, rfl⟩⟩))
          rw [merge_of_not_table notTable, merge_over_not_table notTable,
            merge_over_not_table firstOther]
      | @table middle middleOrdered middleBelow =>
          cases firstTidy with
          | other notTable =>
              rw [merge_over_not_table notTable, merge_over_not_table notTable]
          | @table lower lowerOrdered lowerBelow =>
              simp only [merge]
              have left := (lowerOrdered.mergeEntries middle).mergeEntries upper
              have right := lowerOrdered.mergeEntries (mergeEntries middle upper)
              refine congrArg Value.table (left.ext right fun key => ?_)
              rw [get?_mergeEntries upperOrdered, get?_mergeEntries middleOrdered,
                get?_mergeEntries (middleOrdered.mergeEntries upper),
                get?_mergeEntries upperOrdered]
              refine option_merge_assoc fun under between above isLower isMiddle isUpper => ?_
              refine ih _ (mem_of_get? isUpper) (lowerBelow _ (mem_of_get? isLower))
                (middleBelow _ (mem_of_get? isMiddle)) fun interrupted => free ?_
              exact interrupted_iff.mpr
                (Or.inr ⟨key, under, between, above, isLower, isMiddle, isUpper, interrupted⟩)

section Layers

variable {base above : Value} {layers later : List Value} {path : List String}

theorem Value.Alike.trans {value other another : Value} (alike : value.Alike other)
    (further : other.Alike another) : value.Alike another := by
  cases alike with
  | same => exact further
  | tables entries others =>
      cases further with
      | same => exact .tables _ _
      | tables => exact .tables _ _

theorem exists_alike_of_at?_merge {overlay held : Value} (tidy : overlay.Tidy)
    (holds : (merge base overlay).at? path = some held) :
    ∃ own, (base.at? path = some own ∨ overlay.at? path = some own) ∧ held.Alike own := by
  have passes : ¬ overlay.Blocks path := by
    intro blocked
    rw [at?_merge_of_blocks tidy blocked] at holds
    cases holds
  rw [at?_merge tidy passes] at holds
  rcases Option.merge_eq_some_iff.mp holds with
    ⟨isLower, -⟩ | ⟨-, isUpper⟩ | ⟨lower, upper, -, isUpper, rfl⟩
  · exact ⟨held, Or.inl isLower, .same held⟩
  · exact ⟨held, Or.inr isUpper, .same held⟩
  · exact ⟨upper, Or.inr isUpper, alike_merge lower upper⟩

/-- What merged layers hold at a path is, but for the entries of a table, what one of them
holds there. -/
theorem exists_alike_of_at?_mergeAll (tidy : ∀ layer ∈ layers, layer.Tidy) {held : Value}
    (holds : (mergeAll base layers).at? path = some held) :
    ∃ layer ∈ base :: layers, ∃ own, layer.at? path = some own ∧ held.Alike own := by
  induction layers using List.reverseRecOn generalizing held with
  | nil => exact ⟨base, List.mem_cons_self, held, holds, .same held⟩
  | append_singleton layers layer ih =>
      rw [mergeAll_append_singleton] at holds
      have layerTidy := tidy layer (by simp)
      obtain ⟨own, below | isOwn, alike⟩ := exists_alike_of_at?_merge layerTidy holds
      · obtain ⟨other, member, another, isOther, further⟩ :=
          ih (fun other member => tidy other (List.mem_append_left _ member)) below
        refine ⟨other, ?_, another, isOther, alike.trans further⟩
        rw [← List.cons_append]
        exact List.mem_append_left _ member
      · exact ⟨layer, by simp, own, isOwn, alike⟩

theorem holdsTable_of_mergeAll (tidy : ∀ layer ∈ layers, layer.Tidy)
    (holds : (mergeAll base layers).HoldsTable path) :
    ∃ layer ∈ base :: layers, layer.HoldsTable path := by
  obtain ⟨entries, isTable⟩ := holds
  obtain ⟨layer, member, own, isOwn, alike⟩ := exists_alike_of_at?_mergeAll tidy isTable
  cases alike with
  | same => exact ⟨layer, member, entries, isOwn⟩
  | tables _ others => exact ⟨layer, member, others, isOwn⟩

theorem holdsOther_of_mergeAll (tidy : ∀ layer ∈ layers, layer.Tidy)
    (holds : (mergeAll base layers).HoldsOther path) :
    ∃ layer ∈ base :: layers, layer.HoldsOther path := by
  obtain ⟨held, isHeld, notTable⟩ := holds
  obtain ⟨layer, member, own, isOwn, alike⟩ := exists_alike_of_at?_mergeAll tidy isHeld
  cases alike with
  | same => exact ⟨layer, member, held, isOwn, notTable⟩
  | tables entries => exact absurd rfl (notTable entries)

theorem tidy_mergeAll (tidy : ∀ layer ∈ base :: layers, layer.Tidy) :
    (mergeAll base layers).Tidy := by
  induction layers generalizing base with
  | nil => exact tidy base List.mem_cons_self
  | cons layer layers ih =>
      obtain ⟨baseTidy, layerTidy, layersTidy⟩ :=
        (List.forall_mem_cons.mp tidy).imp_right List.forall_mem_cons.mp
      exact ih (List.forall_mem_cons.mpr ⟨baseTidy.merge layerTidy, layersTidy⟩)

/-- No layer stands between two others as something else than a table. -/
def Uninterrupted (layers : List Value) : Prop :=
  layers.Triplewise fun first second third => ¬ Interrupted first second third

theorem not_interrupted_of_mergeAll {last : Value}
    (tidy : ∀ layer ∈ base :: layers ++ above :: later, layer.Tidy)
    (free : Uninterrupted (base :: layers ++ above :: later ++ [last])) :
    ¬ Interrupted (mergeAll base layers) (mergeAll above later) last := by
  rintro ⟨path, lowerHolds, middleHolds, upperHolds⟩
  obtain ⟨lowerTidy, middleTidy⟩ := List.forall_mem_append.mp tidy
  obtain ⟨first, isFirst, firstHolds⟩ :=
    holdsTable_of_mergeAll (List.forall_mem_cons.mp lowerTidy).2 lowerHolds
  obtain ⟨second, isSecond, secondHolds⟩ :=
    holdsOther_of_mergeAll (List.forall_mem_cons.mp middleTidy).2 middleHolds
  have pairs := (List.triplewise_append.mp free).2.2.2 last (List.mem_singleton_self last)
  exact (List.pairwise_append.mp pairs).2.2 first isFirst second isSecond
    ⟨path, firstHolds, secondHolds, upperHolds⟩

theorem merge_mergeAll (tidy : ∀ layer ∈ base :: layers ++ above :: later, layer.Tidy)
    (free : Uninterrupted (base :: layers ++ above :: later)) :
    merge (mergeAll base layers) (mergeAll above later) =
      mergeAll base (layers ++ above :: later) := by
  induction later using List.reverseRecOn with
  | nil => exact (mergeAll_append_singleton base layers above).symm
  | append_singleton later last ih =>
      rw [← List.cons_append, ← List.append_assoc] at tidy free
      obtain ⟨belowTidy, lastTidy⟩ := List.forall_mem_append.mp tidy
      obtain ⟨lowerTidy, middleTidy⟩ := List.forall_mem_append.mp belowTidy
      have belowFree : Uninterrupted (base :: layers ++ above :: later) :=
        (List.triplewise_append.mp free).1
      calc
        merge (mergeAll base layers) (mergeAll above (later ++ [last])) =
            merge (mergeAll base layers) (merge (mergeAll above later) last) := by
          rw [mergeAll_append_singleton]
        _ = merge (merge (mergeAll base layers) (mergeAll above later)) last :=
          (merge_assoc (tidy_mergeAll lowerTidy) (tidy_mergeAll middleTidy)
            (lastTidy last (List.mem_singleton_self last))
            (not_interrupted_of_mergeAll belowTidy free)).symm
        _ = merge (mergeAll base (layers ++ above :: later)) last := by rw [ih belowTidy belowFree]
        _ = mergeAll base (layers ++ above :: (later ++ [last])) := by
          rw [← mergeAll_append_singleton, List.append_assoc, List.cons_append]

end Layers

/-- Layers put into groups, each of which is merged before it is laid over another one. -/
inductive Grouping
  | layer (value : Value)
  | join (below above : Grouping)

namespace Grouping

/-- The layers of all groups, the lowest one first. -/
def layers : Grouping → List Value
  | layer value => [value]
  | join below above => below.layers ++ above.layers

def merged : Grouping → Value
  | layer value => value
  | join below above => merge below.merged above.merged

theorem layers_ne_nil (grouping : Grouping) : grouping.layers ≠ [] := by
  induction grouping with
  | layer value => exact List.cons_ne_nil value []
  | join below above ih _ => exact List.append_ne_nil_of_left_ne_nil ih above.layers

theorem merged_eq_mergeAll (grouping : Grouping) (tidy : ∀ layer ∈ grouping.layers, layer.Tidy)
    (free : Uninterrupted grouping.layers) {base : Value} {layers : List Value}
    (parts : grouping.layers = base :: layers) : grouping.merged = mergeAll base layers := by
  induction grouping generalizing base layers with
  | layer value =>
      cases parts
      rfl
  | join below above belowIH aboveIH =>
      obtain ⟨lowest, lower, belowParts⟩ := List.exists_cons_of_ne_nil below.layers_ne_nil
      obtain ⟨next, upper, aboveParts⟩ := List.exists_cons_of_ne_nil above.layers_ne_nil
      rw [Grouping.layers] at tidy free parts
      obtain ⟨belowTidy, aboveTidy⟩ := List.forall_mem_append.mp tidy
      obtain ⟨belowFree, aboveFree, -⟩ := List.triplewise_append.mp free
      rw [merged, belowIH belowTidy belowFree belowParts, aboveIH aboveTidy aboveFree aboveParts]
      rw [belowParts, aboveParts] at tidy free parts
      cases parts
      exact merge_mergeAll tidy free

end Grouping

/-- Three layers can be merged from either side if the middle one does not interrupt them, and
any number of layers can be merged in any groups if none of them interrupts two others. -/
theorem merge_respects_grouping :
    (∀ first second third : Value, first.Tidy → second.Tidy → third.Tidy →
      ¬ Interrupted first second third →
        merge (merge first second) third = merge first (merge second third)) ∧
    ∀ (grouping : Grouping) (base : Value) (layers : List Value),
      grouping.layers = base :: layers → (∀ layer ∈ base :: layers, layer.Tidy) →
        Uninterrupted (base :: layers) → grouping.merged = mergeAll base layers := by
  refine ⟨fun first second third => merge_assoc, ?_⟩
  intro grouping base layers parts tidy free
  rw [← parts] at tidy free
  exact grouping.merged_eq_mergeAll tidy free parts

/-- A number under a table under another table: the upper layers can be merged first. -/
theorem merge_respects_grouping_of_settings :
    let first : Value := .table [("page", .table [("size", .integer 3)])]
    let second : Value := .table [("page", .table [("size", .table [("width", .integer 1)])])]
    let third : Value := .table [("page", .table [("size", .table [("height", .integer 2)])])]
    (∀ layer ∈ [first, second, third], layer.Tidy) ∧ ¬ Interrupted first second third ∧
      Uninterrupted [first, second, third] ∧
      merge (merge first second) third = merge first (merge second third) ∧
      merge first (merge second third) = mergeAll first [second, third] := by
  intro first second third
  have single {key : String} {value : Value} (tidy : value.Tidy) :
      (Value.table [(key, value)]).Tidy :=
    .table (ordered_iff_keys.mpr (List.pairwise_singleton _ _)) (by simpa using tidy)
  have number (count : Int) : (Value.integer count).Tidy := .other (by simp)
  have tidy : ∀ layer ∈ [first, second, third], layer.Tidy := by
    simp only [List.forall_mem_cons, List.not_mem_nil, IsEmpty.forall_iff, implies_true, and_true]
    exact ⟨single (single (number 3)), single (single (single (number 1))),
      single (single (single (number 2)))⟩
  have inside {key : String} {lower middle upper : Value} (interrupted : Interrupted
      (.table [(key, lower)]) (.table [(key, middle)]) (.table [(key, upper)])) :
      Interrupted lower middle upper := by
    rcases interrupted_iff.mp interrupted with
      ⟨-, notTable, -⟩ | ⟨name, under, between, above, isLower, isMiddle, isUpper, below⟩
    · exact absurd rfl (notTable _)
    · simp only [Value.get?, get?, Option.ite_none_right_eq_some, Option.some.injEq] at *
      obtain ⟨-, rfl⟩ := isLower
      obtain ⟨-, rfl⟩ := isMiddle
      obtain ⟨-, rfl⟩ := isUpper
      exact below
  have free : ¬ Interrupted first second third := by
    intro interrupted
    obtain ⟨entries, ⟨⟩⟩ := (inside (inside interrupted)).exists_table
  have uninterrupted : Uninterrupted [first, second, third] := List.triplewise_triple.mpr free
  obtain ⟨three, groups⟩ := merge_respects_grouping
  exact ⟨tidy, free, uninterrupted,
    three first second third (tidy _ (by simp)) (tidy _ (by simp)) (tidy _ (by simp)) free,
    groups (.join (.layer first) (.join (.layer second) (.layer third))) first [second, third] rfl
      tidy uninterrupted⟩

/-- A number between two tables makes the order of merging count. -/
example :
    let first : Value := .table [("page", .table [("width", .integer 1)])]
    let second : Value := .table [("page", .integer 3)]
    let third : Value := .table [("page", .table [("height", .integer 2)])]
    (merge (merge first second) third).at? ["page", "width"] = none ∧
      (merge first (merge second third)).at? ["page", "width"] = some (.integer 1) :=
  ⟨rfl, rfl⟩

end PhotoGallery.Toml
