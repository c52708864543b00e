import PhotoGallery.Toml.Merge
import Mathlib.Data.List.Induction
import Mathlib.Data.List.Sort
import Mathlib.Data.String.Basic

/-!
# Tables and what they hold

A table lists its entries in the order of their keys.  Adding an entry and laying one table
over another keep this order, and a table that is laid over another one takes the place of
what is below it, key by key.  So the merge of many layers holds, under every key, what the
last layer with this key holds, or a table if that is a table.
-/

namespace PhotoGallery.Toml

section Entries

variable {α : Type} {entries : List (String × α)}

/-- The entries are in the order of their keys, each key once. -/
def Ordered (entries : List (String × α)) : Prop :=
  entries.Pairwise (·.1 < ·.1)

theorem ordered_iff_keys : Ordered entries ↔ (entries.map Prod.fst).Pairwise (· < ·) :=
  List.pairwise_map.symm

theorem get?_put (key other : String) (value : α) (entries : List (String × α)) :
    get? key (put other value entries) = if other = key then some value else get? key entries := by
  induction entries with
  | nil => rfl
  | cons entry later ih =>
      obtain ⟨name, old⟩ := entry
      simp only [put]
      split
      next isName =>
        subst isName
        by_cases same : name = key
        · simp [get?, same]
        · simp [get?, same]
      next notName =>
        split
        next isBefore => rfl
        next isAfter =>
          simp only [get?, ih]
          by_cases same : name = key
          · simp [same, Ne.symm (same ▸ notName)]
          · simp [same]

theorem mem_put {key : String} {value : α} {entry : String × α}
    (member : entry ∈ put key value entries) : entry = (key, value) ∨ entry ∈ entries := by
  induction entries with
  | nil => exact Or.inl (List.mem_singleton.mp member)
  | cons first later ih =>
      obtain ⟨name, old⟩ := first
      simp only [put] at member
      split at member
      next =>
        rcases List.mem_cons.mp member with isNew | isOld
        · exact Or.inl isNew
        · exact Or.inr (List.mem_cons_of_mem _ isOld)
      next =>
        split at member
        next => exact List.mem_cons.mp member
        next =>
          rcases List.mem_cons.mp member with rfl | below
          · exact Or.inr List.mem_cons_self
          · exact (ih below).imp_right (List.mem_cons_of_mem _)

theorem ordered_nil : Ordered ([] : List (String × α)) :=
  List.Pairwise.nil

theorem Ordered.put (ordered : Ordered entries) (key : String) (value : α) :
    Ordered (put key value entries) := by
  induction entries with
  | nil => exact List.pairwise_singleton _ _
  | cons first later ih =>
      obtain ⟨name, old⟩ := first
      obtain ⟨isFirst, laterOrdered⟩ := List.pairwise_cons.mp ordered
      simp only [Toml.put]
      split
      next isName => exact List.pairwise_cons.mpr ⟨isName ▸ isFirst, laterOrdered⟩
      next notName =>
        split
        next isBefore =>
          refine List.pairwise_cons.mpr ⟨fun entry member => ?_, ordered⟩
          rcases List.mem_cons.mp member with rfl | below
          · exact isBefore
          · exact lt_trans isBefore (isFirst entry below)
        next isAfter =>
          refine List.pairwise_cons.mpr ⟨fun entry member => ?_, ih laterOrdered⟩
          rcases mem_put member with rfl | below
          · exact lt_of_le_of_ne (not_lt.mp isAfter) notName
          · exact isFirst entry below

theorem ordered_sorted (entries : List (String × α)) : Ordered (sorted entries) := by
  suffices general : ∀ table : List (String × α), Ordered table →
      Ordered (entries.foldl (fun table entry => put entry.1 entry.2 table) table) from
    general [] ordered_nil
  induction entries with
  | nil => exact fun table ordered => ordered
  | cons entry later ih => exact fun table ordered => ih _ (ordered.put entry.1 entry.2)

theorem isSome_get?_iff {key : String} :
    (get? key entries).isSome = true ↔ ∃ entry ∈ entries, entry.1 = key := by
  induction entries with
  | nil => simp [get?]
  | cons entry later ih =>
      by_cases same : entry.1 = key
      · simp [get?, same]
      · simp [get?, same, ih]

/-- The key of the first entry is that of no other. -/
theorem Ordered.get?_head_eq_none {key : String} {value : α}
    (ordered : Ordered ((key, value) :: entries)) : get? key entries = none := by
  rw [← Option.not_isSome_iff_eq_none, isSome_get?_iff]
  rintro ⟨entry, member, sameKey⟩
  have isLess := (List.pairwise_cons.mp ordered).1 entry member
  rw [sameKey] at isLess
  exact lt_irrefl key isLess

theorem mem_keys_iff {key : String} :
    key ∈ entries.map Prod.fst ↔ (get? key entries).isSome = true := by
  rw [isSome_get?_iff, List.mem_map]

theorem mem_of_get? {key : String} {value : α} (held : get? key entries = some value) :
    (key, value) ∈ entries := by
  induction entries with
  | nil => cases held
  | cons entry later ih =>
      obtain ⟨name, first⟩ := entry
      rw [get?] at held
      split at held
      next isName =>
        cases held
        exact isName ▸ List.mem_cons_self
      next => exact List.mem_cons_of_mem _ (ih held)

theorem Ordered.mem_iff {key : String} {value : α} (ordered : Ordered entries) :
    (key, value) ∈ entries ↔ get? key entries = some value := by
  refine ⟨fun member => ?_, mem_of_get?⟩
  induction entries with
  | nil => cases member
  | cons entry later ih =>
      obtain ⟨isFirst, laterOrdered⟩ := List.pairwise_cons.mp ordered
      rcases List.mem_cons.mp member with rfl | below
      · rw [get?, if_pos rfl]
      · rw [get?, if_neg (isFirst _ below).ne]
        exact ih laterOrdered below

/-- A table in order is determined by what it holds under each key. -/
theorem Ordered.ext {others : List (String × α)} (ordered : Ordered entries)
    (otherOrdered : Ordered others) (same : ∀ key, get? key entries = get? key others) :
    entries = others := by
  have antisymm : @Std.Antisymm (String × α) (·.1 < ·.1) :=
    ⟨fun _ _ before after => absurd after before.asymm⟩
  have irrefl : @Std.Irrefl (String × α) (·.1 < ·.1) := ⟨fun _ => lt_irrefl _⟩
  refine List.Pairwise.eq_of_mem_iff ordered otherOrdered ?_
  rintro ⟨key, value⟩
  rw [ordered.mem_iff, otherOrdered.mem_iff, same]

end Entries

theorem merge_of_not_table {value : Value} (notTable : ∀ entries, value ≠ .table entries)
    (base : Value) : merge base value = value := by
  cases value with
  | table entries => exact absurd rfl (notTable entries)
  | _ => cases base <;> simp only [merge]

theorem get?_mergeEntries {overlay : List (String × Value)} (ordered : Ordered overlay)
    (base : List (String × Value)) (key : String) :
    get? key (mergeEntries base overlay) =
      Option.merge merge (get? key base) (get? key overlay) := by
  induction overlay generalizing base with
  | nil =>
      rw [mergeEntries]
      cases get? key base <;> rfl
  | cons entry later ih =>
      obtain ⟨name, value⟩ := entry
      have laterOrdered : Ordered later := (List.pairwise_cons.mp ordered).2
      rw [mergeEntries, ih laterOrdered, get?_put, get?]
      by_cases same : name = key
      · subst same
        rw [if_pos rfl, if_pos rfl, ordered.get?_head_eq_none]
        cases get? name base <;> rfl
      · rw [if_neg same, if_neg same]

theorem Ordered.mergeEntries {base : List (String × Value)} (ordered : Ordered base)
    (overlay : List (String × Value)) : Ordered (mergeEntries base overlay) := by
  induction overlay generalizing base with
  | nil => rwa [Toml.mergeEntries]
  | cons entry later ih =>
      rw [Toml.mergeEntries]
      exact ih (ordered.put _ _)

/-- The value is a table, with its entries in order. -/
inductive Value.IsTable : Value → Prop
  | table {entries : List (String × Value)} (ordered : Ordered entries) : IsTable (.table entries)

/-- What a value holds under a key, if it is a table. -/
def Value.get? (key : String) : Value → Option Value
  | .table entries => Toml.get? key entries
  | _ => none

/-- What the last layer that has a key holds under it. -/
def effective? (key : String) (base : Value) (layers : List Value) : Option Value :=
  (base :: layers).reverse.findSome? (Value.get? key)

theorem Value.IsTable.merge {base overlay : Value} (isTable : base.IsTable)
    (above : overlay.IsTable) : (merge base overlay).IsTable := by
  cases isTable with
  | table ordered =>
      cases above with
      | table overlayOrdered =>
          rw [Toml.merge]
          exact .table (ordered.mergeEntries _)

theorem merge_over_not_table {base : Value} (notTable : ∀ entries, base ≠ .table entries)
    (value : Value) : merge base value = value := by
  cases base with
  | table entries => exact absurd rfl (notTable entries)
  | _ => simp only [merge]

theorem Value.get?_of_not_table {value : Value} (notTable : ∀ entries, value ≠ .table entries)
    (key : String) : value.get? key = none := by
  cases value with
  | table entries => exact absurd rfl (notTable entries)
  | _ => rfl

theorem Value.IsTable.get?_merge {overlay : Value} (above : overlay.IsTable) (base : Value)
    (key : String) :
    (Toml.merge base overlay).get? key =
      Option.merge Toml.merge (base.get? key) (overlay.get? key) := by
  obtain ⟨ordered⟩ := above
  by_cases isTable : ∃ entries, base = .table entries
  · obtain ⟨entries, rfl⟩ := isTable
    rw [Toml.merge]
    exact get?_mergeEntries ordered entries key
  · have notTable := not_exists.mp isTable
    rw [merge_over_not_table notTable, get?_of_not_table notTable, Option.merge_none_left]

section Layers

variable {base : Value} {layers : List Value}

theorem effective?_append_singleton (key : String) (base : Value) (layers : List Value)
    (layer : Value) :
    effective? key base (layers ++ [layer]) =
      (layer.get? key).or (effective? key base layers) := by
  rw [effective?, effective?, ← List.cons_append, List.reverse_append, List.reverse_singleton,
    List.singleton_append, List.findSome?_cons]
  cases layer.get? key <;> rfl

theorem mergeAll_append_singleton (base : Value) (layers : List Value) (layer : Value) :
    mergeAll base (layers ++ [layer]) = merge (mergeAll base layers) layer := by
  rw [mergeAll, mergeAll, List.foldl_append]
  rfl

theorem isSome_effective?_iff {key : String} :
    (effective? key base layers).isSome = true ↔
      ∃ layer ∈ base :: layers, ∃ value, layer.get? key = some value := by
  rw [effective?, List.findSome?_isSome_iff]
  simp only [List.mem_reverse, Option.isSome_iff_exists]

theorem isTable_mergeAll (tables : ∀ layer ∈ base :: layers, layer.IsTable) :
    (mergeAll base layers).IsTable := by
  induction layers using List.reverseRecOn with
  | nil => exact tables base List.mem_cons_self
  | append_singleton layers layer ih =>
      rw [mergeAll_append_singleton]
      have below := ih fun other member =>
        tables other (by rw [← List.cons_append]; exact List.mem_append_left _ member)
      exact below.merge (tables layer (by simp))

/-- Two values are the same, except that both may be tables. -/
inductive Value.Alike : Value → Value → Prop
  | same (value : Value) : Alike value value
  | tables (entries others : List (String × Value)) : Alike (.table entries) (.table others)

theorem alike_merge (base value : Value) : (merge base value).Alike value := by
  cases base with
  | table entries =>
      cases value with
      | table others =>
          rw [merge]
          exact .tables _ _
      | _ =>
          rw [merge_of_not_table (by simp)]
          exact .same _
  | _ => simpa only [merge] using Value.Alike.same value

/-- Merged layers hold what the last of them holds. -/
theorem alike_get?_mergeAll (tables : ∀ layer ∈ base :: layers, layer.IsTable) (key : String) :
    Option.Rel Value.Alike ((mergeAll base layers).get? key) (effective? key base layers) := by
  induction layers using List.reverseRecOn with
  | nil =>
      have alone : effective? key base [] = base.get? key := by
        cases found : base.get? key <;> simp [effective?, found]
      rw [alone, show mergeAll base [] = base from rfl]
      cases base.get? key with
      | none => exact .none
      | some value => exact .some (.same value)
  | append_singleton layers layer ih =>
      have belowTables : ∀ other ∈ base :: layers, other.IsTable := fun other member =>
        tables other (by rw [← List.cons_append]; exact List.mem_append_left _ member)
      have below := ih belowTables
      rw [mergeAll_append_singleton, effective?_append_singleton,
        (tables layer (by simp)).get?_merge]
      cases layer.get? key with
      | none => simpa using below
      | some value =>
          cases (mergeAll base layers).get? key with
          | none => exact .some (.same value)
          | some lower => exact .some (alike_merge lower value)

theorem isSome_get?_mergeAll (tables : ∀ layer ∈ base :: layers, layer.IsTable) (key : String) :
    ((mergeAll base layers).get? key).isSome = (effective? key base layers).isSome := by
  have alike := alike_get?_mergeAll tables key
  generalize (mergeAll base layers).get? key = merged, effective? key base layers = last at alike
  cases alike <;> rfl

end Layers

end PhotoGallery.Toml
